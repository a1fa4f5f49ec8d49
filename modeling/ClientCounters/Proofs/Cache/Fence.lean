/-
# A cleared cache starts afresh

Slots come into the cache when they are made and at no other time (`Coherent.mem_resident`), so that
a slot that is no longer registered is never registered again (`Coherent.stays_out`).  Behind a
clearing the cache knows only slots that are made later: a call that obtains its slot there gets one
of them, and what it returns comes from a run of the parser that starts behind the clearing, too
(`Afresh.madeIn`).  A run is known by its number, and it has one outcome; if it was given up for
being too slow, then this is all that any call ever gets of it (`Ran.outcome_unique`).
-/
import ClientCounters.Proofs.Cache.Progress
import ClientCounters.Proofs.Cache.Residence
import ClientCounters.Proofs.Cache.Runs

namespace ClientCounters

namespace Cache

namespace Shared

variable {s t u : Shared} {h : List Event} {e : Event} {slot : SlotId} {key : String}
  {call : Call} {o : Outcome} {a : Step} {as pre post : List Step}

/-! ## Slots that are no longer registered -/

/-- A slot that is not registered, after it was made, is not registered at any later time. -/
theorem Coherent.stays_out (hs : s.Coherent) (hrun : s.run? as = some t)
    (hmade : s.cache.keyOf? slot = some key) (hout : (key, slot) ∉ s.cache.resident) :
    ∀ k, (k, slot) ∉ t.cache.resident := by
  have hlater : t.cache.keyOf? slot = some key ∧ (key, slot) ∉ t.cache.resident := by
    refine hs.run_induction (P := fun _ u =>
      u.cache.keyOf? slot = some key ∧ (key, slot) ∉ u.cache.resident) ⟨hmade, hout⟩ ?_ hrun
    rintro h u e v ⟨hkey, hnot⟩ hu hm
    refine ⟨(hu.grows hm).keyOf?_eq hkey, fun hmem => ?_⟩
    rcases hu.mem_resident hm hmem with hold | hnew
    · exact hnot hold
    · rw [hkey] at hnew
      cases hnew
  intro k hmem
  -- a slot is registered with the text that it was made for, if at all
  have hk : t.cache.keyOf? slot = some k := (hs.run hrun).wellFormed.keyOf?_eq _ hmem
  obtain rfl : key = k := Option.some.inj (hlater.1.symm.trans hk)
  exact hlater.2 hmem

/-- What the cache gives up is not registered behind the step. -/
lemma GivesUp.not_mem {entry : String × SlotId} (hgives : s.GivesUp a entry) (hs : s.Coherent)
    (hstep : s.step? a = some t) : entry ∉ t.cache.resident := by
  rcases hgives with rfl | ⟨id, key, rfl, hnone, hfull, hlast⟩
  · rw [← Option.some.inj hstep]
    exact List.not_mem_nil
  · have hvictim : s.cache.victim? key = some entry :=
      victim?_eq_some_iff.2 ⟨hnone, hfull, hlast⟩
    have hkey : entry.1 ≠ key := slotOf?_eq_none_iff.1 hnone entry (List.mem_of_getLast? hlast)
    obtain ⟨e, he, hm⟩ := move_of_step? hstep
    obtain rfl := Option.some.inj he
    rw [hs.resident_eq hm, Event.residents, hvictim, List.mem_cons, List.mem_filter]
    rintro (rfl | ⟨-, hstays⟩)
    · exact hkey rfl
    · exact (of_decide_eq_true hstays).2 rfl

/-- A call whose slot the cache gives up, or has given up before, holds a slot that is not
registered at any later time. -/
lemma Coherent.abandoned (hs : s.Coherent) (hrun : s.run? (a :: as) = some t)
    (hcall : call ∈ s.calls)
    (hgone : s.GivesUp a (call.key, call.slot) ∨ (call.key, call.slot) ∉ s.cache.resident) :
    ∀ k, (k, call.slot) ∉ t.cache.resident := by
  have hmade := (hs.fits call hcall).keyOf?_eq
  rcases hgone with hgives | hout
  · obtain ⟨u, hstep, hrest⟩ := Option.bind_eq_some_iff.1 hrun
    obtain ⟨e, -, hm⟩ := move_of_step? hstep
    exact (hs.move hm).stays_out hrest ((hs.grows hm).keyOf?_eq hmade) (hgives.not_mem hs hstep)
  · exact hs.stays_out hrun hmade hout

/-! ## Behind a clearing -/

/-- Since some state all slots in use are new: those that are registered, and those that calls have
obtained in the meantime. -/
structure Afresh (s : Shared) (h : List Event) (t : Shared) : Prop where
  grows : s.cache.Grows t.cache
  resident : ∀ entry ∈ t.cache.resident, s.cache.keyOf? entry.2 = none
  obtained : ∀ call victim, .obtained call victim ∈ h → s.cache.keyOf? call.slot = none

lemma Afresh.move (ha : Afresh s h t) (ht : t.Coherent) (hm : Move t e u) :
    Afresh s (h ++ [e]) u := by
  have hresident : ∀ entry ∈ u.cache.resident, s.cache.keyOf? entry.2 = none := by
    intro entry hmem
    rcases ht.mem_resident hm hmem with hold | hnew
    · exact ha.resident entry hold
    · cases hkey : s.cache.keyOf? entry.2 with
      | none => rfl
      | some key =>
        rw [ha.grows.keyOf?_eq hkey] at hnew
        cases hnew
  refine ⟨ha.grows.trans (ht.grows hm), hresident, fun call victim hmem => ?_⟩
  rw [List.mem_append, List.mem_singleton] at hmem
  rcases hmem with hold | rfl
  · exact ha.obtained call victim hold
  · -- the slot that a call has just obtained is registered
    have hregistered : (call.key, call.slot) ∈ u.cache.resident := by
      rw [ht.resident_eq hm]
      exact List.mem_cons_self
    exact hresident _ hregistered

/-- From a state without registrations on all slots in use are new. -/
lemma afresh_of_run? (hs : s.Coherent) (hempty : s.cache.resident = [])
    (hrun : s.run? as = some t) : Afresh s (s.history as) t := by
  refine hs.run_induction ⟨Grows.refl _, ?_, fun _ _ hmem => absurd hmem List.not_mem_nil⟩
    (fun _ _ _ _ ha ht hm => ha.move ht hm) hrun
  rw [hempty]
  exact fun _ hmem => absurd hmem List.not_mem_nil

/-- The history tells of the run of the parser that an answer comes from, from its start on: of the
run for the text and the slot of the call that returned what the call returns, or of the run of the
call itself that crashed. -/
def MadeIn (h : List Event) (call : Call) : Answer → Prop
  | .returned o => ∃ runner, runner.phase = .parsing o.run ∧ runner.slot = call.slot ∧
      runner.key = call.key ∧ .started runner ∈ h ∧ .filled runner o ∈ h
  | .crashed => .started call ∈ h ∧ .crashed call ∈ h

section Run

variable {capacity : Nat} {hpos : 0 < capacity} {limit : Option Duration}

/-- A call with a new slot is answered by a new run. -/
lemma madeIn_of_new (hs : (unused capacity hpos limit).run? pre = some s)
    (ht : s.run? post = some t) {answer : Answer} (hanswer : (call, answer) ∈ t.answers)
    (hnew : s.cache.keyOf? call.slot = none) : MadeIn (s.history post) call answer := by
  have hrun : (unused capacity hpos limit).run? (pre ++ post) = some t := by
    rw [run?_append, hs, Option.bind_some, ht]
  have hct := coherent_of_run? hrun
  have hr := ran_of_run? hrun
  have htr := traced_of_run? hrun
  rw [history_append hs] at hr htr
  -- what happened before the slot was made had nothing to do with it
  have hlater : ∀ e ∈ (unused capacity hpos limit).history pre ++ s.history post,
      ∀ mover, e.call? = some mover → mover.slot = call.slot → e ∈ s.history post := by
    intro e he mover hmover hslot
    rcases List.mem_append.1 he with hold | hold
    · have hkey := (ran_of_run? hs).keyOf?_eq e hold mover hmover
      rw [hslot, hnew] at hkey
      cases hkey
    · exact hold
  cases answer with
  | returned o =>
    obtain ⟨runner, hstarted, hfilled, hslot, hkey⟩ :=
      hr.exists_fill (hct.outcomeIn?_eq call o hanswer)
    have hsame : runner.key = call.key :=
      Option.some.inj (hkey.symm.trans (hct.keyOf?_eq call _ hanswer))
    exact ⟨runner, (hr.filled runner o hfilled).1, hslot, hsame,
      hlater _ hstarted runner rfl hslot, hlater _ hfilled runner rfl hslot⟩
  | crashed =>
    have hcrashed := htr.crashes call hanswer
    have hstarted := (hr.crashed call hcrashed).2
    exact ⟨hlater _ hstarted call rfl rfl, hlater _ hcrashed call rfl rfl⟩

/-- Behind a clearing a call is answered by a run that starts behind it. -/
lemma madeIn_of_clear (hs : (unused capacity hpos limit).run? (pre ++ [.clear]) = some s)
    (ht : s.run? post = some t) {answer : Answer} (hanswer : (call, answer) ∈ t.answers)
    (hopened : Opened (s.history post) call) : MadeIn (s.history post) call answer := by
  have hempty : s.cache.resident = [] := by
    rw [run?_append] at hs
    obtain ⟨r, -, hclear⟩ := Option.bind_eq_some_iff.1 hs
    obtain rfl : { r with cache := r.cache.clear } = s := Option.some.inj hclear
    rfl
  obtain ⟨victim, hobtained⟩ := hopened
  have hnew := (afresh_of_run? (coherent_of_run? hs) hempty ht).obtained _ victim hobtained
  exact madeIn_of_new hs ht hanswer hnew

/-! ## Runs that were given up -/

/-- The late result of a run that exceeded the limit is the answer to no call. -/
lemma late_result_lost {id : CallId} {r : ParserRun} {number : Nat} {d : Duration}
    (hs : (unused capacity hpos limit).run? pre = some s)
    (hrun : (unused capacity hpos limit).run? (pre ++ .finish id r :: post) = some t)
    (hcall : s.call? id = some call) (hphase : call.phase = .parsing number)
    (hlimit : s.cache.limit = some d) (hlate : d.nanoseconds < r.elapsed.nanoseconds)
    {other : Call} (hanswer : (other, .returned o) ∈ t.answers) (hnumber : o.run = number) :
    o.result = .error (.timeout d) := by
  have hsettle : r.settle s.cache.limit = .returned (.error (.timeout d)) := by
    rw [hlimit, ParserRun.settle, if_pos hlate]
  have hgiven : .filled call ⟨number, .error (.timeout d)⟩ ∈
      (unused capacity hpos limit).history (pre ++ .finish id r :: post) := by
    have htail := hrun
    rw [run?_append, hs, Option.bind_some] at htail
    obtain ⟨u, hstep, -⟩ := Option.bind_eq_some_iff.1 htail
    refine mem_history hs hstep ?_ post
    simp [event?, hcall, hphase, hsettle]
  have hr := ran_of_run? hrun
  obtain ⟨runner, -, hfilled, -⟩ :=
    hr.exists_fill ((coherent_of_run? hrun).outcomeIn?_eq other o hanswer)
  rw [hr.outcome_unique hfilled hgiven hnumber]

/-! ## Clearing and giving up -/

/-- **A clearing is a fence, and what was given up stays given up.**  In every run of a cache in use,
whatever is looked up and cleared while the parser runs:

* a call that obtains its slot behind a clearing is answered by a run of the parser that starts
  behind it;
* a slot that is given up while calls hold it, because the cache is cleared or full, is never
  registered again;
* yet the run of the parser for it can end, registered or not, and then all calls that hold the slot
  can return what it returned;
* of a run that exceeds the time limit no call returns anything but the timeout. -/
theorem clear_is_fence (hrun : (unused capacity hpos limit).run? as = some t) :
    (∀ pre post s, as = pre ++ .clear :: post →
      (unused capacity hpos limit).run? (pre ++ [.clear]) = some s →
      ∀ call answer, (call, answer) ∈ t.answers → Opened (s.history post) call →
        MadeIn (s.history post) call answer) ∧
    (∀ pre a post s, as = pre ++ a :: post → (unused capacity hpos limit).run? pre = some s →
      ∀ call ∈ s.calls,
        s.GivesUp a (call.key, call.slot) ∨ (call.key, call.slot) ∉ s.cache.resident →
        ∀ key, (key, call.slot) ∉ t.cache.resident) ∧
    (∀ id call number r result, t.call? id = some call → call.phase = .parsing number →
      r.settle limit = .returned result →
      ∃ u, t.step? (.finish id r) = some u ∧
        u.cache.outcomeIn? call.slot = some ⟨number, result⟩ ∧
        u.cache.resident = t.cache.resident ∧
        ∀ other ∈ t.calls, other.slot = call.slot → u.CanReturn other ⟨number, result⟩) ∧
    ∀ pre post s id call number r d, as = pre ++ .finish id r :: post →
      (unused capacity hpos limit).run? pre = some s → s.call? id = some call →
      call.phase = .parsing number → limit = some d → d.nanoseconds < r.elapsed.nanoseconds →
      ∀ other o, (other, .returned o) ∈ t.answers → o.run = number →
        o.result = .error (.timeout d) := by
  refine ⟨?_, ?_, ?_, ?_⟩
  · rintro pre post s rfl hs call answer hanswer hopened
    rw [← List.singleton_append, ← List.append_assoc, run?_append, hs, Option.bind_some] at hrun
    exact madeIn_of_clear hs hrun hanswer hopened
  · rintro pre a post s rfl hs call hcall hgone
    rw [run?_append, hs, Option.bind_some] at hrun
    exact (coherent_of_run? hs).abandoned hrun hcall hgone
  · intro id call number r result hcall hphase hreturn
    rw [← (bounds_of_run? hrun).2] at hreturn
    exact (coherent_of_run? hrun).step_of_return hcall hphase hreturn
  · rintro pre post s id call number r d rfl hs hcall hphase hlimit hlate other o hanswer hnumber
    rw [← (bounds_of_run? hs).2] at hlimit
    exact late_result_lost hs hrun hcall hphase hlimit hlate hanswer hnumber

/-- The cache is cleared while the first call runs the parser and the second one waits for it: both
return the old outcome, and a call behind the clearing returns a new one.  In between a run takes too
long. -/
theorem clear_is_fence_of_old_run :
    let start : Shared := unused 1 Nat.one_pos (some ⟨20⟩)
    let before : List Step := [.obtain 0 "k", .look 0, .start 0, .obtain 1 "k", .look 1]
    let slow : ParserRun := { elapsed := ⟨30⟩, reply := .returned (.ok { name := "late" }) }
    let behind : List Step := [.finish 0 { reply := .returned (.ok { name := "old" }) }, .take 1,
      .obtain 2 "k", .look 2, .start 2]
    let after : List Step := behind ++ .finish 2 slow :: [.discard 2, .obtain 3 "k", .look 3,
      .start 3, .finish 3 { reply := .returned (.ok { name := "new" }) }]
    ∃ s t, start.run? (before ++ [.clear]) = some s ∧
      start.run? (before ++ .clear :: after) = some t ∧
      (⟨1, "k", 0, .waiting⟩, .returned ⟨0, .ok { name := "old" }⟩) ∈ t.answers ∧
      MadeIn (s.history after) ⟨3, "k", 2, .parsing 2⟩ (.returned ⟨2, .ok { name := "new" }⟩) ∧
      (∀ key, (key, 0) ∉ t.cache.resident) ∧
      ∀ other o, (other, .returned o) ∈ t.answers → o.run = 1 →
        o.result = .error (.timeout ⟨20⟩) := by
  intro start before slow behind after
  -- what is to be computed about the states on the way
  have hways : ((start.run? before).any fun r => (start.run? (before ++ [.clear])).any fun s =>
      (start.run? (before ++ .clear :: behind)).any fun u =>
      (start.run? (before ++ .clear :: after)).any fun t =>
      decide (⟨0, "k", 0, .parsing 0⟩ ∈ r.calls) &&
      decide (.obtained ⟨3, "k", 2, .obtained⟩ none ∈ s.history after) &&
      decide (u.call? 2 = some ⟨2, "k", 1, .parsing 1⟩) &&
      decide ((⟨1, "k", 0, .waiting⟩, .returned ⟨0, .ok { name := "old" }⟩) ∈ t.answers) &&
      decide ((⟨3, "k", 2, .parsing 2⟩, .returned ⟨2, .ok { name := "new" }⟩) ∈ t.answers)) =
        true := by
    decide +kernel +zetaReduce
  obtain ⟨r, hr, hways⟩ := (Option.any_eq_true _ _).1 hways
  obtain ⟨s, hs, hways⟩ := (Option.any_eq_true _ _).1 hways
  obtain ⟨u, hu, hways⟩ := (Option.any_eq_true _ _).1 hways
  obtain ⟨t, ht, hways⟩ := (Option.any_eq_true _ _).1 hways
  simp only [Bool.and_eq_true, decide_eq_true_iff] at hways
  obtain ⟨⟨⟨⟨hrunner, hobtained⟩, hslow⟩, hold⟩, hnew⟩ := hways
  obtain ⟨hfence, hout, -, hlate⟩ := clear_is_fence ht
  refine ⟨s, t, hs, ht, hold, ?_, ?_, ?_⟩
  · exact hfence before after s rfl hs _ _ hnew ⟨none, hobtained⟩
  · exact hout before .clear after r rfl hr _ hrunner (.inl (.inl rfl))
  · have hsteps : before ++ .clear :: after = (before ++ .clear :: behind) ++ .finish 2 slow ::
        [.discard 2, .obtain 3 "k", .look 3, .start 3,
          .finish 3 { reply := .returned (.ok { name := "new" }) }] := rfl
    exact hlate _ _ u 2 _ 1 slow ⟨20⟩ hsteps hu hslow rfl rfl (by decide)

end Run

end Shared

end Cache

end ClientCounters
