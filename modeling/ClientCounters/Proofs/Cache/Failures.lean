/-
# Failures are not remembered

A run of the parser ends with a descriptor, which stays in its slot, or in one of three other ways.
An error goes into the slot, too, but the call that made the run owes to take the slot out again,
and until then it is under way (`Owed`).  A run that takes too long ends with an error.  A crash
leaves the slot empty, and with a time limit it is an error as well.  So when no call is under way,
there is a descriptor in every registered slot, or nothing but crashes have come of it
(`Tracked.onlyCrashed`).
-/
import ClientCounters.Proofs.Cache.Progress
import ClientCounters.Proofs.Cache.Residence
import ClientCounters.Proofs.Cache.Runs

namespace ClientCounters

/-- Only without a time limit is a crash left to the caller. -/
lemma ParserRun.eq_none_of_settle {limit : Option Duration} {r : ParserRun}
    (h : r.settle limit = .crashed) : limit = none := by
  cases limit with
  | none => rfl
  | some d =>
    rw [settle] at h
    split at h
    · cases h
    · split at h <;> cases h

/-- With a time limit a crash in time is an error of the parser. -/
lemma ParserRun.settle_of_crash {d : Duration} {r : ParserRun} (hreply : r.reply = .crashed)
    (htime : r.elapsed.nanoseconds ≤ d.nanoseconds) :
    r.settle (some d) = .returned (.error (.parser lostReply)) := by
  rw [settle, if_neg (Nat.not_lt.2 htime), hreply]

namespace Cache

/-- The call that makes a step, as it was before it; a call that obtains its slot is new. -/
def Event.mover? : Event → Option Call
  | obtained _ _ => none
  | started call => some { call with phase := .waiting }
  | e => e.call?

namespace Shared

variable {s t : Shared} {h : List Event} {e : Event} {slot : SlotId} {key : String}
  {call runner : Call} {o : Outcome} {as : List Step}

/-! ## Calls that stay as they are -/

lemma mem_answer_of_ne {c : Cache} {answer : Answer} {other : Call} (hother : other ∈ s.calls)
    (hid : other.id ≠ call.id) : other ∈ (s.answer call c answer).calls :=
  mem_others.2 ⟨hother, hid⟩

/-- A call stays as it is unless it makes the step itself. -/
lemma Coherent.stays_or_moves (hs : s.Coherent) (hm : Move s e t) (hcall : call ∈ s.calls) :
    call ∈ t.calls ∨ e.mover? = some call := by
  -- the caller that makes the step has one call only
  have hone {mover : Call} (hmover : s.call? mover.id = some mover) :
      call.id ≠ mover.id ∨ mover = call := by
    by_cases hid : call.id = mover.id
    · exact .inr (List.inj_on_of_nodup_map hs.nodup (mem_of_call? hmover) hcall hid.symm)
    · exact .inl hid
  cases hm with
  | obtain _ => exact .inl (List.mem_cons_of_mem _ hcall)
  | hit hfound _ _ _ =>
    exact (hone hfound).imp (mem_answer_of_ne hcall) (congrArg some)
  | miss hfound _ _ =>
    exact (hone hfound).imp (mem_update_of_ne hcall) (congrArg some)
  | @start mover hfound hphase _ _ =>
    refine (hone hfound).imp (mem_update_of_ne hcall) ?_
    rintro rfl
    show some { mover with phase := Phase.waiting } = some mover
    rw [← hphase]
  | fill hfound _ _ =>
    exact (hone hfound).imp (mem_receive_of_ne hcall) (congrArg some)
  | crash hfound _ _ =>
    exact (hone hfound).imp (mem_answer_of_ne hcall) (congrArg some)
  | take hfound _ _ =>
    exact (hone hfound).imp (mem_receive_of_ne hcall) (congrArg some)
  | discard hfound _ =>
    exact (hone hfound).imp (mem_answer_of_ne hcall) (congrArg some)
  | clear => exact .inl hcall

/-- A step is made in a phase of the call that it belongs to. -/
lemma Move.advances_mover (hm : Move s e t) (hmover : e.mover? = some call) :
    ∃ next, Advances (some call.phase) e.kind next := by
  cases hm with
  | obtain _ => cases hmover
  | hit _ hphase _ _ =>
    obtain rfl := Option.some.inj hmover
    rw [hphase]
    exact ⟨_, .hit⟩
  | miss _ hphase _ =>
    obtain rfl := Option.some.inj hmover
    rw [hphase]
    exact ⟨_, .missed⟩
  | start _ hphase _ _ =>
    obtain rfl := Option.some.inj hmover
    exact ⟨_, .started 0⟩
  | @fill _ o _ _ hphase _ =>
    obtain rfl := Option.some.inj hmover
    rw [hphase]
    exact ⟨_, .filled o.run⟩
  | @crash _ number _ _ hphase _ =>
    obtain rfl := Option.some.inj hmover
    rw [hphase]
    exact ⟨_, .crashed number⟩
  | take _ hphase _ =>
    obtain rfl := Option.some.inj hmover
    rw [hphase]
    exact ⟨_, .taken⟩
  | @discard _ number error _ hphase =>
    obtain rfl := Option.some.inj hmover
    rw [hphase]
    exact ⟨_, .discarded number error⟩
  | clear => cases hmover

/-- A call that owes to take its slot out does so or goes on owing it. -/
lemma Coherent.owes_or_discarded (hs : s.Coherent) (hm : Move s e t) (hcall : call ∈ s.calls)
    {number : Nat} {error : ParseError} (hphase : call.phase = .owesDiscard number error) :
    call ∈ t.calls ∨ e = .discarded call := by
  rcases hs.stays_or_moves hm hcall with hstays | hmover
  · exact .inl hstays
  · obtain ⟨next, hkind⟩ := hm.advances_mover hmover
    rw [hphase] at hkind
    generalize hk : e.kind = kind at hkind
    cases hkind
    cases e with
    | discarded mover => exact .inr (congrArg Event.discarded (Option.some.inj hmover))
    | _ => cases hk

/-- A run of the parser goes on or ends. -/
lemma Coherent.runs_or_ended (hs : s.Coherent) (hm : Move s e t) (hcall : runner ∈ s.calls)
    (hphase : runner.phase.isParsing) :
    runner ∈ t.calls ∨ e = .crashed runner ∨ ∃ o, e = .filled runner o := by
  rcases hs.stays_or_moves hm hcall with hstays | hmover
  · exact .inl hstays
  · obtain ⟨number, hphase⟩ := isParsing_iff.1 hphase
    obtain ⟨next, hkind⟩ := hm.advances_mover hmover
    rw [hphase] at hkind
    generalize hk : e.kind = kind at hkind
    right
    cases hkind with
    | crashed _ =>
      cases e with
      | crashed mover => exact .inl (congrArg Event.crashed (Option.some.inj hmover))
      | _ => cases hk
    | _ =>
      cases e with
      | filled mover o => exact .inr ⟨o, congrArg (Event.filled · o) (Option.some.inj hmover)⟩
      | _ => cases hk

/-! ## Errors -/

/-- Every registered slot that holds an error is still to be taken out by a call under way that got
this error. -/
def Owed (s : Shared) : Prop :=
  ∀ entry ∈ s.cache.resident, ∀ number error,
    s.cache.outcomeIn? entry.2 = some ⟨number, .error error⟩ →
    ∃ call ∈ s.calls, call.key = entry.1 ∧ call.slot = entry.2 ∧
      call.phase = .owesDiscard number error

/-- An outcome was in its slot before the move, or the move has put it there. -/
lemma Coherent.outcome_or_filled (hs : s.Coherent) (hm : Move s e t)
    (ho : t.cache.outcomeIn? slot = some o) :
    s.cache.outcomeIn? slot = some o ∨ ∃ mover, e = .filled mover o ∧ mover.slot = slot := by
  by_cases hkind : e.kind = .filled
  · cases e with
    | filled mover o' =>
      rw [hs.outcomeIn?_of_filled hm] at ho
      split at ho
      · next hslot => exact .inr ⟨mover, by rw [Option.some.inj ho], hslot.symm⟩
      · exact .inl ho
    | _ => cases hkind
  · rw [hm.outcomeIn?_eq hkind] at ho
    exact .inl ho

/-- The call whose run returned an error owes to take its slot out. -/
lemma Move.owes_of_filled (hm : Move s (.filled call o) t) {error : ParseError}
    (herror : o.result = .error error) :
    { call with phase := .owesDiscard o.run error } ∈ t.calls := by
  cases hm with
  | fill hcall _ _ => exact mem_receive_of_error (mem_of_call? hcall) herror

lemma Owed.move (ho : Owed s) (hs : s.Coherent) (hm : Move s e t) : Owed t := by
  intro entry hentry number error herror
  have ht : t.Coherent := hs.move hm
  rcases hs.outcome_or_filled hm herror with hold | ⟨mover, rfl, hslot⟩
  · have hresident : entry ∈ s.cache.resident := by
      rcases hs.mem_resident hm hentry with hmem | hnew
      · exact hmem
      · -- a slot that is not there yet holds nothing
        rw [outcomeIn?_of_keyOf? hnew] at hold
        cases hold
    obtain ⟨call, hcall, hkey, hslot, hphase⟩ := ho entry hresident number error hold
    rcases hs.owes_or_discarded hm hcall hphase with hstays | rfl
    · exact ⟨call, hstays, hkey, hslot, hphase⟩
    · -- the call has just taken the slot out
      rw [hs.resident_eq hm] at hentry
      have hne := of_decide_eq_true (List.mem_filter.1 hentry).2
      exact absurd (Prod.ext hkey.symm hslot.symm) hne
  · have howes := hm.owes_of_filled (o := ⟨number, .error error⟩) rfl
    have hkey : t.cache.keyOf? mover.slot = some mover.key := (ht.fits _ howes).keyOf?_eq
    rw [hslot, ht.wellFormed.keyOf?_eq entry hentry] at hkey
    exact ⟨_, howes, (Option.some.inj hkey).symm, hslot, rfl⟩

/-- In every run errors are owed to be taken out. -/
theorem owed_of_run? {capacity : Nat} {hpos : 0 < capacity} {limit : Option Duration}
    (hrun : (unused capacity hpos limit).run? as = some t) : Owed t :=
  (coherent_unused hpos limit).run_induction (P := fun _ u => Owed u)
    (fun _ hmem => absurd hmem List.not_mem_nil) (fun _ _ _ _ ho hs hm => ho.move hs hm) hrun

/-! ## Crashes -/

/-- The parser was started for a slot, and all that was started for it has crashed, the last run like
the others. -/
def OnlyCrashed (slot : SlotId) (h : List Event) : Prop :=
  (∃ runner, .started runner ∈ h ∧ runner.slot = slot) ∧
    ∀ runner, .started runner ∈ h → runner.slot = slot → .crashed runner ∈ h

/-- The history tells where slots come from and what becomes of runs. -/
structure Tracked (h : List Event) (s : Shared) : Prop where
  /-- A slot was made for a call that obtained it. -/
  obtained : ∀ slot key, s.cache.keyOf? slot = some key →
    ∃ call victim, .obtained call victim ∈ h ∧ call.slot = slot
  /-- A run of the parser goes on or has ended. -/
  started : ∀ runner, .started runner ∈ h → runner.phase.isParsing ∧
    (runner ∈ s.calls ∨ .crashed runner ∈ h ∨ ∃ o, .filled runner o ∈ h)
  /-- Only without a time limit has a run crashed. -/
  crashed : ∀ runner, .crashed runner ∈ h → s.cache.limit = none

/-- A slot was there before the move, or the move has made it for the call that obtains it. -/
lemma Move.keyOf?_or_obtained (hm : Move s e t) (hkey : t.cache.keyOf? slot = some key) :
    s.cache.keyOf? slot = some key ∨
      ∃ call victim, e = .obtained call victim ∧ call.slot = slot := by
  cases hm with
  | @obtain id text _ =>
    by_cases hslot : s.cache.slotFor text = slot
    · exact .inr ⟨_, _, rfl, hslot⟩
    · left
      rwa [keyOf?_obtain_of_ne (Ne.symm hslot)] at hkey
  | fill _ _ _ =>
    rw [cache_receive, keyOf?_fill] at hkey
    exact .inl hkey
  | take _ _ _ =>
    rw [cache_receive] at hkey
    exact .inl hkey
  | discard _ _ =>
    left
    rwa [cache_answer, keyOf?_discard] at hkey
  | _ => exact .inl hkey

/-- A run that has just started is under way. -/
lemma Move.running_of_started (hm : Move s (.started runner) t) :
    runner.phase.isParsing ∧ runner ∈ t.calls := by
  cases hm with
  | start hcall _ _ _ => exact ⟨rfl, mem_update_self (mem_of_call? hcall) rfl⟩

lemma Tracked.move (ht : Tracked h s) (hs : s.Coherent) (hm : Move s e t) :
    Tracked (h ++ [e]) t where
  obtained slot key hkey := by
    rcases hm.keyOf?_or_obtained hkey with hold | ⟨call, victim, rfl, hslot⟩
    · obtain ⟨call, victim, hmem, hslot⟩ := ht.obtained slot key hold
      exact ⟨call, victim, List.mem_append_left _ hmem, hslot⟩
    · exact ⟨call, victim, List.mem_append_right _ (List.mem_singleton_self _), hslot⟩
  started runner hmem := by
    rw [List.mem_append, List.mem_singleton] at hmem
    rcases hmem with hold | rfl
    · obtain ⟨hphase, hrunning | hcrashed | ⟨o, hfilled⟩⟩ := ht.started runner hold
      · refine ⟨hphase, (hs.runs_or_ended hm hrunning hphase).imp_right ?_⟩
        rintro (rfl | ⟨o, rfl⟩)
        · exact .inl (List.mem_append_right _ (List.mem_singleton_self _))
        · exact .inr ⟨o, List.mem_append_right _ (List.mem_singleton_self _)⟩
      · exact ⟨hphase, .inr (.inl (List.mem_append_left _ hcrashed))⟩
      · exact ⟨hphase, .inr (.inr ⟨o, List.mem_append_left _ hfilled⟩)⟩
    · exact ⟨hm.running_of_started.1, .inl hm.running_of_started.2⟩
  crashed runner hmem := by
    rw [hm.sameBounds.limit]
    rw [List.mem_append, List.mem_singleton] at hmem
    rcases hmem with hold | rfl
    · exact ht.crashed runner hold
    · cases hm with
      | crash _ _ hrun => exact ParserRun.eq_none_of_settle hrun

section Run

variable {capacity : Nat} {hpos : 0 < capacity} {limit : Option Duration}

/-- The history of a run tells where slots come from and what becomes of runs. -/
theorem tracked_of_run? (hrun : (unused capacity hpos limit).run? as = some t) :
    Tracked ((unused capacity hpos limit).history as) t := by
  refine (coherent_unused hpos limit).run_induction ⟨?_, ?_, ?_⟩
    (fun _ _ _ _ ht hs hm => ht.move hs hm) hrun
  · intro slot key hkey
    exact absurd (lt_size_of_keyOf? hkey) (Nat.not_lt_zero slot)
  · exact fun _ hmem => absurd hmem List.not_mem_nil
  · exact fun _ hmem => absurd hmem List.not_mem_nil

/-- When no call is under way, nothing but crashes have come of a slot that is empty. -/
lemma onlyCrashed_of_empty (hrun : (unused capacity hpos limit).run? as = some t)
    (hdone : t.calls = []) (hmade : t.cache.keyOf? slot = some key)
    (hempty : t.cache.outcomeIn? slot = none) :
    OnlyCrashed slot ((unused capacity hpos limit).history as) := by
  have hct := coherent_of_run? hrun
  have hr := ran_of_run? hrun
  have htracked := tracked_of_run? hrun
  constructor
  · -- the call that the slot was made for has ended, and not with an outcome
    obtain ⟨call, victim, hobtained, hslot⟩ := htracked.obtained slot key hmade
    have hsome : 0 < tally .obtained (· == slot) ((unused capacity hpos limit).history as) :=
      List.countP_pos_iff.2 ⟨_, hobtained, by simp [Event.kind, Event.call?, hslot]⟩
    have hbalance := (accounts_of_run? hrun (· == slot)).obtained
    have hnone : t.underWay (fun _ => true) (· == slot) = 0 := by rw [underWay, hdone]; rfl
    have hended : 0 < t.ended (fun _ => true) (· == slot) := by omega
    obtain ⟨⟨ended, answer⟩, hanswer, hof⟩ := List.countP_pos_iff.1 hended
    have hslot' : ended.slot = slot := by simpa using hof
    cases answer with
    | returned o =>
      have hin := hct.outcomeIn?_eq ended o hanswer
      rw [hslot', hempty] at hin
      cases hin
    | crashed =>
      have hcrashed := (traced_of_run? hrun).crashes ended hanswer
      exact ⟨ended, (hr.crashed ended hcrashed).2, hslot'⟩
  · intro runner hstarted hslot
    obtain ⟨-, hrunning | hcrashed | ⟨o, hfilled⟩⟩ := htracked.started runner hstarted
    · rw [hdone] at hrunning
      cases hrunning
    · exact hcrashed
    · have hin := hr.outcomeIn?_of_filled hfilled
      rw [hslot, hempty] at hin
      cases hin

/-- When no call is under way, a registered slot holds a descriptor, or nothing but crashes have come
of it. -/
lemma descriptor_or_onlyCrashed (hrun : (unused capacity hpos limit).run? as = some t)
    (hdone : t.calls = []) {entry : String × SlotId} (hmem : entry ∈ t.cache.resident) :
    (∃ number d, t.cache.outcomeIn? entry.2 = some ⟨number, .ok d⟩) ∨
      t.cache.outcomeIn? entry.2 = none ∧
        OnlyCrashed entry.2 ((unused capacity hpos limit).history as) := by
  cases ho : t.cache.outcomeIn? entry.2 with
  | none =>
    have hmade := (coherent_of_run? hrun).wellFormed.keyOf?_eq entry hmem
    exact .inr ⟨rfl, onlyCrashed_of_empty hrun hdone hmade ho⟩
  | some o =>
    obtain ⟨number, error | d⟩ := o
    · -- the call that would take the error out is under way
      obtain ⟨call, hcall, -⟩ := owed_of_run? hrun entry hmem number error ho
      rw [hdone] at hcall
      cases hcall
    · exact .inl ⟨number, d, rfl⟩

/-- **Failures are not remembered.**  In every state that look-ups and clearings lead to, in whatever
order their steps are made and however the runs of the parser end, the registered texts differ, there
is room for all of them, each is registered with a slot that was made for it, and an error in a
registered slot is owed to be taken out.  So when no call is under way, every registered slot holds a
descriptor, or it is empty and the parser has crashed whenever it was started for it.  With a time
limit a crash becomes an error, too, and every registered slot holds a descriptor. -/
theorem failures_not_remembered (hrun : (unused capacity hpos limit).run? as = some t) :
    (t.cache.resident.map Prod.fst).Nodup ∧
    t.cache.resident.length ≤ capacity ∧
    (∀ entry ∈ t.cache.resident, t.cache.keyOf? entry.2 = some entry.1) ∧
    (∀ entry ∈ t.cache.resident, ∀ number error,
      t.cache.outcomeIn? entry.2 = some ⟨number, .error error⟩ →
      ∃ call ∈ t.calls, call.key = entry.1 ∧ call.slot = entry.2 ∧
        call.phase = .owesDiscard number error) ∧
    (t.calls = [] → ∀ entry ∈ t.cache.resident,
      (∃ number d, t.cache.outcomeIn? entry.2 = some ⟨number, .ok d⟩) ∨
      t.cache.outcomeIn? entry.2 = none ∧
        OnlyCrashed entry.2 ((unused capacity hpos limit).history as)) ∧
    ∀ d, limit = some d →
      (∀ id call number r, t.call? id = some call → call.phase = .parsing number →
        r.reply = .crashed → r.elapsed.nanoseconds ≤ d.nanoseconds →
        ∃ u, t.step? (.finish id r) = some u ∧ u.cache.outcomeIn? call.slot =
          some ⟨number, .error (.parser ParserRun.lostReply)⟩) ∧
      (t.calls = [] → ∀ entry ∈ t.cache.resident,
        ∃ number d, t.cache.outcomeIn? entry.2 = some ⟨number, .ok d⟩) := by
  have hct := coherent_of_run? hrun
  have hwf := hct.wellFormed
  obtain ⟨hcapacity, hlimit⟩ := bounds_of_run? hrun
  refine ⟨hwf.nodup, hcapacity ▸ hwf.size_le, hwf.keyOf?_eq, owed_of_run? hrun, ?_, ?_⟩
  · intro hdone entry hmem
    exact descriptor_or_onlyCrashed hrun hdone hmem
  · rintro d rfl
    constructor
    · intro id call number r hcall hphase hreply htime
      have hsettle := ParserRun.settle_of_crash hreply htime
      rw [← hlimit] at hsettle
      obtain ⟨u, hstep, hslot, -⟩ := hct.step_of_return hcall hphase hsettle
      exact ⟨u, hstep, hslot⟩
    · intro hdone entry hmem
      rcases descriptor_or_onlyCrashed hrun hdone hmem with hd | ⟨-, honly⟩
      · exact hd
      · obtain ⟨⟨runner, hstarted, hslot⟩, hall⟩ := honly
        have hnone := (tracked_of_run? hrun).crashed runner (hall runner hstarted hslot)
        rw [hlimit] at hnone
        cases hnone

/-- Three texts were looked up: the parser returned a descriptor for the first one, crashed on the
second one and returned an error for the third one, which is not registered any more. -/
theorem failures_not_remembered_of_crash :
    let start : Shared := unused 3 (Nat.succ_pos 2) none
    let steps : List Step := [.obtain 0 "a", .look 0, .start 0, .obtain 1 "b", .look 1, .start 1,
      .obtain 2 "c", .look 2, .start 2, .finish 0 { reply := .returned (.ok { name := "a" }) },
      .finish 1 { reply := .crashed }, .finish 2 { reply := .returned (.error .empty) }, .discard 2]
    ∃ t, start.run? steps = some t ∧ t.calls = [] ∧ t.cache.resident = [("b", 1), ("a", 0)] ∧
      OnlyCrashed 1 (start.history steps) := by
  intro start steps
  have hend : ((start.run? steps).any fun t => decide (t.calls = []) &&
      decide (t.cache.resident = [("b", 1), ("a", 0)]) &&
      decide (t.cache.outcomeIn? 1 = none)) = true := by
    decide +kernel +zetaReduce
  obtain ⟨t, ht, hend⟩ := (Option.any_eq_true _ _).1 hend
  simp only [Bool.and_eq_true, decide_eq_true_iff] at hend
  obtain ⟨⟨hdone, hresident⟩, hempty⟩ := hend
  have hsecond : ("b", 1) ∈ t.cache.resident := by simp [hresident]
  refine ⟨t, ht, hdone, hresident, ?_⟩
  rcases (failures_not_remembered ht).2.2.2.2.1 hdone _ hsecond with ⟨number, d, hslot⟩ | ⟨-, honly⟩
  · rw [hempty] at hslot
    cases hslot
  · exact honly

end Run

end Shared

end Cache

end ClientCounters
