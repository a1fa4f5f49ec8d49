/-
# The statistics add up

What a cache counts is compared with what was done with it: with the look-ups, with the runs of the
parser and with the ways in which they ended.  Every step is one event of the history, so that the
balances of the history are balances of the steps (`countP_history`).  For the number of entries,
every registered slot is charged to a run that came to a descriptor or crashed, and no two slots to
the same run.
-/
import Mathlib.Data.List.Perm.Subperm
import ClientCounters.Proofs.Cache.Nesting

namespace ClientCounters

namespace Cache

/-- Whether a step begins a look-up. -/
def Step.isLookUp : Step → Bool
  | obtain .. => true
  | _ => false

/-- Whether a step starts the parser. -/
def Step.isStart : Step → Bool
  | start _ => true
  | _ => false

/-- Whether a step ends a run of the parser that comes to a descriptor. -/
def Step.isSuccess (limit : Option Duration) : Step → Bool
  | finish _ run =>
    match run.settle limit with
    | .returned (.ok _) => true
    | _ => false
  | _ => false

/-- Whether an event is a run of the parser that returned a descriptor. -/
def Event.isSuccess : Event → Bool
  | filled _ ⟨_, .ok _⟩ => true
  | _ => false

/-- Whether an event ends a run of the parser in a way that leaves its slot registered. -/
def Event.leavesSlot (e : Event) : Bool :=
  e.isSuccess || e.kind = .crashed

/-- No two texts are registered with one slot. -/
lemma WellFormed.nodup_slots {c : Cache} (h : c.WellFormed) :
    (c.resident.map Prod.snd).Nodup := by
  refine (h.nodup.of_map Prod.fst).map_on fun e he e' he' hslot => ?_
  have hkey := h.keyOf?_eq e he
  rw [hslot, h.keyOf?_eq e' he'] at hkey
  exact h.eq_of_fst_eq he he' (Option.some.inj hkey).symm

namespace Shared

variable {s t : Shared} {h : List Event} {e : Event} {a : Step} {as : List Step}

/-! ## Steps and events -/

/-- What a step does can be read off its event. -/
lemma reads_of_event? (hstep : s.step? a = some t) (he : s.event? a = some e) :
    a.isLookUp = decide (e.kind = .obtained) ∧ a.isStart = decide (e.kind = .started) ∧
      a.isSuccess s.cache.limit = e.isSuccess := by
  cases a with
  | look id =>
    obtain ⟨call, -, rfl⟩ := Option.map_eq_some_iff.1 he
    split <;> exact ⟨rfl, rfl, rfl⟩
  | finish id run =>
    obtain ⟨call, hcall, rfl⟩ := Option.map_eq_some_iff.1 he
    simp only [step?, hcall, Option.bind_eq_bind, Option.bind_some] at hstep
    split at hstep
    · next number hphase =>
      simp only [hphase, Step.isSuccess]
      rcases run.settle s.cache.limit with ⟨error | d⟩ | _ <;> exact ⟨rfl, rfl, rfl⟩
    · cases hstep
  | take id =>
    obtain ⟨call, -, he⟩ := Option.bind_eq_some_iff.1 he
    obtain ⟨o, -, he⟩ := Option.bind_eq_some_iff.1 he
    obtain rfl := Option.some.inj he
    exact ⟨rfl, rfl, rfl⟩
  | start id | discard id =>
    obtain ⟨call, -, rfl⟩ := Option.map_eq_some_iff.1 he
    exact ⟨rfl, rfl, rfl⟩
  | obtain id key | clear =>
    obtain rfl := Option.some.inj he
    exact ⟨rfl, rfl, rfl⟩

/-- All events but clearings are those of some call. -/
lemma total_eq_countP {k : Kind} (hk : k ≠ .cleared) (h : List Event) :
    total k h = h.countP fun e => e.kind = k := by
  refine List.countP_congr fun e _ => ?_
  cases e with
  | cleared => simp [Event.kind, hk.symm]
  | _ => simp [Event.call?]

/-- Steps of some kind are as many as the events that show this kind. -/
lemma countP_history {p : Step → Bool} {q : Event → Bool} {limit : Option Duration}
    (hpq : ∀ (s t : Shared) (a : Step) (e : Event), s.cache.limit = limit →
      s.step? a = some t → s.event? a = some e → p a = q e)
    (hlimit : s.cache.limit = limit) (hrun : s.run? as = some t) :
    as.countP p = (s.history as).countP q := by
  induction as generalizing s with
  | nil => rfl
  | cons a as ih =>
    obtain ⟨u, hstep, hrun⟩ := Option.bind_eq_some_iff.1 hrun
    obtain ⟨e, he, hm⟩ := move_of_step? hstep
    have hstep : s.step? a = some u := hstep
    simp only [history, hstep, he, Option.toList_some, List.singleton_append, List.countP_cons]
    rw [ih (hm.sameBounds.limit.trans hlimit) hrun, hpq s u a e hlimit hstep he]

/-! ## Ends of runs -/

/-- A run that returned came to a descriptor or failed. -/
lemma tally_filled_eq (h : List Event) :
    total .filled h = h.countP Event.isSuccess + h.countP Event.isFailure := by
  rw [total, tally]
  induction h with
  | nil => rfl
  | cons e h ih =>
    rw [List.countP_cons, List.countP_cons, List.countP_cons, ih]
    cases e with
    | filled call o =>
      rcases o with ⟨run, error | d⟩
      · exact Nat.add_assoc _ _ _
      · exact Nat.add_right_comm _ _ _
    | _ => rfl

/-- A slot stays registered behind a success or a crash. -/
lemma countP_leavesSlot (h : List Event) :
    h.countP Event.leavesSlot = h.countP Event.isSuccess + total .crashed h := by
  rw [total, tally]
  induction h with
  | nil => rfl
  | cons e h ih =>
    rw [List.countP_cons, List.countP_cons, List.countP_cons, ih]
    cases e with
    | filled call o =>
      rcases o with ⟨run, error | d⟩
      · rfl
      · exact Nat.add_right_comm _ _ _
    | crashed call => exact Nat.add_assoc _ _ _
    | _ => rfl

/-- Slots that are charged to events of their own are not more than these events. -/
lemma length_le_countP {slots : List SlotId} (hnodup : slots.Nodup) {q : Event → Bool}
    (hcharged : ∀ slot ∈ slots, ∃ e ∈ h, q e ∧ ∃ call, e.call? = some call ∧ call.slot = slot) :
    slots.length ≤ h.countP q := by
  have hsub : slots ⊆ ((h.filter q).filterMap Event.call?).map Call.slot := by
    intro slot hslot
    obtain ⟨e, he, hq, call, hcall, rfl⟩ := hcharged slot hslot
    exact List.mem_map_of_mem (List.mem_filterMap.2 ⟨e, List.mem_filter.2 ⟨he, hq⟩, hcall⟩)
  calc slots.length
      ≤ (((h.filter q).filterMap Event.call?).map Call.slot).length :=
        (List.subperm_of_subset hnodup hsub).length_le
    _ ≤ (h.filter q).length := by
        rw [List.length_map]
        exact List.length_filterMap_le _ _
    _ = h.countP q := List.countP_eq_length_filter.symm

section Run

variable {capacity : Nat} {hpos : 0 < capacity} {limit : Option Duration}

/-- When no call is under way, every entry is there for a run that came to a descriptor or
crashed. -/
lemma size_le_countP (hrun : (unused capacity hpos limit).run? as = some s) (hdone : s.calls = []) :
    s.cache.size ≤ ((unused capacity hpos limit).history as).countP Event.leavesSlot := by
  have hr := ran_of_run? hrun
  rw [size, ← List.length_map Prod.snd]
  refine length_le_countP (coherent_of_run? hrun).wellFormed.nodup_slots fun slot hslot => ?_
  obtain ⟨entry, hentry, rfl⟩ := List.mem_map.1 hslot
  rcases descriptor_or_onlyCrashed hrun hdone hentry with ⟨number, d, ho⟩ | ⟨-, honly⟩
  · obtain ⟨runner, -, hfilled, hslot, -⟩ := hr.exists_fill ho
    exact ⟨_, hfilled, rfl, runner, rfl, hslot⟩
  · obtain ⟨⟨runner, hstarted, hslot⟩, hall⟩ := honly
    exact ⟨_, hall runner hstarted hslot, rfl, runner, rfl, hslot⟩

/-- When no call is under way, nothing stands between the two sides of an account. -/
lemma totals_of_quiet (hrun : (unused capacity hpos limit).run? as = some s)
    (hdone : s.calls = []) :
    let h := (unused capacity hpos limit).history as
    total .obtained h = total .hit h + total .missed h ∧
      total .missed h = total .started h + total .taken h ∧
      total .started h = total .filled h + total .crashed h ∧
      total .crashed h = s.answers.countP fun answer => answer.2.isCrash := by
  have haccounts := accounts_of_run? hrun fun _ => true
  have hnone (q : Phase → Bool) : s.underWay q (fun _ => true) = 0 := by
    rw [underWay, hdone]
    rfl
  have hlooked := haccounts.looked
  have hmissed := haccounts.missed
  have hstarted := haccounts.started
  rw [hnone, Nat.add_zero] at hlooked hmissed hstarted
  refine ⟨hlooked, hmissed, hstarted, haccounts.crashed.trans ?_⟩
  simp only [ended, Bool.and_true]

/-- **The statistics add up.**  In every state that look-ups and clearings lead to, in whatever
order their steps are made and however the runs of the parser end, when no call is under way, hits
and misses are as many as the look-ups that have begun; the parses are the runs of the parser that
were started, and each of them came to a descriptor, or failed and is counted as a failure, or
crashed and left its caller without an answer; there are not more parses than misses, not more
entries than there is room for, and not more entries than parses that did not fail.  If calls have
overlapped only by nesting, there are just as many parses as misses; a nested look-up of a text
whose slot is being filled needs no exception, for it would wait for ever.  Clearing the cache, at
any time, changes the number of entries and no other. -/
theorem statistics_add_up (hrun : (unused capacity hpos limit).run? as = some s) :
    (s.calls = [] →
      s.cache.stats.hits + s.cache.stats.misses = as.countP Step.isLookUp ∧
      s.cache.stats.parses = as.countP Step.isStart ∧
      s.cache.stats.parses = as.countP (Step.isSuccess limit) + s.cache.stats.failures +
        s.answers.countP (fun answer => answer.2.isCrash) ∧
      s.cache.stats.parses ≤ s.cache.stats.misses ∧
      s.cache.stats.entries ≤ capacity ∧
      s.cache.stats.failures + s.cache.stats.entries ≤ s.cache.stats.parses ∧
      ((unused capacity hpos limit).Nested as → s.cache.stats.parses = s.cache.stats.misses)) ∧
    ∃ t, s.step? .clear = some t ∧ t.cache.stats = { s.cache.stats with entries := 0 } ∧
      t.calls = s.calls ∧ t.answers = s.answers := by
  refine ⟨fun hdone => ?_, _, rfl, rfl, rfl, rfl⟩
  have hcounters := counters_of_run? hrun
  have hhits := congrArg CacheStats.hits hcounters
  have hmisses := congrArg CacheStats.misses hcounters
  have hparses := congrArg CacheStats.parses hcounters
  have hfailures := congrArg CacheStats.failures hcounters
  have hreads (s t : Shared) (a : Step) (e : Event) (hlimit : s.cache.limit = limit)
      (hstep : s.step? a = some t) (he : s.event? a = some e) :=
    hlimit ▸ reads_of_event? hstep he
  have hlookUps := countP_history (fun s t a e hl hs he => (hreads s t a e hl hs he).1) rfl hrun
  have hstarts := countP_history (fun s t a e hl hs he => (hreads s t a e hl hs he).2.1) rfl hrun
  have hsuccesses := countP_history (fun s t a e hl hs he => (hreads s t a e hl hs he).2.2) rfl hrun
  rw [← total_eq_countP (k := .obtained) nofun] at hlookUps
  rw [← total_eq_countP (k := .started) nofun] at hstarts
  obtain ⟨hlooked, hmissed, hstarted, hcrashed⟩ := totals_of_quiet hrun hdone
  have hfilled := tally_filled_eq ((unused capacity hpos limit).history as)
  have hentries := size_le_countP hrun hdone
  rw [countP_leavesSlot] at hentries
  have hroom : s.cache.size ≤ capacity :=
    (bounds_of_run? hrun).1 ▸ (coherent_of_run? hrun).wellFormed.size_le
  simp only [counters, stats] at hhits hmisses hparses hfailures ⊢
  rw [hlookUps, hstarts, hsuccesses, hhits, hmisses, hparses, hfailures, ← hcrashed]
  refine ⟨hlooked.symm, rfl, ?_, ?_, hroom, ?_, fun hnested => ?_⟩
  · rw [hstarted, hfilled]
  · exact hmissed ▸ Nat.le_add_right _ _
  · omega
  · rw [hmissed, (stacked_of_run? hrun hnested).2, Nat.add_zero]

/-- While the parser runs for `a` it looks up `b`, and crashes on it.  The look-up of `a` that
follows is a hit, and the slot of `b` stays registered. -/
theorem statistics_add_up_of_nested_crash :
    let start : Shared := unused 2 Nat.two_pos none
    let steps : List Step := [.obtain 0 "a", .look 0, .start 0, .obtain 1 "b", .look 1, .start 1,
      .finish 1 { reply := .crashed }, .finish 0 { reply := .returned (.ok { name := "a" }) },
      .obtain 2 "a", .look 2]
    ∃ s, start.run? steps = some s ∧ s.calls = [] ∧ start.Nested steps ∧
      s.cache.stats = ⟨1, 2, 2, 0, 2⟩ ∧ s.cache.stats.parses = s.cache.stats.misses := by
  intro start steps
  have hend : ((start.run? steps).any fun s => decide (s.calls = []) &&
      decide (s.cache.stats = ⟨1, 2, 2, 0, 2⟩)) = true := by
    decide +kernel +zetaReduce
  obtain ⟨s, hrun, hend⟩ := (Option.any_eq_true _ _).1 hend
  simp only [Bool.and_eq_true, decide_eq_true_iff] at hend
  have hnested : start.Nested steps := by decide +kernel +zetaReduce
  refine ⟨s, hrun, hend.1, hnested, hend.2, ?_⟩
  exact ((statistics_add_up hrun).1 hend.1).2.2.2.2.2.2 hnested

end Run

end Shared

end Cache

end ClientCounters
