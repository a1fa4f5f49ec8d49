/-
# Additions that overlap are all counted

An addition takes effect in one of its two steps: in the first one if its counter is there, in the
second one if not.  What happens in between makes no difference, since the second step makes the
counter only if it is still missing.  An increment is an addition of 1.  The events of a run are the
additions in the order in which they take effect, and the resets.  After every run the registry
holds just what the additions since the last reset come to one after the other
(`Balanced.registry_eq`), so that it is decided by these additions, in whatever order they took
effect.
-/
import Mathlib.Algebra.Ring.Nat
import Mathlib.Data.List.Induction
import Mathlib.Data.List.Dedup
import Mathlib.Data.List.Perm.Basic
import Mathlib.Data.List.TakeWhile
import ClientCounters.Counter.Interleaving
import ClientCounters.Proofs.Counter.Registry
import ClientCounters.Proofs.Text.ByteOrder

namespace ClientCounters.CounterRegistry

/-- An addition with its caller, whether it is still under way or not. -/
abbrev Addition := Pending

deriving instance DecidableEq for Step

/-- What a step comes to for the counters. -/
inductive Event where
  /-- An addition took effect. -/
  | added (p : Addition)
  /-- All counters were forgotten. -/
  | reset
deriving DecidableEq

/-- The addition that took effect. -/
def Event.addition? : Event → Option Addition
  | added p => some p
  | reset => none

/-- The addition that a step begins. -/
def Step.addition? : Step → Option Addition
  | start caller name amount => some ⟨caller, name, amount⟩
  | finish _ | reset => none

/-- The additions that some steps begin, in order. -/
def begun (as : List Step) : List Addition :=
  as.filterMap Step.addition?

/-- The additions that took effect, in order. -/
def effects (h : List Event) : List Addition :=
  h.filterMap Event.addition?

/-- The additions that took effect since the last reset, latest first. -/
def sinceReset (h : List Event) : List Addition :=
  (h.reverse.takeWhile (· ≠ .reset)).filterMap Event.addition?

/-- What some additions come to one after the other; the latest one comes first in the list. -/
def counted (additions : List Addition) : CounterRegistry :=
  additions.foldr (fun p r => r.add p.name p.amount) empty

/-- What an addition adds, and to which counter. -/
def Addition.part (p : Addition) : String × UInt64 :=
  (p.name, p.amount)

/-- What the additions to one counter come to. -/
def amountOf (additions : List Addition) (name : String) : Nat :=
  ((additions.filter (·.name = name)).map (·.amount.toNat)).sum

/-! ## What additions come to -/

variable {additions additions' : List Addition} {name : String}

lemma amountOf_cons (p : Addition) (additions : List Addition) (name : String) :
    amountOf (p :: additions) name =
      (if p.name = name then p.amount.toNat else 0) + amountOf additions name := by
  rw [amountOf, List.filter_cons]
  by_cases h : p.name = name
  · simp [h, amountOf]
  · simp [h, amountOf]

lemma counted_cons (p : Addition) (additions : List Addition) :
    counted (p :: additions) = (counted additions).add p.name p.amount :=
  rfl

lemma get_counted (additions : List Addition) (name : String) :
    (counted additions).get name = UInt64.ofNat (amountOf additions name) := by
  induction additions with
  | nil => rfl
  | cons p additions ih =>
    rw [counted_cons, get_add, amountOf_cons]
    by_cases h : name = p.name
    · subst h
      simp [ih, UInt64.add_comm]
    · simp [h, Ne.symm h, ih]

/-- There is a counter for each name that was added to, whatever the additions come to. -/
lemma lookup_counted (additions : List Addition) (name : String) :
    (counted additions).entries.lookup name =
      if ∃ p ∈ additions, p.name = name then some (UInt64.ofNat (amountOf additions name))
      else none := by
  induction additions with
  | nil => rfl
  | cons p additions ih =>
    rw [counted_cons, lookup_add, amountOf_cons]
    by_cases h : name = p.name
    · subst h
      simp [get_counted, UInt64.add_comm]
    · simp [h, Ne.symm h, ih]

lemma mem_snapshot_counted (additions : List Addition) (name : String) (v : UInt64) :
    (name, v) ∈ (counted additions).snapshot ↔
      (∃ p ∈ additions, p.name = name) ∧ v = UInt64.ofNat (amountOf additions name) := by
  rw [snapshot, ← Ascending.lookup_eq_some_iff (counted additions).ascending, lookup_counted]
  split
  · next h => rw [Option.some.injEq, eq_comm, and_iff_right h]
  · next h => simp [h]

/-- There are as many counters as names. -/
lemma size_counted (additions : List Addition) :
    (counted additions).size = (additions.map Pending.name).dedup.length := by
  have hnodup : ((counted additions).entries.map Prod.fst).Nodup := by
    refine List.pairwise_map.2 ((counted additions).ascending.imp ?_)
    rintro e e' hlt heq
    exact String.lt_irrefl _ (heq ▸ hlt)
  have hperm : ((counted additions).entries.map Prod.fst).Perm
      (additions.map Pending.name).dedup := by
    rw [List.perm_ext_iff_of_nodup hnodup (List.nodup_dedup _)]
    intro name
    rw [List.mem_dedup, List.mem_map, List.mem_map]
    constructor
    · rintro ⟨⟨_, v⟩, hmem, rfl⟩
      exact ((mem_snapshot_counted additions _ v).1 hmem).1
    · intro h
      exact ⟨(name, _), (mem_snapshot_counted additions name _).2 ⟨h, rfl⟩, rfl⟩
  rw [size, ← hperm.length_eq, List.length_map]

/-- It makes no difference in which order additions take effect. -/
lemma counted_perm (h : (additions.map Addition.part).Perm (additions'.map Addition.part)) :
    counted additions = counted additions' := by
  have hparts (additions : List Addition) : counted additions =
      (additions.map Addition.part).foldr (fun part r => r.add part.1 part.2) empty := by
    rw [List.foldr_map]
    rfl
  rw [hparts, hparts]
  exact h.foldr_eq' (fun a _ b _ r => add_right_comm r a.1 b.1 a.2 b.2) empty

/-! ## Histories -/

section Histories

variable {h : List Event} {p : Addition}

lemma begun_concat (as : List Step) (a : Step) :
    begun (as ++ [a]) = begun as ++ a.addition?.toList := by
  cases h : a.addition? <;> simp [begun, h]

lemma effects_added : effects (h ++ [.added p]) = effects h ++ [p] := by
  simp [effects, Event.addition?]

lemma sinceReset_added : sinceReset (h ++ [.added p]) = p :: sinceReset h := by
  simp [sinceReset, Event.addition?]

lemma sinceReset_reset : sinceReset (h ++ [.reset]) = [] := by
  simp [sinceReset]

/-- Without a reset all additions are remembered. -/
lemma sinceReset_eq (hnone : .reset ∉ h) : sinceReset h = (effects h).reverse := by
  rw [sinceReset, List.takeWhile_eq_self_iff.2, List.filterMap_reverse, effects]
  intro e he
  refine decide_eq_true ?_
  rintro rfl
  exact hnone (List.mem_reverse.1 he)

end Histories

namespace Shared

variable {s t : Shared} {a : Step} {as : List Step}

/-- What a step comes to.  An addition that finds its counter missing comes to nothing yet. -/
def event? (s : Shared) : Step → Option Event
  | .start caller name amount =>
    if s.registry.contains name then some (.added ⟨caller, name, amount⟩) else none
  | .finish caller => (s.pending.find? (·.caller == caller)).map .added
  | .reset => some .reset

/-- The events of some steps in a row. -/
def history (s : Shared) : List Step → List Event
  | [] => []
  | a :: as =>
    match s.step? a with
    | some t => (s.event? a).toList ++ history t as
    | none => []

/-- The moves of a registry in use: when each step may happen, what it comes to, and the state
behind it. -/
inductive Move (s : Shared) : Step → Option Event → Shared → Prop where
  | add {p : Addition} (hidle : ∀ q ∈ s.pending, q.caller ≠ p.caller)
      (hthere : s.registry.contains p.name) :
      Move s (.start p.caller p.name p.amount) (some (.added p))
        { s with registry := s.registry.add p.name p.amount }
  | postpone {p : Addition} (hidle : ∀ q ∈ s.pending, q.caller ≠ p.caller)
      (hmissing : s.registry.contains p.name = false) :
      Move s (.start p.caller p.name p.amount) none { s with pending := p :: s.pending }
  | finish {p : Addition} (hp : p ∈ s.pending) :
      Move s (.finish p.caller) (some (.added p))
        { registry := s.registry.add p.name p.amount
          pending := s.pending.filter (·.caller != p.caller) }
  | reset : Move s .reset (some .reset) { s with registry := empty }

lemma move_of_step? (hstep : s.step? a = some t) : Move s a (s.event? a) t := by
  cases a with
  | start caller name amount =>
    rw [step?] at hstep
    split at hstep
    · cases hstep
    next hbusy =>
    have hidle : ∀ q ∈ s.pending, q.caller ≠ caller := by simpa using hbusy
    rw [event?]
    cases hthere : s.registry.contains name with
    | true =>
      rw [addExisting?, if_pos hthere, ← add_eq_addOrCreate] at hstep
      obtain rfl := Option.some.inj hstep
      exact .add (p := ⟨caller, name, amount⟩) hidle hthere
    | false =>
      rw [addExisting?, if_neg (by simp [hthere])] at hstep
      obtain rfl := Option.some.inj hstep
      exact .postpone (p := ⟨caller, name, amount⟩) hidle hthere
  | finish caller =>
    obtain ⟨p, hfind, rfl⟩ := Option.map_eq_some_iff.1 hstep
    have hcaller : p.caller = caller := by simpa using List.find?_some hfind
    subst hcaller
    rw [event?, hfind, Option.map_some, ← add_eq_addOrCreate]
    exact .finish (List.mem_of_find?_eq_some hfind)
  | reset =>
    obtain rfl := Option.some.inj hstep
    exact .reset

/-! ## Runs -/

/-- Every addition takes effect once: those that a caller has begun are those that took effect, in
the same order, and one that is still under way. -/
structure Balanced (s : Shared) (as : List Step) (h : List Event) : Prop where
  once : ∀ caller, (begun as).filter (·.caller = caller) =
    (effects h).filter (·.caller = caller) ++ s.pending.filter (·.caller = caller)
  alone : s.pending.Pairwise fun p q => p.caller ≠ q.caller
  registry_eq : s.registry = counted (sinceReset h)

/-- A caller without an addition under way. -/
lemma filter_pending_eq_nil {caller : Nat} (hidle : ∀ q ∈ s.pending, q.caller ≠ caller) :
    s.pending.filter (·.caller = caller) = [] := by
  simpa [List.filter_eq_nil_iff] using hidle

/-- A caller has no other addition under way than this one. -/
lemma filter_pending_eq (halone : s.pending.Pairwise fun p q => p.caller ≠ q.caller)
    {p : Addition} (hp : p ∈ s.pending) : s.pending.filter (·.caller = p.caller) = [p] := by
  generalize s.pending = pending at halone hp
  induction pending with
  | nil => cases hp
  | cons q pending ih =>
    obtain ⟨hq, halone⟩ := List.pairwise_cons.1 halone
    rcases List.mem_cons.1 hp with rfl | hp
    · have hothers : pending.filter (·.caller = p.caller) = [] :=
        List.filter_eq_nil_iff.2 fun q hmem => by simpa using (hq q hmem).symm
      rw [List.filter_cons_of_pos (by simp), hothers]
    · rw [List.filter_cons_of_neg (by simpa using hq p hp), ih halone hp]

namespace Balanced

variable {h : List Event} {e : Option Event}

lemma once_move (hs : s.Balanced as h) (hm : Move s a e t) (caller : Nat) :
    (begun (as ++ [a])).filter (·.caller = caller) =
      (effects (h ++ e.toList)).filter (·.caller = caller) ++
        t.pending.filter (·.caller = caller) := by
  rw [begun_concat, List.filter_append, hs.once]
  cases hm with
  | @add p hidle hthere =>
    rw [Option.toList_some, effects_added, List.filter_append]
    by_cases hp : p.caller = caller
    · subst hp
      rw [filter_pending_eq_nil hidle, List.append_nil, List.append_nil]
      rfl
    · simp [Step.addition?, hp]
  | @postpone p hidle hmissing =>
    rw [Option.toList_none, List.append_nil, List.append_assoc]
    by_cases hp : p.caller = caller
    · subst hp
      simp [Step.addition?, filter_pending_eq_nil hidle]
    · simp [Step.addition?, hp]
  | @finish p hmem =>
    rw [Option.toList_some, effects_added, List.filter_append, List.append_assoc]
    by_cases hp : p.caller = caller
    · subst hp
      simp [Step.addition?, filter_pending_eq hs.alone hmem]
    · -- the additions of other callers stay under way
      have hothers : (s.pending.filter (·.caller != p.caller)).filter (·.caller = caller) =
          s.pending.filter (·.caller = caller) := by
        rw [List.filter_filter]
        refine List.filter_congr fun q _ => ?_
        rw [Bool.and_eq_left_iff_imp]
        intro hq
        simpa [of_decide_eq_true hq] using Ne.symm hp
      simp [Step.addition?, hp, hothers]
  | reset => simp [Step.addition?, effects, Event.addition?]

lemma alone_move (hs : s.Balanced as h) (hm : Move s a e t) :
    t.pending.Pairwise fun p q => p.caller ≠ q.caller := by
  cases hm with
  | add hidle hthere => exact hs.alone
  | postpone hidle hmissing =>
    exact List.pairwise_cons.2 ⟨fun q hq => (hidle q hq).symm, hs.alone⟩
  | finish hp => exact hs.alone.filter _
  | reset => exact hs.alone

/-- The registry changes as the additions since the last reset do. -/
lemma registry_move (hs : s.Balanced as h) (hm : Move s a e t) :
    t.registry = counted (sinceReset (h ++ e.toList)) := by
  cases hm with
  | add hidle hthere =>
    rw [Option.toList_some, sinceReset_added, counted_cons, ← hs.registry_eq]
  | postpone hidle hmissing => rw [Option.toList_none, List.append_nil, hs.registry_eq]
  | finish hp => rw [Option.toList_some, sinceReset_added, counted_cons, ← hs.registry_eq]
  | reset =>
    rw [Option.toList_some, sinceReset_reset]
    rfl

lemma move {h : List Event} {e : Option Event} (hs : s.Balanced as h)
    (hm : Move s a e t) : t.Balanced (as ++ [a]) (h ++ e.toList) :=
  ⟨hs.once_move hm, hs.alone_move hm, hs.registry_move hm⟩

end Balanced

lemma run?_concat (as : List Step) (a : Step) :
    s.run? (as ++ [a]) = (s.run? as).bind fun t => t.step? a := by
  rw [run?, List.foldlM_append]
  simp [run?]

lemma history_concat (h : s.run? as = some t) (ha : (t.step? a).isSome) :
    s.history (as ++ [a]) = s.history as ++ (t.event? a).toList := by
  induction as generalizing s with
  | nil =>
    rw [← Option.some.inj h] at ha ⊢
    obtain ⟨u, hu⟩ := Option.isSome_iff_exists.1 ha
    simp [history, hu]
  | cons b as ih =>
    obtain ⟨r, hr, h⟩ := Option.bind_eq_some_iff.1 h
    simp only [List.cons_append, history, hr, ih h, List.append_assoc]

lemma balanced_of_run? (hrun : ({} : Shared).run? as = some s) :
    s.Balanced as (({} : Shared).history as) := by
  induction as using List.reverseRecOn generalizing s with
  | nil =>
    obtain rfl := Option.some.inj hrun
    exact ⟨fun _ => rfl, List.Pairwise.nil, rfl⟩
  | append_singleton as a ih =>
    rw [run?_concat] at hrun
    obtain ⟨r, hr, hstep⟩ := Option.bind_eq_some_iff.1 hrun
    rw [history_concat hr (Option.isSome_of_eq_some hstep)]
    exact (ih hr).move (move_of_step? hstep)

/-- A reset in the history is a step of the run. -/
lemma reset_mem_of_mem_history (h : .reset ∈ s.history as) : .reset ∈ as := by
  induction as generalizing s with
  | nil => cases h
  | cons a as ih =>
    rw [history] at h
    split at h
    next t hstep =>
      rcases List.mem_append.1 h with hevent | htail
      · cases a with
        | reset => exact List.mem_cons_self
        | start caller name amount =>
          rw [event?] at hevent
          split at hevent <;> simp at hevent
        | finish caller => simp [event?] at hevent
      · exact List.mem_cons_of_mem _ (ih htail)
    next => cases h

/-- When no addition is under way, and there was no reset, what counts is what was begun. -/
lemma Balanced.begun_perm {h : List Event} (hs : s.Balanced as h) (hdone : s.pending = [])
    (hreset : .reset ∉ h) : (sinceReset h).Perm (begun as) := by
  rw [sinceReset_eq hreset]
  refine (List.reverse_perm _).trans (List.perm_iff_count.2 fun p => ?_)
  have hcaller := hs.once p.caller
  rw [hdone, List.filter_nil, List.append_nil] at hcaller
  have hcount (additions : List Addition) :
      (additions.filter (·.caller = p.caller)).count p = additions.count p :=
    List.count_filter (decide_eq_true rfl)
  rw [← hcount, ← hcaller, hcount]

/-- **Every addition counts once.**  Nothing is lost and nothing counts twice, however additions
and resets overlap.  At every moment the additions begun by a caller are those that took effect,
each once and in order, and at most one that is still under way.  A counter holds the sum of the
additions to it that took effect since the last reset, and there is one for each name added to, also
when they come to 0.  All counters are listed, each once, by the bytes of their names.  So when
there is no reset, and no addition is under way any more, the order of the additions makes no
difference. -/
theorem additions_counted_once (hrun : ({} : Shared).run? as = some s) :
    (∀ caller, (begun as).filter (·.caller = caller) =
      (effects (({} : Shared).history as)).filter (·.caller = caller) ++
        s.pending.filter (·.caller = caller)) ∧
    s.pending.Pairwise (fun p q => p.caller ≠ q.caller) ∧
    (∀ name, (s.registry.get name).toNat =
      amountOf (sinceReset (({} : Shared).history as)) name % 2 ^ 64) ∧
    s.registry.size =
      ((sinceReset (({} : Shared).history as)).map Pending.name).dedup.length ∧
    s.registry.snapshot.Pairwise (fun e e' => Text.bytes e.1 < Text.bytes e'.1) ∧
    (∀ name v, (name, v) ∈ s.registry.snapshot ↔
      (∃ p ∈ sinceReset (({} : Shared).history as), p.name = name) ∧ v = s.registry.get name) ∧
    ∀ as' s', ({} : Shared).run? as' = some s' → s.pending = [] → s'.pending = [] →
      .reset ∉ as → .reset ∉ as' →
      ((begun as).map Addition.part).Perm ((begun as').map Addition.part) →
      s.registry.snapshot = s'.registry.snapshot := by
  have hs := balanced_of_run? hrun
  have hregistry := hs.registry_eq
  refine ⟨hs.once, hs.alone, fun name => ?_, ?_, ?_, fun name v => ?_, ?_⟩
  · rw [hregistry, get_counted, UInt64.toNat_ofNat']
  · rw [hregistry, size_counted]
  · exact s.registry.ascending.imp Text.bytes_lt_of_lt
  · rw [hregistry, mem_snapshot_counted, get_counted]
  · intro as' s' hrun' hdone hdone' hnone hnone' hsame
    have hs' := balanced_of_run? hrun'
    have hperm := hs.begun_perm hdone (fun h => hnone (reset_mem_of_mem_history h))
    have hperm' := hs'.begun_perm hdone' (fun h => hnone' (reset_mem_of_mem_history h))
    rw [hregistry, hs'.registry_eq,
      counted_perm (((hperm.map _).trans hsame).trans (hperm'.symm.map _))]

/-- Two additions to `a` overlap and a third one makes them wrap around; `b` is made by an addition
of 0.  Both counters are there.  In another order, without overlaps, the same comes out. -/
theorem additions_counted_once_of_wrap :
    let steps : List Step := [.start 0 "a" 5, .start 1 "a" 7, .finish 1, .start 1 "b" 0,
      .start 2 "a" (0 - 12), .finish 0, .finish 1]
    let steps' : List Step := [.start 0 "b" 0, .finish 0, .start 0 "a" (0 - 12), .finish 0,
      .start 0 "a" 7, .start 0 "a" 5]
    ∃ s s', ({} : Shared).run? steps = some s ∧ ({} : Shared).run? steps' = some s' ∧
      s.pending = [] ∧ s'.pending = [] ∧ s.registry.snapshot = [("a", 0), ("b", 0)] ∧
      s.registry.size = 2 ∧ (s.registry.get "a").toNat = 2 ^ 64 % 2 ^ 64 ∧
      s.registry.snapshot = s'.registry.snapshot := by
  intro steps steps'
  have hend : (({} : Shared).run? steps).any (fun s => decide (s.pending = []) &&
      decide (s.registry.snapshot = [("a", 0), ("b", 0)])) = true := by
    decide +kernel +zetaReduce
  have hend' : (({} : Shared).run? steps').any (fun s => decide (s.pending = [])) = true := by
    decide +kernel +zetaReduce
  have hsame : ((begun steps).map Addition.part).Perm ((begun steps').map Addition.part) := by
    decide +kernel +zetaReduce
  have hsum : amountOf (sinceReset (({} : Shared).history steps)) "a" = 2 ^ 64 := by
    decide +kernel +zetaReduce
  obtain ⟨s, hrun, hend⟩ := (Option.any_eq_true _ _).1 hend
  obtain ⟨s', hrun', hdone'⟩ := (Option.any_eq_true _ _).1 hend'
  simp only [Bool.and_eq_true, decide_eq_true_iff] at hend hdone'
  obtain ⟨-, -, hvalue, -, -, -, horder⟩ := additions_counted_once hrun
  refine ⟨s, s', hrun, hrun', hend.1, hdone', hend.2, ?_, ?_, ?_⟩
  · exact congrArg List.length hend.2
  · rw [hvalue, hsum]
  · exact horder steps' s' hrun' hend.1 hdone' (by decide +zetaReduce) (by decide +zetaReduce)
      hsame

end Shared

end CounterRegistry

end ClientCounters
