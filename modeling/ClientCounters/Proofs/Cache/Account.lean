/-
# The accounts of a cache in use

Every step of a call is an event of the history, and a call makes its steps in order.  So the events
of each kind, at all slots together or at the slots of interest alone, balance with the calls that
are on their way between two kinds of events.  `Accounts` collects the balances.  The cache itself
keeps some of these numbers, and `counters_of_run?` says that it has them right.
-/
import ClientCounters.Proofs.Cache.Life

namespace ClientCounters

/-- Whether an answer is a crash. -/
def Answer.isCrash : Answer → Bool
  | crashed => true
  | returned _ => false

namespace Cache

/-- The number of events of one kind at slots of interest. -/
def tally (k : Kind) (p : SlotId → Bool) (h : List Event) : Nat :=
  h.countP fun e => e.kind = k && e.call?.any fun call => p call.slot

/-- The number of events of one kind, at all slots. -/
abbrev total (k : Kind) (h : List Event) : Nat := tally k (fun _ => true) h

/-- Whether a call in this phase has still to look into its slot. -/
def Phase.isObtained : Phase → Bool
  | obtained => true
  | _ => false

/-- Whether a call in this phase waits for its slot. -/
def Phase.isWaiting : Phase → Bool
  | waiting => true
  | _ => false

/-- Whether an event is a run of the parser that returned an error. -/
def Event.isFailure : Event → Bool
  | filled _ ⟨_, .error _⟩ => true
  | _ => false

/-- The counters behind an event. -/
def Event.count (e : Event) (c : CacheStats) : CacheStats :=
  match e with
  | hit _ => { c with hits := c.hits + 1 }
  | missed _ => { c with misses := c.misses + 1 }
  | started _ => { c with parses := c.parses + 1 }
  | filled _ ⟨_, .error _⟩ => { c with failures := c.failures + 1 }
  | _ => c

namespace Shared

variable {s t : Shared} {h : List Event} {e : Event} {p : SlotId → Bool} {call : Call}
  {prior next : Option Phase} {as : List Step}

/-- The number of calls under way that are in some phase, at slots of interest. -/
def underWay (s : Shared) (q : Phase → Bool) (p : SlotId → Bool) : Nat :=
  s.calls.countP fun call => q call.phase && p call.slot

/-- The number of calls that have ended with some answer, at slots of interest. -/
def ended (s : Shared) (q : Answer → Bool) (p : SlotId → Bool) : Nat :=
  s.answers.countP fun answer => q answer.2 && p answer.1.slot

/-- The balances of a history and the state that it led to, at slots of interest. -/
structure Accounts (p : SlotId → Bool) (h : List Event) (s : Shared) : Prop where
  /-- A call that has obtained a slot is under way or has ended. -/
  obtained : tally .obtained p h =
    s.underWay (fun _ => true) p + s.ended (fun _ => true) p
  /-- It is a hit, or a miss, or has still to look. -/
  looked : tally .obtained p h =
    tally .hit p h + tally .missed p h + s.underWay Phase.isObtained p
  /-- A miss has started the parser, or has taken the outcome of another call, or waits. -/
  missed : tally .missed p h =
    tally .started p h + tally .taken p h + s.underWay Phase.isWaiting p
  /-- A run of the parser has returned, or has crashed, or goes on. -/
  started : tally .started p h =
    tally .filled p h + tally .crashed p h + s.underWay Phase.isParsing p
  /-- A crash ends the one call that made the run. -/
  crashed : tally .crashed p h = s.ended Answer.isCrash p

lemma tally_append {k : Kind} (h h' : List Event) :
    tally k p (h ++ h') = tally k p h + tally k p h' :=
  List.countP_append

lemma tally_concat_cleared {k : Kind} (h : List Event) :
    tally k p (h ++ [.cleared]) = tally k p h := by
  rw [tally_append, tally, tally, List.countP_singleton, Event.call?, Option.any_none,
    Bool.and_false, if_neg Bool.false_ne_true, Nat.add_zero]

/-! ## What one step adds -/

/-- One event, one call or one answer, if it is of interest. -/
abbrev one (b : Bool) : Nat := if b then 1 else 0

lemma one_false : one false = 0 := rfl

lemma Advanced.tally_concat {k : Kind} (hadv : Advanced s e t call prior next) (h : List Event) :
    tally k p (h ++ [e]) = tally k p h + one (e.kind = k && p call.slot) := by
  obtain ⟨phase, -, he⟩ := hadv.call?_eq
  rw [tally_append, tally, tally, List.countP_singleton, he, Option.any_some]

lemma countP_inPhase {q : Phase → Bool} {phase : Option Phase} :
    ((call.inPhase phase).countP fun call => q call.phase && p call.slot) =
      one (phase.any q && p call.slot) := by
  cases phase with
  | none => rfl
  | some phase => rw [Call.inPhase, Option.map_some, Option.toList_some, List.countP_singleton,
      Option.any_some]

lemma Advanced.underWay (hadv : Advanced s e t call prior next) (q : Phase → Bool) :
    t.underWay q p + one (prior.any q && p call.slot) =
      s.underWay q p + one (next.any q && p call.slot) := by
  obtain ⟨rest, hprior, hnext⟩ := hadv.calls
  rw [Shared.underWay, Shared.underWay, hprior.countP_eq, hnext.countP_eq, List.countP_append,
    List.countP_append, countP_inPhase, countP_inPhase]
  omega

lemma Advanced.ended (hadv : Advanced s e t call prior next) :
    t.ended (fun _ => true) p = s.ended (fun _ => true) p + one (next.isNone && p call.slot) := by
  rcases hadv.answers with ⟨hnext, hsame⟩ | ⟨phase, a, -, rfl, hnew, -⟩
  · rw [Shared.ended, Shared.ended, hsame, Option.isNone_eq_false_iff.2 (Option.isSome_iff_ne_none.2
      hnext), Bool.false_and]
    rfl
  · rw [Shared.ended, hnew, List.countP_cons]
    rfl

lemma Advanced.crashes (hadv : Advanced s e t call prior next) :
    t.ended Answer.isCrash p =
      s.ended Answer.isCrash p + one (e.kind = .crashed && p call.slot) := by
  rcases hadv.answers with ⟨hnext, hsame⟩ | ⟨phase, a, -, -, hnew, ha⟩
  · have hkind : e.kind ≠ .crashed := by
      intro hkind
      have hlife := hadv.advances
      rw [hkind] at hlife
      cases hlife
      exact hnext rfl
    rw [Shared.ended, Shared.ended, hsame, decide_eq_false hkind]
    rfl
  · have hcrash : a.isCrash = decide (e.kind = .crashed) := by
      rw [Bool.eq_iff_iff, decide_eq_true_iff, ← ha]
      cases a <;> simp [Answer.isCrash]
    rw [Shared.ended, hnew, List.countP_cons, hcrash]
    rfl

/-! ## The balances of a run -/

lemma accounts_unused {capacity : Nat} (hpos : 0 < capacity) (limit : Option Duration) :
    Accounts p [] (unused capacity hpos limit) :=
  ⟨rfl, rfl, rfl, rfl, rfl⟩

/-- A step in the life of a call keeps the balances. -/
lemma Accounts.advanced (ha : Accounts p h s) (hadv : Advanced s e t call prior next) :
    Accounts p (h ++ [e]) t := by
  have hlife := hadv.advances
  -- in each phase that a call can be in, the event moves one call from one side to the other
  constructor
  · have hbalance := ha.obtained
    have hcalls := hadv.underWay (p := p) fun _ => true
    rw [hadv.tally_concat, hadv.ended]
    generalize e.kind = kind at hlife ⊢
    cases hlife <;> simp [one_false] at hcalls ⊢ <;> omega
  · have hbalance := ha.looked
    have hcalls := hadv.underWay (p := p) Phase.isObtained
    rw [hadv.tally_concat, hadv.tally_concat, hadv.tally_concat]
    generalize e.kind = kind at hlife ⊢
    cases hlife <;> simp [Phase.isObtained, one_false] at hcalls ⊢ <;> omega
  · have hbalance := ha.missed
    have hcalls := hadv.underWay (p := p) Phase.isWaiting
    rw [hadv.tally_concat, hadv.tally_concat, hadv.tally_concat]
    generalize e.kind = kind at hlife ⊢
    cases hlife <;> simp [Phase.isWaiting, one_false] at hcalls ⊢ <;> omega
  · have hbalance := ha.started
    have hcalls := hadv.underWay (p := p) Phase.isParsing
    rw [hadv.tally_concat, hadv.tally_concat, hadv.tally_concat]
    generalize e.kind = kind at hlife ⊢
    cases hlife <;> simp [Phase.isParsing, one_false] at hcalls ⊢ <;> omega
  · rw [hadv.tally_concat, hadv.crashes, ha.crashed]

lemma Accounts.move (ha : Accounts p h s) (hs : s.Coherent) (hm : Move s e t) :
    Accounts p (h ++ [e]) t := by
  by_cases hcleared : e = .cleared
  · subst hcleared
    cases hm
    constructor
    · rw [tally_concat_cleared]
      exact ha.obtained
    · rw [tally_concat_cleared, tally_concat_cleared, tally_concat_cleared]
      exact ha.looked
    · rw [tally_concat_cleared, tally_concat_cleared, tally_concat_cleared]
      exact ha.missed
    · rw [tally_concat_cleared, tally_concat_cleared, tally_concat_cleared]
      exact ha.started
    · rw [tally_concat_cleared]
      exact ha.crashed
  · obtain ⟨call, prior, next, hadv⟩ := hm.advances hs hcleared
    exact ha.advanced hadv

/-- The accounts of a run balance. -/
theorem accounts_of_run? {capacity : Nat} {hpos : 0 < capacity} {limit : Option Duration}
    (hrun : (unused capacity hpos limit).run? as = some s) (p : SlotId → Bool) :
    Accounts p ((unused capacity hpos limit).history as) s :=
  (coherent_unused hpos limit).run_induction (accounts_unused hpos limit)
    (fun _ _ _ _ ha hs hm => ha.move hs hm) hrun

/-! ## What the cache counts itself -/

/-- The counters behind a move are those behind its event. -/
theorem Move.counters_eq (hm : Move s e t) : t.cache.counters = e.count s.cache.counters := by
  cases hm with
  | obtain _ => exact counters_obtain
  | @fill call o r _ _ _ =>
    rw [cache_receive]
    rcases o with ⟨number, error | d⟩ <;> rfl
  | take _ _ _ =>
    rw [cache_receive]
    rfl
  | discard _ _ => exact counters_discard
  | _ => rfl

/-- The cache counts its hits, its misses and the runs of the parser right, and those that failed
among them. -/
theorem counters_of_run? {capacity : Nat} {hpos : 0 < capacity} {limit : Option Duration}
    (hrun : (unused capacity hpos limit).run? as = some s) :
    let h := (unused capacity hpos limit).history as
    s.cache.counters =
      ⟨total .hit h, total .missed h, total .started h, h.countP Event.isFailure, 0⟩ := by
  refine run_induction (P := fun h s => s.cache.counters =
    ⟨total .hit h, total .missed h, total .started h, h.countP Event.isFailure, 0⟩) rfl ?_ hrun
  intro h s e t hold hm
  rw [hm.counters_eq, hold]
  simp only [total, tally, List.countP_append, List.countP_singleton]
  cases e with
  | filled runner o => rcases o with ⟨number, error | d⟩ <;> rfl
  | _ => rfl

end Shared

end Cache

end ClientCounters
