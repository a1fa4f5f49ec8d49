/-
# Look-ups that overlap

Many callers use one cache at the same time.  A look-up is made of steps that exclude each other
only where they must: obtaining the slot, looking into it, starting the parser for an empty slot,
ending that run, taking the outcome that another caller left, and taking a failed slot out.  In
between, other callers make steps of their own, and the cache may be cleared.
-/
import ClientCounters.Cache.Basic

namespace ClientCounters

namespace Cache

/-- The number of a caller. -/
abbrev CallId := Nat

/-- How far a call has got. -/
inductive Phase where
  /-- It has a slot and has not looked into it. -/
  | obtained
  /-- It is counted as a miss and waits for the slot. -/
  | waiting
  /-- It runs the parser to fill the slot. -/
  | parsing (run : Nat)
  /-- It got an error and has still to take the slot out. -/
  | owesDiscard (run : Nat) (error : ParseError)
deriving DecidableEq

/-- A look-up under way. -/
structure Call where
  id : CallId
  key : String
  slot : SlotId
  phase : Phase
deriving DecidableEq

/-- A cache in use. -/
structure Shared where
  cache : Cache
  /-- The look-ups under way. -/
  calls : List Call := []
  /-- The look-ups that have ended, each as it was last and with its answer, latest first. -/
  answers : List (Call × Answer) := []

/-- What may happen next. -/
inductive Step where
  /-- A new call obtains the slot of its text. -/
  | obtain (id : CallId) (key : String)
  /-- A call looks into its slot. -/
  | look (id : CallId)
  /-- A waiting call starts the parser, the slot being empty and nobody else filling it. -/
  | start (id : CallId)
  /-- The run of a call ends. -/
  | finish (id : CallId) (run : ParserRun)
  /-- A waiting call takes the outcome that is in its slot by now. -/
  | take (id : CallId)
  /-- A call takes its failed slot out and returns the error. -/
  | discard (id : CallId)
  /-- The cache is cleared. -/
  | clear

namespace Shared

/-- The call of a caller. -/
def call? (s : Shared) (id : CallId) : Option Call :=
  s.calls.find? (·.id == id)

/-- Replaces the call of a caller. -/
def update (s : Shared) (call : Call) : List Call :=
  s.calls.map fun other => if other.id = call.id then call else other

/-- The calls without that of one caller. -/
def others (s : Shared) (id : CallId) : List Call :=
  s.calls.filter (·.id != id)

/-- Whether some call is filling a slot. -/
def isBusy (s : Shared) (slot : SlotId) : Bool :=
  s.calls.any fun call =>
    call.slot == slot &&
      match call.phase with
      | .parsing _ => true
      | _ => false

/-- A call ends with an answer. -/
def answer (s : Shared) (call : Call) (c : Cache) (a : Answer) : Shared where
  cache := c
  calls := s.others call.id
  answers := (call, a) :: s.answers

/-- A call takes an outcome: a descriptor is its answer, an error has its slot taken out first. -/
def receive (s : Shared) (call : Call) (c : Cache) (o : Outcome) : Shared :=
  match o.result with
  | .ok _ => s.answer call c (.returned o)
  | .error e =>
    { s with cache := c, calls := s.update { call with phase := .owesDiscard o.run e } }

/-- A call looks into its slot. -/
def look (s : Shared) (call : Call) : Shared :=
  match s.cache.outcomeIn? call.slot with
  | some ⟨run, .ok d⟩ => s.answer call s.cache.countHit (.returned ⟨run, .ok d⟩)
  | _ => { s with cache := s.cache.countMiss, calls := s.update { call with phase := .waiting } }

/-- The run of a call ends. -/
def finish (s : Shared) (call : Call) (number : Nat) (run : ParserRun) : Shared :=
  match run.settle s.cache.limit with
  | .returned result =>
    let o : Outcome := ⟨number, result⟩
    s.receive call (s.cache.fill call.slot o) o
  | .crashed => s.answer call s.cache .crashed

/-- The state after a step, if the step can be made. -/
def step? (s : Shared) : Step → Option Shared
  | .obtain id key =>
    if (s.call? id).isSome then none
    else
      let (cache, slot, _) := s.cache.obtain key
      some { s with cache, calls := ⟨id, key, slot, .obtained⟩ :: s.calls }
  | .look id => do
    let call ← s.call? id
    guard (call.phase = .obtained)
    return s.look call
  | .start id => do
    let call ← s.call? id
    guard (call.phase = .waiting)
    guard ((s.cache.outcomeIn? call.slot).isNone && !s.isBusy call.slot)
    let (cache, run) := s.cache.startRun
    return { s with cache, calls := s.update { call with phase := .parsing run } }
  | .finish id run => do
    let call ← s.call? id
    match call.phase with
    | .parsing number => return s.finish call number run
    | _ => none
  | .take id => do
    let call ← s.call? id
    guard (call.phase = .waiting)
    let o ← s.cache.outcomeIn? call.slot
    return s.receive call s.cache o
  | .discard id => do
    let call ← s.call? id
    match call.phase with
    | .owesDiscard run e =>
      return s.answer call (s.cache.discard call.key call.slot) (.returned ⟨run, .error e⟩)
    | _ => none
  | .clear => some { s with cache := s.cache.clear }

/-- The state after some steps in a row. -/
def run? (s : Shared) (steps : List Step) : Option Shared :=
  steps.foldlM step? s

end Shared

end Cache

end ClientCounters
