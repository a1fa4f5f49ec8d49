/-
# Additions that overlap

Callers add to the same registry at the same time.  Each addition first looks for its counter
and adds if it is there; otherwise it comes back later to add and make the counter.  Between the
two steps anything else may happen.
-/
import ClientCounters.Counter.Registry

namespace ClientCounters.CounterRegistry

/-- An addition that has found its counter missing and has still to come back. -/
structure Pending where
  caller : Nat
  name : String
  amount : UInt64
deriving DecidableEq, Repr

/-- A registry and the additions under way. -/
structure Shared where
  registry : CounterRegistry := {}
  pending : List Pending := []

/-- What may happen next. -/
inductive Step where
  /-- A caller starts to add to a counter. -/
  | start (caller : Nat) (name : String) (amount : UInt64)
  /-- A caller whose counter was missing comes back. -/
  | finish (caller : Nat)
  /-- All counters are forgotten. -/
  | reset

namespace Shared

/-- The state after a step; a caller has at most one addition under way. -/
def step? (s : Shared) : Step → Option Shared
  | .start caller name amount =>
    if s.pending.any (·.caller == caller) then none
    else
      match s.registry.addExisting? name amount with
      | some registry => some { s with registry }
      | none => some { s with pending := ⟨caller, name, amount⟩ :: s.pending }
  | .finish caller =>
    (s.pending.find? (·.caller == caller)).map fun p =>
      { registry := s.registry.addOrCreate p.name p.amount
        pending := s.pending.filter (·.caller != caller) }
  | .reset => some { s with registry := s.registry.reset }

/-- The state after some steps in a row. -/
def run? (s : Shared) (steps : List Step) : Option Shared :=
  steps.foldlM step? s

end Shared

end ClientCounters.CounterRegistry
