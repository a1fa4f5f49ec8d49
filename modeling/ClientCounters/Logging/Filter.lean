/-
# Log filters

A filter is a row of directives with commas between them, as in `warn,shop=debug`.  Of the
directives that apply to an event the most specific one decides.
-/
import ClientCounters.Log
import ClientCounters.Logging.Directive

namespace ClientCounters

/-- A filter of events. -/
structure LogFilter where
  directives : List Directive
deriving DecidableEq, Repr

namespace LogFilter

/-- What is let through when a filter has no directives: errors only. -/
def errorsOnly : LogFilter :=
  ⟨[{ verbosity := 1 }]⟩

/-- The filter that a text spells; nothing between commas is no directive. -/
def read (s : String) : Except FilterError LogFilter := do
  let ds ← ((s.toList.splitOn ',').filter (!·.isEmpty)).mapM Directive.read
  return if ds.isEmpty then errorsOnly else ⟨ds⟩

/-- The directive that decides about events outside of all spans; of equally specific ones the
last. -/
def deciding? (f : LogFilter) (target : String) (fields : List String) : Option Directive :=
  (f.directives.filter fun d => d.isStatic && d.appliesTo target fields).foldl
    (fun best d =>
      match best with
      | none => some d
      | some b => if d.atLeast b then some d else some b)
    none

/-- Whether events of a verbosity are printed. -/
def enables (f : LogFilter) (target : String) (fields : List String) (v : Verbosity) : Bool :=
  match f.deciding? target fields with
  | some d => v ≤ d.verbosity
  | none => false

end LogFilter

end ClientCounters
