/-
# Named components

Keys may refer to values that the application registers by name.  A look-up may change what later
look-ups find, so a source of components is a state that is passed along.
-/
import ClientCounters.Text.Quoted

namespace ClientCounters

/-- A source of named texts. -/
class ComponentSource (σ : Type) where
  /-- The text of a component, if there is one of that name, and the source afterwards. -/
  lookup : σ → String → Option String × σ

/-- A registered component. -/
inductive Component where
  /-- A text that never changes. -/
  | fixed (text : String)
  /-- A text computed at every look-up: `reading n` at the one with number `n`, of which
  `count` have taken place. -/
  | computed (reading : Nat → String) (count : Nat)

namespace Component

/-- The text of a component and the component after the look-up. -/
def take : Component → String × Component
  | fixed text => (text, fixed text)
  | computed reading count => (reading count, computed reading (count + 1))

end Component

/-- Components by name; no name occurs twice. -/
structure ComponentRegistry where
  /-- The names with their components. -/
  entries : List (String × Component) := []

namespace ComponentRegistry

/-- Registers a component; one registered before under that name is replaced. -/
def insert (r : ComponentRegistry) (name : String) (c : Component) : ComponentRegistry :=
  ⟨(name, c) :: r.entries.filter (·.1 != name)⟩

/-- The registry of some names and components, later ones replacing earlier ones. -/
def ofList (entries : List (String × Component)) : ComponentRegistry :=
  entries.foldl (fun r e => r.insert e.1 e.2) {}

/-- The names in ascending order. -/
def names (r : ComponentRegistry) : List String :=
  (r.entries.map (·.1)).mergeSort fun a b => decide (a ≤ b)

/-- The number of components. -/
def size (r : ComponentRegistry) : Nat :=
  r.entries.length

/-- Whether nothing is registered. -/
def isEmpty (r : ComponentRegistry) : Bool :=
  r.entries.isEmpty

/-- The text of a component and the registry after the look-up. -/
def lookup (r : ComponentRegistry) (name : String) : Option String × ComponentRegistry :=
  match r.entries.lookup name with
  | none => (none, r)
  | some c =>
    let (text, after) := c.take
    (some text, ⟨r.entries.map fun e => if e.1 = name then (name, after) else e⟩)

instance : ComponentSource ComponentRegistry := ⟨lookup⟩

/-- The registry as diagnostics show it. -/
def diagnostic (r : ComponentRegistry) : String :=
  "ComponentRegistry \x7b names: " ++ Text.quotedList r.names ++ " \x7d"

end ComponentRegistry

end ClientCounters
