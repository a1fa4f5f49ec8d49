/-
# Which components an expression consults

A term that names a component looks it up once; no other term looks anything up.  The terms are
taken from left to right, up to the first that has no value, and this is the order of the look-ups
too.  They become visible in a source that is watched: it answers as the source does and records
every look-up.
-/
import Mathlib.Tactic.Common
import ClientCounters.Key.Evaluation

namespace ClientCounters

/-- A look-up of a component. -/
structure Consultation where
  name : String
  /-- The text that was found, if there was one. -/
  answer : Option String
deriving DecidableEq

variable {κ α : Type}

/-- A source of components with a record of the look-ups, earliest first. -/
structure Watched (κ : Type) where
  source : κ
  made : List Consultation

variable [ComponentSource κ] {components after last : κ} {made made' : List Consultation}

instance : ComponentSource (Watched κ) where
  lookup w name :=
    let look := ComponentSource.lookup w.source name
    (look.1, ⟨look.2, w.made ++ [⟨name, look.1⟩]⟩)

lemma Watched.lookup_eq {name : String} {answer : Option String}
    (h : ComponentSource.lookup components name = (answer, after)) (before : List Consultation) :
    ComponentSource.lookup (⟨components, before⟩ : Watched κ) name =
      (answer, ⟨after, before ++ [⟨name, answer⟩]⟩) := by
  show ((ComponentSource.lookup components name).1,
    (⟨(ComponentSource.lookup components name).2,
      before ++ [⟨name, (ComponentSource.lookup components name).1⟩]⟩ : Watched κ)) = _
  rw [h]

/-- Some look-ups in a row, each answered by the source as the one before leaves it, take a source
to another state. -/
inductive Leads : κ → List Consultation → κ → Prop
  | nil (components : κ) : Leads components [] components
  | cons {components after last : κ} {name : String} {answer : Option String}
      {made : List Consultation} : ComponentSource.lookup components name = (answer, after) →
      Leads after made last → Leads components (⟨name, answer⟩ :: made) last

lemma Leads.append (h : Leads components made after) (h' : Leads after made' last) :
    Leads components (made ++ made') last := by
  induction h with
  | nil => exact h'
  | cons hlook _ ih => exact .cons hlook (ih h')

/-- An evaluation makes some look-ups: they lead to the source that it leaves, and where the source
is watched the evaluation comes to the same and these look-ups are recorded, no others. -/
structure Makes (components : κ) (made : List Consultation) (plain : α × κ)
    (watched : List Consultation → α × Watched κ) : Prop where
  leads : Leads components made plain.2
  watched_eq : ∀ before, watched before = (plain.1, ⟨plain.2, before ++ made⟩)

lemma Makes.none (components : κ) (a : α) :
    Makes components [] (a, components) fun before => (a, ⟨components, before⟩) where
  leads := .nil components
  watched_eq before := by rw [List.append_nil]

namespace Term

variable {context : ResolutionContext} {t : Term} {ts front back : List Term} {v w : String}
  {e : ResolutionError} {r : Except ResolutionError String}

/-! ## One term -/

/-- The component that a term names. -/
def componentName? : Term → Option String
  | component name => some name
  | _ => none

/-- The components that some terms name. -/
def componentNames (ts : List Term) : List String :=
  ts.filterMap componentName?

/-- What a term comes to with the look-ups that are made for it. -/
inductive Takes (context : ResolutionContext) :
    Term → List Consultation → Except ResolutionError String → Prop
  | attribute {path : List String} {v : AttributeValue} : context.descriptor.resolve path = .ok v →
      Takes context (.descriptor path) [] (.ok v.toString)
  | noAttribute {path : List String} {segment : String} :
      context.descriptor.resolve path = .error segment →
      Takes context (.descriptor path) []
        (.error (.unknownAttribute (String.intercalate "." path) segment))
  | call {call : RequestCall} {v : String} : call.value? context.request = some v →
      Takes context (.request call) [] (.ok v)
  | noCall {call : RequestCall} : call.value? context.request = none →
      Takes context (.request call) [] (.error (.missingRequestValue call.text))
  | found (name v : String) : Takes context (.component name) [⟨name, some v⟩] (.ok v)
  | missing (name : String) :
      Takes context (.component name) [⟨name, none⟩] (.error (.unknownComponent name))
  | literal (text : String) : Takes context (.literal text) [] (.ok text)

lemma Takes.map_name (h : Takes context t made r) :
    made.map (·.name) = t.componentName?.toList := by
  cases h <;> rfl

/-- A term looks up the component that it names, and nothing else. -/
lemma exists_takes (context : ResolutionContext) (components : κ) (t : Term) :
    ∃ made, Makes components made (t.evaluate context components)
        (fun before => t.evaluate context (⟨components, before⟩ : Watched κ)) ∧
      Takes context t made (t.evaluate context components).1 := by
  cases t with
  | descriptor path =>
    refine ⟨[], .none components _, ?_⟩
    rw [evaluate, pathValue]
    cases hpath : context.descriptor.resolve path with
    | ok v => exact .attribute hpath
    | error segment => exact .noAttribute hpath
  | request call =>
    refine ⟨[], .none components _, ?_⟩
    rw [evaluate]
    cases hcall : call.value? context.request with
    | some v => exact .call hcall
    | none => exact .noCall hcall
  | literal text => exact ⟨[], .none components _, .literal text⟩
  | component name =>
    rcases hlook : ComponentSource.lookup components name with ⟨answer, after⟩
    have hwatched := Watched.lookup_eq hlook
    refine ⟨[⟨name, answer⟩], ⟨?_, fun before => ?_⟩, ?_⟩
    · rw [evaluate, hlook]
      cases answer <;> exact .cons hlook (.nil after)
    · rw [evaluate, hwatched, evaluate, hlook]
      cases answer <;> rfl
    · rw [evaluate, hlook]
      cases answer with
      | some v => exact .found name v
      | none => exact .missing name

/-! ## Terms in a row -/

/-- All of some terms have values, and these are concatenated. -/
inductive TakesAll (context : ResolutionContext) : List Term → List Consultation → String → Prop
  | nil : TakesAll context [] [] ""
  | cons {t : Term} {ts : List Term} {made made' : List Consultation} {v w : String} :
      Takes context t made (.ok v) → TakesAll context ts made' w →
      TakesAll context (t :: ts) (made ++ made') (v ++ w)

/-- Some terms are taken up to the first that has no value. -/
inductive TakesUpTo (context : ResolutionContext) :
    List Term → List Consultation → Except ResolutionError String → Prop
  | all {ts : List Term} {made : List Consultation} {v : String} : TakesAll context ts made v →
      TakesUpTo context ts made (.ok v)
  | failed {front : List Term} {t : Term} {made made' : List Consultation} {v : String}
      {e : ResolutionError} (back : List Term) : TakesAll context front made v →
      Takes context t made' (.error e) →
      TakesUpTo context (front ++ t :: back) (made ++ made') (.error e)

lemma TakesAll.map_name (h : TakesAll context ts made v) :
    made.map (·.name) = componentNames ts := by
  induction h with
  | nil => rfl
  | @cons t ts made made' v w hfirst _ ih =>
    rw [List.map_append, ih, hfirst.map_name, componentNames, componentNames, List.filterMap_cons]
    cases t.componentName? <;> rfl

/-- Among the terms up to the first without a value are the components that are looked up. -/
lemma TakesAll.map_name_append (h : TakesAll context front made v) (h' : Takes context t made' r) :
    (made ++ made').map (·.name) = componentNames (front ++ [t]) := by
  rw [List.map_append, h.map_name, h'.map_name, componentNames, componentNames,
    List.filterMap_append, List.filterMap_cons, List.filterMap_nil]
  cases t.componentName? <;> rfl

lemma TakesUpTo.cons (h : Takes context t made (.ok v)) (h' : TakesUpTo context ts made' r) :
    TakesUpTo context (t :: ts) (made ++ made') (r.map (v ++ ·)) := by
  cases h' with
  | all hall => exact .all (.cons h hall)
  | failed back hfront hlast =>
    rw [← List.append_assoc, ← List.cons_append]
    exact .failed back (.cons h hfront) hlast

/-- Nothing is evaluated behind a term without a value. -/
lemma evaluateAll_cons_of_error (h : t.evaluate context components = (.error e, after)) :
    evaluateAll context components (t :: ts) = (.error e, after) := by
  rw [evaluateAll, h]

/-- The value of a term stands in front of what the other terms come to. -/
lemma evaluateAll_cons_of_ok (h : t.evaluate context components = (.ok v, after)) :
    evaluateAll context components (t :: ts) =
      ((evaluateAll context after ts).1.map (v ++ ·), (evaluateAll context after ts).2) := by
  rw [evaluateAll, h]
  dsimp only
  rcases evaluateAll context after ts with ⟨_ | _, _⟩ <;> rfl

/-- The terms are taken from left to right, up to the first that has no value. -/
lemma exists_takesUpTo (context : ResolutionContext) (components : κ) (ts : List Term) :
    ∃ made, Makes components made (evaluateAll context components ts)
        (fun before => evaluateAll context (⟨components, before⟩ : Watched κ) ts) ∧
      TakesUpTo context ts made (evaluateAll context components ts).1 := by
  induction ts generalizing components with
  | nil => exact ⟨[], .none components _, .all .nil⟩
  | cons t ts ih =>
    obtain ⟨made, hmakes, htakes⟩ := exists_takes context components t
    rcases hfirst : t.evaluate context components with ⟨e | v, after⟩ <;>
      rw [hfirst] at hmakes htakes
    · rw [evaluateAll_cons_of_error hfirst]
      refine ⟨made, ⟨hmakes.leads, fun before => ?_⟩, .failed ts .nil htakes⟩
      exact evaluateAll_cons_of_error (hmakes.watched_eq before)
    · obtain ⟨made', hmakes', hrest⟩ := ih after
      rw [evaluateAll_cons_of_ok hfirst]
      refine ⟨made ++ made', ⟨hmakes.leads.append hmakes'.leads, fun before => ?_⟩,
        .cons htakes hrest⟩
      -- the look-ups for the first term are recorded when the others are evaluated
      have hwatched := hmakes'.watched_eq (before ++ made)
      rw [evaluateAll_cons_of_ok (hmakes.watched_eq before), hwatched, List.append_assoc]

end Term

end ClientCounters
