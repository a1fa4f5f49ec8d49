/-
# Which attribute paths lead somewhere

Whether an attribute path has a value is decided by the path alone: eleven paths have one, on every
descriptor, and no other path has one on any.  A path without a value is blamed on the name behind
the longest part of it that still leads somewhere, and nothing has been written for it by then
(`attribute_paths_static`).
-/
import ClientCounters.Proofs.Key.Concatenation

namespace ClientCounters

variable {path : List String} {name segment : String} {d : Descriptor} {v w : AttributeValue}

/-! ## The attributes -/

/-- The attribute paths that have a value. -/
def attributePaths : List (List String) :=
  [["name"], ["version"], ["majorVersion"], ["minorVersion"], ["family"], ["type"],
    ["operatingSystem"], ["operatingSystem", "name"], ["operatingSystem", "family"],
    ["operatingSystem", "version"], ["operatingSystemName"]]

/-- A path that leads somewhere: to the descriptor itself, or to a value. -/
def LeadsOn (path : List String) : Prop :=
  path = [] ∨ path ∈ attributePaths

/-- A name in a path stands behind the longest part of the path that leads somewhere. -/
def Blamed (path : List String) (segment : String) : Prop :=
  ∃ front back, path = front ++ segment :: back ∧ LeadsOn front ∧
    ∀ start, start <+: path → LeadsOn start → start.length ≤ front.length

/-- Where the attribute paths of a descriptor lead, the empty one included. -/
def Descriptor.places (d : Descriptor) : List (List String × AttributeValue) :=
  [([], .object (.client d)), (["name"], .text d.name), (["version"], .text d.version),
    (["majorVersion"], .text d.majorVersion), (["minorVersion"], .text d.minorVersion),
    (["family"], .text d.family), (["type"], .text d.kind.name),
    (["operatingSystem"], .object (.system d.operatingSystem)),
    (["operatingSystem", "name"], .text d.operatingSystem.name),
    (["operatingSystem", "family"], .text d.operatingSystem.family),
    (["operatingSystem", "version"], .text d.operatingSystem.version),
    (["operatingSystemName"], .text d.operatingSystem.name)]

lemma exists_mem_places_iff : (∃ v, (path, v) ∈ d.places) ↔ LeadsOn path := by
  have hpaths : d.places.map Prod.fst = [] :: attributePaths := rfl
  rw [LeadsOn, ← List.mem_cons, ← hpaths, List.mem_map]
  simp

namespace AttributeObject

lemma attribute?_client_eq_some_iff :
    (client d).attribute? name = some v ↔ (name, v) ∈ [("name", .text d.name),
      ("version", .text d.version), ("majorVersion", .text d.majorVersion),
      ("minorVersion", .text d.minorVersion), ("family", .text d.family),
      ("type", .text d.kind.name), ("operatingSystem", .object (.system d.operatingSystem)),
      ("operatingSystemName", .text d.operatingSystem.name)] := by
  unfold attribute?
  dsimp only
  split <;> simp_all [eq_comm]

lemma attribute?_system_eq_some_iff {os : OperatingSystem} :
    (system os).attribute? name = some v ↔ (name, v) ∈ [("name", .text os.name),
      ("family", .text os.family), ("version", .text os.version)] := by
  unfold attribute?
  dsimp only
  split <;> simp_all [eq_comm]

end AttributeObject

/-! ## Walking -/

namespace AttributeValue

open AttributeObject (attribute?_client_eq_some_iff attribute?_system_eq_some_iff)

lemma walk_cons_eq_ok_iff : v.walk (name :: path) = .ok w ↔
    ∃ next, v.attribute? name = some next ∧ next.walk path = .ok w := by
  rw [walk]
  cases v.attribute? name <;> simp

/-- No path leads on from a text. -/
lemma walk_text_eq_ok_iff {s : String} : (text s).walk path = .ok w ↔ path = [] ∧ w = text s := by
  cases path with
  | nil => simp [walk, eq_comm]
  | cons name path => simp [walk_cons_eq_ok_iff, attribute?]

lemma walk_system_eq_ok_iff {os : OperatingSystem} : (object (.system os)).walk path = .ok w ↔
    (path, w) ∈ [([], .object (.system os)), (["name"], .text os.name),
      (["family"], .text os.family), (["version"], .text os.version)] := by
  cases path with
  | nil => simp [walk, eq_comm]
  | cons name path =>
    simp only [walk_cons_eq_ok_iff, attribute?, attribute?_system_eq_some_iff]
    simp [or_and_right, exists_or, and_assoc, walk_text_eq_ok_iff]

lemma walk_client_eq_ok_iff : (object (.client d)).walk path = .ok v ↔ (path, v) ∈ d.places := by
  cases path with
  | nil =>
    simp only [walk, Except.ok.injEq, Descriptor.places, List.mem_cons]
    simp [@eq_comm _ _ v]
  | cons name path =>
    simp only [walk_cons_eq_ok_iff, attribute?, attribute?_client_eq_some_iff]
    simp only [List.mem_cons, Prod.mk.injEq, List.not_mem_nil, or_false, or_and_right, exists_or,
      and_assoc, exists_and_left, exists_eq_left, walk_text_eq_ok_iff, walk_system_eq_ok_iff,
      and_or_left, or_assoc, Descriptor.places, List.cons.injEq, reduceCtorEq, false_and, false_or]

/-- A path in two parts is walked one part after the other. -/
lemma walk_append {front : List String} (h : v.walk front = .ok w) :
    v.walk (front ++ path) = w.walk path := by
  induction front generalizing v with
  | nil =>
    obtain rfl := Except.ok.inj h
    rfl
  | cons name front ih =>
    obtain ⟨next, hnext, hfront⟩ := walk_cons_eq_ok_iff.1 h
    rw [List.cons_append, walk, hnext]
    exact ih hfront

/-- A path is given up at the first name that leads nowhere. -/
lemma walk_eq_error_iff : v.walk path = .error segment ↔
    ∃ front back w, path = front ++ segment :: back ∧ v.walk front = .ok w ∧
      w.attribute? segment = none := by
  constructor
  · intro h
    induction path generalizing v with
    | nil => cases h
    | cons name path ih =>
      rw [walk] at h
      split at h
      · next next hnext =>
        obtain ⟨front, back, w, rfl, hfront, hnone⟩ := ih h
        exact ⟨name :: front, back, w, rfl, walk_cons_eq_ok_iff.2 ⟨next, hnext, hfront⟩, hnone⟩
      · next hnone =>
        obtain rfl := Except.error.inj h
        exact ⟨[], path, v, rfl, rfl, hnone⟩
  · rintro ⟨front, back, w, rfl, hfront, hnone⟩
    rw [walk_append hfront, walk, hnone]

end AttributeValue

namespace Descriptor

open AttributeValue (walk_append walk_eq_error_iff)

lemma resolve_eq_ok_iff : d.resolve path = .ok v ↔ (path, v) ∈ d.places :=
  AttributeValue.walk_client_eq_ok_iff

lemma exists_resolve_eq_ok_iff : (∃ v, d.resolve path = .ok v) ↔ LeadsOn path := by
  simp only [resolve_eq_ok_iff, exists_mem_places_iff]

/-- Which name a path is blamed on does not depend on the descriptor. -/
lemma resolve_eq_error_iff : d.resolve path = .error segment ↔ Blamed path segment := by
  constructor
  · intro h
    obtain ⟨front, back, w, rfl, hfront, hnone⟩ := walk_eq_error_iff.1 h
    refine ⟨front, back, rfl, exists_resolve_eq_ok_iff.1 ⟨w, hfront⟩, ?_⟩
    intro start hstart hleads
    by_contra hlonger
    -- a longer part goes on with the blamed name
    have hprefix : front ++ [segment] <+: start :=
      List.prefix_of_prefix_length_le ⟨back, by simp⟩ hstart (by simp; omega)
    obtain ⟨rest, rfl⟩ := hprefix
    obtain ⟨v, hv⟩ := exists_resolve_eq_ok_iff (d := d).2 hleads
    have herror : d.resolve (front ++ [segment] ++ rest) = .error segment :=
      walk_eq_error_iff.2 ⟨front, rest, w, by simp, hfront, hnone⟩
    cases hv.symm.trans herror
  · rintro ⟨front, back, rfl, hleads, hlongest⟩
    obtain ⟨w, hfront⟩ := exists_resolve_eq_ok_iff (d := d).2 hleads
    refine walk_eq_error_iff.2 ⟨front, back, w, rfl, hfront, ?_⟩
    cases hnext : w.attribute? segment with
    | none => rfl
    | some next =>
      have hlonger : LeadsOn (front ++ [segment]) := by
        refine exists_resolve_eq_ok_iff (d := d).1 ⟨next, ?_⟩
        rw [resolve, walk_append hfront, AttributeValue.walk, hnext]
        rfl
      have hle := hlongest _ ⟨back, by simp⟩ hlonger
      rw [List.length_append, List.length_singleton] at hle
      omega

end Descriptor

/-! ## The value of a path -/

namespace Term

/-- One step along a path while a text is written: to an attribute, or to the error of the path. -/
def follow (path : List String) (v : AttributeValue) (name : String) :
    ExceptT ResolutionError (StateM String) AttributeValue :=
  match v.attribute? name with
  | some next => pure next
  | none => throw (.unknownAttribute (String.intercalate "." path) name)

/-- Writes the value of an attribute path behind a text: the path is walked, and what it has led to
is written at its end. -/
def writePath (d : Descriptor) (path : List String) :
    ExceptT ResolutionError (StateM String) Unit := do
  let v ← path.foldlM (follow path) (.object (.client d))
  modify (· ++ v.toString)

/-- Walking writes nothing. -/
lemma run_follow (path names : List String) (v : AttributeValue) (out : String) :
    (names.foldlM (follow path) v).run.run out =
      match v.walk names with
      | .ok w => (.ok w, out)
      | .error segment =>
        (.error (.unknownAttribute (String.intercalate "." path) segment), out) := by
  induction names generalizing v with
  | nil => rfl
  | cons name names ih =>
    rw [List.foldlM_cons, AttributeValue.walk, follow]
    cases v.attribute? name with
    | none => rfl
    | some next =>
      rw [pure_bind]
      exact ih next

/-- The value of a path is written behind the text; a path without a value leaves the text as it
was. -/
lemma run_writePath (d : Descriptor) (path : List String) (out : String) :
    (writePath d path).run.run out =
      match pathValue d path with
      | .ok v => (.ok (), out ++ v)
      | .error e => (.error e, out) := by
  have hwalk := run_follow path path (.object (.client d)) out
  rw [writePath, pathValue, Descriptor.resolve, ExceptT.run_bind, StateT.run_bind, hwalk]
  cases (AttributeValue.object (.client d)).walk path <;> rfl

lemma pathValue_eq_ok_iff {s : String} :
    pathValue d path = .ok s ↔ ∃ v, (path, v) ∈ d.places ∧ v.toString = s := by
  simp only [← Descriptor.resolve_eq_ok_iff]
  rw [pathValue]
  cases d.resolve path <;> simp

lemma pathValue_eq_error_iff {e : ResolutionError} : pathValue d path = .error e ↔
    ∃ segment, Blamed path segment ∧
      e = .unknownAttribute (String.intercalate "." path) segment := by
  simp only [← Descriptor.resolve_eq_error_iff (d := d)]
  rw [pathValue]
  cases d.resolve path <;> simp [eq_comm]

lemma exists_pathValue_eq_ok_iff (hne : path ≠ []) :
    (∃ s, pathValue d path = .ok s) ↔ path ∈ attributePaths := by
  have hleads : (∃ s, pathValue d path = .ok s) ↔ LeadsOn path := by
    simp [pathValue_eq_ok_iff, ← exists_mem_places_iff (d := d)]
  rw [hleads, LeadsOn]
  exact or_iff_right hne

end Term

/-- An attribute path has a value on all descriptors or on none, and which it is does not depend on
what they hold. -/
structure ResolvedStatically (path : List String) : Prop where
  /-- A key that is the path, written in words, has its value, and no component is looked up. -/
  key : (∀ name ∈ path, KeyExpression.IsWord name) →
    ∀ (κ : Type) [ComponentSource κ] (context : ResolutionContext) (components : κ),
    KeyExpression.resolve ("#this." ++ String.intercalate "." path) context components =
      (Term.pathValue context.descriptor path, components)
  same : ∀ d d', (∃ s, Term.pathValue d path = .ok s) ↔ ∃ s, Term.pathValue d' path = .ok s
  reached : ∀ d, (∃ s, Term.pathValue d path = .ok s) ↔ path ∈ attributePaths
  value : ∀ d s, Term.pathValue d path = .ok s ↔ ∃ v, (path, v) ∈ d.places ∧ v.toString = s
  /-- Without a value the error names the whole path, and the name that is to blame. -/
  blame : ∀ d e, Term.pathValue d path = .error e ↔
    ∃ segment, Blamed path segment ∧ e = .unknownAttribute (String.intercalate "." path) segment
  /-- With a value this is written behind what was written before. -/
  written : ∀ d s out, Term.pathValue d path = .ok s →
    (Term.writePath d path).run.run out = (.ok (), out ++ s)
  /-- Without a value nothing is. -/
  untouched : ∀ d e out, Term.pathValue d path = .error e →
    (Term.writePath d path).run.run out = (.error e, out)

lemma spells_descriptor (hne : path ≠ []) (hwords : ∀ name ∈ path, KeyExpression.IsWord name) :
    KeyExpression.Spells (.descriptor path) ("#this." ++ String.intercalate "." path).toList := by
  rw [String.toList_append, String.toList_intercalate]
  exact .descriptor hne hwords

/-- **Where attribute paths lead is static.**  A path of one name at least has a value if and only
if it is one of eleven, whatever the descriptor; otherwise it is blamed on the name behind the
longest part that leads somewhere, and nothing is written.  The operating system, its name and the
name of the operating system are always the same text. -/
theorem attribute_paths_static (hne : path ≠ []) :
    ResolvedStatically path ∧ ∀ d : Descriptor,
      Term.pathValue d ["operatingSystem"] = .ok d.operatingSystem.name ∧
      Term.pathValue d ["operatingSystem", "name"] = .ok d.operatingSystem.name ∧
      Term.pathValue d ["operatingSystemName"] = .ok d.operatingSystem.name := by
  refine ⟨?_, fun d => ⟨rfl, rfl, rfl⟩⟩
  constructor
  case key =>
    intro hwords κ _ context components
    rw [KeyExpression.resolve_of_spellsPadded (spells_descriptor hne hwords).spellsPadded,
      Term.evaluate]
  case same =>
    intro d d'
    rw [Term.exists_pathValue_eq_ok_iff hne, Term.exists_pathValue_eq_ok_iff hne]
  case reached => exact fun d => Term.exists_pathValue_eq_ok_iff hne
  case value => exact fun d s => Term.pathValue_eq_ok_iff
  case blame => exact fun d e => Term.pathValue_eq_error_iff
  case written =>
    intro d s out h
    rw [Term.run_writePath, h]
  case untouched =>
    intro d e out h
    rw [Term.run_writePath, h]

/-- A path that walks into the text of a version: the name behind it is to blame. -/
theorem attribute_paths_static_of_walk_into_text :
    ["operatingSystem", "version", "major"] ≠ [] ∧
    ResolvedStatically ["operatingSystem", "version", "major"] ∧
    ∀ (context : ResolutionContext) (components : ComponentRegistry),
      KeyExpression.resolve "#this.operatingSystem.version.major" context components =
        (.error (.unknownAttribute "operatingSystem.version.major" "major"), components) := by
  have hwords : ∀ name ∈ ["operatingSystem", "version", "major"], KeyExpression.IsWord name := by
    simp only [← KeyExpression.isIdentifier_iff]
    decide
  have hne : ["operatingSystem", "version", "major"] ≠ [] := List.cons_ne_nil _ _
  have hstatic := (attribute_paths_static hne).1
  refine ⟨hne, hstatic, fun context components => ?_⟩
  exact (hstatic.key hwords _ context components).trans rfl

end ClientCounters
