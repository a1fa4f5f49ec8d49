/-
# Parameters come back as they were written

A query is written from items, each a key with a value or a key alone, with `&` between them and
empty pieces anywhere.  Every text is written from some items (`exists_encodes`), and a parameter is
read from the first item with its key, if there is one (`reads_of_encodes`).
-/
import Mathlib.Data.List.Basic
import Mathlib.Tactic.Common
import ClientCounters.Http.Request
import ClientCounters.Proofs.Text.Parts

namespace ClientCounters.Http

/-- What a query is written from. -/
inductive QueryItem where
  /-- A key with a value. -/
  | pair (key value : String)
  /-- A key alone. -/
  | flag (key : String)

namespace QueryItem

def key : QueryItem → String
  | pair key _ | flag key => key

/-- The value; a key alone has the empty one. -/
def value : QueryItem → String
  | pair _ value => value
  | flag _ => ""

/-- An item as it is written. -/
def text : QueryItem → List Char
  | pair key value => key.toList ++ '=' :: value.toList
  | flag key => key.toList

/-- An item can be told from its neighbours, and its key from its value. -/
structure Proper (i : QueryItem) : Prop where
  ampersand_key : '&' ∉ i.key.toList
  equals_key : '=' ∉ i.key.toList
  ampersand_value : '&' ∉ i.value.toList
  /-- A key alone is not empty. -/
  text_ne_nil : i.text ≠ []

end QueryItem

variable {i : QueryItem} {items : List QueryItem} {piece : List Char} {pieces : List (List Char)}
  {query name value : String} {view : View}

/-- The pieces of a query are some items, in order, with empty pieces anywhere. -/
inductive Encodes : List (List Char) → List QueryItem → Prop
  | nil : Encodes [] []
  | empty {pieces : List (List Char)} {items : List QueryItem} :
      Encodes pieces items → Encodes ([] :: pieces) items
  | item {i : QueryItem} {pieces : List (List Char)} {items : List QueryItem} :
      i.Proper → Encodes pieces items → Encodes (i.text :: pieces) (i :: items)

/-! ## One piece -/

lemma queryItem?_text (h : i.Proper) :
    queryItem? i.text = some (i.key.toList, i.value.toList) := by
  cases i with
  | pair key value =>
    have hcut : Text.cut? '=' (key.toList ++ '=' :: value.toList) =
        some (key.toList, value.toList) := Text.cut?_eq_some_iff.2 ⟨h.equals_key, rfl⟩
    rw [QueryItem.text, queryItem?, hcut]
    rfl
  | flag key =>
    have hcut : Text.cut? '=' key.toList = none := Text.cut?_eq_none_iff.2 h.equals_key
    have hne : ¬ key.toList.isEmpty = true := mt List.isEmpty_iff.1 h.text_ne_nil
    rw [QueryItem.text, queryItem?, hcut]
    exact if_neg hne

lemma ampersand_not_mem_text (h : i.Proper) : '&' ∉ i.text := by
  cases i with
  | pair key value =>
    rw [QueryItem.text, List.mem_append, List.mem_cons, not_or, not_or]
    exact ⟨h.ampersand_key, by decide, h.ampersand_value⟩
  | flag key => exact h.ampersand_key

/-- A piece that is not empty is an item. -/
lemma exists_proper (hne : piece ≠ []) (hpiece : '&' ∉ piece) :
    ∃ i : QueryItem, i.Proper ∧ i.text = piece := by
  cases hcut : Text.cut? '=' piece with
  | none =>
    refine ⟨.flag (String.ofList piece), ⟨?_, ?_, ?_, ?_⟩, String.toList_ofList⟩
    · simpa [QueryItem.key] using hpiece
    · simpa [QueryItem.key] using Text.cut?_eq_none_iff.1 hcut
    · simp [QueryItem.value]
    · simpa [QueryItem.text] using hne
  | some parts =>
    obtain ⟨hequals, rfl⟩ := Text.cut?_eq_some_iff.1 hcut
    rw [List.mem_append, List.mem_cons, not_or, not_or] at hpiece
    refine ⟨.pair (String.ofList parts.1) (String.ofList parts.2), ⟨?_, ?_, ?_, ?_⟩, ?_⟩
    · simpa [QueryItem.key] using hpiece.1
    · simpa [QueryItem.key] using hequals
    · simpa [QueryItem.value] using hpiece.2.2
    · simp [QueryItem.text]
    · simp [QueryItem.text]

/-! ## A row of pieces -/

namespace Encodes

lemma filterMap_queryItem? (h : Encodes pieces items) :
    pieces.filterMap queryItem? = items.map fun i => (i.key.toList, i.value.toList) := by
  induction h with
  | nil => rfl
  | empty _ ih => exact ih
  | item hi _ ih => rw [List.filterMap_cons_some (queryItem?_text hi), ih, List.map_cons]

lemma ampersand_not_mem (h : Encodes pieces items) : ∀ piece ∈ pieces, '&' ∉ piece := by
  induction h with
  | nil => exact nofun
  | empty _ ih => exact List.forall_mem_cons.2 ⟨List.not_mem_nil, ih⟩
  | item hi _ ih => exact List.forall_mem_cons.2 ⟨ampersand_not_mem_text hi, ih⟩

lemma proper (h : Encodes pieces items) : ∀ i ∈ items, i.Proper := by
  induction h with
  | nil => exact nofun
  | empty _ ih => exact ih
  | item hi _ ih => exact List.forall_mem_cons.2 ⟨hi, ih⟩

/-- The items of a query are those it is written from. -/
lemma queryItems (h : Encodes pieces items) : queryItems (['&'].intercalate pieces) =
    items.map fun i => (i.key.toList, i.value.toList) := by
  rw [Http.queryItems, ← h.filterMap_queryItem?]
  cases pieces with
  | nil => rfl
  | cons piece pieces =>
    rw [List.splitOn_intercalate _ h.ampersand_not_mem (List.cons_ne_nil _ _)]

end Encodes

lemma exists_encodes_of_pieces (h : ∀ piece ∈ pieces, '&' ∉ piece) :
    ∃ items, Encodes pieces items := by
  induction pieces with
  | nil => exact ⟨[], .nil⟩
  | cons piece pieces ih =>
    rw [List.forall_mem_cons] at h
    obtain ⟨items, hitems⟩ := ih h.2
    by_cases hne : piece = []
    · exact ⟨items, hne ▸ hitems.empty⟩
    · obtain ⟨i, hi, rfl⟩ := exists_proper hne h.1
      exact ⟨i :: items, .item hi hitems⟩

/-- Every query is written from some items. -/
lemma exists_encodes (query : List Char) :
    ∃ pieces items, query = ['&'].intercalate pieces ∧ Encodes pieces items := by
  have hpieces : ∀ piece ∈ query.splitOn '&', '&' ∉ piece :=
    fun _ => Text.not_mem_of_mem_splitOn
  obtain ⟨items, hitems⟩ := exists_encodes_of_pieces hpieces
  exact ⟨_, items, (List.intercalate_splitOn _).symm, hitems⟩

/-! ## A parameter -/

/-- The first item with a key has this value. -/
def FirstValue (items : List QueryItem) (name value : String) : Prop :=
  ∃ before i after, items = before ++ i :: after ∧ i.key = name ∧ i.value = value ∧
    ∀ j ∈ before, j.key ≠ name

lemma parameter_eq_find? (h : Encodes pieces items)
    (hquery : query.toList = ['&'].intercalate pieces) (hview : view.query = some query) :
    view.parameter name = (items.find? (·.key == name)).map QueryItem.value := by
  have hkey (i : QueryItem) : (i.key.toList == name.toList) = (i.key == name) := by
    rw [Bool.eq_iff_iff, beq_iff_eq, beq_iff_eq, String.toList_inj]
  rw [View.parameter, hview, Option.bind_some, hquery, queryValue?, h.queryItems, List.find?_map,
    Option.map_map, Option.map_map]
  simp [Function.comp_def, hkey]

lemma find?_eq_some_iff_firstValue :
    (items.find? (·.key == name)).map QueryItem.value = some value ↔
      FirstValue items name value := by
  simp only [Option.map_eq_some_iff, List.find?_eq_some_iff_append, FirstValue]
  constructor
  · rintro ⟨i, ⟨hi, before, after, rfl, hbefore⟩, rfl⟩
    exact ⟨before, i, after, rfl, by simpa using hi, rfl, by simpa using hbefore⟩
  · rintro ⟨before, i, after, rfl, hi, rfl, hbefore⟩
    exact ⟨i, ⟨by simpa using hi, before, after, rfl, by simpa using hbefore⟩, rfl⟩

/-- A query answers what it is written from. -/
structure Reads (view : View) (items : List QueryItem) : Prop where
  found : ∀ name value, view.parameter name = some value ↔ FirstValue items name value
  missing : ∀ name, view.parameter name = none ↔ ∀ i ∈ items, i.key ≠ name

lemma reads_of_encodes (h : Encodes pieces items) (hquery : query.toList = ['&'].intercalate pieces)
    (hview : view.query = some query) : Reads view items where
  found name value := by
    rw [parameter_eq_find? h hquery hview, find?_eq_some_iff_firstValue]
  missing name := by
    rw [parameter_eq_find? h hquery hview]
    simp

lemma parameter_of_no_query (h : view.query = none) : view.parameter name = none := by
  rw [View.parameter, h, Option.bind_none]

/-- A name with a separator in it is the key of no item. -/
lemma parameter_of_separator (h : '&' ∈ name.toList ∨ '=' ∈ name.toList) :
    view.parameter name = none := by
  cases hview : view.query with
  | none => exact parameter_of_no_query hview
  | some query =>
    obtain ⟨pieces, items, hquery, hitems⟩ := exists_encodes query.toList
    rw [(reads_of_encodes hitems hquery hview).missing]
    rintro i hi rfl
    have hproper := hitems.proper i hi
    exact h.elim hproper.ampersand_key hproper.equals_key

end ClientCounters.Http
