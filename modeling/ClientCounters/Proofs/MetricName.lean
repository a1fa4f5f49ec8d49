/-
# Normalizing is done once

A normalized text has no white space left and consists of small characters only.  Normalizing
leaves such a text as it is, so that it makes no difference how often it is done.  A text that is
not empty stays so, and therefore the name of a fragment within a namespace has two parts, both of
them normalized (`WellFormed.ofParts`).
-/
import Mathlib.Tactic.Common
import ClientCounters.MetricName
import ClientCounters.Proofs.Text.Lowercase

namespace ClientCounters

open Text (isBlank IsSmall)

lemma isBlank_hyphen : isBlank '-' = false := by
  decide

lemma isBlank_dot : isBlank '.' = false := by
  decide

lemma eq_hyphen_or_mem_of_mem_hyphenate {inRun : Bool} {cs : List Char} {d : Char}
    (hd : d ∈ hyphenate inRun cs) : d = '-' ∨ d ∈ cs ∧ isBlank d = false := by
  induction cs generalizing inRun with
  | nil => simp [hyphenate] at hd
  | cons c cs ih =>
    rw [hyphenate] at hd
    split at hd
    · rcases List.mem_append.1 hd with hd | hd
      · left
        cases inRun <;> simp_all
      · exact (ih hd).imp_right fun h => ⟨List.mem_cons_of_mem c h.1, h.2⟩
    · next hc =>
      rcases List.mem_cons.1 hd with rfl | hd
      · exact Or.inr ⟨List.mem_cons_self, by simpa using hc⟩
      · exact (ih hd).imp_right fun h => ⟨List.mem_cons_of_mem c h.1, h.2⟩

lemma hyphenate_eq_self {inRun : Bool} {cs : List Char} (h : ∀ c ∈ cs, isBlank c = false) :
    hyphenate inRun cs = cs := by
  induction cs generalizing inRun with
  | nil => rfl
  | cons c cs ih =>
    have hc := h c List.mem_cons_self
    rw [hyphenate, if_neg (by simp [hc]), ih fun d hd => h d (List.mem_cons_of_mem c hd)]

/-- A character that is not white space ends every run of it. -/
lemma hyphenate_append_cons {inRun : Bool} {cs ds : List Char} {c : Char}
    (hc : isBlank c = false) :
    hyphenate inRun (cs ++ c :: ds) = hyphenate inRun cs ++ c :: hyphenate false ds := by
  induction cs generalizing inRun with
  | nil =>
    show hyphenate inRun (c :: ds) = c :: hyphenate false ds
    rw [hyphenate, if_neg (by simp [hc])]
  | cons d cs ih =>
    rw [List.cons_append, hyphenate, hyphenate, ih, ih]
    split
    · rw [List.append_assoc]
    · rfl

lemma not_isBlank_of_mem_normalizeChars {cs : List Char} {d : Char}
    (hd : d ∈ normalizeChars cs) : isBlank d = false := by
  rcases eq_hyphen_or_mem_of_mem_hyphenate hd with rfl | ⟨-, h⟩
  · exact isBlank_hyphen
  · exact h

lemma isSmall_of_mem_normalizeChars {cs : List Char} {d : Char}
    (hd : d ∈ normalizeChars cs) : IsSmall d := by
  rcases eq_hyphen_or_mem_of_mem_hyphenate hd with rfl | ⟨h, -⟩
  · exact Text.isSmall_hyphen
  · exact Text.isSmall_of_mem_lowercaseChars h

/-- A text of small characters without white space is left as it is. -/
lemma normalizeChars_eq_self {cs : List Char} (hblank : ∀ c ∈ cs, isBlank c = false)
    (hsmall : ∀ c ∈ cs, IsSmall c) : normalizeChars cs = cs := by
  rw [normalizeChars, Text.lowercaseChars_eq_self hsmall, hyphenate_eq_self hblank]

lemma normalizeChars_normalizeChars (cs : List Char) :
    normalizeChars (normalizeChars cs) = normalizeChars cs :=
  normalizeChars_eq_self (fun _ => not_isBlank_of_mem_normalizeChars)
    fun _ => isSmall_of_mem_normalizeChars

lemma normalizeChars_ne_nil {cs : List Char} (h : cs ≠ []) : normalizeChars cs ≠ [] := by
  have hlower := Text.lowercaseChars_ne_nil h
  rw [normalizeChars]
  cases hcs : Text.lowercaseChars cs with
  | nil => exact absurd hcs hlower
  | cons c cs =>
    rw [hyphenate]
    split <;> simp

lemma normalize_ne_empty {s : String} (h : s ≠ "") : normalize s ≠ "" := by
  have hne : s.toList ≠ [] := fun hnil => h (String.toList_eq_nil_iff.1 hnil)
  intro hempty
  exact normalizeChars_ne_nil hne (String.ofList_eq_empty_iff.1 hempty)

@[simp] lemma normalize_normalize (s : String) : normalize (normalize s) = normalize s := by
  simp [normalize, normalizeChars_normalizeChars]

namespace MetricName

/-- It makes no difference whether a fragment was normalized before. -/
lemma ofParts_normalize (space fragment : String) :
    ofParts space (normalize fragment) = ofParts space fragment := by
  rw [ofParts, ofParts, normalize_normalize]

/-- A name within a namespace that reads the same everywhere: two parts that are not empty with a
dot between them, no white space, and nothing that small letters or normalizing would change. -/
structure WellFormed (space : String) (name : MetricName) : Prop where
  space_ne : normalize space ≠ ""
  parts : ∃ fragment, fragment ≠ "" ∧ name.text = normalize space ++ "." ++ fragment
  not_blank : ∀ c ∈ name.text.toList, isBlank c = false
  lowercase_eq : Text.lowercase name.text = name.text
  normalize_eq : normalize name.text = name.text

lemma mem_ofParts {space fragment : String} {c : Char}
    (hc : c ∈ (ofParts space fragment).text.toList) :
    c ∈ normalizeChars space.toList ∨ c = '.' ∨ c ∈ normalizeChars fragment.toList := by
  simpa [ofParts, normalize, or_assoc] using hc

lemma WellFormed.ofParts {space fragment : String} (hspace : space ≠ "")
    (hfragment : fragment ≠ "") : WellFormed space (ofParts space fragment) := by
  have hblank : ∀ c ∈ (MetricName.ofParts space fragment).text.toList, isBlank c = false := by
    intro c hc
    rcases mem_ofParts hc with hc | rfl | hc
    · exact not_isBlank_of_mem_normalizeChars hc
    · exact isBlank_dot
    · exact not_isBlank_of_mem_normalizeChars hc
  have hsmall : ∀ c ∈ (MetricName.ofParts space fragment).text.toList, IsSmall c := by
    intro c hc
    rcases mem_ofParts hc with hc | rfl | hc
    · exact isSmall_of_mem_normalizeChars hc
    · exact Text.isSmall_dot
    · exact isSmall_of_mem_normalizeChars hc
  refine ⟨normalize_ne_empty hspace, ⟨normalize fragment, normalize_ne_empty hfragment, rfl⟩,
    hblank, ?_, ?_⟩
  · rw [Text.lowercase, Text.lowercaseChars_eq_self hsmall, String.ofList_toList]
  · rw [normalize, normalizeChars_eq_self hblank hsmall, String.ofList_toList]

end MetricName

end ClientCounters
