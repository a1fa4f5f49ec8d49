/-
# Blank characters

The characters that count as white space in every text the library reads: the tab, the line
breaks, the ordinary and the typographic spaces.  A text is trimmed by dropping them at both
ends, and is blank when it holds nothing else.
-/
import ClientCounters.Text.CodeRange

namespace ClientCounters.Text

/-- The intervals of white space. -/
def blankRanges : List CodeRange := [
  ⟨0x0009, 0x000D⟩, ⟨0x0020, 0x0020⟩, ⟨0x0085, 0x0085⟩, ⟨0x00A0, 0x00A0⟩, ⟨0x1680, 0x1680⟩,
  ⟨0x2000, 0x200A⟩, ⟨0x2028, 0x2029⟩, ⟨0x202F, 0x202F⟩, ⟨0x205F, 0x205F⟩, ⟨0x3000, 0x3000⟩]

/-- Whether a character is white space. -/
def isBlank (c : Char) : Bool :=
  inRanges blankRanges c

/-- The characters without the white space in front. -/
def trimStart (cs : List Char) : List Char :=
  cs.dropWhile isBlank

/-- The characters without the white space behind. -/
def trimEnd : List Char → List Char
  | [] => []
  | c :: cs =>
    match trimEnd cs with
    | [] => if isBlank c then [] else [c]
    | d :: ds => c :: d :: ds

/-- The characters without the white space at either end. -/
def trimChars (cs : List Char) : List Char :=
  trimEnd (trimStart cs)

/-- The text without the white space at either end. -/
def trim (s : String) : String :=
  String.ofList (trimChars s.toList)

/-- Whether a text holds white space only; the empty text does. -/
def isBlankText (s : String) : Bool :=
  s.toList.all isBlank

/-! ## Small facts -/

theorem trimEnd_eq_nil_iff {cs : List Char} : trimEnd cs = [] ↔ ∀ c ∈ cs, isBlank c = true := by
  induction cs with
  | nil => simp [trimEnd]
  | cons c cs ih =>
    cases h : trimEnd cs with
    | nil =>
      have hall := ih.1 h
      by_cases hc : isBlank c = true
      · simpa [trimEnd, h, hc] using hall
      · simp [trimEnd, h, hc]
    | cons d ds =>
      have hne : ¬ ∀ x ∈ cs, isBlank x = true := fun hall => by simp [ih.2 hall] at h
      simp only [trimEnd, h, reduceCtorEq, List.mem_cons, forall_eq_or_imp, false_iff, not_and]
      exact fun _ => hne

theorem trimStart_eq_nil_iff {cs : List Char} :
    trimStart cs = [] ↔ ∀ c ∈ cs, isBlank c = true := by
  induction cs with
  | nil => simp [trimStart]
  | cons c cs ih =>
    unfold trimStart at ih ⊢
    by_cases hc : isBlank c = true <;> simp [hc, ih]

/-- What is kept in front starts with a character that is not white space. -/
theorem not_isBlank_of_trimStart {cs ds : List Char} {d : Char} (h : trimStart cs = d :: ds) :
    isBlank d = false := by
  induction cs with
  | nil => simp [trimStart] at h
  | cons c cs ih =>
    unfold trimStart at ih h
    by_cases hc : isBlank c = true
    · exact ih (by simpa [List.dropWhile_cons, hc] using h)
    · simp only [List.dropWhile_cons, hc, Bool.false_eq_true, ↓reduceIte, List.cons.injEq] at h
      simpa [← h.1] using hc

theorem trimChars_eq_nil_iff {cs : List Char} :
    trimChars cs = [] ↔ ∀ c ∈ cs, isBlank c = true := by
  rw [trimChars, trimEnd_eq_nil_iff]
  cases hs : trimStart cs with
  | nil => simpa using trimStart_eq_nil_iff.1 hs
  | cons d ds =>
    have hd := not_isBlank_of_trimStart hs
    have hne : ¬ ∀ c ∈ cs, isBlank c = true := fun hall => by
      simp [trimStart_eq_nil_iff.2 hall] at hs
    simp [hd, hne]

end ClientCounters.Text
