/-
# White space ends words

White space is neither a letter with a case nor passed over when the letters around a sigma are
looked for, and it is no capital either.  A hyphen is like it in all of this.  So what stands behind
white space has no bearing on what stands in front of it, and the form of a sigma is the same with a
hyphen in the place of white space.
-/
import Mathlib.Data.List.Basic
import Mathlib.Tactic.Common
import ClientCounters.Proofs.Text.Lowercase
import ClientCounters.Text.Blank

namespace ClientCounters.Text

/-! ## Classes of characters that have none in common -/

/-- Whether no interval of the one row overlaps with one of the other. -/
def rangesApart (rs qs : List CodeRange) : Bool :=
  rs.all fun r => qs.all fun q => Nat.blt r.last q.first || Nat.blt q.last r.first

lemma inRanges_eq_false_of_apart {rs qs : List CodeRange} (h : rangesApart rs qs = true) {c : Char}
    (hc : inRanges rs c = true) : inRanges qs c = false := by
  obtain ⟨r, hr, hfirst, hlast⟩ := inRanges_iff.1 hc
  rw [Bool.eq_false_iff, ne_eq, inRanges_iff]
  rintro ⟨q, hq, hfirst', hlast'⟩
  have hapart := List.all_eq_true.1 (List.all_eq_true.1 h r hr) q hq
  rw [Bool.or_eq_true, Nat.blt_eq, Nat.blt_eq] at hapart
  omega

/-- The interval from the first capital of a run to the last. -/
def CaseRun.capitals (r : CaseRun) : CodeRange :=
  ⟨r.first, r.last⟩

/-- The interval from the first small letter of a run to the last. -/
def CaseRun.smalls (r : CaseRun) : CodeRange :=
  ⟨r.small, r.small + r.width⟩

lemma blankRanges_cased : rangesApart blankRanges casedRanges = true := by
  decide +kernel

lemma blankRanges_caseIgnorable : rangesApart blankRanges caseIgnorableRanges = true := by
  decide +kernel

lemma blankRanges_capitals :
    rangesApart blankRanges (caseRuns.map CaseRun.capitals) = true := by
  decide +kernel

lemma smalls_blankRanges : rangesApart (caseRuns.map CaseRun.smalls) blankRanges = true := by
  decide +kernel

/-! ## Letters in front of and behind white space -/

/-- A character at which the search for letters ends without one. -/
structure EndsWord (c : Char) : Prop where
  not_ignorable : isCaseIgnorable c = false
  not_cased : isCased c = false

lemma endsWord_hyphen : EndsWord '-' := by
  constructor <;> decide +kernel

lemma endsWord_of_isBlank {c : Char} (hc : isBlank c = true) : EndsWord c :=
  ⟨inRanges_eq_false_of_apart blankRanges_caseIgnorable hc,
    inRanges_eq_false_of_apart blankRanges_cased hc⟩

lemma meetsCased_cons (c : Char) (cs : List Char) :
    meetsCased (c :: cs) = if isCaseIgnorable c then meetsCased cs else isCased c := by
  cases hc : isCaseIgnorable c <;> simp [meetsCased, hc]

lemma EndsWord.meetsCased_cons {c : Char} (h : EndsWord c) (cs : List Char) :
    meetsCased (c :: cs) = false := by
  rw [Text.meetsCased_cons, h.not_ignorable]
  exact h.not_cased

/-! ## White space has no case -/

/-- White space is its own small form. -/
lemma isSmall_of_isBlank {c : Char} (hc : isBlank c = true) : IsSmall c := by
  have hsigma : c ≠ 'Σ' := by
    rintro rfl
    exact absurd hc (by decide)
  have hdotted : c ≠ 'İ' := by
    rintro rfl
    exact absurd hc (by decide)
  have hnone : caseRuns.find? (·.contains c) = none := by
    rw [List.find?_eq_none]
    intro r hr hmem
    obtain ⟨hfirst, hlast, -⟩ := CaseRun.contains_iff.1 hmem
    have hcapital : inRanges (caseRuns.map CaseRun.capitals) c = true :=
      inRanges_iff.2 ⟨r.capitals, List.mem_map_of_mem hr, hfirst, hlast⟩
    rw [inRanges_eq_false_of_apart blankRanges_capitals hc] at hcapital
    cases hcapital
  exact ⟨hsigma, by rw [smallLetters, if_neg hdotted, hnone]⟩

/-- No small letter is white space. -/
lemma not_isBlank_of_mem_smallLetters {c d : Char} (hc : isBlank c = false)
    (hd : d ∈ smallLetters c) : isBlank d = false := by
  rw [smallLetters] at hd
  split at hd
  · simp only [List.mem_cons, List.not_mem_nil, or_false] at hd
    rcases hd with rfl | rfl <;> decide
  · split at hd
    · next r hr =>
      have hmem := List.mem_of_find?_eq_some hr
      have hcontains : r.contains c = true := by simpa using List.find?_some hr
      obtain ⟨hfirst, hlast, -⟩ := CaseRun.contains_iff.1 hcontains
      rw [List.mem_singleton.1 hd]
      refine inRanges_eq_false_of_apart smalls_blankRanges
        (inRanges_iff.2 ⟨r.smalls, List.mem_map_of_mem hmem, ?_⟩)
      rw [CaseRun.toNat_smallOf hmem hcontains]
      dsimp only [CaseRun.smalls, CaseRun.width]
      omega
    · rwa [List.mem_singleton.1 hd]

lemma not_isBlank_smallSigma (before after : List Char) :
    isBlank (smallSigma before after) = false := by
  rw [smallSigma]
  split <;> decide

/-- Small letters in place of capitals put no white space in front. -/
lemma not_isBlank_of_head?_lowercaseChars {cs : List Char}
    (h : ∀ c ∈ cs.head?, isBlank c = false) :
    ∀ c ∈ (lowercaseChars cs).head?, isBlank c = false := by
  cases cs with
  | nil => exact nofun
  | cons d cs =>
    have hd : isBlank d = false := h d rfl
    rw [lowercaseChars, lowercaseFrom]
    split
    · rintro c ⟨⟩
      exact not_isBlank_smallSigma _ _
    · rw [List.head?_append_of_ne_nil _ (smallLetters_ne_nil d)]
      exact fun c hc => not_isBlank_of_mem_smallLetters hd (List.mem_of_mem_head? hc)

end ClientCounters.Text
