/-
# Small letters stay as they are

Turning a text into small letters a second time changes nothing.  The table of capitals is the
reason: no small letter of a run is itself a capital of any run, which `caseRuns_apart` reads off
the table, run against run.  The form of a sigma depends on what stands around it, but both forms
are small letters, so the second pass never meets a sigma whose surroundings could matter.
-/
import Mathlib.Tactic.Common
import ClientCounters.Text.Lowercase

namespace ClientCounters.Text

namespace CaseRun

/-- The distance from the first to the last capital of a run. -/
def width (r : CaseRun) : Nat :=
  r.last - r.first

/-- Whether the small letters of `r` can be told from the capitals of `q`: they lie in front of
them or behind them, or there is always one place between two of them where they overlap. -/
def apart (r q : CaseRun) : Bool :=
  Nat.blt (r.small + r.width) q.first || Nat.blt q.last r.small ||
    ((r.stride % 2 == 0 || r.first == r.last) && q.stride % 2 == 0 &&
      !(r.small % 2 == q.first % 2))

/-- Whether the code points of the small letters of `r` are characters, the two that have rules of
their own not among them. -/
def plain (r : CaseRun) : Bool :=
  (Nat.blt (r.small + r.width) 0xD800 || Nat.blt 0xDFFF r.small) &&
    Nat.blt (r.small + r.width) 0x110000 &&
    (Nat.blt (r.small + r.width) 0x130 || Nat.blt 0x130 r.small) &&
    (Nat.blt (r.small + r.width) 0x3A3 || Nat.blt 0x3A3 r.small)

end CaseRun

lemma caseRuns_apart : (caseRuns.all fun r => caseRuns.all r.apart) = true := by
  decide +kernel

lemma caseRuns_plain : caseRuns.all CaseRun.plain = true := by
  decide +kernel

/-- A character that is its own small form, whatever stands around it. -/
structure IsSmall (c : Char) : Prop where
  /-- It is no sigma, whose small form depends on its surroundings. -/
  ne_sigma : c ≠ 'Σ'
  /-- It is no capital. -/
  smallLetters_eq : smallLetters c = [c]

lemma isSmall_finalSigma : IsSmall 'ς' := by
  constructor <;> decide +kernel

lemma isSmall_sigma : IsSmall 'σ' := by
  constructor <;> decide +kernel

lemma isSmall_hyphen : IsSmall '-' := by
  constructor <;> decide +kernel

lemma isSmall_dot : IsSmall '.' := by
  constructor <;> decide +kernel

lemma isSmall_of_mem_dottedI {c : Char} (h : c ∈ ['i', '\u0307']) : IsSmall c := by
  simp only [List.mem_cons, List.not_mem_nil, or_false] at h
  rcases h with rfl | rfl <;> constructor <;> decide +kernel

namespace CaseRun

lemma contains_iff {r : CaseRun} {c : Char} :
    r.contains c = true ↔
      r.first ≤ c.toNat ∧ c.toNat ≤ r.last ∧ (c.toNat - r.first) % r.stride = 0 := by
  simp [contains, and_assoc]

/-- The code point of the small letter of a capital. -/
lemma toNat_smallOf {r : CaseRun} (hr : r ∈ caseRuns) {c : Char} (hc : r.contains c = true) :
    (r.smallOf c).toNat = r.small + (c.toNat - r.first) := by
  have hp := List.all_eq_true.1 caseRuns_plain r hr
  obtain ⟨h1, h2, -⟩ := contains_iff.1 hc
  simp only [plain, width, Bool.and_eq_true, Bool.or_eq_true, Nat.blt_eq] at hp
  have hv : (r.small + (c.toNat - r.first)).isValidChar := by
    rw [Nat.isValidChar]
    omega
  rw [smallOf, Char.ofNat, dif_pos hv]
  exact UInt32.toNat_ofNatLT

/-- No run holds the small letter of a capital. -/
lemma not_contains_smallOf {r q : CaseRun} (hr : r ∈ caseRuns) (hq : q ∈ caseRuns) {c : Char}
    (hc : r.contains c = true) : q.contains (r.smallOf c) = false := by
  have ha := List.all_eq_true.1 (List.all_eq_true.1 caseRuns_apart r hr) q hq
  obtain ⟨h1, h2, h3⟩ := contains_iff.1 hc
  simp only [apart, width, Bool.or_eq_true, Bool.and_eq_true, Nat.blt_eq, beq_iff_eq,
    Bool.not_eq_true', beq_eq_false_iff_ne] at ha
  rw [Bool.eq_false_iff]
  intro hmem
  obtain ⟨h4, h5, h6⟩ := contains_iff.1 hmem
  rw [toNat_smallOf hr hc] at h4 h5 h6
  rcases ha with (ha | ha) | ⟨⟨hs, hqs⟩, hne⟩
  · omega
  · omega
  · -- both runs go by twos here, so that the distances are even and the parities tell them apart
    have heven : (c.toNat - r.first) % 2 = 0 := by
      rcases hs with hs | hs
      · exact Nat.mod_eq_zero_of_dvd
          (Nat.dvd_trans (Nat.dvd_of_mod_eq_zero hs) (Nat.dvd_of_mod_eq_zero h3))
      · omega
    have heven' : (r.small + (c.toNat - r.first) - q.first) % 2 = 0 :=
      Nat.mod_eq_zero_of_dvd
        (Nat.dvd_trans (Nat.dvd_of_mod_eq_zero hqs) (Nat.dvd_of_mod_eq_zero h6))
    omega

end CaseRun

/-- The small letter of a capital is small. -/
lemma isSmall_smallOf {r : CaseRun} (hr : r ∈ caseRuns) {c : Char} (hc : r.contains c = true) :
    IsSmall (r.smallOf c) := by
  have hp := List.all_eq_true.1 caseRuns_plain r hr
  have hn := CaseRun.toNat_smallOf hr hc
  obtain ⟨h1, h2, -⟩ := CaseRun.contains_iff.1 hc
  simp only [CaseRun.plain, CaseRun.width, Bool.and_eq_true, Bool.or_eq_true, Nat.blt_eq] at hp
  have hsigma : r.smallOf c ≠ 'Σ' := by
    intro h
    rw [h] at hn
    have : ('Σ' : Char).toNat = 0x3A3 := rfl
    omega
  have hdotted : r.smallOf c ≠ 'İ' := by
    intro h
    rw [h] at hn
    have : ('İ' : Char).toNat = 0x130 := rfl
    omega
  have hnone : caseRuns.find? (·.contains (r.smallOf c)) = none := by
    rw [List.find?_eq_none]
    intro q hq
    rw [CaseRun.not_contains_smallOf hr hq hc]
    simp
  refine ⟨hsigma, ?_⟩
  rw [smallLetters, if_neg hdotted, hnone]

/-- The small form of a character other than sigma is made of small characters. -/
lemma isSmall_of_mem_smallLetters {c d : Char} (hc : c ≠ 'Σ') (hd : d ∈ smallLetters c) :
    IsSmall d := by
  rw [smallLetters] at hd
  split at hd
  · exact isSmall_of_mem_dottedI hd
  · next hdotted =>
    split at hd
    · next r hr =>
      rw [List.mem_singleton.1 hd]
      exact isSmall_smallOf (List.mem_of_find?_eq_some hr) (by simpa using List.find?_some hr)
    · next hnone =>
      rw [List.mem_singleton.1 hd]
      exact ⟨hc, by rw [smallLetters, if_neg hdotted, hnone]⟩

lemma isSmall_smallSigma (before after : List Char) : IsSmall (smallSigma before after) := by
  rw [smallSigma]
  split
  · exact isSmall_finalSigma
  · exact isSmall_sigma

lemma isSmall_of_mem_lowercaseFrom {before cs : List Char} {d : Char}
    (hd : d ∈ lowercaseFrom before cs) : IsSmall d := by
  induction cs generalizing before with
  | nil => simp [lowercaseFrom] at hd
  | cons c cs ih =>
    rw [lowercaseFrom, List.mem_append] at hd
    rcases hd with hd | hd
    · split at hd
      · rw [List.mem_singleton.1 hd]
        exact isSmall_smallSigma before cs
      · next hc => exact isSmall_of_mem_smallLetters hc hd
    · exact ih hd

lemma lowercaseFrom_eq_self {before cs : List Char} (h : ∀ c ∈ cs, IsSmall c) :
    lowercaseFrom before cs = cs := by
  induction cs generalizing before with
  | nil => rfl
  | cons c cs ih =>
    obtain ⟨hne, heq⟩ := h c List.mem_cons_self
    rw [lowercaseFrom, if_neg hne, heq, ih fun d hd => h d (List.mem_cons_of_mem c hd)]
    rfl

lemma smallLetters_ne_nil (c : Char) : smallLetters c ≠ [] := by
  rw [smallLetters]
  split
  · exact List.cons_ne_nil _ _
  · split <;> exact List.cons_ne_nil _ _

/-- No character is lost. -/
lemma lowercaseChars_ne_nil {cs : List Char} (h : cs ≠ []) : lowercaseChars cs ≠ [] := by
  cases cs with
  | nil => exact absurd rfl h
  | cons c cs =>
    rw [lowercaseChars, lowercaseFrom]
    refine List.append_ne_nil_of_left_ne_nil ?_ _
    split
    · exact List.cons_ne_nil _ _
    · exact smallLetters_ne_nil c

/-- Every character of a text in small letters is small. -/
lemma isSmall_of_mem_lowercaseChars {cs : List Char} {d : Char} (hd : d ∈ lowercaseChars cs) :
    IsSmall d :=
  isSmall_of_mem_lowercaseFrom hd

/-- A text of small characters is left as it is. -/
lemma lowercaseChars_eq_self {cs : List Char} (h : ∀ c ∈ cs, IsSmall c) :
    lowercaseChars cs = cs :=
  lowercaseFrom_eq_self h

end ClientCounters.Text
