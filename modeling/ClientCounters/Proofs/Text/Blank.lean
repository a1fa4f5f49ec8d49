/-
# What trimming does

Trimming takes a text apart into white space, the trimmed text and white space; this and the fact
that the trimmed text has no white space at its ends say all about it (`trimChars_eq_iff`).
-/
import Mathlib.Tactic.Common
import ClientCounters.Text.Blank

namespace ClientCounters.Text

variable {cs ws ws' core : List Char}

/-- There is white space only. -/
def AllBlank (ws : List Char) : Prop :=
  ∀ c ∈ ws, isBlank c = true

/-- There is no white space at either end. -/
def Trimmed (cs : List Char) : Prop :=
  (∀ c ∈ cs.head?, isBlank c = false) ∧ ∀ c ∈ cs.getLast?, isBlank c = false

lemma allBlank_nil : AllBlank [] :=
  nofun

lemma AllBlank.append (hws : AllBlank ws) (hws' : AllBlank ws') : AllBlank (ws ++ ws') :=
  fun c hc => (List.mem_append.1 hc).elim (hws c) (hws' c)

lemma allBlank_of_isBlankText {s : String} (h : isBlankText s = true) : AllBlank s.toList :=
  List.all_eq_true.1 h

lemma trimmed_of_forall (h : ∀ c ∈ cs, isBlank c = false) : Trimmed cs :=
  ⟨fun c hc => h c (List.mem_of_mem_head? hc), fun c hc => h c (List.mem_of_getLast? hc)⟩

lemma trimmed_cons_concat {c d : Char} (hc : isBlank c = false) (hd : isBlank d = false)
    (cs : List Char) : Trimmed (c :: (cs ++ [d])) := by
  constructor
  · rintro x ⟨⟩
    exact hc
  · intro x hx
    rw [← List.cons_append, List.getLast?_concat] at hx
    exact Option.some.inj hx ▸ hd

/-- The printed characters of ASCII are no white space. -/
lemma isBlank_eq_false {c : Char} (hle : 33 ≤ c.toNat) (hge : c.toNat ≤ 126) :
    isBlank c = false := by
  have hranges : ∀ r ∈ blankRanges, r.last < 33 ∨ 126 < r.first := by decide
  rw [Bool.eq_false_iff, isBlank, ne_eq, inRanges_iff]
  rintro ⟨r, hr, hfirst, hlast⟩
  have hapart := hranges r hr
  omega

lemma isAlphanum_of_isAlpha {c : Char} (h : c.isAlpha = true) : c.isAlphanum = true :=
  Bool.or_eq_true_iff.2 (.inl h)

lemma isAlphanum_of_isDigit {c : Char} (h : c.isDigit = true) : c.isAlphanum = true :=
  Bool.or_eq_true_iff.2 (.inr h)

/-- Letters and digits of ASCII lie between the first digit and the last small letter. -/
lemma bounds_of_isAlphanum {c : Char} (hc : c.isAlphanum = true) :
    48 ≤ c.toNat ∧ c.toNat ≤ 122 := by
  have hrange (lo hi : UInt32) (hlo : 48 ≤ lo.toNat) (hhi : hi.toNat ≤ 122)
      (hge : lo ≤ c.val) (hle : c.val ≤ hi) : 48 ≤ c.toNat ∧ c.toNat ≤ 122 :=
    ⟨Nat.le_trans hlo (UInt32.le_iff_toNat_le.1 hge),
      Nat.le_trans (UInt32.le_iff_toNat_le.1 hle) hhi⟩
  rcases Bool.or_eq_true_iff.1 hc with hletter | hdigit
  · rcases Bool.or_eq_true_iff.1 hletter with hupper | hlower
    · obtain ⟨hge, hle⟩ := of_decide_eq_true hupper
      exact hrange 65 90 (by decide) (by decide) hge hle
    · obtain ⟨hge, hle⟩ := Bool.and_eq_true_iff.1 hlower
      exact hrange 97 122 (by decide) (by decide) (of_decide_eq_true hge) (of_decide_eq_true hle)
  · obtain ⟨hge, hle⟩ := Bool.and_eq_true_iff.1 hdigit
    exact hrange 48 57 (by decide) (by decide) (of_decide_eq_true hge) (of_decide_eq_true hle)

/-- Letters and digits of ASCII are no white space. -/
lemma not_isBlank_of_isAlphanum {c : Char} (hc : c.isAlphanum = true) : isBlank c = false := by
  obtain ⟨hle, hge⟩ := bounds_of_isAlphanum hc
  exact isBlank_eq_false (by omega) (by omega)

lemma ne_empty_of_not_blank {s : String} (h : isBlankText s = false) : s ≠ "" := by
  rintro rfl
  cases h

/-! ## Taking white space off -/

lemma trimStart_append (hws : AllBlank ws) : trimStart (ws ++ cs) = trimStart cs :=
  List.dropWhile_append_of_pos hws

lemma trimEnd_append (hws : AllBlank ws) : trimEnd (cs ++ ws) = trimEnd cs := by
  induction cs with
  | nil => exact trimEnd_eq_nil_iff.2 hws
  | cons c cs ih => rw [List.cons_append, trimEnd, ih, trimEnd]

lemma exists_trimStart (cs : List Char) : ∃ ws, AllBlank ws ∧ cs = ws ++ trimStart cs :=
  ⟨cs.takeWhile isBlank, List.all_eq_true.1 List.all_takeWhile,
    List.takeWhile_append_dropWhile.symm⟩

lemma exists_trimEnd (cs : List Char) : ∃ ws, AllBlank ws ∧ cs = trimEnd cs ++ ws := by
  induction cs with
  | nil => exact ⟨[], allBlank_nil, rfl⟩
  | cons c cs ih =>
    obtain ⟨ws, hws, hcs⟩ := ih
    cases hend : trimEnd cs with
    | nil =>
      rw [hend, List.nil_append] at hcs
      by_cases hc : isBlank c = true
      · have heq : trimEnd (c :: cs) = [] := by simp [trimEnd, hend, hc]
        refine ⟨c :: ws, ?_, by rw [heq, hcs, List.nil_append]⟩
        intro d hd
        rcases List.mem_cons.1 hd with rfl | hd
        · exact hc
        · exact hws d hd
      · have heq : trimEnd (c :: cs) = [c] := by simp [trimEnd, hend, hc]
        exact ⟨ws, hws, by rw [heq, hcs, List.singleton_append]⟩
    | cons d ds =>
      have heq : trimEnd (c :: cs) = c :: trimEnd cs := by simp [trimEnd, hend]
      exact ⟨ws, hws, by rw [heq, List.cons_append, ← hcs]⟩

/-! ## What is left -/

lemma trimStart_eq_self (h : ∀ c ∈ cs.head?, isBlank c = false) : trimStart cs = cs := by
  cases cs with
  | nil => rfl
  | cons c cs => exact List.dropWhile_cons_of_neg (by simpa using h c rfl)

lemma trimEnd_eq_self (h : ∀ c ∈ cs.getLast?, isBlank c = false) : trimEnd cs = cs := by
  induction cs with
  | nil => rfl
  | cons c cs ih =>
    cases cs with
    | nil => simpa [trimEnd] using h c rfl
    | cons d ds =>
      have hrest : trimEnd (d :: ds) = d :: ds :=
        ih fun x hx => h x (by rwa [List.getLast?_cons_cons])
      rw [trimEnd, hrest]

/-- What is kept behind ends with a character that is not white space. -/
lemma not_isBlank_of_trimEnd {c : Char} (h : c ∈ (trimEnd cs).getLast?) : isBlank c = false := by
  induction cs with
  | nil => cases h
  | cons d ds ih =>
    rw [trimEnd] at h
    split at h
    · split at h
      · cases h
      · next hd => simp_all
    · next e es hend =>
      rw [hend] at ih
      exact ih (by rwa [List.getLast?_cons_cons] at h)

lemma trimmed_trimChars (cs : List Char) : Trimmed (trimChars cs) := by
  constructor
  · intro c hc
    obtain ⟨ws, -, hws⟩ := exists_trimEnd (trimStart cs)
    have hhead : c ∈ (trimStart cs).head? := by
      rw [hws, List.head?_append, show (trimEnd (trimStart cs)).head? = some c from hc]
      rfl
    cases hstart : trimStart cs with
    | nil =>
      rw [hstart] at hhead
      cases hhead
    | cons d ds =>
      rw [hstart] at hhead
      rw [← Option.some.inj hhead]
      exact not_isBlank_of_trimStart hstart
  · exact fun c hc => not_isBlank_of_trimEnd hc

lemma trimChars_padded (hws : AllBlank ws) (hcore : Trimmed core) (hws' : AllBlank ws') :
    trimChars (ws ++ core ++ ws') = core := by
  cases core with
  | nil =>
    rw [trimChars_eq_nil_iff]
    intro c hc
    rw [List.append_nil, List.mem_append] at hc
    rcases hc with hc | hc
    · exact hws c hc
    · exact hws' c hc
  | cons c cs =>
    have hstart : trimStart (c :: cs ++ ws') = c :: cs ++ ws' := trimStart_eq_self hcore.1
    rw [trimChars, List.append_assoc, trimStart_append hws, hstart, trimEnd_append hws',
      trimEnd_eq_self hcore.2]

/-- A text is the white space in front of it, the trimmed text, and the white space behind. -/
theorem trimChars_eq_iff : trimChars cs = core ↔
    Trimmed core ∧ ∃ ws ws', AllBlank ws ∧ AllBlank ws' ∧ cs = ws ++ core ++ ws' := by
  constructor
  · rintro rfl
    obtain ⟨ws, hws, hstart⟩ := exists_trimStart cs
    obtain ⟨ws', hws', hend⟩ := exists_trimEnd (trimStart cs)
    refine ⟨trimmed_trimChars cs, ws, ws', hws, hws', ?_⟩
    rw [trimChars, List.append_assoc, ← hend, ← hstart]
  · rintro ⟨hcore, ws, ws', hws, hws', rfl⟩
    exact trimChars_padded hws hcore hws'

end ClientCounters.Text
