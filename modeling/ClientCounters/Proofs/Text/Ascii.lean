/-
# Small letters within ASCII

Within ASCII a text is turned into small letters character by character, and only the 26 capitals
change.  What can be decided of a single character is tried on all 128 of them.
-/
import ClientCounters.Proofs.Text.Lowercase

namespace ClientCounters.Text

/-- All characters are within ASCII. -/
def IsAscii (cs : List Char) : Prop :=
  ∀ c ∈ cs, c.toNat < 128

instance (cs : List Char) : Decidable (IsAscii cs) :=
  List.decidableBAll (fun c : Char => c.toNat < 128) cs

lemma forall_ascii {P : Char → Prop} (h : ∀ n < 128, P (Char.ofNat n)) (c : Char)
    (hc : c.toNat < 128) : P c := by
  have hn := h c.toNat hc
  rwa [Char.ofNat_toNat] at hn

/-- A character is left as it is by `Char.toLower` or is one of 26 capital letters. -/
lemma toLower_eq_or (c : Char) : c.toLower = c ∨ ∃ n < 26, c = Char.ofNat (65 + n) := by
  by_cases hc : c.val ≥ 'A'.val ∧ c.val ≤ 'Z'.val
  · right
    have hle : 65 ≤ c.toNat := UInt32.le_iff_toNat_le.1 hc.1
    have hge : c.toNat ≤ 90 := UInt32.le_iff_toNat_le.1 hc.2
    refine ⟨c.toNat - 65, by omega, ?_⟩
    rw [Nat.add_sub_cancel' hle, Char.ofNat_toNat]
  · left
    exact dif_neg hc

lemma smallLetters_of_ascii {c : Char} (hc : c.toNat < 128) : smallLetters c = [c.toLower] :=
  forall_ascii (P := fun c => smallLetters c = [c.toLower]) (by decide +kernel) c hc

lemma lowercaseFrom_of_ascii {before cs : List Char} (h : IsAscii cs) :
    lowercaseFrom before cs = cs.map Char.toLower := by
  induction cs generalizing before with
  | nil => rfl
  | cons c cs ih =>
    have hc : c.toNat < 128 := h c List.mem_cons_self
    have hsigma : c ≠ 'Σ' := by
      rintro rfl
      exact absurd hc (by decide)
    rw [lowercaseFrom, if_neg hsigma, smallLetters_of_ascii hc,
      ih fun d hd => h d (List.mem_cons_of_mem c hd)]
    rfl

/-- Within ASCII small letters do not depend on what stands around them. -/
lemma lowercaseChars_of_ascii {cs : List Char} (h : IsAscii cs) :
    lowercaseChars cs = cs.map Char.toLower :=
  lowercaseFrom_of_ascii h

end ClientCounters.Text
