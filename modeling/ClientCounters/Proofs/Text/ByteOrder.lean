/-
# The order of texts and the order of their bytes

Texts are compared character by character.  UTF-8 is made so that it makes no difference whether
texts are compared so or by their bytes: of two characters the smaller one has the smaller byte at
the first place where their bytes differ.
-/
import Mathlib.Data.List.Basic
import Mathlib.Tactic.SplitIfs

namespace ClientCounters.Text

/-- The bytes of a text in UTF-8. -/
def bytes (s : String) : List UInt8 :=
  s.toUTF8.data.toList

lemma bytes_eq_flatMap (s : String) : bytes s = s.toList.flatMap String.utf8EncodeChar := by
  conv_lhs => rw [bytes, ← String.ofList_toList (s := s)]
  rw [String.toUTF8_eq_toByteArray, String.toByteArray_ofList, List.utf8Encode,
    List.data_toByteArray]

/-- Rows of bytes are compared at the first place where they differ. -/
lemma ofNat_cons_lt {a b : Nat} {l l' : List UInt8} (hb : b < 256) (hle : a ≤ b)
    (hl : a = b → l < l') : UInt8.ofNat a :: l < UInt8.ofNat b :: l' := by
  rw [List.cons_lt_cons_iff]
  rcases Nat.lt_or_eq_of_le hle with hlt | rfl
  · exact .inl ((UInt8.ofNat_lt_iff_lt (Nat.lt_trans hlt hb) hb).2 hlt)
  · exact .inr ⟨rfl, hl rfl⟩

/-- The smaller of two characters has the smaller bytes, whatever follows. -/
lemma encodeChar_append_lt {c d : Char} (h : c < d) (rest rest' : List UInt8) :
    String.utf8EncodeChar c ++ rest < String.utf8EncodeChar d ++ rest' := by
  have hlt : c.val.toNat < d.val.toNat := h
  have hbound : d.val.toNat < 0x110000 := by
    have hvalid := d.valid
    rcases hvalid with h | h <;> omega
  unfold String.utf8EncodeChar
  generalize c.val.toNat = v at hlt
  generalize d.val.toNat = w at hlt hbound
  dsimp only
  -- the lengths decide at the first byte; with equal lengths the bytes are digits to the base 64
  split_ifs <;> simp only [List.cons_append, List.nil_append] <;>
    repeat' refine ofNat_cons_lt (by omega) (by omega) fun heq => ?_
  all_goals omega

lemma flatMap_encodeChar_lt {cs ds : List Char} (h : cs < ds) :
    cs.flatMap String.utf8EncodeChar < ds.flatMap String.utf8EncodeChar := by
  induction cs generalizing ds with
  | nil =>
    cases ds with
    | nil => exact absurd h (List.not_lt_nil [])
    | cons d ds =>
      rw [List.flatMap_nil, List.flatMap_cons]
      obtain ⟨b, bs, hbytes⟩ := List.exists_cons_of_ne_nil (String.utf8EncodeChar_ne_nil (c := d))
      rw [hbytes]
      exact List.nil_lt_cons b _
  | cons c cs ih =>
    cases ds with
    | nil => exact absurd h (List.not_lt_nil _)
    | cons d ds =>
      rw [List.flatMap_cons, List.flatMap_cons]
      rcases List.cons_lt_cons_iff.1 h with hlt | ⟨rfl, htail⟩
      · exact encodeChar_append_lt hlt _ _
      · exact List.append_left_lt (ih htail)

/-- The smaller of two texts has the smaller bytes. -/
theorem bytes_lt_of_lt {s t : String} (h : s < t) : bytes s < bytes t := by
  rw [bytes_eq_flatMap, bytes_eq_flatMap]
  exact flatMap_encodeChar_lt (String.lt_iff.1 h)

end ClientCounters.Text
