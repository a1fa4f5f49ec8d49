/-
# Word characters, white space and the case of letters

White space belongs to no word, and a letter of ASCII belongs to words in either case.
-/
import ClientCounters.Proofs.Text.Ascii
import ClientCounters.Proofs.Text.WordEnd
import ClientCounters.Text.Word

namespace ClientCounters.Text

lemma isWordChar_of_isBlank {c : Char} (hc : isBlank c = true) : isWordChar c = false :=
  inRanges_eq_false_of_apart (by decide +kernel : rangesApart blankRanges wordRanges = true) hc

lemma isWordChar_toLower (c : Char) : isWordChar c.toLower = isWordChar c := by
  rcases toLower_eq_or c with hc | ⟨n, hn, rfl⟩
  · rw [hc]
  · have hcapital : ∀ n < 26, isWordChar (Char.ofNat (65 + n)).toLower =
        isWordChar (Char.ofNat (65 + n)) := by decide +kernel
    exact hcapital n hn

end ClientCounters.Text
