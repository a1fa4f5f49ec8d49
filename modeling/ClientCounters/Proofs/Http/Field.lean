/-
# Header names and the case of their letters

Two texts that differ in the case of ASCII letters only are both header names or neither is.  So a
text that is no header name is found in no request: the fields of a request are all named well.
-/
import Mathlib.Data.String.Basic
import ClientCounters.Http.Request
import ClientCounters.Proofs.Text.Ascii

namespace ClientCounters.Http

open Text (asciiLower sameIgnoringCase toLower_eq_or)

/-! ## Single characters -/

lemma isTokenChar_toLower (c : Char) : isTokenChar c.toLower = isTokenChar c := by
  rcases toLower_eq_or c with hc | ⟨n, hn, rfl⟩
  · rw [hc]
  · have hcapital : ∀ n < 26, isTokenChar (Char.ofNat (65 + n)).toLower =
        isTokenChar (Char.ofNat (65 + n)) := by decide
    exact hcapital n hn

lemma utf8Size_toLower (c : Char) : c.toLower.utf8Size = c.utf8Size := by
  rcases toLower_eq_or c with hc | ⟨n, hn, rfl⟩
  · rw [hc]
  · have hcapital : ∀ n < 26, (Char.ofNat (65 + n)).toLower.utf8Size =
        (Char.ofNat (65 + n)).utf8Size := by decide
    exact hcapital n hn

/-! ## Names -/

lemma utf8Len_asciiLower (s : String) : String.utf8Len (asciiLower s) = s.utf8ByteSize := by
  rw [← s.ofList_toList, String.utf8ByteSize_ofList, asciiLower, String.toList_ofList]
  induction s.toList with
  | nil => rfl
  | cons c cs ih => simp [utf8Size_toLower, ih]

lemma all_asciiLower (s : String) : (asciiLower s).all isTokenChar = s.toList.all isTokenChar := by
  rw [asciiLower, List.all_map]
  congr 1
  funext c
  exact isTokenChar_toLower c

/-- Whether a text is a header name does not depend on the case of its letters. -/
lemma isHeaderName_of_sameIgnoringCase {a b : String} (h : sameIgnoringCase a b = true) :
    isHeaderName a = isHeaderName b := by
  have hlower := Text.sameIgnoringCase_iff.1 h
  have hsize : a.utf8ByteSize = b.utf8ByteSize := by
    rw [← utf8Len_asciiLower, hlower, utf8Len_asciiLower]
  have hall : a.toList.all isTokenChar = b.toList.all isTokenChar := by
    rw [← all_asciiLower, hlower, all_asciiLower]
  rw [isHeaderName, isHeaderName, isToken, isToken, String.isEmpty, String.isEmpty, hsize, hall]

/-- A text that is no header name is found in no request. -/
theorem Request.header?_eq_none {method target : String} {fields : List Field} {r : Request}
    (hmake : make? method target fields = some r) {name : String}
    (hname : isHeaderName name = false) : r.header? name = none := by
  rw [make?] at hmake
  split at hmake
  · next hvalid =>
    obtain ⟨t, -, rfl⟩ := Option.map_eq_some_iff.1 hmake
    have hfields := List.all_eq_true.1 (Bool.and_eq_true_iff.1 hvalid).2
    have hfind : fields.find? (fun f => sameIgnoringCase f.name name) = none := by
      rw [List.find?_eq_none]
      intro f hf hsame
      have hfield := (Bool.and_eq_true_iff.1 (hfields f hf)).1
      rw [isHeaderName_of_sameIgnoringCase hsame, hname] at hfield
      cases hfield
    rw [header?, hfind]
    rfl
  · cases hmake

end ClientCounters.Http
