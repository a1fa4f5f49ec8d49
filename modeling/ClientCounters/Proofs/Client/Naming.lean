/-
# What recognized clients are counted as

A client that is spelled as recognized clients are is within ASCII, and so is all that the default
keys make of it.  Its name in small letters starts with a letter and goes on with letters, digits,
underscores, dots and hyphens; its major version has neither dots nor hyphens.
-/
import ClientCounters.Proofs.Client.Recognition
import ClientCounters.Proofs.MetricName
import ClientCounters.Proofs.Text.Ascii

namespace ClientCounters

open ProductToken (isNameChar VersionChar)

/-! ## Single characters -/

/-- A small letter, a digit or an underscore. -/
def isSmallWordChar (c : Char) : Bool :=
  c.isLower || c.isDigit || c == '_'

/-- A small letter, a digit, an underscore, a dot or a hyphen. -/
def isSmallNameChar (c : Char) : Bool :=
  isSmallWordChar c || c == '.' || c == '-'

lemma isAscii_of_isAlpha {c : Char} (h : c.isAlpha = true) : c.toNat < 128 := by
  have hbounds := Text.bounds_of_isAlphanum (Text.isAlphanum_of_isAlpha h)
  omega

lemma isAscii_of_isNameChar {c : Char} (h : (isNameChar c || c == ' ') = true) :
    c.toNat < 128 := by
  simp only [isNameChar, Bool.or_eq_true, beq_iff_eq] at h
  rcases h with (((h | rfl) | rfl) | rfl) | rfl
  · have hbounds := Text.bounds_of_isAlphanum h
    omega
  all_goals decide

lemma isAscii_of_versionChar {c : Char} (h : VersionChar c) : c.toNat < 128 := by
  apply isAscii_of_isNameChar
  rw [ProductToken.isNameChar_iff.2 h.nameChar, Bool.true_or]

lemma isLower_toLower {c : Char} (h : c.isAlpha = true) : c.toLower.isLower = true :=
  Text.forall_ascii (P := fun c => c.isAlpha = true → c.toLower.isLower = true) (by decide) c
    (isAscii_of_isAlpha h) h

lemma isSmallNameChar_toLower {c : Char} (h : (isNameChar c || c == ' ') = true) :
    Text.isBlank c.toLower = true ∨ isSmallNameChar c.toLower = true :=
  Text.forall_ascii (P := fun c => (isNameChar c || c == ' ') = true →
      Text.isBlank c.toLower = true ∨ isSmallNameChar c.toLower = true) (by decide +kernel) c
    (isAscii_of_isNameChar h) h

lemma isSmallWordChar_toLower {c : Char} (h : VersionChar c ∧ c ≠ '.') :
    isSmallWordChar c.toLower = true :=
  Text.forall_ascii (P := fun c => VersionChar c ∧ c ≠ '.' →
      isSmallWordChar c.toLower = true) (by decide +kernel) c (isAscii_of_versionChar h.1) h

lemma not_isBlank_of_isSmallWordChar {c : Char} (h : isSmallWordChar c = true) :
    Text.isBlank c = false := by
  simp only [isSmallWordChar, Bool.or_eq_true, beq_iff_eq] at h
  rcases h with (h | h) | rfl
  · have hletter : c.isAlpha = true := Bool.or_eq_true_iff.2 (.inr h)
    exact Text.not_isBlank_of_isAlphanum (Text.isAlphanum_of_isAlpha hletter)
  · exact Text.not_isBlank_of_isAlphanum (Text.isAlphanum_of_isDigit h)
  · decide

/-! ## Names -/

/-- A small letter with small characters of names behind it. -/
def isSmallName : List Char → Bool
  | [] => false
  | c :: cs => c.isLower && cs.all isSmallNameChar

lemma isAscii_of_isClientName {cs : List Char} (h : isClientName cs = true) : Text.IsAscii cs := by
  cases cs with
  | nil => nofun
  | cons c cs =>
    obtain ⟨hc, hcs⟩ := Bool.and_eq_true_iff.1 h
    intro d hd
    rcases List.mem_cons.1 hd with rfl | hd
    · exact isAscii_of_isAlpha hc
    · exact isAscii_of_isNameChar (List.all_eq_true.1 hcs d hd)

/-- The name of a client stays a name in small letters. -/
lemma isSmallName_normalizeChars {cs : List Char} (h : isClientName cs = true) :
    isSmallName (normalizeChars cs) = true := by
  have hascii := isAscii_of_isClientName h
  cases cs with
  | nil => cases h
  | cons c cs =>
    obtain ⟨hc, hcs⟩ := Bool.and_eq_true_iff.1 h
    have hlower : c.toLower.isLower = true := isLower_toLower hc
    have hhead : Text.isBlank c.toLower = false :=
      not_isBlank_of_isSmallWordChar (by simp [isSmallWordChar, hlower])
    rw [normalizeChars, Text.lowercaseChars_of_ascii hascii, List.map_cons, hyphenate, hhead]
    simp only [Bool.false_eq_true, ↓reduceIte, isSmallName, hlower, Bool.true_and, List.all_eq_true]
    intro d hd
    -- a character of the rest is a hyphen for spaces, or comes from a character of the name
    rcases eq_hyphen_or_mem_of_mem_hyphenate hd with rfl | ⟨hmem, hblank⟩
    · decide
    · obtain ⟨x, hx, rfl⟩ := List.mem_map.1 hmem
      have hsmall := isSmallNameChar_toLower (List.all_eq_true.1 hcs x hx)
      rw [hblank] at hsmall
      simpa using hsmall

/-! ## Major versions -/

namespace Descriptor

variable {d : Descriptor}

lemma mem_majorVersion (h : IsVersion d.version.toList) :
    ∀ c ∈ d.majorVersion.toList, VersionChar c ∧ c ≠ '.' := by
  rw [majorVersion_eq h]
  split
  · have hall : unknownPart.toList.all (fun c => decide (VersionChar c ∧ c ≠ '.')) = true := by
      decide
    intro c hc
    simpa using List.all_eq_true.1 hall c hc
  · intro c hc
    rw [String.toList_ofList] at hc
    refine ⟨h c ((List.takeWhile_sublist _).mem hc), ?_⟩
    simpa using List.all_eq_true.1 List.all_takeWhile c hc

lemma majorVersion_ne_empty (h : IsVersion d.version.toList) :
    d.majorVersion ≠ "" := by
  rw [majorVersion_eq h]
  split
  · decide
  · next hne => exact fun hempty => hne (String.ofList_eq_empty_iff.1 hempty)

lemma lowercase_majorVersion (h : IsVersion d.version.toList) :
    (Text.lowercase d.majorVersion).toList = d.majorVersion.toList.map Char.toLower := by
  have hascii : Text.IsAscii d.majorVersion.toList := fun c hc =>
    isAscii_of_versionChar (mem_majorVersion h c hc).1
  rw [Text.lowercase, String.toList_ofList, Text.lowercaseChars_of_ascii hascii]

lemma isSmallWordChar_of_mem_lowercase (h : IsVersion d.version.toList) :
    ∀ c ∈ (Text.lowercase d.majorVersion).toList, isSmallWordChar c = true := by
  rw [lowercase_majorVersion h]
  intro c hc
  obtain ⟨x, hx, rfl⟩ := List.mem_map.1 hc
  exact isSmallWordChar_toLower (mem_majorVersion h x hx)

/-! ## Both together -/

/-- What a client is counted as: its normalized name, and its version in front of the first dot in
small letters, with a word in the place of one that is missing. -/
structure CountsAs (d : Descriptor) (name major : String) : Prop where
  name_eq : name = normalize d.name
  name_small : isSmallName name.toList = true
  major_eq : major =
    if d.versionHead = [] then "unknown" else Text.lowercase (String.ofList d.versionHead)
  major_ne : major ≠ ""
  major_small : ∀ c ∈ major.toList, isSmallWordChar c = true

lemma countsAs (h : ClientSpelling d.name d.version) :
    d.CountsAs (normalize d.name) (Text.lowercase d.majorVersion) where
  name_eq := rfl
  name_small := by
    rw [normalize, String.toList_ofList]
    exact isSmallName_normalizeChars h.name
  major_eq := by
    rw [majorVersion_eq h.version]
    split
    · decide +kernel
    · rfl
  major_ne := by
    intro hempty
    have hmap := lowercase_majorVersion h.version
    rw [hempty] at hmap
    have hnil : d.majorVersion.toList = [] := List.map_eq_nil_iff.1 hmap.symm
    exact majorVersion_ne_empty h.version (String.toList_eq_nil_iff.1 hnil)
  major_small := isSmallWordChar_of_mem_lowercase h.version

/-- A name with a major version behind it is normalized part by part. -/
lemma normalize_append_majorVersion (h : ClientSpelling d.name d.version) :
    normalize (d.name ++ "." ++ d.majorVersion) =
      normalize d.name ++ "." ++ Text.lowercase d.majorVersion := by
  have hname := isAscii_of_isClientName h.name
  have hmajor : Text.IsAscii d.majorVersion.toList := fun c hc =>
    isAscii_of_versionChar (mem_majorVersion h.version c hc).1
  have hall : Text.IsAscii (d.name.toList ++ '.' :: d.majorVersion.toList) := by
    intro c hc
    rcases List.mem_append.1 hc with hc | hc
    · exact hname c hc
    · rcases List.mem_cons.1 hc with rfl | hc
      · decide
      · exact hmajor c hc
  have hblank : ∀ c ∈ d.majorVersion.toList.map Char.toLower, Text.isBlank c = false := by
    rw [← lowercase_majorVersion h.version]
    exact fun c hc => not_isBlank_of_isSmallWordChar
      (isSmallWordChar_of_mem_lowercase h.version c hc)
  apply String.toList_injective
  calc (normalize (d.name ++ "." ++ d.majorVersion)).toList
      = normalizeChars (d.name.toList ++ '.' :: d.majorVersion.toList) := by
        simp [normalize]
    _ = hyphenate false (d.name.toList.map Char.toLower) ++
          '.' :: hyphenate false (d.majorVersion.toList.map Char.toLower) := by
        rw [normalizeChars, Text.lowercaseChars_of_ascii hall, List.map_append, List.map_cons]
        exact hyphenate_append_cons isBlank_dot
    _ = normalizeChars d.name.toList ++ '.' :: d.majorVersion.toList.map Char.toLower := by
        rw [hyphenate_eq_self hblank, normalizeChars, Text.lowercaseChars_of_ascii hname]
    _ = (normalize d.name ++ "." ++ Text.lowercase d.majorVersion).toList := by
        rw [← lowercase_majorVersion h.version]
        simp [normalize]

end Descriptor

end ClientCounters
