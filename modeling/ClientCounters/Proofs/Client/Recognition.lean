/-
# What recognized clients are called

Whichever way a client is recognized, its name starts with a letter and goes on with characters of
product names, except that the names of a few libraries have spaces in them.  Its version is made of
characters of product versions, and may be empty.  This holds of every token of a text, of the
versions that are read at markers, and of the names that are built in; and no other names and
versions occur.
-/
import ClientCounters.Proofs.Client.Marks
import ClientCounters.Proofs.Client.Scanning

namespace ClientCounters

open ProductToken (isNameChar VersionChar)

/-! ## Names and versions -/

/-- A letter with characters of product names and spaces behind it. -/
def isClientName : List Char → Bool
  | [] => false
  | c :: cs => c.isAlpha && cs.all fun c => isNameChar c || c == ' '

/-- All characters are those of versions. -/
def IsVersion (cs : List Char) : Prop :=
  ∀ c ∈ cs, VersionChar c

/-- The name is one of a client, and the version is made of characters of versions. -/
structure ClientSpelling (name version : String) : Prop where
  name : isClientName name.toList = true
  version : IsVersion version.toList

/-! ## Tokens -/

namespace ProductToken

lemma WellFormed.spelling {t : ProductToken} (h : t.WellFormed) :
    ClientSpelling t.name t.version := by
  refine ⟨?_, h.version⟩
  obtain ⟨c, name, hname, hc⟩ := h.letter
  have hrest : ∀ x ∈ name, isNameChar x = true :=
    fun x hx => isNameChar_iff.2 (h.name x (by simp [hname, hx]))
  simp +contextual [hname, isClientName, hc, hrest]

/-- Every token of a text is spelled like a client. -/
lemma spelling_of_mem_scan {cs : List Char} {t : ProductToken} (ht : t ∈ scan cs) :
    ClientSpelling t.name t.version :=
  ((scanned_scan cs).wellFormed t ht).spelling

/-- The version of a token is that of a client. -/
lemma isVersion_of_versionOf? {tokens : List ProductToken}
    (h : ∀ t ∈ tokens, ClientSpelling t.name t.version) {name version : String}
    (hv : versionOf? tokens name = some version) : IsVersion version.toList := by
  obtain ⟨t, ht, rfl⟩ := Option.map_eq_some_iff.1 hv
  exact (h t (List.mem_of_find?_eq_some ht)).version

end ProductToken

/-! ## Markers -/

namespace Pattern

/-- What is found somewhere is read somewhere. -/
lemma exists_of_search {α : Type} {read : List Char → Option α} {cs : List Char} {a : α}
    (h : search read cs = some a) : ∃ rest, read rest = some a := by
  induction cs with
  | nil => exact ⟨[], h⟩
  | cons c cs ih =>
    rw [search] at h
    split at h
    · next b hread =>
      obtain rfl := Option.some.inj h
      exact ⟨_, hread⟩
    · exact ih h

lemma exists_of_searchLast {α : Type} {read : List Char → Option α} {cs : List Char} {a : α}
    (h : searchLast read cs = some a) : ∃ rest, read rest = some a := by
  induction cs with
  | nil => exact ⟨[], h⟩
  | cons c cs ih =>
    rw [searchLast] at h
    split at h
    · next b hlast =>
      obtain rfl := Option.some.inj h
      exact ih hlast
    · exact ⟨_, h⟩

lemma versionChar_of_isDigit {c : Char} (h : c.isDigit = true) : VersionChar c :=
  .inl (Text.isAlphanum_of_isDigit h)

lemma isVersion_takeWhile (cs : List Char) : IsVersion (cs.takeWhile Char.isDigit) :=
  fun c hc => versionChar_of_isDigit (List.all_eq_true.1 List.all_takeWhile c hc)

lemma isVersion_dottedTail (cs : List Char) : IsVersion (dottedTail cs) := by
  intro c hc
  fun_induction dottedTail cs with
  | case1 d rest hd ih =>
    rw [List.mem_cons, List.mem_cons, List.mem_append] at hc
    rcases hc with rfl | rfl | hc | hc
    · exact .inr (.inr rfl)
    · exact versionChar_of_isDigit hd
    · exact isVersion_takeWhile _ c hc
    · exact ih hc
  | case2 => cases hc
  | case3 => cases hc

lemma isVersion_of_dottedNumber? {cs number : List Char} (h : dottedNumber? cs = some number) :
    IsVersion number := by
  obtain ⟨⟨digits, rest⟩, hrun, rfl⟩ := Option.map_eq_some_iff.1 h
  intro c hc
  rcases List.mem_append.1 hc with hc | hc
  · exact versionChar_of_isDigit ((run?_eq_some_iff.1 hrun).2.2.1 c hc)
  · exact isVersion_dottedTail rest c hc

lemma isVersion_of_explorer? {cs number : List Char} (h : explorer? cs = some number) :
    IsVersion number := by
  obtain ⟨rest, -, hnumber⟩ := Option.bind_eq_some_iff.1 h
  exact isVersion_of_dottedNumber? hnumber

lemma isVersion_of_engineRevision? {cs number : List Char}
    (h : engineRevision? cs = some number) : IsVersion number := by
  -- what stands in front of the revision does not matter
  obtain ⟨_, _, h⟩ := Option.bind_eq_some_iff.1 h
  obtain ⟨_, _, h⟩ := Option.bind_eq_some_iff.1 h
  obtain ⟨_, _, h⟩ := Option.bind_eq_some_iff.1 h
  obtain ⟨rest, hrevision⟩ := exists_of_searchLast h
  obtain ⟨_, _, hnumber⟩ := Option.bind_eq_some_iff.1 hrevision
  exact isVersion_of_dottedNumber? hnumber

end Pattern

/-! ## Clients -/

namespace Recognition

variable {cs : List Char} {tokens : List ProductToken} {d : Descriptor}

lemma spelling_of_robot? (h : ∀ t ∈ tokens, ClientSpelling t.name t.version)
    (hd : robot? cs tokens = some d) : ClientSpelling d.name d.version := by
  rw [robot?] at hd
  split at hd
  · next t ht =>
    obtain rfl := Option.some.inj hd
    exact h t (List.mem_of_find?_eq_some ht)
  · split at hd
    · obtain rfl := Option.some.inj hd
      exact ⟨by decide, nofun⟩
    · cases hd

/-- Of two names of tokens either may give the version. -/
lemma isVersion_of_either (h : ∀ t ∈ tokens, ClientSpelling t.name t.version) {a b version : String}
    (hv : (ProductToken.versionOf? tokens a).or (ProductToken.versionOf? tokens b) =
      some version) : IsVersion version.toList := by
  rcases Option.or_eq_some_iff.1 hv with hv | ⟨-, hv⟩
  · exact ProductToken.isVersion_of_versionOf? h hv
  · exact ProductToken.isVersion_of_versionOf? h hv

/-- Another token may give the version in the place of the one that names the client. -/
lemma isVersion_of_preferred (h : ∀ t ∈ tokens, ClientSpelling t.name t.version)
    {a version : String} (hv : ProductToken.versionOf? tokens a = some version) (b : String) :
    IsVersion ((ProductToken.versionOf? tokens b).getD version).toList := by
  cases hother : ProductToken.versionOf? tokens b with
  | none => exact ProductToken.isVersion_of_versionOf? h hv
  | some other => exact ProductToken.isVersion_of_versionOf? h hother

lemma isVersion_of_marker {v : List Char} (hv : (Pattern.search Pattern.explorer? cs).or
    (Pattern.search Pattern.engineRevision? cs) = some v) :
    IsVersion (String.ofList v).toList := by
  rw [String.toList_ofList]
  rcases Option.or_eq_some_iff.1 hv with hv | ⟨-, hv⟩
  · obtain ⟨rest, hread⟩ := Pattern.exists_of_search hv
    exact Pattern.isVersion_of_explorer? hread
  · obtain ⟨rest, hread⟩ := Pattern.exists_of_search hv
    exact Pattern.isVersion_of_engineRevision? hread

lemma spelling_of_browser? (h : ∀ t ∈ tokens, ClientSpelling t.name t.version)
    (hd : browser? cs tokens = some d) : ClientSpelling d.name d.version := by
  have hbrowser {name family version : String} (hname : isClientName name.toList = true)
      (hv : IsVersion version.toList)
      (hd : some { name, family, version, kind := .browser } = some d) :
      ClientSpelling d.name d.version := by
    obtain rfl := Option.some.inj hd
    exact ⟨hname, hv⟩
  rw [browser?] at hd
  dsimp only at hd
  -- one case for each browser, in the order in which they are looked for
  split at hd
  · next v hv => exact hbrowser (by decide) (isVersion_of_either h hv) hd
  split at hd
  · next v hv => exact hbrowser (by decide) (ProductToken.isVersion_of_versionOf? h hv) hd
  split at hd
  · next v hv => exact hbrowser (by decide) (isVersion_of_preferred h hv "Version") hd
  split at hd
  · next v hv => exact hbrowser (by decide) (ProductToken.isVersion_of_versionOf? h hv) hd
  split at hd
  · next v hv => exact hbrowser (by decide) (isVersion_of_either h hv) hd
  split at hd
  · next v hv => exact hbrowser (by decide) (isVersion_of_either h hv) hd
  split at hd
  · next v hv => exact hbrowser (by decide) (isVersion_of_marker hv) hd
  split at hd
  · next v hv => exact hbrowser (by decide) (isVersion_of_preferred h hv "Version") hd
  · cases hd

lemma spelling_of_library? (h : ∀ t ∈ tokens, ClientSpelling t.name t.version)
    (hd : library? tokens = some d) : ClientSpelling d.name d.version := by
  obtain ⟨⟨token, name⟩, hlibrary, hd⟩ := List.exists_of_findSome?_eq_some hd
  obtain ⟨t, ht, rfl⟩ := Option.map_eq_some_iff.1 hd
  have hnames : ∀ l ∈ libraries, isClientName l.2.toList = true := by decide
  exact ⟨hnames _ hlibrary, (h t (List.mem_of_find?_eq_some ht)).version⟩

lemma spelling_of_product? (h : ∀ t ∈ tokens, ClientSpelling t.name t.version)
    (hd : product? tokens = some d) : ClientSpelling d.name d.version := by
  obtain ⟨t, ht, rfl⟩ := Option.map_eq_some_iff.1 hd
  exact h t (List.mem_of_find?_eq_some ht)

lemma spelling_of_agent? (hd : agent? cs = some d) : ClientSpelling d.name d.version := by
  have h : ∀ t ∈ ProductToken.scan cs, ClientSpelling t.name t.version :=
    fun _ => ProductToken.spelling_of_mem_scan
  rcases Option.or_eq_some_iff.1 hd with hd | ⟨-, hd⟩
  · exact spelling_of_robot? h hd
  rcases Option.or_eq_some_iff.1 hd with hd | ⟨-, hd⟩
  · exact spelling_of_browser? h hd
  rcases Option.or_eq_some_iff.1 hd with hd | ⟨-, hd⟩
  · exact spelling_of_library? h hd
  · exact spelling_of_product? h hd

/-- A text that is not blank names a client, which is spelled like one, or it is not recognized and
the error shows it trimmed. -/
theorem recognize_of_not_blank {s : String} (h : Text.isBlankText s = false) :
    recognize s = .error (.unrecognized (Text.trim s)) ∨
      ∃ d, recognize s = .ok d ∧ ClientSpelling d.name d.version := by
  rw [recognize]
  cases htrim : Text.trimChars s.toList with
  | nil =>
    have hblank : Text.isBlankText s = true :=
      List.all_eq_true.2 (Text.trimChars_eq_nil_iff.1 htrim)
    rw [h] at hblank
    cases hblank
  | cons c cs =>
    dsimp only
    cases hd : agent? (c :: cs) with
    | none =>
      left
      rw [Text.trim, htrim]
    | some d =>
      have hspelling := spelling_of_agent? hd
      exact .inr ⟨_, rfl, hspelling⟩

end Recognition

/-! ## Major versions -/

namespace Descriptor

variable {d : Descriptor}

/-- The version in front of its first dot. -/
def versionHead (d : Descriptor) : List Char :=
  d.version.toList.takeWhile (· != '.')

lemma getElem?_splitOn_zero (cs : List Char) :
    (cs.splitOn '.')[0]? = some (cs.takeWhile (· != '.')) := by
  induction cs with
  | nil => rfl
  | cons c cs ih =>
    rw [List.splitOn_cons_eq_if_modifyHead]
    by_cases hc : c = '.'
    · simp [hc]
    · simp [hc, ih]

/-- The major version is the version in front of the first dot, if something stands there. -/
lemma majorVersion_eq (h : IsVersion d.version.toList) :
    d.majorVersion = if d.versionHead = [] then unknownPart else String.ofList d.versionHead := by
  have hblank : ∀ c ∈ d.versionHead, Text.isBlank c = false := fun c hc =>
    (h c ((List.takeWhile_sublist _).mem hc)).not_isBlank
  have htrim : Text.trimChars d.versionHead = d.versionHead :=
    Text.trimChars_eq_iff.2 ⟨Text.trimmed_of_forall hblank, [], [], Text.allBlank_nil,
      Text.allBlank_nil, by simp⟩
  rw [majorVersion, versionPart, getElem?_splitOn_zero, Option.map_some, ← versionHead, htrim]
  cases d.versionHead <;> rfl

end Descriptor

end ClientCounters
