/-
# Tokens that browsers carry besides their own

Most browsers carry tokens of other programs.  A token that no browser is known by, and that is no
sign of a robot, may stand behind the text of a browser, and so may any row of them: the browser is
recognized as it was without them (`browser_undisguised`).  Of the system it runs on this says
nothing, since that may be named by a token.
-/
import ClientCounters.Proofs.Client.Classification
import ClientCounters.Proofs.Client.Locality

namespace ClientCounters

variable {t : ProductToken} {cs tail : List Char}

namespace ProductToken

/-- A token as texts show it. -/
def text (t : ProductToken) : String :=
  t.name ++ "/" ++ t.version

lemma toList_text (t : ProductToken) :
    t.text.toList = t.name.toList ++ '/' :: t.version.toList := by
  simp [text]

lemma wellFormed_iff : t.WellFormed ↔ t.name.toList.head?.any Char.isAlpha = true ∧
    t.name.toList.all isNameChar = true ∧ t.version.toList ≠ [] ∧
      t.version.toList.all isVersionChar = true := by
  simp only [List.all_eq_true, isNameChar_iff, isVersionChar_iff]
  constructor
  · intro h
    obtain ⟨c, name, hname, hc⟩ := h.letter
    exact ⟨by simpa [hname] using hc, h.name, h.version_ne_nil, h.version⟩
  · rintro ⟨hletter, hname, hne, hversion⟩
    obtain ⟨c, hhead, hc⟩ := (Option.any_eq_true _ _).1 hletter
    obtain ⟨name, hcons⟩ := List.head?_eq_some_iff.1 hhead
    exact ⟨⟨c, name, hcons, hc⟩, hname, hne, hversion⟩

instance : Decidable t.WellFormed :=
  decidable_of_iff _ wellFormed_iff.symm

/-- A token stands behind white space. -/
def Follows (t : ProductToken) (tail : List Char) : Prop :=
  ∃ gap, gap ≠ [] ∧ Text.AllBlank gap ∧ tail = gap ++ t.text.toList

lemma scan_text (h : t.WellFormed) : scan t.text.toList = [t] := by
  have hbegins : Begins t.text.toList t [] := ⟨h, by simp [toList_text], nofun⟩
  rw [scan_of_begins hbegins, scan_nil]

lemma scan_append_follows (h : t.WellFormed) (htail : t.Follows tail) :
    scan (cs ++ tail) = scan cs ++ [t] := by
  obtain ⟨gap, hne, hgap, rfl⟩ := htail
  obtain ⟨c, gap, rfl⟩ := List.exists_cons_of_ne_nil hne
  have hc : Separates c := separates_of_isBlank (hgap c List.mem_cons_self)
  have hrest : Text.AllBlank gap := fun d hd => hgap d (List.mem_cons_of_mem c hd)
  rw [List.cons_append, scan_append_cons hc, scan_blank_append hrest, scan_text h]

lemma holds_append_follows (h : t.WellFormed) (htail : t.Follows tail) {t' : ProductToken} :
    Holds (cs ++ tail) t' ↔ Holds cs t' ∨ t' = t := by
  rw [holds_iff, holds_iff, scan_append_follows h htail, List.mem_append, List.mem_singleton]

lemma WellFormed.mem_text (h : t.WellFormed) {c : Char} (hc : c ∈ t.text.toList) :
    NameChar c ∨ c = '/' := by
  rw [toList_text, List.mem_append, List.mem_cons] at hc
  rcases hc with hc | rfl | hc
  · exact .inl (h.name c hc)
  · exact .inr rfl
  · exact .inl (h.version c hc).nameChar

lemma WellFormed.head_text (h : t.WellFormed) :
    ∃ c rest, t.text.toList = c :: rest ∧ c.isAlpha = true := by
  obtain ⟨c, name, hname, hc⟩ := h.letter
  exact ⟨c, name ++ '/' :: t.version.toList, by rw [toList_text, hname]; rfl, hc⟩

lemma isDigit_of_isAlpha {c : Char} (hc : c.isAlpha = true) : c.isDigit = false := by
  have hbounds := Text.bounds_of_isAlphanum (Text.isAlphanum_of_isAlpha hc)
  exact Text.forall_ascii (P := fun c => c.isAlpha = true → c.isDigit = false) (by decide) c
    (by omega) hc

/-- A token behind white space has none of the characters that markers go on with. -/
lemma Follows.apart (h : t.WellFormed) (htail : t.Follows tail) : Pattern.Apart tail := by
  obtain ⟨gap, hne, hgap, rfl⟩ := htail
  have hnot {x : Char} (hblank : Text.isBlank x = false) (hname : ¬ NameChar x)
      (hslash : x ≠ '/') : x ∉ gap ++ t.text.toList := by
    intro hx
    rcases List.mem_append.1 hx with hx | hx
    · simp [hgap x hx] at hblank
    · rcases h.mem_text hx with hx | hx
      · exact hname hx
      · exact hslash hx
  obtain ⟨c, gap, rfl⟩ := List.exists_cons_of_ne_nil hne
  refine ⟨⟨c, gap ++ t.text.toList, rfl, hgap c List.mem_cons_self, ?_⟩, ?_, ?_⟩
  · intro d hd
    cases gap with
    | nil =>
      obtain ⟨x, rest, htext, hx⟩ := h.head_text
      rw [List.nil_append, htext] at hd
      obtain rfl := Option.some.inj hd
      exact isDigit_of_isAlpha hx
    | cons x gap =>
      obtain rfl := Option.some.inj hd
      have hends : Pattern.EndsNumber [x] := Pattern.endsNumber_of_blank (hgap x (by simp))
      exact (hends x rfl).1
  · exact hnot (by decide) (by decide) (by decide)
  · exact hnot (by decide) (by decide) (by decide)

/-- The marker of an old browser has a space behind its name, and a token has none. -/
lemma Follows.isSilent_explorer? (h : t.WellFormed) (htail : t.Follows tail) :
    Pattern.IsSilent Pattern.explorer? tail := by
  obtain ⟨gap, -, hgap, rfl⟩ := htail
  intro back hback
  rw [← Option.not_isSome_iff_eq_none, Pattern.explorer?, Pattern.behind?_number_isSome_iff]
  rintro ⟨d, rest, rfl, -⟩
  induction gap with
  | nil =>
    have hspace : ' ' ∈ t.text.toList := hback.mem (by simp)
    rcases h.mem_text hspace with hname | hslash
    · exact absurd hname (by decide)
    · cases hslash
  | cons c gap ih =>
    rw [List.cons_append, List.suffix_cons_iff] at hback
    rcases hback with heq | hback
    · obtain ⟨rfl, -⟩ := List.cons.inj heq
      have hblank := hgap 'M' List.mem_cons_self
      cases hblank
    · exact ih (fun d hd => hgap d (List.mem_cons_of_mem c hd)) hback

end ProductToken

namespace Recognition

open ProductToken (versionOf?)

/-! ## Tokens that no browser is known by -/

/-- The names by which browsers are told apart, and the one that gives a version to some; the name
that only the last of them is known by is left out. -/
def tellingNames : List String :=
  ["Edg", "Edge", "OPR", "Opera", "Chromium", "Chrome", "CriOS", "Firefox", "FxiOS", "Version"]

/-- A token that tells nothing of a browser, and no robot either. -/
structure Compatible (t : ProductToken) : Prop where
  wellFormed : t.WellFormed
  name_not_mem : t.name ∉ tellingNames
  no_robot : ¬ EndsInRobotWord t.name
  no_word : ¬ HasRobotWord t.text.toList

instance (name : String) : Decidable (EndsInRobotWord name) :=
  inferInstanceAs (Decidable (∃ w ∈ robotMarks, w.toList <:+ name.toList.map Char.toLower))

instance (cs : List Char) : Decidable (HasRobotWord cs) :=
  decidable_of_iff _ hasRobotWord_iff

instance (t : ProductToken) : Decidable (Compatible t) :=
  decidable_of_iff
    (t.WellFormed ∧ t.name ∉ tellingNames ∧ ¬ EndsInRobotWord t.name ∧
      ¬ HasRobotWord t.text.toList)
    ⟨fun ⟨hwell, hname, hrobot, hword⟩ => ⟨hwell, hname, hrobot, hword⟩,
      fun h => ⟨h.wellFormed, h.name_not_mem, h.no_robot, h.no_word⟩⟩

/-- What is said of the agent is the same. -/
structure SameAgent (d d' : Descriptor) : Prop where
  name : d'.name = d.name
  family : d'.family = d.family
  version : d'.version = d.version
  kind : d'.kind = d.kind

variable {tokens : List ProductToken} {d : Descriptor}

lemma versionOf?_append {name : String} (hname : t.name ≠ name) :
    versionOf? (tokens ++ [t]) name = versionOf? tokens name := by
  simp [versionOf?, List.find?_append, hname]

lemma versionOf?_append_of_some {name version : String}
    (h : versionOf? tokens name = some version) :
    versionOf? (tokens ++ [t]) name = some version := by
  obtain ⟨t', ht', rfl⟩ := Option.map_eq_some_iff.1 h
  rw [versionOf?, List.find?_append, ht']
  rfl

/-- A browser is found as before, since only the last attempt can look at the token, and it succeeds
on the tokens in front. -/
lemma browser?_append (ht : Compatible t) (htail : t.Follows tail)
    (h : browser? cs tokens = some d) : browser? (cs ++ tail) (tokens ++ [t]) = some d := by
  have hname (name : String) (hmem : name ∈ tellingNames) :
      versionOf? (tokens ++ [t]) name = versionOf? tokens name := by
    refine versionOf?_append ?_
    rintro rfl
    exact ht.name_not_mem hmem
  have hapart := htail.apart ht.wellFormed
  have hexplorer : Pattern.search Pattern.explorer? (cs ++ tail) =
      Pattern.search Pattern.explorer? cs :=
    Pattern.search_append (Pattern.isLocal_explorer? hapart)
      (htail.isSilent_explorer? ht.wellFormed)
  have hengine : Pattern.search Pattern.engineRevision? (cs ++ tail) =
      Pattern.search Pattern.engineRevision? cs :=
    Pattern.search_append (Pattern.isLocal_engineRevision? hapart)
      (Pattern.isSilent_engineRevision? hapart)
  have hor (o : Option Descriptor) {p p' : Option Descriptor}
      (hp : ∀ d, p = some d → p' = some d) : ∀ d, o.or p = some d → o.or p' = some d := by
    intro d
    cases o with
    | none => exact hp d
    | some a => exact id
  rw [browser?_eq] at h ⊢
  rw [hexplorer, hengine, hname "Edg" (by decide), hname "Edge" (by decide),
    hname "OPR" (by decide), hname "Opera" (by decide),
    hname "Chromium" (by decide), hname "Chrome" (by decide),
    hname "CriOS" (by decide), hname "Firefox" (by decide),
    hname "FxiOS" (by decide), hname "Version" (by decide)]
  refine hor _ (hor _ (hor _ (hor _ (hor _ (hor _ (hor _ ?_)))))) d h
  intro d hsafari
  obtain ⟨v, hv, rfl⟩ := Option.map_eq_some_iff.1 hsafari
  rw [versionOf?_append_of_some hv]
  rfl

lemma marksRobot_append_iff (ht : t.WellFormed) (htail : t.Follows tail) :
    MarksRobot (cs ++ tail) ↔
      MarksRobot cs ∨ EndsInRobotWord t.name ∨ HasRobotWord t.text.toList := by
  have hword : HasRobotWord (cs ++ tail) ↔ HasRobotWord cs ∨ HasRobotWord t.text.toList := by
    obtain ⟨gap, hne, hgap, rfl⟩ := htail
    obtain ⟨c, gap, rfl⟩ := List.exists_cons_of_ne_nil hne
    have hc : Text.isWordChar c = false := Text.isWordChar_of_isBlank (hgap c List.mem_cons_self)
    rw [List.cons_append, hasRobotWord_append_cons_iff hc,
      hasRobotWord_append_blank fun d hd => hgap d (List.mem_cons_of_mem c hd)]
  simp only [MarksRobot, hword, ProductToken.holds_append_follows ht htail, or_and_right,
    exists_or, exists_eq_left]
  exact or_or_or_comm

lemma agent?_append (ht : Compatible t) (htail : t.Follows tail) (h : agent? cs = some d)
    (hkind : d.kind = .browser) : agent? (cs ++ tail) = some d := by
  have hdecides := decides_kind h
  rw [hkind] at hdecides
  have hrobot : ¬ MarksRobot (cs ++ tail) := by
    rw [marksRobot_append_iff ht.wellFormed htail]
    simp [hdecides.1, ht.no_robot, ht.no_word]
  have hbrowser : browser? cs (ProductToken.scan cs) = some d := by
    rcases agent?_eq_some_iff.1 h with h | ⟨-, h⟩ | ⟨-, -, h⟩ | ⟨-, -, -, h⟩
    · simp [kind_of_robot? h] at hkind
    · exact h
    · simp [kind_of_library? h] at hkind
    · simp [kind_of_product? h] at hkind
  rw [agent?_eq_some_iff]
  right
  left
  rw [ProductToken.scan_append_follows ht.wellFormed htail]
  exact ⟨hrobot, browser?_append ht htail hbrowser⟩

/-! ## Tokens behind the text of a browser -/

lemma trimChars_append_token {u : String} (ht : t.WellFormed)
    (hu : Text.trimChars u.toList ≠ []) : ∃ tail, t.Follows tail ∧
      Text.trimChars (u ++ " " ++ t.text).toList = Text.trimChars u.toList ++ tail := by
  obtain ⟨htrimmed, ws, ws', hws, hws', heq⟩ :=
    Text.trimChars_eq_iff.1 (Eq.refl (Text.trimChars u.toList))
  generalize Text.trimChars u.toList = core at htrimmed heq hu ⊢
  obtain ⟨d, hd⟩ := Option.ne_none_iff_exists'.1
    (mt List.getLast?_eq_none_iff.1 ht.version_ne_nil)
  have hlast : (core ++ (ws' ++ [' '] ++ t.text.toList)).getLast? = some d := by
    simp [ProductToken.toList_text, List.getLast?_append, List.getLast?_cons, hd]
  refine ⟨ws' ++ [' '] ++ t.text.toList, ⟨ws' ++ [' '], by simp, ?_, rfl⟩, ?_⟩
  · exact hws'.append fun c hc => List.mem_singleton.1 hc ▸ rfl
  · rw [Text.trimChars_eq_iff]
    refine ⟨⟨?_, ?_⟩, ws, [], hws, Text.allBlank_nil, ?_⟩
    · obtain ⟨c, rest, rfl⟩ := List.exists_cons_of_ne_nil hu
      exact htrimmed.1
    · intro x hx
      obtain rfl := Option.some.inj (hlast.symm.trans hx)
      exact (ht.version d (List.mem_of_getLast? hd)).not_isBlank
    · rw [String.toList_append, String.toList_append, heq]
      simp

/-- One token more. -/
lemma recognize_append_token {u : String} (h : recognize u = .ok d) (hkind : d.kind = .browser)
    (ht : Compatible t) : ∃ d', recognize (u ++ " " ++ t.text) = .ok d' ∧ SameAgent d d' := by
  obtain ⟨a, ha, rfl⟩ := recognize_eq_ok_iff.1 h
  have hne : Text.trimChars u.toList ≠ [] := by
    intro hnil
    simp [hnil, agent?_nil] at ha
  obtain ⟨tail, htail, htrim⟩ := trimChars_append_token ht.wellFormed hne
  refine ⟨_, recognize_eq_ok_iff.2 ⟨a, ?_, rfl⟩, rfl, rfl, rfl, rfl⟩
  rw [htrim]
  exact agent?_append ht htail ha hkind

/-- A text with a row of tokens behind it, a space in front of each. -/
def carrying (u : String) (ts : List ProductToken) : String :=
  ts.foldl (fun u t => u ++ " " ++ t.text) u

lemma recognize_carrying {u : String} (h : recognize u = .ok d) (hkind : d.kind = .browser)
    {ts : List ProductToken} (hts : ∀ t ∈ ts, Compatible t) :
    ∃ d', recognize (carrying u ts) = .ok d' ∧ SameAgent d d' := by
  induction ts generalizing u d with
  | nil => exact ⟨d, h, rfl, rfl, rfl, rfl⟩
  | cons t ts ih =>
    rw [List.forall_mem_cons] at hts
    obtain ⟨d', hd', hsame⟩ := recognize_append_token h hkind hts.1
    obtain ⟨d'', hd'', hsame'⟩ := ih hd' (hsame.kind.trans hkind) hts.2
    exact ⟨d'', hd'', hsame'.name.trans hsame.name, hsame'.family.trans hsame.family,
      hsame'.version.trans hsame.version, hsame'.kind.trans hsame.kind⟩

/-- The token of a library tells nothing, whatever the case of its name, unless its version holds a
robot word. -/
lemma compatible_library_iff {name : String} (hlibrary : name ∈ libraryNames)
    (hsame : SameName t.name name) (ht : t.WellFormed) :
    Compatible t ↔ ¬ HasRobotWord t.version.toList := by
  have hslash : Text.isWordChar '/' = false := by decide +kernel
  have htext : HasRobotWord t.text.toList ↔
      HasRobotWord t.name.toList ∨ HasRobotWord t.version.toList := by
    rw [ProductToken.toList_text, hasRobotWord_append_cons_iff hslash]
  have hname : ¬ HasRobotWord t.name.toList := by
    have hlibraries : ∀ library ∈ libraryNames,
        ¬ HasRobotWord (library.toList.map Char.toLower) := by decide +kernel
    intro hword
    have hlower := hword.lower
    rw [hsame] at hlower
    exact hlibraries name hlibrary hlower
  constructor
  · intro h hword
    exact h.no_word (htext.2 (.inr hword))
  · intro hword
    refine ⟨ht, ?_, ?_, ?_⟩
    · have htelling : ∀ library ∈ libraryNames, ∀ told ∈ tellingNames,
          ¬ SameName told library := by decide
      intro hmem
      exact htelling name hlibrary t.name hmem hsame
    · have hends : ∀ library ∈ libraryNames, ∀ w ∈ robotMarks,
          ¬ w.toList <:+ library.toList.map Char.toLower := by decide
      rintro ⟨w, hw, hsuffix⟩
      rw [hsame] at hsuffix
      exact hends name hlibrary w hw hsuffix
    · rw [htext]
      simp [hname, hword]

/-- **Browsers are not disguised.**  A text that is recognized as a browser is recognized as the
same with any row of compatible tokens behind it.  The usual tokens of this kind are compatible, and
so are those of libraries, a version that holds a robot word apart. -/
theorem browser_undisguised :
    (∀ (u : String) (d : Descriptor), recognize u = .ok d → d.kind = .browser →
      ∀ ts : List ProductToken, (∀ t ∈ ts, Compatible t) →
        ∃ d', recognize (carrying u ts) = .ok d' ∧ SameAgent d d') ∧
    Compatible ⟨"Safari", "537.36"⟩ ∧ Compatible ⟨"Mobile", "15E148"⟩ ∧
    ∀ (t : ProductToken) (name : String), t.WellFormed → name ∈ libraryNames →
      SameName t.name name → (Compatible t ↔ ¬ HasRobotWord t.version.toList) := by
  refine ⟨?_, by decide +kernel, by decide +kernel, ?_⟩
  · intro u d h hkind ts hts
    exact recognize_carrying h hkind hts
  · intro t name ht hname hsame
    exact compatible_library_iff hname hsame ht

/-- An old browser that is known by its layout engine, at the end of a line, with the tokens of a
newer one and of a library behind it. -/
theorem browser_undisguised_of_engine :
    let u := "Mozilla/5.0 (Windows NT 6.1; Trident/7.0; rv:11.0) like Gecko\n"
    let ts : List ProductToken := [⟨"Safari", "537.36"⟩, ⟨"cURL", "8.0"⟩, ⟨"Safari", "537.36"⟩]
    (∃ d, recognize u = .ok d ∧ d.kind = .browser) ∧ (∀ t ∈ ts, Compatible t) ∧
      ∃ d', recognize (carrying u ts) = .ok d' ∧ d'.name = "IE" ∧ d'.family = "IE" ∧
        d'.version = "11.0" ∧ d'.kind = .browser := by
  intro u ts
  have hengine : recognize u =
      .ok ⟨"IE", "11.0", "IE", .browser, ⟨"Windows 7", "Windows", "6.1"⟩⟩ := by decide +kernel
  have hlibrary : Compatible ⟨"cURL", "8.0"⟩ :=
    (browser_undisguised.2.2.2 ⟨"cURL", "8.0"⟩ "curl" (by decide) (by decide)
      (by decide)).2 (by decide +kernel)
  have hts : ∀ t ∈ ts, Compatible t := by
    intro t ht
    rcases List.mem_cons.1 ht with rfl | ht
    · exact browser_undisguised.2.1
    rcases List.mem_cons.1 ht with rfl | ht
    · exact hlibrary
    · rw [List.mem_singleton.1 ht]
      exact browser_undisguised.2.1
  obtain ⟨d', hd', hsame⟩ := browser_undisguised.1 u _ hengine rfl ts hts
  exact ⟨⟨_, hengine, rfl⟩, hts, d', hd', hsame.name, hsame.family, hsame.version, hsame.kind⟩

end Recognition

end ClientCounters
