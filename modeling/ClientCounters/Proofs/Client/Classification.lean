/-
# Of which kind a client is

Every text is blank, or it has a mark of a robot, of a browser or of a library, or it names a
product of its own, or it is not recognized.  These cases come in this order: the first that applies
decides (`recognize_classified`).  What the marks are is said without the functions that look for
them and without their tables: the tokens are those that the text holds (`ProductToken.Scanned`),
and the words and names are written out.
-/
import ClientCounters.Proofs.Client.Marks
import ClientCounters.Proofs.Client.Scanning

namespace ClientCounters.Recognition

open ProductToken (Holds Scanned holds_iff scan_eq_iff versionOf?)
open Pattern (NamesExplorer NamesEngine)

variable {cs : List Char} {tokens : List ProductToken} {d : Descriptor} {s : String}

/-! ## The marks of each kind -/

/-- A name ends in a robot word, the case of letters ignored. -/
def EndsInRobotWord (name : String) : Prop :=
  ∃ w ∈ robotMarks, w.toList <:+ name.toList.map Char.toLower

/-- Two names are the same but for the case of ASCII letters. -/
def SameName (a b : String) : Prop :=
  a.toList.map Char.toLower = b.toList.map Char.toLower

instance (a b : String) : Decidable (SameName a b) :=
  inferInstanceAs (Decidable (a.toList.map Char.toLower = b.toList.map Char.toLower))

/-- The names of tokens that only browsers send. -/
def browserNames : List String :=
  ["Edg", "Edge", "OPR", "Opera", "Chromium", "Chrome", "CriOS", "Firefox", "FxiOS", "Safari"]

/-- The names of tokens that libraries send. -/
def libraryNames : List String :=
  ["curl", "Wget", "python-requests", "okhttp", "Go-http-client", "Apache-HttpClient", "Java"]

/-- A token's name ends in a robot word, or one stands in the text as a word of its own. -/
def MarksRobot (cs : List Char) : Prop :=
  (∃ t, Holds cs t ∧ EndsInRobotWord t.name) ∨ HasRobotWord cs

/-- A token is named exactly like those of browsers, or an old marker stands in the text. -/
def MarksBrowser (cs : List Char) : Prop :=
  (∃ t, Holds cs t ∧ t.name ∈ browserNames) ∨ NamesExplorer cs ∨ NamesEngine cs

/-- A token is named like that of a library, the case of letters ignored. -/
def MarksLibrary (cs : List Char) : Prop :=
  ∃ t, Holds cs t ∧ ∃ name ∈ libraryNames, SameName t.name name

/-- A token of the text is the first that is not the one every browser carries. -/
def IsFirstProduct (cs : List Char) (t : ProductToken) : Prop :=
  ∃ before after, Scanned cs (before ++ t :: after) ∧ t.name ≠ "Mozilla" ∧
    ∀ t' ∈ before, t'.name = "Mozilla"

lemma sameIgnoringCase_iff_sameName {a b : String} :
    Text.sameIgnoringCase a b = true ↔ SameName a b :=
  Text.sameIgnoringCase_iff

lemma mem_libraryNames_iff {name : String} :
    name ∈ libraryNames ↔ ∃ l ∈ libraries, l.1 = name := by
  have hnames : libraryNames = libraries.map Prod.fst := rfl
  rw [hnames, List.mem_map]

lemma robot?_isSome_iff :
    (robot? cs (ProductToken.scan cs)).isSome = true ↔ MarksRobot cs := by
  have htoken (t : ProductToken) : isRobotToken t = true ↔ EndsInRobotWord t.name := by
    simp [isRobotToken, EndsInRobotWord, robotWords_eq, Text.asciiLower]
  rw [MarksRobot, ← hasRobotWord_iff, robot?]
  split
  · next t ht =>
    have hmem : ∃ t, Holds cs t ∧ EndsInRobotWord t.name :=
      ⟨t, holds_iff.2 (List.mem_of_find?_eq_some ht), (htoken t).1 (List.find?_some ht)⟩
    simp [hmem]
  · next hnone =>
    have hno : ¬ ∃ t, Holds cs t ∧ EndsInRobotWord t.name := by
      rintro ⟨t, ht, hrobot⟩
      exact List.find?_eq_none.1 hnone t (holds_iff.1 ht) ((htoken t).2 hrobot)
    simp [hno]

lemma versionOf?_isSome_iff {name : String} :
    (versionOf? tokens name).isSome = true ↔ ∃ t ∈ tokens, t.name = name := by
  simp [versionOf?]

/-- A browser as it is described. -/
def asBrowser (name family version : String) : Descriptor :=
  { name, family, version, kind := .browser }

/-- The attempts to find a browser, the first that succeeds deciding. -/
lemma browser?_eq (cs : List Char) (tokens : List ProductToken) : browser? cs tokens =
    ((((versionOf? tokens "Edg").or (versionOf? tokens "Edge")).map (asBrowser "Edge" "Edge")).or <|
    ((versionOf? tokens "OPR").map (asBrowser "Opera" "Chrome")).or <|
    ((versionOf? tokens "Opera").map fun v =>
      asBrowser "Opera" "Opera" ((versionOf? tokens "Version").getD v)).or <|
    ((versionOf? tokens "Chromium").map (asBrowser "Chromium" "Chrome")).or <|
    (((versionOf? tokens "Chrome").or (versionOf? tokens "CriOS")).map
      (asBrowser "Chrome" "Chrome")).or <|
    (((versionOf? tokens "Firefox").or (versionOf? tokens "FxiOS")).map
      (asBrowser "Firefox" "Firefox")).or <|
    (((Pattern.search Pattern.explorer? cs).or (Pattern.search Pattern.engineRevision? cs)).map
      fun v => asBrowser "IE" "IE" (String.ofList v)).or <|
    (versionOf? tokens "Safari").map fun v =>
      asBrowser "Safari" "Safari" ((versionOf? tokens "Version").getD v)) := by
  rw [browser?]
  dsimp only
  cases (versionOf? tokens "Edg").or (versionOf? tokens "Edge") with
  | some v => rfl
  | none =>
  cases versionOf? tokens "OPR" with
  | some v => rfl
  | none =>
  cases versionOf? tokens "Opera" with
  | some v => rfl
  | none =>
  cases versionOf? tokens "Chromium" with
  | some v => rfl
  | none =>
  cases (versionOf? tokens "Chrome").or (versionOf? tokens "CriOS") with
  | some v => rfl
  | none =>
  cases (versionOf? tokens "Firefox").or (versionOf? tokens "FxiOS") with
  | some v => rfl
  | none =>
  cases (Pattern.search Pattern.explorer? cs).or (Pattern.search Pattern.engineRevision? cs) with
  | some v => rfl
  | none => cases versionOf? tokens "Safari" <;> rfl

lemma browser?_isSome_iff :
    (browser? cs (ProductToken.scan cs)).isSome = true ↔ MarksBrowser cs := by
  have hnames : (∃ t, Holds cs t ∧ t.name ∈ browserNames) ↔
      ∃ name ∈ browserNames, (versionOf? (ProductToken.scan cs) name).isSome = true := by
    simp only [holds_iff, versionOf?_isSome_iff]
    constructor
    · rintro ⟨t, ht, hname⟩
      exact ⟨t.name, hname, t, ht, rfl⟩
    · rintro ⟨_, hname, t, ht, rfl⟩
      exact ⟨t, ht, hname⟩
  rw [MarksBrowser, hnames, ← Pattern.search_explorer?_isSome_iff,
    ← Pattern.search_engineRevision?_isSome_iff, browser?_eq]
  simp only [browserNames, List.mem_cons, List.not_mem_nil, or_false, exists_eq_or_imp,
    exists_eq_left, Option.isSome_or, Option.isSome_map, Bool.or_eq_true]
  grind

lemma kind_of_browser? (h : browser? cs tokens = some d) : d.kind = .browser := by
  have hmap {α : Type} (o : Option α) {f : α → Descriptor} (hf : ∀ a, (f a).kind = .browser) :
      ∀ d ∈ o.map f, d.kind = .browser := by
    intro d hd
    obtain ⟨a, -, rfl⟩ := Option.map_eq_some_iff.1 hd
    exact hf a
  have hor {o o' : Option Descriptor} (ho : ∀ d ∈ o, d.kind = .browser)
      (ho' : ∀ d ∈ o', d.kind = .browser) : ∀ d ∈ o.or o', d.kind = .browser := by
    intro d hd
    rcases Option.or_eq_some_iff.1 hd with hd | ⟨-, hd⟩
    · exact ho d hd
    · exact ho' d hd
  have hbrowser (name family version : String) : (asBrowser name family version).kind = .browser :=
    rfl
  rw [browser?_eq] at h
  exact hor (hmap _ (hbrowser _ _)) (hor (hmap _ (hbrowser _ _)) (hor (hmap _ fun _ => rfl)
    (hor (hmap _ (hbrowser _ _)) (hor (hmap _ (hbrowser _ _)) (hor (hmap _ (hbrowser _ _))
      (hor (hmap _ fun _ => rfl) (hmap _ fun _ => rfl))))))) d h

lemma kind_of_robot? (h : robot? cs tokens = some d) : d.kind = .robot := by
  rw [robot?] at h
  split at h
  · rw [← Option.some.inj h]
  · obtain ⟨-, h⟩ := Option.ite_none_right_eq_some.1 h
    rw [← Option.some.inj h]

lemma library?_isSome_iff :
    (library? (ProductToken.scan cs)).isSome = true ↔ MarksLibrary cs := by
  simp only [library?, List.findSome?_isSome_iff, MarksLibrary, Option.isSome_map,
    List.find?_isSome, holds_iff, mem_libraryNames_iff, sameIgnoringCase_iff_sameName]
  constructor
  · rintro ⟨l, hl, t, ht, hsame⟩
    exact ⟨t, ht, l.1, ⟨l, hl, rfl⟩, hsame⟩
  · rintro ⟨t, ht, _, ⟨l, hl, rfl⟩, hsame⟩
    exact ⟨l, hl, t, ht, hsame⟩

lemma kind_of_library? (h : library? tokens = some d) : d.kind = .library := by
  obtain ⟨l, -, h⟩ := List.exists_of_findSome?_eq_some h
  obtain ⟨t, -, rfl⟩ := Option.map_eq_some_iff.1 h
  rfl

lemma find?_product_eq_some_iff {t : ProductToken} :
    (ProductToken.scan cs).find? (·.name != "Mozilla") = some t ↔ IsFirstProduct cs t := by
  rw [List.find?_eq_some_iff_append, IsFirstProduct]
  simp only [← scan_eq_iff]
  constructor
  · rintro ⟨ht, before, after, htokens, hbefore⟩
    exact ⟨before, after, htokens, by simpa using ht, by simpa using hbefore⟩
  · rintro ⟨before, after, htokens, ht, hbefore⟩
    exact ⟨by simpa using ht, before, after, htokens, by simpa using hbefore⟩

lemma product?_eq_some_iff : product? (ProductToken.scan cs) = some d ↔
    ∃ t, IsFirstProduct cs t ∧ { name := t.name, version := t.version } = d := by
  simp only [product?, Option.map_eq_some_iff, find?_product_eq_some_iff]

lemma no_product_iff :
    (∀ t, ¬ IsFirstProduct cs t) ↔ ∀ t, Holds cs t → t.name = "Mozilla" := by
  simp only [← find?_product_eq_some_iff, ← Option.eq_none_iff_forall_ne_some, ← ne_eq, holds_iff]
  simp

/-! ## The first case that applies -/

lemma agent?_nil : agent? [] = none := by
  rw [agent?, ProductToken.scan_nil]
  rfl

lemma recognize_eq_ok_iff : recognize s = .ok d ↔
    ∃ a, agent? (Text.trimChars s.toList) = some a ∧
      d = { a with operatingSystem := .detect (Text.trimChars s.toList) } := by
  rw [recognize]
  cases htrim : Text.trimChars s.toList with
  | nil => simp [agent?_nil]
  | cons c cs =>
    dsimp only
    cases agent? (c :: cs) <;> simp [eq_comm]

/-- An agent is of the first kind that has a mark. -/
lemma agent?_eq_some_iff : agent? cs = some d ↔
    robot? cs (ProductToken.scan cs) = some d ∨
    (¬ MarksRobot cs ∧ browser? cs (ProductToken.scan cs) = some d) ∨
    (¬ MarksRobot cs ∧ ¬ MarksBrowser cs ∧ library? (ProductToken.scan cs) = some d) ∨
    (¬ MarksRobot cs ∧ ¬ MarksBrowser cs ∧ ¬ MarksLibrary cs ∧
      product? (ProductToken.scan cs) = some d) := by
  have hnone {o : Option Descriptor} : o = none ↔ ¬ o.isSome = true := by simp
  rw [agent?]
  simp only [Option.or_eq_some_iff, hnone, robot?_isSome_iff, browser?_isSome_iff,
    library?_isSome_iff]
  tauto

lemma agent?_eq_none_iff : agent? cs = none ↔ ¬ MarksRobot cs ∧ ¬ MarksBrowser cs ∧
    ¬ MarksLibrary cs ∧ ∀ t, ¬ IsFirstProduct cs t := by
  have hnone {o : Option Descriptor} : o = none ↔ ¬ o.isSome = true := by simp
  have hproduct : product? (ProductToken.scan cs) = none ↔
      ∀ t, ¬ IsFirstProduct cs t := by
    simp only [no_product_iff, product?, holds_iff]
    simp
  rw [agent?, Option.or_eq_none_iff, Option.or_eq_none_iff, Option.or_eq_none_iff, hproduct, hnone,
    hnone, hnone, robot?_isSome_iff, browser?_isSome_iff, library?_isSome_iff]

/-- The token that every browser carries marks nothing. -/
lemma marks_of_bare (h : ∀ t, Holds cs t → t.name = "Mozilla") :
    (¬ MarksRobot cs ∧ ¬ MarksBrowser cs ∧ ¬ MarksLibrary cs) ↔
      ¬ HasRobotWord cs ∧ ¬ NamesExplorer cs ∧ ¬ NamesEngine cs := by
  have hrobot : ¬ ∃ t, Holds cs t ∧ EndsInRobotWord t.name := by
    rintro ⟨t, ht, w, hw, hsuffix⟩
    have hwords : ∀ w ∈ robotMarks, ¬ w.toList <:+ "Mozilla".toList.map Char.toLower := by decide
    rw [h t ht] at hsuffix
    exact hwords w hw hsuffix
  have hbrowser : ¬ ∃ t, Holds cs t ∧ t.name ∈ browserNames := by
    rintro ⟨t, ht, hname⟩
    rw [h t ht] at hname
    exact absurd hname (by decide)
  have hlibrary : ¬ MarksLibrary cs := by
    rintro ⟨t, ht, name, hname, hsame⟩
    have hnames : ∀ name ∈ libraryNames, ¬ SameName "Mozilla" name := by decide
    rw [h t ht] at hsame
    exact hnames name hname hsame
  simp only [MarksRobot, MarksBrowser, hrobot, hbrowser, hlibrary, false_or, not_or, not_false_iff,
    and_true]

/-- A client of a kind is recognized. -/
def IsKind (s : String) (kind : AgentKind) : Prop :=
  ∃ d, recognize s = .ok d ∧ d.kind = kind

lemma isKind_iff {kind : AgentKind} :
    IsKind s kind ↔ ∃ a, agent? (Text.trimChars s.toList) = some a ∧ a.kind = kind := by
  simp only [IsKind, recognize_eq_ok_iff]
  constructor
  · rintro ⟨_, ⟨a, ha, rfl⟩, hkind⟩
    exact ⟨a, ha, hkind⟩
  · rintro ⟨a, ha, hkind⟩
    exact ⟨_, ⟨a, ha, rfl⟩, hkind⟩

lemma kind_of_product? (h : product? tokens = some d) : d.kind = .unknown := by
  obtain ⟨t, -, rfl⟩ := Option.map_eq_some_iff.1 h
  rfl

/-- The first marks that apply are those of the kind. -/
def Decides (cs : List Char) : AgentKind → Prop
  | .robot => MarksRobot cs
  | .browser => ¬ MarksRobot cs ∧ MarksBrowser cs
  | .library => ¬ MarksRobot cs ∧ ¬ MarksBrowser cs ∧ MarksLibrary cs
  | .unknown => ¬ MarksRobot cs ∧ ¬ MarksBrowser cs ∧ ¬ MarksLibrary cs ∧
    ∃ t, IsFirstProduct cs t

lemma decides_kind (h : agent? cs = some d) : Decides cs d.kind := by
  rcases agent?_eq_some_iff.1 h with h | ⟨hrobot, h⟩ | ⟨hrobot, hbrowser, h⟩ |
    ⟨hrobot, hbrowser, hlibrary, h⟩
  · rw [kind_of_robot? h]
    exact robot?_isSome_iff.1 (Option.isSome_of_eq_some h)
  · rw [kind_of_browser? h]
    exact ⟨hrobot, browser?_isSome_iff.1 (Option.isSome_of_eq_some h)⟩
  · rw [kind_of_library? h]
    exact ⟨hrobot, hbrowser, library?_isSome_iff.1 (Option.isSome_of_eq_some h)⟩
  · rw [kind_of_product? h]
    obtain ⟨t, ht, -⟩ := product?_eq_some_iff.1 h
    exact ⟨hrobot, hbrowser, hlibrary, t, ht⟩

/-- No two kinds are decided for. -/
lemma Decides.unique {kind kind' : AgentKind} (h : Decides cs kind) (h' : Decides cs kind') :
    kind = kind' := by
  cases kind <;> cases kind' <;> simp_all [Decides]

lemma isKind_iff_decides {kind : AgentKind} :
    IsKind s kind ↔ Decides (Text.trimChars s.toList) kind := by
  rw [isKind_iff]
  constructor
  · rintro ⟨a, ha, rfl⟩
    exact decides_kind ha
  · intro h
    have hsome : agent? (Text.trimChars s.toList) ≠ none := by
      rw [ne_eq, agent?_eq_none_iff]
      rintro ⟨hrobot, hbrowser, hlibrary, hproduct⟩
      cases kind with
      | robot => exact hrobot h
      | browser => exact hbrowser h.2
      | library => exact hlibrary h.2.2
      | unknown =>
        obtain ⟨t, ht⟩ := h.2.2.2
        exact hproduct t ht
    obtain ⟨a, ha⟩ := Option.ne_none_iff_exists'.1 hsome
    exact ⟨a, ha, (decides_kind ha).unique h⟩

/-- The cases of a text, each said by the marks in the trimmed text. -/
structure Classified (s : String) (cs : List Char) : Prop where
  answers : recognize s = .error .empty ∨ recognize s = .error (.unrecognized (Text.trim s)) ∨
    ∃ kind, IsKind s kind
  empty : recognize s = .error .empty ↔ Text.isBlankText s = true
  kind : ∀ kind, IsKind s kind ↔ Decides cs kind
  /-- What nothing else is known about has the name and the version of its first product. -/
  product : ∀ d, recognize s = .ok d → d.kind = .unknown →
    IsFirstProduct cs ⟨d.name, d.version⟩
  unrecognized : recognize s = .error (.unrecognized (Text.trim s)) ↔
    Text.isBlankText s = false ∧ ∀ kind, ¬ Decides cs kind
  /-- Only the token that every browser carries is in a text that is not recognized. -/
  bare : recognize s = .error (.unrecognized (Text.trim s)) ↔
    Text.isBlankText s = false ∧ ¬ HasRobotWord cs ∧ ¬ NamesExplorer cs ∧ ¬ NamesEngine cs ∧
      ∀ t, Holds cs t → t.name = "Mozilla"

lemma isBlankText_iff : Text.isBlankText s = true ↔ Text.trimChars s.toList = [] := by
  rw [Text.isBlankText, List.all_eq_true, Text.trimChars_eq_nil_iff]

lemma recognize_eq_empty_iff : recognize s = .error .empty ↔ Text.isBlankText s = true := by
  rw [isBlankText_iff, recognize]
  cases Text.trimChars s.toList with
  | nil => simp
  | cons c cs =>
    dsimp only
    cases agent? (c :: cs) <;> simp

lemma recognize_eq_unrecognized_iff : recognize s = .error (.unrecognized (Text.trim s)) ↔
    Text.isBlankText s = false ∧ agent? (Text.trimChars s.toList) = none := by
  rw [← Bool.not_eq_true, isBlankText_iff, recognize, Text.trim]
  cases Text.trimChars s.toList with
  | nil => simp
  | cons c cs =>
    dsimp only
    cases agent? (c :: cs) <;> simp

lemma agent?_eq_none_iff_decides : agent? cs = none ↔ ∀ kind, ¬ Decides cs kind := by
  rw [agent?_eq_none_iff]
  constructor
  · rintro ⟨hrobot, hbrowser, hlibrary, hproduct⟩ kind
    cases kind <;> simp [Decides, hrobot, hbrowser, hlibrary, hproduct]
  · intro h
    have hrobot : ¬ MarksRobot cs := h .robot
    have hbrowser : ¬ MarksBrowser cs := fun hb => h .browser ⟨hrobot, hb⟩
    have hlibrary : ¬ MarksLibrary cs := fun hl => h .library ⟨hrobot, hbrowser, hl⟩
    exact ⟨hrobot, hbrowser, hlibrary, fun t ht => h .unknown ⟨hrobot, hbrowser, hlibrary, t, ht⟩⟩

/-- **Every text is of one case.**  It is blank, or it is of the kind for which the marks in it
decide, or it is not recognized. -/
theorem recognize_classified (s : String) : Classified s (Text.trimChars s.toList) where
  answers := by
    by_cases hblank : Text.isBlankText s = true
    · exact .inl (recognize_eq_empty_iff.2 hblank)
    · right
      cases ha : agent? (Text.trimChars s.toList) with
      | none => exact .inl (recognize_eq_unrecognized_iff.2 ⟨by simpa using hblank, ha⟩)
      | some a => exact .inr ⟨a.kind, isKind_iff.2 ⟨a, ha, rfl⟩⟩
  empty := recognize_eq_empty_iff
  kind _ := isKind_iff_decides
  product d hd hkind := by
    obtain ⟨a, ha, rfl⟩ := recognize_eq_ok_iff.1 hd
    rcases agent?_eq_some_iff.1 ha with h | ⟨-, h⟩ | ⟨-, -, h⟩ | ⟨-, -, -, h⟩
    · simp [kind_of_robot? h] at hkind
    · simp [kind_of_browser? h] at hkind
    · simp [kind_of_library? h] at hkind
    · obtain ⟨t, ht, rfl⟩ := product?_eq_some_iff.1 h
      exact ht
  unrecognized := by rw [recognize_eq_unrecognized_iff, agent?_eq_none_iff_decides]
  bare := by
    rw [recognize_eq_unrecognized_iff, agent?_eq_none_iff, no_product_iff]
    refine and_congr_right fun _ => ?_
    constructor
    · rintro ⟨hrobot, hbrowser, hlibrary, hbare⟩
      obtain ⟨hword, hexplorer, hengine⟩ := (marks_of_bare hbare).1 ⟨hrobot, hbrowser, hlibrary⟩
      exact ⟨hword, hexplorer, hengine, hbare⟩
    · rintro ⟨hword, hexplorer, hengine, hbare⟩
      obtain ⟨hrobot, hbrowser, hlibrary⟩ := (marks_of_bare hbare).2 ⟨hword, hexplorer, hengine⟩
      exact ⟨hrobot, hbrowser, hlibrary, hbare⟩

/-- The long s is an s for robot words, and the token of a browser does not matter behind one. -/
example : IsKind "Mozilla/5.0 (Yahoo! ſLURP) Chrome/120.0" .robot :=
  isKind_iff_decides.2 (.inr (hasRobotWord_iff.1 (by decide +kernel)))

end ClientCounters.Recognition
