/-
# Which product tokens a text holds

The scan finds the tokens one after another: each is the leftmost one that begins at the end of the
one before it or further on, its name is the whole run of name characters up to the slash, and its
version is as long as it can be (`Scanned`, `scan_eq_iff`).  This says of every text which tokens it
holds (`Holds`), without a scan.  No token goes across a character that is neither of names nor a
slash, so that a text may be cut there.  White space is such a character;
it does not matter whether a text is trimmed before it is scanned.
-/
import Mathlib.Tactic.Common
import ClientCounters.Client.ProductToken
import ClientCounters.Proofs.Text.Blank
import ClientCounters.Proofs.Text.Parts

namespace ClientCounters.ProductToken

variable {cs a b rest : List Char} {c : Char} {t : ProductToken} {ts : List ProductToken}

/-- The characters of names: letters and digits of ASCII and three marks. -/
def NameChar (c : Char) : Prop :=
  c.isAlphanum = true ∨ c = '_' ∨ c = '.' ∨ c = '-'

/-- The characters of versions, among which there is no hyphen. -/
def VersionChar (c : Char) : Prop :=
  c.isAlphanum = true ∨ c = '_' ∨ c = '.'

instance : DecidablePred NameChar :=
  fun c => inferInstanceAs (Decidable (c.isAlphanum = true ∨ c = '_' ∨ c = '.' ∨ c = '-'))

instance : DecidablePred VersionChar :=
  fun c => inferInstanceAs (Decidable (c.isAlphanum = true ∨ c = '_' ∨ c = '.'))

/-- A name that starts with a letter and goes on with name characters, and a version that is not
empty. -/
structure WellFormed (t : ProductToken) : Prop where
  letter : ∃ c name, t.name.toList = c :: name ∧ c.isAlpha = true
  name : ∀ c ∈ t.name.toList, NameChar c
  version_ne_nil : t.version.toList ≠ []
  version : ∀ c ∈ t.version.toList, VersionChar c

/-- A token stands at the front of a text, with `rest` behind it: the name, a slash and as many
version characters as there are. -/
structure Begins (cs : List Char) (t : ProductToken) (rest : List Char) : Prop
    extends WellFormed t where
  joined : cs = t.name.toList ++ '/' :: (t.version.toList ++ rest)
  longest : ∀ c ∈ rest.head?, ¬ VersionChar c

/-- No token begins inside `skipped` when `cs` stands behind it. -/
def Skips (skipped cs : List Char) : Prop :=
  ∀ back, back <:+ skipped → back ≠ [] → ∀ t rest, ¬ Begins (back ++ cs) t rest

/-- The tokens of a text: the leftmost one, and the tokens of what stands behind it. -/
inductive Scanned : List Char → List ProductToken → Prop where
  | done {cs : List Char} (h : Skips cs []) : Scanned cs []
  | next {skipped cs rest : List Char} {t : ProductToken} {ts : List ProductToken}
    (hskips : Skips skipped cs) (hbegins : Begins cs t rest) (h : Scanned rest ts) :
    Scanned (skipped ++ cs) (t :: ts)

/-- A token is one of those of a text. -/
def Holds (cs : List Char) (t : ProductToken) : Prop :=
  ∃ ts, Scanned cs ts ∧ t ∈ ts

/-! ## The scan, place by place -/

lemma isNameChar_iff : isNameChar c = true ↔ NameChar c := by
  simp [isNameChar, NameChar, or_assoc]

lemma isVersionChar_iff : isVersionChar c = true ↔ VersionChar c := by
  simp [isVersionChar, VersionChar, or_assoc]

lemma nameChar_of_isAlpha (h : c.isAlpha = true) : NameChar c :=
  .inl (Text.isAlphanum_of_isAlpha h)

/-- The scan without what its termination needs. -/
lemma scan_eq (cs : List Char) : scan cs =
    match cs.dropWhile (!·.isAlpha) with
    | [] => []
    | c :: rest =>
      match slashVersion? (rest.dropWhile isNameChar) with
      | some (version, after) =>
        ⟨String.ofList (c :: rest.takeWhile isNameChar), String.ofList version⟩ :: scan after
      | none => scan (rest.dropWhile isNameChar) := by
  rw [scan]
  split
  · next h => simp only [h]
  · next c rest h =>
    dsimp only
    split <;> next hv => simp only [h, hv]

lemma scan_nil : scan [] = [] :=
  scan_eq []

lemma scan_letter (hc : c.isAlpha = true) : scan (c :: cs) =
    match slashVersion? (cs.dropWhile isNameChar) with
    | some (version, after) =>
      ⟨String.ofList (c :: cs.takeWhile isNameChar), String.ofList version⟩ :: scan after
    | none => scan (cs.dropWhile isNameChar) := by
  have hdrop : (c :: cs).dropWhile (!·.isAlpha) = c :: cs := by simp [hc]
  rw [scan_eq, hdrop]

lemma scan_cons_of_not_letter (hc : c.isAlpha = false) : scan (c :: cs) = scan cs := by
  have hdrop : (c :: cs).dropWhile (!·.isAlpha) = cs.dropWhile (!·.isAlpha) := by simp [hc]
  rw [scan_eq, scan_eq cs, hdrop]

lemma slashVersion?_eq_some_iff {version after : List Char} :
    slashVersion? cs = some (version, after) ↔ cs = '/' :: (version ++ after) ∧ version ≠ [] ∧
      (∀ c ∈ version, VersionChar c) ∧ ∀ c ∈ after.head?, ¬ VersionChar c := by
  simp only [← isVersionChar_iff, Bool.not_eq_true]
  constructor
  · intro h
    unfold slashVersion? at h
    split at h
    · next rest =>
      split at h
      · cases h
      · next hne =>
        obtain ⟨htaken, hafter⟩ := Prod.mk.inj (Option.some.inj h)
        obtain ⟨rfl, hversion, hend⟩ := Text.takeWhile_dropWhile_iff.1 ⟨htaken, hafter⟩
        exact ⟨rfl, htaken ▸ hne, hversion, hend⟩
    · cases h
  · rintro ⟨rfl, hne, hversion, hend⟩
    obtain ⟨htake, hdrop⟩ := Text.takeWhile_dropWhile_iff.2 ⟨rfl, hversion, hend⟩
    rw [slashVersion?, htake]
    cases version with
    | nil => exact absurd rfl hne
    | cons c version => rw [hdrop]

/-- A token begins where the scan takes one. -/
lemma begins_cons_iff : Begins (c :: cs) t rest ↔ c.isAlpha = true ∧
    t.name = String.ofList (c :: cs.takeWhile isNameChar) ∧
    slashVersion? (cs.dropWhile isNameChar) = some (t.version.toList, rest) := by
  rw [slashVersion?_eq_some_iff]
  constructor
  · intro h
    obtain ⟨d, name, hname, hd⟩ := h.letter
    have hjoined := h.joined
    rw [hname, List.cons_append] at hjoined
    obtain ⟨rfl, rfl⟩ := List.cons.inj hjoined
    have hrun : ∀ x ∈ name, isNameChar x = true := by
      intro x hx
      exact isNameChar_iff.2 (h.name x (by simp [hname, hx]))
    have hslash : ∀ x ∈ ('/' :: (t.version.toList ++ rest)).head?, isNameChar x = false := by
      rintro x ⟨⟩
      rfl
    obtain ⟨htake, hdrop⟩ := Text.takeWhile_dropWhile_iff.2 ⟨rfl, hrun, hslash⟩
    rw [htake, hdrop, ← hname, String.ofList_toList]
    exact ⟨hd, rfl, rfl, h.version_ne_nil, h.version, h.longest⟩
  · rintro ⟨hc, hname, hdrop, hne, hversion, hlongest⟩
    have hlist : t.name.toList = c :: cs.takeWhile isNameChar := by
      rw [hname, String.toList_ofList]
    refine ⟨⟨⟨c, _, hlist, hc⟩, ?_, hne, hversion⟩, ?_, hlongest⟩
    · intro x hx
      rw [hlist, List.mem_cons] at hx
      rcases hx with rfl | hx
      · exact nameChar_of_isAlpha hc
      · exact isNameChar_iff.1 (List.all_eq_true.1 List.all_takeWhile x hx)
    · rw [hlist, List.cons_append, ← hdrop, List.takeWhile_append_dropWhile]

lemma scan_of_begins (h : Begins cs t rest) : scan cs = t :: scan rest := by
  cases cs with
  | nil => simpa using h.joined
  | cons c cs =>
    obtain ⟨hc, hname, hversion⟩ := begins_cons_iff.1 h
    rw [scan_letter hc, hversion, ← hname]
    simp

/-- If no version stands behind a run of name characters, no token begins inside it. -/
lemma scan_dropWhile_name (h : slashVersion? (cs.dropWhile isNameChar) = none) :
    scan cs = scan (cs.dropWhile isNameChar) := by
  induction cs with
  | nil => rfl
  | cons c cs ih =>
    by_cases hname : isNameChar c = true
    · have hdrop : (c :: cs).dropWhile isNameChar = cs.dropWhile isNameChar := by simp [hname]
      rw [hdrop] at h ⊢
      by_cases hc : c.isAlpha = true
      · rw [scan_letter hc, h]
      · rw [scan_cons_of_not_letter (by simpa using hc), ih h]
    · have hdrop : (c :: cs).dropWhile isNameChar = c :: cs := by simp [hname]
      rw [hdrop]

lemma scan_of_not_begins (h : ∀ t rest, ¬ Begins (c :: cs) t rest) : scan (c :: cs) = scan cs := by
  by_cases hc : c.isAlpha = true
  · have hnone : slashVersion? (cs.dropWhile isNameChar) = none := by
      rw [Option.eq_none_iff_forall_ne_some]
      rintro ⟨version, after⟩ hv
      refine h ⟨String.ofList (c :: cs.takeWhile isNameChar), String.ofList version⟩ after ?_
      exact begins_cons_iff.2 ⟨hc, rfl, by rw [hv, String.toList_ofList]⟩
    rw [scan_letter hc, hnone, scan_dropWhile_name hnone]
  · exact scan_cons_of_not_letter (by simpa using hc)

/-! ## The scan as a whole -/

lemma Skips.tail (h : Skips (c :: a) cs) : Skips a cs :=
  fun back hback => h back (hback.trans (List.suffix_cons c a))

lemma Skips.cons (hbegins : ∀ t rest, ¬ Begins (c :: a ++ cs) t rest) (h : Skips a cs) :
    Skips (c :: a) cs := by
  intro back hback hne
  rcases List.suffix_cons_iff.1 hback with rfl | hback
  · exact hbegins
  · exact h back hback hne

lemma Begins.length_lt (h : Begins cs t rest) : rest.length < cs.length := by
  rw [h.joined]
  simp only [List.length_append, List.length_cons]
  omega

lemma scan_of_skips (h : Skips a cs) : scan (a ++ cs) = scan cs := by
  induction a with
  | nil => rfl
  | cons c a ih =>
    have hfirst : ∀ t rest, ¬ Begins (c :: (a ++ cs)) t rest :=
      h (c :: a) List.suffix_rfl (List.cons_ne_nil c a)
    rw [List.cons_append, scan_of_not_begins hfirst, ih h.tail]

lemma Scanned.scan_eq (h : Scanned cs ts) : scan cs = ts := by
  induction h with
  | @done cs h => simpa [scan_nil] using scan_of_skips h
  | next hskips hbegins _ ih => rw [scan_of_skips hskips, scan_of_begins hbegins, ih]

lemma Scanned.skip (hbegins : ∀ t rest, ¬ Begins (c :: cs) t rest) (h : Scanned cs ts) :
    Scanned (c :: cs) ts := by
  cases h with
  | done h => exact .done (h.cons (by simpa using hbegins))
  | @next skipped cs rest t ts hskips hfirst h =>
    exact @Scanned.next (c :: skipped) _ _ _ _ (hskips.cons hbegins) hfirst h

lemma scanned_scan (cs : List Char) : Scanned cs (scan cs) := by
  -- the rest behind a token is shorter, as is the text without its first character
  induction hn : cs.length using Nat.strongRecOn generalizing cs with
  | ind n ih =>
    by_cases h : ∃ t rest, Begins cs t rest
    · obtain ⟨t, rest, hbegins⟩ := h
      have hrest : Scanned rest (scan rest) := ih _ (hn ▸ hbegins.length_lt) rest rfl
      rw [scan_of_begins hbegins]
      exact @Scanned.next [] _ _ _ _ (by simp [Skips]) hbegins hrest
    · simp only [not_exists] at h
      cases cs with
      | nil =>
        rw [scan_nil]
        exact .done (by simp [Skips])
      | cons c cs =>
        rw [scan_of_not_begins h]
        exact (ih _ (by simp [← hn]) cs rfl).skip h

lemma Scanned.wellFormed (h : Scanned cs ts) : ∀ t ∈ ts, t.WellFormed := by
  induction h with
  | done => nofun
  | next _ hbegins _ ih => exact List.forall_mem_cons.2 ⟨hbegins.toWellFormed, ih⟩

/-- The scan finds the tokens of a text. -/
theorem scan_eq_iff : scan cs = ts ↔ Scanned cs ts :=
  ⟨fun h => h ▸ scanned_scan cs, Scanned.scan_eq⟩

lemma holds_iff : Holds cs t ↔ t ∈ scan cs := by
  simp only [Holds, ← scan_eq_iff, exists_eq_left']

/-! ## Cutting a text -/

/-- A character that no token goes across. -/
def Separates (c : Char) : Prop :=
  ¬ NameChar c ∧ c ≠ '/'

lemma separates_of_isBlank (hc : Text.isBlank c = true) : Separates c := by
  have hne {d : Char} (hd : Text.isBlank d = false) : c ≠ d := by
    rintro rfl
    simp [hc] at hd
  refine ⟨?_, hne rfl⟩
  have halphanum : c.isAlphanum = false := by
    rw [Bool.eq_false_iff]
    intro h
    simp [Text.not_isBlank_of_isAlphanum h] at hc
  simp [NameChar, halphanum, hne (d := '_') rfl, hne (d := '.') rfl, hne (d := '-') rfl]

lemma VersionChar.nameChar (h : VersionChar c) : NameChar c := by
  rcases h with h | h | h
  · exact .inl h
  · exact .inr (.inl h)
  · exact .inr (.inr (.inl h))

lemma VersionChar.not_isBlank (h : VersionChar c) : Text.isBlank c = false := by
  rw [Bool.eq_false_iff]
  intro hblank
  exact (separates_of_isBlank hblank).1 h.nameChar

/-- The characters of a token at the front of a text stand in front of every separator. -/
lemma begins_append_cons_iff (hc : Separates c) : Begins (a ++ c :: b) t rest ↔
    ∃ rest', rest = rest' ++ c :: b ∧ Begins a t rest' := by
  have hversion : ¬ VersionChar c := fun h => hc.1 h.nameChar
  constructor
  · intro h
    have hfront : c ∉ t.name.toList ++ '/' :: t.version.toList := by
      intro hmem
      rw [List.mem_append, List.mem_cons] at hmem
      rcases hmem with hmem | rfl | hmem
      · exact hc.1 (h.name c hmem)
      · exact hc.2 rfl
      · exact hversion (h.version c hmem)
    obtain ⟨rest', rfl, rfl⟩ := Text.exists_of_append_eq hfront (by simpa using h.joined.symm)
    refine ⟨rest', rfl, h.toWellFormed, by simp, ?_⟩
    intro d hd
    exact h.longest d (by simp [List.head?_append, Option.mem_def.1 hd])
  · rintro ⟨rest', rfl, h⟩
    refine ⟨h.toWellFormed, by simp [h.joined], ?_⟩
    cases rest' with
    | nil => simpa using hversion
    | cons d rest' => simpa using h.longest d rfl

/-- The tokens in front of a separator and behind it are those of the parts. -/
lemma scan_append_cons (hc : Separates c) (a b : List Char) :
    scan (a ++ c :: b) = scan a ++ scan b := by
  have hletter : c.isAlpha = false := by
    rw [Bool.eq_false_iff]
    intro h
    exact hc.1 (nameChar_of_isAlpha h)
  have hskips {skipped cs : List Char} (h : Skips skipped cs) : Skips skipped (cs ++ c :: b) := by
    intro back hback hne t rest hbegins
    rw [← List.append_assoc, begins_append_cons_iff hc] at hbegins
    obtain ⟨rest', -, hbegins⟩ := hbegins
    exact h back hback hne t rest' hbegins
  have hscanned := scanned_scan a
  generalize scan a = ts at hscanned ⊢
  induction hscanned with
  | @done a h =>
    have hend : Skips a (c :: b) := hskips h
    rw [scan_of_skips hend, scan_cons_of_not_letter hletter, List.nil_append]
  | @next skipped cs rest t ts h hbegins _ ih =>
    have hfirst : Begins (cs ++ c :: b) t (rest ++ c :: b) :=
      (begins_append_cons_iff hc).2 ⟨rest, rfl, hbegins⟩
    rw [List.append_assoc, scan_of_skips (hskips h), scan_of_begins hfirst, ih, List.cons_append]

lemma scan_blank_append {ws : List Char} (hws : Text.AllBlank ws) : scan (ws ++ cs) = scan cs := by
  induction ws with
  | nil => rfl
  | cons c ws ih =>
    have hc := separates_of_isBlank (hws c List.mem_cons_self)
    have hcut := scan_append_cons hc [] (ws ++ cs)
    rw [scan_nil, List.nil_append, List.nil_append] at hcut
    rw [List.cons_append, hcut, ih fun d hd => hws d (List.mem_cons_of_mem c hd)]

lemma scan_append_blank {ws : List Char} (hws : Text.AllBlank ws) : scan (cs ++ ws) = scan cs := by
  cases ws with
  | nil => rw [List.append_nil]
  | cons c ws =>
    have hnone : scan ws = [] := by
      have hrest : scan (ws ++ []) = scan [] :=
        scan_blank_append fun d hd => hws d (List.mem_cons_of_mem c hd)
      rwa [List.append_nil, scan_nil] at hrest
    rw [scan_append_cons (separates_of_isBlank (hws c List.mem_cons_self)), hnone, List.append_nil]

/-- Trimming takes no token away. -/
lemma scan_trimChars (cs : List Char) : scan (Text.trimChars cs) = scan cs := by
  obtain ⟨-, ws, ws', hws, hws', hcs⟩ := Text.trimChars_eq_iff.1 (Eq.refl (Text.trimChars cs))
  rw [hcs, scan_append_blank hws', scan_blank_append hws, ← hcs]

/-- **The tokens are exact.**  What a trimmed text is scanned for are the tokens of the text, and
where a text is cut at a character that separates, they are those of the two parts. -/
theorem scan_exact :
    (∀ (s : String) (ts : List ProductToken),
      scan (Text.trimChars s.toList) = ts ↔ Scanned s.toList ts) ∧
    ∀ (a b : String) (c : Char), Separates c →
      scan (Text.trimChars (a ++ String.singleton c ++ b).toList) =
        scan (Text.trimChars a.toList) ++ scan (Text.trimChars b.toList) := by
  constructor
  · intro s ts
    rw [scan_trimChars, scan_eq_iff]
  · intro a b c hc
    have hlist : (a ++ String.singleton c ++ b).toList = a.toList ++ c :: b.toList := by simp
    rw [scan_trimChars, scan_trimChars, scan_trimChars, hlist, scan_append_cons hc]

/-- Names and versions that touch one another, a name that starts inside a run, a run without a
version, and a separator beyond ASCII. -/
theorem scan_exact_of_touching : Separates 'é' ∧
    scan (Text.trimChars ("a/b/c 1ab-c/2" ++ String.singleton 'é' ++
      "Foo/1.0Bar/2 (x/; y/3)\n").toList) =
        [⟨"a", "b"⟩, ⟨"ab-c", "2"⟩, ⟨"Foo", "1.0Bar"⟩, ⟨"y", "3"⟩] := by
  have hseparates : Separates 'é' := ⟨by decide, by decide⟩
  refine ⟨hseparates, ?_⟩
  rw [scan_exact.2 _ _ 'é' hseparates]
  decide +kernel

end ClientCounters.ProductToken
