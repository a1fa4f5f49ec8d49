/-
# What stands behind white space

The marks of browsers and robots are read at one place and do not go on behind white space.  So a
text that goes on behind white space has the marks of its two parts and no others, as long as the
second part holds none of the few characters that the marks have in common with it
(`search_append`, `hasRobotWord_append_cons_iff`).
-/
import ClientCounters.Proofs.Client.Marks
import ClientCounters.Proofs.Text.Blank
import ClientCounters.Proofs.Text.Word

namespace ClientCounters

/-! ## Patterns -/

namespace Pattern

variable {α : Type} {read : List Char → Option α} {word : String} {cs tail : List Char} {c : Char}

/-- What a pattern reads at a place in a text does not depend on the tail behind the text. -/
def IsLocal (read : List Char → Option α) (tail : List Char) : Prop :=
  ∀ cs, read (cs ++ tail) = read cs

/-- A pattern reads nothing within a tail. -/
def IsSilent (read : List Char → Option α) (tail : List Char) : Prop :=
  ∀ back, back <:+ tail → read back = none

lemma search_eq_none (h : IsSilent read cs) : search read cs = none := by
  rw [← Option.not_isSome_iff_eq_none, search_isSome_iff]
  rintro ⟨back, hback, hread⟩
  simp [h back hback] at hread

lemma searchLast_eq_none (h : IsSilent read cs) : searchLast read cs = none := by
  rw [← Option.not_isSome_iff_eq_none, searchLast_isSome_iff]
  rintro ⟨back, hback, hread⟩
  simp [h back hback] at hread

/-- Behind a tail in which nothing is read, a search finds what it finds in front of it. -/
lemma search_append (hlocal : IsLocal read tail) (hsilent : IsSilent read tail) :
    search read (cs ++ tail) = search read cs := by
  induction cs with
  | nil =>
    have hnil : read [] = none := hsilent [] (List.nil_suffix)
    rw [List.nil_append, search_eq_none hsilent, search, hnil]
  | cons c cs ih =>
    have hfirst : read (c :: (cs ++ tail)) = read (c :: cs) := hlocal (c :: cs)
    rw [List.cons_append, search, search, hfirst, ih]

lemma searchLast_append (hlocal : IsLocal read tail) (hsilent : IsSilent read tail) :
    searchLast read (cs ++ tail) = searchLast read cs := by
  induction cs with
  | nil =>
    have hnil : read [] = none := hsilent [] (List.nil_suffix)
    rw [List.nil_append, searchLast_eq_none hsilent, searchLast, hnil]
  | cons c cs ih =>
    have hfirst : read (c :: (cs ++ tail)) = read (c :: cs) := hlocal (c :: cs)
    rw [List.cons_append, searchLast, searchLast, hfirst, ih]

/-- A word that a tail does not go on with is in front of the tail or nowhere. -/
lemma behind?_append (h : ∀ c ∈ tail.head?, c ∉ word.toList) :
    behind? word (cs ++ tail) = (behind? word cs).map (· ++ tail) := by
  cases tail with
  | nil => simp
  | cons c tail =>
    refine Option.ext fun rest => ?_
    rw [behind?_eq_some_iff, Option.map_eq_some_iff]
    simp only [behind?_eq_some_iff]
    constructor
    · intro heq
      obtain ⟨rest', hcs, hrest⟩ := Text.exists_of_append_eq (h c rfl) heq.symm
      exact ⟨rest', hcs, hrest.symm⟩
    · rintro ⟨rest', rfl, rfl⟩
      rw [List.append_assoc]

/-! ## Tails -/

/-- A tail that starts with white space and goes on with more or with a letter; of the characters in
markers it has no colon and no semicolon. -/
structure Apart (tail : List Char) : Prop where
  blank : ∃ c rest, tail = c :: rest ∧ Text.isBlank c = true ∧ ∀ d ∈ rest.head?, d.isDigit = false
  no_colon : ':' ∉ tail
  no_semicolon : ';' ∉ tail

lemma Apart.head_not_mem (h : Apart tail) {l : List Char} (hl : l.any Text.isBlank = false) :
    ∀ c ∈ tail.head?, c ∉ l := by
  obtain ⟨c, rest, rfl, hc, -⟩ := h.blank
  rintro _ ⟨⟩ hmem
  exact List.any_eq_false.1 hl c hmem hc

lemma endsNumber_of_blank (hc : Text.isBlank c = true) : EndsNumber (c :: tail) := by
  rintro _ ⟨⟩
  constructor
  · rw [Bool.eq_false_iff]
    intro hd
    simp [Text.not_isBlank_of_isAlphanum (Text.isAlphanum_of_isDigit hd)] at hc
  · rintro rfl
    cases hc

lemma Apart.endsNumber (h : Apart tail) : EndsNumber tail := by
  obtain ⟨c, rest, rfl, hc, -⟩ := h.blank
  exact endsNumber_of_blank hc

lemma explorer?_eq (cs : List Char) : explorer? cs =
    (behind? "MSIE" cs).bind fun rest => (behind? " " rest).bind dottedNumber? := by
  have hword : behind? "MSIE " cs = (behind? "MSIE" cs).bind (behind? " ") := by
    refine Option.ext fun rest => ?_
    simp only [Option.bind_eq_some_iff, behind?_eq_some_iff]
    constructor
    · rintro rfl
      exact ⟨_, rfl, rfl⟩
    · rintro ⟨_, rfl, rfl⟩
      rfl
  rw [explorer?, hword, Option.bind_assoc]

/-- The space of the marker may be the one that the tail starts with, but then no number follows. -/
lemma isLocal_explorer? (h : Apart tail) : IsLocal explorer? tail := by
  intro cs
  have hspace (rest : List Char) : (behind? " " (rest ++ tail)).bind dottedNumber? =
      (behind? " " rest).bind dottedNumber? := by
    cases rest with
    | nil =>
      obtain ⟨c, rest, rfl, -, hrest⟩ := h.blank
      by_cases hc : c = ' '
      · subst hc
        exact dottedNumber?_eq_none hrest
      · simp [behind?, List.isPrefixOf?, Ne.symm hc]
    | cons c rest =>
      by_cases hc : c = ' '
      · subst hc
        exact dottedNumber?_append h.endsNumber
      · simp [behind?, List.isPrefixOf?, Ne.symm hc]
  rw [explorer?_eq, explorer?_eq, behind?_append (h.head_not_mem (by decide)), Option.bind_map]
  simp only [Function.comp_def, hspace]

lemma isLocal_revision? (hcolon : EndsNumber tail) (hhead : ∀ c ∈ tail.head?, c ∉ "rv:".toList) :
    IsLocal revision? tail := by
  intro cs
  rw [revision?, revision?, behind?_append hhead, Option.bind_map]
  simp only [Function.comp_def, dottedNumber?_append hcolon]

lemma isSilent_revision? (hcolon : ':' ∉ tail) : IsSilent revision? tail := by
  intro back hback
  rw [← Option.not_isSome_iff_eq_none, revision?, behind?_number_isSome_iff]
  rintro ⟨d, rest, rfl, -⟩
  exact hcolon (hback.mem (by simp))

/-- No revision is read behind white space that no colon follows, on the same line or another. -/
lemma searchLast_line_append (h : Apart tail) (rest : List Char) :
    searchLast revision? ((rest ++ tail).takeWhile (· != '\n')) =
      searchLast revision? (rest.takeWhile (· != '\n')) := by
  rw [List.takeWhile_append]
  split
  · next hall =>
    have hrest : rest.takeWhile (· != '\n') = rest :=
      (List.takeWhile_prefix _).eq_of_length hall
    have hhead : ∀ c ∈ (tail.takeWhile (· != '\n')).head?, c ∈ tail.head? := by
      intro c hc
      cases tail with
      | nil => exact hc
      | cons d tail => by_cases hd : d = '\n' <;> simp_all
    have hcolon : ':' ∉ tail.takeWhile (· != '\n') :=
      fun hmem => h.no_colon ((List.takeWhile_sublist _).mem hmem)
    rw [hrest]
    refine searchLast_append (isLocal_revision? ?_ ?_) (isSilent_revision? hcolon)
    · exact fun c hc => h.endsNumber c (hhead c hc)
    · exact fun c hc => h.head_not_mem (by decide) c (hhead c hc)
  · rfl

lemma isLocal_engineRevision? (h : Apart tail) : IsLocal engineRevision? tail := by
  intro cs
  have hnumber : ∀ c ∈ tail.head?, (c.isDigit || c == '.') = false := by
    intro c hc
    simp [h.endsNumber c hc]
  have htrident : behind? "Trident/" (cs ++ tail) = (behind? "Trident/" cs).map (· ++ tail) :=
    behind?_append (h.head_not_mem (by decide))
  have hsemicolon (rest : List Char) :
      behind? ";" (rest ++ tail) = (behind? ";" rest).map (· ++ tail) :=
    behind?_append (h.head_not_mem (by decide))
  rw [engineRevision?, engineRevision?]
  simp only [Option.bind_eq_bind, htrident, run?_append hnumber, hsemicolon, Option.bind_map,
    Function.comp_def, searchLast_line_append h]

lemma isSilent_engineRevision? (h : Apart tail) : IsSilent engineRevision? tail := by
  intro back hback
  rw [← Option.not_isSome_iff_eq_none, engineRevision?_isSome_iff]
  rintro ⟨number, middle, d, rest, rfl, -⟩
  exact h.no_semicolon (hback.mem (by simp))

end Pattern

/-! ## Robot words -/

namespace Recognition

variable {cs a b spelled : List Char} {c : Char}

lemma IsLetter.isWordChar {letter : Char} (hletter : Text.isWordChar letter = true)
    (h : IsLetter letter c) : Text.isWordChar c = true := by
  rcases h with rfl | ⟨-, rfl⟩
  · rwa [Text.isWordChar_toLower] at hletter
  · decide +kernel

lemma SpellsRobotWord.isWordChar (h : SpellsRobotWord spelled) :
    ∀ c ∈ spelled, Text.isWordChar c = true := by
  obtain ⟨w, hw, hspelled⟩ := h
  have hwords : ∀ w ∈ robotMarks, w.toList.all Text.isWordChar = true := by decide +kernel
  have hletters : ∀ letter ∈ w.toList, Text.isWordChar letter = true :=
    List.all_eq_true.1 (hwords w hw)
  generalize w.toList = word at hspelled hletters
  induction hspelled with
  | nil => nofun
  | cons hmatch _ ih =>
    rw [List.forall_mem_cons] at hletters ⊢
    exact ⟨hmatch.isWordChar hletters.1, ih hletters.2⟩

lemma not_hasRobotWord_nil : ¬ HasRobotWord [] := by
  rintro ⟨front, spelled, behind, heq, hspelled, -⟩
  simp [hspelled.ne_nil] at heq

/-- A robot word does not go across a character that belongs to no word. -/
lemma hasRobotWord_append_cons_iff (hc : Text.isWordChar c = false) :
    HasRobotWord (a ++ c :: b) ↔ HasRobotWord a ∨ HasRobotWord b := by
  constructor
  · rintro ⟨front, spelled, behind, heq, hspelled, hfront, hbehind⟩
    have hmem : c ∉ spelled := by
      intro hmem
      simp [hspelled.isWordChar c hmem] at hc
    rw [List.append_assoc] at heq
    rcases List.append_eq_append_iff.1 heq with ⟨rest, rfl, hrest⟩ | ⟨rest, rfl, hrest⟩
    · -- the word stands behind the character
      cases rest with
      | nil =>
        obtain ⟨x, word, hword⟩ := List.exists_cons_of_ne_nil hspelled.ne_nil
        rw [hword] at hrest hmem
        obtain ⟨rfl, -⟩ := List.cons.inj hrest
        simp at hmem
      | cons x rest =>
        obtain ⟨rfl, rfl⟩ := List.cons.inj hrest
        refine .inr ⟨rest, spelled, behind, by simp, hspelled, ?_, hbehind⟩
        intro y hy
        exact hfront y (by simp [List.getLast?_append, List.getLast?_cons, Option.mem_def.1 hy])
    · -- the word stands in front of the character
      obtain ⟨rest', rfl, rfl⟩ := Text.exists_of_append_eq hmem hrest
      refine .inl ⟨front, spelled, rest', by simp, hspelled, hfront, ?_⟩
      intro y hy
      exact hbehind y (by simp [List.head?_append, Option.mem_def.1 hy])
  · rintro (⟨front, spelled, behind, rfl, hspelled, hfront, hbehind⟩ |
      ⟨front, spelled, behind, rfl, hspelled, hfront, hbehind⟩)
    · refine ⟨front, spelled, behind ++ c :: b, by simp, hspelled, hfront, ?_⟩
      cases behind <;> simp_all
    · refine ⟨a ++ c :: front, spelled, behind, by simp, hspelled, ?_, hbehind⟩
      cases h : front.getLast? <;> simp_all [List.getLast?_append, List.getLast?_cons]

lemma hasRobotWord_append_blank {ws : List Char} (hws : Text.AllBlank ws) :
    HasRobotWord (ws ++ cs) ↔ HasRobotWord cs := by
  induction ws with
  | nil => rfl
  | cons c ws ih =>
    have hc : Text.isWordChar c = false := Text.isWordChar_of_isBlank (hws c List.mem_cons_self)
    have hcut := hasRobotWord_append_cons_iff (a := []) (b := ws ++ cs) hc
    rw [List.nil_append] at hcut
    rw [List.cons_append, hcut, ih fun d hd => hws d (List.mem_cons_of_mem c hd)]
    simp [not_hasRobotWord_nil]

/-- The case of letters does not matter. -/
lemma HasRobotWord.lower (h : HasRobotWord cs) : HasRobotWord (cs.map Char.toLower) := by
  obtain ⟨front, spelled, behind, rfl, ⟨w, hw, hspelled⟩, hfront, hbehind⟩ := h
  have hmatch {letter x : Char} (h : IsLetter letter x) : IsLetter letter x.toLower := by
    rcases Text.toLower_eq_or x with hx | ⟨n, hn, rfl⟩
    · rwa [hx]
    · -- a capital matches through its small letter only
      have hcapital : ∀ n < 26, (Char.ofNat (65 + n)).toLower.toLower =
          (Char.ofNat (65 + n)).toLower ∧ Char.ofNat (65 + n) ≠ 'ſ' := by decide
      obtain ⟨hsmall, hlong⟩ := hcapital n hn
      rcases h with h | ⟨-, h⟩
      · exact .inl (hsmall.trans h)
      · exact absurd h hlong
  refine ⟨front.map Char.toLower, spelled.map Char.toLower, behind.map Char.toLower, by simp,
    ⟨w, hw, ?_⟩, ?_, ?_⟩
  · rw [List.forall₂_map_right_iff]
    exact hspelled.imp fun _ _ => hmatch
  · simpa [Text.isWordChar_toLower] using hfront
  · simpa [Text.isWordChar_toLower] using hbehind

end Recognition

end ClientCounters
