/-
# The marks in a text

A robot is known by a word of its own, the old browsers by a marker with a number behind it.  The
functions that look for them find something if and only if the mark stands in the text
(`hasRobotWord_iff`, `search_explorer?_isSome_iff`, `search_engineRevision?_isSome_iff`).
-/
import Mathlib.Data.List.Forall2
import Mathlib.Tactic.Common
import ClientCounters.Client.Recognition
import ClientCounters.Proofs.Text.Parts

namespace ClientCounters

/-! ## Patterns -/

namespace Pattern

variable {α : Type} {read : List Char → Option α} {word : String} {cs rest tail : List Char}

lemma search_isSome_iff :
    (search read cs).isSome = true ↔ ∃ rest, rest <:+ cs ∧ (read rest).isSome = true := by
  induction cs with
  | nil => simp [search]
  | cons c cs ih =>
    simp only [List.suffix_cons_iff, or_and_right, exists_or, exists_eq_left, ← ih]
    rw [search]
    cases read (c :: cs) <;> simp

lemma searchLast_isSome_iff :
    (searchLast read cs).isSome = true ↔ ∃ rest, rest <:+ cs ∧ (read rest).isSome = true := by
  induction cs with
  | nil => simp [searchLast]
  | cons c cs ih =>
    simp only [List.suffix_cons_iff, or_and_right, exists_or, exists_eq_left, ← ih]
    rw [searchLast]
    cases searchLast read cs <;> simp

lemma behind?_eq_some_iff : behind? word cs = some rest ↔ cs = word.toList ++ rest := by
  rw [behind?, List.isPrefixOf?_eq_some_iff_append_eq, eq_comm]

lemma run?_eq_some_iff {p : Char → Bool} {taken : List Char} :
    run? p cs = some (taken, rest) ↔ cs = taken ++ rest ∧ taken ≠ [] ∧
      (∀ c ∈ taken, p c = true) ∧ ∀ c ∈ rest.head?, p c = false := by
  have hrun : run? p cs = some (taken, rest) ↔
      (cs.takeWhile p = taken ∧ cs.dropWhile p = rest) ∧ taken ≠ [] := by
    rw [run?]
    split
    · next h =>
      constructor
      · intro hnone
        cases hnone
      · rintro ⟨⟨htaken, -⟩, hne⟩
        exact absurd (htaken.symm.trans h) hne
    · next h =>
      rw [Option.some_inj, Prod.mk.injEq]
      constructor
      · rintro ⟨rfl, rfl⟩
        exact ⟨⟨rfl, rfl⟩, h⟩
      · exact And.left
  rw [hrun, Text.takeWhile_dropWhile_iff]
  tauto

lemma run?_append {p : Char → Bool} (h : ∀ c ∈ tail.head?, p c = false) :
    run? p (cs ++ tail) = (run? p cs).map fun (taken, rest) => (taken, rest ++ tail) := by
  obtain ⟨htake, hdrop⟩ := Text.takeWhile_dropWhile_append (a := cs) h
  rw [run?, run?, htake, hdrop]
  cases cs.takeWhile p <;> rfl

/-! ## Numbers -/

/-- A number is read where a digit stands. -/
lemma dottedNumber?_isSome_iff :
    (dottedNumber? cs).isSome = true ↔ ∃ d rest, cs = d :: rest ∧ d.isDigit = true := by
  rw [dottedNumber?, Option.isSome_map]
  cases cs with
  | nil => simp [run?]
  | cons c cs =>
    by_cases hc : c.isDigit = true <;> simp [run?, hc]

/-- A word with a number behind it is read where it stands. -/
lemma behind?_number_isSome_iff : ((behind? word cs).bind dottedNumber?).isSome = true ↔
    ∃ d rest, cs = word.toList ++ d :: rest ∧ d.isDigit = true := by
  simp only [Option.isSome_bind, Option.any_eq_true, behind?_eq_some_iff, dottedNumber?_isSome_iff]
  constructor
  · rintro ⟨rest, rfl, d, rest, rfl, hd⟩
    exact ⟨d, rest, rfl, hd⟩
  · rintro ⟨d, rest, rfl, hd⟩
    exact ⟨_, rfl, d, rest, rfl, hd⟩

/-- A tail does not go on with a number. -/
def EndsNumber (tail : List Char) : Prop :=
  ∀ c ∈ tail.head?, c.isDigit = false ∧ c ≠ '.'

lemma dottedTail_eq_nil (h : ∀ d rest, cs = '.' :: d :: rest → d.isDigit = false) :
    dottedTail cs = [] := by
  unfold dottedTail
  split
  · next d rest => simp [h d rest rfl]
  · rfl

lemma dottedTail_append (h : EndsNumber tail) : dottedTail (cs ++ tail) = dottedTail cs := by
  fun_induction dottedTail cs with
  | case1 d rest hd ih =>
    obtain ⟨htake, hdrop⟩ :=
      Text.takeWhile_dropWhile_append (a := rest) (p := Char.isDigit) fun c hc => (h c hc).1
    rw [List.cons_append, List.cons_append, dottedTail, if_pos hd, htake, hdrop, ih]
  | case2 d rest hd => rw [List.cons_append, List.cons_append, dottedTail, if_neg hd]
  | case3 cs hcs =>
    -- at most the dot is in front of the tail
    refine dottedTail_eq_nil fun d rest heq => ?_
    match cs with
    | [] =>
      have hdot := (h '.' (by simp [show tail = '.' :: d :: rest from heq])).2
      exact absurd rfl hdot
    | [_] =>
      obtain ⟨-, rfl⟩ := List.cons.inj heq
      exact (h d rfl).1
    | _ :: d' :: rest' =>
      obtain ⟨rfl, heq⟩ := List.cons.inj heq
      exact (hcs d' rest' rfl).elim

lemma dottedNumber?_append (h : EndsNumber tail) :
    dottedNumber? (cs ++ tail) = dottedNumber? cs := by
  rw [dottedNumber?, dottedNumber?, run?_append fun c hc => (h c hc).1, Option.map_map]
  refine congrFun (congrArg Option.map (funext ?_)) _
  rintro ⟨digits, rest⟩
  exact congrArg (digits ++ ·) (dottedTail_append h)

lemma dottedNumber?_eq_none (h : ∀ c ∈ cs.head?, c.isDigit = false) : dottedNumber? cs = none := by
  rw [← Option.not_isSome_iff_eq_none, dottedNumber?_isSome_iff]
  rintro ⟨d, rest, rfl, hd⟩
  simp [h d rfl] at hd

/-! ## Markers -/

/-- `MSIE` and a number stand in the text. -/
def NamesExplorer (cs : List Char) : Prop :=
  ∃ front d rest, cs = front ++ "MSIE ".toList ++ d :: rest ∧ d.isDigit = true

/-- A layout engine stands in the text with a revision behind it on its line. -/
def NamesEngine (cs : List Char) : Prop :=
  ∃ front number middle d rest,
    cs = front ++ "Trident/".toList ++ number ++ ';' :: (middle ++ "rv:".toList ++ d :: rest) ∧
    number ≠ [] ∧ (∀ c ∈ number, c.isDigit = true ∨ c = '.') ∧ '\n' ∉ middle ∧ d.isDigit = true

lemma search_explorer?_isSome_iff : (search explorer? cs).isSome = true ↔ NamesExplorer cs := by
  rw [search_isSome_iff]
  simp only [explorer?, behind?_number_isSome_iff]
  constructor
  · rintro ⟨rest, ⟨front, rfl⟩, d, rest, rfl, hd⟩
    exact ⟨front, d, rest, by rw [List.append_assoc], hd⟩
  · rintro ⟨front, d, rest, rfl, hd⟩
    exact ⟨_, ⟨front, by rw [List.append_assoc]⟩, d, rest, rfl, hd⟩

/-- The revision may stand anywhere on the line. -/
lemma searchLast_revision?_isSome_iff :
    (searchLast revision? (cs.takeWhile (· != '\n'))).isSome = true ↔
      ∃ middle d rest, cs = middle ++ "rv:".toList ++ d :: rest ∧ '\n' ∉ middle ∧
        d.isDigit = true := by
  have hline {l : List Char} : (∀ c ∈ l, (c != '\n') = true) ↔ '\n' ∉ l := by
    simp only [bne_iff_ne, ne_eq]
    exact ⟨fun h hmem => h _ hmem rfl, fun h c hc hnl => h (hnl ▸ hc)⟩
  simp only [searchLast_isSome_iff, revision?, behind?_number_isSome_iff]
  constructor
  · rintro ⟨found, ⟨middle, hmiddle⟩, d, rest, rfl, hd⟩
    obtain ⟨hcs, hnl, -⟩ := Text.takeWhile_dropWhile_iff.1 ⟨hmiddle.symm, rfl⟩
    rw [hline, List.mem_append, not_or] at hnl
    exact ⟨middle, d, rest ++ cs.dropWhile (· != '\n'), by simpa using hcs, hnl.1, hd⟩
  · rintro ⟨middle, d, rest, rfl, hnl, hd⟩
    refine ⟨_, ⟨middle, ?_⟩, d, rest.takeWhile (· != '\n'), rfl, hd⟩
    have hnumber : d ≠ '\n' := by
      rintro rfl
      cases hd
    rw [List.append_assoc, List.takeWhile_append_of_pos (hline.2 hnl)]
    simp [hnumber]

lemma engineRevision?_isSome_iff : (engineRevision? cs).isSome = true ↔
    ∃ number middle d rest,
      cs = "Trident/".toList ++ (number ++ ';' :: (middle ++ "rv:".toList ++ d :: rest)) ∧
      number ≠ [] ∧ (∀ c ∈ number, c.isDigit = true ∨ c = '.') ∧ '\n' ∉ middle ∧
      d.isDigit = true := by
  have hclass {l : List Char} : (∀ c ∈ l, (c.isDigit || c == '.') = true) ↔
      ∀ c ∈ l, c.isDigit = true ∨ c = '.' := by simp
  rw [engineRevision?]
  simp only [Option.bind_eq_bind, Option.isSome_bind, Option.any_eq_true, behind?_eq_some_iff,
    Prod.exists, run?_eq_some_iff, searchLast_revision?_isSome_iff]
  constructor
  · rintro ⟨_, rfl, number, _, ⟨rfl, hne, hnumber, -⟩, _, rfl, middle, d, rest, rfl, hnl, hd⟩
    exact ⟨number, middle, d, rest, rfl, hne, hclass.1 hnumber, hnl, hd⟩
  · rintro ⟨number, middle, d, rest, rfl, hne, hnumber, hnl, hd⟩
    refine ⟨_, rfl, number, _, ⟨rfl, hne, hclass.2 hnumber, ?_⟩, _, rfl, middle, d, rest, rfl, hnl,
      hd⟩
    rintro c ⟨⟩
    rfl

lemma search_engineRevision?_isSome_iff :
    (search engineRevision? cs).isSome = true ↔ NamesEngine cs := by
  rw [search_isSome_iff]
  simp only [engineRevision?_isSome_iff]
  constructor
  · rintro ⟨_, ⟨front, rfl⟩, number, middle, d, rest, rfl, h⟩
    exact ⟨front, number, middle, d, rest, by simp, h⟩
  · rintro ⟨front, number, middle, d, rest, rfl, h⟩
    exact ⟨_, ⟨front, by simp⟩, number, middle, d, rest, rfl, h⟩

end Pattern

/-! ## Robot words -/

namespace Recognition

variable {cs rest spelled : List Char}

/-- The words that robots call themselves by. -/
def robotMarks : List String :=
  ["bot", "spider", "crawler", "slurp"]

/-- A character is a given small letter or its capital; the long s counts as an s. -/
def IsLetter (letter c : Char) : Prop :=
  c.toLower = letter ∨ letter = 's' ∧ c = 'ſ'

/-- The characters spell a robot word, the case of letters ignored. -/
def SpellsRobotWord (spelled : List Char) : Prop :=
  ∃ w ∈ robotMarks, List.Forall₂ IsLetter w.toList spelled

/-- A robot word stands in the text, with no word character right in front of it or behind it. -/
def HasRobotWord (cs : List Char) : Prop :=
  ∃ front spelled behind, cs = front ++ spelled ++ behind ∧ SpellsRobotWord spelled ∧
    (∀ c ∈ front.getLast?, Text.isWordChar c = false) ∧
    ∀ c ∈ behind.head?, Text.isWordChar c = false

lemma robotWords_eq : robotWords = robotMarks :=
  rfl

lemma matchesLetter_iff {letter c : Char} : matchesLetter letter c = true ↔ IsLetter letter c := by
  simp [matchesLetter, IsLetter]

lemma behindWord?_eq_some_iff {word : List Char} : behindWord? word cs = some rest ↔
    ∃ spelled, cs = spelled ++ rest ∧ List.Forall₂ IsLetter word spelled := by
  induction word generalizing cs with
  | nil => simp [behindWord?]
  | cons w word ih =>
    cases cs with
    | nil => simp [behindWord?, List.forall₂_cons_left_iff]
    | cons c cs =>
      rw [behindWord?, Option.ite_none_right_eq_some, matchesLetter_iff, ih]
      constructor
      · rintro ⟨hc, spelled, rfl, hspelled⟩
        exact ⟨c :: spelled, rfl, .cons hc hspelled⟩
      · rintro ⟨_, heq, hspelled⟩
        cases hspelled with
        | cons hc hspelled =>
          obtain ⟨rfl, rfl⟩ := List.cons.inj heq
          exact ⟨hc, _, rfl, hspelled⟩

lemma startsInWord_eq_false_iff :
    Text.startsInWord cs = false ↔ ∀ c ∈ cs.head?, Text.isWordChar c = false := by
  cases cs <;> simp [Text.startsInWord]

lemma robotWordEnds_iff : robotWordEnds cs = true ↔ ∃ spelled behind, cs = spelled ++ behind ∧
    SpellsRobotWord spelled ∧ ∀ c ∈ behind.head?, Text.isWordChar c = false := by
  rw [robotWordEnds, robotWords_eq, List.any_eq_true]
  constructor
  · rintro ⟨w, hw, h⟩
    split at h
    · next rest hrest =>
      obtain ⟨spelled, rfl, hspelled⟩ := behindWord?_eq_some_iff.1 hrest
      refine ⟨spelled, rest, rfl, ⟨w, hw, hspelled⟩, startsInWord_eq_false_iff.1 ?_⟩
      simpa using h
    · cases h
  · rintro ⟨spelled, behind, rfl, ⟨w, hw, hspelled⟩, hbehind⟩
    refine ⟨w, hw, ?_⟩
    rw [behindWord?_eq_some_iff.2 ⟨spelled, rfl, hspelled⟩]
    simp [startsInWord_eq_false_iff.2 hbehind]

lemma SpellsRobotWord.ne_nil (h : SpellsRobotWord spelled) : spelled ≠ [] := by
  rintro rfl
  obtain ⟨w, hw, hspelled⟩ := h
  have hwords : ∀ w ∈ robotMarks, w.toList ≠ [] := by decide
  exact hwords w hw (List.forall₂_nil_right_iff.1 hspelled)

/-- Whether a word goes on behind `front`; in front of it there may be a word already. -/
def goesOn (inWord : Bool) (front : List Char) : Bool :=
  (front.getLast?.map Text.isWordChar).getD inWord

lemma hasRobotWord_iff_goesOn {inWord : Bool} : hasRobotWord inWord cs = true ↔
    ∃ front spelled behind, cs = front ++ spelled ++ behind ∧ SpellsRobotWord spelled ∧
      goesOn inWord front = false ∧ ∀ c ∈ behind.head?, Text.isWordChar c = false := by
  -- the character in front of the text changes along it
  induction cs generalizing inWord with
  | nil =>
    rw [hasRobotWord]
    constructor
    · intro h
      cases h
    · rintro ⟨front, spelled, behind, heq, hspelled, -⟩
      simp [hspelled.ne_nil] at heq
  | cons c cs ih =>
    have hstep (front : List Char) :
        goesOn inWord (c :: front) = goesOn (Text.isWordChar c) front := by
      cases h : front.getLast? <;> simp [goesOn, List.getLast?_cons, h]
    rw [hasRobotWord, Bool.or_eq_true, Bool.and_eq_true, Bool.not_eq_true', robotWordEnds_iff, ih]
    constructor
    · rintro (⟨hin, spelled, behind, heq, hspelled, hbehind⟩ |
        ⟨front, spelled, behind, rfl, hspelled, hfront, hbehind⟩)
      · exact ⟨[], spelled, behind, heq, hspelled, hin, hbehind⟩
      · exact ⟨c :: front, spelled, behind, rfl, hspelled, (hstep front).trans hfront, hbehind⟩
    · rintro ⟨front, spelled, behind, heq, hspelled, hfront, hbehind⟩
      cases front with
      | nil => exact .inl ⟨hfront, spelled, behind, heq, hspelled, hbehind⟩
      | cons d front =>
        obtain ⟨rfl, rfl⟩ := List.cons.inj heq
        exact .inr ⟨front, spelled, behind, rfl, hspelled, (hstep front).symm.trans hfront, hbehind⟩

lemma hasRobotWord_iff : hasRobotWord false cs = true ↔ HasRobotWord cs := by
  have hfront (front : List Char) : goesOn false front = false ↔
      ∀ c ∈ front.getLast?, Text.isWordChar c = false := by
    cases h : front.getLast? <;> simp [goesOn, h]
  rw [hasRobotWord_iff_goesOn, HasRobotWord]
  simp only [hfront]

end Recognition

end ClientCounters
