/-
# The pieces of a key expression

An expression is cut by a scan that carries the open quote along.  What the scan finds is the one
way to write the expression as balanced pieces with plus signs between them, a piece being balanced
when its quotes all close and no plus sign stands outside them (`pieces?_none_eq_some_iff`).  In
particular a plus sign between quotes never cuts.
-/
import Mathlib.Tactic.Common
import ClientCounters.Key.Reading
import ClientCounters.Proofs.Text.Blank

namespace ClientCounters.KeyExpression

variable {q : Char} {quote : Option Char} {cs ds p : List Char} {ps : List (List Char)}

/-- All quotes close, and no plus sign stands outside them. -/
inductive Balanced : List Char → Prop where
  | nil : Balanced []
  | plain {c : Char} {cs : List Char} (hplus : c ≠ '+') (hquote : isQuote c = false)
    (h : Balanced cs) : Balanced (c :: cs)
  | quoted {q : Char} {x cs : List Char} (hq : isQuote q = true) (hx : q ∉ x)
    (h : Balanced cs) : Balanced (q :: x ++ q :: cs)

/-- What stands behind an open quote is balanced from the closing quote on. -/
def Closes : Option Char → List Char → Prop
  | none, cs => Balanced cs
  | some q, cs => ∃ x rest, q ∉ x ∧ Balanced rest ∧ cs = x ++ q :: rest

/-! ## One character further -/

lemma not_closes_nil : ¬ Closes (some q) [] := by
  rintro ⟨x, rest, -, -, heq⟩
  cases x <;> cases heq

lemma closes_close : Closes (some q) (q :: cs) ↔ Balanced cs := by
  constructor
  · rintro ⟨x, rest, hx, hrest, heq⟩
    cases x with
    | nil =>
      obtain ⟨-, rfl⟩ := List.cons.inj heq
      exact hrest
    | cons c x =>
      obtain ⟨rfl, -⟩ := List.cons.inj heq
      exact absurd List.mem_cons_self hx
  · exact fun h => ⟨[], cs, List.not_mem_nil, h, rfl⟩

lemma closes_inside {c : Char} (hc : c ≠ q) : Closes (some q) (c :: cs) ↔ Closes (some q) cs := by
  constructor
  · rintro ⟨x, rest, hx, hrest, heq⟩
    cases x with
    | nil => exact absurd (List.cons.inj heq).1 hc
    | cons d x =>
      obtain ⟨rfl, rfl⟩ := List.cons.inj heq
      exact ⟨x, rest, fun hmem => hx (List.mem_cons_of_mem _ hmem), hrest, rfl⟩
  · rintro ⟨x, rest, hx, hrest, rfl⟩
    refine ⟨c :: x, rest, ?_, hrest, rfl⟩
    rw [List.mem_cons, not_or]
    exact ⟨Ne.symm hc, hx⟩

lemma not_balanced_plus : ¬ Balanced ('+' :: cs) := by
  intro h
  cases h with
  | plain hplus _ _ => exact hplus rfl
  | quoted hq _ _ => cases hq

lemma balanced_open (hq : isQuote q = true) : Balanced (q :: cs) ↔ Closes (some q) cs := by
  constructor
  · intro h
    cases h with
    | plain _ hquote _ =>
      rw [hq] at hquote
      cases hquote
    | @quoted _ x rest _ hx h => exact ⟨x, rest, hx, h, rfl⟩
  · rintro ⟨x, rest, hx, hrest, rfl⟩
    exact .quoted hq hx hrest

lemma balanced_plain {c : Char} (hplus : c ≠ '+') (hquote : isQuote c = false) :
    Balanced (c :: cs) ↔ Balanced cs := by
  constructor
  · intro h
    cases h with
    | plain _ _ h => exact h
    | quoted hq _ _ =>
      rw [hq] at hquote
      cases hquote
  · exact .plain hplus hquote

/-! ## Balanced characters -/

/-- Neither a plus sign nor a quote. -/
def IsPlain (c : Char) : Prop :=
  c ≠ '+' ∧ isQuote c = false

instance (c : Char) : Decidable (IsPlain c) :=
  inferInstanceAs (Decidable (c ≠ '+' ∧ isQuote c = false))

lemma balanced_of_plain (h : ∀ c ∈ cs, IsPlain c) : Balanced cs := by
  induction cs with
  | nil => exact .nil
  | cons c cs ih =>
    rw [List.forall_mem_cons] at h
    exact .plain h.1.1 h.1.2 (ih h.2)

/-- The same for characters that can be looked through. -/
lemma balanced_of_all (h : cs.all (fun c => IsPlain c) = true) : Balanced cs :=
  balanced_of_plain fun c hc => of_decide_eq_true (List.all_eq_true.1 h c hc)

lemma Balanced.append (hcs : Balanced cs) (hds : Balanced ds) : Balanced (cs ++ ds) := by
  induction hcs with
  | nil => exact hds
  | plain hplus hquote _ ih => exact .plain hplus hquote ih
  | @quoted q x rest hq hx _ ih =>
    have heq : q :: x ++ q :: rest ++ ds = q :: x ++ q :: (rest ++ ds) := List.append_assoc _ _ _
    rw [heq]
    exact .quoted hq hx ih

lemma balanced_literal {x : List Char} (hq : isQuote q = true) (hx : q ∉ x) :
    Balanced (q :: (x ++ [q])) :=
  .quoted hq hx .nil

lemma isPlain_of_isBlank {c : Char} (hc : Text.isBlank c = true) : IsPlain c := by
  constructor
  · rintro rfl
    cases hc
  · rw [Bool.eq_false_iff]
    intro hquote
    rw [isQuote, Bool.or_eq_true, beq_iff_eq, beq_iff_eq] at hquote
    rcases hquote with rfl | rfl <;> cases hc

lemma closes_append_blank {ws : List Char} (hquote : ∀ q, quote = some q → isQuote q = true)
    (hws : Text.AllBlank ws) : Closes quote (cs ++ ws) ↔ Closes quote cs := by
  -- the open quote changes on the way, so that the claim is about all of them
  induction cs generalizing quote with
  | nil =>
    cases quote with
    | none =>
      have hplain : Balanced ws := balanced_of_plain fun c hc => isPlain_of_isBlank (hws c hc)
      exact ⟨fun _ => .nil, fun _ => hplain⟩
    | some q =>
      -- white space holds no quote that could close the open one
      refine ⟨?_, fun h => absurd h not_closes_nil⟩
      rintro ⟨x, rest, -, -, heq⟩
      have hq : q ∈ ws := by
        rw [show ws = x ++ q :: rest from heq]
        simp
      have hplain := isPlain_of_isBlank (hws q hq)
      rw [IsPlain, hquote q rfl] at hplain
      cases hplain.2
  | cons c cs ih =>
    cases quote with
    | some q =>
      by_cases hc : c = q
      · subst hc
        rw [List.cons_append, closes_close, closes_close]
        have hrest : Closes none (cs ++ ws) ↔ Closes none cs := ih fun q hq => by cases hq
        exact hrest
      · rw [List.cons_append, closes_inside hc, closes_inside hc]
        exact ih hquote
    | none =>
      show Balanced (c :: (cs ++ ws)) ↔ Balanced (c :: cs)
      by_cases hplus : c = '+'
      · subst hplus
        exact ⟨fun h => absurd h not_balanced_plus, fun h => absurd h not_balanced_plus⟩
      · cases hc : isQuote c with
        | true =>
          rw [balanced_open hc, balanced_open hc]
          exact ih fun q hq => Option.some.inj hq ▸ hc
        | false =>
          rw [balanced_plain hplus hc, balanced_plain hplus hc]
          have hrest : Closes none (cs ++ ws) ↔ Closes none cs := ih fun q hq => by cases hq
          exact hrest

/-- White space around a piece does not matter. -/
lemma balanced_padded {ws ws' : List Char} (hws : Text.AllBlank ws) (hws' : Text.AllBlank ws') :
    Balanced (ws ++ cs ++ ws') ↔ Balanced cs := by
  have hend : Closes none (ws ++ cs ++ ws') ↔ Closes none (ws ++ cs) :=
    closes_append_blank (fun q hq => by cases hq) hws'
  refine Iff.trans hend ?_
  clear hend
  show Balanced (ws ++ cs) ↔ Balanced cs
  induction ws with
  | nil => exact Iff.rfl
  | cons c ws ih =>
    have hc := isPlain_of_isBlank (hws c List.mem_cons_self)
    rw [List.cons_append, balanced_plain hc.1 hc.2]
    exact ih fun d hd => hws d (List.mem_cons_of_mem _ hd)

/-! ## The scan -/

/-- Balanced pieces, the first of them from the open quote on, that make up the characters when
plus signs are put between them. -/
def Cuts (quote : Option Char) (cs : List Char) : List (List Char) → Prop
  | [] => False
  | p :: ps => Closes quote p ∧ (∀ p' ∈ ps, Balanced p') ∧ cs = ['+'].intercalate (p :: ps)

lemma intercalate_cons (p : List Char) (ps : List (List Char)) :
    ['+'].intercalate (p :: ps) = p ++ ps.flatMap ('+' :: ·) := by
  induction ps generalizing p with
  | nil => rw [List.intercalate_singleton, List.flatMap_nil, List.append_nil]
  | cons p' ps ih =>
    rw [List.intercalate_cons_cons, ih, List.flatMap_cons, List.append_assoc]
    rfl

lemma cuts_nil : Cuts quote [] ps ↔ quote = none ∧ ps = [[]] := by
  cases ps with
  | nil => simp [Cuts]
  | cons p ps =>
    rw [Cuts, intercalate_cons]
    constructor
    · rintro ⟨hp, -, heq⟩
      obtain ⟨rfl, hps⟩ := List.append_eq_nil_iff.1 heq.symm
      cases ps with
      | cons p' ps => cases hps
      | nil =>
        cases quote with
        | none => exact ⟨rfl, rfl⟩
        | some q => exact absurd hp not_closes_nil
    · rintro ⟨rfl, heq⟩
      obtain ⟨rfl, rfl⟩ := List.cons.inj heq
      exact ⟨.nil, by simp, rfl⟩

/-- A plus sign outside quotes ends a piece. -/
lemma cuts_plus : Cuts none ('+' :: cs) ps ↔ ∃ ps', Cuts none cs ps' ∧ ps = [] :: ps' := by
  constructor
  · intro h
    match ps, h with
    | [] :: p' :: ps, ⟨_, hps, heq⟩ =>
      rw [List.forall_mem_cons] at hps
      rw [List.intercalate_cons_cons] at heq
      exact ⟨p' :: ps, ⟨hps.1, hps.2, (List.cons.inj heq).2⟩, rfl⟩
    | [[]], ⟨_, _, heq⟩ => cases heq
    | (c :: p) :: ps, ⟨hp, _, heq⟩ =>
      rw [List.intercalate_cons_cons_left] at heq
      obtain ⟨rfl, -⟩ := List.cons.inj heq
      exact absurd hp not_balanced_plus
  · rintro ⟨ps', h, rfl⟩
    match ps', h with
    | p :: ps', ⟨hp, hps, heq⟩ =>
      refine ⟨.nil, List.forall_mem_cons.2 ⟨hp, hps⟩, ?_⟩
      rw [heq, List.intercalate_cons_cons]
      rfl

/-- Any other character stands in front of the first piece. -/
lemma cuts_cons {c : Char} {quote' : Option Char}
    (hstep : ∀ p, Closes quote (c :: p) ↔ Closes quote' p)
    (hne : Closes quote [] → c ≠ '+') :
    Cuts quote (c :: cs) ps ↔ ∃ ps', Cuts quote' cs ps' ∧ ps = extend c ps' := by
  constructor
  · intro h
    match ps, h with
    | (d :: p) :: ps, ⟨hp, hps, heq⟩ =>
      rw [List.intercalate_cons_cons_left] at heq
      obtain ⟨rfl, hcs⟩ := List.cons.inj heq
      exact ⟨p :: ps, ⟨(hstep p).1 hp, hps, hcs⟩, rfl⟩
    | [] :: ps, ⟨hp, _, heq⟩ =>
      rw [intercalate_cons, List.nil_append] at heq
      cases ps with
      | nil => cases heq
      | cons p' ps => exact absurd (List.cons.inj heq).1 (hne hp)
  · rintro ⟨ps', h, rfl⟩
    match ps', h with
    | p :: ps', ⟨hp, hps, heq⟩ =>
      refine ⟨(hstep p).2 hp, hps, ?_⟩
      rw [heq, List.intercalate_cons_cons_left]

lemma map_eq_some_iff_cuts {f : List (List Char) → List (List Char)}
    (ih : ∀ ps, pieces? quote cs = some ps ↔ Cuts quote cs ps) :
    (pieces? quote cs).map f = some ps ↔ ∃ ps', Cuts quote cs ps' ∧ ps = f ps' := by
  rw [Option.map_eq_some_iff]
  refine exists_congr fun ps' => ?_
  rw [ih, eq_comm (a := ps)]

/-- The scan finds the pieces. -/
theorem pieces?_eq_some_iff : pieces? quote cs = some ps ↔ Cuts quote cs ps := by
  -- each branch of the scan is one of the ways in which a character goes to the pieces
  induction cs generalizing quote ps with
  | nil =>
    rw [cuts_nil, pieces?]
    cases quote <;> simp [eq_comm]
  | cons c cs ih =>
    cases quote with
    | some q =>
      rw [pieces?, map_eq_some_iff_cuts fun _ => ih]
      by_cases hc : c = q
      · subst hc
        rw [if_pos rfl]
        exact (cuts_cons (fun p => closes_close) fun h => absurd h not_closes_nil).symm
      · rw [if_neg hc]
        exact (cuts_cons (fun p => closes_inside hc) fun h => absurd h not_closes_nil).symm
    | none =>
      rw [pieces?]
      by_cases hplus : c = '+'
      · subst hplus
        rw [if_pos rfl, map_eq_some_iff_cuts fun _ => ih]
        exact cuts_plus.symm
      · rw [if_neg hplus, map_eq_some_iff_cuts fun _ => ih]
        cases hquote : isQuote c with
        | true =>
          have hstep (p : List Char) : Closes none (c :: p) ↔ Closes (some c) p :=
            balanced_open hquote
          rw [if_pos rfl]
          exact (cuts_cons hstep fun _ => hplus).symm
        | false =>
          have hstep (p : List Char) : Closes none (c :: p) ↔ Closes none p :=
            balanced_plain hplus hquote
          rw [if_neg Bool.false_ne_true]
          exact (cuts_cons hstep fun _ => hplus).symm

/-- The pieces of an expression are the one way to write it as balanced pieces with plus signs
between them. -/
theorem pieces?_none_eq_some_iff : pieces? none cs = some ps ↔
    ps ≠ [] ∧ (∀ p ∈ ps, Balanced p) ∧ cs = ['+'].intercalate ps := by
  rw [pieces?_eq_some_iff]
  cases ps with
  | nil => simp [Cuts]
  | cons p ps =>
    rw [Cuts, List.forall_mem_cons, and_assoc]
    exact ⟨fun h => ⟨List.cons_ne_nil _ _, h⟩, fun h => h.2⟩

end ClientCounters.KeyExpression
