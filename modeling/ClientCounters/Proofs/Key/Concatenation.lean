/-
# The plus sign concatenates

Two key expressions with a plus sign between them, and any white space around it, are a key
expression, whose terms are those of the one and then those of the other.  This is because no quote
is open at the end of an expression that compiles, and because white space at the ends of an
expression goes to its outer pieces.  Evaluating follows: the values are concatenated, the second
expression starts with the components as the first one leaves them, and the first error decides.
-/
import ClientCounters.Key.Evaluation
import ClientCounters.Proofs.Key.Grammar

namespace ClientCounters

/-! ## Evaluating one row of terms behind another -/

/-- The values of two rows of terms are concatenated; the second row is evaluated only if the first
one has a value, and with the components as the first one leaves them. -/
lemma Term.evaluateAll_append {κ : Type} [ComponentSource κ] (context : ResolutionContext)
    (components : κ) (ts us : List Term) :
    evaluateAll context components (ts ++ us) =
      match evaluateAll context components ts with
      | (.error e, after) => (.error e, after)
      | (.ok x, after) =>
        match evaluateAll context after us with
        | (.error e, last) => (.error e, last)
        | (.ok y, last) => (.ok (x ++ y), last) := by
  induction ts generalizing components with
  | nil =>
    rw [List.nil_append]
    simp only [evaluateAll, String.empty_append]
    rcases evaluateAll context components us with ⟨e | y, last⟩ <;> rfl
  | cons t ts ih =>
    rw [List.cons_append, evaluateAll, evaluateAll]
    rcases t.evaluate context components with ⟨e | v, after⟩
    · rfl
    · dsimp only
      rw [ih]
      rcases evaluateAll context after ts with ⟨e | x, between⟩
      · rfl
      · dsimp only
        rcases evaluateAll context between us with ⟨e | y, last⟩
        · rfl
        · simp only [String.append_assoc]

namespace KeyExpression

open Text (AllBlank)

variable {a b : String} {terms terms' : List Term} {pieces pieces' : List (List Char)}
  {ws : List Char} {t : Term} {piece : List Char}

/-! ## White space at the ends -/

lemma SpellsPadded.behindBlank (h : SpellsPadded t piece) (hws : AllBlank ws) :
    SpellsPadded t (ws ++ piece) := by
  obtain ⟨ws', core, ws'', hws', hws'', rfl, hcore⟩ := h
  exact ⟨ws ++ ws', core, ws'', hws.append hws', hws'', by simp, hcore⟩

lemma SpellsPadded.beforeBlank (h : SpellsPadded t piece) (hws : AllBlank ws) :
    SpellsPadded t (piece ++ ws) := by
  obtain ⟨ws', core, ws'', hws', hws'', rfl, hcore⟩ := h
  exact ⟨ws', core, ws'' ++ ws, hws', hws''.append hws, by simp, hcore⟩

/-- White space in front goes to the first piece. -/
lemma exists_pieces_behindBlank (hne : terms ≠ [])
    (h : List.Forall₂ SpellsPadded terms pieces) (hws : AllBlank ws) :
    ∃ pieces', List.Forall₂ SpellsPadded terms pieces' ∧
      ['+'].intercalate pieces' = ws ++ ['+'].intercalate pieces := by
  cases h with
  | nil => exact absurd rfl hne
  | @cons t p terms ps hp hps =>
    refine ⟨(ws ++ p) :: ps, .cons (hp.behindBlank hws) hps, ?_⟩
    rw [intercalate_cons, intercalate_cons, List.append_assoc]

/-- White space behind goes to the last piece. -/
lemma exists_pieces_beforeBlank (hne : terms ≠ [])
    (h : List.Forall₂ SpellsPadded terms pieces) (hws : AllBlank ws) :
    ∃ pieces', List.Forall₂ SpellsPadded terms pieces' ∧
      ['+'].intercalate pieces' = ['+'].intercalate pieces ++ ws := by
  induction h with
  | nil => exact absurd rfl hne
  | @cons t p terms ps hp hps ih =>
    cases hps with
    | nil => exact ⟨[p ++ ws], .cons (hp.beforeBlank hws) .nil, by simp⟩
    | @cons t' p' terms ps hp' hps =>
      obtain ⟨pieces', hpieces', heq⟩ := ih (List.cons_ne_nil _ _)
      have hmore : pieces' ≠ [] := by
        rintro rfl
        cases hpieces'
      refine ⟨p :: pieces', .cons hp hpieces', ?_⟩
      rw [List.intercalate_cons_of_ne_nil hmore, heq, List.intercalate_cons_cons,
        List.append_assoc, List.append_assoc, List.append_assoc]

/-! ## One expression behind another -/

lemma intercalate_append (hne : pieces ≠ []) (hne' : pieces' ≠ []) :
    ['+'].intercalate (pieces ++ pieces') =
      ['+'].intercalate pieces ++ '+' :: ['+'].intercalate pieces' := by
  obtain ⟨p, ps, rfl⟩ := List.exists_cons_of_ne_nil hne
  obtain ⟨p', ps', rfl⟩ := List.exists_cons_of_ne_nil hne'
  rw [List.cons_append, intercalate_cons, intercalate_cons, intercalate_cons, List.flatMap_append,
    List.flatMap_cons, List.append_assoc, List.cons_append]

/-- A text spells its terms with white space at its ends as well. -/
lemma Spelled.padded (h : Spelled a terms pieces) {ws ws' : String}
    (hws : Text.isBlankText ws = true) (hws' : Text.isBlankText ws' = true) :
    ∃ pieces', Spelled (ws ++ a ++ ws') terms pieces' := by
  obtain ⟨front, hfront, heq⟩ :=
    exists_pieces_behindBlank h.ne_nil h.spells (Text.allBlank_of_isBlankText hws)
  obtain ⟨both, hboth, heq'⟩ :=
    exists_pieces_beforeBlank h.ne_nil hfront (Text.allBlank_of_isBlankText hws')
  refine ⟨both, h.ne_nil, hboth, ?_⟩
  rw [heq', heq, ← h.joined, String.toList_append, String.toList_append]

/-- Two texts with a plus sign between them spell the terms of both. -/
lemma Spelled.plus (h : Spelled a terms pieces) (h' : Spelled b terms' pieces') :
    Spelled (a ++ "+" ++ b) (terms ++ terms') (pieces ++ pieces') := by
  have hne : pieces ≠ [] := by
    rintro rfl
    exact h.ne_nil (List.forall₂_nil_right_iff.1 h.spells)
  have hne' : pieces' ≠ [] := by
    rintro rfl
    exact h'.ne_nil (List.forall₂_nil_right_iff.1 h'.spells)
  refine ⟨List.append_ne_nil_of_left_ne_nil h.ne_nil _, List.rel_append h.spells h'.spells, ?_⟩
  rw [intercalate_append hne hne', ← h.joined, ← h'.joined, String.toList_append,
    String.toList_append, List.append_assoc]
  rfl

/-! ## Reading -/

lemma exists_spelled_of_read {e : KeyExpression} (h : read a = .ok e) :
    ∃ pieces, Spelled a e.terms pieces := by
  obtain ⟨-, ps, hps, hterms⟩ := read_eq_ok_iff_operands.1 h
  obtain ⟨hnil, pieces, hpieces, rfl⟩ := operands?_eq_some_iff.1 hps
  exact ⟨pieces, spelled_iff.2 ⟨hpieces, hnil, hterms⟩⟩

lemma read_of_spelled (h : Spelled a terms pieces) : read a = .ok ⟨a, terms⟩ := by
  obtain ⟨hpieces, hnil, hterms⟩ := spelled_iff.1 h
  exact read_eq_ok_iff_operands.2
    ⟨rfl, _, operands?_eq_some_iff.2 ⟨hnil, pieces, hpieces, rfl⟩, hterms⟩

/-- How a term is written is a piece without white space around it. -/
lemma Spells.spellsPadded {cs : List Char} (h : Spells t cs) : SpellsPadded t cs :=
  ⟨[], cs, [], Text.allBlank_nil, Text.allBlank_nil, by simp, h⟩

/-- An expression that is one term has the value of this term. -/
lemma resolve_of_spellsPadded {κ : Type} [ComponentSource κ] (h : SpellsPadded t a.toList)
    (context : ResolutionContext) (components : κ) :
    resolve a context components = t.evaluate context components := by
  have hspelled : Spelled a [t] [a.toList] := ⟨List.cons_ne_nil _ _, .cons h .nil, by simp⟩
  rw [resolve, read_of_spelled hspelled]
  show Term.evaluateAll context components [t] = _
  rw [Term.evaluateAll]
  rcases t.evaluate context components with ⟨e | v, after⟩
  · rfl
  · show (Except.ok (v ++ ""), after) = _
    rw [String.append_empty]

/-- An expression is two others in a row: its terms are theirs, it has a value if and only if both
have, namely the one value behind the other, and otherwise its error is that of the first of them
without a value.  Components are looked up for the first one and, if that has a value, for the
second one with what the first left of them. -/
structure IsConcatenation (e f whole : KeyExpression) : Prop where
  terms : whole.terms = e.terms ++ f.terms
  value : ∀ (κ : Type) [ComponentSource κ] (context : ResolutionContext) (components after : κ) z,
    whole.evaluate context components = (.ok z, after) ↔
      ∃ x y between, e.evaluate context components = (.ok x, between) ∧
        f.evaluate context between = (.ok y, after) ∧ z = x ++ y
  first : ∀ (κ : Type) [ComponentSource κ] (context : ResolutionContext) (components after : κ) err,
    e.evaluate context components = (.error err, after) →
      whole.evaluate context components = (.error err, after)
  second : ∀ (κ : Type) [ComponentSource κ] (context : ResolutionContext)
    (components between after : κ) x err, e.evaluate context components = (.ok x, between) →
      f.evaluate context between = (.error err, after) →
        whole.evaluate context components = (.error err, after)

section

variable {e f whole : KeyExpression}

lemma evaluate_of_terms {κ : Type} [ComponentSource κ] (h : whole.terms = e.terms ++ f.terms)
    (context : ResolutionContext) (components : κ) :
    whole.evaluate context components =
      match e.evaluate context components with
      | (.error err, after) => (.error err, after)
      | (.ok x, between) =>
        match f.evaluate context between with
        | (.error err, after) => (.error err, after)
        | (.ok y, after) => (.ok (x ++ y), after) := by
  rw [evaluate, h]
  exact Term.evaluateAll_append context components e.terms f.terms

lemma isConcatenation_of_terms (h : whole.terms = e.terms ++ f.terms) :
    IsConcatenation e f whole where
  terms := h
  value κ _ context components after z := by
    rw [evaluate_of_terms h]
    rcases e.evaluate context components with ⟨err | x, between⟩
    · simp
    · dsimp only
      rcases hf : f.evaluate context between with ⟨err | y, last⟩
      · simp [hf]
      · constructor
        · intro heq
          cases heq
          exact ⟨x, y, between, rfl, hf, rfl⟩
        · rintro ⟨x', y', between', ⟨⟩, hy, rfl⟩
          cases hf.symm.trans hy
          rfl
  first κ _ context components after err he := by
    rw [evaluate_of_terms h, he]
  second κ _ context components between after x err he hf := by
    rw [evaluate_of_terms h, he]
    dsimp only
    rw [hf]

end

/-- **The plus sign concatenates.**  Two texts that compile, with a plus sign between them and any
white space around it, compile to the concatenation of the two expressions. -/
theorem read_plus {a b : String} {e f : KeyExpression} (ha : read a = .ok e) (hb : read b = .ok f)
    {ws ws' : String} (hws : Text.isBlankText ws = true) (hws' : Text.isBlankText ws' = true) :
    ∃ whole, read (a ++ ws ++ "+" ++ ws' ++ b) = .ok whole ∧ IsConcatenation e f whole := by
  obtain ⟨pieces, ha⟩ := exists_spelled_of_read ha
  obtain ⟨pieces', hb⟩ := exists_spelled_of_read hb
  have hempty : Text.isBlankText "" = true := rfl
  obtain ⟨front, ha⟩ := ha.padded hempty hws
  obtain ⟨back, hb⟩ := hb.padded hws' hempty
  have hwhole : Spelled (a ++ ws ++ "+" ++ ws' ++ b) (e.terms ++ f.terms) (front ++ back) := by
    simpa [String.append_assoc] using ha.plus hb
  exact ⟨_, read_of_spelled hwhole, isConcatenation_of_terms rfl⟩

/-- White space of both kinds around the sign, a plus sign in quotes, and a component that both
expressions look up: the second one sees the next reading. -/
theorem read_plus_of_shared_component :
    ∃ e f whole, read "@n + '+'" = .ok e ∧ read " @n" = .ok f ∧
      read "@n + '+'\u2003+ \n @n" = .ok whole ∧ IsConcatenation e f whole ∧
      ∀ context : ResolutionContext,
        (whole.evaluate context
          (ComponentRegistry.ofList [("n", .computed (fun k => toString k) 0)])).1 = .ok "0+1" := by
  have hfirst : read "@n + '+'" = .ok ⟨"@n + '+'", [.component "n", .literal "+"]⟩ := by
    decide +kernel
  have hsecond : read " @n" = .ok ⟨" @n", [.component "n"]⟩ := by decide +kernel
  have hbefore : Text.isBlankText "\u2003" = true := by decide +kernel
  have hbehind : Text.isBlankText " \n" = true := by decide +kernel
  obtain ⟨whole, hread, hwhole⟩ := read_plus hfirst hsecond hbefore hbehind
  refine ⟨_, _, whole, hfirst, hsecond, hread, hwhole, fun context => ?_⟩
  rw [evaluate, hwhole.terms]
  rfl

end KeyExpression

end ClientCounters
