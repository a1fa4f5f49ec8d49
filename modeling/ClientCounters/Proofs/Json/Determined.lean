/-
# A text is JSON for one value at most

The tokens of a value decide the value, whatever tokens follow it: the first one says of what kind
it is, and a list or an object goes on until it is closed.  Since a text decides its tokens
(`Value.Rendering.tokens_eq`), it decides the value that is written in it.
-/
import ClientCounters.Proofs.Json.Lexing

namespace ClientCounters.Json

namespace Value

/-- The first token of a value. -/
def first : Value → Token
  | null => .null
  | truth b => .truth b
  | number n => .number n
  | string text => .string text
  | list _ => .openList
  | object _ => .openObject

/-- The tokens of a value behind the first one. -/
def behindFirst : Value → List Token
  | null | truth _ | number _ | string _ => []
  | list [] => [.closeList]
  | list (v :: vs) => v.tokens ++ tokensBehindItem vs
  | object [] => [.closeObject]
  | object ((name, v) :: ms) => .string name :: .colon :: (v.tokens ++ tokensBehindMember ms)

lemma tokens_eq_cons (v : Value) : v.tokens = v.first :: v.behindFirst := by
  rcases v with _ | _ | _ | _ | ⟨_ | ⟨v, vs⟩⟩ | ⟨_ | ⟨⟨name, v⟩, ms⟩⟩ <;> rw [tokens] <;> rfl

/-- A value does not begin with the end of a list. -/
lemma tokens_append_ne_closeList (v : Value) (ts us : List Token) :
    v.tokens ++ ts ≠ .closeList :: us := by
  rw [v.tokens_eq_cons]
  intro h
  have hfirst : v.first = .closeList := (List.cons.inj h).1
  cases v <;> cases hfirst

end Value

mutual

/-- A value is told from what follows it. -/
lemma Value.tokens_append_inj (v w : Value) {ts us : List Token}
    (h : v.tokens ++ ts = w.tokens ++ us) : v = w ∧ ts = us := by
  rw [v.tokens_eq_cons, w.tokens_eq_cons, List.cons_append, List.cons_append, List.cons.injEq] at h
  obtain ⟨hfirst, hbehind⟩ := h
  match v with
  | .null | .truth _ | .number _ | .string _ =>
    cases w <;> cases hfirst
    exact ⟨rfl, hbehind⟩
  | .list vs =>
    obtain ⟨ws, rfl⟩ : ∃ ws, w = .list ws := by
      cases w <;> cases hfirst
      exact ⟨_, rfl⟩
    match vs, ws with
    | [], [] => exact ⟨rfl, (List.cons.inj hbehind).2⟩
    | [], w :: ws =>
      rw [Value.behindFirst, Value.behindFirst, List.append_assoc] at hbehind
      exact absurd hbehind.symm (w.tokens_append_ne_closeList _ _)
    | v :: vs, [] =>
      rw [Value.behindFirst, Value.behindFirst, List.append_assoc] at hbehind
      exact absurd hbehind (v.tokens_append_ne_closeList _ _)
    | v :: vs, w :: ws =>
      rw [Value.behindFirst, Value.behindFirst, List.append_assoc, List.append_assoc] at hbehind
      obtain ⟨rfl, hmore⟩ := v.tokens_append_inj w hbehind
      obtain ⟨rfl, hrest⟩ := tokensBehindItem_append_inj vs ws hmore
      exact ⟨rfl, hrest⟩
  | .object ms =>
    obtain ⟨ns, rfl⟩ : ∃ ns, w = .object ns := by
      cases w <;> cases hfirst
      exact ⟨_, rfl⟩
    match ms, ns with
    | [], [] => exact ⟨rfl, (List.cons.inj hbehind).2⟩
    | [], (name, w) :: ns => cases hbehind
    | (name, v) :: ms, [] => cases hbehind
    | (name, v) :: ms, (name', w) :: ns =>
      simp only [Value.behindFirst, List.cons_append, List.append_assoc, List.cons.injEq,
        Token.string.injEq, true_and] at hbehind
      obtain ⟨rfl, hvalue⟩ := hbehind
      obtain ⟨rfl, hmore⟩ := v.tokens_append_inj w hvalue
      obtain ⟨rfl, hrest⟩ := tokensBehindMember_append_inj ms ns hmore
      exact ⟨rfl, hrest⟩

lemma tokensBehindItem_append_inj (vs ws : List Value) {ts us : List Token}
    (h : tokensBehindItem vs ++ ts = tokensBehindItem ws ++ us) : vs = ws ∧ ts = us := by
  match vs, ws with
  | [], [] => exact ⟨rfl, (List.cons.inj h).2⟩
  | [], w :: ws => cases h
  | v :: vs, [] => cases h
  | v :: vs, w :: ws =>
    rw [tokensBehindItem_append, tokensBehindItem_append] at h
    obtain ⟨rfl, hmore⟩ := v.tokens_append_inj w (List.cons.inj h).2
    obtain ⟨rfl, hrest⟩ := tokensBehindItem_append_inj vs ws hmore
    exact ⟨rfl, hrest⟩

lemma tokensBehindMember_append_inj (ms ns : List (Option String × Value)) {ts us : List Token}
    (h : tokensBehindMember ms ++ ts = tokensBehindMember ns ++ us) : ms = ns ∧ ts = us := by
  match ms, ns with
  | [], [] => exact ⟨rfl, (List.cons.inj h).2⟩
  | [], (name, w) :: ns => cases h
  | (name, v) :: ms, [] => cases h
  | (name, v) :: ms, (name', w) :: ns =>
    simp only [tokensBehindMember_append, List.cons.injEq, Token.string.injEq, true_and] at h
    obtain ⟨rfl, hvalue⟩ := h
    obtain ⟨rfl, hmore⟩ := v.tokens_append_inj w hvalue
    obtain ⟨rfl, hrest⟩ := tokensBehindMember_append_inj ms ns hmore
    exact ⟨rfl, hrest⟩

end

/-- At most one value is written in a text. -/
theorem Value.Rendering.unique {v w : Value} {text : String} (h : v.Rendering text)
    (h' : w.Rendering text) : v = w := by
  have htokens : v.tokens ++ [] = w.tokens ++ [] := by rw [← h.tokens_eq, h'.tokens_eq]
  exact (v.tokens_append_inj w htokens).1

end ClientCounters.Json
