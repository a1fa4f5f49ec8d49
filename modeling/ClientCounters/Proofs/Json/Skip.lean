/-
# Values that are passed over

The tokens of a value are skipped up to the last one, however deep the value is and whatever it
holds, and the rest is left as it is.
-/
import ClientCounters.Json.Skip
import ClientCounters.Proofs.Json.Grammar

namespace ClientCounters.Json

variable {frames : List Frame} {t : Token} {ts : List Token}

/-- What is left behind a value inside of some others. -/
def skipBehind? (frames : List Frame) (ts : List Token) : Option (List Token) :=
  if frames.isEmpty then some ts else skip? frames .more ts

lemma skip?_firstValue (h : t ≠ .closeList) :
    skip? frames .firstValue (t :: ts) = skip? frames .value (t :: ts) := by
  cases t <;> cases frames <;> simp [skip?] at h ⊢

/-- No value begins with the end of a list. -/
lemma Value.exists_cons (v : Value) : ∃ t ts, v.tokens = t :: ts ∧ t ≠ .closeList := by
  rcases v with _ | _ | _ | _ | ⟨_ | ⟨v, vs⟩⟩ | ⟨_ | ⟨⟨name, v⟩, ms⟩⟩ <;> simp [Value.tokens]

mutual

/-- A value is skipped up to its end. -/
lemma skip?_value (v : Value) (frames : List Frame) (ts : List Token) :
    skip? frames .value (v.tokens ++ ts) = skipBehind? frames ts := by
  match v with
  | .null | .truth _ | .string _ | .number _ => simp [Value.tokens, skip?, skipBehind?]
  | .list [] | .object [] => simp [Value.tokens, skip?, skipBehind?]
  | .list (v :: vs) =>
    rw [tokens_list_append]
    have hopen : skip? frames .value
        (.openList :: (v.tokens ++ (tokensBehindItem vs ++ ts))) =
        skip? (.list :: frames) .firstValue (v.tokens ++ (tokensBehindItem vs ++ ts)) := by
      simp [skip?]
    have hfirst : skip? (.list :: frames) .firstValue (v.tokens ++ (tokensBehindItem vs ++ ts)) =
        skip? (.list :: frames) .value (v.tokens ++ (tokensBehindItem vs ++ ts)) := by
      obtain ⟨t, us, hv, ht⟩ := v.exists_cons
      rw [hv, List.cons_append, skip?_firstValue ht]
    rw [hopen, hfirst, skip?_value v]
    exact skip?_behindItem vs frames ts
  | .object ((name, v) :: ms) =>
    rw [tokens_object_append]
    simp only [skip?]
    rw [skip?_value v]
    exact skip?_behindMember ms frames ts

lemma skip?_behindItem (vs : List Value) (frames : List Frame) (ts : List Token) :
    skip? (.list :: frames) .more (tokensBehindItem vs ++ ts) = skipBehind? frames ts := by
  match vs with
  | [] => simp [tokensBehindItem, skip?, skipBehind?]
  | v :: vs =>
    rw [tokensBehindItem_append]
    simp only [skip?]
    rw [skip?_value v]
    exact skip?_behindItem vs frames ts

lemma skip?_behindMember (ms : List (Option String × Value)) (frames : List Frame)
    (ts : List Token) :
    skip? (.object :: frames) .more (tokensBehindMember ms ++ ts) = skipBehind? frames ts := by
  match ms with
  | [] => simp [tokensBehindMember, skip?, skipBehind?]
  | (name, v) :: ms =>
    rw [tokensBehindMember_append]
    simp only [skip?]
    rw [skip?_value v]
    exact skip?_behindMember ms frames ts

end

/-- Skipping a value leaves what follows it. -/
theorem skipValue?_append (v : Value) (ts : List Token) :
    skipValue? (v.tokens ++ ts) = some ts :=
  skip?_value v [] ts

end ClientCounters.Json
