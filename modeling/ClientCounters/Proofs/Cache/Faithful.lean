/-
# A cache in front of a function

A parser that is a function of the text alone may be asked once or many times.  The cache in front
of it is faithful when every outcome it holds is the value of the function at the text of its slot.
Whatever has been looked up, evicted or cleared before, a look-up in a faithful cache answers with
the value at its own text and leaves the cache faithful.
-/
import ClientCounters.Cache.Lookup
import ClientCounters.Proofs.Cache.Basic

namespace ClientCounters

/-- A run that takes no time is never too slow. -/
@[simp] lemma ParserRun.settle_returned (limit : Option Duration)
    (r : Except ParseError Descriptor) :
    ({ reply := .returned r } : ParserRun).settle limit = .returned r := by
  cases limit with
  | none => rfl
  | some d =>
    rw [settle, if_neg (Nat.not_lt_zero d.nanoseconds)]

lemma Parser.besides_pure {τ σ : Type} (parse : String → Except ParseError Descriptor) :
    (Parser.pure parse : Parser σ).besides = (Parser.pure parse : Parser (τ × σ)) := rfl

namespace Cache

variable {σ : Type} {parse : String → Except ParseError Descriptor} {c : Cache}

/-- Every outcome in the cache is the value of the function at the text of its slot. -/
structure Faithful (parse : String → Except ParseError Descriptor) (c : Cache) : Prop where
  wellFormed : c.WellFormed
  result_eq : ∀ slot o, c.outcomeIn? slot = some o →
    ∃ key, c.keyOf? slot = some key ∧ o.result = parse key

lemma runParser_pure (key : String) (slot : SlotId) (state : σ) :
    c.runParser (Parser.pure parse) key slot state =
      (some ⟨c.parses, parse key⟩, c.startRun.1.fill slot ⟨c.parses, parse key⟩, state) := by
  simp [runParser, startRun, Parser.pure]

namespace Faithful

lemma of_make? {capacity : Nat} {h : 0 < capacity} {limit : Option Duration}
    (hc : make? capacity h limit = some c) : Faithful parse c := by
  rw [make?] at hc
  split at hc
  · rw [← Option.some.inj hc]
    refine ⟨⟨List.nodup_nil, Nat.zero_le capacity, by simp⟩, ?_⟩
    intro slot o ho
    simp [outcomeIn?] at ho
  · simp at hc

lemma countHit (h : Faithful parse c) : Faithful parse c.countHit :=
  ⟨h.wellFormed.countHit, h.result_eq⟩

lemma countMiss (h : Faithful parse c) : Faithful parse c.countMiss :=
  ⟨h.wellFormed.countMiss, h.result_eq⟩

lemma clear (h : Faithful parse c) : Faithful parse c.clear :=
  ⟨h.wellFormed.clear, h.result_eq⟩

lemma obtain (h : Faithful parse c) (key : String) : Faithful parse (c.obtain key).1 := by
  refine ⟨h.wellFormed.obtain, ?_⟩
  intro slot o ho
  rw [outcomeIn?_obtain] at ho
  obtain ⟨k, hk, hr⟩ := h.result_eq slot o ho
  exact ⟨k, keyOf?_obtain_of_some hk, hr⟩

lemma discard (h : Faithful parse c) (key : String) (slot : SlotId) :
    Faithful parse (c.discard key slot) := by
  refine ⟨h.wellFormed.discard, ?_⟩
  intro s o ho
  rw [outcomeIn?_discard] at ho
  rw [keyOf?_discard]
  exact h.result_eq s o ho

lemma startRun_fill (h : Faithful parse c) {key : String} {slot : SlotId} {run : Nat}
    (hkey : c.keyOf? slot = some key) :
    Faithful parse (c.startRun.1.fill slot ⟨run, parse key⟩) := by
  refine ⟨h.wellFormed.startRun.fill, ?_⟩
  intro s o ho
  rw [keyOf?_fill, keyOf?_startRun]
  have hlt : slot < c.startRun.1.slots.size := lt_size_of_keyOf? hkey
  rw [outcomeIn?_fill hlt] at ho
  split at ho
  · next hs =>
    subst hs
    cases hold : c.outcomeIn? s with
    | some old =>
      have heq : old = o := by simpa [hold] using ho
      exact heq ▸ h.result_eq s old hold
    | none =>
      have heq : (⟨run, parse key⟩ : Outcome) = o := by simpa [hold] using ho
      exact ⟨key, hkey, heq ▸ rfl⟩
  · exact h.result_eq s o ho

/-- Handing an outcome out may take its slot out of the cache and does no more. -/
lemma deliver (h : Faithful parse c) (key : String) (slot : SlotId) (o : Outcome) :
    Faithful parse (c.deliver key slot o).1 := by
  rw [Cache.deliver]
  split
  · exact h
  · exact h.discard key slot

/-- The rest of a look-up answers with the value at the text of its slot. -/
lemma await (h : Faithful parse c) {key : String} {slot : SlotId} (state : σ)
    (hkey : c.keyOf? slot = some key) :
    ∃ run, (c.await (Parser.pure parse) key slot state).answer = .returned ⟨run, parse key⟩ ∧
      Faithful parse (c.await (Parser.pure parse) key slot state).cache := by
  rw [Cache.await]
  cases ho : c.outcomeIn? slot with
  | some o =>
    obtain ⟨k, hk, hr⟩ := h.result_eq slot o ho
    have hkk : k = key := Option.some.inj (hk.symm.trans hkey)
    refine ⟨o.run, ?_, h.deliver key slot o⟩
    rw [← hkk, ← hr]
  | none =>
    simp only [runParser_pure]
    exact ⟨c.parses, rfl, (h.startRun_fill hkey).deliver key slot _⟩

/-- A look-up answers with the value at its text, whatever the cache was used for before. -/
theorem getOrParse (h : Faithful parse c) (key : String) (state : σ) :
    ∃ run, (c.getOrParse (Parser.pure parse) key state).answer = .returned ⟨run, parse key⟩ ∧
      Faithful parse (c.getOrParse (Parser.pure parse) key state).cache := by
  have hobt := h.obtain key
  have hkey : (c.obtain key).1.keyOf? (c.obtain key).2.1 = some key := by
    rw [obtain_slot]
    exact keyOf?_obtain_slotFor h.wellFormed
  rw [Cache.getOrParse]
  rcases hob : c.obtain key with ⟨c', slot, evicted⟩
  rw [hob] at hobt hkey
  dsimp only at hobt hkey ⊢
  split
  · -- the slot holds a descriptor, the value at the text of the slot
    next run d ho =>
    obtain ⟨k, hk, hr⟩ := hobt.result_eq _ _ ho
    have hkk : k = key := Option.some.inj (hk.symm.trans hkey)
    refine ⟨run, ?_, hobt.countHit⟩
    rw [← hkk, ← hr]
  · exact hobt.countMiss.await state hkey

end Faithful

end Cache

end ClientCounters
