/-
# What a look-up does

With a parser that does not use the cache itself, a look-up goes one of three ways: its slot holds a
descriptor, its slot still holds an error, or its slot is empty and the parser is run.  One equation
for each says what comes of it; all else about look-ups follows from these.  The size of the cache
and the time limit of the parser stay what they were.
-/
import ClientCounters.Cache.Lookup
import ClientCounters.Proofs.Cache.Basic

namespace ClientCounters.Cache

variable {σ : Type} {c : Cache} {key : String}

/-- The cache when a look-up of a text was counted as a miss. -/
def missed (c : Cache) (key : String) : Cache :=
  (c.obtain key).1.countMiss

/-! ## The three ways -/

/-- A slot with a descriptor answers at once. -/
lemma getOrParse_of_ok (parser : Parser σ) (state : σ) {run : Nat} {d : Descriptor}
    (h : c.outcomeIn? (c.slotFor key) = some ⟨run, .ok d⟩) :
    c.getOrParse parser.besides key state =
      ⟨.returned ⟨run, .ok d⟩, (c.obtain key).1.countHit, state, (c.obtain key).2.2⟩ := by
  rw [← obtain_slot, ← outcomeIn?_obtain] at h
  rw [getOrParse]
  dsimp only
  rw [h]

/-- A slot with an error is taken out, and the error is answered. -/
lemma getOrParse_of_error (parser : Parser σ) (state : σ) {run : Nat} {e : ParseError}
    (h : c.outcomeIn? (c.slotFor key) = some ⟨run, .error e⟩) :
    c.getOrParse parser.besides key state =
      ⟨.returned ⟨run, .error e⟩, (c.missed key).discard key (c.slotFor key), state,
        (c.obtain key).2.2 ++ [.discarded e]⟩ := by
  rw [← obtain_slot, ← outcomeIn?_obtain] at h
  rw [getOrParse]
  dsimp only
  rw [h, await, outcomeIn?_countMiss, h, obtain_slot]
  rfl

/-- An empty slot has the parser run.  A descriptor is left in the slot, a slot that was filled with
an error is taken out, and a crash leaves the slot empty. -/
lemma getOrParse_of_none (parser : Parser σ) (state : σ)
    (h : c.outcomeIn? (c.slotFor key) = none) :
    c.getOrParse parser.besides key state =
      let started := (c.missed key).startRun.1
      match (parser key state).1.settle c.limit with
      | .returned (.ok d) =>
        ⟨.returned ⟨c.parses, .ok d⟩, started.fill (c.slotFor key) ⟨c.parses, .ok d⟩,
          (parser key state).2, (c.obtain key).2.2⟩
      | .returned (.error e) =>
        ⟨.returned ⟨c.parses, .error e⟩,
          (started.fill (c.slotFor key) ⟨c.parses, .error e⟩).discard key (c.slotFor key),
          (parser key state).2, (c.obtain key).2.2 ++ [.discarded e]⟩
      | .crashed => ⟨.crashed, started, (parser key state).2, (c.obtain key).2.2⟩ := by
  have hlimit : (c.obtain key).1.limit = c.limit := (SameBounds.obtain c key).limit
  have hparses : (c.obtain key).1.parses = c.parses := congrArg CacheStats.parses counters_obtain
  rw [← obtain_slot, ← outcomeIn?_obtain] at h
  rw [getOrParse]
  dsimp only
  rw [h, await, outcomeIn?_countMiss, h]
  simp only [runParser, Parser.besides, obtain_slot]
  have hlimit' : (c.obtain key).1.countMiss.startRun.1.limit = c.limit := hlimit
  have hparses' : (c.obtain key).1.countMiss.startRun.2 = c.parses := hparses
  rw [hlimit', hparses']
  rcases (parser key state).1.settle c.limit with ⟨e | d⟩ | _
  · rfl
  · simp [deliver, missed]
  · simp [missed]

/-- Of a run of the parser only counts what the caller gets to see of it. -/
lemma getOrParse_congr {τ : Type} {p : Parser σ} {q : Parser τ} {state : σ} {state' : τ}
    (h : (p key state).1.settle c.limit = (q key state').1.settle c.limit) :
    (c.getOrParse p.besides key state).answer = (c.getOrParse q.besides key state').answer ∧
      (c.getOrParse p.besides key state).cache = (c.getOrParse q.besides key state').cache := by
  rcases ho : c.outcomeIn? (c.slotFor key) with _ | ⟨run, e | d⟩
  · rw [getOrParse_of_none p state ho, getOrParse_of_none q state' ho, h]
    dsimp only
    split <;> exact ⟨rfl, rfl⟩
  · rw [getOrParse_of_error p state ho, getOrParse_of_error q state' ho]
    exact ⟨rfl, rfl⟩
  · rw [getOrParse_of_ok p state ho, getOrParse_of_ok q state' ho]
    exact ⟨rfl, rfl⟩

/-! ## What every look-up keeps -/

/-- What each of the three ways keeps is kept by a look-up. -/
lemma getOrParse_keeps {P : Cache → Prop} (parser : Parser σ) (key : String) (c : Cache)
    (state : σ) (hit : P (c.obtain key).1.countHit)
    (stale : P ((c.missed key).discard key (c.slotFor key)))
    (crashed : P (c.missed key).startRun.1)
    (filled : ∀ o, P ((c.missed key).startRun.1.fill (c.slotFor key) o))
    (failed : ∀ o, P (((c.missed key).startRun.1.fill (c.slotFor key) o).discard key
      (c.slotFor key))) : P (c.getOrParse parser.besides key state).cache := by
  rcases ho : c.outcomeIn? (c.slotFor key) with _ | ⟨run, e | d⟩
  · rw [getOrParse_of_none parser state ho]
    dsimp only
    split
    · exact filled _
    · exact failed _
    · exact crashed
  · rw [getOrParse_of_error parser state ho]
    exact stale
  · rw [getOrParse_of_ok parser state ho]
    exact hit

namespace SameBounds

lemma missed (c : Cache) (key : String) : SameBounds c (c.missed key) :=
  (obtain c key).trans (.countMiss _)

lemma startRun (c : Cache) : SameBounds c c.startRun.1 := ⟨rfl, rfl⟩

lemma fill (c : Cache) (slot : SlotId) (o : Outcome) : SameBounds c (c.fill slot o) := ⟨rfl, rfl⟩

lemma getOrParse (parser : Parser σ) (key : String) (c : Cache) (state : σ) :
    SameBounds c (c.getOrParse parser.besides key state).cache := by
  have hmissed := missed c key
  have hstarted := hmissed.trans (startRun _)
  refine getOrParse_keeps parser key c state ?_ ?_ hstarted ?_ ?_
  · exact (obtain c key).trans (countHit _)
  · exact hmissed.trans (discard _ _ _)
  · exact fun o => hstarted.trans (fill _ _ o)
  · exact fun o => (hstarted.trans (fill _ _ o)).trans (discard _ _ _)

end SameBounds

namespace WellFormed

lemma missed (h : c.WellFormed) : (c.missed key).WellFormed :=
  h.obtain.countMiss

lemma getOrParse (h : c.WellFormed) (parser : Parser σ) (key : String) (state : σ) :
    (c.getOrParse parser.besides key state).cache.WellFormed :=
  getOrParse_keeps parser key c state h.obtain.countHit h.missed.discard h.missed.startRun
    (fun _ => h.missed.startRun.fill) fun _ => h.missed.startRun.fill.discard

end WellFormed

end ClientCounters.Cache
