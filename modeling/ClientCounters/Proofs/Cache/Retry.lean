/-
# Looking up again

A text is forgotten when the slot that a look-up of it would get holds no outcome.  Then the look-up
runs the parser, whatever the cache holds besides.  A look-up that did not come to a descriptor
leaves its text forgotten, whether the parser crashed, failed or took too long, and no look-up of
another text changes that.
-/
import ClientCounters.Proofs.Cache.Lookup

namespace ClientCounters.Cache

variable {σ : Type} {c : Cache} {key other : String} {slot : SlotId} {o : Outcome}

/-- A look-up of the text finds no outcome. -/
def Forgotten (c : Cache) (key : String) : Prop :=
  c.outcomeIn? (c.slotFor key) = none

namespace Forgotten

lemma of_slotOf?_eq_none (h : c.slotOf? key = none) : Forgotten c key :=
  outcomeIn?_of_keyOf? (keyOf?_slotFor_of_none h)

/-- A text stays forgotten when it is registered with no other slot than before and when nothing is
put into that slot. -/
lemma of_slotOf? {c' : Cache} (h : Forgotten c key)
    (hslot : ∀ slot, c'.slotOf? key = some slot →
      c.slotOf? key = some slot ∧ c'.outcomeIn? slot = c.outcomeIn? slot) : Forgotten c' key := by
  cases hs : c'.slotOf? key with
  | none => exact of_slotOf?_eq_none hs
  | some slot =>
    obtain ⟨hbefore, heq⟩ := hslot slot hs
    rw [Forgotten, slotFor, hs, Option.getD_some, heq]
    rwa [Forgotten, slotFor, hbefore, Option.getD_some] at h

/-! ## Operations for another text -/

lemma obtain (h : Forgotten c key) (hwell : c.WellFormed) (hne : other ≠ key) :
    Forgotten (c.obtain other).1 key := by
  refine h.of_slotOf? fun slot hslot => ⟨?_, outcomeIn?_obtain⟩
  have hmem := mem_resident_of_slotOf? hslot
  rw [resident_obtain hwell, List.mem_cons] at hmem
  rcases hmem with heq | hmem
  · exact absurd (Prod.mk.inj heq).1.symm hne
  · exact hwell.slotOf?_eq_some_iff.2 (mem_without.1 (List.mem_filter.1 hmem).1).1

lemma fill (h : Forgotten c key) (hwell : c.WellFormed) (hslot : c.keyOf? slot = some other)
    (hne : other ≠ key) : Forgotten (c.fill slot o) key := by
  refine h.of_slotOf? fun slot' hslot' => ⟨hslot', ?_⟩
  rw [outcomeIn?_fill (lt_size_of_keyOf? hslot), if_neg]
  rintro rfl
  -- the slot would have been made for both texts
  have hkey := hwell.keyOf?_eq _ (mem_resident_of_slotOf? hslot')
  exact hne (Option.some.inj (hslot.symm.trans hkey))

lemma discard (h : Forgotten c key) (hwell : c.WellFormed) :
    Forgotten (c.discard other slot) key := by
  refine h.of_slotOf? fun slot' hslot' => ⟨?_, outcomeIn?_discard⟩
  have hmem := mem_resident_of_slotOf? hslot'
  rw [Cache.discard] at hmem
  split at hmem
  · exact hwell.slotOf?_eq_some_iff.2 (mem_without.1 hmem).1
  · exact hwell.slotOf?_eq_some_iff.2 hmem

/-- A look-up of another text leaves a text forgotten. -/
lemma getOrParse (h : Forgotten c key) (hwell : c.WellFormed) (hne : other ≠ key)
    (parser : Parser σ) (state : σ) :
    Forgotten (c.getOrParse parser.besides other state).cache key := by
  have hobtained := h.obtain hwell hne
  have hmissed : Forgotten (c.missed other) key := hobtained
  have hstarted : Forgotten (c.missed other).startRun.1 key := hobtained
  have hslot : (c.missed other).startRun.1.keyOf? (c.slotFor other) = some other :=
    keyOf?_obtain_slotFor hwell
  have hfilled (o : Outcome) :
      Forgotten ((c.missed other).startRun.1.fill (c.slotFor other) o) key :=
    hstarted.fill hwell.missed.startRun hslot hne
  refine getOrParse_keeps (P := (Forgotten · key)) parser other c state hobtained ?_ hstarted
    hfilled ?_
  · exact hmissed.discard hwell.missed
  · exact fun o => (hfilled o).discard hwell.missed.startRun.fill

end Forgotten

/-! ## The text itself -/

/-- A look-up registers its text with the slot that it gets. -/
lemma slotOf?_obtain (h : c.WellFormed) :
    (c.obtain key).1.slotOf? key = some (c.slotFor key) := by
  rw [h.obtain.slotOf?_eq_some_iff, resident_obtain h]
  exact List.mem_cons_self

lemma slotOf?_discard (h : c.slotOf? key = some slot) : (c.discard key slot).slotOf? key = none := by
  rw [discard, if_pos h]
  exact slotOf?_eq_none_iff.2 fun e he => (mem_without.1 he).2

/-- A look-up that does not come to a descriptor leaves its text forgotten. -/
theorem forgotten_of_failed (h : c.WellFormed) (parser : Parser σ) (state : σ)
    (hfailed : ∀ run d,
      (c.getOrParse parser.besides key state).answer ≠ .returned ⟨run, .ok d⟩) :
    Forgotten (c.getOrParse parser.besides key state).cache key := by
  have hslot : (c.obtain key).1.slotOf? key = some (c.slotFor key) := slotOf?_obtain h
  rcases ho : c.outcomeIn? (c.slotFor key) with _ | ⟨run, e | d⟩
  · rw [getOrParse_of_none parser state ho] at hfailed ⊢
    dsimp only at hfailed ⊢
    split
    · next d hsettle =>
      rw [hsettle] at hfailed
      exact absurd rfl (hfailed c.parses d)
    · exact .of_slotOf?_eq_none (slotOf?_discard hslot)
    · -- the slot is registered by now and is as empty as before
      have hfor : (c.missed key).startRun.1.slotFor key = c.slotFor key := by
        rw [slotFor, show (c.missed key).startRun.1.slotOf? key = _ from hslot, Option.getD_some]
      rw [Forgotten, hfor]
      exact outcomeIn?_obtain.trans ho
  · rw [getOrParse_of_error parser state ho]
    exact .of_slotOf?_eq_none (slotOf?_discard hslot)
  · rw [getOrParse_of_ok parser state ho] at hfailed
    exact absurd rfl (hfailed run d)

/-- A look-up of a forgotten text runs the parser, and answers what the run comes to. -/
theorem Forgotten.runs (h : Forgotten c key) (parser : Parser σ) (state : σ) :
    let look := c.getOrParse parser.besides key state
    look.state = (parser key state).2 ∧ look.cache.parses = c.parses + 1 ∧
      look.answer = match (parser key state).1.settle c.limit with
        | .returned result => .returned ⟨c.parses, result⟩
        | .crashed => .crashed := by
  have hmissed : (c.missed key).parses = c.parses := congrArg CacheStats.parses counters_obtain
  have hstarted : (c.missed key).startRun.1.parses = c.parses + 1 := congrArg (· + 1) hmissed
  dsimp only
  rw [getOrParse_of_none parser state h]
  dsimp only
  rcases (parser key state).1.settle c.limit with ⟨e | d⟩ | _
  · exact ⟨rfl, (congrArg CacheStats.parses counters_discard).trans hstarted, rfl⟩
  · exact ⟨rfl, hstarted, rfl⟩
  · exact ⟨rfl, hstarted, rfl⟩

end ClientCounters.Cache
