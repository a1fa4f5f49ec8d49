/-
# What the operations of the cache do

A cache is seen through two tables, the outcome in a slot and the text a slot was made for, and
through the list of registered texts.  This file says for each operation what it does to the three,
so that no proof about look-ups has to open the operations again.  `WellFormed` collects what holds
of the registered texts between any two operations: no text twice, not more than there is room for,
and every text with a slot that was made for it.
-/
import Mathlib.Data.List.Nodup
import Mathlib.Tactic.Common
import ClientCounters.Cache.Basic

namespace ClientCounters

namespace Cache

variable {c : Cache} {key : String} {slot : SlotId} {o : Outcome}

/-- The text a slot was made for. -/
def keyOf? (c : Cache) (slot : SlotId) : Option String :=
  c.slots[slot]?.map (·.key)

/-- The cache knows each text once, has room for all of them, and registers a text with a slot
that was made for it. -/
structure WellFormed (c : Cache) : Prop where
  nodup : (c.resident.map Prod.fst).Nodup
  size_le : c.size ≤ c.capacity
  keyOf?_eq : ∀ e ∈ c.resident, c.keyOf? e.2 = some e.1

/-! ## The two tables -/

@[simp] lemma outcomeIn?_countHit : c.countHit.outcomeIn? slot = c.outcomeIn? slot := rfl

@[simp] lemma outcomeIn?_countMiss : c.countMiss.outcomeIn? slot = c.outcomeIn? slot := rfl

@[simp] lemma outcomeIn?_startRun : c.startRun.1.outcomeIn? slot = c.outcomeIn? slot := rfl

@[simp] lemma keyOf?_countHit : c.countHit.keyOf? slot = c.keyOf? slot := rfl

@[simp] lemma keyOf?_countMiss : c.countMiss.keyOf? slot = c.keyOf? slot := rfl

@[simp] lemma keyOf?_startRun : c.startRun.1.keyOf? slot = c.keyOf? slot := rfl

@[simp] lemma slots_discard {s : SlotId} : (c.discard key s).slots = c.slots := by
  rw [discard]
  split <;> rfl

@[simp] lemma outcomeIn?_discard {s : SlotId} :
    (c.discard key s).outcomeIn? slot = c.outcomeIn? slot := by
  rw [outcomeIn?, slots_discard, outcomeIn?]

@[simp] lemma keyOf?_discard {s : SlotId} : (c.discard key s).keyOf? slot = c.keyOf? slot := by
  rw [keyOf?, slots_discard, keyOf?]

/-- A slot that was made for a text is there to be filled. -/
lemma lt_size_of_keyOf? (h : c.keyOf? slot = some key) : slot < c.slots.size := by
  obtain ⟨s, hs, -⟩ := Option.map_eq_some_iff.1 h
  exact (Array.getElem?_eq_some_iff.1 hs).1

/-- A slot that is not there holds nothing. -/
lemma outcomeIn?_of_keyOf? (h : c.keyOf? slot = none) : c.outcomeIn? slot = none := by
  rw [outcomeIn?, Option.map_eq_none_iff.1 h, Option.bind_none]

/-- Filling changes the outcome of one slot only, and only if there was none. -/
lemma outcomeIn?_fill {s : SlotId} (hs : s < c.slots.size) :
    (c.fill s o).outcomeIn? slot =
      if slot = s then (c.outcomeIn? s).or (some o) else c.outcomeIn? slot := by
  unfold outcomeIn? fill
  rw [Array.getElem?_modify]
  split
  · next h =>
    subst h
    rw [if_pos rfl, Array.getElem?_eq_getElem hs]
    rfl
  · next h => rw [if_neg (Ne.symm h)]

@[simp] lemma keyOf?_fill {s : SlotId} : (c.fill s o).keyOf? slot = c.keyOf? slot := by
  unfold keyOf? fill
  rw [Array.getElem?_modify]
  split
  · cases c.slots[slot]? <;> rfl
  · rfl

/-! ## The registered texts -/

lemma slotOf?_eq_none_iff : c.slotOf? key = none ↔ ∀ e ∈ c.resident, e.1 ≠ key := by
  simp only [slotOf?, List.lookup_eq_none_iff, bne_iff_ne, ne_eq]
  exact ⟨fun h e he => Ne.symm (h e he), fun h e he => Ne.symm (h e he)⟩

lemma mem_resident_of_slotOf? (h : c.slotOf? key = some slot) : (key, slot) ∈ c.resident := by
  obtain ⟨l₁, l₂, hl, -⟩ := List.lookup_eq_some_iff.1 h
  rw [hl]
  simp

/-- Two registrations of one text are the same. -/
lemma WellFormed.eq_of_fst_eq (h : c.WellFormed) {e e' : String × SlotId} (he : e ∈ c.resident)
    (he' : e' ∈ c.resident) (heq : e.1 = e'.1) : e = e' :=
  List.inj_on_of_nodup_map h.nodup he he' heq

lemma WellFormed.slotOf?_eq_some_iff (h : c.WellFormed) :
    c.slotOf? key = some slot ↔ (key, slot) ∈ c.resident := by
  constructor
  · exact mem_resident_of_slotOf?
  · intro hmem
    cases hs : c.slotOf? key with
    | none => exact absurd rfl (slotOf?_eq_none_iff.1 hs _ hmem)
    | some other =>
      have heq := h.eq_of_fst_eq (mem_resident_of_slotOf? hs) hmem rfl
      exact congrArg some (Prod.mk.inj heq).2

lemma mem_without {e : String × SlotId} : e ∈ c.without key ↔ e ∈ c.resident ∧ e.1 ≠ key := by
  simp [without, List.mem_filter]

/-- The registration that makes room for a text: the least recently used one, when the text is
not registered and there is no room left. -/
def victim? (c : Cache) (key : String) : Option (String × SlotId) :=
  if c.slotOf? key = none ∧ c.size = c.capacity then c.resident.getLast? else none

lemma victim?_eq_some_iff {e : String × SlotId} : c.victim? key = some e ↔
    c.slotOf? key = none ∧ c.size = c.capacity ∧ c.resident.getLast? = some e := by
  rw [victim?]
  split
  · next h => simp [h]
  · next h =>
    constructor
    · exact nofun
    · exact fun hall => absurd ⟨hall.1, hall.2.1⟩ h

/-- The slot a look-up of a text gets. -/
def slotFor (c : Cache) (key : String) : SlotId :=
  (c.slotOf? key).getD c.slots.size

/-- A text that is not registered gets a slot that is not there yet. -/
lemma keyOf?_slotFor_of_none (h : c.slotOf? key = none) :
    c.keyOf? (c.slotFor key) = none := by
  rw [slotFor, h, Option.getD_none, keyOf?, Array.getElem?_eq_none (Nat.le_refl _),
    Option.map_none]

lemma obtain_slot : (c.obtain key).2.1 = c.slotFor key := by
  rw [obtain, slotFor]
  split
  · next h => rw [h, Option.getD_some]
  · next h => rw [h, Option.getD_none]

lemma slots_obtain :
    (c.obtain key).1.slots = if c.slotOf? key = none then c.slots.push { key } else c.slots := by
  rw [obtain]
  split
  · next h => rw [if_neg (by simp [h])]
  · next h => rw [if_pos h]

/-- A look-up makes its text the most recently used one and leaves the other registrations as they
were, in order, less the victim. -/
lemma resident_obtain (h : c.WellFormed) :
    (c.obtain key).1.resident =
      (key, c.slotFor key) :: (c.without key).filter fun e => c.victim? key ≠ some e := by
  rw [obtain, slotFor, victim?]
  split
  · next slot hslot => simp [hslot]
  · next hnone =>
    have hall : c.without key = c.resident := by
      rw [without, List.filter_eq_self]
      intro e he
      simpa using slotOf?_eq_none_iff.1 hnone e he
    simp only [hnone, hall, Option.getD_none, true_and]
    have hpos := c.capacity_pos
    have hle := h.size_le
    rw [size] at hle ⊢
    split
    · next hfull =>
      -- the cache is full, so that the kept registrations are all but the last
      rcases List.eq_nil_or_concat' c.resident with hnil | ⟨front, last, hres⟩
      · rw [hnil, List.length_nil] at hfull
        omega
      · have hnodup : c.resident.Nodup := h.nodup.of_map Prod.fst
        rw [hres] at hnodup hfull ⊢
        have hlen : c.capacity - 1 = front.length := by
          rw [← hfull]
          simp
        rw [hlen, List.take_left]
        have hlast : last ∉ front := fun hmem => by
          simpa using List.disjoint_of_nodup_append hnodup hmem
        rw [List.getLast?_concat, List.filter_append, List.filter_eq_self.2]
        · simp
        · intro e he
          have hne : last ≠ e := fun heq => hlast (heq ▸ he)
          simpa using hne
    · next hroom =>
      rw [List.take_of_length_le (by omega)]
      simp

/-! ## What a look-up leaves behind -/

@[simp] lemma outcomeIn?_obtain : (c.obtain key).1.outcomeIn? slot = c.outcomeIn? slot := by
  unfold outcomeIn?
  rw [slots_obtain]
  split
  · rw [Array.getElem?_push]
    split
    · next h =>
      rw [h, Array.getElem?_eq_none (Nat.le_refl _)]
      rfl
    · rfl
  · rfl

/-- A look-up changes the text of no slot that was there before. -/
lemma keyOf?_obtain_of_some {k : String} (h : c.keyOf? slot = some k) :
    (c.obtain key).1.keyOf? slot = some k := by
  have hlt := lt_size_of_keyOf? h
  rw [keyOf?] at h ⊢
  rw [slots_obtain]
  split
  · rw [Array.getElem?_push, if_neg (Nat.ne_of_lt hlt), h]
  · exact h

/-- A look-up makes no other slot than the one it gets. -/
lemma keyOf?_obtain_of_ne (h : slot ≠ c.slotFor key) :
    (c.obtain key).1.keyOf? slot = c.keyOf? slot := by
  rw [keyOf?, slots_obtain, keyOf?]
  split
  · next hnone =>
    rw [slotFor, hnone, Option.getD_none] at h
    rw [Array.getElem?_push, if_neg h]
  · rfl

/-- The slot that a look-up gets was made for its text. -/
lemma keyOf?_obtain_slotFor (h : c.WellFormed) :
    (c.obtain key).1.keyOf? (c.slotFor key) = some key := by
  rw [slotFor]
  cases hs : c.slotOf? key with
  | some slot =>
    exact keyOf?_obtain_of_some (h.keyOf?_eq _ (mem_resident_of_slotOf? hs))
  | none =>
    rw [Option.getD_none, keyOf?, slots_obtain, if_pos hs, Array.getElem?_push_size]
    rfl

/-! ## What never changes -/

/-- Two caches of the same size with the same time limit. -/
structure SameBounds (c d : Cache) : Prop where
  capacity : d.capacity = c.capacity
  limit : d.limit = c.limit

namespace SameBounds

lemma refl (c : Cache) : SameBounds c c := ⟨rfl, rfl⟩

lemma trans {d e : Cache} (h : SameBounds c d) (h' : SameBounds d e) : SameBounds c e :=
  ⟨h'.capacity.trans h.capacity, h'.limit.trans h.limit⟩

lemma countHit (c : Cache) : SameBounds c c.countHit := ⟨rfl, rfl⟩

lemma countMiss (c : Cache) : SameBounds c c.countMiss := ⟨rfl, rfl⟩

lemma clear (c : Cache) : SameBounds c c.clear := ⟨rfl, rfl⟩

lemma obtain (c : Cache) (key : String) : SameBounds c (c.obtain key).1 := by
  rw [Cache.obtain]
  split <;> exact ⟨rfl, rfl⟩

lemma discard (c : Cache) (key : String) (slot : SlotId) : SameBounds c (c.discard key slot) := by
  rw [Cache.discard]
  split <;> exact ⟨rfl, rfl⟩

end SameBounds

/-! ## What every operation keeps -/

namespace WellFormed

lemma of_resident_sublist {d : Cache} (h : c.WellFormed) (hcap : d.capacity = c.capacity)
    (hres : d.resident.Sublist c.resident) (hkey : ∀ s, d.keyOf? s = c.keyOf? s) :
    d.WellFormed where
  nodup := h.nodup.sublist (hres.map Prod.fst)
  size_le := by
    rw [hcap]
    exact Nat.le_trans hres.length_le h.size_le
  keyOf?_eq e he := by
    rw [hkey]
    exact h.keyOf?_eq e (hres.subset he)

lemma countHit (h : c.WellFormed) : c.countHit.WellFormed :=
  h.of_resident_sublist rfl (List.Sublist.refl _) fun _ => rfl

lemma countMiss (h : c.WellFormed) : c.countMiss.WellFormed :=
  h.of_resident_sublist rfl (List.Sublist.refl _) fun _ => rfl

lemma startRun (h : c.WellFormed) : c.startRun.1.WellFormed :=
  h.of_resident_sublist rfl (List.Sublist.refl _) fun _ => rfl

lemma fill (h : c.WellFormed) : (c.fill slot o).WellFormed :=
  h.of_resident_sublist rfl (List.Sublist.refl _) fun _ => keyOf?_fill

lemma clear (h : c.WellFormed) : c.clear.WellFormed :=
  h.of_resident_sublist rfl (List.nil_sublist _) fun _ => rfl

lemma discard (h : c.WellFormed) : (c.discard key slot).WellFormed := by
  refine h.of_resident_sublist (SameBounds.discard c key slot).capacity ?_ fun _ => keyOf?_discard
  · rw [Cache.discard]
    split
    · exact List.filter_sublist
    · exact List.Sublist.refl _

/-- When there is no room left, one registration goes for the one that comes. -/
lemma length_filter_victim (h : c.WellFormed) (hnone : c.slotOf? key = none) :
    ((c.without key).filter fun e => c.victim? key ≠ some e).length < c.capacity := by
  have hsub : ((c.without key).filter fun e => c.victim? key ≠ some e).Sublist c.resident :=
    List.filter_sublist.trans List.filter_sublist
  have hle := h.size_le
  rw [size] at hle
  rcases Nat.lt_or_ge c.resident.length c.capacity with hlt | hge
  · exact Nat.lt_of_le_of_lt hsub.length_le hlt
  · -- the victim is registered and is not among those that stay
    have hfull : c.resident.length = c.capacity := Nat.le_antisymm hle hge
    have hne : c.resident ≠ [] := by
      intro hnil
      have := c.capacity_pos
      simp [← hfull, hnil] at this
    have hv : c.victim? key = some (c.resident.getLast hne) := by
      rw [victim?, if_pos ⟨hnone, hfull⟩, List.getLast?_eq_getLast_of_ne_nil hne]
    rw [← hfull]
    refine Nat.lt_of_le_of_ne hsub.length_le fun heq => ?_
    have hmem : c.resident.getLast hne ∈ (c.without key).filter fun e => c.victim? key ≠ some e :=
      (hsub.eq_of_length heq).symm ▸ List.getLast_mem hne
    rw [List.mem_filter, hv] at hmem
    simp at hmem

lemma obtain (h : c.WellFormed) : (c.obtain key).1.WellFormed := by
  have hsub : ((c.without key).filter fun e => c.victim? key ≠ some e).Sublist c.resident :=
    List.filter_sublist.trans List.filter_sublist
  constructor
  · rw [resident_obtain h, List.map_cons, List.nodup_cons]
    refine ⟨?_, h.nodup.sublist (hsub.map Prod.fst)⟩
    rw [List.mem_map]
    rintro ⟨e, he, heq⟩
    exact (mem_without.1 (List.mem_filter.1 he).1).2 heq
  · rw [size, resident_obtain h, List.length_cons]
    rw [(SameBounds.obtain c key).capacity]
    cases hs : c.slotOf? key with
    | none => exact h.length_filter_victim hs
    | some slot =>
      -- the text itself is among the registrations that are counted
      have hlt : (c.without key).length < c.resident.length := by
        refine Nat.lt_of_le_of_ne List.filter_sublist.length_le fun heq => ?_
        have hmem := mem_resident_of_slotOf? hs
        rw [← List.filter_sublist.eq_of_length heq] at hmem
        exact (mem_without.1 hmem).2 rfl
      have hle := (List.filter_sublist (p := fun e => c.victim? key ≠ some e)
        (l := c.without key)).length_le
      have hsize := h.size_le
      rw [size] at hsize
      omega
  · intro e he
    rw [resident_obtain h, List.mem_cons] at he
    rcases he with rfl | he
    · exact keyOf?_obtain_slotFor h
    · exact keyOf?_obtain_of_some (h.keyOf?_eq e (hsub.subset he))

end WellFormed

/-! ## The counters -/

/-- What the cache has counted, without its registrations. -/
def counters (c : Cache) : CacheStats :=
  { c.stats with entries := 0 }

@[simp] lemma counters_obtain : (c.obtain key).1.counters = c.counters := by
  rw [obtain]
  split <;> rfl

@[simp] lemma counters_discard : (c.discard key slot).counters = c.counters := by
  rw [discard]
  split <;> rfl

/-! ## What stays -/

/-- A later cache: no slot has lost its text or the outcome that was in it. -/
structure Grows (c d : Cache) : Prop where
  keyOf?_eq : ∀ {slot key}, c.keyOf? slot = some key → d.keyOf? slot = some key
  outcomeIn?_eq : ∀ {slot o}, c.outcomeIn? slot = some o → d.outcomeIn? slot = some o

lemma Grows.refl (c : Cache) : c.Grows c := ⟨id, id⟩

lemma Grows.trans {d e : Cache} (h : c.Grows d) (h' : d.Grows e) : c.Grows e :=
  ⟨fun hk => h'.keyOf?_eq (h.keyOf?_eq hk), fun ho => h'.outcomeIn?_eq (h.outcomeIn?_eq ho)⟩

lemma grows_countHit (c : Cache) : c.Grows c.countHit := ⟨id, id⟩

lemma grows_countMiss (c : Cache) : c.Grows c.countMiss := ⟨id, id⟩

lemma grows_startRun (c : Cache) : c.Grows c.startRun.1 := ⟨id, id⟩

lemma grows_clear (c : Cache) : c.Grows c.clear := ⟨id, id⟩

lemma grows_discard (c : Cache) (key : String) (slot : SlotId) : c.Grows (c.discard key slot) :=
  ⟨fun hk => keyOf?_discard.trans hk, fun ho => outcomeIn?_discard.trans ho⟩

lemma grows_obtain (c : Cache) (key : String) : c.Grows (c.obtain key).1 :=
  ⟨keyOf?_obtain_of_some, fun ho => outcomeIn?_obtain.trans ho⟩

/-- Filling a slot replaces no outcome. -/
lemma grows_fill (hslot : slot < c.slots.size) (o : Outcome) : c.Grows (c.fill slot o) where
  keyOf?_eq hk := keyOf?_fill.trans hk
  outcomeIn?_eq {s o'} ho := by
    rw [outcomeIn?_fill hslot]
    split
    · next h => rw [← h, ho, Option.some_or]
    · exact ho

end Cache

end ClientCounters
