/-
# The calls of a cache in use fit the cache

Calls under way and the cache they share know of each other only through slots.  A state is
coherent when the two agree: a call holds a slot that was made for its text, a slot whose outcome
is still to come is filled by one call at most, a call that has an error to get rid of got it from
its slot, and an answer that was given is what is in its slot now.  Every move keeps this, by
`Coherent.move`, so that it holds in every state a run leads to.
-/
import ClientCounters.Proofs.Cache.History

namespace ClientCounters

namespace Cache

namespace Shared

variable {s t : Shared} {c : Cache} {call other : Call} {id : CallId} {as : List Step}

/-! ## The list of calls -/

@[simp] lemma isParsing_iff {p : Phase} : p.isParsing = true ↔ ∃ number, p = .parsing number := by
  cases p <;> simp [Phase.isParsing]

lemma mem_others : other ∈ s.others id ↔ other ∈ s.calls ∧ other.id ≠ id := by
  simp [others, List.mem_filter]

lemma mem_update (h : other ∈ s.update call) :
    other = call ∨ other ∈ s.calls ∧ other.id ≠ call.id := by
  obtain ⟨old, hold, heq⟩ := List.mem_map.1 h
  split at heq
  · exact .inl heq.symm
  · next hne => exact .inr ⟨heq ▸ hold, heq ▸ hne⟩

lemma mem_update_self (hcall : other ∈ s.calls) (hid : other.id = call.id) :
    call ∈ s.update call :=
  List.mem_map.2 ⟨other, hcall, if_pos hid⟩

lemma mem_update_of_ne (hcall : other ∈ s.calls) (hid : other.id ≠ call.id) :
    other ∈ s.update call :=
  List.mem_map.2 ⟨other, hcall, if_neg hid⟩

lemma map_id_update : (s.update call).map Call.id = s.calls.map Call.id := by
  rw [update, List.map_map]
  refine List.map_congr_left fun old _ => ?_
  simp only [Function.comp]
  split
  · next h => exact h.symm
  · rfl

/-- The calls are those of all other callers and one more. -/
lemma perm_others (h : (s.calls.map Call.id).Nodup) (hcall : call ∈ s.calls) :
    s.calls.Perm (call :: s.others call.id) := by
  have hnodup : s.calls.Nodup := h.of_map Call.id
  have hcons : (call :: s.others call.id).Nodup :=
    List.nodup_cons.2 ⟨fun hmem => (mem_others.1 hmem).2 rfl, hnodup.filter _⟩
  refine (List.perm_ext_iff_of_nodup hnodup hcons).2 fun other => ?_
  rw [List.mem_cons, mem_others]
  constructor
  · intro hother
    by_cases hid : other.id = call.id
    · exact .inl (List.inj_on_of_nodup_map h hother hcall hid)
    · exact .inr ⟨hother, hid⟩
  · rintro (rfl | ⟨hother, -⟩)
    · exact hcall
    · exact hother

/-- Replacing the call of a caller keeps those of all other callers. -/
lemma perm_update (h : (s.calls.map Call.id).Nodup) (hold : other ∈ s.calls)
    (hid : other.id = call.id) : (s.update call).Perm (call :: s.others call.id) := by
  have hnodup : (s.update call).Nodup := by
    refine List.Nodup.of_map Call.id ?_
    rw [map_id_update]
    exact h
  have hcons : (call :: s.others call.id).Nodup :=
    List.nodup_cons.2 ⟨fun hmem => (mem_others.1 hmem).2 rfl, (h.of_map Call.id).filter _⟩
  refine (List.perm_ext_iff_of_nodup hnodup hcons).2 fun new => ?_
  rw [List.mem_cons, mem_others]
  constructor
  · exact mem_update
  · rintro (rfl | ⟨hnew, hne⟩)
    · exact List.mem_map.2 ⟨other, hold, if_pos hid⟩
    · exact List.mem_map.2 ⟨new, hnew, if_neg hne⟩

lemma isBusy_eq_false_iff {slot : SlotId} :
    s.isBusy slot = false ↔ ∀ other ∈ s.calls, other.phase.isParsing → other.slot ≠ slot := by
  rw [isBusy, List.any_eq_false]
  refine forall₂_congr fun other _ => ?_
  cases hp : other.phase <;> simp [Phase.isParsing]

/-- The call of a caller is the one that `call?` finds. -/
lemma call?_eq_some_iff (h : (s.calls.map Call.id).Nodup) :
    s.call? call.id = some call ↔ call ∈ s.calls := by
  constructor
  · exact mem_of_call?
  · intro hmem
    cases hfound : s.call? call.id with
    | none => simpa using List.find?_eq_none.1 hfound call hmem
    | some found =>
      have heq := List.inj_on_of_nodup_map h (mem_of_call? hfound) hmem (id_of_call? hfound)
      rw [heq]

/-! ## Coherent states -/

/-- A call under way agrees with the cache: its slot was made for its text, is empty while the call
runs the parser to fill it, and holds the error that the call has still to take out. -/
structure Fits (call : Call) (c : Cache) : Prop where
  keyOf?_eq : c.keyOf? call.slot = some call.key
  isEmpty : call.phase.isParsing → c.outcomeIn? call.slot = none
  holds : ∀ number e, call.phase = .owesDiscard number e →
    c.outcomeIn? call.slot = some ⟨number, .error e⟩

/-- The calls under way and the answers agree with the cache. -/
structure Coherent (s : Shared) : Prop where
  wellFormed : s.cache.WellFormed
  /-- No caller makes two calls at once. -/
  nodup : (s.calls.map Call.id).Nodup
  fits : ∀ call ∈ s.calls, Fits call s.cache
  /-- No two calls fill one slot. -/
  alone : ∀ a ∈ s.calls, ∀ b ∈ s.calls, a.phase.isParsing → b.phase.isParsing →
    a.slot = b.slot → a = b
  /-- A call that has ended held a slot of its text. -/
  keyOf?_eq : ∀ call a, (call, a) ∈ s.answers → s.cache.keyOf? call.slot = some call.key
  /-- An answer is still in the slot that it was taken from. -/
  outcomeIn?_eq : ∀ call o, (call, .returned o) ∈ s.answers →
    s.cache.outcomeIn? call.slot = some o

lemma coherent_unused {capacity : Nat} (hpos : 0 < capacity) (limit : Option Duration) :
    (unused capacity hpos limit).Coherent where
  wellFormed := ⟨List.nodup_nil, Nat.zero_le _, fun _ hmem => absurd hmem List.not_mem_nil⟩
  nodup := List.nodup_nil
  fits _ hcall := absurd hcall List.not_mem_nil
  alone _ hcall := absurd hcall List.not_mem_nil
  keyOf?_eq _ _ hanswer := absurd hanswer List.not_mem_nil
  outcomeIn?_eq _ _ hanswer := absurd hanswer List.not_mem_nil

/-- A call that makes no step goes on fitting a cache that has grown, unless the outcome it was
running the parser for has come in. -/
lemma Fits.grow {d : Cache} (h : Fits call c) (hgrow : c.Grows d)
    (hempty : call.phase.isParsing → d.outcomeIn? call.slot = none) : Fits call d where
  keyOf?_eq := hgrow.keyOf?_eq h.keyOf?_eq
  isEmpty := hempty
  holds number e hphase := hgrow.outcomeIn?_eq (h.holds number e hphase)

namespace Coherent

/-- A state stays coherent when the cache grows, the calls stay except one, and what takes its
place and the answers that are new agree with the cache. -/
lemma of_grows (h : s.Coherent) (id : CallId) (hwf : t.cache.WellFormed)
    (hgrow : s.cache.Grows t.cache) (hnodup : (t.calls.map Call.id).Nodup)
    (hcalls : ∀ call ∈ t.calls, call ∈ s.calls ∧ call.id ≠ id ∨
      call.id = id ∧ Fits call t.cache ∧ (call.phase.isParsing →
        ∀ other ∈ s.calls, other.id ≠ id → other.phase.isParsing → other.slot ≠ call.slot))
    (hempty : ∀ other ∈ s.calls, other.id ≠ id → other.phase.isParsing →
      t.cache.outcomeIn? other.slot = none)
    (hanswers : ∀ call a, (call, a) ∈ t.answers → (call, a) ∈ s.answers ∨
      t.cache.keyOf? call.slot = some call.key ∧
        ∀ o, a = .returned o → t.cache.outcomeIn? call.slot = some o) :
    t.Coherent where
  wellFormed := hwf
  nodup := hnodup
  fits call hcall := by
    rcases hcalls call hcall with ⟨hmem, hne⟩ | ⟨-, hfits, -⟩
    · exact (h.fits call hmem).grow hgrow (hempty call hmem hne)
    · exact hfits
  alone a ha b hb hpa hpb heq := by
    rcases hcalls a ha with ⟨hma, hna⟩ | ⟨hia, -, ha'⟩ <;>
      rcases hcalls b hb with ⟨hmb, hnb⟩ | ⟨hib, -, hb'⟩
    · exact h.alone a hma b hmb hpa hpb heq
    · exact absurd heq (hb' hpb a hma hna hpa)
    · exact absurd heq.symm (ha' hpa b hmb hnb hpb)
    · exact List.inj_on_of_nodup_map hnodup ha hb (hia.trans hib.symm)
  keyOf?_eq call a hmem := by
    rcases hanswers call a hmem with hold | ⟨hkey, -⟩
    · exact hgrow.keyOf?_eq (h.keyOf?_eq call a hold)
    · exact hkey
  outcomeIn?_eq call o hmem := by
    rcases hanswers call _ hmem with hold | ⟨-, ho⟩
    · exact hgrow.outcomeIn?_eq (h.outcomeIn?_eq call o hold)
    · exact ho o rfl

/-- A call ends with an answer, which is a crash or is in its slot. -/
lemma answer (h : s.Coherent) (hcall : call ∈ s.calls) (hwf : c.WellFormed)
    (hgrow : s.cache.Grows c)
    (hempty : ∀ other ∈ s.calls, other.id ≠ call.id → other.phase.isParsing →
      c.outcomeIn? other.slot = none)
    {a : Answer} (ha : ∀ o, a = .returned o → c.outcomeIn? call.slot = some o) :
    (s.answer call c a).Coherent := by
  refine h.of_grows call.id hwf hgrow ?_ ?_ hempty ?_
  · exact h.nodup.sublist (List.filter_sublist.map Call.id)
  · intro other hother
    exact .inl (mem_others.1 hother)
  · intro other b hmem
    rcases List.mem_cons.1 hmem with heq | hold
    · obtain ⟨rfl, rfl⟩ := Prod.mk.inj heq
      exact .inr ⟨hgrow.keyOf?_eq (h.fits _ hcall).keyOf?_eq, ha⟩
    · exact .inl hold

/-- A call enters another phase. -/
lemma update (h : s.Coherent) (hwf : c.WellFormed) (hgrow : s.cache.Grows c)
    (hempty : ∀ other ∈ s.calls, other.id ≠ call.id → other.phase.isParsing →
      c.outcomeIn? other.slot = none)
    (hfits : Fits call c)
    (halone : call.phase.isParsing → ∀ other ∈ s.calls, other.id ≠ call.id →
      other.phase.isParsing → other.slot ≠ call.slot) :
    Coherent { s with cache := c, calls := s.update call } := by
  refine h.of_grows call.id hwf hgrow ?_ ?_ hempty ?_
  · rw [map_id_update]
    exact h.nodup
  · intro other hother
    rcases mem_update hother with rfl | hold
    · exact .inr ⟨rfl, hfits, halone⟩
    · exact .inl hold
  · exact fun other b hmem => .inl hmem

/-- A call takes the outcome that is in its slot. -/
lemma receive (h : s.Coherent) (hcall : call ∈ s.calls) (hwf : c.WellFormed)
    (hgrow : s.cache.Grows c)
    (hempty : ∀ other ∈ s.calls, other.id ≠ call.id → other.phase.isParsing →
      c.outcomeIn? other.slot = none)
    {o : Outcome} (ho : c.outcomeIn? call.slot = some o) :
    (s.receive call c o).Coherent := by
  rw [Shared.receive]
  split
  · refine h.answer hcall hwf hgrow hempty fun o' heq => ?_
    rw [ho, Answer.returned.inj heq]
  · next e he =>
    refine h.update hwf hgrow hempty ⟨?_, nofun, ?_⟩ nofun
    · exact hgrow.keyOf?_eq (h.fits _ hcall).keyOf?_eq
    · intro number e' heq
      obtain ⟨rfl, rfl⟩ := Phase.owesDiscard.inj heq
      rw [← he]
      exact ho

/-- The slots that other calls are filling stay empty as long as the tables stay as they are. -/
lemma empty_of_eq (h : s.Coherent) (heq : ∀ slot, c.outcomeIn? slot = s.cache.outcomeIn? slot) :
    ∀ other ∈ s.calls, other.id ≠ id → other.phase.isParsing → c.outcomeIn? other.slot = none := by
  intro other hother _ hphase
  rw [heq]
  exact (h.fits other hother).isEmpty hphase

/-- Every move keeps a state coherent. -/
theorem move {e : Event} (h : s.Coherent) (hm : Move s e t) : t.Coherent := by
  cases hm with
  | @obtain id key hnew =>
    have hfresh : ∀ other ∈ s.calls, other.id ≠ id := by simpa [call?] using hnew
    refine h.of_grows id h.wellFormed.obtain (grows_obtain _ _) ?_ ?_
      (h.empty_of_eq fun _ => outcomeIn?_obtain) fun call a hmem => .inl hmem
    · rw [List.map_cons, List.nodup_cons]
      refine ⟨fun hmem => ?_, h.nodup⟩
      obtain ⟨other, hother, heq⟩ := List.mem_map.1 hmem
      exact hfresh other hother heq
    · intro call hcall
      rcases List.mem_cons.1 hcall with rfl | hold
      · exact .inr ⟨rfl, ⟨keyOf?_obtain_slotFor h.wellFormed, nofun, nofun⟩, nofun⟩
      · exact .inl ⟨hold, hfresh call hold⟩
  | hit hcall hphase hslot hok =>
    refine h.answer (mem_of_call? hcall) h.wellFormed.countHit (grows_countHit _)
      (h.empty_of_eq fun _ => rfl) fun o' heq => ?_
    rw [outcomeIn?_countHit, hslot, Answer.returned.inj heq]
  | miss hcall hphase hslot =>
    have hfits := h.fits _ (mem_of_call? hcall)
    exact h.update h.wellFormed.countMiss (grows_countMiss _) (h.empty_of_eq fun _ => rfl)
      ⟨hfits.keyOf?_eq, nofun, nofun⟩ nofun
  | start hcall hphase hslot hfree =>
    have hfits := h.fits _ (mem_of_call? hcall)
    refine h.update h.wellFormed.startRun (grows_startRun _) (h.empty_of_eq fun _ => rfl)
      ⟨hfits.keyOf?_eq, fun _ => hslot, nofun⟩ ?_
    intro _ other hother _ hparsing
    exact isBusy_eq_false_iff.1 hfree other hother hparsing
  | @fill call o r hcall hphase hrun =>
    have hmem := mem_of_call? hcall
    have hfits := h.fits _ hmem
    have hlt := lt_size_of_keyOf? hfits.keyOf?_eq
    have hempty := hfits.isEmpty (isParsing_iff.2 ⟨_, hphase⟩)
    refine h.receive hmem h.wellFormed.fill (grows_fill hlt o) ?_ ?_
    · -- another call that runs the parser does so for another slot
      intro other hother hne hparsing
      have hslot : other.slot ≠ call.slot := fun heq =>
        hne (congrArg Call.id (h.alone other hother call hmem hparsing
          (isParsing_iff.2 ⟨_, hphase⟩) heq))
      rw [outcomeIn?_fill hlt, if_neg hslot]
      exact (h.fits other hother).isEmpty hparsing
    · rw [outcomeIn?_fill hlt, if_pos rfl, hempty, Option.none_or]
  | crash hcall hphase hrun =>
    exact h.answer (mem_of_call? hcall) h.wellFormed (Grows.refl _) (h.empty_of_eq fun _ => rfl)
      nofun
  | take hcall hphase hslot =>
    exact h.receive (mem_of_call? hcall) h.wellFormed (Grows.refl _) (h.empty_of_eq fun _ => rfl)
      hslot
  | discard hcall hphase =>
    have hfits := h.fits _ (mem_of_call? hcall)
    refine h.answer (mem_of_call? hcall) h.wellFormed.discard (grows_discard _ _ _)
      (h.empty_of_eq fun _ => outcomeIn?_discard) fun o heq => ?_
    rw [outcomeIn?_discard, hfits.holds _ _ hphase, Answer.returned.inj heq]
  | clear =>
    exact ⟨h.wellFormed.clear, h.nodup, fun call hcall => (h.fits call hcall).grow (grows_clear _)
      (h.fits call hcall).isEmpty, h.alone, h.keyOf?_eq, h.outcomeIn?_eq⟩

end Coherent

@[simp] lemma cache_answer (a : Answer) : (s.answer call c a).cache = c := rfl

@[simp] lemma cache_receive (o : Outcome) : (s.receive call c o).cache = c := by
  rw [receive]
  split <;> rfl

lemma mem_receive_of_ne (hcall : other ∈ s.calls) (hid : other.id ≠ call.id) :
    other ∈ (s.receive call c o).calls := by
  rw [receive]
  split
  · exact mem_others.2 ⟨hcall, hid⟩
  · exact mem_update_of_ne hcall hid

/-- A call that takes an error has still to take its slot out. -/
lemma mem_receive_of_error (hcall : call ∈ s.calls) {error : ParseError}
    (herror : o.result = .error error) :
    { call with phase := .owesDiscard o.run error } ∈ (s.receive call c o).calls := by
  rw [receive, herror]
  exact mem_update_self hcall rfl

/-- Every move lets the cache grow. -/
theorem Coherent.grows {e : Event} (h : s.Coherent) (hm : Move s e t) : s.cache.Grows t.cache := by
  cases hm with
  | obtain _ => exact grows_obtain _ _
  | hit _ _ _ _ => exact grows_countHit _
  | miss _ _ _ => exact grows_countMiss _
  | start _ _ _ _ => exact grows_startRun _
  | fill hcall _ _ =>
    rw [cache_receive]
    exact grows_fill (lt_size_of_keyOf? (h.fits _ (mem_of_call? hcall)).keyOf?_eq) _
  | crash _ _ _ => exact Grows.refl _
  | take _ _ _ =>
    rw [cache_receive]
    exact Grows.refl _
  | discard _ _ => exact grows_discard _ _ _
  | clear => exact grows_clear _

/-- No move changes the size of the cache or the time limit of the parser. -/
lemma Move.sameBounds {e : Event} (hm : Move s e t) : s.cache.SameBounds t.cache := by
  cases hm with
  | obtain _ => exact .obtain _ _
  | fill _ _ _ =>
    rw [cache_receive]
    exact ⟨rfl, rfl⟩
  | take _ _ _ =>
    rw [cache_receive]
    exact ⟨rfl, rfl⟩
  | discard _ _ => exact .discard _ _ _
  | _ => exact ⟨rfl, rfl⟩

/-- A run keeps a state coherent. -/
theorem Coherent.run (h : s.Coherent) (hrun : s.run? as = some t) : t.Coherent :=
  run_induction (P := fun _ u => u.Coherent) h (fun _ _ _ _ hc hm => hc.move hm) hrun

/-- What holds at a coherent start, and is carried over by every move from a coherent state, holds
after every run. -/
theorem Coherent.run_induction {P : List Event → Shared → Prop} (hs : s.Coherent) (hnil : P [] s)
    (hmove : ∀ h t e u, P h t → t.Coherent → Move t e u → P (h ++ [e]) u)
    (hrun : s.run? as = some t) : P (s.history as) t := by
  have hboth : t.Coherent ∧ P (s.history as) t := by
    refine Shared.run_induction (P := fun h u => u.Coherent ∧ P h u) ⟨hs, hnil⟩ ?_ hrun
    rintro h t e u ⟨ht, hp⟩ hm
    exact ⟨ht.move hm, hmove h t e u hp ht hm⟩
  exact hboth.2

/-- Every state that a run leads to is coherent. -/
theorem coherent_of_run? {capacity : Nat} {hpos : 0 < capacity} {limit : Option Duration}
    (h : (unused capacity hpos limit).run? as = some s) : s.Coherent :=
  (coherent_unused hpos limit).run h

/-- In every state that a run leads to the cache has the size and the time limit it was made with. -/
theorem bounds_of_run? {capacity : Nat} {hpos : 0 < capacity} {limit : Option Duration}
    (h : (unused capacity hpos limit).run? as = some s) :
    s.cache.capacity = capacity ∧ s.cache.limit = limit := by
  refine run_induction (P := fun _ u => u.cache.capacity = capacity ∧ u.cache.limit = limit)
    ⟨rfl, rfl⟩ ?_ h
  rintro h t e u ⟨hcapacity, hlimit⟩ hm
  exact ⟨hm.sameBounds.capacity.trans hcapacity, hm.sameBounds.limit.trans hlimit⟩

end Shared

end Cache

end ClientCounters
