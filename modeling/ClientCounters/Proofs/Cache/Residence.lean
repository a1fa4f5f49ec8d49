/-
# Which texts are registered

The registered texts of a cache in use change with three kinds of events only: a call obtains a
slot, a call takes its failed slot out, the cache is cleared.  `Event.residents` says how, and
`Coherent.resident_eq` that nothing else happens to them.  A failed slot is taken out under its own
number, so that it can never take out the slot of a newer look-up of the same text; and since an
entry that holds a descriptor is never the failed slot of a call, only the cache itself gives up
such an entry (`parsed_entry_leaves`).
-/
import ClientCounters.Proofs.Cache.Coherent

namespace ClientCounters

namespace Cache

/-- The registrations behind an event. -/
def Event.residents (e : Event) (entries : List (String × SlotId)) : List (String × SlotId) :=
  match e with
  | obtained call victim =>
    (call.key, call.slot) :: entries.filter fun entry => entry.1 ≠ call.key ∧ victim ≠ some entry
  | discarded call => entries.filter (· ≠ (call.key, call.slot))
  | cleared => []
  | _ => entries

/-- Taking a slot out concerns the registration of this slot only. -/
lemma resident_discard {c : Cache} (h : c.WellFormed) (key : String) (slot : SlotId) :
    (c.discard key slot).resident = c.resident.filter (· ≠ (key, slot)) := by
  rw [discard]
  split
  · next hslot =>
    have hmem := mem_resident_of_slotOf? hslot
    refine List.filter_congr fun entry hentry => ?_
    rw [Bool.eq_iff_iff, bne_iff_ne, decide_eq_true_iff, not_iff_not]
    constructor
    · exact fun heq => h.eq_of_fst_eq hentry hmem heq
    · exact fun heq => congrArg Prod.fst heq
  · next hslot =>
    rw [List.filter_eq_self.2]
    intro entry hentry
    rw [decide_eq_true_iff]
    rintro rfl
    exact hslot (h.slotOf?_eq_some_iff.2 hentry)

/-- A slot that is not registered leaves the cache as it is when it is taken out. -/
lemma discard_eq_self {c : Cache} {key : String} {slot : SlotId}
    (h : (key, slot) ∉ c.resident) : c.discard key slot = c := by
  rw [discard, if_neg fun hslot => h (mem_resident_of_slotOf? hslot)]

namespace Shared

variable {s t : Shared} {e : Event} {as : List Step}

/-- The registrations behind a move are those behind its event. -/
theorem Coherent.resident_eq (h : s.Coherent) (hm : Move s e t) :
    t.cache.resident = e.residents s.cache.resident := by
  cases hm with
  | obtain _ =>
    show (s.cache.obtain _).1.resident = _
    rw [resident_obtain h.wellFormed, without, List.filter_filter, Event.residents]
    congr 2
    funext entry
    rw [Bool.eq_iff_iff, Bool.and_eq_true, bne_iff_ne, decide_eq_true_iff, decide_eq_true_iff,
      and_comm]
  | fill _ _ _ =>
    rw [cache_receive]
    rfl
  | take _ _ _ =>
    rw [cache_receive]
    rfl
  | discard _ _ => exact resident_discard h.wellFormed _ _
  | _ => rfl

/-- A registration is an old one, or its slot is new. -/
lemma Coherent.mem_resident (hs : s.Coherent) (hm : Move s e t) {entry : String × SlotId}
    (hmem : entry ∈ t.cache.resident) :
    entry ∈ s.cache.resident ∨ s.cache.keyOf? entry.2 = none := by
  rw [hs.resident_eq hm] at hmem
  cases hm with
  | @obtain id key hnew =>
    rcases List.mem_cons.1 hmem with rfl | hold
    · cases hslot : s.cache.slotOf? key with
      | none => exact .inr (keyOf?_slotFor_of_none hslot)
      | some slot =>
        have hsame : s.cache.slotFor key = slot := by rw [slotFor, hslot, Option.getD_some]
        left
        rw [hsame]
        exact mem_resident_of_slotOf? hslot
    · exact .inl (List.mem_filter.1 hold).1
  | discard _ _ => exact .inl (List.mem_filter.1 hmem).1
  | clear => cases hmem
  | _ => exact .inl hmem

/-- A registration that is lost was given up for a new text, or was a failed slot that its call
took out, or went with all others. -/
lemma Coherent.lost_entry (h : s.Coherent) (hm : Move s e t) {entry : String × SlotId}
    (hmem : entry ∈ s.cache.resident) (hlost : entry ∉ t.cache.resident) :
    (∃ call, e = .obtained call (some entry) ∧ s.cache.victim? call.key = some entry) ∨
      (∃ number error, s.cache.outcomeIn? entry.2 = some ⟨number, .error error⟩) ∨
      e = .cleared := by
  rw [h.resident_eq hm] at hlost
  cases hm with
  | @obtain id key hnew =>
    rw [Event.residents, List.mem_cons, not_or, List.mem_filter] at hlost
    have hkey : entry.1 ≠ key := by
      rintro rfl
      have hslot : s.cache.slotOf? entry.1 = some entry.2 :=
        h.wellFormed.slotOf?_eq_some_iff.2 hmem
      refine hlost.1 (Prod.ext rfl ?_)
      rw [slotFor, hslot, Option.getD_some]
    have hvictim : s.cache.victim? key = some entry := by
      by_contra hne
      exact hlost.2 ⟨hmem, decide_eq_true ⟨hkey, hne⟩⟩
    rw [hvictim]
    exact .inl ⟨_, rfl, hvictim⟩
  | @discard call number error hcall hphase =>
    have heq : entry = (call.key, call.slot) := by
      by_contra hne
      exact hlost (List.mem_filter.2 ⟨hmem, decide_eq_true hne⟩)
    rw [heq]
    exact .inr (.inl ⟨number, error, (h.fits _ (mem_of_call? hcall)).holds _ _ hphase⟩)
  | clear => exact .inr (.inr rfl)
  | _ => exact absurd hmem hlost

/-- Which step an obtaining or a clearing is. -/
lemma step_of_event? {a : Step} (h : s.event? a = some e) :
    (∀ call victim, e = .obtained call victim → a = .obtain call.id call.key) ∧
      (e = .cleared → a = .clear) := by
  cases a with
  | obtain id key =>
    obtain rfl := Option.some.inj h
    exact ⟨fun call victim heq => by rw [← (Event.obtained.inj heq).1], nofun⟩
  | look id =>
    obtain ⟨call, -, rfl⟩ := Option.map_eq_some_iff.1 h
    split <;> exact ⟨nofun, nofun⟩
  | start id =>
    obtain ⟨call, -, rfl⟩ := Option.map_eq_some_iff.1 h
    exact ⟨nofun, nofun⟩
  | finish id run =>
    obtain ⟨call, -, rfl⟩ := Option.map_eq_some_iff.1 h
    split <;> exact ⟨nofun, nofun⟩
  | take id =>
    obtain ⟨call, -, h⟩ := Option.bind_eq_some_iff.1 h
    obtain ⟨o, -, h⟩ := Option.bind_eq_some_iff.1 h
    obtain rfl := Option.some.inj h
    exact ⟨nofun, nofun⟩
  | discard id =>
    obtain ⟨call, -, rfl⟩ := Option.map_eq_some_iff.1 h
    exact ⟨nofun, nofun⟩
  | clear => exact ⟨fun call victim heq => absurd (Option.some.inj h) (by simp [heq]), fun _ => rfl⟩

/-- The reasons for which the cache itself gives up a registration: it is cleared, or it is full
and a text comes that is not registered, the registration being the least recently used one. -/
def GivesUp (s : Shared) (a : Step) (entry : String × SlotId) : Prop :=
  a = .clear ∨ ∃ id key, a = .obtain id key ∧ s.cache.slotOf? key = none ∧
    s.cache.size = s.cache.capacity ∧ s.cache.resident.getLast? = some entry

/-- A step that loses an entry that holds a descriptor is one with which the cache gives it up. -/
lemma Coherent.givesUp (h : s.Coherent) {a : Step} (hstep : s.step? a = some t)
    {entry : String × SlotId} {number : Nat} {d : Descriptor} (hmem : entry ∈ s.cache.resident)
    (hslot : s.cache.outcomeIn? entry.2 = some ⟨number, .ok d⟩)
    (hlost : entry ∉ t.cache.resident) : s.GivesUp a entry := by
  obtain ⟨e, he, hm⟩ := move_of_step? hstep
  rcases h.lost_entry hm hmem hlost with ⟨call, rfl, hvictim⟩ | ⟨_, error, herror⟩ | rfl
  · exact .inr ⟨call.id, call.key, (step_of_event? he).1 _ _ rfl, victim?_eq_some_iff.1 hvictim⟩
  · -- a failed slot holds an error and no descriptor
    rw [hslot] at herror
    cases herror
  · exact .inl ((step_of_event? he).2 rfl)

/-- In a run an entry that holds a descriptor stays, with it, up to a step that gives it up. -/
lemma Coherent.kept_or_givesUp {bs : List Step} (hs : s.Coherent) (ht : s.run? bs = some t)
    {entry : String × SlotId} {number : Nat} {d : Descriptor} (hmem : entry ∈ s.cache.resident)
    (hslot : s.cache.outcomeIn? entry.2 = some ⟨number, .ok d⟩) :
    entry ∈ t.cache.resident ∧ t.cache.outcomeIn? entry.2 = some ⟨number, .ok d⟩ ∨
      ∃ pre a post u, bs = pre ++ a :: post ∧ s.run? pre = some u ∧
        entry ∈ u.cache.resident ∧ u.GivesUp a entry := by
  induction bs using List.reverseRecOn generalizing t with
  | nil =>
    obtain rfl := Option.some.inj ht
    exact .inl ⟨hmem, hslot⟩
  | append_singleton bs a ih =>
    rw [run?_append] at ht
    obtain ⟨u, hu, ht⟩ := Option.bind_eq_some_iff.1 ht
    obtain ⟨t', hstep, ht⟩ := Option.bind_eq_some_iff.1 ht
    obtain rfl := Option.some.inj ht
    rcases ih hu with ⟨hmemu, hslotu⟩ | ⟨pre, b, post, v, rfl, hv, hmemv, hwhy⟩
    · have hcu : u.Coherent := hs.run hu
      obtain ⟨e, he, hm⟩ := move_of_step? hstep
      by_cases hstays : entry ∈ t'.cache.resident
      · exact .inl ⟨hstays, (hcu.grows hm).outcomeIn?_eq hslotu⟩
      · exact .inr ⟨bs, a, [], u, rfl, hu, hmemu, hcu.givesUp hstep hmemu hslotu hstays⟩
    · exact .inr ⟨pre, b, post ++ [a], v, by simp, hv, hmemv, hwhy⟩

/-- Taking a failed slot out removes the entry of this slot and no other. -/
lemma Coherent.cache_of_discard (hs : s.Coherent) {id : CallId} {call : Call}
    (hcall : s.call? id = some call) (hstep : s.step? (.discard id) = some t) :
    t.cache.resident = s.cache.resident.filter (· ≠ (call.key, call.slot)) ∧
      (s.cache.slotOf? call.key ≠ some call.slot → t.cache = s.cache) := by
  obtain ⟨e, he, hm⟩ := move_of_step? hstep
  obtain rfl : e = .discarded call := by
    rw [event?, hcall] at he
    exact (Option.some.inj he).symm
  constructor
  · exact hs.resident_eq hm
  · intro hne
    cases hm
    refine discard_eq_self fun hmem => hne ?_
    exact hs.wellFormed.slotOf?_eq_some_iff.2 hmem

/-- An entry whose slot holds a descriptor is lost only when the cache is cleared, or as the least
recently used entry when a text that is not registered comes into a full cache; this is so in every
run, whatever look-ups are under way, and while the entry stays its descriptor does.  A call that
takes its failed slot out removes the registration of this very slot if there is one, and nothing
else: all other entries keep their order, and when the text is registered with a newer slot by then,
or with none, the cache stays just as it is. -/
theorem parsed_entry_leaves {capacity : Nat} {hpos : 0 < capacity} {limit : Option Duration}
    {as bs : List Step} (hs : (unused capacity hpos limit).run? as = some s)
    (ht : s.run? bs = some t) :
    (∀ entry ∈ s.cache.resident, ∀ number d,
      s.cache.outcomeIn? entry.2 = some ⟨number, .ok d⟩ →
      entry ∈ t.cache.resident ∧ t.cache.outcomeIn? entry.2 = some ⟨number, .ok d⟩ ∨
      ∃ pre a post u, bs = pre ++ a :: post ∧ s.run? pre = some u ∧
        entry ∈ u.cache.resident ∧ u.GivesUp a entry) ∧
    ∀ id call u, t.call? id = some call → t.step? (.discard id) = some u →
      u.cache.resident = t.cache.resident.filter (· ≠ (call.key, call.slot)) ∧
      (t.cache.slotOf? call.key ≠ some call.slot → u.cache = t.cache) := by
  have hcs := coherent_of_run? hs
  have hct : t.Coherent := hcs.run ht
  constructor
  · intro entry hmem number d hslot
    exact hcs.kept_or_givesUp ht hmem hslot
  · intro id call u hcall hstep
    exact hct.cache_of_discard hcall hstep

/-- The slot of the first call goes with a clearing, the second call registers the text again, and
the first call fails last; a third call gives up the descriptor of the second for its own text. -/
theorem parsed_entry_leaves_of_reentry :
    let again : List Step := [.obtain 0 "k", .look 0, .start 0, .clear, .obtain 1 "k", .look 1,
      .start 1, .finish 1 { reply := .returned (.ok { name := "k" }) }]
    let late : List Step := [.finish 0 { reply := .returned (.error .empty) }]
    ∃ s t u, (unused 1 Nat.one_pos none).run? again = some s ∧ s.run? late = some t ∧
      t.step? (.discard 0) = some u ∧ u.cache.resident = [("k", 1)] ∧ u.cache = t.cache ∧
      ∃ v, u.step? (.obtain 2 "other") = some v ∧ v.cache.resident = [("other", 2)] := by
  intro again late
  have hs : (unused 1 Nat.one_pos none).run? again = some _ := rfl
  refine ⟨_, _, _, hs, rfl, rfl, rfl, ?_, _, rfl, rfl⟩
  have hsecond := (parsed_entry_leaves hs (show run? _ late = some _ from rfl)).2
  exact (hsecond 0 _ _ rfl rfl).2 (by decide)

end Shared

end Cache

end ClientCounters
