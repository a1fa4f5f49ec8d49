/-
# What failing look-ups displace

A look-up that fails registers its text first, for which a full cache gives up its least recently
used entry, and takes its slot out again afterwards.  So there is room behind it, whatever was
registered before (`Fails.size_lt`), and no failing look-up that follows displaces anything: a
row of them displaces what its first one does (`Displaced.lookUp`).
-/
import ClientCounters.Proofs.Cache.Failures
import ClientCounters.Proofs.Cache.Recency

namespace ClientCounters

/-- Whether a look-up returned an error. -/
def Answer.isError : Answer → Bool
  | returned ⟨_, .error _⟩ => true
  | _ => false

namespace Cache

variable {σ : Type} {c : Cache} {key : String} {slot : SlotId} {entry : String × SlotId}

/-! ## Entries with a descriptor -/

/-- The descriptor in a slot as the instance it is, told from others by the number of its run. -/
def instanceIn? (c : Cache) (slot : SlotId) : Option (Nat × Descriptor) :=
  match c.outcomeIn? slot with
  | some ⟨run, .ok d⟩ => some (run, d)
  | _ => none

/-- The text of an entry with the instance in its slot, if there is one. -/
def parsedOf? (c : Cache) (entry : String × SlotId) : Option (String × Nat × Descriptor) :=
  (c.instanceIn? entry.2).map (entry.1, ·)

/-- The entries that hold a descriptor, most recently used first. -/
def parsed (c : Cache) : List (String × Nat × Descriptor) :=
  c.resident.filterMap c.parsedOf?

lemma parsedOf?_of_empty (h : c.outcomeIn? entry.2 = none) : c.parsedOf? entry = none := by
  rw [parsedOf?, instanceIn?, h, Option.map_none]

lemma parsedOf?_eq_some {text : String} {run : Nat} {d : Descriptor}
    (h : c.parsedOf? entry = some (text, run, d)) :
    entry = (text, entry.2) ∧ c.outcomeIn? entry.2 = some ⟨run, .ok d⟩ := by
  obtain ⟨⟨run', d'⟩, hinstance, heq⟩ := Option.map_eq_some_iff.1 h
  cases heq
  refine ⟨rfl, ?_⟩
  rw [instanceIn?] at hinstance
  split at hinstance
  · next hslot =>
    cases hinstance
    exact hslot
  · cases hinstance

lemma parsedOf?_congr {d : Cache} (h : d.outcomeIn? entry.2 = c.outcomeIn? entry.2) :
    d.parsedOf? entry = c.parsedOf? entry := by
  rw [parsedOf?, instanceIn?, h, parsedOf?, instanceIn?]

/-! ## Caches that are not in use -/

/-- The registered texts are in good order, and no error is still to be taken out. -/
structure Settled (c : Cache) : Prop where
  wellFormed : c.WellFormed
  noError : ∀ entry ∈ c.resident, ∀ run e, c.outcomeIn? entry.2 ≠ some ⟨run, .error e⟩

/-- A cache is settled when no call is under way. -/
lemma Shared.settled_of_run? {s : Shared} {capacity : Nat} {hpos : 0 < capacity}
    {limit : Option Duration} {as : List Step}
    (hrun : (unused capacity hpos limit).run? as = some s) (hdone : s.calls = []) :
    s.cache.Settled where
  wellFormed := (coherent_of_run? hrun).wellFormed
  noError entry hmem run e herror := by
    obtain ⟨call, hcall, -⟩ := owed_of_run? hrun entry hmem run e herror
    rw [hdone] at hcall
    cases hcall

/-- The slot that a look-up gets holds no error. -/
lemma Settled.outcomeIn?_slotFor_ne (h : c.Settled) (run : Nat) (e : ParseError) :
    c.outcomeIn? (c.slotFor key) ≠ some ⟨run, .error e⟩ := by
  cases hs : c.slotOf? key with
  | none =>
    rw [outcomeIn?_of_keyOf? (keyOf?_slotFor_of_none hs)]
    exact nofun
  | some slot =>
    rw [slotFor, hs, Option.getD_some]
    exact h.noError _ (mem_resident_of_slotOf? hs) run e

/-- No other text is registered with the slot that a look-up gets. -/
lemma WellFormed.slot_ne_slotFor (h : c.WellFormed) (hmem : entry ∈ c.resident)
    (hne : entry.1 ≠ key) : entry.2 ≠ c.slotFor key := by
  intro heq
  have hmade : (c.obtain key).1.keyOf? entry.2 = some entry.1 :=
    keyOf?_obtain_of_some (h.keyOf?_eq entry hmem)
  rw [heq, keyOf?_obtain_slotFor h] at hmade
  exact hne (Option.some.inj hmade).symm

/-- The victim stands behind all entries that stay. -/
lemma WellFormed.resident_eq_of_victim? (h : c.WellFormed) (hv : c.victim? key = some entry) :
    c.resident = ((c.without key).filter fun other => c.victim? key ≠ some other) ++ [entry] := by
  obtain ⟨hnone, -, hlast⟩ := victim?_eq_some_iff.1 hv
  have hall : c.without key = c.resident :=
    List.filter_eq_self.2 fun other hmem => by simpa using slotOf?_eq_none_iff.1 hnone other hmem
  obtain ⟨front, hfront⟩ : ∃ front, c.resident = front ++ [entry] :=
    ⟨_, (List.dropLast_append_getLast? entry hlast).symm⟩
  have hnodup : c.resident.Nodup := h.nodup.of_map Prod.fst
  have hentry : entry ∉ front := by
    rw [hfront] at hnodup
    exact fun hmem => List.disjoint_of_nodup_append hnodup hmem List.mem_cons_self
  rw [hall, hv, hfront, List.filter_append, List.filter_cons_of_neg (by simp), List.filter_nil,
    List.append_nil, List.filter_eq_self.2]
  intro other hmem
  rw [decide_eq_true_iff]
  rintro ⟨⟩
  exact hentry hmem

/-! ## One failing look-up -/

/-- What a failing look-up does to the entries: its text is not registered afterwards, its victim is
not either, and all else is as it was. -/
structure Fails (c : Cache) (key : String) (d : Cache) : Prop where
  empty : c.outcomeIn? (c.slotFor key) = none
  resident_eq : d.resident = (c.without key).filter fun entry => c.victim? key ≠ some entry
  outcomeIn?_eq : ∀ entry ∈ c.resident, entry.1 ≠ key → d.outcomeIn? entry.2 = c.outcomeIn? entry.2
  capacity_eq : d.capacity = c.capacity
  wellFormed : d.WellFormed

/-- A look-up that returns an error has run the parser for an empty slot and taken the slot out. -/
lemma Settled.fails (h : c.Settled) (parser : Parser σ) (state : σ)
    (herror : (c.getOrParse parser.besides key state).answer.isError) :
    Fails c key (c.getOrParse parser.besides key state).cache := by
  have hcapacity := (SameBounds.getOrParse parser key c state).capacity
  have hwell := h.wellFormed.getOrParse parser key state
  rcases ho : c.outcomeIn? (c.slotFor key) with _ | ⟨run', e' | d⟩
  · rw [getOrParse_of_none parser state ho] at herror hcapacity hwell ⊢
    dsimp only at herror hcapacity hwell ⊢
    split at herror
    · cases herror
    · next e' hsettle =>
      rw [hsettle] at hcapacity hwell
      have hstarted : (c.missed key).startRun.1.WellFormed := h.wellFormed.missed.startRun
      refine ⟨ho, ?_, fun entry hmem hne => ?_, hcapacity, hwell⟩
      · -- of the registrations behind the slot step only that of the text itself goes
        rw [resident_discard hstarted.fill]
        show (c.obtain key).1.resident.filter _ = _
        rw [resident_obtain h.wellFormed, List.filter_cons_of_neg (by simp), List.filter_eq_self]
        intro entry hmem
        rw [decide_eq_true_iff]
        rintro rfl
        exact (mem_without.1 (List.mem_filter.1 hmem).1).2 rfl
      · have hslot : c.slotFor key < (c.missed key).startRun.1.slots.size :=
          lt_size_of_keyOf? (keyOf?_obtain_slotFor h.wellFormed)
        rw [outcomeIn?_discard, outcomeIn?_fill hslot,
          if_neg (h.wellFormed.slot_ne_slotFor hmem hne)]
        exact outcomeIn?_obtain
    · cases herror
  · exact absurd ho (h.outcomeIn?_slotFor_ne run' e')
  · rw [getOrParse_of_ok parser state ho] at herror
    cases herror

namespace Fails

variable {d : Cache}

lemma mem_resident (h : Fails c key d) (hmem : entry ∈ d.resident) :
    entry ∈ c.resident ∧ entry.1 ≠ key := by
  rw [h.resident_eq] at hmem
  exact mem_without.1 (List.mem_filter.1 hmem).1

lemma settled (h : Fails c key d) (hc : c.Settled) : d.Settled where
  wellFormed := h.wellFormed
  noError entry hmem run e := by
    obtain ⟨hmem, hne⟩ := h.mem_resident hmem
    rw [h.outcomeIn?_eq entry hmem hne]
    exact hc.noError entry hmem run e

/-- There is room behind a failing look-up. -/
lemma size_lt (h : Fails c key d) (hc : c.WellFormed) : d.size < d.capacity := by
  rw [size, h.resident_eq, h.capacity_eq]
  cases hs : c.slotOf? key with
  | none => exact hc.length_filter_victim hs
  | some slot =>
    -- the text was registered and is taken out
    have hmem := mem_resident_of_slotOf? hs
    have hlt : (c.without key).length < c.size :=
      List.length_filter_lt_length_iff_exists.2 ⟨_, hmem, by simp⟩
    exact Nat.lt_of_le_of_lt (List.length_filter_le _ _) (Nat.lt_of_lt_of_le hlt hc.size_le)

/-- A failing look-up leaves the entries with a descriptor as they were, less the victim, which was
the last one. -/
lemma parsed_eq (h : Fails c key d) (hc : c.WellFormed) :
    c.parsed = d.parsed ++ ((c.victim? key).bind c.parsedOf?).toList := by
  have hkept : d.parsed =
      ((c.without key).filter fun entry => c.victim? key ≠ some entry).filterMap c.parsedOf? := by
    rw [parsed, ← h.resident_eq]
    refine List.filterMap_congr fun entry hmem => ?_
    obtain ⟨hmem, hne⟩ := h.mem_resident hmem
    exact parsedOf?_congr (h.outcomeIn?_eq entry hmem hne)
  rw [hkept]
  cases hv : c.victim? key with
  | some victim =>
    rw [parsed, hc.resident_eq_of_victim? hv, hv, List.filterMap_append]
    cases hentry : c.parsedOf? victim <;> simp [hentry]
  | none =>
    simp only [ne_eq, reduceCtorEq, not_false_eq_true, decide_true, List.filter_true,
      Option.bind_none, Option.toList_none, List.append_nil]
    -- the text itself was registered with an empty slot, if at all
    rw [parsed, without, List.filterMap_filter]
    refine List.filterMap_congr fun entry hmem => ?_
    split
    · rfl
    · next hkey =>
      obtain rfl : entry.1 = key := by simpa using hkey
      have hempty := h.empty
      rw [slotFor, hc.slotOf?_eq_some_iff.2 hmem, Option.getD_some] at hempty
      exact parsedOf?_of_empty hempty

end Fails

/-! ## Failing look-ups in a row -/

namespace Session

variable {parser : Parser σ} {v : Session σ} {keys : List String}

/-- What a row of failing look-ups has displaced of the entries with a descriptor: the entry, if it
was one, that the cache gave up for the first of them. -/
structure Displaced (c : Cache) (keys : List String) (v : Session σ) : Prop where
  settled : v.cache.Settled
  cache_eq : keys = [] → v.cache = c
  /-- Behind the first one there is room. -/
  size_lt : keys ≠ [] → v.cache.size < v.cache.capacity
  parsed_eq : c.parsed =
    v.cache.parsed ++ ((keys.head?.bind c.victim?).bind c.parsedOf?).toList

namespace Displaced

lemma nil (h : v.cache.Settled) : Displaced v.cache [] v where
  settled := h
  cache_eq _ := rfl
  size_lt hne := absurd rfl hne
  parsed_eq := (List.append_nil _).symm

lemma lookUp (h : Displaced c keys v)
    (herror : (v.cache.getOrParse parser.besides key v.state).answer.isError) :
    Displaced c (keys ++ [key]) (v.use parser (.lookUp key)) := by
  have hfails := h.settled.fails parser v.state herror
  have hparsed := hfails.parsed_eq h.settled.wellFormed
  refine ⟨hfails.settled h.settled, by simp, fun _ => hfails.size_lt h.settled.wellFormed, ?_⟩
  show c.parsed = (v.cache.getOrParse parser.besides key v.state).cache.parsed ++ _
  cases keys with
  | nil =>
    rw [← h.cache_eq rfl]
    exact hparsed
  | cons first keys =>
    -- there is room by now, so that nothing is given up
    have hnone : v.cache.victim? key = none :=
      if_neg fun hfull => Nat.ne_of_lt (h.size_lt (List.cons_ne_nil _ _)) hfull.2
    rw [hnone, Option.bind_none, Option.toList_none, List.append_nil] at hparsed
    rw [← hparsed]
    exact h.parsed_eq

/-- However many look-ups fail. -/
lemma useAll (h : v.cache.Settled)
    (herror : ∀ answer ∈ (v.useAll parser (keys.map .lookUp)).answers, answer.2.isError) :
    Displaced v.cache keys (v.useAll parser (keys.map .lookUp)) := by
  induction keys using List.reverseRecOn with
  | nil => exact .nil h
  | append_singleton keys key ih =>
    rw [List.map_append, List.map_singleton, useAll_concat] at herror ⊢
    obtain ⟨hlast, hbefore⟩ := List.forall_mem_cons.1 herror
    exact (ih hbefore).lookUp hlast

end Displaced

/-- **Failing look-ups displace one descriptor at most.**  From any cache that no call is under way
in, some texts are looked up, one after the other, and every look-up returns an error.  Then the
entries that hold a descriptor, in their order and with their instances, are just what they were; or
all but the last of them are, which was the least recently used entry of a full cache and was given
up for the first text, one that was not registered. -/
theorem failing_lookUps_displace_one {s : Shared} {capacity : Nat} {hpos : 0 < capacity}
    {limit : Option Duration} {as : List Step}
    (hrun : (Shared.unused capacity hpos limit).run? as = some s) (hdone : s.calls = [])
    (parser : Parser σ) (state : σ) (keys : List String)
    (herror : ∀ answer ∈ (useAll parser ⟨s.cache, state, []⟩ (keys.map .lookUp)).answers,
      answer.2.isError) :
    let after := (useAll parser ⟨s.cache, state, []⟩ (keys.map .lookUp)).cache
    after.parsed = s.cache.parsed ∨
    ∃ key text slot run d, keys.head? = some key ∧ s.cache.slotOf? key = none ∧
      s.cache.size = capacity ∧ s.cache.resident.getLast? = some (text, slot) ∧
      s.cache.outcomeIn? slot = some ⟨run, .ok d⟩ ∧
      s.cache.parsed = after.parsed ++ [(text, run, d)] := by
  intro after
  have hsettled := Shared.settled_of_run? hrun hdone
  have h := Displaced.useAll (v := ⟨s.cache, state, []⟩) hsettled herror
  have hparsed : s.cache.parsed = after.parsed ++
      ((keys.head?.bind s.cache.victim?).bind s.cache.parsedOf?).toList := h.parsed_eq
  cases hlost : (keys.head?.bind s.cache.victim?).bind s.cache.parsedOf? with
  | none =>
    rw [hlost, Option.toList_none, List.append_nil] at hparsed
    exact .inl hparsed.symm
  | some lost =>
    obtain ⟨text, run, d⟩ := lost
    obtain ⟨entry, hfirst, hentry⟩ := Option.bind_eq_some_iff.1 hlost
    obtain ⟨key, hkey, hvictim⟩ := Option.bind_eq_some_iff.1 hfirst
    obtain ⟨hnone, hfull, hlast⟩ := victim?_eq_some_iff.1 hvictim
    obtain ⟨heq, hslot⟩ := parsedOf?_eq_some hentry
    have hcapacity : s.cache.capacity = capacity := (Shared.bounds_of_run? hrun).1
    rw [hlost] at hparsed
    exact .inr ⟨key, text, entry.2, run, d, hkey, hnone, hfull.trans hcapacity, heq ▸ hlast, hslot,
      hparsed⟩

/-- The parser returned a descriptor for `a` and for `c` and crashed on `b` in between, so that the
cache is full.  Of the texts that fail then `x` displaces `a`, the slot of `b` is taken out, and
`a` is looked up in vain with room left. -/
theorem failing_lookUps_displace_one_of_crash :
    let start : Shared := Shared.unused 3 (Nat.succ_pos 2) none
    let steps : List Step := [.obtain 0 "a", .look 0, .start 0,
      .finish 0 { reply := .returned (.ok { name := "a" }) }, .obtain 0 "b", .look 0, .start 0,
      .finish 0 { reply := .crashed }, .obtain 0 "c", .look 0, .start 0,
      .finish 0 { reply := .returned (.ok { name := "c" }) }]
    let parser : Parser Unit := Parser.pure fun s => .error (.unrecognized s)
    ∃ s, start.run? steps = some s ∧ s.calls = [] ∧
      let after := useAll parser ⟨s.cache, (), []⟩ (["x", "b", "a", "x"].map .lookUp)
      (∀ answer ∈ after.answers, answer.2.isError) ∧
      after.cache.parsed = [("c", 2, { name := "c" })] ∧
      s.cache.parsed = after.cache.parsed ++ [("a", 0, { name := "a" })] ∧
      ∃ slot, s.cache.resident.getLast? = some ("a", slot) := by
  intro start steps parser
  have hend : ((start.run? steps).any fun s => decide (s.calls = []) &&
      (useAll parser ⟨s.cache, (), []⟩ (["x", "b", "a", "x"].map .lookUp)).answers.all
        (fun answer => answer.2.isError) &&
      decide ((useAll parser ⟨s.cache, (), []⟩ (["x", "b", "a", "x"].map .lookUp)).cache.parsed =
        [("c", 2, { name := "c" })]) &&
      decide (s.cache.parsed = [("c", 2, { name := "c" }), ("a", 0, { name := "a" })])) = true := by
    decide +kernel +zetaReduce
  obtain ⟨s, hs, hend⟩ := (Option.any_eq_true _ _).1 hend
  simp only [Bool.and_eq_true, decide_eq_true_iff, List.all_eq_true] at hend
  obtain ⟨⟨⟨hdone, herror⟩, hafter⟩, hbefore⟩ := hend
  refine ⟨s, hs, hdone, herror, hafter, ?_⟩
  rcases failing_lookUps_displace_one hs hdone parser () _ herror with
    heq | ⟨key, text, slot, run, d, h⟩
  · rw [hafter, hbefore] at heq
    cases heq
  · obtain ⟨-, -, -, hlast, -, hparsed⟩ := h
    rw [hafter, hbefore] at hparsed
    cases hparsed
    exact ⟨by rw [hafter, hbefore]; rfl, slot, hlast⟩

end Session

end Cache

end ClientCounters
