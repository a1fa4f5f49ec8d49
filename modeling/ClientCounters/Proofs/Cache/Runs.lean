/-
# The runs of the parser

A run of the parser belongs to the one call that started it, and what it returned goes into the slot
of this call, if it returned at all.  So the history of a cache in use tells of every outcome where
it comes from: a slot is filled by one run at most, which was made for the text of the slot, and the
runs are numbered in the order in which they start.
-/
import Mathlib.Data.List.Pairwise
import ClientCounters.Proofs.Cache.Account

namespace ClientCounters

namespace Cache

/-- What was returned into a slot, with the calls that ran the parser for it. -/
def fills (slot : SlotId) (h : List Event) : List (Call × Outcome) :=
  h.filterMap fun
    | .filled runner o => if runner.slot = slot then some (runner, o) else none
    | _ => none

/-- The numbers of the runs. -/
def runNumbers (h : List Event) : List Nat :=
  h.filterMap fun
    | .started { phase := .parsing number, .. } => some number
    | _ => none

namespace Shared

variable {s t : Shared} {h : List Event} {e : Event} {slot : SlotId} {call : Call}
  {o : Outcome} {as : List Step}

lemma fills_append (h h' : List Event) : fills slot (h ++ h') = fills slot h ++ fills slot h' :=
  List.filterMap_append

lemma mem_fills : (call, o) ∈ fills slot h ↔ .filled call o ∈ h ∧ call.slot = slot := by
  rw [fills, List.mem_filterMap]
  constructor
  · rintro ⟨e, he, heq⟩
    cases e with
    | filled runner o' =>
      obtain ⟨hslot, heq⟩ := Option.ite_none_right_eq_some.1 heq
      obtain ⟨rfl, rfl⟩ := Prod.mk.inj (Option.some.inj heq)
      exact ⟨he, hslot⟩
    | _ => cases heq
  · rintro ⟨hmem, hslot⟩
    exact ⟨_, hmem, if_pos hslot⟩

lemma tally_filled_eq_length (h : List Event) (slot : SlotId) :
    tally .filled (· == slot) h = (fills slot h).length := by
  rw [fills, List.length_filterMap_eq_countP, tally]
  refine List.countP_congr fun e _ => ?_
  cases e with
  | filled runner o => by_cases hslot : runner.slot = slot <;> simp [Event.kind, Event.call?, hslot]
  | _ => simp [Event.kind]

/-- The history tells where the outcomes come from. -/
structure Ran (h : List Event) (s : Shared) : Prop where
  /-- What is in a slot is all that was ever returned into it. -/
  fills_eq : ∀ slot, (fills slot h).map Prod.snd = (s.cache.outcomeIn? slot).toList
  /-- The runs are numbered in the order in which they start. -/
  runNumbers_eq : runNumbers h = List.range s.cache.parses
  running : ∀ call ∈ s.calls, call.phase.isParsing → .started call ∈ h
  /-- A run that returned was started by the same call. -/
  filled : ∀ call o, .filled call o ∈ h → call.phase = .parsing o.run ∧ .started call ∈ h
  /-- So was a run that crashed. -/
  crashed : ∀ call, .crashed call ∈ h → call.phase.isParsing ∧ .started call ∈ h
  /-- A hit found an outcome in its slot. -/
  hit : ∀ call, .hit call ∈ h → ∃ o, s.cache.outcomeIn? call.slot = some o
  /-- Every step of a call was made with a slot of its text. -/
  keyOf?_eq : ∀ e ∈ h, ∀ call, e.call? = some call → s.cache.keyOf? call.slot = some call.key

lemma mem_of_mem_receive {c : Cache} {other : Call} (hother : other ∈ (s.receive call c o).calls)
    (hphase : other.phase.isParsing) : other ∈ s.calls := by
  rw [receive] at hother
  split at hother
  · exact (mem_others.1 hother).1
  · rcases mem_update hother with rfl | ⟨hold, -⟩
    · cases hphase
    · exact hold

/-- A call runs the parser in a later state only if it did so before or has just started it. -/
lemma Move.running (hm : Move s e t) (hcall : call ∈ t.calls) (hphase : call.phase.isParsing) :
    call ∈ s.calls ∨ e = .started call := by
  cases hm with
  | obtain _ =>
    rcases List.mem_cons.1 hcall with rfl | hold
    · cases hphase
    · exact .inl hold
  | hit _ _ _ _ => exact .inl (mem_others.1 hcall).1
  | miss _ _ _ =>
    rcases mem_update hcall with rfl | ⟨hold, -⟩
    · cases hphase
    · exact .inl hold
  | start _ _ _ _ =>
    rcases mem_update hcall with rfl | ⟨hold, -⟩
    · exact .inr rfl
    · exact .inl hold
  | fill _ _ _ => exact .inl (mem_of_mem_receive hcall hphase)
  | crash _ _ _ => exact .inl (mem_others.1 hcall).1
  | take _ _ _ => exact .inl (mem_of_mem_receive hcall hphase)
  | discard _ _ => exact .inl (mem_others.1 hcall).1
  | clear => exact .inl hcall

/-- A run returns into a slot that is empty before and holds the outcome behind. -/
lemma Coherent.outcomeIn?_of_filled (hs : s.Coherent) (hm : Move s (.filled call o) t)
    (slot : SlotId) : t.cache.outcomeIn? slot =
      if slot = call.slot then some o else s.cache.outcomeIn? slot := by
  cases hm with
  | fill hcall hphase _ =>
    have hfits := hs.fits _ (mem_of_call? hcall)
    have hempty := hfits.isEmpty (isParsing_iff.2 ⟨_, hphase⟩)
    rw [cache_receive, outcomeIn?_fill (lt_size_of_keyOf? hfits.keyOf?_eq), hempty, Option.none_or]

/-- No other move changes what is in a slot. -/
lemma Move.outcomeIn?_eq (hm : Move s e t) (he : e.kind ≠ .filled) (slot : SlotId) :
    t.cache.outcomeIn? slot = s.cache.outcomeIn? slot := by
  cases hm with
  | obtain _ => exact outcomeIn?_obtain
  | fill _ _ _ => exact absurd rfl he
  | take _ _ _ => rw [cache_receive]
  | discard _ _ => exact outcomeIn?_discard
  | _ => rfl

lemma Ran.fills_move (hr : Ran h s) (hs : s.Coherent) (hm : Move s e t) (slot : SlotId) :
    (fills slot (h ++ [e])).map Prod.snd = (t.cache.outcomeIn? slot).toList := by
  have hold := hr.fills_eq slot
  rw [fills_append, List.map_append, hold]
  by_cases he : e.kind = .filled
  · cases e with
    | filled runner o =>
      rw [hs.outcomeIn?_of_filled hm slot]
      by_cases hslot : slot = runner.slot
      · subst hslot
        cases hm with
        | fill hcall hphase _ =>
          have hempty := (hs.fits _ (mem_of_call? hcall)).isEmpty (isParsing_iff.2 ⟨_, hphase⟩)
          simp [fills, hempty]
      · simp [fills, hslot, Ne.symm hslot]
    | _ => cases he
  · have hnone : fills slot [e] = [] := by
      cases e with
      | filled runner o => exact absurd rfl he
      | _ => rfl
    rw [hm.outcomeIn?_eq he, hnone, List.map_nil, List.append_nil]

lemma Ran.runNumbers_move (hr : Ran h s) (hm : Move s e t) :
    runNumbers (h ++ [e]) = List.range t.cache.parses := by
  have hold := hr.runNumbers_eq
  have hparses : t.cache.parses = (e.count s.cache.counters).parses :=
    congrArg CacheStats.parses hm.counters_eq
  rw [runNumbers] at hold ⊢
  rw [List.filterMap_append, hold, hparses]
  cases hm with
  | start _ _ _ _ => exact List.range_succ.symm
  | @fill call o r _ _ _ => rcases o with ⟨number, error | d⟩ <;> exact List.append_nil _
  | _ => exact List.append_nil _

lemma Ran.keyOf?_move (hr : Ran h s) (hs : s.Coherent) (hm : Move s e t) :
    ∀ e' ∈ h ++ [e], ∀ call, e'.call? = some call →
      t.cache.keyOf? call.slot = some call.key := by
  intro e' he' call hcall
  rw [List.mem_append, List.mem_singleton] at he'
  rcases he' with hold | rfl
  · exact (hs.grows hm).keyOf?_eq (hr.keyOf?_eq e' hold call hcall)
  · have hcleared : e' ≠ .cleared := by
      rintro rfl
      cases hcall
    obtain ⟨caller, prior, next, hadv⟩ := hm.advances hs hcleared
    obtain ⟨phase, -, he⟩ := hadv.call?_eq
    obtain rfl := Option.some.inj (hcall.symm.trans he)
    obtain ⟨rest, hprior, hnext⟩ := hadv.calls
    -- a call under way before the move fits the cache before it, a new one the cache behind it
    cases prior with
    | some before =>
      have hmem : { caller with phase := before } ∈ s.calls :=
        hprior.mem_iff.2 List.mem_cons_self
      exact (hs.grows hm).keyOf?_eq (hs.fits _ hmem).keyOf?_eq
    | none =>
      cases next with
      | some after =>
        have hmem : { caller with phase := after } ∈ t.calls :=
          hnext.mem_iff.2 List.mem_cons_self
        exact ((hs.move hm).fits _ hmem).keyOf?_eq
      | none =>
        have hlife := hadv.advances
        generalize e'.kind = kind at hlife
        cases hlife

lemma ran_unused {capacity : Nat} (hpos : 0 < capacity) (limit : Option Duration) :
    Ran [] (unused capacity hpos limit) where
  fills_eq _ := rfl
  runNumbers_eq := rfl
  running _ hcall := absurd hcall List.not_mem_nil
  filled _ _ hmem := absurd hmem List.not_mem_nil
  crashed _ hmem := absurd hmem List.not_mem_nil
  hit _ hmem := absurd hmem List.not_mem_nil
  keyOf?_eq _ hmem := absurd hmem List.not_mem_nil

lemma Ran.move (hr : Ran h s) (hs : s.Coherent) (hm : Move s e t) : Ran (h ++ [e]) t where
  fills_eq := hr.fills_move hs hm
  runNumbers_eq := hr.runNumbers_move hm
  running call hcall hphase := by
    rw [List.mem_append, List.mem_singleton]
    rcases hm.running hcall hphase with hold | rfl
    · exact .inl (hr.running call hold hphase)
    · exact .inr rfl
  filled call o hmem := by
    rw [List.mem_append, List.mem_singleton] at hmem ⊢
    rcases hmem with hold | rfl
    · exact ⟨(hr.filled call o hold).1, .inl (hr.filled call o hold).2⟩
    · cases hm with
      | fill hcall hphase _ =>
        have hparsing : call.phase.isParsing := isParsing_iff.2 ⟨_, hphase⟩
        exact ⟨hphase, .inl (hr.running call (mem_of_call? hcall) hparsing)⟩
  crashed call hmem := by
    rw [List.mem_append, List.mem_singleton] at hmem ⊢
    rcases hmem with hold | rfl
    · exact ⟨(hr.crashed call hold).1, .inl (hr.crashed call hold).2⟩
    · cases hm with
      | crash hcall hphase _ =>
        have hparsing : call.phase.isParsing := isParsing_iff.2 ⟨_, hphase⟩
        exact ⟨hparsing, .inl (hr.running call (mem_of_call? hcall) hparsing)⟩
  hit call hmem := by
    rw [List.mem_append, List.mem_singleton] at hmem
    rcases hmem with hold | rfl
    · obtain ⟨o, ho⟩ := hr.hit call hold
      exact ⟨o, (hs.grows hm).outcomeIn?_eq ho⟩
    · cases hm with
      | hit _ _ hslot _ => exact ⟨_, hslot⟩
  keyOf?_eq := hr.keyOf?_move hs hm

/-- The history of a run tells where the outcomes come from. -/
theorem ran_of_run? {capacity : Nat} {hpos : 0 < capacity} {limit : Option Duration}
    (hrun : (unused capacity hpos limit).run? as = some s) :
    Ran ((unused capacity hpos limit).history as) s :=
  (coherent_unused hpos limit).run_induction (ran_unused hpos limit)
    (fun _ _ _ _ hr hs hm => hr.move hs hm) hrun

/-- One run at most returns into a slot, and one has if there is something in it. -/
theorem Ran.tally_filled (hr : Ran h s) (slot : SlotId) :
    tally .filled (· == slot) h = (s.cache.outcomeIn? slot).toList.length := by
  rw [tally_filled_eq_length, ← List.length_map Prod.snd, hr.fills_eq]

/-- No event concerns a slot that is not there yet. -/
lemma Ran.tally_eq_zero (hr : Ran h s) (hslot : s.cache.keyOf? slot = none) (k : Kind) :
    tally k (· == slot) h = 0 := by
  rw [tally, List.countP_eq_zero]
  intro e he hof
  rw [Bool.and_eq_true, Option.any_eq_true] at hof
  obtain ⟨-, call, hcall, heq⟩ := hof
  have hkey := hr.keyOf?_eq e he call hcall
  rw [eq_of_beq heq, hslot] at hkey
  cases hkey

/-- What is in a slot was returned by a run that a call with the same slot and text made. -/
theorem Ran.exists_fill (hr : Ran h s) (hslot : s.cache.outcomeIn? slot = some o) :
    ∃ runner, .started runner ∈ h ∧ .filled runner o ∈ h ∧ runner.slot = slot ∧
      s.cache.keyOf? slot = some runner.key := by
  have hmem : o ∈ (fills slot h).map Prod.snd := by
    rw [hr.fills_eq, hslot]
    exact List.mem_singleton_self _
  obtain ⟨⟨runner, o'⟩, hfill, rfl⟩ := List.mem_map.1 hmem
  obtain ⟨hevent, rfl⟩ := mem_fills.1 hfill
  exact ⟨runner, (hr.filled runner _ hevent).2, hevent, rfl, hr.keyOf?_eq _ hevent runner rfl⟩

/-- Two elements of a list with one value are the same when the values of the list differ. -/
lemma eq_of_nodup_filterMap {α β : Type} {f : α → Option β} {l : List α}
    (hnodup : (l.filterMap f).Nodup) {a b : α} {x : β} (ha : a ∈ l) (hb : b ∈ l)
    (hfa : f a = some x) (hfb : f b = some x) : a = b := by
  by_contra hne
  rw [List.Nodup, List.pairwise_filterMap] at hnodup
  have hsymm : Std.Symm fun a b => ∀ x, f a = some x → ∀ y, f b = some y → x ≠ y :=
    ⟨fun _ _ hab y hy x hx => (hab x hx y hy).symm⟩
  exact hnodup.forall ha hb hne x hfa x hfb rfl

/-- Starts of the parser with one number are the same. -/
lemma Ran.eq_of_started (hr : Ran h s) {runner other : Call} {number : Nat}
    (hrunner : .started runner ∈ h) (hother : .started other ∈ h)
    (hphase : runner.phase = .parsing number) (hphase' : other.phase = .parsing number) :
    runner = other := by
  have hnodup : (runNumbers h).Nodup := hr.runNumbers_eq ▸ List.nodup_range
  obtain ⟨id, text, slot, phase⟩ := runner
  obtain ⟨id', text', slot', phase'⟩ := other
  subst hphase hphase'
  exact Event.started.inj (eq_of_nodup_filterMap hnodup hrunner hother rfl rfl)

/-- What a run returned is in its slot. -/
lemma Ran.outcomeIn?_of_filled (hr : Ran h s) {runner : Call} (hfilled : .filled runner o ∈ h) :
    s.cache.outcomeIn? runner.slot = some o := by
  have hmem : o ∈ (fills runner.slot h).map Prod.snd :=
    List.mem_map.2 ⟨(runner, o), mem_fills.2 ⟨hfilled, rfl⟩, rfl⟩
  rw [hr.fills_eq] at hmem
  exact Option.mem_toList.1 hmem

/-- A run has one outcome. -/
theorem Ran.outcome_unique (hr : Ran h s) {runner other : Call} {o' : Outcome}
    (hfilled : .filled runner o ∈ h) (hfilled' : .filled other o' ∈ h) (hrun : o.run = o'.run) :
    o = o' := by
  obtain ⟨hphase, hstarted⟩ := hr.filled runner o hfilled
  obtain ⟨hphase', hstarted'⟩ := hr.filled other o' hfilled'
  obtain rfl := hr.eq_of_started hstarted hstarted' (hrun ▸ hphase) hphase'
  have hslot := hr.outcomeIn?_of_filled hfilled
  rw [hr.outcomeIn?_of_filled hfilled'] at hslot
  exact (Option.some.inj hslot).symm

end Shared

end Cache

end ClientCounters
