/-
# The history of a cache in use

What a step comes to depends on the call that makes it and on what is in its slot at that moment.
An `Event` says it, and `Move` says for every event when it may happen and what it does to the
state; this is all that a step can do, by `move_of_step?`.  The events of a run, in order, are its
history.  What holds at the start and is carried over by every move holds of every run together
with its history, by `run_induction`; all that is proved about overlapping look-ups goes through it.
-/
import Mathlib.Data.List.Induction
import Mathlib.Data.Option.Basic
import ClientCounters.Cache.Interleaving
import ClientCounters.Proofs.Cache.Basic

namespace ClientCounters

namespace Cache

/-- Whether a call in this phase runs the parser. -/
def Phase.isParsing : Phase → Bool
  | parsing _ => true
  | _ => false

/-- What a step of a run comes to.  The call is shown as it makes the step. -/
inductive Event where
  /-- A call obtained a slot; the cache may have given up another registration for it. -/
  | obtained (call : Call) (victim : Option (String × SlotId))
  /-- A call found a descriptor in its slot. -/
  | hit (call : Call)
  /-- A call found none. -/
  | missed (call : Call)
  /-- A call started the parser; its phase gives the number of the run. -/
  | started (call : Call)
  /-- The run of a call returned, and its outcome went into the slot. -/
  | filled (call : Call) (outcome : Outcome)
  /-- The run of a call crashed. -/
  | crashed (call : Call)
  /-- A call that had waited took the outcome in its slot. -/
  | taken (call : Call) (outcome : Outcome)
  /-- A call took its failed slot out. -/
  | discarded (call : Call)
  /-- The cache was cleared. -/
  | cleared

deriving instance DecidableEq for Outcome, Answer, Event

/-- The call that makes a step, as it makes it. -/
def Event.call? : Event → Option Call
  | obtained call _ => some call
  | hit call => some call
  | missed call => some call
  | started call => some call
  | filled call _ => some call
  | crashed call => some call
  | taken call _ => some call
  | discarded call => some call
  | cleared => none

/-- What kind of step an event is. -/
inductive Kind where
  | obtained | hit | missed | started | filled | crashed | taken | discarded | cleared
deriving DecidableEq

/-- The kind of an event. -/
def Event.kind : Event → Kind
  | obtained .. => .obtained
  | hit _ => .hit
  | missed _ => .missed
  | started _ => .started
  | filled .. => .filled
  | crashed _ => .crashed
  | taken .. => .taken
  | discarded _ => .discarded
  | cleared => .cleared

namespace Shared

/-- What a step comes to. -/
def event? (s : Shared) : Step → Option Event
  | .obtain id key =>
    some (.obtained ⟨id, key, s.cache.slotFor key, .obtained⟩ (s.cache.victim? key))
  | .look id =>
    (s.call? id).map fun call =>
      match s.cache.outcomeIn? call.slot with
      | some ⟨_, .ok _⟩ => .hit call
      | _ => .missed call
  | .start id =>
    (s.call? id).map fun call => .started { call with phase := .parsing s.cache.parses }
  | .finish id run =>
    (s.call? id).map fun call =>
      match call.phase, run.settle s.cache.limit with
      | .parsing number, .returned result => .filled call ⟨number, result⟩
      | _, _ => .crashed call
  | .take id => do
    let call ← s.call? id
    let o ← s.cache.outcomeIn? call.slot
    return .taken call o
  | .discard id => (s.call? id).map .discarded
  | .clear => some .cleared

/-- The events of some steps in a row. -/
def history (s : Shared) : List Step → List Event
  | [] => []
  | a :: as =>
    match s.step? a with
    | some t => (s.event? a).toList ++ history t as
    | none => []

/-- A cache that nobody has used yet. -/
def unused (capacity : Nat) (h : 0 < capacity) (limit : Option Duration) : Shared where
  cache := { capacity, capacity_pos := h, limit }

/-- The moves of a cache in use: when each event may happen, and the state behind it. -/
inductive Move (s : Shared) : Event → Shared → Prop where
  | obtain {id : CallId} {key : String} (hnew : s.call? id = none) :
      Move s (.obtained ⟨id, key, s.cache.slotFor key, .obtained⟩ (s.cache.victim? key))
        { s with
          cache := (s.cache.obtain key).1
          calls := ⟨id, key, s.cache.slotFor key, .obtained⟩ :: s.calls }
  | hit {call : Call} {o : Outcome} {d : Descriptor} (hcall : s.call? call.id = some call)
      (hphase : call.phase = .obtained) (hslot : s.cache.outcomeIn? call.slot = some o)
      (hok : o.result = .ok d) :
      Move s (.hit call) (s.answer call s.cache.countHit (.returned o))
  | miss {call : Call} (hcall : s.call? call.id = some call) (hphase : call.phase = .obtained)
      (hslot : ∀ o d, s.cache.outcomeIn? call.slot = some o → o.result ≠ .ok d) :
      Move s (.missed call)
        { s with
          cache := s.cache.countMiss
          calls := s.update { call with phase := .waiting } }
  | start {call : Call} (hcall : s.call? call.id = some call) (hphase : call.phase = .waiting)
      (hslot : s.cache.outcomeIn? call.slot = none) (hfree : s.isBusy call.slot = false) :
      Move s (.started { call with phase := .parsing s.cache.parses })
        { s with
          cache := s.cache.startRun.1
          calls := s.update { call with phase := .parsing s.cache.parses } }
  | fill {call : Call} {o : Outcome} {r : ParserRun} (hcall : s.call? call.id = some call)
      (hphase : call.phase = .parsing o.run)
      (hrun : r.settle s.cache.limit = .returned o.result) :
      Move s (.filled call o) (s.receive call (s.cache.fill call.slot o) o)
  | crash {call : Call} {number : Nat} {r : ParserRun} (hcall : s.call? call.id = some call)
      (hphase : call.phase = .parsing number) (hrun : r.settle s.cache.limit = .crashed) :
      Move s (.crashed call) (s.answer call s.cache .crashed)
  | take {call : Call} {o : Outcome} (hcall : s.call? call.id = some call)
      (hphase : call.phase = .waiting) (hslot : s.cache.outcomeIn? call.slot = some o) :
      Move s (.taken call o) (s.receive call s.cache o)
  | discard {call : Call} {number : Nat} {e : ParseError} (hcall : s.call? call.id = some call)
      (hphase : call.phase = .owesDiscard number e) :
      Move s (.discarded call)
        (s.answer call (s.cache.discard call.key call.slot) (.returned ⟨number, .error e⟩))
  | clear : Move s .cleared { s with cache := s.cache.clear }

variable {s t : Shared} {as : List Step}

lemma id_of_call? {id : CallId} {call : Call} (h : s.call? id = some call) : call.id = id := by
  simpa using List.find?_some h

lemma mem_of_call? {id : CallId} {call : Call} (h : s.call? id = some call) : call ∈ s.calls :=
  List.mem_of_find?_eq_some h

/-- A step is one of the moves. -/
theorem move_of_step? {a : Step} (hstep : s.step? a = some t) :
    ∃ e, s.event? a = some e ∧ Move s e t := by
  cases a with
  | obtain id key =>
    simp only [step?] at hstep
    split at hstep
    · cases hstep
    · next hid =>
      refine ⟨_, rfl, ?_⟩
      have hnew : s.call? id = none := by simpa using hid
      rw [← Option.some.inj hstep, obtain_slot]
      exact .obtain hnew
  | look id =>
    obtain ⟨call, hcall, h⟩ := Option.bind_eq_some_iff.1 hstep
    clear hstep
    obtain ⟨⟨⟩, hphase, h⟩ := Option.bind_eq_some_iff.1 h
    have hphase : call.phase = .obtained := (Option.guard_eq_some' _).1 hphase
    obtain rfl := id_of_call? hcall
    rw [← Option.some.inj h]
    rcases hslot : s.cache.outcomeIn? call.slot with _ | ⟨run, e | d⟩
    · refine ⟨.missed call, by simp only [event?, hcall, hslot, Option.map_some], ?_⟩
      simp only [look, hslot]
      exact .miss hcall hphase fun o d ho => by simp [hslot] at ho
    · refine ⟨.missed call, by simp only [event?, hcall, hslot, Option.map_some], ?_⟩
      simp only [look, hslot]
      refine .miss hcall hphase fun o d ho => ?_
      obtain rfl := Option.some.inj (hslot.symm.trans ho)
      intro heq
      cases heq
    · refine ⟨.hit call, by simp only [event?, hcall, hslot, Option.map_some], ?_⟩
      simp only [look, hslot]
      exact .hit hcall hphase hslot rfl
  | start id =>
    obtain ⟨call, hcall, h⟩ := Option.bind_eq_some_iff.1 hstep
    clear hstep
    obtain ⟨⟨⟩, hphase, h⟩ := Option.bind_eq_some_iff.1 h
    obtain ⟨⟨⟩, hfree, h⟩ := Option.bind_eq_some_iff.1 h
    have hphase : call.phase = .waiting := (Option.guard_eq_some' _).1 hphase
    have hfree := (Option.guard_eq_some' _).1 hfree
    rw [Bool.and_eq_true, Option.isNone_iff_eq_none, Bool.not_eq_true'] at hfree
    obtain rfl := id_of_call? hcall
    rw [← Option.some.inj h]
    exact ⟨_, congrArg (Option.map _) hcall, .start hcall hphase hfree.1 hfree.2⟩
  | finish id run =>
    obtain ⟨call, hcall, h⟩ := Option.bind_eq_some_iff.1 hstep
    clear hstep
    obtain rfl := id_of_call? hcall
    split at h
    · next number hphase =>
      rw [← Option.some.inj h]
      simp only [event?, hcall, Option.map_some, hphase, finish]
      cases hrun : run.settle s.cache.limit with
      | returned result => exact ⟨_, rfl, .fill hcall hphase hrun⟩
      | crashed => exact ⟨_, rfl, .crash hcall hphase hrun⟩
    · cases h
  | take id =>
    obtain ⟨call, hcall, h⟩ := Option.bind_eq_some_iff.1 hstep
    clear hstep
    obtain ⟨⟨⟩, hphase, h⟩ := Option.bind_eq_some_iff.1 h
    obtain ⟨o, hslot, h⟩ := Option.bind_eq_some_iff.1 h
    have hphase : call.phase = .waiting := (Option.guard_eq_some' _).1 hphase
    obtain rfl := id_of_call? hcall
    rw [← Option.some.inj h]
    refine ⟨.taken call o, ?_, .take hcall hphase hslot⟩
    simp only [event?, hcall, hslot, Option.bind_eq_bind, Option.bind_some, Option.pure_def]
  | discard id =>
    obtain ⟨call, hcall, h⟩ := Option.bind_eq_some_iff.1 hstep
    clear hstep
    obtain rfl := id_of_call? hcall
    split at h
    · next number e hphase =>
      rw [← Option.some.inj h]
      exact ⟨_, congrArg (Option.map _) hcall, .discard hcall hphase⟩
    · cases h
  | clear =>
    rw [← Option.some.inj hstep]
    exact ⟨_, rfl, .clear⟩

/-! ## Runs -/

lemma run?_append (as bs : List Step) :
    s.run? (as ++ bs) = (s.run? as).bind fun t => t.run? bs :=
  List.foldlM_append

lemma history_append (h : s.run? as = some t) (bs : List Step) :
    s.history (as ++ bs) = s.history as ++ t.history bs := by
  induction as generalizing s with
  | nil =>
    rw [← Option.some.inj h]
    rfl
  | cons a as ih =>
    obtain ⟨r, hr, h⟩ := Option.bind_eq_some_iff.1 h
    simp only [List.cons_append, history, hr, ih h, List.append_assoc]

/-- The event of a step is in the history of every run that makes the step. -/
lemma mem_history {pre : List Step} {a : Step} {u : Shared} {e : Event} (hs : s.run? pre = some t)
    (hstep : t.step? a = some u) (he : t.event? a = some e) (post : List Step) :
    e ∈ s.history (pre ++ a :: post) := by
  have htail : t.history (a :: post) = e :: u.history post := by simp [history, hstep, he]
  rw [history_append hs, htail]
  exact List.mem_append_right _ List.mem_cons_self

/-- What holds at the start, and is carried over by every move together with its event, holds
after every run together with its history. -/
theorem run_induction {P : List Event → Shared → Prop} (hnil : P [] s)
    (hmove : ∀ h t e u, P h t → Move t e u → P (h ++ [e]) u) {as : List Step}
    (h : s.run? as = some t) : P (s.history as) t := by
  induction as using List.reverseRecOn generalizing t with
  | nil =>
    rw [← Option.some.inj h]
    exact hnil
  | append_singleton as a ih =>
    rw [run?_append] at h
    obtain ⟨r, hr, h⟩ := Option.bind_eq_some_iff.1 h
    obtain ⟨t', hstep, h⟩ := Option.bind_eq_some_iff.1 h
    obtain rfl := Option.some.inj h
    obtain ⟨e, he, hm⟩ := move_of_step? hstep
    have hone : r.history [a] = [e] := by simp [history, hstep, he]
    rw [history_append hr, hone]
    exact hmove _ _ _ _ (ih hr) hm

end Shared

end Cache

end ClientCounters
