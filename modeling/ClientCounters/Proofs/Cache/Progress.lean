/-
# Calls can go on

No call is held up for good by what becomes of the registrations.  A run of the parser can end
whether or not its slot is still registered, and its outcome goes into the slot (`step_of_return`).
Once there is an outcome in a slot, every call that holds the slot can come to an end by steps of
its own caller alone, with this outcome as its answer (`Coherent.canReturn`).
-/
import ClientCounters.Proofs.Cache.Coherent

namespace ClientCounters

namespace Cache

/-- The caller that makes a step. -/
def Step.caller? : Step → Option CallId
  | obtain id _ => some id
  | look id => some id
  | start id => some id
  | finish id _ => some id
  | take id => some id
  | discard id => some id
  | clear => none

namespace Shared

variable {s t u : Shared} {c : Cache} {call other : Call} {o : Outcome} {a : Step}

/-- A call can be brought to an end by steps of its own caller, and has this outcome as its answer
then.  No step is needed if it has ended so already. -/
def CanReturn (s : Shared) (call : Call) (o : Outcome) : Prop :=
  ∃ as t phase, (∀ a ∈ as, a.caller? = some call.id) ∧ s.run? as = some t ∧
    ({ call with phase }, .returned o) ∈ t.answers

lemma CanReturn.of_answer {phase : Phase} (h : ({ call with phase }, .returned o) ∈ s.answers) :
    s.CanReturn call o :=
  ⟨[], s, phase, by simp, rfl, h⟩

/-- A step of the caller may come first, which leaves the call in some other phase. -/
lemma CanReturn.of_step {phase : Phase} (hstep : s.step? a = some t)
    (hcaller : a.caller? = some call.id) (h : t.CanReturn { call with phase } o) :
    s.CanReturn call o := by
  obtain ⟨as, u, last, hall, hrun, hanswer⟩ := h
  refine ⟨a :: as, u, last, ?_, ?_, hanswer⟩
  · intro b hb
    rcases List.mem_cons.1 hb with rfl | hb
    · exact hcaller
    · exact hall b hb
  · show (s.step? a).bind (fun t => t.run? as) = some u
    rw [hstep, Option.bind_some, hrun]

/-- Every step keeps a state coherent. -/
lemma Coherent.step (hs : s.Coherent) (hstep : s.step? a = some t) : t.Coherent := by
  obtain ⟨e, -, hm⟩ := move_of_step? hstep
  exact hs.move hm

/-! ## The last steps of a call -/

/-- A call that has an error returns it once it has taken its slot out. -/
lemma Coherent.canReturn_of_owesDiscard (hs : s.Coherent) (hcall : call ∈ s.calls) {number : Nat}
    {error : ParseError} (hphase : call.phase = .owesDiscard number error) :
    s.CanReturn call ⟨number, .error error⟩ := by
  have hfound : s.call? call.id = some call := (call?_eq_some_iff hs.nodup).2 hcall
  have hstep : s.step? (.discard call.id) = some (s.answer call
      (s.cache.discard call.key call.slot) (.returned ⟨number, .error error⟩)) := by
    simp [step?, hfound, hphase]
  exact .of_step hstep rfl (.of_answer List.mem_cons_self)

/-- A call that takes an outcome can return it. -/
lemma Coherent.canReturn_of_receive (hs : s.Coherent) (hcall : call ∈ s.calls)
    (hstep : s.step? a = some (s.receive call c o)) (hcaller : a.caller? = some call.id) :
    s.CanReturn call o := by
  have ht : (s.receive call c o).Coherent := hs.step hstep
  rcases o with ⟨number, error | d⟩
  · have hmem := mem_receive_of_error (c := c) hcall (o := ⟨number, .error error⟩) rfl
    exact .of_step hstep hcaller (ht.canReturn_of_owesDiscard hmem rfl)
  · exact .of_step hstep hcaller (.of_answer List.mem_cons_self)

/-- A call that waits takes the outcome in its slot. -/
lemma Coherent.canReturn_of_waiting (hs : s.Coherent) (hcall : call ∈ s.calls)
    (hphase : call.phase = .waiting) (ho : s.cache.outcomeIn? call.slot = some o) :
    s.CanReturn call o := by
  have hfound : s.call? call.id = some call := (call?_eq_some_iff hs.nodup).2 hcall
  have hstep : s.step? (.take call.id) = some (s.receive call s.cache o) := by
    simp [step?, hfound, hphase, ho, guard]
  exact hs.canReturn_of_receive hcall hstep rfl

/-- A call that has still to look finds a descriptor, or it finds an error and waits. -/
lemma Coherent.canReturn_of_obtained (hs : s.Coherent) (hcall : call ∈ s.calls)
    (hphase : call.phase = .obtained) (ho : s.cache.outcomeIn? call.slot = some o) :
    s.CanReturn call o := by
  have hfound : s.call? call.id = some call := (call?_eq_some_iff hs.nodup).2 hcall
  have hstep : s.step? (.look call.id) = some (s.look call) := by
    simp [step?, hfound, hphase, guard]
  have ht : (s.look call).Coherent := hs.step hstep
  rcases o with ⟨number, error | d⟩
  · have hlook : s.look call = { s with
        cache := s.cache.countMiss
        calls := s.update { call with phase := .waiting } } := by
      rw [look, ho]
    rw [hlook] at hstep ht
    have hmem : { call with phase := .waiting } ∈ s.update { call with phase := .waiting } :=
      mem_update_self hcall rfl
    exact .of_step hstep rfl (ht.canReturn_of_waiting hmem rfl ho)
  · have hlook : s.look call =
        s.answer call s.cache.countHit (.returned ⟨number, .ok d⟩) := by
      rw [look, ho]
    rw [hlook] at hstep
    exact .of_step hstep rfl (.of_answer List.mem_cons_self)

/-- Every call whose slot holds an outcome can return it, whether its slot is registered or not. -/
theorem Coherent.canReturn (hs : s.Coherent) (hcall : call ∈ s.calls)
    (ho : s.cache.outcomeIn? call.slot = some o) : s.CanReturn call o := by
  have hfits := hs.fits call hcall
  cases hphase : call.phase with
  | obtained => exact hs.canReturn_of_obtained hcall hphase ho
  | waiting => exact hs.canReturn_of_waiting hcall hphase ho
  | parsing number =>
    -- a slot that is being filled holds nothing yet
    have hempty := hfits.isEmpty (isParsing_iff.2 ⟨number, hphase⟩)
    rw [hempty] at ho
    cases ho
  | owesDiscard number error =>
    have hslot := hfits.holds number error hphase
    obtain rfl := Option.some.inj (hslot.symm.trans ho)
    exact hs.canReturn_of_owesDiscard hcall hphase

/-- A run of the parser can end at any time.  What it returns goes into its slot, the registrations
stay as they are, and all calls that hold the slot can return it. -/
theorem Coherent.step_of_return (hs : s.Coherent) {id : CallId} {number : Nat} {r : ParserRun}
    {result : Except ParseError Descriptor} (hcall : s.call? id = some call)
    (hphase : call.phase = .parsing number) (hrun : r.settle s.cache.limit = .returned result) :
    ∃ t, s.step? (.finish id r) = some t ∧
      t.cache.outcomeIn? call.slot = some ⟨number, result⟩ ∧
      t.cache.resident = s.cache.resident ∧
      ∀ other ∈ s.calls, other.slot = call.slot → t.CanReturn other ⟨number, result⟩ := by
  have hmem := mem_of_call? hcall
  have hfits := hs.fits call hmem
  have hslot : (s.cache.fill call.slot ⟨number, result⟩).outcomeIn? call.slot =
      some ⟨number, result⟩ := by
    have hempty := hfits.isEmpty (isParsing_iff.2 ⟨number, hphase⟩)
    rw [outcomeIn?_fill (lt_size_of_keyOf? hfits.keyOf?_eq), if_pos rfl, hempty, Option.none_or]
  have hstep : s.step? (.finish id r) =
      some (s.receive call (s.cache.fill call.slot ⟨number, result⟩) ⟨number, result⟩) := by
    simp [step?, hcall, hphase, finish, hrun]
  refine ⟨_, hstep, ?_, ?_, ?_⟩
  · rw [cache_receive, hslot]
  · rw [cache_receive]
    rfl
  · intro other hother hsame
    have ht := hs.step hstep
    have hfilled : (s.receive call (s.cache.fill call.slot ⟨number, result⟩)
        ⟨number, result⟩).cache.outcomeIn? other.slot = some ⟨number, result⟩ := by
      rw [cache_receive, hsame, hslot]
    by_cases hid : other.id = call.id
    · obtain rfl : other = call := List.inj_on_of_nodup_map hs.nodup hother hmem hid
      rcases result with error | d
      · -- the call that made the run has still to take its slot out
        exact ht.canReturn_of_owesDiscard (mem_receive_of_error hmem rfl) rfl
      · exact .of_answer List.mem_cons_self
    · exact ht.canReturn (mem_receive_of_ne hother hid) hfilled

end Shared

end Cache

end ClientCounters
