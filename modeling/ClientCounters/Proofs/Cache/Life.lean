/-
# The life of a call

A call goes through its phases in one direction, from the slot it obtains to its answer.  `Advances`
says which steps there are, and `Move.advances` finds one of them, with the call that makes it, in
every move but a clearing.  What a call is about never changes on its way, so that every call can be
traced back to the event with which it obtained its slot (`traced_of_run?`).
-/
import ClientCounters.Proofs.Cache.Coherent

namespace ClientCounters

namespace Cache

/-- The life of a call, step by step.  There is no phase before the first step of a call and none
after its last. -/
inductive Advances : Option Phase → Kind → Option Phase → Prop where
  | obtained : Advances none .obtained (some .obtained)
  | hit : Advances (some .obtained) .hit none
  | missed : Advances (some .obtained) .missed (some .waiting)
  | started (number : Nat) : Advances (some .waiting) .started (some (.parsing number))
  | filled (number : Nat) : Advances (some (.parsing number)) .filled none
  | filledError (number run : Nat) (e : ParseError) :
    Advances (some (.parsing number)) .filled (some (.owesDiscard run e))
  | crashed (number : Nat) : Advances (some (.parsing number)) .crashed none
  | taken : Advances (some .waiting) .taken none
  | takenError (run : Nat) (e : ParseError) :
    Advances (some .waiting) .taken (some (.owesDiscard run e))
  | discarded (run : Nat) (e : ParseError) : Advances (some (.owesDiscard run e)) .discarded none

/-- A call in some phase, if it is in one. -/
def Call.inPhase (call : Call) (phase : Option Phase) : List Call :=
  (phase.map fun phase => { call with phase }).toList

namespace Shared

variable {s t : Shared} {h : List Event} {e : Event} {call : Call} {as : List Step}

/-- An event advances one call: the call is in another phase behind it, or has ended and is among
the answers, and nothing happens to the other calls. -/
structure Advanced (s : Shared) (e : Event) (t : Shared) (call : Call) (prior next : Option Phase) :
    Prop where
  advances : Advances prior e.kind next
  /-- The event shows the call in one of the two phases. -/
  call?_eq : ∃ phase, (prior = some phase ∨ next = some phase) ∧
    e.call? = some { call with phase }
  calls : ∃ rest, s.calls.Perm (call.inPhase prior ++ rest) ∧
    t.calls.Perm (call.inPhase next ++ rest)
  /-- Only a crash of its own run is a crash for the call. -/
  answers : next ≠ none ∧ t.answers = s.answers ∨
    ∃ phase a, prior = some phase ∧ next = none ∧
      t.answers = ({ call with phase }, a) :: s.answers ∧ (a = .crashed ↔ e.kind = .crashed)

lemma advanced_answer (hs : s.Coherent) (hcall : call ∈ s.calls) (he : e.call? = some call)
    (c : Cache) (a : Answer) (hkind : Advances (some call.phase) e.kind none)
    (ha : a = .crashed ↔ e.kind = .crashed) :
    Advanced s e (s.answer call c a) call (some call.phase) none where
  advances := hkind
  call?_eq := ⟨call.phase, .inl rfl, he⟩
  calls := ⟨s.others call.id, perm_others hs.nodup hcall, List.Perm.refl _⟩
  answers := .inr ⟨call.phase, a, rfl, rfl, rfl, ha⟩

lemma advanced_update (hs : s.Coherent) (hcall : call ∈ s.calls) (c : Cache) {phase : Phase}
    (hkind : Advances (some call.phase) e.kind (some phase))
    (he : e.call? = some call ∨ e.call? = some { call with phase }) :
    Advanced s e { s with cache := c, calls := s.update { call with phase } } call
      (some call.phase) (some phase) where
  advances := hkind
  call?_eq := by
    rcases he with he | he
    · exact ⟨call.phase, .inl rfl, he⟩
    · exact ⟨phase, .inr rfl, he⟩
  calls := by
    have hperm : (s.update { call with phase }).Perm ({ call with phase } :: s.others call.id) :=
      perm_update hs.nodup hcall rfl
    exact ⟨s.others call.id, perm_others hs.nodup hcall, hperm⟩
  answers := .inl ⟨nofun, rfl⟩

lemma advanced_receive (hs : s.Coherent) (hcall : call ∈ s.calls) (he : e.call? = some call)
    (c : Cache) (o : Outcome) (hkind : Advances (some call.phase) e.kind none)
    (herror : ∀ error, Advances (some call.phase) e.kind (some (.owesDiscard o.run error)))
    (hcrash : e.kind ≠ .crashed) :
    ∃ next, Advanced s e (s.receive call c o) call (some call.phase) next := by
  rw [receive]
  split
  · have hanswer : Answer.returned o = .crashed ↔ e.kind = .crashed :=
      ⟨fun heq => Answer.noConfusion heq, fun heq => absurd heq hcrash⟩
    exact ⟨_, advanced_answer hs hcall he c _ hkind hanswer⟩
  · next error _ => exact ⟨_, advanced_update hs hcall c (herror error) (.inl he)⟩

/-- Every move but a clearing is a step in the life of one call. -/
theorem Move.advances (hs : s.Coherent) (hm : Move s e t) (he : e ≠ .cleared) :
    ∃ call prior next, Advanced s e t call prior next := by
  cases hm with
  | @obtain id key hnew =>
    refine ⟨⟨id, key, s.cache.slotFor key, .obtained⟩, none, some .obtained, .obtained, ?_, ?_, ?_⟩
    · exact ⟨.obtained, .inr rfl, rfl⟩
    · exact ⟨s.calls, .refl _, .refl _⟩
    · exact .inl ⟨nofun, rfl⟩
  | @hit call o d hcall hphase hslot hok =>
    have hkind : Advances (some call.phase) .hit none := hphase ▸ .hit
    exact ⟨_, _, _, advanced_answer hs (mem_of_call? hcall) rfl _ _ hkind ⟨nofun, nofun⟩⟩
  | @miss call hcall hphase hslot =>
    have hkind : Advances (some call.phase) .missed (some .waiting) := hphase ▸ .missed
    exact ⟨_, _, _, advanced_update hs (mem_of_call? hcall) _ hkind (.inl rfl)⟩
  | @start call hcall hphase hslot hfree =>
    have hkind : Advances (some call.phase) .started (some (.parsing s.cache.parses)) :=
      hphase ▸ .started _
    exact ⟨_, _, _, advanced_update hs (mem_of_call? hcall) _ hkind (.inr rfl)⟩
  | @fill call o r hcall hphase hrun =>
    have hkind : Advances (some call.phase) .filled none := hphase ▸ .filled _
    have herror error : Advances (some call.phase) .filled (some (.owesDiscard o.run error)) :=
      hphase ▸ .filledError _ _ _
    exact ⟨_, _, advanced_receive hs (mem_of_call? hcall) rfl _ _ hkind herror nofun⟩
  | @crash call number r hcall hphase hrun =>
    have hkind : Advances (some call.phase) .crashed none := hphase ▸ .crashed _
    exact ⟨_, _, _, advanced_answer hs (mem_of_call? hcall) rfl _ _ hkind
      ⟨fun _ => rfl, fun _ => rfl⟩⟩
  | @take call o hcall hphase hslot =>
    have hkind : Advances (some call.phase) .taken none := hphase ▸ .taken
    have herror error : Advances (some call.phase) .taken (some (.owesDiscard o.run error)) :=
      hphase ▸ .takenError _ _
    exact ⟨_, _, advanced_receive hs (mem_of_call? hcall) rfl _ _ hkind herror nofun⟩
  | @discard call number error hcall hphase =>
    have hkind : Advances (some call.phase) .discarded none := hphase ▸ .discarded _ _
    exact ⟨_, _, _, advanced_answer hs (mem_of_call? hcall) rfl _ _ hkind ⟨nofun, nofun⟩⟩
  | clear => exact absurd rfl he

/-! ## Where a call comes from -/

/-- The history tells of the step with which a call obtained its slot. -/
def Opened (h : List Event) (call : Call) : Prop :=
  ∃ victim, .obtained { call with phase := .obtained } victim ∈ h

/-- All calls, under way and ended, are told of in the history, and so are the crashes. -/
structure Traced (h : List Event) (s : Shared) : Prop where
  calls : ∀ call ∈ s.calls, Opened h call
  answers : ∀ answer ∈ s.answers, Opened h answer.1
  crashes : ∀ call, (call, .crashed) ∈ s.answers → .crashed call ∈ h

lemma Opened.append (hcall : Opened h call) (h' : List Event) : Opened (h ++ h') call := by
  obtain ⟨victim, hmem⟩ := hcall
  exact ⟨victim, List.mem_append_left _ hmem⟩

/-- A call that a move advances is told of behind the move. -/
lemma Traced.opened (ht : Traced h s) {prior next : Option Phase}
    (hadv : Advanced s e t call prior next) : Opened (h ++ [e]) call := by
  obtain ⟨rest, hprior, -⟩ := hadv.calls
  cases prior with
  | some phase =>
    have hmem : { call with phase } ∈ s.calls := hprior.mem_iff.2 List.mem_cons_self
    exact (ht.calls _ hmem).append _
  | none =>
    -- the call makes its first step
    obtain ⟨phase, hphase, he⟩ := hadv.call?_eq
    have hkind := hadv.advances
    generalize hk : e.kind = kind at hkind
    cases hkind
    obtain rfl : Phase.obtained = phase := by simpa using hphase
    cases e with
    | obtained opener victim =>
      obtain rfl := Option.some.inj he
      exact ⟨victim, List.mem_append_right _ (List.mem_singleton_self _)⟩
    | _ => cases hk

lemma Traced.move (ht : Traced h s) (hs : s.Coherent) (hm : Move s e t) :
    Traced (h ++ [e]) t := by
  by_cases hcleared : e = .cleared
  · subst hcleared
    cases hm
    exact ⟨fun call hcall => (ht.calls call hcall).append _,
      fun answer hanswer => (ht.answers answer hanswer).append _,
      fun call hanswer => List.mem_append_left _ (ht.crashes call hanswer)⟩
  · obtain ⟨call, prior, next, hadv⟩ := hm.advances hs hcleared
    have hopened := ht.opened hadv
    obtain ⟨rest, hprior, hnext⟩ := hadv.calls
    constructor
    · intro other hother
      rw [hnext.mem_iff, List.mem_append] at hother
      rcases hother with hother | hother
      · obtain ⟨phase, -, rfl⟩ := by simpa [Call.inPhase] using hother
        exact hopened
      · have hmem : other ∈ s.calls := hprior.mem_iff.2 (List.mem_append_right _ hother)
        exact (ht.calls other hmem).append _
    · intro answer hanswer
      rcases hadv.answers with ⟨-, hsame⟩ | ⟨phase, a, -, -, hnew, -⟩
      · exact (ht.answers answer (hsame ▸ hanswer)).append _
      · rw [hnew, List.mem_cons] at hanswer
        rcases hanswer with rfl | hold
        · exact hopened
        · exact (ht.answers answer hold).append _
    · intro other hanswer
      rcases hadv.answers with ⟨-, hsame⟩ | ⟨phase, a, rfl, rfl, hnew, ha⟩
      · exact List.mem_append_left _ (ht.crashes other (hsame ▸ hanswer))
      · rw [hnew, List.mem_cons] at hanswer
        rcases hanswer with heq | hold
        · -- the call has crashed with this very event, which shows it in the same phase
          obtain ⟨rfl, rfl⟩ := Prod.mk.inj heq
          obtain ⟨phase', hphase, he⟩ := hadv.call?_eq
          obtain rfl : phase = phase' := by simpa using hphase
          have hkind := ha.1 rfl
          cases e with
          | crashed runner =>
            obtain rfl := Option.some.inj he
            exact List.mem_append_right _ (List.mem_singleton_self _)
          | _ => cases hkind
        · exact List.mem_append_left _ (ht.crashes other hold)

lemma traced_unused {capacity : Nat} (hpos : 0 < capacity) (limit : Option Duration) :
    Traced [] (unused capacity hpos limit) where
  calls _ hcall := absurd hcall List.not_mem_nil
  answers _ hanswer := absurd hanswer List.not_mem_nil
  crashes _ hanswer := absurd hanswer List.not_mem_nil

/-- Every call of a run obtained its slot in it. -/
theorem traced_of_run? {capacity : Nat} {hpos : 0 < capacity} {limit : Option Duration}
    (hrun : (unused capacity hpos limit).run? as = some s) :
    Traced ((unused capacity hpos limit).history as) s :=
  (coherent_unused hpos limit).run_induction (traced_unused hpos limit)
    (fun _ _ _ _ ht hs hm => ht.move hs hm) hrun

end Shared

end Cache

end ClientCounters
