/-
# Look-ups that nest

A parser may use the cache while it runs, and its look-ups then lie inside the look-up that runs it.
When look-ups overlap in no other way the calls under way form a stack, of which only the innermost
call makes steps, and all calls but the innermost run the parser (`Stacked`).  Nobody is there to
fill the slot of a call while it waits, so every call that has to wait runs the parser itself, and
the cache counts as many runs as misses.
-/
import ClientCounters.Proofs.Cache.Failures

namespace ClientCounters

namespace Cache

namespace Shared

variable {s t : Shared} {h : List Event} {e : Event} {call : Call} {a : Step} {as : List Step}

/-- A step is made in turn: by the innermost call under way, or by a new call when no call is under
way or the innermost one runs the parser.  The cache may be cleared at any time. -/
def InTurn (s : Shared) : Step → Prop
  | .obtain _ _ => ∀ top ∈ s.calls.head?, top.phase.isParsing
  | a => ∀ id ∈ a.caller?, s.calls.head?.map Call.id = some id

instance : (a : Step) → Decidable (s.InTurn a)
  | .obtain _ _ => inferInstanceAs (Decidable (∀ top ∈ s.calls.head?, top.phase.isParsing))
  | .look _ | .start _ | .finish _ _ | .take _ | .discard _ | .clear =>
    inferInstanceAs (Decidable (∀ _ ∈ _, _ = _))

/-- All steps of a run are made in turn, so that calls overlap only by nesting: a call inside a run
of the parser, which goes on when the call has ended. -/
def Nested (s : Shared) : List Step → Prop
  | [] => True
  | a :: as => s.InTurn a ∧ ∀ t ∈ s.step? a, Nested t as

instance decidableNested : (s : Shared) → (as : List Step) → Decidable (s.Nested as)
  | _, [] => .isTrue trivial
  | s, a :: as =>
    have := fun t => decidableNested t as
    inferInstanceAs (Decidable (s.InTurn a ∧ ∀ t ∈ s.step? a, Nested t as))

lemma nested_concat : s.Nested (as ++ [a]) ↔ s.Nested as ∧ ∀ t ∈ s.run? as, t.InTurn a := by
  induction as generalizing s with
  | nil => simp [Nested, run?]
  | cons b as ih =>
    simp only [List.cons_append, Nested, ih, run?, List.foldlM_cons, Option.bind_eq_bind,
      Option.mem_def, Option.bind_eq_some_iff]
    constructor
    · rintro ⟨hturn, hall⟩
      exact ⟨⟨hturn, fun t ht => (hall t ht).1⟩, fun u ⟨t, ht, hu⟩ => (hall t ht).2 u hu⟩
    · rintro ⟨⟨hturn, hnested⟩, hall⟩
      exact ⟨hturn, fun t ht => ⟨hnested t ht, fun u hu => hall u ⟨t, ht, hu⟩⟩⟩

/-- A call has nothing to take from its slot but a descriptor that was there when it came. -/
structure Unserved (call : Call) (c : Cache) : Prop where
  noError : call.phase = .obtained → ∀ run error, c.outcomeIn? call.slot ≠ some ⟨run, .error error⟩
  empty : call.phase = .waiting → c.outcomeIn? call.slot = none

/-- The calls under way form a stack. -/
structure Stacked (s : Shared) : Prop where
  outer : ∀ call ∈ s.calls.tail, call.phase.isParsing
  unserved : ∀ call ∈ s.calls, Unserved call s.cache

lemma Unserved.of_isParsing {c : Cache} (hphase : call.phase.isParsing) : Unserved call c where
  noError h := by
    rw [h] at hphase
    cases hphase
  empty h := by
    rw [h] at hphase
    cases hphase

/-! ## The innermost call -/

/-- The call that makes a step bears the number that the step is made under. -/
lemma caller?_of_mover? (he : s.event? a = some e) (hmover : e.mover? = some call) :
    a.caller? = some call.id := by
  cases a with
  | obtain id key =>
    obtain rfl := Option.some.inj he
    cases hmover
  | look id =>
    obtain ⟨mover, hfound, rfl⟩ := Option.map_eq_some_iff.1 he
    split at hmover <;> obtain rfl := Option.some.inj hmover <;>
      exact congrArg some (id_of_call? hfound).symm
  | start id =>
    obtain ⟨mover, hfound, rfl⟩ := Option.map_eq_some_iff.1 he
    obtain rfl := Option.some.inj hmover
    exact congrArg some (id_of_call? hfound).symm
  | finish id run =>
    obtain ⟨mover, hfound, rfl⟩ := Option.map_eq_some_iff.1 he
    split at hmover <;> obtain rfl := Option.some.inj hmover <;>
      exact congrArg some (id_of_call? hfound).symm
  | take id =>
    obtain ⟨mover, hfound, he⟩ := Option.bind_eq_some_iff.1 he
    obtain ⟨o, -, he⟩ := Option.bind_eq_some_iff.1 he
    obtain rfl := Option.some.inj he
    obtain rfl := Option.some.inj hmover
    exact congrArg some (id_of_call? hfound).symm
  | discard id =>
    obtain ⟨mover, hfound, rfl⟩ := Option.map_eq_some_iff.1 he
    obtain rfl := Option.some.inj hmover
    exact congrArg some (id_of_call? hfound).symm
  | clear =>
    obtain rfl := Option.some.inj he
    cases hmover

/-- The call that makes a step is under way before it. -/
lemma Move.mover_mem (hm : Move s e t) (hmover : e.mover? = some call) : call ∈ s.calls := by
  cases hm with
  | obtain _ => cases hmover
  | @start mover hfound hphase _ _ =>
    obtain rfl := Option.some.inj hmover
    show { mover with phase := Phase.waiting } ∈ s.calls
    rw [← hphase]
    exact mem_of_call? hfound
  | clear => cases hmover
  | hit hfound _ _ _ => exact Option.some.inj hmover ▸ mem_of_call? hfound
  | miss hfound _ _ => exact Option.some.inj hmover ▸ mem_of_call? hfound
  | fill hfound _ _ => exact Option.some.inj hmover ▸ mem_of_call? hfound
  | crash hfound _ _ => exact Option.some.inj hmover ▸ mem_of_call? hfound
  | take hfound _ _ => exact Option.some.inj hmover ▸ mem_of_call? hfound
  | discard hfound _ => exact Option.some.inj hmover ▸ mem_of_call? hfound

/-- A call that makes a step in turn is the innermost one. -/
lemma Coherent.calls_eq (hs : s.Coherent) (hm : Move s e t) (he : s.event? a = some e)
    (hturn : s.InTurn a) (hmover : e.mover? = some call) : s.calls = call :: s.calls.tail := by
  have hcaller := caller?_of_mover? he hmover
  have hid : s.calls.head?.map Call.id = some call.id := by
    cases a with
    | obtain id key =>
      obtain rfl := Option.some.inj he
      cases hmover
    | _ => exact hturn _ hcaller
  have hmem := hm.mover_mem hmover
  cases hcalls : s.calls with
  | nil =>
    rw [hcalls] at hmem
    cases hmem
  | cons top rest =>
    have htop : top ∈ s.calls := hcalls ▸ List.mem_cons_self
    rw [hcalls] at hid
    rw [List.inj_on_of_nodup_map hs.nodup htop hmem (Option.some.inj hid), List.tail_cons]

lemma others_eq_tail (hs : s.Coherent) (hcalls : s.calls = call :: s.calls.tail) :
    s.others call.id = s.calls.tail := by
  have hnodup := hs.nodup
  rw [hcalls, List.map_cons, List.nodup_cons] at hnodup
  rw [others, hcalls, List.filter_cons_of_neg (by simp), List.tail_cons, List.filter_eq_self]
  intro other hother
  have hne : other.id ≠ call.id := fun heq => hnodup.1 (heq ▸ List.mem_map_of_mem hother)
  simpa using hne

lemma update_eq_cons (hs : s.Coherent) {next : Call}
    (hcalls : s.calls = call :: s.calls.tail) (hid : next.id = call.id) :
    s.update next = next :: s.calls.tail := by
  have hnodup := hs.nodup
  rw [hcalls, List.map_cons, List.nodup_cons] at hnodup
  rw [update, hcalls, List.map_cons, if_pos hid.symm, List.tail_cons]
  congr 1
  conv_rhs => rw [← List.map_id s.calls.tail]
  refine List.map_congr_left fun other hother => if_neg ?_
  exact fun heq => hnodup.1 ((heq.trans hid) ▸ List.mem_map_of_mem hother)

/-! ## The stack -/

namespace Stacked

/-- When the innermost call ends, the call that it lies in becomes the innermost one. -/
lemma pop (h : s.Stacked) (hcalls : t.calls = s.calls.tail) : t.Stacked where
  outer other hother := h.outer other (List.mem_of_mem_tail (hcalls ▸ hother))
  unserved other hother := .of_isParsing (h.outer other (hcalls ▸ hother))

/-- The innermost call may go on to another phase. -/
lemma advance (h : s.Stacked) {next : Call} (hcalls : t.calls = next :: s.calls.tail)
    (hnext : Unserved next t.cache) : t.Stacked where
  outer other hother := by
    rw [hcalls, List.tail_cons] at hother
    exact h.outer other hother
  unserved other hother := by
    rw [hcalls] at hother
    rcases List.mem_cons.1 hother with rfl | hother
    · exact hnext
    · exact .of_isParsing (h.outer other hother)

/-- An outcome is received by the innermost call. -/
lemma receive (h : s.Stacked) (hs : s.Coherent) (hcalls : s.calls = call :: s.calls.tail)
    (c : Cache) (o : Outcome) : (s.receive call c o).Stacked := by
  rw [Shared.receive]
  split
  · exact h.pop (others_eq_tail hs hcalls)
  · refine h.advance (update_eq_cons hs hcalls rfl) ⟨fun hphase => ?_, fun hphase => ?_⟩ <;>
      cases hphase

/-- When all calls under way run the parser, no registered slot holds an error. -/
lemma noError (howed : Owed s) (hall : ∀ call ∈ s.calls, call.phase.isParsing)
    (key : String) (run : Nat) (error : ParseError) :
    s.cache.outcomeIn? (s.cache.slotFor key) ≠ some ⟨run, .error error⟩ := by
  intro herror
  cases hslot : s.cache.slotOf? key with
  | none =>
    rw [outcomeIn?_of_keyOf? (keyOf?_slotFor_of_none hslot)] at herror
    cases herror
  | some slot =>
    have hmem := mem_resident_of_slotOf? hslot
    rw [slotFor, hslot, Option.getD_some] at herror
    obtain ⟨call, hcall, -, -, hphase⟩ := howed _ hmem run error herror
    have hparsing := hall call hcall
    rw [hphase] at hparsing
    cases hparsing

/-- A move in turn keeps the stack, and no call takes the outcome of another one. -/
lemma move (h : s.Stacked) (hs : s.Coherent) (howed : Owed s) (hm : Move s e t)
    (he : s.event? a = some e) (hturn : s.InTurn a) : t.Stacked ∧ e.kind ≠ .taken := by
  have hinner {call : Call} (hmover : e.mover? = some call) :
      s.calls = call :: s.calls.tail ∧ Unserved call s.cache :=
    ⟨hs.calls_eq hm he hturn hmover, h.unserved call (hm.mover_mem hmover)⟩
  cases hm with
  | @obtain id key hnew =>
    obtain rfl := (step_of_event? he).1 _ _ rfl
    have hall : ∀ call ∈ s.calls, call.phase.isParsing := by
      intro call hcall
      cases hcalls : s.calls with
      | nil =>
        rw [hcalls] at hcall
        cases hcall
      | cons top rest =>
        rw [hcalls] at hcall
        rcases List.mem_cons.1 hcall with rfl | hrest
        · exact hturn _ (by rw [hcalls, List.head?_cons, Option.mem_some])
        · exact h.outer call (by rwa [hcalls])
    refine ⟨⟨hall, fun call hcall => ?_⟩, nofun⟩
    rcases List.mem_cons.1 hcall with rfl | hold
    · refine ⟨fun _ run error => ?_, nofun⟩
      rw [outcomeIn?_obtain]
      exact noError howed hall key run error
    · exact .of_isParsing (hall call hold)
  | hit _ _ _ _ => exact ⟨h.pop (others_eq_tail hs (hinner rfl).1), nofun⟩
  | @miss call _ hphase hslot =>
    obtain ⟨hcalls, hunserved⟩ := hinner rfl
    refine ⟨h.advance (update_eq_cons hs hcalls rfl) ⟨nofun, fun _ => ?_⟩, nofun⟩
    -- the slot holds no descriptor, and no error either
    rcases ho : s.cache.outcomeIn? call.slot with _ | ⟨run, error | d⟩
    · exact ho
    · exact absurd ho (hunserved.noError hphase run error)
    · exact absurd rfl (hslot _ d ho)
  | @start call _ hphase _ _ =>
    have hmover : some { call with phase := Phase.waiting } = some call := by rw [← hphase]
    have hcalls := (hinner hmover).1
    refine ⟨h.advance (update_eq_cons hs hcalls rfl) ?_, nofun⟩
    exact .of_isParsing rfl
  | fill _ _ _ => exact ⟨h.receive hs (hinner rfl).1 _ _, nofun⟩
  | crash _ _ _ => exact ⟨h.pop (others_eq_tail hs (hinner rfl).1), nofun⟩
  | @take call o _ hphase hslot =>
    -- nobody has filled the slot of a call that waits
    rw [(hinner rfl).2.empty hphase] at hslot
    cases hslot
  | discard _ _ => exact ⟨h.pop (others_eq_tail hs (hinner rfl).1), nofun⟩
  | clear => exact ⟨⟨h.outer, fun call hcall => ⟨(h.unserved call hcall).noError,
      (h.unserved call hcall).empty⟩⟩, nofun⟩

end Stacked

section Run

variable {capacity : Nat} {hpos : 0 < capacity} {limit : Option Duration}

/-- When calls overlap only by nesting, none takes the outcome of another one. -/
theorem stacked_of_run? (hrun : (unused capacity hpos limit).run? as = some s)
    (hnested : (unused capacity hpos limit).Nested as) :
    s.Stacked ∧ total .taken ((unused capacity hpos limit).history as) = 0 := by
  induction as using List.reverseRecOn generalizing s with
  | nil =>
    obtain rfl := Option.some.inj hrun
    exact ⟨⟨fun _ h => absurd h List.not_mem_nil, fun _ h => absurd h List.not_mem_nil⟩, rfl⟩
  | append_singleton as a ih =>
    rw [run?_append] at hrun
    obtain ⟨t, ht, hrun⟩ := Option.bind_eq_some_iff.1 hrun
    obtain ⟨s', hstep, hrun⟩ := Option.bind_eq_some_iff.1 hrun
    obtain rfl := Option.some.inj hrun
    obtain ⟨hnested, hturn⟩ := nested_concat.1 hnested
    obtain ⟨hstacked, htaken⟩ := ih ht hnested
    obtain ⟨e, he, hm⟩ := move_of_step? hstep
    obtain ⟨hnext, hkind⟩ :=
      hstacked.move (coherent_of_run? ht) (owed_of_run? ht) hm he (hturn t ht)
    refine ⟨hnext, ?_⟩
    have hone : t.history [a] = [e] := by simp [history, hstep, he]
    rw [total] at htaken ⊢
    rw [history_append ht, hone, tally_append, htaken, tally, List.countP_singleton,
      decide_eq_false hkind]
    rfl

end Run

end Shared

end Cache

end ClientCounters
