/-
# Look-ups of one text share a run of the parser

Calls that hold the same slot get the same outcome, and one run at most brings it about; this holds
whatever the order of the steps, and whether the runs return descriptors or errors or crash
(`SingleFlight`).  When several calls look a new text up before anything has been returned for it,
and its registration is not given up in between, they hold one slot (`Burst.shares`), and what
they cost can be counted (`Flight`).
-/
import ClientCounters.Proofs.Cache.Residence
import ClientCounters.Proofs.Cache.Runs

namespace ClientCounters

namespace Cache

/-- Whether a call obtains a slot for a text. -/
def Event.isLookUp (key : String) : Event → Bool
  | obtained call _ => call.key = key
  | _ => false

/-- The number of calls that obtain a slot for a text. -/
def lookUps (key : String) (h : List Event) : Nat :=
  h.countP (Event.isLookUp key)

namespace Shared

variable {s t u : Shared} {h : List Event} {e : Event} {key : String} {slot : SlotId}
  {call : Call} {o : Outcome} {as bs : List Step}

/-! ## One slot, one outcome -/

/-- Calls with one slot share one run of the parser. -/
structure SingleFlight (h : List Event) (s : Shared) : Prop where
  /-- One run at most returns into a slot. -/
  filled_le_one : ∀ slot, tally .filled (· == slot) h ≤ 1
  /-- So there is one failure at most for a slot. -/
  failed_le_one : ∀ slot,
    (h.countP fun e => e.isFailure && e.call?.any fun call => call.slot == slot) ≤ 1
  /-- A run is known by its number. -/
  nodup : (runNumbers h).Nodup
  /-- A call that returns gives what a run made for its text has returned into its slot. -/
  returned : ∀ call o, (call, .returned o) ∈ s.answers → Opened h call ∧
    ∃ runner, .started runner ∈ h ∧ .filled runner o ∈ h ∧
      runner.slot = call.slot ∧ runner.key = call.key
  /-- So all calls that return give the same outcome, of the same run, if they have one slot. -/
  agree : ∀ a b o o', (a, .returned o) ∈ s.answers → (b, .returned o') ∈ s.answers →
    a.slot = b.slot → o = o'
  /-- A call that crashes started the run that crashed. -/
  crashed : ∀ call, (call, .crashed) ∈ s.answers →
    Opened h call ∧ .started call ∈ h ∧ .crashed call ∈ h

lemma singleFlight_of (hs : s.Coherent) (ht : Traced h s) (hr : Ran h s) : SingleFlight h s where
  filled_le_one slot := by
    rw [hr.tally_filled]
    exact Option.length_toList_le
  failed_le_one slot := by
    have hle : tally .filled (· == slot) h ≤ 1 := by
      rw [hr.tally_filled]
      exact Option.length_toList_le
    refine Nat.le_trans (List.countP_mono_left fun e _ he => ?_) hle
    rw [Bool.and_eq_true] at he ⊢
    refine ⟨?_, he.2⟩
    cases e with
    | filled _ _ => rfl
    | _ => cases he.1
  nodup := hr.runNumbers_eq ▸ List.nodup_range
  returned call o hanswer := by
    refine ⟨ht.answers _ hanswer, ?_⟩
    obtain ⟨runner, hstarted, hfilled, hslot, hkey⟩ := hr.exists_fill (hs.outcomeIn?_eq _ _ hanswer)
    rw [hs.keyOf?_eq _ _ hanswer] at hkey
    exact ⟨runner, hstarted, hfilled, hslot, (Option.some.inj hkey).symm⟩
  agree a b o o' ha hb hslot := by
    have hsame := hs.outcomeIn?_eq _ _ ha
    rw [hslot, hs.outcomeIn?_eq _ _ hb] at hsame
    exact (Option.some.inj hsame).symm
  crashed call hanswer := by
    have hcrash := ht.crashes call hanswer
    exact ⟨ht.answers _ hanswer, (hr.crashed call hcrash).2, hcrash⟩

/-- A crash ends the call that made the run and changes nothing else, and any call that waits for
the slot can start the parser next. -/
lemma Coherent.step_of_crash (hs : s.Coherent) {id : CallId} {r : ParserRun} {number : Nat}
    (hcall : s.call? id = some call) (hphase : call.phase = .parsing number)
    (hrun : r.settle s.cache.limit = .crashed) :
    ∃ t, s.step? (.finish id r) = some t ∧ t.cache = s.cache ∧ t.calls = s.others id ∧
      t.answers = (call, .crashed) :: s.answers ∧
      ∀ other ∈ t.calls, other.slot = call.slot → other.phase = .waiting →
        (t.step? (.start other.id)).isSome := by
  obtain rfl := id_of_call? hcall
  refine ⟨s.answer call s.cache .crashed, ?_, rfl, rfl, rfl, ?_⟩
  · simp [step?, hcall, hphase, finish, hrun]
  · intro other hother hslot hwaits
    have hmem := mem_of_call? hcall
    have hparsing : call.phase.isParsing := isParsing_iff.2 ⟨_, hphase⟩
    have hct : (s.answer call s.cache .crashed).Coherent :=
      hs.answer hmem hs.wellFormed (Grows.refl _) (hs.empty_of_eq fun _ => rfl)
        fun _ heq => by cases heq
    have hfound := (call?_eq_some_iff hct.nodup).2 hother
    have hempty : s.cache.outcomeIn? other.slot = none := by
      rw [hslot]
      exact (hs.fits _ hmem).isEmpty hparsing
    have hfree : (s.answer call s.cache .crashed).isBusy other.slot = false := by
      refine isBusy_eq_false_iff.2 fun another hanother hphase' hsame => ?_
      obtain ⟨hold, hne⟩ := mem_others.1 hanother
      exact hne (congrArg Call.id (hs.alone another hold call hmem hphase' hparsing
        (hsame.trans hslot)))
    simp [step?, hfound, hwaits, guard, hempty, hfree]

/-! ## A burst of look-ups of one text -/

/-- The events that lead from a state to a later one look up a text that is not registered at first;
the cache is not cleared and does not give the text up in between, and nothing has been returned
yet into the slots that were obtained for it. -/
structure Burst (key : String) (s : Shared) (h : List Event) (u : Shared) : Prop where
  unseen : s.cache.slotOf? key = none
  uncleared : .cleared ∉ h
  kept : ∀ call slot, .obtained call (some (key, slot)) ∉ h
  pending : ∀ call victim, .obtained call victim ∈ h → call.key = key →
    u.cache.outcomeIn? call.slot = none

/-- All look-ups of a text hold one slot, which is new, or there were none. -/
def Shares (key : String) (s : Shared) (h : List Event) (u : Shared) : Prop :=
  (lookUps key h = 0 ∧ u.cache.slotOf? key = none) ∨
    ∃ slot, 0 < lookUps key h ∧ (key, slot) ∈ u.cache.resident ∧ s.cache.keyOf? slot = none ∧
      ∀ call victim, .obtained call victim ∈ h → call.key = key → call.slot = slot

lemma lookUps_concat (h : List Event) (e : Event) :
    lookUps key (h ++ [e]) = lookUps key h + if e.isLookUp key then 1 else 0 := by
  rw [lookUps, lookUps, List.countP_append, List.countP_singleton]

lemma lookUps_pos_iff :
    0 < lookUps key h ↔ ∃ call victim, .obtained call victim ∈ h ∧ call.key = key := by
  rw [lookUps, List.countP_pos_iff]
  constructor
  · rintro ⟨e, he, hkey⟩
    cases e with
    | obtained call victim => exact ⟨call, victim, he, of_decide_eq_true hkey⟩
    | _ => cases hkey
  · rintro ⟨call, victim, hmem, hkey⟩
    exact ⟨_, hmem, decide_eq_true hkey⟩

lemma Move.slot_eq {victim : Option (String × SlotId)} (hm : Move s (.obtained call victim) t) :
    call.slot = s.cache.slotFor call.key := by
  cases hm
  rfl

/-- A burst up to a move is a burst up to the state before it. -/
lemma Burst.of_concat (hb : Burst key s (h ++ [e]) u) (hgrow : t.cache.Grows u.cache) :
    Burst key s h t where
  unseen := hb.unseen
  uncleared hmem := hb.uncleared (List.mem_append_left _ hmem)
  kept call slot hmem := hb.kept call slot (List.mem_append_left _ hmem)
  pending call victim hmem hkey := by
    have hempty := hb.pending call victim (List.mem_append_left _ hmem) hkey
    cases ho : t.cache.outcomeIn? call.slot with
    | none => rfl
    | some o => rw [hgrow.outcomeIn?_eq ho] at hempty; cases hempty

/-- A look-up of the text gets the slot that the others got, or a new one if it is the first. -/
lemma Shares.lookUp (hsh : Shares key s h t) (hgrow : s.cache.Grows t.cache) (ht : t.Coherent)
    {victim : Option (String × SlotId)} (hm : Move t (.obtained call victim) u)
    (hkey : call.key = key) : Shares key s (h ++ [.obtained call victim]) u := by
  have hmem : (key, call.slot) ∈ u.cache.resident := by
    rw [ht.resident_eq hm, ← hkey]
    exact List.mem_cons_self
  refine .inr ⟨call.slot, ?_, hmem, ?_, ?_⟩
  · rw [lookUps_concat, Event.isLookUp, decide_eq_true hkey]
    exact Nat.succ_pos _
  · rcases hsh with ⟨-, hnone⟩ | ⟨slot, -, hslot, hnew, -⟩
    · rw [hm.slot_eq, hkey, slotFor, hnone, Option.getD_none]
      cases hk : s.cache.keyOf? t.cache.slots.size with
      | none => rfl
      | some k => exact absurd (lt_size_of_keyOf? (hgrow.keyOf?_eq hk)) (Nat.lt_irrefl _)
    · rw [hm.slot_eq, hkey, slotFor, ht.wellFormed.slotOf?_eq_some_iff.2 hslot, Option.getD_some]
      exact hnew
  · intro other victim' hother hkey'
    rw [List.mem_append, List.mem_singleton] at hother
    rcases hother with hold | heq
    · rcases hsh with ⟨hzero, -⟩ | ⟨slot, -, hslot, -, hall⟩
      · have hpos : 0 < lookUps key h :=
          List.countP_pos_iff.2 ⟨_, hold, decide_eq_true hkey'⟩
        omega
      · rw [hm.slot_eq, hkey, slotFor, ht.wellFormed.slotOf?_eq_some_iff.2 hslot,
          Option.getD_some]
        exact hall other victim' hold hkey'
    · rw [(Event.obtained.inj heq).1]

/-- A text that is not registered stays so unless it is looked up. -/
lemma Coherent.slotOf?_eq_none (ht : t.Coherent) (hm : Move t e u) (he : e.isLookUp key = false)
    (hnone : t.cache.slotOf? key = none) : u.cache.slotOf? key = none := by
  rw [slotOf?_eq_none_iff] at hnone ⊢
  intro entry hentry
  rw [ht.resident_eq hm] at hentry
  cases e with
  | obtained call victim =>
    rcases List.mem_cons.1 hentry with rfl | hold
    · exact of_decide_eq_false he
    · exact hnone entry (List.mem_filter.1 hold).1
  | discarded call => exact hnone entry (List.mem_filter.1 hentry).1
  | cleared => cases hentry
  | _ => exact hnone entry hentry

/-- In a burst a text stays registered with a slot in which nothing is found. -/
lemma Burst.mem_resident (hb : Burst key s (h ++ [e]) u) (ht : t.Coherent) (hm : Move t e u)
    (he : e.isLookUp key = false) (hempty : t.cache.outcomeIn? slot = none)
    (hmem : (key, slot) ∈ t.cache.resident) : (key, slot) ∈ u.cache.resident := by
  rw [ht.resident_eq hm]
  cases e with
  | obtained call victim =>
    have hkey : key ≠ call.key := Ne.symm (of_decide_eq_false he)
    have hkept : victim ≠ some (key, slot) := by
      rintro rfl
      exact hb.kept call slot (List.mem_append_right _ (List.mem_singleton_self _))
    exact List.mem_cons_of_mem _ (List.mem_filter.2 ⟨hmem, decide_eq_true ⟨hkey, hkept⟩⟩)
  | discarded call =>
    -- no call can have found an error in the slot
    refine List.mem_filter.2 ⟨hmem, decide_eq_true fun heq => ?_⟩
    obtain ⟨rfl, rfl⟩ := Prod.mk.inj heq
    cases hm with
    | discard hcall hphase =>
      have herror := (ht.fits _ (mem_of_call? hcall)).holds _ _ hphase
      rw [hempty] at herror
      cases herror
  | cleared => exact absurd (List.mem_append_right _ (List.mem_singleton_self _)) hb.uncleared
  | _ => exact hmem

/-- Other events leave the registration of the text alone. -/
lemma Shares.other (hsh : Shares key s h t) (ht : t.Coherent) (hm : Move t e u)
    (hb : Burst key s (h ++ [e]) u) (hgrow : t.cache.Grows u.cache)
    (he : e.isLookUp key = false) : Shares key s (h ++ [e]) u := by
  have hsame : lookUps key (h ++ [e]) = lookUps key h := by
    rw [lookUps_concat, he]
    rfl
  rcases hsh with ⟨hzero, hnone⟩ | ⟨slot, hpos, hmem, hnew, hall⟩
  · exact .inl ⟨hsame.trans hzero, ht.slotOf?_eq_none hm he hnone⟩
  · have hempty : t.cache.outcomeIn? slot = none := by
      obtain ⟨call, victim, hcall, hkey⟩ := lookUps_pos_iff.1 hpos
      rw [← hall call victim hcall hkey]
      exact (hb.of_concat hgrow).pending call victim hcall hkey
    refine .inr ⟨slot, hsame ▸ hpos, hb.mem_resident ht hm he hempty hmem, hnew, ?_⟩
    intro call victim hcall hkey
    rw [List.mem_append, List.mem_singleton] at hcall
    rcases hcall with hold | rfl
    · exact hall call victim hold hkey
    · exact absurd hkey (of_decide_eq_false he)

/-- All look-ups of a burst hold one slot. -/
theorem Burst.shares (hs : s.Coherent) (hrun : s.run? bs = some u)
    (hb : Burst key s (s.history bs) u) : Shares key s (s.history bs) u := by
  -- a burst is one up to each state on the way, so that the look-ups share a slot in all of them
  refine (hs.run_induction (P := fun h t => s.cache.Grows t.cache ∧
    (Burst key s h t → Shares key s h t)) ?_ ?_ hrun).2 hb
  · exact ⟨Grows.refl _, fun hb => .inl ⟨rfl, hb.unseen⟩⟩
  · rintro h t e v ⟨hgrow, hshares⟩ ht hm
    have hgrow' := ht.grows hm
    refine ⟨hgrow.trans hgrow', fun hb => ?_⟩
    have hsh := hshares (hb.of_concat hgrow')
    cases he : e.isLookUp key with
    | false => exact hsh.other ht hm hb hgrow' he
    | true =>
      cases e with
      | obtained call victim => exact hsh.lookUp hgrow ht hm (of_decide_eq_true he)
      | _ => cases he

/-- What the calls of a slot have come to when all of them have ended: `n` calls, of which `late`
ones had not looked into the slot when it was still known to be empty. -/
structure Landed (slot : SlotId) (n late : Nat) (h : List Event) (t : Shared) : Prop where
  /-- Each call was a hit or a miss. -/
  looked : tally .hit (· == slot) h + tally .missed (· == slot) h = n
  /-- Only the late ones can have been hits. -/
  missed : n ≤ tally .missed (· == slot) h + late
  /-- There was one run for each crash, and the run that returned. -/
  started : tally .started (· == slot) h =
    tally .crashed (· == slot) h + tally .filled (· == slot) h
  /-- Some run returned unless all calls crashed. -/
  filled : tally .crashed (· == slot) h < n → tally .filled (· == slot) h = 1
  ended : t.ended (fun _ => true) (· == slot) = n
  /-- A crash is the answer of one call. -/
  crashed : t.ended Answer.isCrash (· == slot) = tally .crashed (· == slot) h
  /-- Calls that look in time and do not crash are misses, cost one run and have one answer. -/
  plain : late = 0 → tally .crashed (· == slot) h = 0 →
    tally .missed (· == slot) h = n ∧ tally .started (· == slot) h = 1 ∧
      ∃ o, ∀ answer ∈ t.answers, answer.1.slot = slot → answer.2 = .returned o

/-- What the look-ups of a burst come to, `during` being its events and `u` the state behind. -/
structure Flight (key : String) (slot : SlotId) (before during after : List Event)
    (u t : Shared) : Prop where
  /-- Nobody held the slot before. -/
  fresh : tally .obtained (· == slot) before = 0
  /-- The look-ups of the text hold the slot, and nobody else does. -/
  slot_eq : ∀ call victim, .obtained call victim ∈ during → (call.slot = slot ↔ call.key = key)
  /-- There is nothing to be found in it, so that each of them that has looked is a miss. -/
  missed : tally .hit (· == slot) during = 0 ∧
    tally .missed (· == slot) during + u.underWay Phase.isObtained (· == slot) =
      lookUps key during
  /-- If nobody else gets the slot later, then this is what they come to in the end. -/
  landed : tally .obtained (· == slot) after = 0 →
    t.underWay (fun _ => true) (· == slot) = 0 →
    Landed slot (lookUps key during) (u.underWay Phase.isObtained (· == slot))
      (before ++ during ++ after) t

lemma underWay_le (t : Shared) (q : Phase → Bool) (p : SlotId → Bool) :
    t.underWay q p ≤ t.underWay (fun _ => true) p := by
  refine List.countP_mono_left fun call _ hcall => ?_
  rw [Bool.and_eq_true] at hcall ⊢
  exact ⟨rfl, hcall.2⟩

/-- If not all calls that have ended crashed, then one of them returned. -/
lemma exists_returned {p : SlotId → Bool}
    (hlt : t.ended Answer.isCrash p < t.ended (fun _ => true) p) :
    ∃ call o, (call, .returned o) ∈ t.answers ∧ p call.slot := by
  by_contra hnone
  refine Nat.not_le_of_lt hlt (List.countP_mono_left fun answer hanswer hp => ?_)
  rw [Bool.true_and] at hp
  obtain ⟨call, a⟩ := answer
  cases a with
  | returned o => exact absurd ⟨call, o, hanswer, hp⟩ hnone
  | crashed => rw [Answer.isCrash, Bool.true_and, hp]

lemma landed_of {n late : Nat} (ht : t.Coherent) (hr : Ran h t)
    (ha : Accounts (· == slot) h t) (hpos : 0 < n) (hn : tally .obtained (· == slot) h = n)
    (hmissed : n ≤ tally .missed (· == slot) h + late)
    (hdone : t.underWay (fun _ => true) (· == slot) = 0) : Landed slot n late h t := by
  have hzero (q : Phase → Bool) : t.underWay q (· == slot) = 0 :=
    Nat.le_zero.1 (hdone ▸ underWay_le t q _)
  have hended : t.ended (fun _ => true) (· == slot) = n := by
    have hbalance := ha.obtained
    omega
  have hlooked : tally .hit (· == slot) h + tally .missed (· == slot) h = n := by
    have hbalance := ha.looked
    rw [hzero] at hbalance
    omega
  have hstarted : tally .started (· == slot) h =
      tally .crashed (· == slot) h + tally .filled (· == slot) h := by
    have hbalance := ha.started
    rw [hzero] at hbalance
    omega
  have hreturned (hlt : tally .crashed (· == slot) h < n) :
      ∃ call o, (call, .returned o) ∈ t.answers ∧ call.slot = slot := by
    rw [ha.crashed, ← hended] at hlt
    obtain ⟨call, o, hanswer, hslot⟩ := exists_returned hlt
    exact ⟨call, o, hanswer, eq_of_beq hslot⟩
  have hfilled (hlt : tally .crashed (· == slot) h < n) : tally .filled (· == slot) h = 1 := by
    obtain ⟨call, o, hanswer, rfl⟩ := hreturned hlt
    rw [hr.tally_filled, ht.outcomeIn?_eq _ _ hanswer]
    rfl
  refine ⟨hlooked, hmissed, hstarted, hfilled, hended, ha.crashed.symm, ?_⟩
  intro hlate hcrashes
  have hlt : tally .crashed (· == slot) h < n := hcrashes ▸ hpos
  refine ⟨by omega, by rw [hstarted, hcrashes, hfilled hlt], ?_⟩
  obtain ⟨call, o, hanswer, hslot⟩ := hreturned hlt
  refine ⟨o, ?_⟩
  rintro ⟨other, a⟩ hother hslot'
  cases a with
  | returned o' =>
    have hsame := ht.outcomeIn?_eq _ _ hother
    rw [hslot', ← hslot, ht.outcomeIn?_eq _ _ hanswer] at hsame
    rw [Option.some.inj hsame]
  | crashed =>
    have hcrash : 0 < t.ended Answer.isCrash (· == slot) :=
      List.countP_pos_iff.2 ⟨_, hother, by simpa [Answer.isCrash] using hslot'⟩
    rw [← ha.crashed, hcrashes] at hcrash
    exact absurd hcrash (Nat.lt_irrefl _)

lemma tally_obtained_eq (hiff : ∀ call victim, .obtained call victim ∈ h →
    (call.slot = slot ↔ call.key = key)) : tally .obtained (· == slot) h = lookUps key h := by
  refine List.countP_congr fun e he => ?_
  cases e with
  | obtained call victim => simpa [Event.kind, Event.call?, Event.isLookUp] using hiff _ _ he
  | _ => simp [Event.kind, Event.isLookUp]

/-- A slot that is empty has been no hit. -/
lemma Ran.tally_hit_eq_zero (hr : Ran h s) (hempty : s.cache.outcomeIn? slot = none) :
    tally .hit (· == slot) h = 0 := by
  rw [tally, List.countP_eq_zero]
  intro e he hof
  cases e with
  | hit call =>
    obtain ⟨o, ho⟩ := hr.hit call he
    have hslot : call.slot = slot := by simpa [Event.kind, Event.call?] using hof
    rw [hslot, hempty] at ho
    cases ho
  | _ => simp [Event.kind] at hof

section Burst

variable {capacity : Nat} {hpos : 0 < capacity} {limit : Option Duration}

/-- The look-ups of a burst hold one slot, and this is what they come to. -/
theorem Burst.flight {before during after : List Step}
    (hs : (unused capacity hpos limit).run? before = some s) (hu : s.run? during = some u)
    (ht : u.run? after = some t) (hb : Burst key s (s.history during) u)
    (hsome : 0 < lookUps key (s.history during)) :
    ∃ slot, Flight key slot ((unused capacity hpos limit).history before) (s.history during)
      (u.history after) u t := by
  have hrunu : (unused capacity hpos limit).run? (before ++ during) = some u := by
    rw [run?_append, hs, Option.bind_some, hu]
  have hrunt : (unused capacity hpos limit).run? (before ++ during ++ after) = some t := by
    rw [run?_append, hrunu, Option.bind_some, ht]
  have hcu := coherent_of_run? hrunu
  have hru := ran_of_run? hrunu
  rw [history_append hs] at hru
  obtain ⟨hzero, -⟩ | ⟨slot, -, hmem, hnew, hall⟩ := hb.shares (coherent_of_run? hs) hu
  · omega
  have hkey : u.cache.keyOf? slot = some key := hcu.wellFormed.keyOf?_eq _ hmem
  have hiff : ∀ call victim, .obtained call victim ∈ s.history during →
      (call.slot = slot ↔ call.key = key) := by
    intro call victim hcall
    refine ⟨?_, hall call victim hcall⟩
    rintro rfl
    have hown := hru.keyOf?_eq _ (List.mem_append_right _ hcall) call rfl
    exact Option.some.inj (hown.symm.trans hkey)
  have hbefore (k : Kind) := (ran_of_run? hs).tally_eq_zero hnew k
  have hobtained := tally_obtained_eq hiff
  have hhit : tally .hit (· == slot) ((unused capacity hpos limit).history before) +
      tally .hit (· == slot) (s.history during) = 0 := by
    obtain ⟨call, victim, hcall, hcallkey⟩ := lookUps_pos_iff.1 hsome
    have hempty := hb.pending call victim hcall hcallkey
    rw [hall call victim hcall hcallkey] at hempty
    rw [← tally_append]
    exact hru.tally_hit_eq_zero hempty
  rw [hbefore, Nat.zero_add] at hhit
  have hmissed : tally .missed (· == slot) (s.history during) +
      u.underWay Phase.isObtained (· == slot) = lookUps key (s.history during) := by
    have hbalance := (accounts_of_run? hrunu (· == slot)).looked
    rw [history_append hs] at hbalance
    simp only [tally_append, hbefore, hhit, hobtained] at hbalance
    omega
  refine ⟨slot, hbefore .obtained, hiff, ⟨hhit, hmissed⟩, fun hlater hdone => ?_⟩
  have hra := ran_of_run? hrunt
  have hac := accounts_of_run? hrunt (· == slot)
  rw [history_append hrunu, history_append hs] at hra hac
  refine landed_of (coherent_of_run? hrunt) hra hac hsome ?_ ?_ hdone
  · rw [tally_append, tally_append, hbefore, hobtained, hlater]
    omega
  · rw [tally_append, tally_append]
    omega

/-- **Look-ups of one text share a run of the parser.**  In every run of a cache in use, whatever
the order of the steps and however the runs of the parser end, calls with one slot return the same
outcome, which one run made for their text has returned; a crash concerns the call that made the run
alone and leaves the slot to the next one; and the look-ups of a new text that come before anything
has been returned for it, while its registration stays, are misses as soon as they look, share one
run that returns and one answer, and cost a run more for each crash. -/
theorem single_flight (hrun : (unused capacity hpos limit).run? as = some t) :
    let h := (unused capacity hpos limit).history as
    SingleFlight h t ∧
    (∀ p, Accounts p h t) ∧
    t.cache.counters =
      ⟨total .hit h, total .missed h, total .started h, h.countP Event.isFailure, 0⟩ ∧
    (∀ id call number r, t.call? id = some call → call.phase = .parsing number →
      r.settle t.cache.limit = .crashed →
      ∃ u, t.step? (.finish id r) = some u ∧ u.cache = t.cache ∧ u.calls = t.others id ∧
        u.answers = (call, .crashed) :: t.answers ∧
        ∀ other ∈ u.calls, other.slot = call.slot → other.phase = .waiting →
          (u.step? (.start other.id)).isSome) ∧
    ∀ before during after s u key, as = before ++ during ++ after →
      (unused capacity hpos limit).run? before = some s → s.run? during = some u →
      Burst key s (s.history during) u → 0 < lookUps key (s.history during) →
      ∃ slot, Flight key slot ((unused capacity hpos limit).history before) (s.history during)
        (u.history after) u t := by
  intro h
  have hct := coherent_of_run? hrun
  refine ⟨singleFlight_of hct (traced_of_run? hrun) (ran_of_run? hrun), accounts_of_run? hrun,
    counters_of_run? hrun, ?_, ?_⟩
  · intro id call number r hcall hphase hcrash
    exact hct.step_of_crash hcall hphase hcrash
  · rintro before during after s u key rfl hs hu hb hsome
    rw [run?_append, run?_append, hs, Option.bind_some, hu, Option.bind_some] at hrun
    exact hb.flight hs hu hrun hsome

/-- Look-ups of a text that is not registered are a burst when nothing goes for them and the slots
they get stay empty. -/
lemma Burst.of_forall (hunseen : s.cache.slotOf? key = none)
    (hall : ∀ e ∈ h, e ≠ .cleared ∧ ∀ call victim, e = .obtained call victim →
      victim = none ∧ u.cache.outcomeIn? call.slot = none) : Burst key s h u where
  unseen := hunseen
  uncleared hmem := (hall _ hmem).1 rfl
  kept _ _ hmem := Option.some_ne_none _ ((hall _ hmem).2 _ _ rfl).1
  pending _ _ hmem _ := ((hall _ hmem).2 _ _ rfl).2

/-- Three look-ups of one burst: the first crashes, the second fills the slot, and the third, which
looks late, is a hit. -/
theorem single_flight_of_late_look :
    let start : Shared := unused 1 Nat.one_pos none
    let during : List Step := [.obtain 0 "k", .obtain 1 "k", .obtain 2 "k", .look 0, .look 1]
    let after : List Step := [.start 0, .finish 0 { reply := .crashed }, .start 1,
      .finish 1 { reply := .returned (.ok { name := "k" }) }, .look 2]
    ∃ t, start.run? (during ++ after) = some t ∧
      Landed 0 3 1 (start.history (during ++ after)) t := by
  intro start during after
  -- what is to be computed about the state behind the burst and about the last state
  have hrun : ((start.run? during).any fun u => (u.run? after).any fun t =>
      (u.cache.outcomeIn? 0).isNone && u.underWay Phase.isObtained (· == 0) == 1 &&
      tally .obtained (· == 0) (u.history after) == 0 &&
      t.underWay (fun _ => true) (· == 0) == 0) = true := by
    decide +kernel +zetaReduce
  obtain ⟨u, hu, hrun⟩ := (Option.any_eq_true _ _).1 hrun
  obtain ⟨t, ht, hrun⟩ := (Option.any_eq_true _ _).1 hrun
  simp only [Bool.and_eq_true, beq_iff_eq, Option.isNone_iff_eq_none] at hrun
  obtain ⟨⟨⟨hempty, hlate⟩, hlater⟩, hdone⟩ := hrun
  have htotal : start.run? (during ++ after) = some t := by
    rw [run?_append, hu, Option.bind_some, ht]
  have hduring : start.history during = [.obtained ⟨0, "k", 0, .obtained⟩ none,
    .obtained ⟨1, "k", 0, .obtained⟩ none, .obtained ⟨2, "k", 0, .obtained⟩ none,
    .missed ⟨0, "k", 0, .obtained⟩, .missed ⟨1, "k", 0, .obtained⟩] := rfl
  have hburst : Burst "k" start (start.history during) u := by
    rw [hduring]
    refine Burst.of_forall rfl ?_
    simp [hempty]
  obtain ⟨slot, hflight⟩ :=
    (single_flight htotal).2.2.2.2 [] during after start u "k" rfl rfl hu hburst (by decide)
  obtain rfl : 0 = slot := (hflight.slot_eq _ none (hduring ▸ List.mem_cons_self)).2 rfl
  have hlanded := hflight.landed hlater hdone
  rw [hlate, ← history_append rfl, ← history_append (show start.run? ([] ++ during) = _ from hu)]
    at hlanded
  exact ⟨t, htotal, hlanded⟩

/-- Two look-ups of one burst need not be two misses, and need not cost one run: the one that looks
after the slot was filled is a hit, and a crash leaves the run to the other. -/
theorem burst_costs_vary :
    let start : Shared := unused 4 (Nat.succ_pos 3) none
    let both : List Step := [.obtain 0 "k", .obtain 1 "k"]
    ∃ u, start.run? both = some u ∧ Burst "k" start (start.history both) u ∧
      lookUps "k" (start.history both) = 2 ∧
      (∃ t, u.run? [.look 0, .start 0, .finish 0 { reply := .returned (.ok { name := "k" }) },
        .look 1] = some t ∧ t.calls = [] ∧ t.cache.hits = 1 ∧ t.cache.misses = 1) ∧
      ∃ t, u.run? [.look 0, .look 1, .start 0, .finish 0 { reply := .crashed }, .start 1,
        .finish 1 { reply := .crashed }] = some t ∧ t.calls = [] ∧ t.cache.misses = 2 ∧
        t.cache.parses = 2 := by
  intro start both
  refine ⟨_, rfl, Burst.of_forall rfl ?_, rfl, ⟨_, rfl, rfl, rfl, rfl⟩, _, rfl, rfl, rfl, rfl⟩
  have hboth : start.history both = [.obtained ⟨0, "k", 0, .obtained⟩ none,
    .obtained ⟨1, "k", 0, .obtained⟩ none] := rfl
  rw [hboth, List.forall_mem_cons, List.forall_mem_singleton]
  refine ⟨⟨nofun, ?_⟩, nofun, ?_⟩
  · rintro _ _ ⟨⟩
    exact ⟨rfl, rfl⟩
  · rintro _ _ ⟨⟩
    exact ⟨rfl, rfl⟩

end Burst

end Shared

end Cache

end ClientCounters
