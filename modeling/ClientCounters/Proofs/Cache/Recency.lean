/-
# The texts used last

Callers that take turns leave a history of look-ups and clearings.  With a parser that always comes
to a descriptor the history alone decides what the cache holds: the texts looked up since the last
clearing, latest first and each once, as far as there is room (`recent`).  A text among them is
answered with the instance it was answered with before; any other text has the parser run.  The
cache moves a text to the front and gives up its last one, and `take_filter_ne` says that this is
how the front of such a list changes.
-/
import Mathlib.Data.List.Induction
import ClientCounters.Proofs.Cache.History
import ClientCounters.Proofs.Cache.Lookup

namespace ClientCounters

/-! ## Lists without repetitions -/

section Distinct

variable {α : Type} [DecidableEq α]

/-- Repetitions can be left out before or after a filter. -/
lemma eraseDups_filter (p : α → Bool) (l : List α) :
    (l.filter p).eraseDups = l.eraseDups.filter p := by
  match l with
  | [] => rfl
  | a :: l =>
    have hshorter : (l.filter fun b => !b == a).length < (a :: l).length :=
      Nat.lt_succ_of_le (List.length_filter_le _ _)
    have ih := eraseDups_filter p (l.filter fun b => !b == a)
    rw [List.eraseDups_cons]
    by_cases ha : p a
    · rw [List.filter_cons_of_pos ha, List.filter_cons_of_pos ha, List.eraseDups_cons, ← ih,
        List.filter_comm]
    · rw [List.filter_cons_of_neg ha, List.filter_cons_of_neg ha, ← ih, List.filter_comm]
      -- what is filtered out need not be filtered out twice
      congr 1
      refine (List.filter_eq_self.2 fun b hb => ?_).symm
      have hne : b ≠ a := by
        rintro rfl
        exact ha (List.mem_filter.1 hb).2
      simpa using hne
termination_by l.length
decreasing_by exact hshorter

lemma nodup_eraseDups (l : List α) : l.eraseDups.Nodup := by
  match l with
  | [] => exact List.nodup_nil
  | a :: l =>
    have hshorter : (l.filter fun b => !b == a).length < (a :: l).length :=
      Nat.lt_succ_of_le (List.length_filter_le _ _)
    rw [List.eraseDups_cons, List.nodup_cons]
    exact ⟨by simp [List.mem_eraseDups], nodup_eraseDups _⟩
termination_by l.length
decreasing_by exact hshorter

lemma filter_ne_eq_self {l : List α} {a : α} (h : a ∉ l) : l.filter (· ≠ a) = l := by
  refine List.filter_eq_self.2 fun b hb => decide_eq_true ?_
  rintro rfl
  exact h hb

/-- Taking an element out of a list brings the next one into the row of the `n` first ones, if the
element was in the row of the `n + 1` first ones; otherwise the row loses its last place. -/
lemma take_filter_ne {l : List α} (hnodup : l.Nodup) (a : α) (n : Nat) :
    (l.filter (· ≠ a)).take n =
      if a ∈ l.take (n + 1) then (l.take (n + 1)).filter (· ≠ a) else (l.take (n + 1)).take n := by
  induction l generalizing n with
  | nil => simp
  | cons b l ih =>
    obtain ⟨hb, hl⟩ := List.nodup_cons.1 hnodup
    rw [List.take_succ_cons]
    by_cases hba : b = a
    · subst hba
      have hb' : b ∉ l.take n := fun h => hb (List.mem_of_mem_take h)
      rw [if_pos List.mem_cons_self, List.filter_cons_of_neg (by simp),
        List.filter_cons_of_neg (by simp), filter_ne_eq_self hb, filter_ne_eq_self hb']
    · have hmem {k : Nat} : a ∈ b :: l.take k ↔ a ∈ l.take k := by
        rw [List.mem_cons, or_iff_right (Ne.symm hba)]
      rw [List.filter_cons_of_pos (by simpa using hba),
        List.filter_cons_of_pos (by simpa using hba)]
      cases n with
      | zero => simp [Ne.symm hba]
      | succ n =>
        rw [List.take_succ_cons, List.take_succ_cons, ih hl]
        simp only [hmem]
        split <;> rfl

end Distinct

namespace Cache

/-! ## Taking turns -/

/-- A use of a cache by a caller whose turn it is. -/
inductive Use where
  /-- A text is looked up. -/
  | lookUp (key : String)
  /-- The cache is cleared. -/
  | clear
deriving DecidableEq

/-- A cache that callers use in turn, with the state of the parser. -/
structure Session (σ : Type) where
  cache : Cache
  state : σ
  /-- The look-ups so far with their answers, latest first. -/
  answers : List (String × Answer) := []

namespace Session

variable {σ : Type} {parser : Parser σ} {v : Session σ} {key : String}

/-- The session after a use. -/
def use (parser : Parser σ) (v : Session σ) : Use → Session σ
  | .lookUp key =>
    let look := v.cache.getOrParse parser.besides key v.state
    ⟨look.cache, look.state, (key, look.answer) :: v.answers⟩
  | .clear => { v with cache := v.cache.clear }

/-- The session after some uses in a row. -/
def useAll (parser : Parser σ) (v : Session σ) (uses : List Use) : Session σ :=
  uses.foldl (use parser) v

lemma useAll_concat (uses : List Use) (u : Use) :
    v.useAll parser (uses ++ [u]) = (v.useAll parser uses).use parser u :=
  List.foldl_concat ..

end Session

/-- The text that a use looks up. -/
def Use.text? : Use → Option String
  | lookUp key => some key
  | clear => none

/-- The texts looked up since the last clearing, latest first. -/
def lookedUp (uses : List Use) : List String :=
  (uses.reverse.takeWhile (· ≠ .clear)).filterMap Use.text?

/-- The texts looked up since the last clearing, latest first and each once. -/
def recent (uses : List Use) : List String :=
  (lookedUp uses).eraseDups

lemma recent_clear (uses : List Use) : recent (uses ++ [.clear]) = [] := by
  simp [recent, lookedUp]

/-- A look-up brings its text to the front. -/
lemma recent_lookUp (uses : List Use) (key : String) :
    recent (uses ++ [.lookUp key]) = key :: (recent uses).filter (· ≠ key) := by
  have hfront : lookedUp (uses ++ [.lookUp key]) = key :: lookedUp uses := by
    simp [lookedUp, Use.text?]
  rw [recent, hfront, List.eraseDups_cons, recent, ← eraseDups_filter]
  congr 2
  refine List.filter_congr fun other _ => ?_
  rw [Bool.eq_iff_iff, Bool.not_eq_true', beq_eq_false_iff_ne, decide_eq_true_iff]

lemma nodup_recent (uses : List Use) : (recent uses).Nodup :=
  nodup_eraseDups _

/-! ## The registered texts -/

variable {σ : Type} {c : Cache} {key : String} {slot : SlotId} {o : Outcome}

/-- The registered texts, most recently used first. -/
def texts (c : Cache) : List String :=
  c.resident.map Prod.fst

lemma slotOf?_isSome_iff : (∃ slot, c.slotOf? key = some slot) ↔ key ∈ c.texts := by
  rw [← not_iff_not, texts, List.mem_map, not_exists]
  constructor
  · rintro h ⟨e, he, rfl⟩
    cases hs : c.slotOf? e.1 with
    | none => exact slotOf?_eq_none_iff.1 hs e he rfl
    | some slot => exact h slot hs
  · intro h slot hs
    exact h ⟨_, mem_resident_of_slotOf? hs, rfl⟩

/-- A look-up brings its text to the front; a text that was not registered takes the place of the
last one when there is no room left. -/
lemma texts_obtain : (c.obtain key).1.texts =
    key :: if key ∈ c.texts then c.texts.filter (· ≠ key) else c.texts.take (c.capacity - 1) := by
  rw [obtain]
  split
  · next slot hslot =>
    rw [if_pos (slotOf?_isSome_iff.1 ⟨slot, hslot⟩), texts, List.map_cons, without, texts,
      List.filter_map]
    congr 2
    refine List.filter_congr fun e _ => ?_
    rw [Bool.eq_iff_iff, bne_iff_ne, Function.comp_apply, decide_eq_true_iff]
  · next hnone =>
    have hmem : key ∉ c.texts := fun h => by
      obtain ⟨slot, hslot⟩ := slotOf?_isSome_iff.2 h
      rw [hnone] at hslot
      cases hslot
    rw [if_neg hmem, texts, List.map_cons, List.map_take, texts]

/-! ## What a look-up comes to -/

/-- A look-up of the text is a hit with this answer: no parser is run, whichever it is. -/
def Hits (c : Cache) (key : String) (a : Answer) : Prop :=
  ∀ {τ : Type} (parser : Parser τ) (state : τ),
    let look := c.getOrParse parser.besides key state
    look.answer = a ∧ look.state = state ∧
      look.cache.counters = { c.counters with hits := c.counters.hits + 1 }

/-- A look-up of the text is a miss: the parser is run once, and the descriptor that it comes to is
answered as the instance of this run. -/
structure Misses (parser : Parser σ) (c : Cache) (state : σ) (key : String) : Prop where
  state_eq : (c.getOrParse parser.besides key state).state = (parser key state).2
  counters_eq : (c.getOrParse parser.besides key state).cache.counters =
    { c.counters with misses := c.counters.misses + 1, parses := c.counters.parses + 1 }
  answer_eq : ∃ d, (parser key state).1.settle c.limit = .returned (.ok d) ∧
    (c.getOrParse parser.besides key state).answer = .returned ⟨c.parses, .ok d⟩

lemma hits_of_ok {run : Nat} {d : Descriptor}
    (h : c.outcomeIn? (c.slotFor key) = some ⟨run, .ok d⟩) :
    Hits c key (.returned ⟨run, .ok d⟩) := by
  intro τ parser state
  dsimp only
  rw [getOrParse_of_ok parser state h]
  have hcounters : (c.obtain key).1.counters = c.counters := counters_obtain
  refine ⟨rfl, rfl, ?_⟩
  rw [← hcounters]
  rfl

lemma misses_of_none {parser : Parser σ} {state : σ} {d : Descriptor}
    (h : c.outcomeIn? (c.slotFor key) = none)
    (hsettle : (parser key state).1.settle c.limit = .returned (.ok d)) :
    Misses parser c state key := by
  have heq := getOrParse_of_none parser state h
  simp only [hsettle] at heq
  have hcounters : (c.obtain key).1.counters = c.counters := counters_obtain
  refine ⟨?_, ?_, d, hsettle, ?_⟩
  · rw [heq]
  · rw [heq, ← hcounters]
    rfl
  · rw [heq]

/-! ## What the uses keep -/

namespace Session

variable {parser : Parser σ} {v : Session σ} {uses : List Use} {capacity : Nat}
  {limit : Option Duration}

/-- A cache that nobody has used yet. -/
def start (capacity : Nat) (hpos : 0 < capacity) (limit : Option Duration) (state : σ) :
    Session σ where
  cache := { capacity, capacity_pos := hpos, limit }
  state

/-- What some uses leave behind: the texts used last are registered, each with the instance that it
was last answered with, and the instances are those of runs in the past. -/
structure Remembers (capacity : Nat) (limit : Option Duration) (uses : List Use) (v : Session σ) :
    Prop where
  wellFormed : v.cache.WellFormed
  capacity_eq : v.cache.capacity = capacity
  limit_eq : v.cache.limit = limit
  texts_eq : v.cache.texts = (recent uses).take capacity
  holds : ∀ e ∈ v.cache.resident, ∃ run d, v.cache.outcomeIn? e.2 = some ⟨run, .ok d⟩ ∧
    v.answers.lookup e.1 = some (.returned ⟨run, .ok d⟩)
  run_lt : ∀ key o, (key, .returned o) ∈ v.answers → o.run < v.cache.parses

namespace Remembers

lemma start (hpos : 0 < capacity) (state : σ) :
    Remembers capacity limit [] (start capacity hpos limit state) where
  wellFormed := ⟨List.nodup_nil, Nat.zero_le _, fun _ h => absurd h List.not_mem_nil⟩
  capacity_eq := rfl
  limit_eq := rfl
  texts_eq := List.take_nil.symm
  holds _ h := absurd h List.not_mem_nil
  run_lt _ _ h := absurd h List.not_mem_nil

lemma clear (h : Remembers capacity limit uses v) :
    Remembers capacity limit (uses ++ [.clear]) (v.use parser .clear) where
  wellFormed := h.wellFormed.clear
  capacity_eq := h.capacity_eq
  limit_eq := h.limit_eq
  texts_eq := by
    rw [recent_clear, List.take_nil]
    rfl
  holds _ hmem := absurd hmem List.not_mem_nil
  run_lt := h.run_lt

/-- A text that is registered is a hit, with the instance that it was last answered with. -/
lemma hits (h : Remembers capacity limit uses v) (hkey : key ∈ v.cache.texts) :
    ∃ run d, v.cache.outcomeIn? (v.cache.slotFor key) = some ⟨run, .ok d⟩ ∧
      v.answers.lookup key = some (.returned ⟨run, .ok d⟩) := by
  obtain ⟨slot, hslot⟩ := slotOf?_isSome_iff.2 hkey
  have hmem := mem_resident_of_slotOf? hslot
  rw [slotFor, hslot, Option.getD_some]
  exact h.holds _ hmem

/-- The slot of a text that is not registered is empty. -/
lemma empty (h : key ∉ v.cache.texts) :
    v.cache.outcomeIn? (v.cache.slotFor key) = none := by
  refine outcomeIn?_of_keyOf? (keyOf?_slotFor_of_none ?_)
  cases hs : v.cache.slotOf? key with
  | none => rfl
  | some slot => exact absurd (slotOf?_isSome_iff.1 ⟨slot, hs⟩) h

/-- The texts behind a look-up are those used last. -/
lemma texts_obtain_eq (h : Remembers capacity limit uses v) (key : String) :
    (v.cache.obtain key).1.texts = (recent (uses ++ [.lookUp key])).take capacity := by
  have hpos : 0 < capacity := h.capacity_eq ▸ v.cache.capacity_pos
  obtain ⟨n, rfl⟩ := Nat.exists_eq_succ_of_ne_zero (Nat.ne_of_gt hpos)
  rw [texts_obtain, h.texts_eq, h.capacity_eq, recent_lookUp, List.take_succ_cons,
    take_filter_ne (nodup_recent uses), Nat.succ_sub_one]

/-- A look-up that registers its text with an instance and answers it is remembered. -/
lemma of_answer (h : Remembers capacity limit uses v) {look : Lookup σ} {run : Nat}
    {d : Descriptor} (hlook : v.cache.getOrParse parser.besides key v.state = look)
    (hanswer : look.answer = .returned ⟨run, .ok d⟩)
    (hresident : look.cache.resident = (v.cache.obtain key).1.resident)
    (hslot : look.cache.outcomeIn? (v.cache.slotFor key) = some ⟨run, .ok d⟩)
    (hgrows : v.cache.Grows look.cache) (hrun : run < look.cache.parses)
    (hparses : v.cache.parses ≤ look.cache.parses) :
    Remembers capacity limit (uses ++ [.lookUp key]) (v.use parser (.lookUp key)) := by
  have hbounds := SameBounds.getOrParse parser key v.cache v.state
  have hwell := h.wellFormed.getOrParse parser key v.state
  rw [hlook] at hbounds hwell
  have huse : v.use parser (.lookUp key) =
      ⟨look.cache, look.state, (key, look.answer) :: v.answers⟩ := by
    rw [use, hlook]
  rw [huse]
  constructor
  · exact hwell
  · exact hbounds.capacity.trans h.capacity_eq
  · exact hbounds.limit.trans h.limit_eq
  · rw [← h.texts_obtain_eq, texts, hresident, texts]
  · intro e he
    dsimp only at he ⊢
    rw [hresident, resident_obtain h.wellFormed, List.mem_cons] at he
    rcases he with rfl | he
    · exact ⟨run, d, hslot, by rw [hanswer, List.lookup_cons_self]⟩
    · obtain ⟨hmem, hne⟩ := mem_without.1 (List.mem_filter.1 he).1
      obtain ⟨run', d', hslot', hlast⟩ := h.holds e hmem
      refine ⟨run', d', hgrows.outcomeIn?_eq hslot', ?_⟩
      rw [List.lookup_cons, beq_eq_false_iff_ne.2 hne, hlast]
  · intro other o hmem
    rcases List.mem_cons.1 hmem with heq | hold
    · rw [hanswer] at heq
      obtain rfl := Answer.returned.inj (Prod.mk.inj heq).2
      exact hrun
    · exact Nat.lt_of_lt_of_le (h.run_lt other o hold) hparses

/-- A look-up is remembered, with a parser that always comes to a descriptor. -/
lemma lookUp (h : Remembers capacity limit uses v)
    (hok : ∀ key state, ∃ d, (parser key state).1.settle limit = .returned (.ok d))
    (key : String) :
    Remembers capacity limit (uses ++ [.lookUp key]) (v.use parser (.lookUp key)) := by
  have hparses : (v.cache.obtain key).1.parses = v.cache.parses :=
    congrArg CacheStats.parses counters_obtain
  by_cases hkey : key ∈ v.cache.texts
  · obtain ⟨run, d, hslot, hlast⟩ := h.hits hkey
    have hanswered : (key, .returned ⟨run, .ok d⟩) ∈ v.answers := by
      obtain ⟨front, back, hanswers, -⟩ := List.lookup_eq_some_iff.1 hlast
      simp [hanswers]
    have hrun := h.run_lt key _ hanswered
    have hlook := getOrParse_of_ok parser v.state hslot
    refine h.of_answer hlook rfl rfl ?_ ?_ ?_ ?_
    · exact outcomeIn?_obtain.trans hslot
    · exact (grows_obtain _ _).trans (grows_countHit _)
    · exact hparses ▸ hrun
    · exact Nat.le_of_eq hparses.symm
  · have hempty := empty hkey
    obtain ⟨d, hsettle⟩ := hok key v.state
    have hlook := getOrParse_of_none parser v.state hempty
    rw [h.limit_eq] at hlook
    simp only [hsettle] at hlook
    have hlt : v.cache.slotFor key < (v.cache.missed key).startRun.1.slots.size :=
      lt_size_of_keyOf? (keyOf?_obtain_slotFor h.wellFormed)
    have hgrows : v.cache.Grows (v.cache.missed key).startRun.1 :=
      ((grows_obtain _ _).trans (grows_countMiss _)).trans (grows_startRun _)
    have hstarted : (v.cache.missed key).startRun.1.parses = v.cache.parses + 1 :=
      congrArg (· + 1) hparses
    refine h.of_answer hlook rfl ?_ ?_ (hgrows.trans (grows_fill hlt _)) ?_ ?_
    · rfl
    · have hnone : (v.cache.missed key).startRun.1.outcomeIn? (v.cache.slotFor key) = none :=
        outcomeIn?_obtain.trans hempty
      rw [outcomeIn?_fill hlt, if_pos rfl, hnone, Option.none_or]
    · exact hstarted ▸ Nat.lt_succ_self _
    · exact hstarted ▸ Nat.le_succ _

/-- Whatever the uses, the texts used last are remembered. -/
lemma useAll (hpos : 0 < capacity) (state : σ)
    (hok : ∀ key state, ∃ d, (parser key state).1.settle limit = .returned (.ok d))
    (uses : List Use) :
    Remembers capacity limit uses
      ((Session.start capacity hpos limit state).useAll parser uses) := by
  induction uses using List.reverseRecOn with
  | nil => exact Remembers.start hpos state
  | append_singleton uses u ih =>
    rw [useAll_concat]
    cases u with
    | lookUp key => exact ih.lookUp hok key
    | clear => exact ih.clear

end Remembers

/-- **The cache gives up the least recently used text.**  Callers take turns with look-ups and
clearings, and every run of the parser comes to a descriptor, within the time limit if there is one.
Then the registered texts, most recently used first, are the texts looked up since the last
clearing, latest first and each once, as many as there is room for.  The next look-up of a text is a
hit exactly if the text is among them: no parser is run, and the answer is the very instance that
the last look-up of the text was answered with.  Otherwise it is a miss: the parser is run once, and
what it returns is answered as an instance that no earlier look-up was answered with. -/
theorem least_recently_used_given_up (hpos : 0 < capacity) (limit : Option Duration)
    (parser : Parser σ) (state : σ)
    (hok : ∀ key state, ∃ d, (parser key state).1.settle limit = .returned (.ok d))
    (uses : List Use) :
    let v := (Session.start capacity hpos limit state).useAll parser uses
    v.cache.texts = (recent uses).take capacity ∧
    ∀ key,
      ((v.cache.getOrParse parser.besides key v.state).cache.hits = v.cache.hits + 1 ↔
        key ∈ (recent uses).take capacity) ∧
      (key ∈ (recent uses).take capacity → ∃ run d,
        v.answers.lookup key = some (.returned ⟨run, .ok d⟩) ∧
        v.cache.Hits key (.returned ⟨run, .ok d⟩)) ∧
      (key ∉ (recent uses).take capacity →
        Misses parser v.cache v.state key ∧
        ∀ other o, (other, .returned o) ∈ v.answers → o.run ≠ v.cache.parses) := by
  intro v
  have h : Remembers capacity limit uses v := .useAll hpos state hok uses
  refine ⟨h.texts_eq, fun key => ?_⟩
  rw [← h.texts_eq]
  have hhit (hkey : key ∈ v.cache.texts) : ∃ run d,
      v.answers.lookup key = some (.returned ⟨run, .ok d⟩) ∧
      v.cache.Hits key (.returned ⟨run, .ok d⟩) := by
    obtain ⟨run, d, hslot, hlast⟩ := h.hits hkey
    exact ⟨run, d, hlast, hits_of_ok hslot⟩
  have hmiss (hkey : key ∉ v.cache.texts) : Misses parser v.cache v.state key := by
    obtain ⟨d, hsettle⟩ := hok key v.state
    exact misses_of_none (Remembers.empty hkey) (h.limit_eq ▸ hsettle)
  refine ⟨⟨fun hcount => ?_, fun hkey => ?_⟩, hhit,
    fun hkey => ⟨hmiss hkey, fun other o hmem => ?_⟩⟩
  · -- a miss leaves the number of hits as it is
    by_contra hkey
    have hhits := congrArg CacheStats.hits (hmiss hkey).counters_eq
    exact absurd (hcount.symm.trans hhits) (Nat.succ_ne_self _)
  · obtain ⟨run, d, -, hhits⟩ := hhit hkey
    exact congrArg CacheStats.hits (hhits parser v.state).2.2
  · exact Nat.ne_of_lt (h.run_lt other o hmem)

/-- There is room for two texts, and `a` comes back before `c` takes the place of `b`: the next
look-up of `a` gets the instance of the first run, the one of `b` a new instance. -/
theorem least_recently_used_given_up_of_return :
    let parser : Parser Unit := Parser.pure fun s => .ok { name := s }
    let uses : List Use := [.lookUp "x", .clear, .lookUp "a", .lookUp "b", .lookUp "a", .lookUp "c"]
    let v := (start 2 Nat.two_pos none ()).useAll parser uses
    v.cache.texts = ["c", "a"] ∧
      v.cache.Hits "a" (.returned ⟨1, .ok { name := "a" }⟩) ∧
      Misses parser v.cache v.state "b" := by
  intro parser uses v
  have hrecent : (recent uses).take 2 = ["c", "a"] := by decide
  have hlast : v.answers.lookup "a" = some (.returned ⟨1, .ok { name := "a" }⟩) := by
    decide +kernel
  obtain ⟨htexts, hnext⟩ := least_recently_used_given_up Nat.two_pos none parser ()
    (fun key _ => ⟨{ name := key }, rfl⟩) uses
  rw [hrecent] at htexts hnext
  refine ⟨htexts, ?_, ((hnext "b").2.2 (by decide)).1⟩
  obtain ⟨run, d, hanswer, hhits⟩ := (hnext "a").2.1 (by decide)
  obtain ⟨⟨⟩⟩ := hlast.symm.trans hanswer
  exact hhits

end Session

end Cache

end ClientCounters
