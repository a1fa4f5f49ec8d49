/-
# What the counters come to

Adding to a counter changes that counter only, and makes it when it is missing.  The names of a
registry ascend, so that two registries whose counters are the same are the same: it makes no
difference in which order counters were made or added to.
-/
import Mathlib.Data.List.Perm.Basic
import Mathlib.Tactic.Common
import ClientCounters.Meter.Record

namespace ClientCounters

variable {name other : String} {amount : UInt64} {entries entries' : List (String × UInt64)}

/-! ## Rows of counters in ascending order -/

/-- The names of some counters ascend. -/
def Ascending (entries : List (String × UInt64)) : Prop :=
  entries.Pairwise fun a b => a.1 < b.1

/-- The first counter is found under its name, and the others are found behind it. -/
lemma lookup_cons_eq_ite (n : String) (v : UInt64) :
    ((n, v) :: entries).lookup name = if name = n then some v else entries.lookup name := by
  rw [List.lookup_cons]
  by_cases h : name = n
  · simp [h]
  · rw [if_neg h, beq_eq_false_iff_ne.2 h]

namespace Ascending

/-- A name in front of all others is found in none of them. -/
lemma lookup_eq_none (h : ∀ e ∈ entries, name < e.1) : entries.lookup name = none := by
  rw [List.lookup_eq_none_iff]
  intro e he
  have hne : name ≠ e.1 := fun heq => String.lt_irrefl name (heq ▸ h e he)
  simpa using hne

lemma lookup_eq_some_iff (h : Ascending entries) {v : UInt64} :
    entries.lookup name = some v ↔ (name, v) ∈ entries := by
  induction entries with
  | nil => simp
  | cons e rest ih =>
    obtain ⟨n, w⟩ := e
    obtain ⟨hfront, hrest⟩ := List.pairwise_cons.1 h
    rw [lookup_cons_eq_ite, List.mem_cons]
    by_cases hn : name = n
    · -- the counter is the first one, and none of the others has its name
      subst hn
      have hnot : (name, v) ∉ rest := fun hmem => String.lt_irrefl name (hfront _ hmem)
      simp [hnot, eq_comm]
    · simp [hn, ih hrest]

/-- Two rows in which the same is found are the same. -/
lemma eq_of_lookup_eq (h : Ascending entries) (h' : Ascending entries')
    (heq : ∀ name, entries.lookup name = entries'.lookup name) : entries = entries' := by
  have hnodup : ∀ {es}, Ascending es → es.Nodup := by
    intro es hes
    refine hes.imp ?_
    rintro a b hlt rfl
    exact String.lt_irrefl a.1 hlt
  have hperm : entries.Perm entries' := by
    rw [List.perm_ext_iff_of_nodup (hnodup h) (hnodup h')]
    rintro ⟨name, v⟩
    rw [← h.lookup_eq_some_iff, heq, h'.lookup_eq_some_iff]
  exact hperm.eq_of_pairwise (fun a b _ _ hab hba =>
    absurd (String.lt_trans hab hba) (String.lt_irrefl a.1)) h h'

/-- Adding changes the counter it is meant for and no other. -/
lemma lookup_addToEntries (h : Ascending entries) :
    (addToEntries name amount entries).lookup other =
      if other = name then some ((entries.lookup name).getD 0 + amount)
      else entries.lookup other := by
  induction entries with
  | nil => simp [addToEntries, lookup_cons_eq_ite]
  | cons e rest ih =>
    obtain ⟨n, v⟩ := e
    obtain ⟨hfront, hrest⟩ := List.pairwise_cons.1 h
    rw [addToEntries]
    split
    · next hlt =>
      -- the counter is missing, and is made in front of all others
      have hnone : ((n, v) :: rest).lookup name = none := by
        refine lookup_eq_none fun e he => ?_
        rcases List.mem_cons.1 he with rfl | he
        · exact hlt
        · exact String.lt_trans hlt (hfront e he)
      simp [hnone, lookup_cons_eq_ite name amount]
    · split
      · next heq =>
        subst heq
        simp only [lookup_cons_eq_ite, if_pos, Option.getD_some]
        split <;> rfl
      · next hne =>
        simp only [lookup_cons_eq_ite, ih hrest, if_neg hne]
        by_cases ho : other = n
        · subst ho
          simp [Ne.symm hne]
        · simp [ho]

end Ascending

namespace CounterRegistry

variable {r r' : CounterRegistry}

/-- A registry is decided by what is found in it. -/
lemma ext_lookup (h : ∀ name, r.entries.lookup name = r'.entries.lookup name) : r = r' := by
  have heq := Ascending.eq_of_lookup_eq r.ascending r'.ascending h
  cases r
  cases r'
  simpa using heq

/-- The snapshot has the counters that are there, with their values. -/
lemma mem_snapshot_iff {v : UInt64} :
    (name, v) ∈ r.snapshot ↔ r.contains name = true ∧ r.get name = v := by
  rw [snapshot, ← Ascending.lookup_eq_some_iff r.ascending, contains, get]
  cases hlook : r.entries.lookup name with
  | none =>
    have hnot : r.entries.any (·.1 == name) = false := by
      rw [List.any_eq_false]
      intro e he
      have hne : name ≠ e.1 := by simpa using List.lookup_eq_none_iff.1 hlook e he
      simpa using hne.symm
    simp [hnot]
  | some w =>
    have hmem : (name, w) ∈ r.entries := (Ascending.lookup_eq_some_iff r.ascending).1 hlook
    have hany : r.entries.any (·.1 == name) = true := List.any_eq_true.2 ⟨_, hmem, by simp⟩
    simp [hany]

/-- It makes no difference whether the counter was there before. -/
lemma add_eq_addOrCreate (r : CounterRegistry) (name : String) (amount : UInt64) :
    r.add name amount = r.addOrCreate name amount := by
  rw [add, addExisting?]
  split <;> rfl

lemma lookup_add (r : CounterRegistry) (name : String) (amount : UInt64) (other : String) :
    (r.add name amount).entries.lookup other =
      if other = name then some (r.get name + amount) else r.entries.lookup other := by
  rw [add_eq_addOrCreate]
  exact Ascending.lookup_addToEntries r.ascending

lemma get_add (r : CounterRegistry) (name : String) (amount : UInt64) (other : String) :
    (r.add name amount).get other =
      if other = name then r.get name + amount else r.get other := by
  rw [get, lookup_add]
  split <;> rfl

/-- Two additions may change places. -/
lemma add_right_comm (r : CounterRegistry) (name other : String) (amount amount' : UInt64) :
    (r.add name amount).add other amount' = (r.add other amount').add name amount := by
  refine ext_lookup fun third => ?_
  simp only [lookup_add, get_add]
  by_cases h : name = other
  · subst h
    simp only [if_pos, UInt64.add_assoc, UInt64.add_comm amount amount']
    split <;> rfl
  · simp only [if_neg h, if_neg (Ne.symm h)]
    split
    · next h' => rw [if_neg (fun h'' => h (h''.symm.trans h'))]
    · rfl

/-! ## Counting names -/

/-- Every counter goes up by the number of times that its name occurs. -/
lemma get_incrementAll (r : CounterRegistry) (names : List MetricName) (name : String) :
    (r.incrementAll names).get name =
      r.get name + UInt64.ofNat (names.countP (·.text = name)) := by
  induction names generalizing r with
  | nil => exact (UInt64.add_zero _).symm
  | cons first names ih =>
    have hfirst : (r.incrementAll (first :: names)) =
        (r.increment first.text).incrementAll names := rfl
    rw [hfirst, ih, increment, get_add, List.countP_cons]
    by_cases h : first.text = name
    · subst h
      simp only [if_pos, decide_true, UInt64.ofNat_add, UInt64.add_assoc]
      rw [UInt64.add_comm (UInt64.ofNat (List.countP _ _))]
      rfl
    · simp [h, Ne.symm h]

lemma incrementAll_append (r : CounterRegistry) (names names' : List MetricName) :
    r.incrementAll (names ++ names') = (r.incrementAll names).incrementAll names' :=
  List.foldl_append

/-- It makes no difference in which order names are counted. -/
lemma incrementAll_perm {names names' : List MetricName} (h : names.Perm names')
    (r : CounterRegistry) : r.incrementAll names = r.incrementAll names' :=
  h.foldl_eq' (fun first _ second _ r => add_right_comm r first.text second.text 1 1) r

end CounterRegistry

end ClientCounters
