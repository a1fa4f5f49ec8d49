/-
# Counters by name

A registry holds one 64-bit counter for every name that was ever added to, in ascending order of
the names; additions wrap around.  An addition is made of two steps that may be separated in
time: one that adds when the counter is there, and one that adds and makes the counter if it is
still missing.
-/
namespace ClientCounters

/-- The counters with an amount added to one of them, which is made if it is missing. -/
def addToEntries (name : String) (amount : UInt64) :
    List (String × UInt64) → List (String × UInt64)
  | [] => [(name, amount)]
  | (n, v) :: rest =>
    if name < n then (name, amount) :: (n, v) :: rest
    else if name = n then (n, v + amount) :: rest
    else (n, v) :: addToEntries name amount rest

theorem mem_addToEntries {name : String} {amount : UInt64} {entries : List (String × UInt64)}
    {e : String × UInt64} (h : e ∈ addToEntries name amount entries) :
    e.1 = name ∨ ∃ v, (e.1, v) ∈ entries := by
  induction entries with
  | nil => simp_all [addToEntries]
  | cons head rest ih =>
    obtain ⟨n, v⟩ := head
    unfold addToEntries at h
    split at h
    · rcases List.mem_cons.1 h with rfl | h
      · exact .inl rfl
      · exact .inr ⟨e.2, h⟩
    · split at h
      · rcases List.mem_cons.1 h with rfl | h
        · exact .inr ⟨v, by simp⟩
        · exact .inr ⟨e.2, by simp [h]⟩
      · rcases List.mem_cons.1 h with rfl | h
        · exact .inr ⟨v, by simp⟩
        · rcases ih h with h | ⟨w, hw⟩
          · exact .inl h
          · exact .inr ⟨w, by simp [hw]⟩

/-- Adding keeps the names ascending. -/
theorem pairwise_addToEntries {name : String} {amount : UInt64}
    {entries : List (String × UInt64)} (h : entries.Pairwise fun a b => a.1 < b.1) :
    (addToEntries name amount entries).Pairwise fun a b => a.1 < b.1 := by
  induction entries with
  | nil => simp [addToEntries]
  | cons head rest ih =>
    obtain ⟨n, v⟩ := head
    obtain ⟨hn, hrest⟩ := List.pairwise_cons.1 h
    unfold addToEntries
    split
    · next hlt =>
      refine List.pairwise_cons.2 ⟨fun e he => ?_, h⟩
      rcases List.mem_cons.1 he with rfl | he
      · exact hlt
      · exact String.lt_trans hlt (hn e he)
    · next hlt =>
      split
      · next heq =>
        exact List.pairwise_cons.2 ⟨fun e he => hn e he, hrest⟩
      · next hne =>
        have hgt : n < name := by
          have hle : n ≤ name := String.not_lt.1 hlt
          exact Std.lt_of_le_of_ne hle (Ne.symm hne)
        refine List.pairwise_cons.2 ⟨fun e he => ?_, ih hrest⟩
        rcases mem_addToEntries he with hname | ⟨w, hw⟩
        · simpa [hname] using hgt
        · exact hn (e.1, w) hw

/-- The counters that were ever added to. -/
structure CounterRegistry where
  /-- The names and values of the counters. -/
  entries : List (String × UInt64) := []
  /-- The names ascend. -/
  ascending : entries.Pairwise fun a b => a.1 < b.1 := by exact List.Pairwise.nil

namespace CounterRegistry

/-- A registry without counters. -/
def empty : CounterRegistry := {}

/-- The value of a counter; one that was never added to counts as 0. -/
def get (r : CounterRegistry) (name : String) : UInt64 :=
  (r.entries.lookup name).getD 0

/-- Whether there is a counter of this name. -/
def contains (r : CounterRegistry) (name : String) : Bool :=
  r.entries.any (·.1 == name)

/-- Adds to a counter, which is made if it is missing. -/
def addOrCreate (r : CounterRegistry) (name : String) (amount : UInt64) : CounterRegistry where
  entries := addToEntries name amount r.entries
  ascending := pairwise_addToEntries r.ascending

/-- Adds to a counter that is there. -/
def addExisting? (r : CounterRegistry) (name : String) (amount : UInt64) :
    Option CounterRegistry :=
  if r.contains name then some (r.addOrCreate name amount) else none

/-- Adds to a counter: first as if it were there, then making it. -/
def add (r : CounterRegistry) (name : String) (amount : UInt64) : CounterRegistry :=
  (r.addExisting? name amount).getD (r.addOrCreate name amount)

/-- Adds one to a counter. -/
def increment (r : CounterRegistry) (name : String) : CounterRegistry :=
  r.add name 1

/-- All counters with their values, in ascending order of the names. -/
def snapshot (r : CounterRegistry) : List (String × UInt64) :=
  r.entries

/-- The number of counters. -/
def size (r : CounterRegistry) : Nat :=
  r.entries.length

/-- Whether no counter was ever added to. -/
def isEmpty (r : CounterRegistry) : Bool :=
  r.entries.isEmpty

/-- Forgets all counters. -/
def reset (_ : CounterRegistry) : CounterRegistry :=
  empty

end CounterRegistry

end ClientCounters
