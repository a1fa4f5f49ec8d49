/-
# The descriptor cache

The cache keeps the outcomes of parser runs by identification text, at most `capacity` of them,
and forgets the least recently used first.  A text is registered with a slot.  A slot is made
empty, is filled at most once, and outlives its registration for the callers that wait for it; a
slot that was filled with an error is taken out again.
-/
import ClientCounters.Log
import ClientCounters.Parser

namespace ClientCounters

/-- The number of a slot; slots are numbered as they are made. -/
abbrev SlotId := Nat

/-- What a run of the parser came to.  Callers that get the outcome of one run share it. -/
structure Outcome where
  /-- The number of the run; runs are numbered as they start. -/
  run : Nat
  /-- What the run returned. -/
  result : Except ParseError Descriptor

/-- A place for one outcome. -/
structure Slot where
  /-- The text it was made for. -/
  key : String
  /-- The outcome, once there is one. -/
  outcome : Option Outcome := none

/-- What a look-up comes to for its caller. -/
inductive Answer where
  /-- An outcome, shared with other callers. -/
  | returned (outcome : Outcome)
  /-- A crash of the parser. -/
  | crashed

/-- What a cache has done so far. -/
structure CacheStats where
  /-- Look-ups answered from a filled slot. -/
  hits : Nat := 0
  /-- Look-ups that had to wait for a run of the parser or to start one. -/
  misses : Nat := 0
  /-- Runs of the parser. -/
  parses : Nat := 0
  /-- Runs that failed. -/
  failures : Nat := 0
  /-- Texts that are registered. -/
  entries : Nat := 0
deriving DecidableEq, Repr

/-- A bounded cache of descriptors. -/
structure Cache where
  /-- The greatest number of registered texts. -/
  capacity : Nat
  /-- There is room for at least one. -/
  capacity_pos : 0 < capacity
  /-- The time limit of a run of the parser. -/
  limit : Option Duration := none
  /-- The registered texts with their slots, most recently used first. -/
  resident : List (String × SlotId) := []
  /-- All slots that were ever made. -/
  slots : Array Slot := #[]
  /-- Look-ups answered from a filled slot. -/
  hits : Nat := 0
  /-- Look-ups that were not. -/
  misses : Nat := 0
  /-- Runs of the parser. -/
  parses : Nat := 0
  /-- Runs that failed. -/
  failures : Nat := 0

namespace Cache

/-- The greatest capacity that a table can be laid out for.  A table has a power of two of places,
seven in eight of which can be used, and takes 17 bytes a place; beyond `2 ^ 58` places that is
more than the `2 ^ 63` bytes one block of memory may have. -/
def maxCapacity : Nat := 7 * Nat.pow 2 55

/-- An empty cache, if a table of its capacity can be laid out. -/
def make? (capacity : Nat) (capacity_pos : 0 < capacity) (limit : Option Duration) :
    Option Cache :=
  if capacity ≤ maxCapacity then some { capacity, capacity_pos, limit } else none

/-- The number of registered texts. -/
def size (c : Cache) : Nat :=
  c.resident.length

/-- Whether nothing is registered. -/
def isEmpty (c : Cache) : Bool :=
  c.resident.isEmpty

/-- What the cache has done so far. -/
def stats (c : Cache) : CacheStats :=
  ⟨c.hits, c.misses, c.parses, c.failures, c.size⟩

/-- The slot a text is registered with. -/
def slotOf? (c : Cache) (key : String) : Option SlotId :=
  c.resident.lookup key

/-- The outcome in a slot. -/
def outcomeIn? (c : Cache) (slot : SlotId) : Option Outcome :=
  c.slots[slot]?.bind (·.outcome)

/-- The registered texts but one. -/
def without (c : Cache) (key : String) : List (String × SlotId) :=
  c.resident.filter (·.1 != key)

/-- Finds or makes the slot of a text, which becomes the most recently used one.  A new text
takes the place of the least recently used one when the cache is full. -/
def obtain (c : Cache) (key : String) : Cache × SlotId × List LogEvent :=
  match c.slotOf? key with
  | some slot => ({ c with resident := (key, slot) :: c.without key }, slot, [])
  | none =>
    let slot := c.slots.size
    let kept := c.resident.take (c.capacity - 1)
    let evicted := c.resident.drop (c.capacity - 1)
    ({ c with
        resident := (key, slot) :: kept
        slots := c.slots.push { key } },
      slot, evicted.map fun e => .evicted e.1)

/-- Counts a look-up that a filled slot answers. -/
def countHit (c : Cache) : Cache :=
  { c with hits := c.hits + 1 }

/-- Counts a look-up that has to wait. -/
def countMiss (c : Cache) : Cache :=
  { c with misses := c.misses + 1 }

/-- Counts a run of the parser that starts; its number is the number of runs before. -/
def startRun (c : Cache) : Cache × Nat :=
  ({ c with parses := c.parses + 1 }, c.parses)

/-- Fills an empty slot with the outcome of a run, and counts the failure if it is one. -/
def fill (c : Cache) (slot : SlotId) (o : Outcome) : Cache :=
  { c with
    slots := c.slots.modify slot fun s => { s with outcome := s.outcome.or (some o) }
    failures := if o.result matches .error _ then c.failures + 1 else c.failures }

/-- Takes a slot out, unless its text is by now registered with another one. -/
def discard (c : Cache) (key : String) (slot : SlotId) : Cache :=
  if c.slotOf? key = some slot then { c with resident := c.without key } else c

/-- Takes all slots out. -/
def clear (c : Cache) : Cache :=
  { c with resident := [] }

/-- The statistics as diagnostics show them. -/
def statsDiagnostic (s : CacheStats) : String :=
  "CacheStats \x7b hits: " ++ toString s.hits ++ ", misses: " ++ toString s.misses ++
    ", parses: " ++ toString s.parses ++ ", failures: " ++ toString s.failures ++
    ", entries: " ++ toString s.entries ++ " \x7d"

/-- The cache as diagnostics show it. -/
def diagnostic (c : Cache) : String :=
  let limit :=
    match c.limit with
    | some d => "Some(" ++ d.toString ++ ")"
    | none => "None"
  "DescriptorCache \x7b capacity: " ++ toString c.capacity ++ ", parse_timeout: " ++ limit ++
    ", stats: " ++ statsDiagnostic c.stats ++ ", .. \x7d"

end Cache

end ClientCounters
