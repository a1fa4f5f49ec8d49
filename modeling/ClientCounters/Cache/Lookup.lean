/-
# Looking a text up

A look-up obtains the slot of its text.  A slot with a descriptor answers at once.  Otherwise the
look-up takes the outcome of the slot, and if there is none yet it runs the parser to fill it; a
slot that holds an error is taken out before the error is returned.  The parser may itself use
the cache while it runs, and several callers may obtain the slot before one of them fills it.
-/
import ClientCounters.Cache.Basic

namespace ClientCounters

/-- The answer of a look-up, with the cache and the parser's state after it and the events that
it logged. -/
structure Lookup (σ : Type) where
  answer : Answer
  cache : Cache
  state : σ
  events : List LogEvent

namespace Cache

variable {σ : Type}

/-- Hands an outcome to a caller; an error is taken out of the cache first. -/
def deliver (c : Cache) (key : String) (slot : SlotId) (o : Outcome) : Cache × List LogEvent :=
  match o.result with
  | .ok _ => (c, [])
  | .error e => (c.discard key slot, [.discarded e])

/-- Runs the parser for a slot.  When it crashes the slot stays empty. -/
def runParser (parser : Parser (Cache × σ)) (key : String) (slot : SlotId) (c : Cache)
    (state : σ) : Option Outcome × Cache × σ :=
  let (c, run) := c.startRun
  let (r, c, state) := parser key (c, state)
  match r.settle c.limit with
  | .returned result =>
    let o : Outcome := ⟨run, result⟩
    (some o, c.fill slot o, state)
  | .crashed => (none, c, state)

/-- The rest of a look-up that was counted as a miss. -/
def await (parser : Parser (Cache × σ)) (key : String) (slot : SlotId) (c : Cache) (state : σ) :
    Lookup σ :=
  match c.outcomeIn? slot with
  | some o =>
    let (c, events) := c.deliver key slot o
    ⟨.returned o, c, state, events⟩
  | none =>
    match c.runParser parser key slot state with
    | (some o, c, state) =>
      let (c, events) := c.deliver key slot o
      ⟨.returned o, c, state, events⟩
    | (none, c, state) => ⟨.crashed, c, state, []⟩

/-- The descriptor of a text, from the cache or from the parser. -/
def getOrParse (parser : Parser (Cache × σ)) (key : String) (c : Cache) (state : σ) : Lookup σ :=
  let (c, slot, evicted) := c.obtain key
  match c.outcomeIn? slot with
  | some ⟨run, .ok d⟩ => ⟨.returned ⟨run, .ok d⟩, c.countHit, state, evicted⟩
  | _ =>
    let r := c.countMiss.await parser key slot state
    { r with events := evicted ++ r.events }

/-- The rest of several look-ups that wait for the same slot, one caller after the other. -/
def awaitAll (parser : Parser (Cache × σ)) (key : String) (slot : SlotId) :
    (callers : Nat) → Cache → σ → List Answer × Cache × σ
  | 0, c, state => ([], c, state)
  | callers + 1, c, state =>
    let r := c.await parser key slot state
    let (answers, c, state) := awaitAll parser key slot callers r.cache r.state
    (r.answer :: answers, c, state)

/-- The answers to several callers that look the same text up at once: all of them obtain the
slot before the first run of the parser ends. -/
def burst (parser : Parser (Cache × σ)) (key : String) (callers : Nat) (c : Cache) (state : σ) :
    List Answer × Cache × σ :=
  if callers = 0 then ([], c, state)
  else
    let (c, slot, _) := c.obtain key
    match c.outcomeIn? slot with
    | some ⟨run, .ok d⟩ =>
      (List.replicate callers (.returned ⟨run, .ok d⟩), { c with hits := c.hits + callers }, state)
    | _ => { c with misses := c.misses + callers }.awaitAll parser key slot callers state

end Cache

end ClientCounters
