/-
# Parsers

A parser turns an identification text into a descriptor.  The cache calls it and takes care of
its failures; what it answers may depend on a state of its own.  A run may also take too long or
crash.
-/
import ClientCounters.Client.Recognition

namespace ClientCounters

/-- How a run of a parser ends. -/
inductive ParserReply where
  /-- With a descriptor or an error. -/
  | returned (result : Except ParseError Descriptor)
  /-- With a crash. -/
  | crashed

/-- A run of a parser. -/
structure ParserRun where
  /-- How long it takes. -/
  elapsed : Duration := ⟨0⟩
  /-- How it ends. -/
  reply : ParserReply

/-- A parser with a state of its own. -/
abbrev Parser (σ : Type) := String → σ → ParserRun × σ

namespace ParserRun

/-- What is said of a crash that is kept from the caller. -/
def lostReply : String := "parser thread exited without a result"

/-- What a caller gets to see of a run.  With a time limit the run takes place apart from the
caller: one that exceeds the limit counts as timed out, and a crash as an error of the parser. -/
def settle (limit : Option Duration) (r : ParserRun) : ParserReply :=
  match limit with
  | none => r.reply
  | some d =>
    if d.nanoseconds < r.elapsed.nanoseconds then .returned (.error (.timeout d))
    else
      match r.reply with
      | .returned result => .returned result
      | .crashed => .returned (.error (.parser lostReply))

end ParserRun

namespace Parser

/-- A parser that is a function of the text alone. -/
def pure {σ : Type} (parse : String → Except ParseError Descriptor) : Parser σ :=
  fun s state => ({ reply := .returned (parse s) }, state)

/-- The built-in parser. -/
def builtIn {σ : Type} : Parser σ :=
  pure Recognition.recognize

/-- A parser among others: it leaves the other part of the state alone. -/
def besides {τ σ : Type} (p : Parser σ) : Parser (τ × σ) :=
  fun s (other, state) =>
    let (r, state) := p s state
    (r, other, state)

end Parser

end ClientCounters
