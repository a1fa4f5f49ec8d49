/-
# Recording without a memory

What recording comes to when nothing is remembered: the text is parsed anew for every request,
and every key is compiled anew.  It says what a request counts for, whatever came before it.
-/
import ClientCounters.Meter.Record

namespace ClientCounters.Plain

variable {κ : Type} [ComponentSource κ]

/-- What a key comes to for a request, its text compiled anew; the components do not change. -/
def keyOutcome (space : String) (context : ResolutionContext) (components : κ) (key : String) :
    KeyOutcome :=
  ⟨key,
    match (KeyExpression.resolve key context components).1 with
    | .error e => .error e
    | .ok v =>
      if Text.isBlankText v then .error (.emptyValue key)
      else .ok ⟨normalize space ++ "." ++ normalize v⟩⟩

/-- What a request comes to under some settings, its client parsed anew. -/
def record (s : Settings) (parse : String → Except ParseError Descriptor) (components : κ) :
    Http.Inbound → DispatchOutcome
  | .other => .skipped .notHttp
  | .http view =>
    match (view.header s.headerName).filter (!Text.isBlankText ·) with
    | none => .skipped .missingHeader
    | some userAgent =>
      match parse userAgent with
      | .error e => .parseFailed e
      | .ok d =>
        let space := if Text.isBlankText s.space then defaultSpace else s.space
        .evaluated (s.effectiveKeys.map (keyOutcome space ⟨d, view⟩ components))

end ClientCounters.Plain
