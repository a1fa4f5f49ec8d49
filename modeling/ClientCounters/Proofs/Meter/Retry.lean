/-
# Clients that are parsed again

A meter remembers descriptors and nothing else.  When a recording did not come to outcomes of the
keys, because the parser crashed or failed or took too long, the next recording with the same
identification text has the text parsed again, whatever was recorded in between, and a descriptor
that is found then is evaluated like any other.  What carries the proof is `InUse`, which every
recording keeps, and that the cache has forgotten the text.
-/
import ClientCounters.Proofs.Cache.Retry
import ClientCounters.Proofs.Meter.Building
import ClientCounters.Proofs.Meter.Keys
import ClientCounters.Proofs.Meter.Recording

namespace ClientCounters

/-- The identification text of something that flows through a pipeline, if it has one that is not
blank. -/
def Http.Inbound.clientText? (header : String) : Http.Inbound → Option String
  | .other => none
  | .http view => (view.header header).filter (!Text.isBlankText ·)

namespace Meter

variable {σ κ : Type} [ComponentSource κ] {s : Settings} {m : Meter σ κ} {parser : Parser σ}
  {request : Http.Inbound} {view : Http.View} {userAgent : String}

/-! ## How a recording goes on -/

/-- Without an identification text nothing happens. -/
lemma record_of_clientText?_eq_none (h : request.clientText? m.headerName = none) :
    (m.record request).meter = m ∧
      ∃ reason, (m.record request).outcome = some (.skipped reason) := by
  cases request with
  | other => exact ⟨rfl, .notHttp, rfl⟩
  | http view =>
    have hid : m.identification? view = none := h
    rw [record, hid]
    exact ⟨rfl, .missingHeader, rfl⟩

lemma record_http_of_clientText?
    (h : Http.Inbound.clientText? m.headerName (.http view) = some userAgent) :
    m.record (.http view) = m.recordIdentified view userAgent := by
  have hid : m.identification? view = some userAgent := h
  rw [record, hid]

lemma record_of_clientText? (h : request.clientText? m.headerName = some userAgent) :
    ∃ view, request = .http view ∧ m.record request = m.recordIdentified view userAgent := by
  cases request with
  | other => cases h
  | http view => exact ⟨view, rfl, record_http_of_clientText? h⟩

/-- Whatever a look-up comes to, the meter keeps its parser, and its cache and the state of its
parser are as the look-up leaves them. -/
lemma meter_recordIdentified (m : Meter σ κ) (view : Http.View) (userAgent : String) :
    let look := m.cache.getOrParse m.parser.besides userAgent m.parserState
    (m.recordIdentified view userAgent).meter.parser = m.parser ∧
      (m.recordIdentified view userAgent).meter.cache = look.cache ∧
      (m.recordIdentified view userAgent).meter.parserState = look.state := by
  dsimp only
  rw [recordIdentified]
  dsimp only
  split <;> exact ⟨rfl, rfl, rfl⟩

/-! ## What every recording keeps -/

/-- A meter for these settings and this parser, with a cache in good order. -/
structure InUse (s : Settings) (parser : Parser σ) (m : Meter σ κ) : Prop where
  configured : Configured s m
  parser : m.parser = parser
  cache : m.cache.WellFormed

namespace InUse

omit [ComponentSource κ] in
lemma of_build {state : σ} {components : κ} (h : m ∈ (build s parser state components).1) :
    InUse s parser m := by
  refine ⟨.of_build h, ?_, ?_⟩
  · obtain ⟨c, -, rfl⟩ := Option.map_eq_some_iff.1 h
    rfl
  · obtain ⟨c, hc, rfl⟩ := Option.map_eq_some_iff.1 h
    rw [Cache.make?] at hc
    split at hc
    · obtain rfl := Option.some.inj hc
      exact ⟨List.nodup_nil, Nat.zero_le _, by simp⟩
    · cases hc

lemma record (h : InUse s parser m) (request : Http.Inbound) :
    InUse s parser (m.record request).meter := by
  have hconfigured := h.configured.use (.record request)
  cases hid : request.clientText? m.headerName with
  | none => rwa [(record_of_clientText?_eq_none hid).1]
  | some userAgent =>
    obtain ⟨view, -, heq⟩ := record_of_clientText? hid
    obtain ⟨hparser, hcache, -⟩ := meter_recordIdentified m view userAgent
    rw [← heq] at hparser hcache
    refine ⟨hconfigured, hparser.trans h.parser, ?_⟩
    rw [hcache]
    exact h.cache.getOrParse m.parser userAgent m.parserState

/-! ## Forgotten texts -/

/-- A recording of something else leaves a text forgotten. -/
lemma forgotten_record (h : InUse s parser m) (hforgotten : m.cache.Forgotten userAgent)
    (hne : request.clientText? s.headerName ≠ some userAgent) :
    (m.record request).meter.cache.Forgotten userAgent := by
  rw [← h.configured.headerName] at hne
  cases hid : request.clientText? m.headerName with
  | none => rwa [(record_of_clientText?_eq_none hid).1]
  | some other =>
    obtain ⟨view, -, heq⟩ := record_of_clientText? hid
    rw [heq, (meter_recordIdentified m view other).2.1]
    refine hforgotten.getOrParse h.cache ?_ m.parser m.parserState
    rintro rfl
    exact hne hid

/-- A text is forgotten by a recording that did not come to outcomes of the keys. -/
lemma forgotten_of_failed (h : InUse s parser m)
    (hid : request.clientText? s.headerName = some userAgent)
    (hfailed : ∀ outs, (m.record request).outcome ≠ some (.evaluated outs)) :
    (m.record request).meter.cache.Forgotten userAgent := by
  rw [← h.configured.headerName] at hid
  obtain ⟨view, -, heq⟩ := record_of_clientText? hid
  rw [heq, (meter_recordIdentified m view userAgent).2.1]
  refine Cache.forgotten_of_failed h.cache m.parser m.parserState fun run d hanswer => ?_
  rw [heq] at hfailed
  exact hfailed _ (outcome_of_ok view hanswer)

end InUse

/-! ## Parsing anew -/

/-- What a recording comes to for which the parser is run on a text: the parser has run once more,
and the outcome is that of this run.  With a descriptor every key comes to what it comes to on its
own, with the components as the keys in front of it leave them. -/
structure ParsesAnew (s : Settings) (view : Http.View) (userAgent : String) (m : Meter σ κ)
    (r : Recording σ κ) : Prop where
  state : r.meter.parserState = (m.parser userAgent m.parserState).2
  parses : r.meter.cache.parses = m.cache.parses + 1
  crashed : (m.parser userAgent m.parserState).1.settle s.parseTimeout = .crashed →
    r.outcome = none
  failed : ∀ e, (m.parser userAgent m.parserState).1.settle s.parseTimeout =
    .returned (.error e) → r.outcome = some (.parseFailed e)
  evaluated : ∀ d, (m.parser userAgent m.parserState).1.settle s.parseTimeout =
    .returned (.ok d) → ∃ outs, r.outcome = some (.evaluated outs) ∧
      r.increments = (DispatchOutcome.evaluated outs).emitted ∧
      ∀ j, outs[j]? = s.effectiveKeys[j]?.map (Plain.keyOutcome (spaceOf s) ⟨d, view⟩
        (Plain.afterKeys ⟨d, view⟩ m.components (s.effectiveKeys.take j)))

/-- A text that was forgotten is parsed anew. -/
lemma InUse.parsesAnew (h : InUse s parser m) (hforgotten : m.cache.Forgotten userAgent)
    (hid : Http.Inbound.clientText? s.headerName (.http view) = some userAgent) :
    ParsesAnew s view userAgent m (m.record (.http view)) := by
  rw [← h.configured.headerName] at hid
  obtain ⟨hstate, hparses, hanswer⟩ := hforgotten.runs m.parser m.parserState
  obtain ⟨-, hcache, hparserState⟩ := meter_recordIdentified m view userAgent
  rw [h.configured.limit] at hanswer
  rw [record_http_of_clientText? hid]
  refine ⟨hparserState.trans hstate, ?_, ?_, ?_, ?_⟩
  · rw [hcache, hparses]
  · intro hsettle
    rw [hsettle] at hanswer
    exact outcome_of_crashed view hanswer
  · intro e hsettle
    rw [hsettle] at hanswer
    exact outcome_of_error view hanswer
  · intro d hsettle
    rw [hsettle] at hanswer
    have hevaluated := outcome_of_ok view hanswer
    refine ⟨_, hevaluated, ?_, fun j => ?_⟩
    · rw [increments_recordIdentified, hevaluated]
      rfl
    · rw [h.configured.keys, h.configured.space]
      exact getElem?_outcomes _ _ _ _ j

/-- A guarded recording comes to the same. -/
lemma ParsesAnew.guarded (h : ParsesAnew s view userAgent m (m.record request)) :
    ParsesAnew s view userAgent m (m.recordGuarded request) := by
  obtain ⟨events, heq⟩ := recordGuarded_eq m request
  rw [heq]
  exact ⟨h.state, h.parses, h.crashed, h.failed, h.evaluated⟩

end Meter

end ClientCounters
