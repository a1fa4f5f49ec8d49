/-
# The four traces of a recording

A recording leaves traces in four places: in its outcome, in the counters, in what is logged, and in
what becomes of the meter.  They agree.  The cache logs events of its own while it is asked for a
descriptor; all else that is logged follows from the outcome.
-/
import ClientCounters.Proofs.Cache.Lookup
import ClientCounters.Proofs.Meter.Retry

namespace ClientCounters

/-! ## Events of the cache -/

/-- Whether it is the cache that logs an event. -/
def LogEvent.ofCache : LogEvent → Bool
  | evicted _ | discarded _ => true
  | _ => false

namespace Cache

variable {σ : Type} {c : Cache} {key : String} {event : LogEvent}

lemma ofCache_of_mem_obtain (h : event ∈ (c.obtain key).2.2) : event.ofCache = true := by
  rw [obtain] at h
  split at h
  · cases h
  · obtain ⟨entry, -, rfl⟩ := List.mem_map.1 h
    rfl

/-- A look-up logs what the cache does and nothing else. -/
lemma ofCache_events_getOrParse (c : Cache) (parser : Parser σ) (key : String) (state : σ) :
    ∀ event ∈ (c.getOrParse parser.besides key state).events, event.ofCache = true := by
  intro event h
  have hdiscarded {e : ParseError} (h : event ∈ (c.obtain key).2.2 ++ [.discarded e]) :
      event.ofCache = true := by
    rcases List.mem_append.1 h with h | h
    · exact ofCache_of_mem_obtain h
    · obtain rfl := List.mem_singleton.1 h
      rfl
  rcases ho : c.outcomeIn? (c.slotFor key) with _ | ⟨run, e | d⟩
  · rw [getOrParse_of_none parser state ho] at h
    dsimp only at h
    split at h
    · exact ofCache_of_mem_obtain h
    · exact hdiscarded h
    · exact ofCache_of_mem_obtain h
  · rw [getOrParse_of_error parser state ho] at h
    exact hdiscarded h
  · rw [getOrParse_of_ok parser state ho] at h
    exact ofCache_of_mem_obtain h

/-- A look-up crashes only if the parser does. -/
lemma answer_ne_crashed {parser : Parser σ} {state : σ}
    (h : (parser key state).1.settle c.limit ≠ .crashed) :
    (c.getOrParse parser.besides key state).answer ≠ .crashed := by
  rcases ho : c.outcomeIn? (c.slotFor key) with _ | ⟨run, e | d⟩
  · rw [getOrParse_of_none parser state ho]
    dsimp only
    split
    · exact nofun
    · exact nofun
    · next hsettle => exact absurd hsettle h
  · rw [getOrParse_of_error parser state ho]
    exact nofun
  · rw [getOrParse_of_ok parser state ho]
    exact nofun

end Cache

/-! ## Outcomes and what belongs to them -/

/-- The outcomes of some keys are shared out in order: a key that counted gives its name to the
names, and a key that did not is among the failures with its error. -/
inductive SharedOut : List KeyOutcome → List MetricName → List (String × ResolutionError) → Prop
  | nil : SharedOut [] [] []
  | counted {outs names failures} (key : String) (name : MetricName) :
    SharedOut outs names failures → SharedOut (⟨key, .ok name⟩ :: outs) (name :: names) failures
  | failed {outs names failures} (key : String) (e : ResolutionError) :
    SharedOut outs names failures → SharedOut (⟨key, .error e⟩ :: outs) names ((key, e) :: failures)

namespace DispatchOutcome

/-- Each key has either counted or failed. -/
lemma sharedOut (outs : List KeyOutcome) :
    SharedOut outs (evaluated outs).emitted (evaluated outs).failures := by
  induction outs with
  | nil => exact .nil
  | cons o outs ih =>
    obtain ⟨key, e | name⟩ := o
    · exact .failed key e ih
    · exact .counted key name ih

end DispatchOutcome

/-- The event that is logged about a request that is skipped. -/
def SkipReason.event (header : String) : SkipReason → LogEvent
  | notHttp => .notHttp
  | missingHeader => .missingHeader header

lemma SkipReason.level_event (header : String) (reason : SkipReason) :
    (reason.event header).level = .trace := by
  cases reason <;> rfl

/-- The events of a recording that the cache has not logged. -/
def Recording.dispatched {σ κ : Type} (r : Recording σ κ) : List LogEvent :=
  r.events.filter (!·.ofCache)

/-- Of the events of a look-up and of what follows, the latter are those of the dispatch. -/
lemma filter_append_of_ofCache {look rest : List LogEvent}
    (hlook : ∀ event ∈ look, event.ofCache = true)
    (hrest : ∀ event ∈ rest, event.ofCache = false) :
    (look ++ rest).filter (!·.ofCache) = rest := by
  have hnone : look.filter (!·.ofCache) = [] :=
    List.filter_eq_nil_iff.2 fun event h => by simp [hlook event h]
  have hall : rest.filter (!·.ofCache) = rest :=
    List.filter_eq_self.2 fun event h => by simp [hrest event h]
  rw [List.filter_append, hnone, hall, List.nil_append]

namespace Meter

variable {σ κ : Type} {m : Meter σ κ} {request : Http.Inbound}

/-- Counters, log and meter are after a recording as an outcome has it. -/
structure Agrees (m : Meter σ κ) (request : Http.Inbound) (o : DispatchOutcome)
    (r : Recording σ κ) : Prop where
  /-- The counters are called with the names of the outcome, in order. -/
  increments : r.increments = o.emitted
  counters : ∀ counters, ((⟨m, counters⟩ : Station σ κ).after r).counters =
    counters.incrementAll o.emitted
  /-- A request that is skipped leaves all as it was. -/
  skipped : ∀ reason, o = .skipped reason →
    (∀ counters, (⟨m, counters⟩ : Station σ κ).after r = ⟨m, counters⟩) ∧
    ∃ event, r.events = [event] ∧ event = reason.event m.headerName ∧ event.level = .trace
  /-- A client that cannot be identified leaves the counters and the components as they were. -/
  parseFailed : ∀ e, o = .parseFailed e →
    (∀ counters, ((⟨m, counters⟩ : Station σ κ).after r).counters = counters) ∧
    r.meter.components = m.components ∧
    ∃ event userAgent, r.dispatched = [event] ∧
      request.clientText? m.headerName = some userAgent ∧
      event = .parseFailed e userAgent ∧ event.level = .debug
  /-- Every key has an outcome, and each failure is logged. -/
  evaluated : ∀ outs, o = .evaluated outs →
    outs.map (·.key) = m.keySources ∧ SharedOut outs o.emitted o.failures ∧
    r.dispatched = o.failures.map (fun failure => .keySkipped failure.1 failure.2) ∧
    ∀ event ∈ r.dispatched, event.level = .debug

lemma agrees_of_skipped (reason : SkipReason) :
    m.Agrees request (.skipped reason)
      ⟨some (.skipped reason), [], [reason.event m.headerName], m⟩ where
  increments := rfl
  counters _ := rfl
  skipped := by
    rintro _ ⟨⟩
    exact ⟨fun _ => rfl, _, rfl, rfl, reason.level_event _⟩
  parseFailed := nofun
  evaluated := nofun

variable [ComponentSource κ] {view : Http.View} {userAgent : String}

lemma agrees_of_error {run : Nat} {e : ParseError}
    (hid : request.clientText? m.headerName = some userAgent)
    (h : (m.cache.getOrParse m.parser.besides userAgent m.parserState).answer =
      .returned ⟨run, .error e⟩) :
    m.Agrees request (.parseFailed e) (m.recordIdentified view userAgent) := by
  have hcache := m.cache.ofCache_events_getOrParse m.parser userAgent m.parserState
  rw [recordIdentified]
  dsimp only
  rw [h]
  constructor
  case increments => rfl
  case counters => exact fun _ => rfl
  case parseFailed =>
    rintro _ ⟨⟩
    refine ⟨fun _ => rfl, rfl, _, userAgent, ?_, hid, rfl, rfl⟩
    exact filter_append_of_ofCache hcache (by simp [LogEvent.ofCache])
  -- it is neither of the other outcomes
  case skipped | evaluated => rintro _ ⟨⟩

lemma agrees_of_ok {run : Nat} {d : Descriptor}
    (h : (m.cache.getOrParse m.parser.besides userAgent m.parserState).answer =
      .returned ⟨run, .ok d⟩) :
    m.Agrees request
      (.evaluated (evaluateKeys m.space ⟨d, view⟩ m.components m.keys).outcomes)
      (m.recordIdentified view userAgent) := by
  have hcache := m.cache.ofCache_events_getOrParse m.parser userAgent m.parserState
  have hincrements := increments_evaluateKeys m.space ⟨d, view⟩ m.components m.keys
  have hevents := events_evaluateKeys m.space ⟨d, view⟩ m.components m.keys
  -- the events about keys are of one kind
  have hkind : ∀ event ∈ (evaluateKeys m.space ⟨d, view⟩ m.components m.keys).events,
      event.ofCache = false ∧ event.level = .debug := by
    rw [hevents]
    intro event hevent
    obtain ⟨failure, -, rfl⟩ := List.mem_map.1 hevent
    exact ⟨rfl, rfl⟩
  have hdispatched := filter_append_of_ofCache hcache fun event h => (hkind event h).1
  rw [recordIdentified]
  dsimp only
  rw [h]
  constructor
  case increments => exact hincrements
  case counters => exact fun _ => congrArg _ hincrements
  case evaluated =>
    rintro _ ⟨⟩
    refine ⟨map_key_evaluateKeys _ _ _ _, DispatchOutcome.sharedOut _,
      hdispatched.trans hevents, ?_⟩
    rw [Recording.dispatched, hdispatched]
    exact fun event h => (hkind event h).2
  case skipped | parseFailed => rintro _ ⟨⟩

/-- **The traces of a recording agree.**  If the parser does not crash, recording a request comes to
an outcome, and counters, log and meter agree with it. -/
theorem record_agrees (m : Meter σ κ) (request : Http.Inbound)
    (hparser : ∀ userAgent ∈ request.clientText? m.headerName,
      (m.parser userAgent m.parserState).1.settle m.cache.limit ≠ .crashed) :
    ∃ o, (m.record request).outcome = some o ∧ m.Agrees request o (m.record request) := by
  cases hid : request.clientText? m.headerName with
  | none =>
    cases request with
    | other => exact ⟨_, rfl, agrees_of_skipped .notHttp⟩
    | http view =>
      have hid' : m.identification? view = none := hid
      rw [record, hid']
      exact ⟨_, rfl, agrees_of_skipped .missingHeader⟩
  | some userAgent =>
    obtain ⟨view, rfl, heq⟩ := record_of_clientText? hid
    rw [heq]
    have hcrash := Cache.answer_ne_crashed (hparser userAgent hid)
    rcases hanswer : (m.cache.getOrParse m.parser.besides userAgent m.parserState).answer with
      ⟨run, e | d⟩ | _
    · exact ⟨_, outcome_of_error view hanswer, agrees_of_error hid hanswer⟩
    · exact ⟨_, outcome_of_ok view hanswer, agrees_of_ok hanswer⟩
    · exact absurd hanswer hcrash

/-- A client takes the place of another in a cache for one, and counts twice, for the same key,
before a key that does not compile and one without a value. -/
theorem record_agrees_of_mixed_keys :
    let request (name : String) : Http.Inbound :=
      .http (.ofTexts [("User-Agent", name)] "GET" "/" none none)
    let s : Settings := { keys := ["#this.name", "+", "#this.name", "@gone"], capacity := 1 }
    let parser : Parser Unit := .pure fun name => .ok { name }
    ∃ first ∈ (build s parser () ({} : ComponentRegistry)).1,
      let m := (first.record (request "a")).meter
      (∀ userAgent ∈ (request "b").clientText? m.headerName,
        (m.parser userAgent m.parserState).1.settle m.cache.limit ≠ .crashed) ∧
      ∃ o, (m.record (request "b")).outcome = some o ∧
        m.Agrees (request "b") o (m.record (request "b")) ∧
        (m.record (request "b")).increments.map (·.text) = ["user-agent.b", "user-agent.b"] ∧
        (m.record (request "b")).events = [.evicted "a",
          .keySkipped "+" (.unsupportedGrammar "+"),
          .keySkipped "@gone" (.unknownComponent "gone")] := by
  intro request s parser
  obtain ⟨first, hfirst⟩ : ∃ first, first ∈ (build s parser () ({} : ComponentRegistry)).1 :=
    ⟨_, Option.get_mem rfl⟩
  have huse := (InUse.of_build hfirst).record (request "a")
  obtain ⟨m, hm⟩ : ∃ m, m = (first.record (request "a")).meter := ⟨_, rfl⟩
  rw [← hm] at huse
  have hparser : ∀ userAgent ∈ (request "b").clientText? m.headerName,
      (m.parser userAgent m.parserState).1.settle m.cache.limit ≠ .crashed := by
    rw [huse.parser, huse.configured.limit]
    exact fun _ _ => nofun
  obtain ⟨o, houtcome, hagrees⟩ := record_agrees m (request "b") hparser
  subst hm
  refine ⟨first, hfirst, hparser, o, houtcome, hagrees, ?_⟩
  cases hfirst
  decide +kernel

end Meter

end ClientCounters
