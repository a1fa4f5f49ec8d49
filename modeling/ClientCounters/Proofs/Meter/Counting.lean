/-
# Counting is exact

A meter is called for one request after the other, and hands some of them on to a service.  Whatever
its parser does from run to run, every counter goes up by the number of times that a key came to its
name, and the service is asked what it would be asked without a meter in front of it.  A client that
could not be parsed is parsed again when it comes back.
-/
import Mathlib.Data.List.Induction
import ClientCounters.Proofs.Counter.Registry
import ClientCounters.Proofs.Meter.Retry

namespace ClientCounters

variable {σ κ τ α : Type} [ComponentSource κ]

/-! ## How often a counter is meant -/

/-- Whether a key came to a counter of this name. -/
def KeyOutcome.isFor (name : String) (k : KeyOutcome) : Bool :=
  match k.result with
  | .ok n => n.text == name
  | .error _ => false

/-- How many keys came to a counter of this name, over all requests. -/
def timesCounted (name : String) (outcomes : List (Option DispatchOutcome)) : Nat :=
  (outcomes.flatMap fun o => (o.map DispatchOutcome.outcomes).getD []).countP (·.isFor name)

lemma timesCounted_append (name : String) (outcomes outcomes' : List (Option DispatchOutcome)) :
    timesCounted name (outcomes ++ outcomes') =
      timesCounted name outcomes + timesCounted name outcomes' := by
  rw [timesCounted, List.flatMap_append, List.countP_append]
  rfl

/-- The names that a recording counts are those that its keys came to. -/
lemma countP_counted (name : String) (outcome : Option DispatchOutcome) :
    (DispatchOutcome.counted outcome).countP (·.text = name) = timesCounted name [outcome] := by
  cases outcome with
  | none => rfl
  | some o =>
    rw [timesCounted, List.flatMap_singleton, DispatchOutcome.counted, Option.map_some,
      Option.getD_some, DispatchOutcome.emitted, List.countP_filterMap]
    refine List.countP_congr fun k _ => ?_
    rw [KeyOutcome.isFor]
    cases k.result with
    | ok n => simp
    | error e => simp

/-! ## A meter in front of a service -/

/-- A call on a meter for a request. -/
inductive Call where
  /-- The request is recorded. -/
  | record (request : Http.Inbound)
  /-- The request is recorded and handed on. -/
  | handle (request : Http.Inbound)

namespace Call

/-- The request of a call. -/
def request : Call → Http.Inbound
  | record request | handle request => request

/-- The request of a call, if it is handed on. -/
def handedOn? : Call → Option Http.Inbound
  | record _ => none
  | handle request => some request

end Call

/-- A station in front of a service, with what the calls so far came to. -/
structure Session (σ κ τ α : Type) where
  station : Station σ κ
  /-- The state of the service. -/
  service : τ
  /-- What each call was recorded as. -/
  outcomes : List (Option DispatchOutcome) := []
  /-- The answers of the service. -/
  replies : List α := []

namespace Session

variable {next : Http.Inbound → τ → α × τ} {v : Session σ κ τ α}

/-- The session after a call. -/
def call (next : Http.Inbound → τ → α × τ) (v : Session σ κ τ α) : Call → Session σ κ τ α
  | .record request =>
    let r := v.station.meter.record request
    { v with station := v.station.after r, outcomes := v.outcomes ++ [r.outcome] }
  | .handle request =>
    let (r, reply, service) := v.station.meter.handle request next v.service
    { station := v.station.after r
      service
      outcomes := v.outcomes ++ [r.outcome]
      replies := v.replies ++ [reply] }

/-- The session after some calls in a row. -/
def callAll (next : Http.Inbound → τ → α × τ) (v : Session σ κ τ α) (calls : List Call) :
    Session σ κ τ α :=
  calls.foldl (call next) v

/-- The answers of a service to some requests in a row, and the service afterwards, with nothing in
front of it. -/
def serveAll (next : Http.Inbound → τ → α × τ) (t : τ) (requests : List Http.Inbound) :
    List α × τ :=
  requests.foldl
    (fun s request => (s.1 ++ [(next request s.2).1], (next request s.2).2)) ([], t)

/-! ### One call -/

/-- A call records its request, whether it hands it on or not. -/
lemma station_call (c : Call) : (v.call next c).station = v.station.record c.request := by
  cases c with
  | record request => rfl
  | handle request => exact Station.after_recordGuarded v.station request

lemma outcomes_call (c : Call) : (v.call next c).outcomes =
    v.outcomes ++ [(v.station.meter.record c.request).outcome] := by
  cases c with
  | record request => rfl
  | handle request =>
    obtain ⟨events, h⟩ := Meter.recordGuarded_eq v.station.meter request
    rw [call, Meter.handle, h]
    rfl

/-- Only outcomes of the keys change the counters. -/
lemma counters_call_of_failed {c : Call}
    (h : ∀ outs, (v.station.meter.record c.request).outcome ≠ some (.evaluated outs)) :
    (v.call next c).station.counters = v.station.counters := by
  rw [station_call, Station.counters_record, DispatchOutcome.counted_eq_nil h]
  rfl

/-! ### Calls in a row -/

lemma callAll_concat (calls : List Call) (c : Call) :
    v.callAll next (calls ++ [c]) = (v.callAll next calls).call next c :=
  List.foldl_concat ..

/-- Every counter has gone up by the number of times that a key came to its name. -/
lemma get_callAll (m : Meter σ κ) (counters : CounterRegistry) (t : τ) (calls : List Call)
    (name : String) :
    let v : Session σ κ τ α := callAll next ⟨⟨m, counters⟩, t, [], []⟩ calls
    v.station.counters.get name = counters.get name + UInt64.ofNat (timesCounted name v.outcomes) := by
  induction calls using List.reverseRecOn with
  | nil => exact (UInt64.add_zero _).symm
  | append_singleton calls c ih =>
    dsimp only at ih ⊢
    rw [callAll_concat, station_call, Station.counters_record, CounterRegistry.get_incrementAll,
      ih, outcomes_call, timesCounted_append, countP_counted, UInt64.ofNat_add, UInt64.add_assoc]

/-- The service is asked for the requests that are handed on, in order, and for nothing else. -/
lemma replies_callAll (m : Meter σ κ) (counters : CounterRegistry) (t : τ) (calls : List Call) :
    let v : Session σ κ τ α := callAll next ⟨⟨m, counters⟩, t, [], []⟩ calls
    (v.replies, v.service) = serveAll next t (calls.filterMap Call.handedOn?) := by
  induction calls using List.reverseRecOn with
  | nil => rfl
  | append_singleton calls c ih =>
    dsimp only at ih ⊢
    rw [callAll_concat, List.filterMap_append]
    cases c with
    | record request =>
      have hnone : [Call.record request].filterMap Call.handedOn? = [] := rfl
      rw [hnone, List.append_nil, ← ih]
      rfl
    | handle request =>
      have hone : [Call.handle request].filterMap Call.handedOn? = [request] := rfl
      rw [hone, serveAll, List.foldl_concat, ← serveAll, ← ih]
      rfl

/-! ### Clients that come back -/

variable {s : Settings} {parser : Parser σ} {userAgent : String}

lemma inUse_callAll (h : Meter.InUse s parser v.station.meter) (calls : List Call) :
    Meter.InUse s parser (v.callAll next calls).station.meter := by
  induction calls using List.reverseRecOn with
  | nil => exact h
  | append_singleton calls c ih =>
    rw [callAll_concat, station_call]
    exact ih.record c.request

/-- Calls for others leave a text forgotten. -/
lemma forgotten_callAll (h : Meter.InUse s parser v.station.meter)
    (hforgotten : v.station.meter.cache.Forgotten userAgent) {calls : List Call}
    (hothers : ∀ c ∈ calls, c.request.clientText? s.headerName ≠ some userAgent) :
    (v.callAll next calls).station.meter.cache.Forgotten userAgent := by
  induction calls using List.reverseRecOn with
  | nil => exact hforgotten
  | append_singleton calls c ih =>
    have hbefore := ih fun c' hc' => hothers c' (List.mem_append_left _ hc')
    have hother := hothers c (List.mem_append_right _ (List.mem_singleton_self c))
    rw [callAll_concat, station_call]
    exact (inUse_callAll h calls).forgotten_record hbefore hother

/-- A client is given up for now: a call for it did not come to outcomes of the keys, and the calls
after that are for others. -/
structure GivenUp (s : Settings) (userAgent : String) (v : Session σ κ τ α) (failed : Call)
    (others : List Call) : Prop where
  client : failed.request.clientText? s.headerName = some userAgent
  failed : ∀ outs, (v.station.meter.record failed.request).outcome ≠ some (.evaluated outs)
  others : ∀ c ∈ others, c.request.clientText? s.headerName ≠ some userAgent

/-- A client that was given up is parsed anew when it comes back. -/
lemma GivenUp.parsesAnew (h : Meter.InUse s parser v.station.meter) {failed : Call}
    {others : List Call} (hgiven : GivenUp s userAgent v failed others)
    (next : Http.Inbound → τ → α × τ) {view : Http.View}
    (hagain : Http.Inbound.clientText? s.headerName (.http view) = some userAgent) :
    let w := v.callAll next (failed :: others)
    Meter.ParsesAnew s view userAgent w.station.meter (w.station.meter.record (.http view)) := by
  have hafter : Meter.InUse s parser (v.call next failed).station.meter := by
    rw [station_call]
    exact h.record failed.request
  have hforgotten : (v.call next failed).station.meter.cache.Forgotten userAgent := by
    rw [station_call]
    exact h.forgotten_of_failed hgiven.client hgiven.failed
  have hstill : ((v.call next failed).callAll next others).station.meter.cache.Forgotten userAgent :=
    forgotten_callAll hafter hforgotten hgiven.others
  exact (inUse_callAll hafter others).parsesAnew hstill hagain

end Session

open Session

/-- **Counting is exact.**  A meter is called for some requests in a row, with any parser.
Afterwards every counter has gone up by the number of times that a key came to its name.  A call
whose request is skipped or whose parse fails, takes too long or crashes leaves all counters as they
were.  The service is asked exactly for the requests that are handed on, each once and as it came.
And a client that is given up, for one of these reasons, is parsed anew when it comes back; if a
descriptor is found then, the keys are evaluated and counted with it. -/
theorem Meter.counting_exact (s : Settings) (parser : Parser σ) (state : σ) (components : κ)
    {m : Meter σ κ} (hbuild : m ∈ (build s parser state components).1) (counters : CounterRegistry)
    (next : Http.Inbound → τ → α × τ) (t : τ) (calls : List Call) :
    let v : Session σ κ τ α := callAll next ⟨⟨m, counters⟩, t, [], []⟩ calls
    (∀ name, v.station.counters.get name =
      counters.get name + UInt64.ofNat (timesCounted name v.outcomes)) ∧
    (∀ c : Call, (∀ outs, (v.station.meter.record c.request).outcome ≠ some (.evaluated outs)) →
      (v.call next c).station.counters = v.station.counters) ∧
    (v.replies, v.service) = serveAll next t (calls.filterMap Call.handedOn?) ∧
    ∀ userAgent failed others, GivenUp s userAgent v failed others →
      ∀ view, Http.Inbound.clientText? s.headerName (.http view) = some userAgent →
        let w := v.callAll next (failed :: others)
        ParsesAnew s view userAgent w.station.meter (w.station.meter.record (.http view)) ∧
        ParsesAnew s view userAgent w.station.meter
          (w.station.meter.handle (.http view) next w.service).1 := by
  dsimp only
  refine ⟨get_callAll m counters t calls, fun c => counters_call_of_failed,
    replies_callAll m counters t calls, ?_⟩
  intro userAgent failed others hgiven view hagain
  have hstart : InUse s parser m := InUse.of_build hbuild
  have hanew := GivenUp.parsesAnew (inUse_callAll hstart calls) hgiven next hagain
  exact ⟨hanew, hanew.guarded⟩

/-- A parser that crashes at first, then fails once, and then takes every text for a name. -/
def recovering : Parser Nat := fun name run =>
  ({ reply := if run = 0 then .crashed
      else .returned (if run = 1 then .error .empty else .ok { name }) }, run + 1)

/-- A request with this identification text. -/
def requestOf (name : String) : Http.Inbound :=
  .http (.ofTexts [("User-Agent", name)] "GET" "/" none none)

set_option maxRecDepth 4000 in
/-- The parser crashes for one client, fails for another, and finds a descriptor when the first one
comes back; two of the three keys count it, and the counter wraps around. -/
theorem Meter.counting_exact_of_crash :
    let s : Settings := { keys := ["#this.name", "@r", "#this.name"], capacity := 2 }
    let counters := CounterRegistry.empty.add "user-agent.a" 0xFFFFFFFFFFFFFFFF
    let next (_ : Http.Inbound) (t : Nat) := (t, t + 1)
    let failed := Call.handle (requestOf "a")
    let others := [Call.record (requestOf "b")]
    ∃ m : Meter Nat ComponentRegistry, m ∈ (build s recovering 0 {}).1 ∧
      let v : Session Nat ComponentRegistry Nat Nat := ⟨⟨m, counters⟩, 7, [], []⟩
      let w := v.callAll next (failed :: others)
      let last := v.callAll next (failed :: others ++ [failed])
      GivenUp s "a" v failed others ∧
      (v.call next failed).station.counters = counters ∧
      w.station.meter.cache.parses = 2 ∧
      (w.station.meter.record (requestOf "a")).meter.cache.parses = 3 ∧
      last.station.counters.get "user-agent.a" = 1 ∧ last.replies = [7, 8] := by
  have hexact := counting_exact { keys := ["#this.name", "@r", "#this.name"], capacity := 2 }
    recovering 0 ({} : ComponentRegistry) (Option.get_mem rfl)
    (CounterRegistry.empty.add "user-agent.a" 0xFFFFFFFFFFFFFFFF)
    (fun _ (t : Nat) => (t, t + 1)) 7
  obtain ⟨-, hleft, -, hanew⟩ := hexact []
  obtain ⟨hget, -, hreplies, -⟩ := hexact [.handle (requestOf "a"), .record (requestOf "b"),
    .handle (requestOf "a")]
  have hothers : ∀ c ∈ [Call.record (requestOf "b")],
      c.request.clientText? "User-Agent" ≠ some "a" := by
    intro c hc
    rw [List.mem_singleton.1 hc]
    decide
  refine ⟨_, Option.get_mem rfl, ⟨rfl, fun outs => nofun, hothers⟩, ?_, rfl, ?_, ?_, ?_⟩
  · exact hleft (.handle (requestOf "a")) fun outs => nofun
  · exact (hanew "a" (.handle (requestOf "a")) [.record (requestOf "b")]
      ⟨rfl, fun outs => nofun, hothers⟩ _ rfl).1.parses
  · exact (hget "user-agent.a").trans rfl
  · exact (Prod.mk.inj hreplies).1

end ClientCounters
