/-
# The order of requests does not matter

With a parser that is a function of the text and with components that do not change, what a request
counts depends on the settings alone.  The cache decides how often a text is parsed, and so do its
size and the order of the requests; the counters come out the same.
-/
import ClientCounters.Proofs.Counter.Registry
import ClientCounters.Proofs.Meter.Plain
import ClientCounters.Proofs.Meter.Recording

namespace ClientCounters

variable {σ κ : Type} [ComponentSource κ] {s : Settings}
  {parse : String → Except ParseError Descriptor} {components : κ} {st : Station σ κ}

/-- The names that plain recording counts for some requests. -/
def Plain.names (s : Settings) (parse : String → Except ParseError Descriptor) (components : κ)
    (requests : List Http.Inbound) : List MetricName :=
  requests.flatMap fun request => (Plain.record s parse components request).emitted

namespace Station

/-- The station after some requests were recorded in a row. -/
def recordAll (st : Station σ κ) (requests : List Http.Inbound) : Station σ κ :=
  requests.foldl record st

/-- Recording some requests counts what plain recording counts for them. -/
lemma counters_recordAll (h : Meter.Serves s parse components st.meter)
    (hstateless : Stateless components) (requests : List Http.Inbound) :
    (st.recordAll requests).counters =
      st.counters.incrementAll (Plain.names s parse components requests) := by
  induction requests generalizing st with
  | nil => rfl
  | cons request requests ih =>
    obtain ⟨houtcome, hserves⟩ := h.record hstateless request
    have hfirst : (st.record request).counters =
        st.counters.incrementAll (Plain.record s parse components request).emitted := by
      rw [counters_record, houtcome]
      rfl
    calc
      (st.recordAll (request :: requests)).counters
          = ((st.record request).recordAll requests).counters := rfl
      _ = (st.record request).counters.incrementAll (Plain.names s parse components requests) :=
        ih hserves
      _ = st.counters.incrementAll (Plain.names s parse components (request :: requests)) := by
        rw [hfirst, ← CounterRegistry.incrementAll_append]
        rfl

end Station

/-- **The order of requests does not matter.**  Two meters for the same settings, apart from the
size of the cache, record the same requests, each in an order of its own.  They come to the same
counters. -/
theorem Meter.snapshot_of_perm (s : Settings) (parse : String → Except ParseError Descriptor)
    (state state' : σ) {components : κ} (hstateless : Stateless components)
    (capacity capacity' : Nat) {m m' : Meter σ κ}
    (hbuild : m ∈ (build { s with capacity } (Parser.pure parse) state components).1)
    (hbuild' : m' ∈
      (build { s with capacity := capacity' } (Parser.pure parse) state' components).1)
    (counters : CounterRegistry) {requests requests' : List Http.Inbound}
    (hperm : requests.Perm requests') :
    ((⟨m, counters⟩ : Station σ κ).recordAll requests).counters.snapshot =
      ((⟨m', counters⟩ : Station σ κ).recordAll requests').counters.snapshot := by
  have hserves := Serves.of_build hbuild
  have hserves' := Serves.of_build hbuild'
  -- plain recording does not know the size of the cache
  have hnames : (Plain.names { s with capacity } parse components requests).Perm
      (Plain.names { s with capacity := capacity' } parse components requests') :=
    hperm.flatMap_right _
  rw [Station.counters_recordAll hserves hstateless, Station.counters_recordAll hserves' hstateless,
    CounterRegistry.incrementAll_perm hnames]

set_option maxRecDepth 4000 in
/-- In a cache for one text every client is evicted by the next, in a cache for two none is. -/
theorem Meter.snapshot_of_perm_of_evictions :
    let request (name : String) : Http.Inbound :=
      .http (.ofTexts [("User-Agent", name)] "GET" "/" none none)
    let parse (name : String) : Except ParseError Descriptor :=
      if name = "?" then .error .empty else .ok { name }
    let s : Settings := { keys := ["#this.name", "+"] }
    let requests := [request "a", request "b", request "?", request "a"]
    ∃ m m' : Meter Unit ComponentRegistry, Stateless ({} : ComponentRegistry) ∧
      m ∈ (build { s with capacity := 1 } (Parser.pure parse) () {}).1 ∧
      m' ∈ (build { s with capacity := 2 } (Parser.pure parse) () {}).1 ∧
      requests.Perm requests.reverse ∧
      ((⟨m, {}⟩ : Station Unit ComponentRegistry).recordAll requests).counters.snapshot =
        [("user-agent.a", 2), ("user-agent.b", 1)] ∧
      ((⟨m', {}⟩ : Station Unit ComponentRegistry).recordAll requests.reverse).counters.snapshot =
        [("user-agent.a", 2), ("user-agent.b", 1)] := by
  dsimp only
  have hperm (requests : List Http.Inbound) : requests.Perm requests.reverse :=
    requests.reverse_perm.symm
  have hsame (requests : List Http.Inbound) := snapshot_of_perm { keys := ["#this.name", "+"] }
    (fun name => if name = "?" then .error .empty else .ok { name }) () ()
    (fun _ => rfl : Stateless ({} : ComponentRegistry)) 1 2 (Option.get_mem rfl)
    (Option.get_mem rfl) {} (hperm requests)
  refine ⟨_, _, fun _ => rfl, Option.get_mem rfl, Option.get_mem rfl, hperm _, ?first,
    (hsame _).symm.trans ?first⟩
  decide +kernel

end ClientCounters
