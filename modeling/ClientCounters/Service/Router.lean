/-
# A service that counts its requests

A service answers by path and method.  Counting goes around the whole of it: every request is
recorded before it is handled, whatever the answer.  The counters are served at a path of their own,
or wherever a pattern covers the path and no route has it.
-/
import ClientCounters.Meter.Record
import ClientCounters.Service.PathPattern
import ClientCounters.Service.Snapshot

namespace ClientCounters

/-- An answer to a request. -/
structure Response where
  status : Nat
  body : String := ""
deriving DecidableEq, Repr

namespace Response

/-- The answer as it goes out to a request: to a `HEAD` without the body. -/
def sentTo (r : Response) (method : String) : Response :=
  if method = "HEAD" then { r with body := "" } else r

end Response

/-- What answers requests.  It may look at the counters, and it keeps a state that it shares with
the other handlers of a service. -/
abbrev Handler (τ : Type) := Http.View → CounterRegistry → τ → Response × τ

namespace Handler

variable {τ : Type}

/-- Always the same answer. -/
def fixed (r : Response) : Handler τ :=
  fun _ _ state => (r, state)

/-- The counters as JSON. -/
def snapshot : Handler τ :=
  fun _ counters state => (⟨200, Snapshot.body counters⟩, state)

/-- The answer where a path is served but not for a method. -/
def notAllowed : Handler τ := fixed ⟨405, ""⟩

/-- The answer where no path is served, unless a service has one of its own. -/
def notFound : Handler τ := fixed ⟨404, ""⟩

end Handler

/-- The endpoints of a service at one path, which has to match exactly. -/
structure Route (τ : Type) where
  path : String
  /-- The methods that are served, with what answers them. -/
  handlers : List (String × Handler τ)

namespace Route

variable {τ : Type}

/-- The endpoint for counters. -/
def forCounters (path : String) : Route τ :=
  ⟨path, [("GET", .snapshot)]⟩

/-- Whether a method is served. -/
def serves (r : Route τ) (method : String) : Bool :=
  (r.handlers.lookup method).isSome

/-- What answers a method.  A `HEAD` that is not served itself is taken as a `GET`. -/
def handlerFor (r : Route τ) (method : String) : Handler τ :=
  match r.handlers.lookup method with
  | some handler => handler
  | none =>
    if method = "HEAD" then (r.handlers.lookup "GET").getD .notAllowed else .notAllowed

end Route

/-- A service: what it answers with, a meter around it, counters, and where these are served. -/
structure Service (σ κ τ : Type) where
  routes : List (Route τ)
  countersAt : PathPattern
  /-- What answers where neither a route nor the counters are. -/
  fallback : Handler τ
  meter : Meter σ κ
  counters : CounterRegistry
  /-- The state of the handlers. -/
  state : τ

namespace Service

/-- The path the counters are served at unless another is chosen. -/
def defaultCountersPath : String := "/metrics"

variable {σ κ τ : Type}

/-- The routes with the counters added to the one that a pattern stands for, if there is one. -/
def withCounters (pattern : PathPattern) (routes : List (Route τ)) : List (Route τ) :=
  routes.map fun r =>
    if pattern.names r.path then { r with handlers := r.handlers ++ [("GET", .snapshot)] } else r

/-- A service with the counters at a path, unless the path is no pattern or is the path of a route
that serves `GET` already. -/
def install? (routes : List (Route τ)) (fallback : Handler τ) (countersPath : String)
    (meter : Meter σ κ) (counters : CounterRegistry) (state : τ) : Option (Service σ κ τ) :=
  match PathPattern.read? countersPath with
  | none => none
  | some pattern =>
    if routes.any fun r => pattern.names r.path && r.serves "GET" then none
    else some ⟨withCounters pattern routes, pattern, fallback, meter, counters, state⟩

/-- The route of a path. -/
def routeAt? (s : Service σ κ τ) (path : String) : Option (Route τ) :=
  match s.routes.find? (·.path == path) with
  | some r => some r
  | none => if s.countersAt.covers path then some (.forCounters path) else none

/-- What answers a request. -/
def handlerFor (s : Service σ κ τ) (view : Http.View) : Handler τ :=
  match s.routeAt? view.path with
  | some r => r.handlerFor view.method
  | none => s.fallback

variable [ComponentSource κ]

/-- The service after a request was recorded. -/
def record (s : Service σ κ τ) (view : Http.View) : Service σ κ τ :=
  let r := s.meter.recordGuarded (.http view)
  { s with meter := r.meter, counters := s.counters.incrementAll r.increments }

/-- The service after a request was handled, with the answer. -/
def respond (s : Service σ κ τ) (view : Http.View) : Response × Service σ κ τ :=
  let (response, state) := s.handlerFor view view s.counters s.state
  (response.sentTo view.method, { s with state })

/-- Records a request and answers it. -/
def serve (s : Service σ κ τ) (view : Http.View) : Response × Service σ κ τ :=
  (s.record view).respond view

/-- Serves some requests one after another. -/
def serveAll (s : Service σ κ τ) : List Http.View → List Response × Service σ κ τ
  | [] => ([], s)
  | view :: views =>
    let (response, after) := s.serve view
    let (responses, last) := after.serveAll views
    (response :: responses, last)

end Service

end ClientCounters
