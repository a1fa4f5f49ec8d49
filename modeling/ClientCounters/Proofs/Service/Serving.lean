/-
# Serving requests one after another

A service records every request once, and before the request is handled.  So a handler sees the
counters with the requests so far and its own counted, wherever the request goes, and what the
endpoint for counters answers shows just these.
-/
import ClientCounters.Proofs.Meter.Order
import ClientCounters.Proofs.Service.Snapshot
import ClientCounters.Service.Router

namespace ClientCounters

/-! ## Paths of the counters -/

namespace PathPattern

variable {p : PathPattern} {path : String}

lemma spell_map_char (cs : List Char) : PathPart.spell (cs.map .char) cs = true := by
  induction cs with
  | nil => rfl
  | cons c cs ih => simp [PathPart.spell, ih]

/-- A pattern for one path alone covers it. -/
lemma covers_of_names (h : p.names path = true) : p.covers path = true := by
  rw [names, beq_iff_eq] at h
  rw [covers, h]
  exact spell_map_char _

lemma ofChars_of_plain {cs : List Char} (hopening : '\x7b' ∉ cs) (hclosing : '\x7d' ∉ cs) :
    PatternMark.ofChars cs = cs.map (⟨·, false⟩) := by
  induction cs with
  | nil => rfl
  | cons c cs ih =>
    rw [List.mem_cons, not_or] at hopening hclosing
    rw [PatternMark.ofChars, ih hopening.2 hclosing.2, List.map_cons]
    · exact fun rest heq => absurd heq.symm hopening.1
    · exact fun rest heq => absurd heq.symm hclosing.1

lemma readFrom?_of_plain {cs : List Char} (hopening : '\x7b' ∉ cs) (hclosing : '\x7d' ∉ cs) :
    PathPart.readFrom? .outside (cs.map (⟨·, false⟩)) = some (cs.map .char) := by
  induction cs with
  | nil => rfl
  | cons c cs ih =>
    rw [List.mem_cons, not_or] at hopening hclosing
    have hends : (⟨c, false⟩ : PatternMark) ≠ .closing := fun heq =>
      hclosing.1 (congrArg PatternMark.char heq).symm
    have hbegins : (⟨c, false⟩ : PatternMark) ≠ .opening := fun heq =>
      hopening.1 (congrArg PatternMark.char heq).symm
    rw [List.map_cons, PathPart.readFrom?, if_neg hends, if_neg hbegins,
      ih hopening.2 hclosing.2]
    rfl

/-- A path without braces stands for itself alone. -/
lemma names_of_plain (hopening : '\x7b' ∉ path.toList) (hclosing : '\x7d' ∉ path.toList)
    (h : read? path = some p) : p.names path = true := by
  rw [read?] at h
  split at h
  · cases h
  · obtain ⟨parts, hparts, rfl⟩ := Option.map_eq_some_iff.1 h
    rw [ofChars_of_plain hopening hclosing, readFrom?_of_plain hopening hclosing] at hparts
    obtain rfl := Option.some.inj (Option.filter_eq_some_iff.1 hparts).1
    rw [names, beq_iff_eq]

end PathPattern

namespace Service

variable {σ κ τ : Type} {routes : List (Route τ)} {fallback : Handler τ} {countersPath : String}
  {meter : Meter σ κ} {counters : CounterRegistry} {state : τ} {s : Service σ κ τ}
  {view : Http.View}

/-- A request is a `GET` of the counters: its path is the one they are served at, or a pattern for
them covers it and no route has it. -/
def GetsCounters (routes : List (Route τ)) (countersPath : String) (view : Http.View) : Prop :=
  view.method = "GET" ∧ ∃ pattern, PathPattern.read? countersPath = some pattern ∧
    (pattern.names view.path = true ∨
      pattern.covers view.path = true ∧ ∀ r ∈ routes, r.path ≠ view.path)

/-- Without braces in it, the counters path is a path like others. -/
lemma getsCounters_of_plain (hopening : '\x7b' ∉ countersPath.toList)
    (hclosing : '\x7d' ∉ countersPath.toList)
    (h : install? routes fallback countersPath meter counters state = some s)
    (hpath : view.path = countersPath) (hmethod : view.method = "GET") :
    GetsCounters routes countersPath view := by
  rw [install?] at h
  split at h
  · cases h
  · next pattern hread =>
    refine ⟨hmethod, pattern, hread, .inl ?_⟩
    rw [hpath]
    exact PathPattern.names_of_plain hopening hclosing hread

/-- A route that does not serve `GET` serves it when the counters are added. -/
lemma handlerFor_append_snapshot {r : Route τ} (h : r.serves "GET" = false) :
    Route.handlerFor { r with handlers := r.handlers ++ [("GET", .snapshot)] } "GET" =
      .snapshot := by
  have hnone : r.handlers.lookup "GET" = none := by simpa [Route.serves] using h
  rw [Route.handlerFor, List.lookup_append, hnone]
  rfl

/-- The routes keep their paths when the counters are added. -/
lemma find?_withCounters (pattern : PathPattern) (path : String) :
    (withCounters pattern routes).find? (·.path == path) =
      (routes.find? (·.path == path)).map fun r =>
        if pattern.names path then { r with handlers := r.handlers ++ [("GET", .snapshot)] }
        else r := by
  induction routes with
  | nil => rfl
  | cons r routes ih =>
    have hpath : (if pattern.names r.path then
        { r with handlers := r.handlers ++ [("GET", .snapshot)] } else r : Route τ).path =
          r.path := by
      split <;> rfl
    rw [withCounters, List.map_cons, List.find?_cons, List.find?_cons, hpath]
    by_cases h : r.path = path
    · simp [h]
    · rw [beq_eq_false_iff_ne.2 h]
      exact ih

/-- A `GET` of the counters is answered with them. -/
lemma handlerFor_of_getsCounters
    (h : install? routes fallback countersPath meter counters state = some s)
    (hget : GetsCounters routes countersPath view) : s.handlerFor view = .snapshot := by
  obtain ⟨hmethod, pattern, hread, hpath⟩ := hget
  rw [install?, hread] at h
  dsimp only at h
  split at h
  · cases h
  · next hfree =>
    cases h
    rw [handlerFor, routeAt?, find?_withCounters, hmethod]
    cases hfind : routes.find? (·.path == view.path) with
    | none =>
      have hcovers : pattern.covers view.path = true :=
        hpath.elim PathPattern.covers_of_names And.left
      rw [Option.map_none]
      dsimp only
      rw [if_pos hcovers]
      rfl
    | some r =>
      have hmem : r ∈ routes := List.mem_of_find?_eq_some hfind
      have hr : r.path = view.path := by simpa using List.find?_some hfind
      -- a route of the path has to be the one that the counters were added to
      have hnames : pattern.names view.path = true :=
        hpath.resolve_right fun hnone => hnone.2 r hmem hr
      have hserves : r.serves "GET" = false := by
        simp only [List.any_eq_true, Bool.and_eq_true, not_exists, not_and] at hfree
        exact Bool.eq_false_iff.2 (hfree r hmem (hr ▸ hnames))
      rw [Option.map_some, if_pos hnames]
      exact handlerFor_append_snapshot hserves

/-- The meter of a service with the counters that it reports to. -/
def station (s : Service σ κ τ) : Station σ κ :=
  ⟨s.meter, s.counters⟩

lemma station_of_install
    (h : install? routes fallback countersPath meter counters state = some s) :
    s.station = ⟨meter, counters⟩ := by
  rw [install?] at h
  split at h
  · cases h
  · split at h
    · cases h
    · obtain rfl := Option.some.inj h
      rfl

/-! ## One request -/

variable [ComponentSource κ]

/-- A request is recorded once. -/
lemma station_serve (s : Service σ κ τ) (view : Http.View) :
    (s.serve view).2.station = s.station.record (.http view) :=
  Station.after_recordGuarded s.station (.http view)

/-- The handler of a request sees the counters with the request counted. -/
lemma serve_eq (s : Service σ κ τ) (view : Http.View) :
    let answer := s.handlerFor view view (s.station.record (.http view)).counters s.state
    (s.serve view).1 = answer.1.sentTo view.method ∧ (s.serve view).2.state = answer.2 := by
  have hcounters : (s.record view).counters = (s.station.record (.http view)).counters :=
    congrArg Station.counters (station_serve s view)
  dsimp only
  rw [← hcounters]
  exact ⟨rfl, rfl⟩

/-- Serving leaves it as it was who answers what. -/
lemma handlerFor_serve (s : Service σ κ τ) (view : Http.View) :
    (s.serve view).2.handlerFor = s.handlerFor :=
  rfl

/-! ## Requests in a row -/

lemma serveAll_cons (s : Service σ κ τ) (view : Http.View) (views : List Http.View) :
    s.serveAll (view :: views) =
      ((s.serve view).1 :: ((s.serve view).2.serveAll views).1,
        ((s.serve view).2.serveAll views).2) :=
  rfl

lemma serveAll_append (s : Service σ κ τ) (views views' : List Http.View) :
    s.serveAll (views ++ views') =
      ((s.serveAll views).1 ++ ((s.serveAll views).2.serveAll views').1,
        ((s.serveAll views).2.serveAll views').2) := by
  induction views generalizing s with
  | nil => rfl
  | cons view views ih =>
    rw [List.cons_append, serveAll_cons, serveAll_cons, ih]
    rfl

/-- Every request is recorded once, in order. -/
lemma station_serveAll (s : Service σ κ τ) (views : List Http.View) :
    (s.serveAll views).2.station = s.station.recordAll (views.map .http) := by
  induction views generalizing s with
  | nil => rfl
  | cons view views ih =>
    rw [serveAll_cons, ih, station_serve]
    rfl

lemma handlerFor_serveAll (s : Service σ κ τ) (views : List Http.View) :
    (s.serveAll views).2.handlerFor = s.handlerFor := by
  induction views generalizing s with
  | nil => rfl
  | cons view views ih => exact (ih (s.serve view).2).trans (handlerFor_serve s view)

lemma length_serveAll (s : Service σ κ τ) (views : List Http.View) :
    (s.serveAll views).1.length = views.length := by
  induction views generalizing s with
  | nil => rfl
  | cons view views ih => exact congrArg Nat.succ (ih (s.serve view).2)

/-- What the handler of a request comes to behind other requests: it is called with the counters
after these and the request itself were recorded, each once, and with the state that the handlers of
the earlier requests have left. -/
def handledBehind (s : Service σ κ τ) (earlier : List Http.View) (view : Http.View) :
    Response × τ :=
  s.handlerFor view view (s.station.recordAll ((earlier ++ [view]).map .http)).counters
    (s.serveAll earlier).2.state

/-- A request behind others is answered by its handler, which is called once. -/
lemma serve_behind (s : Service σ κ τ) (earlier : List Http.View) (view : Http.View)
    (later : List Http.View) :
    (s.serveAll (earlier ++ view :: later)).1[earlier.length]? =
        some ((s.handledBehind earlier view).1.sentTo view.method) ∧
      (s.serveAll (earlier ++ [view])).2.state = (s.handledBehind earlier view).2 := by
  obtain ⟨hresponse, hstate⟩ := serve_eq (s.serveAll earlier).2 view
  have hrecord : (s.serveAll earlier).2.station.record (.http view) =
      s.station.recordAll ((earlier ++ [view]).map .http) := by
    rw [station_serveAll, List.map_append, Station.recordAll, Station.recordAll, List.foldl_append]
    rfl
  rw [handlerFor_serveAll, hrecord] at hresponse hstate
  constructor
  · have hlength := length_serveAll s earlier
    rw [serveAll_append, List.getElem?_append_right (Nat.le_of_eq hlength), hlength, Nat.sub_self]
    exact congrArg some hresponse
  · rw [serveAll_append]
    exact hstate

/-- **The counters are served up to date.**  In a service with the counters at a path every request
is recorded once, in order and before its handler is called; and a `GET` of the counters is answered
with the counters after all requests up to this one were recorded, itself among them. -/
theorem serveAll_installed
    (h : install? routes fallback countersPath meter counters state = some s)
    (views : List Http.View) :
    s.station = ⟨meter, counters⟩ ∧
    (s.serveAll views).2.station = s.station.recordAll (views.map .http) ∧
    (s.serveAll views).1.length = views.length ∧
    ∀ earlier view later, views = earlier ++ view :: later →
      (s.serveAll views).1[earlier.length]? =
        some ((s.handledBehind earlier view).1.sentTo view.method) ∧
      (s.serveAll (earlier ++ [view])).2.state = (s.handledBehind earlier view).2 ∧
      (GetsCounters routes countersPath view →
        ∃ body members, (s.serveAll views).1[earlier.length]? = some ⟨200, body⟩ ∧
          Snapshot.Shows body (s.station.recordAll ((earlier ++ [view]).map .http)).counters
            members) := by
  refine ⟨station_of_install h, station_serveAll s views, length_serveAll s views, ?_⟩
  rintro earlier view later rfl
  obtain ⟨hresponse, hstate⟩ := serve_behind s earlier view later
  refine ⟨hresponse, hstate, fun hget => ?_⟩
  rw [hresponse, handledBehind, handlerFor_of_getsCounters h hget, Response.sentTo, hget.1]
  exact ⟨_, _, rfl, Snapshot.shows_body _⟩

/-- A route, a path without one and the counters, of which one has the greatest value and a name
that has to be escaped. -/
theorem serveAll_installed_of_escaped_name :
    let view (method path : String) : Http.View :=
      .ofTexts [("User-Agent", "a")] method path none none
    let parser : Parser Unit := .pure fun name => .ok { name }
    let routes : List (Route Nat) := [⟨"/", [("GET", fun _ _ n => (⟨200, toString n⟩, n + 1))]⟩]
    let counters := CounterRegistry.empty.add "\"\\\x01é" 0xFFFFFFFFFFFFFFFF
    let earlier := [view "GET" "/", view "POST" "/nowhere"]
    ∃ meter ∈ (Meter.build { keys := ["#this.name"] } parser () ({} : ComponentRegistry)).1,
      ∃ s, install? routes .notFound "/metrics" meter counters 0 = some s ∧
        GetsCounters routes "/metrics" (view "GET" "/metrics") ∧
        (s.serveAll (earlier ++ [view "GET" "/metrics"])).1 =
          [⟨200, "0"⟩, ⟨404, ""⟩,
            ⟨200, "\x7b\"counter.\\\"\\\\\\u0001é\":18446744073709551615," ++
              "\"counter.user-agent.a\":3\x7d"⟩] ∧
        ∃ body members,
          (s.serveAll (earlier ++ [view "GET" "/metrics"])).1[earlier.length]? = some ⟨200, body⟩ ∧
          Snapshot.Shows body
            (s.station.recordAll ((earlier ++ [view "GET" "/metrics"]).map .http)).counters
            members := by
  intro view parser routes counters earlier
  obtain ⟨meter, hmeter⟩ :
      ∃ meter, meter ∈ (Meter.build { keys := ["#this.name"] } parser ()
        ({} : ComponentRegistry)).1 := ⟨_, Option.get_mem rfl⟩
  obtain ⟨s, hs⟩ : ∃ s, install? routes .notFound "/metrics" meter counters 0 = some s :=
    ⟨_, rfl⟩
  have hget : GetsCounters routes "/metrics" (view "GET" "/metrics") :=
    getsCounters_of_plain (by decide) (by decide) hs rfl rfl
  obtain ⟨-, -, -, hserved⟩ := serveAll_installed hs (earlier ++ [view "GET" "/metrics"])
  refine ⟨meter, hmeter, s, hs, hget, ?_, (hserved earlier _ [] rfl).2.2 hget⟩
  cases hmeter
  cases hs
  decide +kernel

end Service

end ClientCounters
