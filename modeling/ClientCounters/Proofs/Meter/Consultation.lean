/-
# Which components a request consults

The keys are evaluated in order, and each consults what its terms do.  Neither the look-up of the
descriptor nor a key that does not compile consults anything, and a key whose value turns out to be
blank has consulted all its components by then.  So the look-ups for a request are those for its
first key, then those for its second key, and so on.
-/
import ClientCounters.Proofs.Key.Consultation
import ClientCounters.Proofs.Meter.Keys

namespace ClientCounters

variable {σ κ : Type} {space key : String} {context : ResolutionContext}
  {made : List Consultation}

/-! ## One key -/

/-- What a key comes to with the look-ups that are made for it. -/
inductive Consults (space : String) (context : ResolutionContext) :
    String → List Consultation → Except ResolutionError MetricName → Prop
  /-- The key does not compile, and nothing is looked up. -/
  | invalid {key : String} {e : ResolutionError} : KeyExpression.read key = .error e →
      Consults space context key [] (.error e)
  /-- All terms have values, which make up the value of the key. -/
  | counted {key v : String} {expression : KeyExpression} {made : List Consultation} :
      KeyExpression.read key = .ok expression →
      Term.TakesAll context expression.terms made v →
      made.map (·.name) = Term.componentNames expression.terms → Text.isBlankText v = false →
      Consults space context key made (.ok (MetricName.ofParts space v))
  /-- All terms have values, but these are blank. -/
  | blank {key v : String} {expression : KeyExpression} {made : List Consultation} :
      KeyExpression.read key = .ok expression →
      Term.TakesAll context expression.terms made v →
      made.map (·.name) = Term.componentNames expression.terms → Text.isBlankText v = true →
      Consults space context key made (.error (.emptyValue key))
  /-- All terms in front of one have values, and that one has none. -/
  | failed {key v : String} {expression : KeyExpression} {front back : List Term} {t : Term}
      {made made' : List Consultation} {e : ResolutionError} :
      KeyExpression.read key = .ok expression → expression.terms = front ++ t :: back →
      Term.TakesAll context front made v → Term.Takes context t made' (.error e) →
      (made ++ made').map (·.name) = Term.componentNames (front ++ [t]) →
      Consults space context key (made ++ made') (.error e)

variable [ComponentSource κ] {components : κ}

lemma exists_consults (space : String) (context : ResolutionContext) (components : κ)
    (key : String) :
    ∃ made, Makes components made (KeyExpression.resolve key context components)
        (fun before => KeyExpression.resolve key context (⟨components, before⟩ : Watched κ)) ∧
      Consults space context key made (Plain.keyOutcome space context components key).result := by
  cases hread : KeyExpression.read key with
  | error e =>
    rw [Plain.keyOutcome_of_read_error hread]
    simp only [KeyExpression.resolve, hread]
    exact ⟨[], .none components _, .invalid hread⟩
  | ok expression =>
    obtain ⟨made, hmakes, htakes⟩ := Term.exists_takesUpTo context components expression.terms
    refine ⟨made, ?_, ?_⟩
    · simp only [KeyExpression.resolve, hread]
      exact hmakes
    · have hvalue : (KeyExpression.resolve key context components).1 =
          (Term.evaluateAll context components expression.terms).1 := by
        rw [KeyExpression.resolve, hread]
        rfl
      rw [Plain.keyOutcome, hvalue]
      generalize (Term.evaluateAll context components expression.terms).1 = r at htakes
      generalize hterms : expression.terms = terms at htakes
      cases htakes with
      | @all _ _ v hall =>
        rw [← hterms] at hall
        dsimp only
        cases hblank : Text.isBlankText v with
        | true => exact .blank hread hall hall.map_name hblank
        | false => exact .counted hread hall hall.map_name hblank
      | failed back hfront hlast =>
        exact .failed hread hterms hfront hlast (hfront.map_name_append hlast)

/-! ## Some keys in order -/

/-- Watching the components does not change what a key comes to. -/
lemma Makes.keyOutcome_watched {before : List Consultation}
    (h : Makes components made (KeyExpression.resolve key context components)
      (fun before => KeyExpression.resolve key context (⟨components, before⟩ : Watched κ))) :
    Plain.keyOutcome space context (⟨components, before⟩ : Watched κ) key =
      Plain.keyOutcome space context components key := by
  have hwatched := h.watched_eq before
  rw [Plain.keyOutcome, hwatched, Plain.keyOutcome]

namespace Meter

/-- The look-ups for some keys are those for each of them, one key after the other. -/
lemma exists_evaluateKeys_consults (space : String) (context : ResolutionContext) (components : κ)
    (keys : List String) :
    let run := evaluateKeys space context components (keys.map CompiledKey.compile)
    ∃ parts : List (KeyOutcome × List Consultation), run.outcomes = parts.map Prod.fst ∧
      List.Forall₂ (fun key part => part.1.key = key ∧
        Consults space context key part.2 part.1.result) keys parts ∧
      Leads components (parts.flatMap Prod.snd) run.components ∧
      ∀ before,
        let watched := evaluateKeys space context (⟨components, before⟩ : Watched κ)
          (keys.map CompiledKey.compile)
        watched.outcomes = run.outcomes ∧
          watched.components = ⟨run.components, before ++ parts.flatMap Prod.snd⟩ := by
  induction keys generalizing components with
  | nil =>
    refine ⟨[], rfl, .nil, .nil components, fun before => ⟨rfl, ?_⟩⟩
    rw [List.flatMap_nil, List.append_nil]
    rfl
  | cons key keys ih =>
    obtain ⟨made, hmakes, hconsults⟩ := exists_consults space context components key
    obtain ⟨parts, houtcomes, hkeys, hleads, hwatched⟩ :=
      ih (KeyExpression.resolve key context components).2
    obtain ⟨hfirst, hlast⟩ := evaluateKeys_compile_cons space context components key
      (keys.map CompiledKey.compile)
    dsimp only
    rw [List.map_cons, hfirst, hlast, houtcomes]
    refine ⟨(Plain.keyOutcome space context components key, made) :: parts, rfl,
      .cons ⟨rfl, hconsults⟩ hkeys, hmakes.leads.append hleads, fun before => ?_⟩
    obtain ⟨hfirst', hlast'⟩ := evaluateKeys_compile_cons space context
      (⟨components, before⟩ : Watched κ) key (keys.map CompiledKey.compile)
    rw [hmakes.watched_eq before] at hfirst' hlast'
    -- the look-ups for the first key are recorded when the others are evaluated
    obtain ⟨hrest, hcomponents⟩ := hwatched (before ++ made)
    rw [hfirst', hlast', hrest, hcomponents, hmakes.keyOutcome_watched, houtcomes,
      List.flatMap_cons, List.append_assoc]
    exact ⟨rfl, rfl⟩

/-! ## A request -/

variable {m : Meter σ κ} {request : Http.Inbound} {outs : List KeyOutcome}

omit [ComponentSource κ] in
/-- The meter with its components watched. -/
def watched (m : Meter σ κ) : Meter σ (Watched κ) :=
  { m with components := ⟨m.components, []⟩ }

/-- When a request is evaluated its keys are, and they alone have to do with the components. -/
lemma EvaluatedAgainst.record (h : m.EvaluatedAgainst request context) :
    let run := evaluateKeys m.space context m.components m.keys
    (m.record request).outcome = some (.evaluated run.outcomes) ∧
      (m.record request).meter.components = run.components := by
  obtain ⟨rfl, userAgent, run, hid, hanswer⟩ := h
  rw [Meter.record, hid]
  dsimp only
  rw [recordIdentified, hanswer]
  exact ⟨rfl, rfl⟩

/-- **Components are consulted in order, and no more than is needed.**  When a request is evaluated,
every key of the meter comes to an outcome with some look-ups, which `Consults` describes: those for
its terms that name components, up to the first term without a value.  The look-ups for all keys in
a row lead to the components that the request leaves.  If the components are watched the request
comes to the same, and just these look-ups are recorded. -/
theorem record_consults {keys : List String} (hkeys : m.keys = keys.map CompiledKey.compile)
    (houtcome : (m.record request).outcome = some (.evaluated outs)) :
    ∃ context, m.EvaluatedAgainst request context ∧
      ∃ parts : List (KeyOutcome × List Consultation), outs = parts.map Prod.fst ∧
        List.Forall₂ (fun key part => part.1.key = key ∧
          Consults m.space context key part.2 part.1.result) keys parts ∧
        Leads m.components (parts.flatMap Prod.snd) (m.record request).meter.components ∧
        (m.watched.record request).outcome = some (.evaluated outs) ∧
        (m.watched.record request).meter.components =
          ⟨(m.record request).meter.components, parts.flatMap Prod.snd⟩ := by
  obtain ⟨context, hcontext, houts⟩ := exists_context_of_evaluated houtcome
  have hcontext' : m.watched.EvaluatedAgainst request context := hcontext
  obtain ⟨-, hcomponents⟩ := hcontext.record
  obtain ⟨houtcome', hcomponents'⟩ := hcontext'.record
  rw [hkeys] at houts hcomponents
  obtain ⟨parts, hparts, hconsults, hleads, hwatched⟩ :=
    exists_evaluateKeys_consults m.space context m.components keys
  obtain ⟨hsame, hrecorded⟩ := hwatched []
  rw [show m.watched.keys = keys.map CompiledKey.compile from hkeys] at houtcome' hcomponents'
  refine ⟨context, hcontext, parts, houts.trans hparts, hconsults, hcomponents ▸ hleads, ?_, ?_⟩
  · rw [houtcome', houts]
    exact congrArg (some ∘ DispatchOutcome.evaluated) hsame
  · rw [hcomponents', hcomponents]
    exact hrecorded

/-- A component counts its look-ups.  The second key does not compile, the third one fails before it
looks the component up again, and the fourth one has a blank value. -/
theorem record_consults_of_counting_component :
    let s : Settings := { keys := ["@n + '-' + @n", "+", "@n + @gone + @n", "@blank", "@n"] }
    let parser : Parser Unit := .pure fun name => .ok { name }
    let components : ComponentRegistry :=
      .ofList [("n", .computed (fun n => toString n) 0), ("blank", .fixed " ")]
    let request : Http.Inbound := .http (.ofTexts [("User-Agent", "a")] "GET" "/" none none)
    ∃ m ∈ (build s parser () components).1, ∃ outs, m.keys = s.keys.map CompiledKey.compile ∧
      (m.record request).outcome = some (.evaluated outs) ∧
      (DispatchOutcome.evaluated outs).emitted.map (·.text) = ["user-agent.0-1", "user-agent.3"] ∧
      ∃ context, ∃ parts : List (KeyOutcome × List Consultation), outs = parts.map Prod.fst ∧
        List.Forall₂ (fun key part => part.1.key = key ∧
          Consults m.space context key part.2 part.1.result) s.keys parts ∧
        parts.flatMap Prod.snd = [⟨"n", some "0"⟩, ⟨"n", some "1"⟩, ⟨"n", some "2"⟩,
          ⟨"gone", none⟩, ⟨"blank", some " "⟩, ⟨"n", some "3"⟩] := by
  intro s parser components request
  obtain ⟨m, hm⟩ : ∃ m, m ∈ (build s parser () components).1 := ⟨_, Option.get_mem rfl⟩
  have hkeys : m.keys = s.keys.map CompiledKey.compile := by
    cases hm
    rfl
  have hmade : (m.watched.record request).meter.components.made =
      [⟨"n", some "0"⟩, ⟨"n", some "1"⟩, ⟨"n", some "2"⟩, ⟨"gone", none⟩, ⟨"blank", some " "⟩,
        ⟨"n", some "3"⟩] := by
    cases hm
    decide +kernel
  have hemitted : ((m.record request).outcome.any fun outcome =>
      outcome.emitted.map (·.text) = ["user-agent.0-1", "user-agent.3"]) = true := by
    cases hm
    decide +kernel
  obtain ⟨outcome, houtcome, hemitted⟩ := (Option.any_eq_true _ _).1 hemitted
  cases outcome with
  | skipped => cases of_decide_eq_true hemitted
  | parseFailed => cases of_decide_eq_true hemitted
  | evaluated outs =>
    obtain ⟨context, -, parts, hparts, hconsults, -, -, hcomponents⟩ :=
      record_consults hkeys houtcome
    rw [hcomponents] at hmade
    exact ⟨m, hm, outs, hkeys, houtcome, of_decide_eq_true hemitted, context, parts, hparts,
      hconsults, hmade⟩

end Meter

end ClientCounters
