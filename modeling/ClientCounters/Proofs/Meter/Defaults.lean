/-
# Counting with the default keys

With the default keys and a parser that answers what the built-in one does, a client that is
recognized is counted twice, under its name and under its name with the major version.  No key
fails, because the name of a recognized client is never blank and its major version neither, and
nothing outside ASCII is left of them.  A text that is not recognized is reported as it is apart
from the white space around it.  What carries the proof is that the cache is faithful to the built-in
reading, which with no time limit does not depend on how long the parser takes.
-/
import ClientCounters.Proofs.Cache.Faithful
import ClientCounters.Proofs.Client.Naming
import ClientCounters.Proofs.Meter.Retry

namespace ClientCounters

variable {σ κ : Type}

/-! ## Parsers that take their time -/

/-- The parser answers with the value of a function of the text, however long it takes. -/
def Parser.Answers (parser : Parser σ) (parse : String → Except ParseError Descriptor) : Prop :=
  ∀ key state, (parser key state).1.reply = .returned (parse key)

/-- Without a time limit it makes no difference how long the parser takes. -/
lemma Cache.Faithful.getOrParse_of_answers {parse : String → Except ParseError Descriptor}
    {c : Cache} (h : Faithful parse c) {parser : Parser σ} (hparser : parser.Answers parse)
    (hlimit : c.limit = none) (key : String) (state : σ) :
    ∃ run, (c.getOrParse parser.besides key state).answer = .returned ⟨run, parse key⟩ ∧
      Faithful parse (c.getOrParse parser.besides key state).cache := by
  have hsettle : (parser key state).1.settle c.limit =
      ((Parser.pure parse : Parser σ) key state).1.settle c.limit := by
    rw [hlimit]
    exact hparser key state
  obtain ⟨hanswer, hcache⟩ := getOrParse_congr hsettle
  rw [hanswer, hcache, Parser.besides_pure]
  exact h.getOrParse key state

/-! ## The values of the default keys -/

variable [ComponentSource κ]

namespace KeyExpression

variable (context : ResolutionContext) (components : κ)

lemma resolve_name :
    resolve "#this.name" context components = (.ok context.descriptor.name, components) := by
  have hread : read "#this.name" = .ok ⟨"#this.name", [.descriptor ["name"]]⟩ := rfl
  rw [resolve, hread]
  show (Except.ok (context.descriptor.name ++ ""), components) = _
  rw [String.append_empty]

lemma resolve_nameWithVersion :
    resolve "#this.name + '.' + #this.majorVersion" context components =
      (.ok (context.descriptor.name ++ "." ++ context.descriptor.majorVersion), components) := by
  have hread : read "#this.name + '.' + #this.majorVersion" =
      .ok ⟨"#this.name + '.' + #this.majorVersion",
        [.descriptor ["name"], .literal ".", .descriptor ["majorVersion"]]⟩ := rfl
  rw [resolve, hread]
  show (Except.ok (context.descriptor.name ++ ("." ++ (context.descriptor.majorVersion ++ ""))),
    components) = _
  rw [String.append_empty, String.append_assoc]

end KeyExpression

lemma ClientSpelling.not_blank {d : Descriptor} (h : ClientSpelling d.name d.version)
    (rest : String) : Text.isBlankText (d.name ++ rest) = false := by
  have hname := h.name
  rw [Text.isBlankText, String.toList_append]
  cases hcs : d.name.toList with
  | nil =>
    rw [hcs] at hname
    cases hname
  | cons c cs =>
    rw [hcs] at hname
    have hletter : c.isAlpha = true := (Bool.and_eq_true_iff.1 hname).1
    have hblank : Text.isBlank c = false :=
      Text.not_isBlank_of_isAlphanum (Text.isAlphanum_of_isAlpha hletter)
    simp [hblank]

/-- The default keys come to two names, whatever the components are. -/
lemma Meter.outcomes_defaultKeys (space : String) {context : ResolutionContext} (components : κ)
    (h : ClientSpelling context.descriptor.name context.descriptor.version) :
    (evaluateKeys space context components (defaultKeys.map CompiledKey.compile)).outcomes =
      [⟨"#this.name", .ok (.ofParts space context.descriptor.name)⟩,
        ⟨"#this.name + '.' + #this.majorVersion",
          .ok (.ofParts space
            (context.descriptor.name ++ "." ++ context.descriptor.majorVersion))⟩] := by
  have hname (components : κ) : Plain.keyOutcome space context components "#this.name" =
      ⟨"#this.name", .ok (.ofParts space context.descriptor.name)⟩ := by
    have hblank := h.not_blank ""
    rw [String.append_empty] at hblank
    exact Plain.keyOutcome_of_value
      (congrArg Prod.fst (KeyExpression.resolve_name context components)) hblank
  have hversion (components : κ) :
      Plain.keyOutcome space context components "#this.name + '.' + #this.majorVersion" =
        ⟨"#this.name + '.' + #this.majorVersion", .ok (.ofParts space
          (context.descriptor.name ++ "." ++ context.descriptor.majorVersion))⟩ := by
    have hblank := h.not_blank ("." ++ context.descriptor.majorVersion)
    rw [← String.append_assoc] at hblank
    exact Plain.keyOutcome_of_value
      (congrArg Prod.fst (KeyExpression.resolve_nameWithVersion context components)) hblank
  rw [defaultKeys, List.map_cons, (evaluateKeys_compile_cons _ _ _ _ _).1, hname, List.map_cons,
    (evaluateKeys_compile_cons _ _ _ _ _).1, hversion]
  rfl

/-- A recording that counts a client under its name and under its name with the major version. -/
structure Recording.CountsClient (space name major : String) (r : Recording σ κ) : Prop where
  outcome : r.outcome = some (.evaluated [⟨"#this.name", .ok ⟨space ++ "." ++ name⟩⟩,
    ⟨"#this.name + '.' + #this.majorVersion", .ok ⟨space ++ "." ++ name ++ "." ++ major⟩⟩])
  increments : r.increments =
    [⟨space ++ "." ++ name⟩, ⟨space ++ "." ++ name ++ "." ++ major⟩]

namespace Meter

/-! ## Meters with a built-in reading -/

/-- A meter for these settings with a parser that answers what the built-in one does. -/
structure Recognizes (s : Settings) (m : Meter σ κ) : Prop where
  configured : Configured s m
  parser : m.parser.Answers Recognition.recognize
  cache : Cache.Faithful Recognition.recognize m.cache

variable {s : Settings} {m : Meter σ κ}

namespace Recognizes

omit [ComponentSource κ] in
lemma of_build {parser : Parser σ} (hparser : parser.Answers Recognition.recognize) {state : σ}
    {components : κ} (h : m ∈ (build s parser state components).1) : Recognizes s m := by
  have hconfigured := Configured.of_build h
  obtain ⟨c, hc, rfl⟩ := Option.map_eq_some_iff.1 h
  exact ⟨hconfigured, hparser, .of_make? hc⟩

omit [ComponentSource κ] in
lemma getOrParse (h : Recognizes s m) (hlimit : s.parseTimeout = none) (userAgent : String) :
    ∃ run, (m.cache.getOrParse m.parser.besides userAgent m.parserState).answer =
        .returned ⟨run, Recognition.recognize userAgent⟩ ∧
      Cache.Faithful Recognition.recognize
        (m.cache.getOrParse m.parser.besides userAgent m.parserState).cache :=
  h.cache.getOrParse_of_answers h.parser (h.configured.limit.trans hlimit) userAgent m.parserState

lemma use (h : Recognizes s m) (hlimit : s.parseTimeout = none) (u : Use) :
    Recognizes s (m.use u) := by
  have hconfigured := h.configured.use u
  cases u with
  | clear => exact ⟨hconfigured, h.parser, h.cache.clear⟩
  | record request =>
    cases hid : request.clientText? m.headerName with
    | none =>
      have hsame : m.use (.record request) = m := (record_of_clientText?_eq_none hid).1
      rwa [hsame]
    | some userAgent =>
      obtain ⟨view, -, heq⟩ := record_of_clientText? hid
      obtain ⟨hparser, hcache, -⟩ := meter_recordIdentified m view userAgent
      rw [← heq] at hparser hcache
      obtain ⟨run, -, hfaithful⟩ := h.getOrParse hlimit userAgent
      refine ⟨hconfigured, ?_, ?_⟩
      · show (m.record request).meter.parser.Answers Recognition.recognize
        exact hparser ▸ h.parser
      · show Cache.Faithful Recognition.recognize (m.record request).meter.cache
        exact hcache ▸ hfaithful

lemma useAll (h : Recognizes s m) (hlimit : s.parseTimeout = none) (uses : List Use) :
    Recognizes s (m.useAll uses) := by
  induction uses generalizing m with
  | nil => exact h
  | cons u uses ih => exact ih (h.use hlimit u)

/-- A client that is recognized counts under both keys. -/
lemma countsClient (h : Recognizes s m) (hlimit : s.parseTimeout = none)
    (hkeys : s.effectiveKeys = defaultKeys) (view : Http.View) {userAgent : String} {d : Descriptor}
    (hd : Recognition.recognize userAgent = .ok d) (hspelling : ClientSpelling d.name d.version) :
    (m.recordIdentified view userAgent).CountsClient (normalize (spaceOf s)) (normalize d.name)
      (Text.lowercase d.majorVersion) := by
  have hname : MetricName.ofParts (spaceOf s) d.name =
      ⟨normalize (spaceOf s) ++ "." ++ normalize d.name⟩ := rfl
  have hversion : MetricName.ofParts (spaceOf s) (d.name ++ "." ++ d.majorVersion) =
      ⟨normalize (spaceOf s) ++ "." ++ normalize d.name ++ "." ++
        Text.lowercase d.majorVersion⟩ := by
    rw [MetricName.ofParts, Descriptor.normalize_append_majorVersion hspelling]
    simp only [String.append_assoc]
  obtain ⟨run, hanswer, -⟩ := h.getOrParse hlimit userAgent
  rw [hd] at hanswer
  have houtcome := outcome_of_ok view hanswer
  rw [h.configured.space, h.configured.keys, hkeys, outcomes_defaultKeys _ _ hspelling, hname,
    hversion] at houtcome
  refine ⟨houtcome, ?_⟩
  rw [increments_recordIdentified, houtcome]
  rfl

/-- A text that is not recognized counts nothing. -/
lemma parseFailed (h : Recognizes s m) (hlimit : s.parseTimeout = none) (view : Http.View)
    {userAgent : String} {e : ParseError} (he : Recognition.recognize userAgent = .error e) :
    (m.recordIdentified view userAgent).outcome = some (.parseFailed e) ∧
      (m.recordIdentified view userAgent).increments = [] := by
  obtain ⟨run, hanswer, -⟩ := h.getOrParse hlimit userAgent
  rw [he] at hanswer
  have houtcome := outcome_of_error view hanswer
  refine ⟨houtcome, ?_⟩
  rw [increments_recordIdentified, houtcome]
  rfl

end Recognizes

/-- **Every recognized client is counted twice.**  With the default keys, no time limit and a parser
that answers what the built-in one does, a request with an identification text that is not blank
comes to one of two things, however the meter was used before.  Either the text is not recognized:
the error shows it trimmed, and nothing is counted.  Or both keys count, the client's name and its
name with the major version: the name starts with a small letter and goes on with small letters,
digits, underscores, dots and hyphens, and the major version is made of small letters, digits and
underscores. -/
theorem recognized_counted_twice (s : Settings) (parser : Parser σ) (state : σ) (components : κ)
    (hkeys : s.effectiveKeys = defaultKeys) (hlimit : s.parseTimeout = none)
    (hparser : parser.Answers Recognition.recognize) {m : Meter σ κ}
    (hbuild : m ∈ (build s parser state components).1) (uses : List Use) (view : Http.View)
    {userAgent : String} (hheader : view.header s.headerName = some userAgent)
    (hblank : Text.isBlankText userAgent = false) :
    let r := (m.useAll uses).record (.http view)
    (Recognition.recognize userAgent = .error (.unrecognized (Text.trim userAgent)) ∧
      r.outcome = some (.parseFailed (.unrecognized (Text.trim userAgent))) ∧
      r.increments = []) ∨
    ∃ d name major, Recognition.recognize userAgent = .ok d ∧ d.CountsAs name major ∧
      r.CountsClient (normalize (spaceOf s)) name major := by
  have h := (Recognizes.of_build hparser hbuild).useAll hlimit uses
  have hid : Http.Inbound.clientText? (m.useAll uses).headerName (.http view) =
      some userAgent := by
    rw [Http.Inbound.clientText?, h.configured.headerName, hheader, Option.filter_some, hblank]
    rfl
  dsimp only
  rw [record_http_of_clientText? hid]
  rcases Recognition.recognize_of_not_blank hblank with he | ⟨d, hd, hspelling⟩
  · exact .inl ⟨he, h.parseFailed hlimit view he⟩
  · exact .inr ⟨d, _, _, hd, Descriptor.countsAs hspelling,
      h.countsClient hlimit hkeys view hd hspelling⟩

/-- A library with spaces in its name and a version that starts with a dot, with no-break spaces
around the text and a namespace of the settings that is blank. -/
theorem recognized_counted_twice_of_library :
    let s : Settings := { space := " " }
    let view : Http.View :=
      .ofTexts [("user-agent", "\u00A0Go-http-client/.5\u00A0")] "GET" "/" none none
    ∃ m : Meter Unit ComponentRegistry, m ∈ (build s Parser.builtIn () {}).1 ∧
      (m.record (.http view)).CountsClient "user-agent" "go-http-client" "unknown" := by
  refine ⟨_, Option.get_mem rfl, ?_⟩
  have hrecognize : Recognition.recognize "\u00A0Go-http-client/.5\u00A0" =
      .ok { name := "Go HTTP Client", version := ".5", kind := .library } := by
    decide +kernel
  rcases recognized_counted_twice { space := " " } Parser.builtIn () ({} : ComponentRegistry) rfl rfl
      (fun _ _ => rfl) (Option.get_mem rfl) []
      (.ofTexts [("user-agent", "\u00A0Go-http-client/.5\u00A0")] "GET" "/" none none) rfl rfl with
    ⟨herror, -⟩ | ⟨d, name, major, hd, hcounts, hcounted⟩
  · rw [hrecognize] at herror
    cases herror
  · rw [hrecognize] at hd
    obtain rfl := Except.ok.inj hd
    obtain ⟨rfl, -, rfl, -, -⟩ := hcounts
    exact hcounted

end Meter

end ClientCounters
