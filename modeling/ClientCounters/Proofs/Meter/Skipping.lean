/-
# Which requests are skipped

A request identifies its client by the first value of one header.  It is skipped if it has no such
header, or if the value is blank or encodes no text, and also if the value encodes a text that is
not within ASCII; every other request is counted by the text of that value, which is looked up as it
is (`skipped_iff_unidentified`).
-/
import ClientCounters.Proofs.Http.Header
import ClientCounters.Proofs.Meter.Retry

namespace ClientCounters

namespace Http.Request

variable {r : Request} {name s : String}

/-- There is no text to identify a client by: no header of the name, or the first value is blank
or not UTF-8. -/
inductive Unidentified (r : Request) (name : String) : Prop where
  | absent (h : ∀ value, ¬ r.FirstHeader name value)
  | blank (s : String) (h : r.FirstHeader name (Text.bytes s)) (hblank : Text.isBlankText s = true)
  | noText (value : List UInt8) (h : r.FirstHeader name value) (htext : ∀ s, Text.bytes s ≠ value)

/-- With a text as the first value it matters only whether that text is blank. -/
lemma FirstHeader.unidentified_iff (h : r.FirstHeader name (Text.bytes s)) :
    r.Unidentified name ↔ Text.isBlankText s = true := by
  constructor
  · rintro (habsent | ⟨t, ht, hblank⟩ | ⟨value, hvalue, htext⟩)
    · exact absurd h (habsent _)
    · rwa [Text.bytes_injective (h.unique ht)]
    · exact absurd (h.unique hvalue) (htext s)
  · exact .blank s h

end Http.Request

namespace Meter

variable {σ κ : Type} [ComponentSource κ] {m : Meter σ κ} {view : Http.View}
  {method target : String} {fields : List Http.Field} {r : Http.Request} {s userAgent : String}

lemma outcome_recordIdentified_ne_skipped (m : Meter σ κ) (view : Http.View) (userAgent : String)
    (reason : SkipReason) :
    (m.recordIdentified view userAgent).outcome ≠ some (.skipped reason) := by
  rw [recordIdentified]
  dsimp only
  split <;> simp

lemma skipped_iff_identification? :
    (m.record (.http view)).outcome = some (.skipped .missingHeader) ↔
      m.identification? view = none := by
  rw [record]
  cases m.identification? view with
  | none => exact ⟨fun _ => rfl, fun _ => rfl⟩
  | some userAgent =>
    exact iff_of_false (outcome_recordIdentified_ne_skipped m view userAgent _)
      (Option.some_ne_none userAgent)

omit [ComponentSource κ] in
/-- The client of a request is identified by the text of the first value. -/
lemma identification?_eq_some_iff (hmake : Http.Request.make? method target fields = some r) :
    m.identification? r.view = some s ↔
      r.FirstHeader m.headerName (Text.bytes s) ∧ Text.IsAscii s.toList ∧
        Text.isBlankText s = false := by
  rw [identification?, Option.filter_eq_some_iff, Bool.not_eq_true', ← and_assoc]
  exact and_congr_left fun _ => Http.Request.header?_eq_some_iff hmake

/-- With a text as the first value, the request is skipped if the text is blank or goes beyond
ASCII. -/
lemma skipped_iff_of_firstHeader (hmake : Http.Request.make? method target fields = some r)
    (h : r.FirstHeader m.headerName (Text.bytes s)) :
    (m.record (.http r.view)).outcome = some (.skipped .missingHeader) ↔
      Text.isBlankText s = true ∨ ¬ Text.IsAscii s.toList := by
  have hid (t : String) : m.identification? r.view = some t ↔
      s = t ∧ Text.IsAscii s.toList ∧ Text.isBlankText s = false := by
    rw [identification?_eq_some_iff hmake]
    constructor
    · rintro ⟨ht, htext⟩
      obtain rfl := Text.bytes_injective (h.unique ht)
      exact ⟨rfl, htext⟩
    · rintro ⟨rfl, htext⟩
      exact ⟨h, htext⟩
  rw [skipped_iff_identification?, Option.eq_none_iff_forall_ne_some]
  simp only [ne_eq, hid, not_and, Bool.not_eq_false, forall_eq']
  rw [← imp_iff_or_not]

/-- Without a text as the first value, the request is skipped. -/
lemma skipped_of_no_text (hmake : Http.Request.make? method target fields = some r)
    (h : ∀ s, ¬ r.FirstHeader m.headerName (Text.bytes s)) :
    (m.record (.http r.view)).outcome = some (.skipped .missingHeader) :=
  skipped_iff_identification?.2 (Option.eq_none_iff_forall_ne_some.2 fun s hs =>
    h s ((identification?_eq_some_iff hmake).1 hs).1)

/-- **Which requests are skipped.**  A request is skipped if its first value for the header does
not identify a client, or if it is a text that goes beyond ASCII, and for nothing else.  A skipped
request leaves all as it was.  Of every other request the text of the first value is looked up. -/
theorem skipped_iff_unidentified (m : Meter σ κ)
    (hmake : Http.Request.make? method target fields = some r) :
    let run := m.record (.http r.view)
    (run.outcome = some (.skipped .missingHeader) ↔ r.Unidentified m.headerName ∨
      ∃ s, r.FirstHeader m.headerName (Text.bytes s) ∧ ¬ Text.IsAscii s.toList) ∧
    (run.outcome = some (.skipped .missingHeader) →
      run.increments = [] ∧ run.events = [.missingHeader m.headerName] ∧ run.meter = m) ∧
    (run.outcome ≠ some (.skipped .missingHeader) →
      ∃ s, r.FirstHeader m.headerName (Text.bytes s) ∧ run = m.recordIdentified r.view s ∧
        let look := m.cache.getOrParse m.parser.besides s m.parserState
        run.meter.cache = look.cache ∧ run.meter.parserState = look.state) := by
  refine ⟨?_, fun h => ?_, fun h => ?_⟩
  · by_cases htext : ∃ s, r.FirstHeader m.headerName (Text.bytes s)
    · obtain ⟨s, hs⟩ := htext
      have hbeyond : (∃ t, r.FirstHeader m.headerName (Text.bytes t) ∧ ¬ Text.IsAscii t.toList) ↔
          ¬ Text.IsAscii s.toList := by
        constructor
        · rintro ⟨t, ht, hbeyond⟩
          rwa [Text.bytes_injective (hs.unique ht)]
        · exact fun hbeyond => ⟨s, hs, hbeyond⟩
      rw [skipped_iff_of_firstHeader hmake hs, hs.unidentified_iff, hbeyond]
    · have hnone := not_exists.1 htext
      refine iff_of_true (skipped_of_no_text hmake hnone) (.inl ?_)
      by_cases hvalue : ∃ value, r.FirstHeader m.headerName value
      · obtain ⟨value, hvalue⟩ := hvalue
        exact .noText value hvalue fun s hs => hnone s (hs ▸ hvalue)
      · exact .absent (not_exists.1 hvalue)
  · rw [record, skipped_iff_identification?.1 h]
    exact ⟨rfl, rfl, rfl⟩
  · obtain ⟨s, hs⟩ := Option.ne_none_iff_exists'.1 (mt skipped_iff_identification?.2 h)
    have hrun : m.record (.http r.view) = m.recordIdentified r.view s :=
      record_http_of_clientText? hs
    obtain ⟨-, hcache, hstate⟩ := meter_recordIdentified m r.view s
    exact ⟨s, ((identification?_eq_some_iff hmake).1 hs).1, hrun, hrun ▸ hcache, hrun ▸ hstate⟩

/-- The first of two values is looked up, whatever the case of its name. -/
theorem skipped_iff_unidentified_of_repeated_header :
    let fields : List Http.Field := [⟨"Accept", Text.bytes "text/html"⟩,
      ⟨"user-agent", Text.bytes "curl/8.4.0"⟩, ⟨"User-Agent", [0xFF, 0xFE]⟩]
    let r : Http.Request := ⟨"GET", ⟨none, "/", none⟩, fields⟩
    ∃ m : Meter Unit ComponentRegistry, build {} Parser.builtIn () {} = (some m, []) ∧
      Http.Request.make? "GET" "/" fields = some r ∧
      m.record (.http r.view) = m.recordIdentified r.view "curl/8.4.0" := by
  intro fields r
  have hmake : Http.Request.make? "GET" "/" fields = some r := by rfl
  obtain ⟨m, hbuild, hname⟩ : ∃ m : Meter Unit ComponentRegistry,
    build {} Parser.builtIn () {} = (some m, []) ∧ m.headerName = "User-Agent" := ⟨_, rfl, rfl⟩
  have hfirst : r.FirstHeader m.headerName (Text.bytes "curl/8.4.0") := by
    rw [hname]
    refine ⟨[⟨"Accept", Text.bytes "text/html"⟩], _, _, rfl, ?_, ?_, rfl⟩ <;> decide
  refine ⟨m, hbuild, hmake, ?_⟩
  obtain ⟨hskipped, -, hlook⟩ := skipped_iff_unidentified m hmake
  have hcounted : (m.record (.http r.view)).outcome ≠ some (.skipped .missingHeader) := by
    rw [ne_eq, hskipped, hfirst.unidentified_iff]
    rintro (hblank | ⟨s, hs, hbeyond⟩)
    · exact absurd hblank (by decide)
    · rw [← Text.bytes_injective (hfirst.unique hs)] at hbeyond
      exact hbeyond (by decide)
  obtain ⟨s, hs, hrun, -⟩ := hlook hcounted
  rw [hrun, Text.bytes_injective (hfirst.unique hs)]

/-- A client that is named beyond ASCII has a text to identify it, and its request is skipped; told
as texts, the same header is not. -/
theorem skipped_of_name_beyond_ascii :
    let fields : List Http.Field := [⟨"User-Agent", Text.bytes "Café Firefox/115.0"⟩]
    let r : Http.Request := ⟨"GET", ⟨none, "/", none⟩, fields⟩
    let told := Http.View.ofTexts [("User-Agent", "Café Firefox/115.0")] "GET" "/" none none
    ∃ m : Meter Unit ComponentRegistry, build {} Parser.builtIn () {} = (some m, []) ∧
      Http.Request.make? "GET" "/" fields = some r ∧
      ¬ ((m.record (.http r.view)).outcome = some (.skipped .missingHeader) ↔
        r.Unidentified m.headerName) ∧
      (m.record (.http told)).outcome ≠ some (.skipped .missingHeader) := by
  intro fields r told
  have hmake : Http.Request.make? "GET" "/" fields = some r := by rfl
  obtain ⟨m, hbuild, hname⟩ : ∃ m : Meter Unit ComponentRegistry,
    build {} Parser.builtIn () {} = (some m, []) ∧ m.headerName = "User-Agent" := ⟨_, rfl, rfl⟩
  have hfirst : r.FirstHeader m.headerName (Text.bytes "Café Firefox/115.0") := by
    rw [hname]
    exact ⟨[], _, [], rfl, by decide, nofun, rfl⟩
  have htold : m.identification? told = some "Café Firefox/115.0" := by
    rw [identification?, hname]
    decide
  refine ⟨m, hbuild, hmake, ?_, ?_⟩
  · rw [skipped_iff_of_firstHeader hmake hfirst, hfirst.unidentified_iff]
    decide
  · rw [ne_eq, skipped_iff_identification?, htold]
    exact Option.some_ne_none _

end Meter

end ClientCounters
