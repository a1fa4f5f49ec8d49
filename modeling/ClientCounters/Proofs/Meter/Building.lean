/-
# Meters as they are built

A meter is built with the header, the keys and the time limit of its settings as they are; a blank
namespace and the capacity 0 are replaced.  Using the meter changes none of these.  Every setting
that is replaced and every key that does not compile is warned about.  The header name is not: a
meter with a header name that is none is built without a warning and skips every request.
-/
import Mathlib.Tactic.NormNum
import ClientCounters.Proofs.Cache.Lookup
import ClientCounters.Proofs.Http.Field
import ClientCounters.Proofs.Meter.Plain
import ClientCounters.Proofs.Settings.Validation

namespace ClientCounters

namespace Meter

variable {σ κ : Type} {s : Settings} {m : Meter σ κ} {parser : Parser σ} {state : σ}
  {components : κ}

/-- A meter for these settings, apart from its parser and its components. -/
structure Configured (s : Settings) (m : Meter σ κ) : Prop where
  headerName : m.headerName = s.headerName
  space : m.space = spaceOf s
  keys : m.keys = s.effectiveKeys.map CompiledKey.compile
  capacity : m.cache.capacity = max 1 s.capacity
  limit : m.cache.limit = s.parseTimeout

namespace Configured

lemma of_build (h : (build s parser state components).1 = some m) : Configured s m := by
  obtain ⟨c, hc, rfl⟩ := Option.map_eq_some_iff.1 h
  rw [Cache.make?] at hc
  split at hc
  · obtain rfl := Option.some.inj hc
    exact ⟨rfl, rfl, rfl, rfl, rfl⟩
  · cases hc

lemma of_sameBounds (h : Configured s m) {c : Cache} (hc : m.cache.SameBounds c) :
    Configured s { m with cache := c } :=
  ⟨h.headerName, h.space, h.keys, hc.capacity.trans h.capacity, hc.limit.trans h.limit⟩

lemma keySources (h : Configured s m) : m.keySources = s.effectiveKeys := by
  rw [Meter.keySources, h.keys, List.map_map]
  exact List.map_id _

variable [ComponentSource κ]

lemma recordIdentified (h : Configured s m) (view : Http.View) (userAgent : String) :
    Configured s (m.recordIdentified view userAgent).meter := by
  have hbounds := Cache.SameBounds.getOrParse m.parser userAgent m.cache m.parserState
  obtain ⟨hheader, hspace, hkeys, hcapacity, hlimit⟩ := h.of_sameBounds hbounds
  rw [Meter.recordIdentified]
  dsimp only
  -- however the look-up ends, only the components change besides
  split
  · exact ⟨hheader, hspace, hkeys, hcapacity, hlimit⟩
  · exact ⟨hheader, hspace, hkeys, hcapacity, hlimit⟩
  · exact ⟨hheader, hspace, hkeys, hcapacity, hlimit⟩

lemma use (h : Configured s m) (u : Use) : Configured s (m.use u) := by
  cases u with
  | clear => exact h.of_sameBounds (.clear m.cache)
  | record request =>
    rw [Meter.use]
    cases request with
    | other => exact h
    | http view =>
      rw [Meter.record]
      split
      · exact h
      · exact h.recordIdentified view _

lemma useAll (h : Configured s m) (uses : List Use) : Configured s (m.useAll uses) := by
  induction uses generalizing m with
  | nil => exact h
  | cons u uses ih => exact ih (h.use u)

end Configured

/-- A meter is built unless its cache cannot be laid out. -/
lemma exists_build_iff (s : Settings) (parser : Parser σ) (state : σ) (components : κ) :
    (∃ m, (build s parser state components).1 = some m) ↔ s.capacity ≤ 7 * 2 ^ 55 := by
  have hmax : max 1 s.capacity ≤ Cache.maxCapacity ↔ s.capacity ≤ 7 * 2 ^ 55 := by
    norm_num [Cache.maxCapacity]
  rw [← hmax, build, Cache.make?]
  split
  · simp
  · simp

/-! ## Warnings -/

/-- Every setting but the header name is warned about when it is not valid. -/
lemma warnings_eq_nil_iff : warnings s = [] ↔
    Text.isBlankText s.space = false ∧ s.capacity ≠ 0 ∧ ∀ key ∈ s.effectiveKeys, Compiles key := by
  have hwarning : ∀ key, CompiledKey.warning? (.compile key) = none ↔ Compiles key := by
    intro key
    rw [CompiledKey.warning?, CompiledKey.compile, Compiles]
    cases KeyExpression.read key <;> simp
  simp [warnings, List.filterMap_eq_nil_iff, hwarning]

lemma level_of_mem_warnings {event : LogEvent} (h : event ∈ warnings s) : event.level = .warn := by
  simp only [warnings, List.mem_append, List.mem_filterMap] at h
  rcases h with (h | h) | ⟨k, -, hk⟩
  · split at h
    · rw [List.mem_singleton.1 h]
      rfl
    · cases h
  · split at h
    · rw [List.mem_singleton.1 h]
      rfl
    · cases h
  · rw [CompiledKey.warning?] at hk
    split at hk
    · cases hk
    · rw [← Option.some.inj hk]
      rfl

lemma exists_warning_iff : (∃ event ∈ (build s parser state components).2, event.level = .warn) ↔
    warnings s ≠ [] := by
  constructor
  · rintro ⟨event, hevent, -⟩
    exact List.ne_nil_of_mem hevent
  · intro h
    obtain ⟨event, hevent⟩ := List.exists_mem_of_ne_nil _ h
    exact ⟨event, hevent, level_of_mem_warnings hevent⟩

variable [ComponentSource κ]

/-- With a header name that is none, no request has an identification. -/
lemma Configured.skips (h : Configured s m) (hname : Http.isHeaderName s.headerName = false)
    {method target : String} {fields : List Http.Field} {r : Http.Request}
    (hmake : Http.Request.make? method target fields = some r) :
    (m.record (.http r.view)).outcome = some (.skipped .missingHeader) := by
  have hheader : r.view.header m.headerName = none := by
    rw [h.headerName]
    exact Http.Request.header?_eq_none hmake hname
  rw [record, identification?, hheader]
  rfl

/-- **What is warned about.**  Building logs a warning if and only if the settings would be refused
with a good header name in place of their own.  Settings that are refused are therefore warned about
or have a header name that is none, and then the meter skips every request. -/
theorem build_warns_iff (s : Settings) (parser : Parser σ) (state : σ) (components : κ) :
    ((∃ event ∈ (build s parser state components).2, event.level = .warn) ↔
      { s with headerName := "User-Agent" }.validate ≠ .ok ()) ∧
    (s.validate ≠ .ok () ↔
      (∃ event ∈ (build s parser state components).2, event.level = .warn) ∨
        Http.isHeaderName s.headerName = false) ∧
    (Http.isHeaderName s.headerName = false →
      ∀ m, (build s parser state components).1 = some m →
      ∀ uses method target fields r, Http.Request.make? method target fields = some r →
        ((m.useAll uses).record (.http r.view)).outcome = some (.skipped .missingHeader)) := by
  have hgood : Http.isHeaderName "User-Agent" = true := by decide
  -- validation asks for a good header name and for what is warned about
  have hvalid : ∀ t : Settings, t.validate = .ok () ↔
      Http.isHeaderName t.headerName = true ∧ warnings t = [] := by
    intro t
    rw [Settings.validate_eq_ok_iff, warnings_eq_nil_iff]
    constructor
    · rintro ⟨⟨hspace, hheader, hcapacity⟩, hkeys⟩
      exact ⟨hheader, hspace, hcapacity, hkeys⟩
    · rintro ⟨hheader, hspace, hcapacity, hkeys⟩
      exact ⟨⟨hspace, hheader, hcapacity⟩, hkeys⟩
  refine ⟨?_, ?_, ?_⟩
  · rw [exists_warning_iff, ne_eq, ne_eq, hvalid]
    -- the warnings do not depend on the header name
    have hsame : warnings { s with headerName := "User-Agent" } = warnings s := rfl
    simp [hgood, hsame]
  · rw [exists_warning_iff, ne_eq, hvalid, not_and_or, Bool.not_eq_true, or_comm]
  · intro hname m hm uses method target fields r hmake
    exact ((Configured.of_build hm).useAll uses).skips hname hmake

/-- With a blank in the header name there is no warning, and a request that does identify its client
is skipped. -/
theorem build_warns_iff_of_spaced_name :
    let s : Settings := { headerName := "User Agent" }
    let fields : List Http.Field := [⟨"User-Agent", [0x63, 0x75, 0x72, 0x6C]⟩]
    ∃ (m : Meter Unit ComponentRegistry) (r : Http.Request),
      build s Parser.builtIn () {} = (some m, []) ∧
      Http.Request.make? "GET" "/" fields = some r ∧
      (m.record (.http r.view)).outcome = some (.skipped .missingHeader) := by
  have hname : Http.isHeaderName "User Agent" = false := by decide
  obtain ⟨-, -, hskips⟩ := build_warns_iff { headerName := "User Agent" } Parser.builtIn ()
    ({} : ComponentRegistry)
  refine ⟨_, _, rfl, rfl, ?_⟩
  exact hskips hname _ rfl [] "GET" "/" [⟨"User-Agent", [0x63, 0x75, 0x72, 0x6C]⟩] _ rfl

/-- Settings are refused for their header name, and nothing is logged when a meter is built. -/
theorem not_warned_of_spaced_name :
    let s : Settings := { headerName := "User Agent" }
    s.validate ≠ .ok () ∧
      ¬ ∃ event ∈ (build s Parser.builtIn () ({} : ComponentRegistry)).2, event.level = .warn := by
  constructor
  · decide
  · rw [exists_warning_iff, not_not]
    rfl

end Meter

end ClientCounters
