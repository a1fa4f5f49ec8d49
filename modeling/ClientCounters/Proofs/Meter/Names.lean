/-
# Every counter has a proper name

Whatever a key comes to, its name is made of the namespace of the meter and of a value that is not
blank.  The namespace in force is not blank either, because building replaces a blank one.  So both
parts of the name hold something, and normalizing has made everything else about them right.  Neither
the settings nor the parser nor the components matter for this.
-/
import ClientCounters.Proofs.Meter.Building
import ClientCounters.Proofs.Meter.Recording
import ClientCounters.Proofs.Text.Blank

namespace ClientCounters

variable {σ κ : Type} [ComponentSource κ]

/-- A key that gives a part of a name gives one that is not empty. -/
lemma CompiledKey.fragment_ne_empty {k : CompiledKey} {context : ResolutionContext}
    {components after : κ} {f : String} (h : k.fragment context components = (.ok f, after)) :
    f ≠ "" := by
  rw [fragment] at h
  split at h
  · cases h
  · split at h
    · cases h
    · next v _ _ =>
      obtain ⟨hvalue, -⟩ := Prod.mk.inj h
      split at hvalue
      · cases hvalue
      · next hblank =>
        obtain rfl := Except.ok.inj hvalue
        exact normalize_ne_empty (Text.ne_empty_of_not_blank (Bool.eq_false_iff.2 hblank))

namespace Meter

omit [ComponentSource κ] in
lemma spaceOf_ne_empty (s : Settings) : spaceOf s ≠ "" := by
  rw [spaceOf]
  split
  · decide
  · next hblank => exact Text.ne_empty_of_not_blank (Bool.eq_false_iff.2 hblank)

/-- Keys count under names of two parts. -/
lemma wellFormed_of_mem_evaluateKeys {space : String} (hspace : space ≠ "")
    {context : ResolutionContext} {components : κ} {keys : List CompiledKey} {name : MetricName}
    (hname : name ∈ (evaluateKeys space context components keys).increments) :
    name.WellFormed space := by
  induction keys generalizing components with
  | nil => cases hname
  | cons k ks ih =>
    rw [evaluateKeys] at hname
    split at hname
    · next f after hf =>
      rcases List.mem_cons.1 hname with rfl | hname
      · exact .ofParts hspace (CompiledKey.fragment_ne_empty hf)
      · exact ih hname
    · exact ih hname

lemma wellFormed_of_mem_recordIdentified {m : Meter σ κ} (hspace : m.space ≠ "")
    {view : Http.View} {userAgent : String} {name : MetricName}
    (hname : name ∈ (m.recordIdentified view userAgent).increments) :
    name.WellFormed m.space := by
  rw [recordIdentified] at hname
  dsimp only at hname
  split at hname
  -- only evaluated keys count
  · cases hname
  · cases hname
  · exact wellFormed_of_mem_evaluateKeys hspace hname

lemma wellFormed_of_mem_record {m : Meter σ κ} (hspace : m.space ≠ "") {request : Http.Inbound}
    {name : MetricName} (hname : name ∈ (m.record request).increments) :
    name.WellFormed m.space := by
  cases request with
  | other => cases hname
  | http view =>
    rw [record] at hname
    split at hname
    · cases hname
    · exact wellFormed_of_mem_recordIdentified hspace hname

/-- **Every counter has a proper name.**  With any settings, any parser and any components, and
however the meter was used before, every name that a request is counted under is well formed within
the namespace in force, whether or not the recording is guarded. -/
theorem names_wellFormed (s : Settings) (parser : Parser σ) (state : σ) (components : κ)
    {m : Meter σ κ} (hbuild : m ∈ (build s parser state components).1) (uses : List Use)
    (request : Http.Inbound) {name : MetricName}
    (hname : name ∈ ((m.useAll uses).record request).increments ∨
      name ∈ ((m.useAll uses).recordGuarded request).increments) :
    name.WellFormed (spaceOf s) := by
  have hspace : (m.useAll uses).space = spaceOf s :=
    ((Configured.of_build hbuild).useAll uses).space
  have hrecorded : name ∈ ((m.useAll uses).record request).increments := by
    obtain ⟨events, hguarded⟩ := recordGuarded_eq (m.useAll uses) request
    rw [hguarded] at hname
    exact hname.elim id id
  rw [← hspace]
  exact wellFormed_of_mem_record (hspace ▸ spaceOf_ne_empty s) hrecorded

set_option maxRecDepth 4000 in
/-- A namespace with a dotted capital and white space at its end, a client whose name ends in a
sigma, and a literal with a line break and an em space; the blank literal does not count. -/
theorem names_wellFormed_of_sigma :
    let s : Settings := { keys := ["#this.name + ' \n\u2003X'", "' '", "#this.name"], space := "İ " }
    let request : Http.Inbound := .http (.ofTexts [("User-Agent", "ΟΔΟΣ")] "GET" "/" none none)
    ∃ m : Meter Unit ComponentRegistry,
      m ∈ (build s (Parser.pure fun name => .ok { name }) () {}).1 ∧
      (m.record request).increments = [⟨"i\u0307-.οδος-x"⟩, ⟨"i\u0307-.οδος"⟩] ∧
      MetricName.WellFormed (spaceOf s) ⟨"i\u0307-.οδος-x"⟩ := by
  refine ⟨_, Option.get_mem rfl, by decide +kernel, ?_⟩
  exact names_wellFormed _ (Parser.pure fun name => .ok { name }) () ({} : ComponentRegistry)
    (Option.get_mem rfl) [] (.http (.ofTexts [("User-Agent", "ΟΔΟΣ")] "GET" "/" none none))
    (.inl (by decide +kernel))

end Meter

end ClientCounters
