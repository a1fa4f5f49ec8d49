/-
# Normalizing is a projection

Normalizing takes two steps: small letters, and a hyphen for every run of white space.  They may
change places.  The form of a sigma depends on letters far away from it, but never across white
space, and a hyphen ends a word as white space does; so the sigma gets the same form whether the
runs were replaced before or not (`hyphenate_lowercaseFrom`).  The texts that come out are those
without white space that are in small letters already.
-/
import ClientCounters.Proofs.MetricName
import ClientCounters.Proofs.Text.WordEnd

namespace ClientCounters

open Text (isBlank meetsCased lowercaseFrom smallLetters smallSigma)

/-- The text with a hyphen for every run of white space. -/
def hyphenated (s : String) : String :=
  String.ofList (hyphenate false s.toList)

lemma normalize_eq_hyphenated (s : String) : normalize s = hyphenated (Text.lowercase s) := by
  rw [normalize, normalizeChars, hyphenated, Text.lowercase, String.toList_ofList]

/-- Characters other than white space are kept, and end every run of it. -/
lemma hyphenate_append_of_not_blank {inRun : Bool} {cs rest : List Char} (hne : cs ≠ [])
    (h : ∀ c ∈ cs, isBlank c = false) :
    hyphenate inRun (cs ++ rest) = cs ++ hyphenate false rest := by
  obtain ⟨front, last, rfl⟩ : ∃ front last, cs = front ++ [last] :=
    ⟨cs.dropLast, cs.getLast hne, (List.dropLast_concat_getLast hne).symm⟩
  have hlast : isBlank last = false := h last (by simp)
  have hfront : ∀ c ∈ front, isBlank c = false := fun c hc => h c (List.mem_append_left _ hc)
  rw [List.append_assoc, List.singleton_append, hyphenate_append_cons hlast,
    hyphenate_eq_self hfront, List.append_assoc, List.singleton_append]

/-- The letters that are met behind a place are the same with hyphens. -/
lemma meetsCased_hyphenate (cs : List Char) : meetsCased (hyphenate false cs) = meetsCased cs := by
  induction cs with
  | nil => rfl
  | cons c cs ih =>
    rw [hyphenate]
    split
    · next hc =>
      -- neither the hyphen nor the white space lets the search go on
      rw [(Text.endsWord_of_isBlank hc).meetsCased_cons]
      exact Text.endsWord_hyphen.meetsCased_cons _
    · rw [Text.meetsCased_cons, Text.meetsCased_cons, ih]

/-- The small letters of a character, with hyphens around it or with white space. -/
lemma small_hyphenate {before before' : List Char} (h : meetsCased before = meetsCased before')
    (c : Char) (cs : List Char) :
    (if c = 'Σ' then [smallSigma before' (hyphenate false cs)] else smallLetters c) =
      if c = 'Σ' then [smallSigma before cs] else smallLetters c := by
  rw [smallSigma, smallSigma, h, meetsCased_hyphenate]

lemma small_ne_nil_and_not_blank (before cs : List Char) {c : Char} (hc : isBlank c = false) :
    (if c = 'Σ' then [smallSigma before cs] else smallLetters c) ≠ [] ∧
      ∀ d ∈ if c = 'Σ' then [smallSigma before cs] else smallLetters c, isBlank d = false := by
  split
  · refine ⟨List.cons_ne_nil _ _, fun d hd => ?_⟩
    rw [List.mem_singleton.1 hd]
    exact Text.not_isBlank_smallSigma before cs
  · exact ⟨Text.smallLetters_ne_nil c, fun d => Text.not_isBlank_of_mem_smallLetters hc⟩

/-- The two steps change places, from any place on.  Of what is behind it only counts which letter
is met there; within a run of white space that is none. -/
lemma hyphenate_lowercaseFrom {inRun : Bool} {before before' : List Char} (cs : List Char)
    (h : meetsCased before = meetsCased before')
    (hrun : inRun = true → meetsCased before' = false) :
    hyphenate inRun (lowercaseFrom before cs) = lowercaseFrom before' (hyphenate inRun cs) := by
  induction cs generalizing inRun before before' with
  | nil => rfl
  | cons c cs ih =>
    by_cases hc : isBlank c = true
    · have hbehind := (Text.endsWord_of_isBlank hc).meetsCased_cons before
      obtain ⟨hsigma, hsmall⟩ := Text.isSmall_of_isBlank hc
      rw [lowercaseFrom, if_neg hsigma, hsmall, List.singleton_append, hyphenate, hyphenate,
        if_pos hc, if_pos hc]
      cases inRun with
      | true => exact ih (hbehind.trans (hrun rfl).symm) hrun
      | false =>
        -- the run begins here, and behind its hyphen no letter is met
        have hhyphen := Text.endsWord_hyphen.meetsCased_cons before'
        have hlower : lowercaseFrom before' ('-' :: hyphenate true cs) =
            '-' :: lowercaseFrom ('-' :: before') (hyphenate true cs) := by
          rw [lowercaseFrom, if_neg Text.isSmall_hyphen.ne_sigma,
            Text.isSmall_hyphen.smallLetters_eq, List.singleton_append]
        rw [if_neg Bool.false_ne_true, List.singleton_append, List.singleton_append, hlower,
          ih (hbehind.trans hhyphen.symm) fun _ => hhyphen]
    · have hnot : isBlank c = false := Bool.eq_false_iff.2 hc
      have hnext : meetsCased (c :: before) = meetsCased (c :: before') := by
        rw [Text.meetsCased_cons, Text.meetsCased_cons, h]
      obtain ⟨hne, hblank⟩ := small_ne_nil_and_not_blank before cs hnot
      rw [hyphenate, if_neg hc, lowercaseFrom, lowercaseFrom, small_hyphenate h,
        hyphenate_append_of_not_blank hne hblank,
        ih hnext fun hfalse => absurd hfalse Bool.false_ne_true]

/-- It makes no difference which step comes first. -/
lemma hyphenated_lowercase (s : String) :
    hyphenated (Text.lowercase s) = Text.lowercase (hyphenated s) := by
  have hchars : hyphenate false (lowercaseFrom [] s.toList) =
      lowercaseFrom [] (hyphenate false s.toList) :=
    hyphenate_lowercaseFrom s.toList rfl nofun
  rw [hyphenated, hyphenated, Text.lowercase, Text.lowercase, String.toList_ofList,
    String.toList_ofList, Text.lowercaseChars, Text.lowercaseChars, hchars]

lemma hyphenated_eq_self {t : String} (h : ∀ c ∈ t.toList, isBlank c = false) :
    hyphenated t = t := by
  rw [hyphenated, hyphenate_eq_self h, String.ofList_toList]

lemma not_isBlank_of_mem_normalize {s : String} {c : Char} (hc : c ∈ (normalize s).toList) :
    isBlank c = false := by
  rw [normalize, String.toList_ofList] at hc
  exact not_isBlank_of_mem_normalizeChars hc

lemma lowercase_normalize (s : String) : Text.lowercase (normalize s) = normalize s := by
  rw [Text.lowercase, normalize, String.toList_ofList,
    Text.lowercaseChars_eq_self fun _ => isSmall_of_mem_normalizeChars]

/-- **Normalizing is a projection.**  A second time it changes nothing.  What comes out are the
texts without white space that small letters leave as they are.  The runs of white space may be
replaced before the letters or behind them.  And it makes no difference to the name of a counter
whether its parts were normalized before. -/
theorem normalize_projection :
    (∀ s, normalize (normalize s) = normalize s) ∧
    (∀ t, (∃ s, normalize s = t) ↔
      (∀ c ∈ t.toList, isBlank c = false) ∧ Text.lowercase t = t) ∧
    (∀ s, normalize s = hyphenated (Text.lowercase s) ∧
      hyphenated (Text.lowercase s) = Text.lowercase (hyphenated s)) ∧
    ∀ space fragment, MetricName.ofParts space fragment =
      MetricName.ofParts (normalize space) (normalize fragment) := by
  refine ⟨normalize_normalize, fun t => ?_,
    fun s => ⟨normalize_eq_hyphenated s, hyphenated_lowercase s⟩, fun space fragment => ?_⟩
  · constructor
    · rintro ⟨s, rfl⟩
      exact ⟨fun c => not_isBlank_of_mem_normalize, lowercase_normalize s⟩
    · rintro ⟨hblank, hlower⟩
      refine ⟨t, ?_⟩
      rw [normalize_eq_hyphenated, hlower, hyphenated_eq_self hblank]
  · rw [MetricName.ofParts, MetricName.ofParts, normalize_normalize, normalize_normalize]

/-- The sigma in front of the em space ends a word, and so it does with a hyphen behind it; the one
in front of the full stop does not, since a letter follows. -/
example : hyphenated (Text.lowercase "ΑΣ\u2003 Σ.Α") = "ας-σ.α" ∧
    Text.lowercase (hyphenated "ΑΣ\u2003 Σ.Α") = "ας-σ.α" := by
  decide +kernel

end ClientCounters
