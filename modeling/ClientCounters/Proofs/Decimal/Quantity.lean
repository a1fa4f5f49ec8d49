/-
# What a number with a unit stands for

A unit is written in small letters, and no numeral and no white space holds one.  So the unit of a
text is the run of letters at its end, and a text is read in one way at most (`Writes.unique`).  The
reader finds this unit if a symbol that another one ends in is tried behind it
(`Scale.WellOrdered`), and takes the number as it is or, if it is too large for a word before or
after it is scaled, not at all.
-/
import Mathlib.Algebra.Ring.Nat
import Mathlib.Data.List.Basic
import Mathlib.Tactic.Common
import ClientCounters.Capacity
import ClientCounters.Duration
import ClientCounters.Proofs.Text.Blank
import ClientCounters.Proofs.Text.WordEnd

namespace ClientCounters.Decimal

open Text (AllBlank Trimmed trimChars lowercaseChars)

variable {cs ws numeral front run symbol text : List Char} {m n : Nat}

/-! ## Numerals -/

/-- Some characters are a decimal numeral: one or more digits, with a plus sign in front or not. -/
inductive IsNumeral : List Char → Nat → Prop
  | unsigned {digits : List Char} : digits ≠ [] → (∀ c ∈ digits, c.isDigit = true) →
      IsNumeral digits (Nat.ofDigitChars 10 digits 0)
  | signed {digits : List Char} : digits ≠ [] → (∀ c ∈ digits, c.isDigit = true) →
      IsNumeral ('+' :: digits) (Nat.ofDigitChars 10 digits 0)

lemma readDigits?_eq_some_iff : readDigits? cs = some n ↔
    cs ≠ [] ∧ (∀ c ∈ cs, c.isDigit = true) ∧ Nat.ofDigitChars 10 cs 0 = n := by
  have hvalue : valueOfDigits cs = Nat.ofDigitChars 10 cs 0 := rfl
  rw [readDigits?, hvalue]
  simp [and_assoc]

/-- A numeral is read as what it stands for, if that fits a word. -/
lemma readWord?_eq_some_iff : readWord? cs = some n ↔ IsNumeral cs n ∧ n < 2 ^ 64 := by
  unfold readWord?
  rw [Option.filter_eq_some_iff, decide_eq_true_iff]
  refine and_congr ?_ Iff.rfl
  split
  · next digits =>
    rw [readDigits?_eq_some_iff]
    constructor
    · rintro ⟨hne, hdigits, rfl⟩
      exact .signed hne hdigits
    · rintro (⟨-, hdigits⟩ | ⟨hne, hdigits⟩)
      · cases hdigits '+' List.mem_cons_self
      · exact ⟨hne, hdigits, rfl⟩
  · next hplus =>
    rw [readDigits?_eq_some_iff]
    constructor
    · rintro ⟨hne, hdigits, rfl⟩
      exact .unsigned hne hdigits
    · rintro (⟨hne, hdigits⟩ | _)
      · exact ⟨hne, hdigits, rfl⟩
      · exact absurd rfl (hplus _)

lemma IsNumeral.unique (h : IsNumeral cs m) (h' : IsNumeral cs n) : m = n := by
  cases h with
  | unsigned hne hdigits =>
    cases h' with
    | unsigned => rfl
    | signed => cases hdigits '+' List.mem_cons_self
  | signed hne hdigits =>
    cases h' with
    | unsigned _ hdigits' => cases hdigits' '+' List.mem_cons_self
    | signed => rfl

lemma IsNumeral.eq_plus_or_isDigit (h : IsNumeral cs n) :
    ∀ c ∈ cs, c = '+' ∨ c.isDigit = true := by
  cases h with
  | unsigned hne hdigits => exact fun c hc => .inr (hdigits c hc)
  | signed hne hdigits => exact List.forall_mem_cons.2 ⟨.inl rfl, fun c hc => .inr (hdigits c hc)⟩

lemma IsNumeral.trimmed (h : IsNumeral cs n) : Trimmed cs := by
  refine Text.trimmed_of_forall fun c hc => ?_
  rcases h.eq_plus_or_isDigit c hc with rfl | hdigit
  · decide
  · exact Text.not_isBlank_of_isAlphanum (Text.isAlphanum_of_isDigit hdigit)

/-! ## Units -/

/-- A unit is written in small letters of ASCII. -/
def Letters (cs : List Char) : Prop :=
  ∀ c ∈ cs, c.isLower = true

instance : DecidablePred Letters :=
  fun _ => decidable_of_iff _ List.all_eq_true

/-- No letter stands in front of the unit. -/
def NoLetters (cs : List Char) : Prop :=
  ∀ c ∈ cs, c.isLower = false

lemma isLower_eq_false_of_isDigit {c : Char} (h : c.isDigit = true) : c.isLower = false := by
  rw [Bool.eq_false_iff]
  intro hlower
  have hle : c.val ≤ '9'.val := of_decide_eq_true (Bool.and_eq_true_iff.1 h).2
  have hge : 'a'.val ≤ c.val := of_decide_eq_true (Bool.and_eq_true_iff.1 hlower).1
  exact absurd (UInt32.le_trans hge hle) (by decide)

lemma isLower_eq_false_of_isBlank {c : Char} (h : Text.isBlank c = true) : c.isLower = false := by
  rw [Bool.eq_false_iff]
  intro hlower
  have halpha : c.isAlpha = true := Bool.or_eq_true_iff.2 (.inr hlower)
  rw [Text.not_isBlank_of_isAlphanum (Text.isAlphanum_of_isAlpha halpha)] at h
  cases h

lemma IsNumeral.noLetters (h : IsNumeral numeral n) (hws : AllBlank ws) :
    NoLetters (numeral ++ ws) := by
  intro c hc
  rcases List.mem_append.1 hc with hc | hc
  · rcases h.eq_plus_or_isDigit c hc with rfl | hdigit
    · decide
    · exact isLower_eq_false_of_isDigit hdigit
  · exact isLower_eq_false_of_isBlank (hws c hc)

/-- A unit at the end of a text lies in the run of letters there. -/
lemma Letters.suffix_of_append (hsymbol : Letters symbol) (hfront : NoLetters front)
    (h : cs ++ symbol = front ++ run) : symbol <:+ run := by
  rcases List.append_eq_append_iff.1 h with ⟨rest, hcs, hrest⟩ | ⟨rest, -, hrun⟩
  · have hnil : rest = [] := by
      refine List.eq_nil_iff_forall_not_mem.2 fun c hc => ?_
      have hlower : c.isLower = true := hsymbol c (hrest ▸ List.mem_append_left _ hc)
      rw [hfront c (hcs ▸ List.mem_append_right _ hc)] at hlower
      cases hlower
    rw [hrest, hnil]
    exact List.suffix_rfl
  · exact ⟨rest, hrun.symm⟩

/-- A text writes a number of a unit: the numeral, white space or none, and the symbol. -/
def Writes (text : List Char) (n : Nat) (symbol : String) : Prop :=
  ∃ numeral ws, IsNumeral numeral n ∧ AllBlank ws ∧ text = numeral ++ ws ++ symbol.toList

/-- A text is read in one way at most. -/
lemma Writes.unique {u v : String} (hu : Letters u.toList) (hv : Letters v.toList)
    (h : Writes text m u) (h' : Writes text n v) : m = n ∧ u = v := by
  obtain ⟨numeral, ws, hnumeral, hws, rfl⟩ := h
  obtain ⟨numeral', ws', hnumeral', hws', heq⟩ := h'
  have hsuffix : u.toList <:+ v.toList := hu.suffix_of_append (hnumeral'.noLetters hws') heq
  have hsuffix' : v.toList <:+ u.toList := hv.suffix_of_append (hnumeral.noLetters hws) heq.symm
  have hsymbol : u.toList = v.toList := hsuffix.eq_of_length_le hsuffix'.length_le
  rw [hsymbol] at heq
  have hfront : numeral ++ ws = numeral' ++ ws' := List.append_cancel_right heq
  have hcore : numeral = numeral' := by
    rw [← Text.trimChars_padded Text.allBlank_nil hnumeral.trimmed hws,
      ← Text.trimChars_padded Text.allBlank_nil hnumeral'.trimmed hws', List.nil_append,
      List.nil_append, hfront]
  exact ⟨hnumeral.unique (hcore ▸ hnumeral'), String.toList_injective hsymbol⟩

/-! ## Finding the unit -/

namespace Scale

variable {us : List QuantityUnit} {u : QuantityUnit} {plain factor : Nat} {scale : Scale}
  {s : String}

/-- Every unit has a symbol of letters, and one that another ends in is tried behind it. -/
structure WellOrdered (us : List QuantityUnit) : Prop where
  ne_nil : ∀ u ∈ us, u.symbol.toList ≠ []
  letters : ∀ u ∈ us, Letters u.symbol.toList
  apart : us.Pairwise fun u v => ¬ u.symbol.toList <:+ v.symbol.toList

lemma WellOrdered.tail (h : WellOrdered (u :: us)) : WellOrdered us where
  ne_nil v hv := h.ne_nil v (List.mem_cons_of_mem _ hv)
  letters v hv := h.letters v (List.mem_cons_of_mem _ hv)
  apart := h.apart.of_cons

/-- A unit that is not at the end of the run of letters is passed over. -/
lemma divide_cons_of_not_suffix (hu : Letters u.symbol.toList) (hfront : NoLetters front)
    (h : ¬ u.symbol.toList <:+ run) :
    divide plain (front ++ run) (u :: us) = divide plain (front ++ run) us := by
  have hnone : u.symbol.toList.isSuffixOf? (front ++ run) = none := by
    refine Option.eq_none_iff_forall_ne_some.2 fun number hnumber => h ?_
    exact hu.suffix_of_append hfront (List.isSuffixOf?_eq_some_iff_append_eq.1 hnumber)
  rw [divide, hnone]

lemma divide_of_mem (h : WellOrdered us) (hu : u ∈ us) (hfront : NoLetters front) :
    divide plain (front ++ u.symbol.toList) us = (front, u.factor) := by
  induction us with
  | nil => cases hu
  | cons v us ih =>
    rcases List.mem_cons.1 hu with rfl | hu
    · rw [divide, List.isSuffixOf?_eq_some_iff_append_eq.2 rfl]
    · have hnot : ¬ v.symbol.toList <:+ u.symbol.toList := List.rel_of_pairwise_cons h.apart hu
      rw [divide_cons_of_not_suffix (h.letters v List.mem_cons_self) hfront hnot]
      exact ih h.tail hu

lemma divide_of_noLetters (h : WellOrdered us) (hfront : NoLetters front) :
    divide plain front us = (front, plain) := by
  induction us with
  | nil => rfl
  | cons u us ih =>
    have hnot : ¬ u.symbol.toList <:+ [] :=
      mt List.suffix_nil.1 (h.ne_nil u List.mem_cons_self)
    have hpass : divide plain (front ++ []) (u :: us) = divide plain (front ++ []) us :=
      divide_cons_of_not_suffix (h.letters u List.mem_cons_self) hfront hnot
    rw [List.append_nil] at hpass
    rw [hpass]
    exact ih h.tail

/-- All units of a scale, the one without a symbol among them. -/
def all (scale : Scale) : List QuantityUnit :=
  ⟨"", scale.plain⟩ :: scale.units

/-- What is divided is the number part with a unit behind it. -/
lemma exists_of_divide (h : divide plain text us = (cs, factor)) :
    ∃ u ∈ (⟨"", plain⟩ : QuantityUnit) :: us, u.factor = factor ∧
      text = cs ++ u.symbol.toList := by
  induction us with
  | nil =>
    cases h
    exact ⟨_, List.mem_cons_self, rfl, (List.append_nil _).symm⟩
  | cons u us ih =>
    rw [divide] at h
    split at h
    · next number hsuffix =>
      cases h
      exact ⟨u, by simp, rfl, (List.isSuffixOf?_eq_some_iff_append_eq.1 hsuffix).symm⟩
    · obtain ⟨v, hv, heq⟩ := ih h
      exact ⟨v, List.mem_cons.2 ((List.mem_cons.1 hv).imp_right (List.mem_cons_of_mem u)), heq⟩

/-- The unit that a text is written in is found. -/
lemma divide_of_mem_all (h : WellOrdered scale.units) (hu : u ∈ scale.all)
    (hfront : NoLetters front) :
    divide scale.plain (front ++ u.symbol.toList) scale.units = (front, u.factor) := by
  rcases List.mem_cons.1 hu with rfl | hu
  · exact (congrArg (divide _ · _) (List.append_nil front)).trans (divide_of_noLetters h hfront)
  · exact divide_of_mem h hu hfront

/-- A numeral in front of a unit is written there, if the text has no white space in front. -/
lemma exists_writes_of_divide (hhead : ∀ c ∈ text.head?, Text.isBlank c = false)
    (hdivide : divide scale.plain text scale.units = (cs, factor))
    (hnumeral : IsNumeral (trimChars cs) n) :
    ∃ u ∈ scale.all, u.factor = factor ∧ Writes text n u.symbol := by
  obtain ⟨u, hu, hfactor, htext⟩ := exists_of_divide hdivide
  obtain ⟨-, ws, ws', hws, hws', hcs⟩ := Text.trimChars_eq_iff.1 (Eq.refl (trimChars cs))
  have hnil : ws = [] := by
    cases ws with
    | nil => rfl
    | cons c ws =>
      rw [hcs] at htext
      have hblank := hhead c (by rw [htext]; rfl)
      rw [hws c List.mem_cons_self] at hblank
      cases hblank
  rw [hnil, List.nil_append] at hcs
  exact ⟨u, hu, hfactor, _, ws', hnumeral, hws', hcs ▸ htext⟩

/-- A number that is written in front of a unit is the numeral there. -/
lemma exists_divide_of_writes (h : WellOrdered scale.units) (hu : u ∈ scale.all)
    (hwrites : Writes text n u.symbol) :
    ∃ number, divide scale.plain text scale.units = (number, u.factor) ∧
      IsNumeral (trimChars number) n := by
  obtain ⟨numeral, ws, hnumeral, hws, rfl⟩ := hwrites
  refine ⟨numeral ++ ws, divide_of_mem_all h hu (hnumeral.noLetters hws), ?_⟩
  have htrim : trimChars (numeral ++ ws) = numeral :=
    Text.trimChars_padded Text.allBlank_nil hnumeral.trimmed hws
  rwa [htrim]

/-- A quantity is the number that its text writes times the factor of the unit, if both the number
and the product fit a word. -/
lemma read?_eq_some_iff (h : WellOrdered scale.units) {amount : Nat} :
    scale.read? s = some amount ↔ ∃ n, ∃ u ∈ scale.all,
      Writes (lowercaseChars (trimChars s.toList)) n u.symbol ∧ n < 2 ^ 64 ∧
      n * u.factor ≤ 2 ^ 64 - 1 ∧ amount = n * u.factor := by
  have hhead := Text.not_isBlank_of_head?_lowercaseChars (Text.trimmed_trimChars s.toList).1
  rw [read?]
  generalize lowercaseChars (trimChars s.toList) = text at hhead ⊢
  rcases hdivide : divide scale.plain text scale.units with ⟨number, factor⟩
  dsimp only
  rw [Option.bind_eq_some_iff]
  constructor
  · rintro ⟨n, hword, hamount⟩
    obtain ⟨hnumeral, hn⟩ := readWord?_eq_some_iff.1 hword
    obtain ⟨hbound, hamount⟩ := Option.ite_none_right_eq_some.1 hamount
    obtain ⟨u, hu, rfl, hwrites⟩ := exists_writes_of_divide hhead hdivide hnumeral
    exact ⟨n, u, hu, hwrites, hn, Nat.le_sub_one_of_lt hbound, (Option.some.inj hamount).symm⟩
  · rintro ⟨n, u, hu, hwrites, hn, hle, rfl⟩
    obtain ⟨number', hdivide', hnumeral⟩ := exists_divide_of_writes h hu hwrites
    rw [hdivide] at hdivide'
    cases hdivide'
    have hbound : n * u.factor < wordBound := Nat.lt_of_le_sub_one (by decide) hle
    exact ⟨n, readWord?_eq_some_iff.2 ⟨hnumeral, hn⟩, if_pos hbound⟩

end Scale

lemma wellOrdered_duration : Scale.WellOrdered Duration.scale.units where
  ne_nil := by decide
  letters := by decide
  apart := by decide

lemma wellOrdered_capacity : Scale.WellOrdered Capacity.scale.units where
  ne_nil := by decide
  letters := by decide
  apart := by decide

/-- **Durations and capacities are read exactly.**  Take any text, without the white space at its
ends and in small letters.  A duration is read from it just when it writes a number of some unit
with no more than `2 ^ 64 - 1` milliseconds, and is this many milliseconds then; a capacity is read
just when it writes a number of some unit with no more than `2 ^ 64 - 1` entries, and is this many
entries then.  No text writes two numbers, nor a number of two units. -/
theorem quantities_exact (s : String) :
    let text := lowercaseChars (trimChars s.toList)
    (∀ d, Duration.read? s = some d ↔ ∃ n,
      ∃ u ∈ ([⟨"", 1000⟩, ⟨"ms", 1⟩, ⟨"s", 1000⟩, ⟨"m", 60000⟩, ⟨"h", 3600000⟩] :
        List QuantityUnit),
      Writes text n u.symbol ∧ n < 2 ^ 64 ∧ n * u.factor ≤ 2 ^ 64 - 1 ∧
      d.nanoseconds = n * u.factor * 1000000) ∧
    (∀ a, Capacity.read? s = some a ↔ ∃ n,
      ∃ u ∈ ([⟨"", 1⟩, ⟨"k", 1000⟩, ⟨"m", 1000000⟩] : List QuantityUnit),
      Writes text n u.symbol ∧ n < 2 ^ 64 ∧ n * u.factor ≤ 2 ^ 64 - 1 ∧ a = n * u.factor) ∧
    ∀ m n, ∀ u ∈ ["", "ms", "s", "m", "h", "k"], ∀ v ∈ ["", "ms", "s", "m", "h", "k"],
      Writes text m u → Writes text n v → m = n ∧ u = v := by
  intro text
  refine ⟨fun d => ?_, fun a => Scale.read?_eq_some_iff wellOrdered_capacity, ?_⟩
  · rw [Duration.read?, Option.map_eq_some_iff]
    constructor
    · rintro ⟨amount, hamount, rfl⟩
      obtain ⟨n, u, hu, hwrites, hn, hle, rfl⟩ :=
        (Scale.read?_eq_some_iff wellOrdered_duration).1 hamount
      exact ⟨n, u, hu, hwrites, hn, hle, rfl⟩
    · rintro ⟨n, u, hu, hwrites, hn, hle, hd⟩
      have hread : Duration.scale.read? s = some (n * u.factor) :=
        (Scale.read?_eq_some_iff wellOrdered_duration).2 ⟨n, u, hu, hwrites, hn, hle, rfl⟩
      exact ⟨n * u.factor, hread, congrArg Duration.mk hd.symm⟩
  · have hletters : ∀ u ∈ ["", "ms", "s", "m", "h", "k"], Letters u.toList := by decide
    exact fun m n u hu v hv => Writes.unique (hletters u hu) (hletters v hv)

/-- The Kelvin sign is a capital `K`. -/
example : Capacity.read? "+02 \u212A" = some 2000 := by
  decide +kernel

end ClientCounters.Decimal
