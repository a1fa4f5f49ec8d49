/-
# Reading what is written

What is written by the grammar is read as it was meant: the tokens of a text in which a value is
written are the tokens of the value (`Value.Rendering.tokens_eq`).  Every token is read up to its
end.  Only a number could go on, with what follows it, and in a value no number follows a number
(`Value.apart`).
-/
import Mathlib.Data.List.Chain
import Mathlib.Data.List.TakeWhile
import Mathlib.Tactic.IntervalCases
import ClientCounters.Proofs.Json.Grammar

namespace ClientCounters.Json

/-! ## Strings -/

lemma spelled?_unit_cons {n : Nat} (hhigh : isHighUnit n = false) (hlow : isLowUnit n = false)
    (items : List StringItem) :
    spelled? (.unit n :: items) = (spelled? items).map (Char.ofNat n :: ·) := by
  rcases items with _ | ⟨c | m, items⟩ <;> simp [spelled?, hhigh, hlow]

/-- No unit of its own is half a character. -/
lemma isHighUnit_toNat (c : Char) : isHighUnit c.toNat = false ∧ isLowUnit c.toNat = false := by
  have hvalid := c.valid
  have htoNat : c.toNat = c.val.toNat := rfl
  simp only [isHighUnit, isLowUnit, htoNat, Bool.and_eq_false_iff, decide_eq_false_iff_not]
  rcases hvalid with h | h <;> omega

lemma spelled?_of_spells {items : List StringItem} {text : List Char} (h : Spells items text) :
    spelled? items = some text := by
  induction h with
  | nil => rfl
  | char c h ih => rw [spelled?, ih]; rfl
  | unit c hc h ih =>
    obtain ⟨hhigh, hlow⟩ := isHighUnit_toNat c
    rw [spelled?_unit_cons hhigh hlow, ih, Option.map_some, Char.ofNat_toNat]
  | units c hc h ih =>
    have hbound : c.toNat < 0x110000 := by
      have hvalid := c.valid
      have htoNat : c.toNat = c.val.toNat := rfl
      rcases hvalid with h | h <;> omega
    have hhigh : isHighUnit (0xD800 + (c.toNat - 0x10000) / 0x400) = true := by
      simp only [isHighUnit, Bool.and_eq_true, decide_eq_true_iff]
      omega
    have hlow : isLowUnit (0xDC00 + (c.toNat - 0x10000) % 0x400) = true := by
      simp only [isLowUnit, Bool.and_eq_true, decide_eq_true_iff]
      omega
    have hvalue : 0x10000 + (0xD800 + (c.toNat - 0x10000) / 0x400 - 0xD800) * 0x400 +
        (0xDC00 + (c.toNat - 0x10000) % 0x400 - 0xDC00) = c.toNat := by
      omega
    rw [spelled?, hhigh, hlow, hvalue, Char.ofNat_toNat, ih]
    rfl

lemma toNat_ofNat {n : Nat} (h : n.isValidChar) : (Char.ofNat n).toNat = n := by
  rw [Char.ofNat, dif_pos h]
  exact UInt32.toNat_ofNatLT

lemma spells_unit_cons {n : Nat} {items : List StringItem} {text : List Char}
    (hhalf : ¬(isHighUnit n || isLowUnit n) = true) (hn : n < 0x10000) (h : Spells items text) :
    Spells (.unit n :: items) (Char.ofNat n :: text) := by
  simp only [isHighUnit, isLowUnit, Bool.or_eq_true, Bool.and_eq_true, decide_eq_true_iff] at hhalf
  have hvalid : n.isValidChar := by
    rw [Nat.isValidChar]
    omega
  have htoNat := toNat_ofNat hvalid
  have hspells := Spells.unit (Char.ofNat n) (by omega) h
  rwa [htoNat] at hspells

lemma spells_of_spelled? {items : List StringItem} {text : List Char}
    (hunits : ∀ n, .unit n ∈ items → n < 0x10000) (h : spelled? items = some text) :
    Spells items text := by
  fun_induction spelled? items generalizing text with
  | case1 =>
    obtain rfl := Option.some.inj h
    exact .nil
  | case2 c rest ih =>
    obtain ⟨text, hrest, rfl⟩ := Option.map_eq_some_iff.1 h
    exact .char c (ih (fun n hn => hunits n (List.mem_cons_of_mem _ hn)) hrest)
  | case3 n m rest hpair ih =>
    -- the two halves are put together to the character that they are the halves of
    obtain ⟨text, hrest, rfl⟩ := Option.map_eq_some_iff.1 h
    simp only [isHighUnit, isLowUnit, Bool.and_eq_true, decide_eq_true_iff] at hpair
    have hvalid : (0x10000 + (n - 0xD800) * 0x400 + (m - 0xDC00)).isValidChar := by
      right
      omega
    have htoNat := toNat_ofNat hvalid
    have hspells := Spells.units (Char.ofNat (0x10000 + (n - 0xD800) * 0x400 + (m - 0xDC00)))
      (by omega) (ih (fun n hn => hunits n (by simp [hn])) hrest)
    rw [htoNat] at hspells
    have hhigh :
        0xD800 + (0x10000 + (n - 0xD800) * 0x400 + (m - 0xDC00) - 0x10000) / 0x400 = n := by
      omega
    have hlow :
        0xDC00 + (0x10000 + (n - 0xD800) * 0x400 + (m - 0xDC00) - 0x10000) % 0x400 = m := by
      omega
    rwa [hhigh, hlow] at hspells
  | case4 | case6 => cases h
  | case5 n m rest hpair hhalf ih =>
    obtain ⟨text, hrest, rfl⟩ := Option.map_eq_some_iff.1 h
    have hspells := ih (fun k hk => hunits k (List.mem_cons_of_mem _ hk)) hrest
    exact spells_unit_cons hhalf (hunits n List.mem_cons_self) hspells
  | case7 n rest hnext hhalf ih =>
    obtain ⟨text, hrest, rfl⟩ := Option.map_eq_some_iff.1 h
    have hspells := ih (fun k hk => hunits k (List.mem_cons_of_mem _ hk)) hrest
    exact spells_unit_cons hhalf (hunits n List.mem_cons_self) hspells

lemma hexValue?_of_hexDigit {n : Nat} {c : Char} (h : HexDigit n c) :
    Text.hexValue? c = some n := by
  obtain ⟨hn, hc⟩ := h
  interval_cases n <;> rcases hc with rfl | rfl <;> decide

lemma hexNumber?_of_hexDigits {n m k l : Nat} {a b c d : Char} (hn : HexDigit n a)
    (hm : HexDigit m b) (hk : HexDigit k c) (hl : HexDigit l d) :
    Text.hexNumber? [a, b, c, d] = some (((n * 16 + m) * 16 + k) * 16 + l) := by
  simp [Text.hexNumber?, hexValue?_of_hexDigit hn, hexValue?_of_hexDigit hm,
    hexValue?_of_hexDigit hk, hexValue?_of_hexDigit hl, Nat.mul_comm]

lemma unit_lt {n : Nat} {cs : List Char} (h : ItemText (.unit n) cs) : n < 0x10000 := by
  cases h with
  | unit hn hm hk hl =>
    have := hn.1
    have := hm.1
    have := hk.1
    have := hl.1
    omega

/-- The items of a string are read up to the quote behind them. -/
lemma stringItems?_append {items : List StringItem} {cs : List Char} (h : ItemsText items cs)
    (rest : List Char) : stringItems? (cs ++ '"' :: rest) = some (items, rest) := by
  induction h with
  | nil => simp [stringItems?]
  | @cons i is cs ds hi his ih =>
    rw [List.append_assoc]
    cases hi with
    | plain h =>
      simp only [isPlain, Bool.and_eq_true, bne_iff_ne, decide_eq_true_iff] at h
      simp [stringItems?, ih, h]
    | letter h =>
      simp only [escapes, List.mem_cons, Prod.mk.injEq, List.not_mem_nil, or_false] at h
      rcases h with ⟨rfl, rfl⟩ | ⟨rfl, rfl⟩ | ⟨rfl, rfl⟩ | ⟨rfl, rfl⟩ | ⟨rfl, rfl⟩ | ⟨rfl, rfl⟩ |
        ⟨rfl, rfl⟩ | ⟨rfl, rfl⟩ <;> simp [stringItems?, ih, escaped?]
    | unit hn hm hk hl => simp [stringItems?, ih, hexNumber?_of_hexDigits hn hm hk hl]

lemma unit_lt_of_mem {items : List StringItem} {cs : List Char} (h : ItemsText items cs) {n : Nat}
    (hn : .unit n ∈ items) : n < 0x10000 := by
  induction h with
  | nil => cases hn
  | cons hi his ih =>
    rcases List.mem_cons.1 hn with rfl | hn
    · exact unit_lt hi
    · exact ih hn

/-- What is written between the quotes of a string decides its items and its text. -/
lemma StringText.exists_items {text : Option String} {cs : List Char} (h : StringText text cs) :
    ∃ items, ItemsText items cs ∧ (spelled? items).map String.ofList = text := by
  cases h with
  | @spelled items _ s his h =>
    refine ⟨items, his, ?_⟩
    rw [spelled?_of_spells h, Option.map_some, String.ofList_toList]
  | @unspelled items _ his h =>
    refine ⟨items, his, ?_⟩
    rw [Option.map_eq_none_iff, Option.eq_none_iff_forall_ne_some]
    intro text hspelled
    exact h text (spells_of_spelled? (fun n hn => unit_lt_of_mem his hn) hspelled)

/-! ## Numbers -/

/-- A text that does not go on with a digit. -/
def NoDigit (cs : List Char) : Prop :=
  ∀ c ∈ cs.head?, c.isDigit = false

/-- A text that does not go on with what might belong to a number. -/
def NumberEnd (cs : List Char) : Prop :=
  ∀ c ∈ cs.head?, c.isDigit = false ∧ c ≠ '.' ∧ c ≠ 'e' ∧ c ≠ 'E'

lemma NumberEnd.noDigit {cs : List Char} (h : NumberEnd cs) : NoDigit cs :=
  fun c hc => (h c hc).1

/-- A row of digits is read up to its end. -/
lemma digits?_append {ds rest : List Char} (hds : DigitText ds) (hrest : NoDigit rest) :
    digits? (ds ++ rest) = some (ds, rest) := by
  obtain ⟨hne, hall⟩ := hds
  have htake : (ds ++ rest).takeWhile Char.isDigit = ds := by
    rw [List.takeWhile_append_of_pos hall]
    cases rest with
    | nil => simp
    | cons c rest => simp [hrest c rfl]
  have hdrop : (ds ++ rest).dropWhile Char.isDigit = rest := by
    rw [List.dropWhile_append_of_pos hall]
    cases rest with
    | nil => simp
    | cons c rest => simp [hrest c rfl]
  obtain ⟨d, ds, rfl⟩ := List.exists_cons_of_ne_nil hne
  rw [digits?, htake, hdrop]

lemma exponent?_append {exponent : Option Int} {cs rest : List Char}
    (h : ExponentText exponent cs) (hrest : NumberEnd rest) :
    exponent? (cs ++ rest) = some (exponent, rest) := by
  cases h with
  | absent =>
    cases rest with
    | nil => rfl
    | cons c rest =>
      obtain ⟨-, -, he, hE⟩ := hrest c rfl
      simp [exponent?, he, hE]
  | @present e negative sign ds he hsign hds =>
    have hdigits := digits?_append hds hrest.noDigit
    cases hsign with
    | minus => simp [exponent?, he, hdigits]
    | plus => simp [exponent?, he, hdigits]
    | absent =>
      obtain ⟨d, ds, rfl⟩ := List.exists_cons_of_ne_nil hds.ne_nil
      have hd := hds.isDigit d List.mem_cons_self
      have hminus : d ≠ '-' := by rintro rfl; cases hd
      have hplus : d ≠ '+' := by rintro rfl; cases hd
      simp at hdigits
      simp [exponent?, he, hdigits, hminus, hplus]

/-- Behind its digits a number goes on with its fraction or its exponent, or ends. -/
lemma exponent_head {exponent : Option Int} {cs rest : List Char}
    (h : ExponentText exponent cs) (hrest : NumberEnd rest) :
    ∀ c ∈ (cs ++ rest).head?, c.isDigit = false ∧ c ≠ '.' := by
  cases h with
  | absent => exact fun c hc => ⟨(hrest c hc).1, (hrest c hc).2.1⟩
  | present he hsign hds =>
    intro c hc
    obtain rfl := Option.some.inj hc
    rcases he with rfl | rfl <;> decide

lemma fraction?_append {fraction cs rest : List Char} (h : FractionText fraction cs)
    (hrest : ∀ c ∈ rest.head?, c.isDigit = false ∧ c ≠ '.') :
    fraction? (cs ++ rest) = some (fraction, rest) := by
  cases h with
  | absent =>
    cases rest with
    | nil => rfl
    | cons c rest => simp [fraction?, (hrest c rfl).2]
  | present hds => exact digits?_append hds fun c hc => (hrest c hc).1

lemma fraction_head {fraction cs rest : List Char} (h : FractionText fraction cs)
    (hrest : NoDigit rest) : NoDigit (cs ++ rest) := by
  cases h with
  | absent => exact hrest
  | present hds =>
    intro c hc
    obtain rfl := Option.some.inj hc
    decide

/-- A number is read up to its end. -/
lemma number?_append {n : NumberText} {cs rest : List Char} (h : n.Written cs)
    (hrest : NumberEnd rest) : number? (cs ++ rest) = some (n, rest) := by
  cases h with
  | @mk fraction exponent hwhole hzero hfraction hexponent =>
    have hexp := exponent?_append hexponent hrest
    have hhead := exponent_head hexponent hrest
    have hfrac := fraction?_append hfraction hhead
    have hdigits := digits?_append hwhole (fraction_head hfraction fun c hc => (hhead c hc).1)
    have hguard : n.whole.length = 1 ∨ n.whole.head? ≠ some '0' := by
      by_cases hz : n.whole.head? = some '0'
      · exact .inl (by rw [hzero hz]; rfl)
      · exact .inr hz
    obtain ⟨negative, whole, _, _⟩ := n
    simp only [List.append_assoc] at hdigits ⊢
    cases negative with
    | true => simp [number?, hdigits, guard, hguard, hfrac, hexp]
    | false =>
      obtain ⟨d, whole, rfl⟩ := List.exists_cons_of_ne_nil hwhole.ne_nil
      have hd := hwhole.isDigit d List.mem_cons_self
      have hminus : d ≠ '-' := by rintro rfl; cases hd
      have hguard : whole = [] ∨ d ≠ '0' := by simpa using hguard
      simp only [List.cons_append] at hdigits
      simp [number?, hdigits, guard, hguard, hfrac, hexp, hminus]

/-- The decimal digits of a number are read as the number. -/
lemma NumberText.word?_toDigits {n : Nat} (hn : n < 2 ^ 64) :
    (⟨false, Nat.toDigits 10 n, [], none⟩ : NumberText).word? = some n := by
  have hvalue : Decimal.valueOfDigits (Nat.toDigits 10 n) = n := Nat.ofDigitChars_ten_toDigits
  have hbound : n < UInt64.size := hn
  simp [word?, hvalue, Decimal.wordBound, hbound]

/-- Only zero is written with a zero in front. -/
lemma eq_zero_of_head?_toDigits {n : Nat} (h : (Nat.toDigits 10 n).head? = some '0') : n = 0 := by
  induction n using Nat.strong_induction_on with
  | _ n ih =>
    rw [Nat.toDigits_eq_if (by decide)] at h
    split at h
    · next hlt =>
      have hall : ∀ n : Fin 10, (n : Nat).digitChar = '0' → (n : Nat) = 0 := by decide
      exact hall ⟨n, hlt⟩ (Option.some.inj h)
    · next hge =>
      rw [List.head?_append_of_ne_nil _ Nat.toDigits_ne_nil] at h
      have hzero : n / 10 = 0 := ih (n / 10) (by omega) h
      omega

/-- A number is written by its decimal digits. -/
lemma NumberText.written_toDigits (n : Nat) :
    (⟨false, Nat.toDigits 10 n, [], none⟩ : NumberText).Written (Nat.toDigits 10 n) := by
  have hdigits : DigitText (Nat.toDigits 10 n) :=
    ⟨Nat.toDigits_ne_nil, fun c hc => Nat.isDigit_of_mem_toDigits (by decide) (by decide) hc⟩
  have hzero : (Nat.toDigits 10 n).head? = some '0' → Nat.toDigits 10 n = ['0'] := by
    intro h
    rw [eq_zero_of_head?_toDigits h]
    rfl
  have hwritten := @NumberText.Written.mk ⟨false, Nat.toDigits 10 n, [], none⟩ _ _ hdigits hzero
    .absent .absent
  simpa using hwritten

/-! ## Tokens -/

lemma token?_of_numberStart {c : Char} (hc : c = '-' ∨ c.isDigit) (cs : List Char) :
    token? c cs = (number? (c :: cs)).map fun (n, rest) => (.number n, rest) := by
  rcases hc with rfl | hc
  · rfl
  · unfold token?
    split <;> first | rfl | cases hc

lemma NumberText.Written.exists_cons {n : NumberText} {cs : List Char} (h : n.Written cs) :
    ∃ c ds, cs = c :: ds ∧ (c = '-' ∨ c.isDigit) := by
  cases h with
  | mk hwhole hzero hfraction hexponent =>
    obtain ⟨negative, whole, _, _⟩ := n
    cases negative with
    | true => exact ⟨'-', _, rfl, .inl rfl⟩
    | false =>
      obtain ⟨d, whole, rfl⟩ := List.exists_cons_of_ne_nil hwhole.ne_nil
      exact ⟨d, _, rfl, .inr (hwhole.isDigit d List.mem_cons_self)⟩

lemma isSpace_of_isDigit {c : Char} (hc : c.isDigit) : isSpace c = false := by
  rw [Bool.eq_false_iff]
  intro h
  simp only [isSpace, Bool.or_eq_true, beq_iff_eq] at h
  rcases h with ((rfl | rfl) | rfl) | rfl <;> cases hc

/-- Whether a token is a number. -/
def Token.isNumber : Token → Bool
  | number _ => true
  | _ => false

lemma TokenText.ne_nil {t : Token} {cs : List Char} (h : TokenText t cs) : cs ≠ [] := by
  cases h with
  | number h =>
    obtain ⟨c, ds, rfl, -⟩ := h.exists_cons
    simp
  | _ => simp

/-- A token is read up to its end, if a number is not followed by what might belong to it. -/
lemma token?_append {t : Token} {cs rest : List Char} (h : TokenText t cs)
    (hrest : t.isNumber → NumberEnd rest) :
    ∃ c ds, cs = c :: ds ∧ isSpace c = false ∧ token? c (ds ++ rest) = some (t, rest) := by
  cases h with
  | number h =>
    have hread := number?_append h (hrest rfl)
    obtain ⟨c, ds, rfl, hc⟩ := h.exists_cons
    refine ⟨c, ds, rfl, ?_, ?_⟩
    · rcases hc with rfl | hc
      · rfl
      · exact isSpace_of_isDigit hc
    · rw [token?_of_numberStart hc, ← List.cons_append, hread]
      rfl
  | string h =>
    obtain ⟨items, hitems, rfl⟩ := h.exists_items
    refine ⟨'"', _, rfl, rfl, ?_⟩
    have hread := stringItems?_append hitems rest
    simp [token?, hread]
  | _ => exact ⟨_, _, rfl, rfl, rfl⟩

/-! ## Texts -/

/-- No number follows a number. -/
def Apart (ts : List Token) : Prop :=
  ts.IsChain fun t u => t.isNumber → u.isNumber = false

lemma Blank.isSpace {ws : List Char} (h : Blank ws) : ∀ c ∈ ws, isSpace c := by
  intro c hc
  have hmem := h c hc
  simp only [List.mem_cons, List.not_mem_nil, or_false] at hmem
  rcases hmem with rfl | rfl | rfl | rfl <;> rfl

lemma Blank.numberEnd {ws : List Char} (h : Blank ws) : NumberEnd ws := by
  intro c hc
  have hmem := h c (List.mem_of_mem_head? hc)
  simp only [List.mem_cons, List.not_mem_nil, or_false] at hmem
  rcases hmem with rfl | rfl | rfl | rfl <;> decide

/-- Tokens other than numbers do not begin like what belongs to a number. -/
lemma Rendered.numberEnd {ts : List Token} {cs : List Char} (h : Rendered ts cs)
    (hts : ∀ t ∈ ts.head?, t.isNumber = false) : NumberEnd cs := by
  cases h with
  | nil hws => exact hws.numberEnd
  | @cons t ts ws cs rest hws ht hrest =>
    cases ws with
    | cons w ws =>
      intro c hc
      exact hws.numberEnd c hc
    | nil =>
      have hnumber := hts t rfl
      intro c hc
      cases ht with
      | number _ => cases hnumber
      | _ => obtain rfl := Option.some.inj hc; decide

lemma Rendered.length_le {ts : List Token} {cs : List Char} (h : Rendered ts cs) :
    ts.length ≤ cs.length := by
  induction h with
  | nil => simp
  | cons hws ht hts ih =>
    have hpos : 0 < _ := List.length_pos_iff.2 ht.ne_nil
    simp only [List.length_cons, List.length_append]
    omega

lemma tokensWithin_of_rendered {ts : List Token} {cs : List Char} (h : Rendered ts cs)
    (hapart : Apart ts) {fuel : Nat} (hfuel : ts.length ≤ fuel) : tokensWithin fuel cs = ts := by
  induction h generalizing fuel with
  | @nil ws hws =>
    cases fuel with
    | zero => rfl
    | succ fuel => simp [tokensWithin, List.dropWhile_eq_nil_iff.2 hws.isSpace]
  | @cons t ts ws cs rest hws ht hts ih =>
    cases fuel with
    | zero => cases hfuel
    | succ fuel =>
      obtain ⟨hnext, hapart⟩ := List.isChain_cons.1 hapart
      have hend : t.isNumber → NumberEnd rest := fun ht => hts.numberEnd fun u hu => hnext u hu ht
      obtain ⟨c, ds, rfl, hspace, hread⟩ := token?_append ht hend
      have hdrop : (ws ++ c :: ds ++ rest).dropWhile isSpace = c :: (ds ++ rest) := by
        rw [List.append_assoc, List.dropWhile_append_of_pos hws.isSpace]
        simp [hspace]
      rw [tokensWithin, hdrop]
      simp [hread, ih hapart (Nat.le_of_succ_le_succ hfuel)]

lemma head_behindItem (vs : List Value) (ts : List Token) :
    ∀ t ∈ (tokensBehindItem vs ++ ts).head?, t.isNumber = false := by
  cases vs <;> simp [tokensBehindItem, Token.isNumber]

lemma head_behindMember (ms : List (Option String × Value)) (ts : List Token) :
    ∀ t ∈ (tokensBehindMember ms ++ ts).head?, t.isNumber = false := by
  rcases ms with _ | ⟨⟨name, v⟩, ms⟩ <;> simp [tokensBehindMember, Token.isNumber]

lemma apart_cons {t : Token} {ts : List Token} (ht : t.isNumber = false) (hts : Apart ts) :
    Apart (t :: ts) :=
  List.isChain_cons.2 ⟨fun _ _ h => absurd (ht.symm.trans h) (by decide), hts⟩

mutual

/-- No number follows a number in a value, since what stands between the values inside does not. -/
lemma Value.apart (v : Value) {ts : List Token} (hts : Apart ts)
    (hnext : ∀ t ∈ ts.head?, t.isNumber = false) : Apart (v.tokens ++ ts) := by
  match v with
  | .null | .truth _ | .string _ => exact apart_cons rfl hts
  | .number n => exact List.isChain_cons.2 ⟨fun t ht _ => hnext t ht, hts⟩
  | .list [] | .object [] => exact apart_cons rfl (apart_cons rfl hts)
  | .list (v :: vs) =>
    rw [tokens_list_append]
    exact apart_cons rfl (v.apart (apart_behindItem vs hts) (head_behindItem vs ts))
  | .object ((name, v) :: ms) =>
    rw [tokens_object_append]
    exact apart_cons rfl (apart_cons rfl (apart_cons rfl
      (v.apart (apart_behindMember ms hts) (head_behindMember ms ts))))

lemma apart_behindItem (vs : List Value) {ts : List Token} (hts : Apart ts) :
    Apart (tokensBehindItem vs ++ ts) := by
  match vs with
  | [] => exact apart_cons rfl hts
  | v :: vs =>
    rw [tokensBehindItem_append]
    exact apart_cons rfl (v.apart (apart_behindItem vs hts) (head_behindItem vs ts))

lemma apart_behindMember (ms : List (Option String × Value)) {ts : List Token}
    (hts : Apart ts) : Apart (tokensBehindMember ms ++ ts) := by
  match ms with
  | [] => exact apart_cons rfl hts
  | (name, v) :: ms =>
    rw [tokensBehindMember_append]
    exact apart_cons rfl (apart_cons rfl (apart_cons rfl
      (v.apart (apart_behindMember ms hts) (head_behindMember ms ts))))

end

/-- A text in which a value is written has the tokens of the value. -/
theorem Value.Rendering.tokens_eq {v : Value} {text : String} (h : v.Rendering text) :
    Json.tokens text.toList = v.tokens := by
  have hapart : Apart (v.tokens ++ []) := v.apart List.IsChain.nil nofun
  rw [List.append_nil] at hapart
  exact tokensWithin_of_rendered h hapart h.length_le

end ClientCounters.Json
