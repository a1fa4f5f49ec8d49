/-
# The grammar of JSON

A value is written as a row of tokens with white space in front of them, between them and behind
them (`Rendered`).  What a token may look like is said here apart from how it is read: a number by
its parts, and a string by items that each stand for a character of its text or for one of the two
units of UTF-16 that make up a character (`Spells`).  Strings whose units do not fit together are
written as well; they are values without a text.
-/
import Mathlib.Data.List.Basic
import ClientCounters.Json.Token

namespace ClientCounters.Json

/-! ## Values -/

/-- A value.  A string has no text if its units spell none. -/
inductive Value where
  | null
  | truth (b : Bool)
  | number (n : NumberText)
  | string (text : Option String)
  | list (items : List Value)
  | object (members : List (Option String × Value))

mutual

/-- The tokens of a value. -/
def Value.tokens : Value → List Token
  | .null => [.null]
  | .truth b => [.truth b]
  | .number n => [.number n]
  | .string text => [.string text]
  | .list [] => [.openList, .closeList]
  | .list (v :: vs) => .openList :: (v.tokens ++ tokensBehindItem vs)
  | .object [] => [.openObject, .closeObject]
  | .object ((name, v) :: ms) =>
    .openObject :: .string name :: .colon :: (v.tokens ++ tokensBehindMember ms)

/-- The tokens of a list behind its first item. -/
def tokensBehindItem : List Value → List Token
  | [] => [.closeList]
  | v :: vs => .comma :: (v.tokens ++ tokensBehindItem vs)

/-- The tokens of an object behind its first member. -/
def tokensBehindMember : List (Option String × Value) → List Token
  | [] => [.closeObject]
  | (name, v) :: ms => .comma :: .string name :: .colon :: (v.tokens ++ tokensBehindMember ms)

end

section

variable (name : Option String) (v : Value) (vs : List Value) (ms : List (Option String × Value))
  (ts : List Token)

lemma tokens_list_append : (Value.list (v :: vs)).tokens ++ ts =
    .openList :: (v.tokens ++ (tokensBehindItem vs ++ ts)) := by
  simp [Value.tokens]

lemma tokens_object_append : (Value.object ((name, v) :: ms)).tokens ++ ts =
    .openObject :: .string name :: .colon :: (v.tokens ++ (tokensBehindMember ms ++ ts)) := by
  simp [Value.tokens]

lemma tokensBehindItem_append : tokensBehindItem (v :: vs) ++ ts =
    .comma :: (v.tokens ++ (tokensBehindItem vs ++ ts)) := by
  simp [tokensBehindItem]

lemma tokensBehindMember_append : tokensBehindMember ((name, v) :: ms) ++ ts =
    .comma :: .string name :: .colon :: (v.tokens ++ (tokensBehindMember ms ++ ts)) := by
  simp [tokensBehindMember]

end

/-! ## Numbers -/

/-- A row of decimal digits. -/
structure DigitText (cs : List Char) : Prop where
  ne_nil : cs ≠ []
  isDigit : ∀ c ∈ cs, c.isDigit

/-- How digits behind the point are written. -/
inductive FractionText : List Char → List Char → Prop where
  | absent : FractionText [] []
  | present {ds : List Char} (hds : DigitText ds) : FractionText ds ('.' :: ds)

/-- How the sign of an exponent is written; the plus sign may be left out. -/
inductive SignText : Bool → List Char → Prop where
  | minus : SignText true ['-']
  | plus : SignText false ['+']
  | absent : SignText false []

/-- How an exponent is written. -/
inductive ExponentText : Option Int → List Char → Prop where
  | absent : ExponentText none []
  | present {e : Char} {negative : Bool} {sign ds : List Char} (he : e = 'e' ∨ e = 'E')
      (hsign : SignText negative sign) (hds : DigitText ds) :
      ExponentText
        (some (if negative then -(Decimal.valueOfDigits ds : Int) else Decimal.valueOfDigits ds))
        (e :: sign ++ ds)

/-- How a number is written.  A zero in front stands alone. -/
inductive NumberText.Written (n : NumberText) : List Char → Prop where
  | mk {fraction exponent : List Char} (hwhole : DigitText n.whole)
      (hzero : n.whole.head? = some '0' → n.whole = ['0'])
      (hfraction : FractionText n.fraction fraction)
      (hexponent : ExponentText n.exponent exponent) :
      Written n ((if n.negative then ['-'] else []) ++ n.whole ++ fraction ++ exponent)

/-! ## Strings -/

/-- A hexadecimal digit, small or capital. -/
def HexDigit (n : Nat) (c : Char) : Prop :=
  n < 16 ∧ (c = n.digitChar ∨ c = n.digitChar.toUpper)

/-- The letters of the escapes and the characters they stand for. -/
def escapes : List (Char × Char) :=
  [('"', '"'), ('\\', '\\'), ('/', '/'), ('b', '\x08'), ('f', '\x0c'), ('n', '\n'), ('r', '\r'),
    ('t', '\t')]

/-- Whether a character may stand for itself in a string: it is no quote, begins no escape and is no
control character. -/
def isPlain (c : Char) : Bool :=
  c != '"' && c != '\\' && 0x20 ≤ c.toNat

/-- How an item of a string is written. -/
inductive ItemText : StringItem → List Char → Prop where
  | plain {c : Char} (h : isPlain c) : ItemText (.char c) [c]
  | letter {e c : Char} (h : (e, c) ∈ escapes) : ItemText (.char c) ['\\', e]
  | unit {n m k l : Nat} {a b c d : Char} (hn : HexDigit n a) (hm : HexDigit m b)
      (hk : HexDigit k c) (hl : HexDigit l d) :
      ItemText (.unit (((n * 16 + m) * 16 + k) * 16 + l)) ['\\', 'u', a, b, c, d]

/-- How some items of a string are written. -/
inductive ItemsText : List StringItem → List Char → Prop where
  | nil : ItemsText [] []
  | cons {i : StringItem} {is : List StringItem} {cs ds : List Char} (hi : ItemText i cs)
      (his : ItemsText is ds) : ItemsText (i :: is) (cs ++ ds)

/-- What the items of a string spell.  A character has one unit of its own, or a high one and a low
one. -/
inductive Spells : List StringItem → List Char → Prop where
  | nil : Spells [] []
  | char {is : List StringItem} {cs : List Char} (c : Char) (h : Spells is cs) :
      Spells (.char c :: is) (c :: cs)
  | unit {is : List StringItem} {cs : List Char} (c : Char) (hc : c.toNat < 0x10000)
      (h : Spells is cs) : Spells (.unit c.toNat :: is) (c :: cs)
  | units {is : List StringItem} {cs : List Char} (c : Char) (hc : 0x10000 ≤ c.toNat)
      (h : Spells is cs) :
      Spells (.unit (0xD800 + (c.toNat - 0x10000) / 0x400) ::
        .unit (0xDC00 + (c.toNat - 0x10000) % 0x400) :: is) (c :: cs)

/-- How a string is written between its quotes. -/
inductive StringText : Option String → List Char → Prop where
  | spelled {is : List StringItem} {cs : List Char} {s : String} (his : ItemsText is cs)
      (h : Spells is s.toList) : StringText (some s) cs
  | unspelled {is : List StringItem} {cs : List Char} (his : ItemsText is cs)
      (h : ∀ text, ¬ Spells is text) : StringText none cs

/-! ## Texts -/

/-- How a token is written. -/
inductive TokenText : Token → List Char → Prop where
  | openObject : TokenText .openObject ['\x7b']
  | closeObject : TokenText .closeObject ['\x7d']
  | openList : TokenText .openList ['[']
  | closeList : TokenText .closeList [']']
  | colon : TokenText .colon [':']
  | comma : TokenText .comma [',']
  | null : TokenText .null ['n', 'u', 'l', 'l']
  | true : TokenText (.truth true) ['t', 'r', 'u', 'e']
  | false : TokenText (.truth false) ['f', 'a', 'l', 's', 'e']
  | number {n : NumberText} {cs : List Char} (h : n.Written cs) : TokenText (.number n) cs
  | string {text : Option String} {cs : List Char} (h : StringText text cs) :
      TokenText (.string text) ('"' :: cs ++ ['"'])

/-- White space. -/
def Blank (cs : List Char) : Prop :=
  ∀ c ∈ cs, c ∈ [' ', '\n', '\t', '\r']

/-- A row of tokens is written one after the other, with white space anywhere outside of them. -/
inductive Rendered : List Token → List Char → Prop where
  | nil {ws : List Char} (hws : Blank ws) : Rendered [] ws
  | cons {t : Token} {ts : List Token} {ws cs rest : List Char} (hws : Blank ws)
      (ht : TokenText t cs) (hts : Rendered ts rest) : Rendered (t :: ts) (ws ++ cs ++ rest)

/-- A text in which a value is written. -/
def Value.Rendering (v : Value) (text : String) : Prop :=
  Rendered v.tokens text.toList

/-! ## Plain writing -/

/-- A text without quotes, escapes and control characters stands for itself. -/
lemma stringText_plain {s : String} (h : s.toList.all isPlain) :
    StringText (some s) s.toList := by
  suffices ∃ is, ItemsText is s.toList ∧ Spells is s.toList by
    obtain ⟨is, hitems, hspells⟩ := this
    exact .spelled hitems hspells
  generalize s.toList = cs at h
  induction cs with
  | nil => exact ⟨[], .nil, .nil⟩
  | cons c cs ih =>
    rw [List.all_cons, Bool.and_eq_true] at h
    obtain ⟨is, hitems, hspells⟩ := ih h.2
    exact ⟨.char c :: is, .cons (.plain h.1) hitems, .char c hspells⟩

/-- A token may be written without white space in front of it. -/
lemma Rendered.next {t : Token} {ts : List Token} {cs rest : List Char} (ht : TokenText t cs)
    (hts : Rendered ts rest) : Rendered (t :: ts) (cs ++ rest) :=
  @Rendered.cons t ts [] cs rest nofun ht hts

/-- White space may be put in front. -/
lemma Rendered.behindBlank {ts : List Token} {ws cs : List Char} (hws : Blank ws)
    (h : Rendered ts cs) : Rendered ts (ws ++ cs) := by
  have happend {ws' : List Char} (hws' : Blank ws') : Blank (ws ++ ws') := fun c hc =>
    (List.mem_append.1 hc).elim (hws c) (hws' c)
  cases h with
  | nil hws' => exact .nil (happend hws')
  | cons hws' ht hts =>
    rw [← List.append_assoc, ← List.append_assoc]
    exact .cons (happend hws') ht hts

end ClientCounters.Json
