/-
# The shortest decimal of a binary number

A finite double is `m * 2 ^ q`.  The reals that round to it form an interval; among the decimals
inside it the library prints one with the fewest digits, and of those the nearest to the number;
of two equally near ones the greater.
All of it is exact arithmetic on natural numbers: the number and the ends of its interval are
fractions over one denominator, and a grid of decimals is met at one of the number's two
neighbours if it is met at all.
-/
namespace ClientCounters.Decimal

/-- A positive binary number with the interval of reals that round to it, as numerators over a
common denominator. -/
structure Rounded where
  /-- The lower end. -/
  low : Nat
  /-- The number itself. -/
  value : Nat
  /-- The upper end. -/
  high : Nat
  /-- The denominator of the three. -/
  denominator : Nat
  /-- Whether the ends round to the number too. -/
  closed : Bool
deriving DecidableEq, Repr

namespace Rounded

/-- The binary number `m * 2 ^ q`.  The gap below it is half as wide when `m` is the least
mantissa of its exponent, which `narrow` says. -/
def ofBinary (m : Nat) (q : Int) (narrow : Bool) : Rounded where
  low := (4 * m - if narrow then 1 else 2) * Nat.pow 2 q.toNat
  value := 4 * m * Nat.pow 2 q.toNat
  high := (4 * m + 2) * Nat.pow 2 q.toNat
  denominator := 4 * Nat.pow 2 (-q).toNat
  closed := m % 2 == 0

/-- Whether the decimal `c * 10 ^ e` lies in the interval. -/
def admits (r : Rounded) (c : Nat) (e : Int) : Bool :=
  let point := c * Nat.pow 10 e.toNat * r.denominator
  let low := r.low * Nat.pow 10 (-e).toNat
  let high := r.high * Nat.pow 10 (-e).toNat
  if r.closed then low ≤ point && point ≤ high else low < point && point < high

/-- The multiple of `10 ^ e` at or next below the number. -/
def below (r : Rounded) (e : Int) : Nat :=
  r.value * Nat.pow 10 (-e).toNat / (r.denominator * Nat.pow 10 e.toNat)

/-- Whether the number is at least as near to the multiple above it as to the one below. -/
def roundsUp (r : Rounded) (e : Int) : Bool :=
  let unit := r.denominator * Nat.pow 10 e.toNat
  unit ≤ 2 * (r.value * Nat.pow 10 (-e).toNat % unit)

/-- The nearest multiple of `10 ^ e` in the interval, zero excepted; a tie goes up. -/
def onGrid? (r : Rounded) (e : Int) : Option Nat :=
  let c := r.below e
  let lower := c != 0 && r.admits c e
  let upper := r.admits (c + 1) e
  if lower && upper then some (if r.roundsUp e then c + 1 else c)
  else if lower then some c
  else if upper then some (c + 1)
  else none

/-- The decimal on the coarsest grid that meets the interval, the grids tried from `10 ^ e`
downwards. -/
def coarsest (r : Rounded) : (tries : Nat) → (e : Int) → Option (Nat × Int)
  | 0, _ => none
  | tries + 1, e =>
    match r.onGrid? e with
    | some c => some (c, e)
    | none => coarsest r tries (e - 1)

end Rounded

/-- A decimal `c * 10 ^ e` written out by places, without an exponent. -/
def positional (c : Nat) (e : Int) : String :=
  let digits := Nat.toDigits 10 c
  if 0 ≤ e then String.ofList (digits ++ List.replicate e.toNat '0')
  else
    let places := (-e).toNat
    let padded := List.replicate (places + 1 - digits.length) '0' ++ digits
    String.ofList (padded.take (padded.length - places)) ++ "." ++
      String.ofList (padded.drop (padded.length - places))

/-- The exponents of ten at the ends of the range of doubles, with a margin. -/
def grids : Nat := 660

/-- A double in positional notation, by the fewest digits that read back as it. -/
def ofFloat (x : Float) : String :=
  let bits := x.toBits.toNat
  let exponent : Nat := bits / Nat.pow 2 52 % Nat.pow 2 11
  let fraction : Nat := bits % Nat.pow 2 52
  let sign := if bits / Nat.pow 2 63 = 1 then "-" else ""
  if exponent = 2047 then
    if fraction = 0 then sign ++ "inf" else "NaN"
  else if exponent = 0 && fraction = 0 then sign ++ "0"
  else
    let r :=
      if exponent = 0 then Rounded.ofBinary fraction (-1074) false
      else
        Rounded.ofBinary (Nat.pow 2 52 + fraction) ((exponent : Int) - 1075)
          (fraction == 0 && exponent != 1)
    match r.coarsest grids 310 with
    | some (c, e) => sign ++ positional c e
    | none => sign

end ClientCounters.Decimal
