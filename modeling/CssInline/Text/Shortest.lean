import CssInline.Text.Decimal

/-! The shortest decimal that reads back as a given binary fraction. -/

namespace CssInline.Text

/-- A positive number `significand * 2 ^ exponent` among its neighbours of the same format. The
neighbour below is half as far as the one above when `tightBelow` holds. -/
structure Binary where
  significand : Nat
  exponent : Int
  tightBelow : Bool

namespace Binary

/-- Compares `digits * 10 ^ power` with `quarters * 2 ^ (exponent - 2)`. -/
def compareDecimal (x : Binary) (digits : Nat) (power : Int) (quarters : Nat) : Ordering :=
  let scale := x.exponent - 2
  compare (digits * Nat.pow 10 power.toNat * Nat.pow 2 (-scale).toNat)
    (quarters * Nat.pow 10 (-power).toNat * Nat.pow 2 scale.toNat)

/-- Whether a decimal is nearer to `x` than to a neighbour; the midpoints belong to the number
whose significand is even. -/
def readsBack (x : Binary) (digits : Nat) (power : Int) : Bool :=
  let low := 4 * x.significand - (if x.tightBelow then 1 else 2)
  let high := 4 * x.significand + 2
  let even := x.significand % 2 == 0
  (match x.compareDecimal digits power low with
    | .lt => false
    | .eq => even
    | .gt => true) &&
  (match x.compareDecimal digits power high with
    | .lt => true
    | .eq => even
    | .gt => false)

/-- The multiple of `10 ^ power` at or just below `x`. -/
def floorDecimal (x : Binary) (power : Int) : Nat :=
  (x.significand * Nat.pow 2 x.exponent.toNat * Nat.pow 10 (-power).toNat) /
    (Nat.pow 10 power.toNat * Nat.pow 2 (-x.exponent).toNat)

/-- Whether `below` is at most as far from `x` as the next multiple of `10 ^ power`. -/
def nearerBelow (x : Binary) (below : Nat) (power : Int) : Bool :=
  x.compareDecimal (2 * below + 1) power (8 * x.significand) != .lt

/-- The best of the two multiples of `10 ^ power` around `x`, if one of them reads back. -/
def decimalAt? (x : Binary) (power : Int) : Option (Nat × Int) :=
  let below := x.floorDecimal power
  match x.readsBack below power, x.readsBack (below + 1) power with
  | true, true => some (if x.nearerBelow below power then below else below + 1, power)
  | true, false => some (below, power)
  | false, true => some (below + 1, power)
  | false, false => none

/-- Tries ever finer decimals, `count` of them from `power` down. -/
def shortestFrom (x : Binary) : Nat → Int → Nat × Int
  | 0, power => (x.floorDecimal power, power)
  | count + 1, power => (x.decimalAt? power).getD (x.shortestFrom count (power - 1))

/-- Digits and a power of ten. Every double is below `10 ^ 309` and none needs a digit beyond
`10 ^ (-324)`. -/
def shortest (x : Binary) : Nat × Int :=
  x.shortestFrom 634 309

end Binary

/-- A finite positive double. -/
def binaryOfDouble (x : Float) : Binary :=
  let bits := x.toBits.toNat
  let fraction : Nat := bits % Nat.pow 2 52
  let biased : Nat := bits / Nat.pow 2 52 % Nat.pow 2 11
  if biased = 0 then ⟨fraction, -1074, false⟩
  else ⟨Nat.pow 2 52 + fraction, (biased : Int) - 1075, fraction == 0 && 1 < biased⟩

/-- `digits * 10 ^ power` written out without an exponent, and with at least one decimal. -/
def positional (digits : Nat) (power : Int) : List Char :=
  let text := decimal digits
  if 0 ≤ power then text ++ List.replicate power.toNat '0' ++ ['.', '0']
  else
    let places := (-power).toNat
    let padded := List.replicate (places + 1 - text.length) '0' ++ text
    padded.take (padded.length - places) ++ '.' :: padded.drop (padded.length - places)

/-- A finite double with the fewest digits that read back. -/
def doubleText (x : Float) : List Char :=
  let sign := if x.toBits.toNat < Nat.pow 2 63 then [] else ['-']
  let size := x.abs
  if size == 0 then sign ++ ['0', '.', '0']
  else
    let (digits, power) := (binaryOfDouble size).shortest
    sign ++ positional digits power

end CssInline.Text
