/-! ## Binary numbers of 64 bits

Fractions in settings are kept with 53 binary digits. A decimal is read as the nearest such
number; halfway between two, the one with the even mantissa is taken. A number is written with
the fewest decimal digits that are read as the same number again. -/

namespace RigScript

/-- A number of 64 bits: `mantissa · 2^exponent` with a sign, an infinity, or no number. The
mantissa has 53 binary digits unless the exponent is -1074, the least one. -/
inductive Binary64 where
  | finite (negative : Bool) (mantissa : Nat) (exponent : Int)
  | infinite (negative : Bool)
  | nan
  deriving DecidableEq, Repr

namespace Binary64

def minExponent : Int := -1074

def maxExponent : Int := 971

/-- The quotient that is nearest; of two, the even one. -/
def roundHalfEven (num den : Nat) : Nat :=
  let q := num / den
  let r := num % den
  if 2 * r < den then q
  else if den < 2 * r then q + 1
  else q + q % 2

/-- A fraction times a power of two, as a fraction. -/
def scale (num den : Nat) (e : Int) : Nat × Nat :=
  if 0 ≤ e then (num * Nat.pow 2 e.toNat, den) else (num, den * Nat.pow 2 (-e).toNat)

/-! ## Reading -/

/-- The number that 64 bits denote: a sign, eleven bits of exponent, and the mantissa without its
leading one. -/
def ofBits (bits : Nat) : Binary64 :=
  let negative : Bool := Nat.pow 2 63 ≤ bits
  let exponent : Nat := bits / Nat.pow 2 52 % Nat.pow 2 11
  let mantissa : Nat := bits % Nat.pow 2 52
  if exponent = Nat.pow 2 11 - 1 then if mantissa = 0 then .infinite negative else .nan
  else if exponent = 0 then .finite negative mantissa minExponent
  else .finite negative (Nat.pow 2 52 + mantissa) (exponent - 1 + minExponent)

/-- The number nearest to a positive fraction. -/
def ofFraction (negative : Bool) (num den : Nat) : Binary64 :=
  let guess : Int := num.log2 - den.log2 - 53
  let (n, d) := scale num den (-guess)
  let exponent := max minExponent (if n / d < Nat.pow 2 53 then guess else guess + 1)
  let (n, d) := scale num den (-exponent)
  let m := roundHalfEven n d
  let (m, exponent) := if m = Nat.pow 2 53 then (Nat.pow 2 52, exponent + 1) else (m, exponent)
  if maxExponent < exponent then .infinite negative else .finite negative m exponent

/-- The number nearest to `digits · 10^power`. -/
def ofDecimal (negative : Bool) (digits : Nat) (power : Int) : Binary64 :=
  let length : Int := (toString digits).length
  if digits = 0 || length + power < -330 then .finite negative 0 minExponent
  else if 310 < length + power then .infinite negative
  else if 0 ≤ power then ofFraction negative (digits * Nat.pow 10 power.toNat) 1
  else ofFraction negative digits (Nat.pow 10 (-power).toNat)

/-! ## Writing

The decimals that are read as a number lie between the points halfway to its neighbours. On the
grid of the multiples of a power of ten, a multiple lies there only if one of the two next to the
number does, so the coarsest grid on which one of them does has the fewest digits. -/

/-- The multiple of `10^power` to write for `mantissa · 2^exponent`, if one is read as that
number: of the two next to it the nearer one, and of two equally near the larger one. -/
def onGrid? (mantissa : Nat) (exponent power : Int) : Option Nat :=
  -- everything is counted in quarters of the last binary place
  let below : Int := if mantissa = Nat.pow 2 52 && minExponent < exponent then 1 else 2
  let low := 4 * mantissa - below
  let high := 4 * mantissa + 2
  let (unit, grid) : Int × Int :=
    let (a, b) := scale 1 4 exponent
    if 0 ≤ power then (a, b * Nat.pow 10 power.toNat) else (a * Nat.pow 10 (-power).toNat, b)
  let hit (k : Int) : Bool :=
    if mantissa % 2 = 0 then low * unit ≤ k * grid && k * grid ≤ high * unit
    else low * unit < k * grid && k * grid < high * unit
  let value := 4 * mantissa * unit
  let k := value / grid
  let rest := value - k * grid
  match hit k && k != 0, hit (k + 1) with
  | true, true => some (if grid ≤ 2 * rest then k + 1 else k).toNat
  | true, false => some k.toNat
  | false, true => some (k + 1).toNat
  | false, false => none

/-- The digits and the power of the first grid that will do, from `power` down. -/
def shortestFrom (mantissa : Nat) (exponent : Int) : Nat → Int → Nat × Int
  | 0, power => (0, power)
  | n + 1, power =>
    match onGrid? mantissa exponent power with
    | some digits => (digits, power)
    | none => shortestFrom mantissa exponent n (power - 1)

/-- The fewest digits that are read as `mantissa · 2^exponent`, and the power of ten that they
count. Seventeen digits always will do; the search starts at a grid that is too coarse. -/
def shortest (mantissa : Nat) (exponent : Int) : Nat × Int :=
  shortestFrom mantissa exponent 24 ((mantissa.log2 + exponent) * 30103 / 100000 + 2)

/-- Digits of a power of ten without an exponent, and with a point. -/
def positional (digits : Nat) (power : Int) : String :=
  let s := toString digits
  if 0 ≤ power then s ++ "".pushn '0' power.toNat ++ ".0"
  else
    let places := (-power).toNat
    let s := "".pushn '0' (places + 1 - s.length) ++ s
    String.ofList (s.toList.take (s.length - places)) ++ "." ++
      String.ofList (s.toList.drop (s.length - places))

/-- The number as a text, never with an exponent and always with a point. -/
def render : Binary64 → String
  | .finite negative mantissa exponent =>
    let text :=
      if mantissa = 0 then "0.0"
      else
        let (digits, power) := shortest mantissa exponent
        positional digits power
    if negative then "-" ++ text else text
  | .infinite negative => if negative then "-inf" else "inf"
  | .nan => "nan"

example : (ofDecimal false 1 (-1)).render = "0.1" := by decide +kernel
example : (ofDecimal false 15 (-1)).render = "1.5" := by decide +kernel
example : (ofBits 0xC004000000000000).render = "-2.5" := by decide +kernel

end Binary64

end RigScript
