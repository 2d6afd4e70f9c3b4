/-
  Binary floating-point numbers of 64 bits, as bit patterns.

  A decimal is rounded to the nearest pattern in exact
  integer arithmetic, a half going to the even neighbour.
  Scaling by a power of ten works on magnitudes that are
  already rounded, and rounds after every step.

  Key definitions include:
    * `Binary64`
    * `Binary64.isFinite`
    * `Binary64.roundRatio`
    * `Binary64.ofDecimal`
    * `Binary64.scale?`
-/

namespace DeviceHub

------------------------------------------------------------
-- Bit Patterns
------------------------------------------------------------

/-
  A number of the format, given by its bits: sign, eleven
  bits of exponent, fifty-two bits of fraction.
-/
structure Binary64 where
  bits : UInt64
  deriving DecidableEq, Inhabited, Repr

namespace Binary64

/- The magnitude of infinity as a natural number. -/
def infinityBits : Nat :=
  0x7FF * Nat.pow 2 52

/- The bits without the sign. -/
def magnitude
    (x : Binary64) : Nat :=
  x.bits.toNat % Nat.pow 2 63

/- Whether the sign bit is set. -/
def isNegative
    (x : Binary64) : Bool :=
  Nat.pow 2 63 ≤ x.bits.toNat

/- Neither infinite nor not a number. -/
def isFinite
    (x : Binary64) : Bool :=
  x.magnitude < infinityBits

/- The pattern with the given sign and magnitude. -/
def ofParts
    (negative : Bool)
    (magnitude : Nat) : Binary64 :=
  ⟨UInt64.ofNat
    (magnitude + if negative then Nat.pow 2 63 else 0)⟩

------------------------------------------------------------
-- Rounding
------------------------------------------------------------

/- The nearest integer to a ratio, a half going to even. -/
def nearest
    (num den : Nat) : Nat :=
  let q := num / den
  let r := num % den
  if 2 * r < den then q
  else if den < 2 * r then q + 1
  else if q % 2 == 0 then q
  else q + 1

/-
  The magnitude nearest to a positive ratio.  With `e` the
  exponent of the last place, normal numbers have a
  significand of 53 bits and `e` never goes below -1074, so
  that `(e + 1074) * 2 ^ 52` plus the significand is the
  pattern in every case.
-/
def roundRatio
    (num den : Nat) : Nat :=
  let guess : Int :=
    Int.ofNat num.log2 - Int.ofNat den.log2 - 52
  let fits := fun (e : Int) =>
    if 0 ≤ e then
      Nat.pow 2 52 * (den * Nat.pow 2 e.toNat) ≤ num
    else
      Nat.pow 2 52 * den ≤ num * Nat.pow 2 (-e).toNat
  let e := if fits guess then guess else guess - 1
  let e := max e (-1074)
  let significand :=
    if 0 ≤ e then
      nearest num (den * Nat.pow 2 e.toNat)
    else
      nearest (num * Nat.pow 2 (-e).toNat) den
  min infinityBits
    ((e + 1074).toNat * Nat.pow 2 52 + significand)

/- The number of decimal digits. -/
def digitCount
    (n : Nat) : Nat :=
  (Nat.toDigits 10 n).length

/-
  The number nearest to `digits * 10 ^ exponent`.  Exponents
  far outside the range are settled by the count of digits
  alone, so that no huge power is formed.
-/
def ofDecimal
    (negative : Bool)
    (digits : Nat)
    (exponent : Int) : Binary64 :=
  ofParts negative <|
    if digits == 0 then
      0
    else
      let top := Int.ofNat (digitCount digits) + exponent
      if 310 < top then
        infinityBits
      else if top < -330 then
        0
      else if 0 ≤ exponent then
        roundRatio (digits * Nat.pow 10 exponent.toNat) 1
      else
        roundRatio digits (Nat.pow 10 (-exponent).toNat)

------------------------------------------------------------
-- Scaling
------------------------------------------------------------

/- The magnitude nearest to a ratio, which may be zero. -/
def ofRatio
    (num den : Nat) : Nat :=
  if num == 0 then 0 else roundRatio num den

/- A finite magnitude in units of the least positive one. -/
def units
    (magnitude : Nat) : Nat :=
  let exponent := magnitude / Nat.pow 2 52
  let fraction := magnitude % Nat.pow 2 52
  if exponent == 0 then
    fraction
  else
    (Nat.pow 2 52 + fraction) * Nat.pow 2 (exponent - 1)

/- The product of two finite magnitudes. -/
def product
    (x y : Nat) : Nat :=
  ofRatio (units x * units y) (Nat.pow 2 (2 * 1074))

/- A finite magnitude divided by a positive one. -/
def quotient
    (x y : Nat) : Nat :=
  ofRatio (units x) (units y)

/- The magnitude of a power of ten. -/
def powerOfTen
    (n : Nat) : Nat :=
  ofRatio (Nat.pow 10 n) 1

/- The greatest power of ten in the range. -/
def topPower : Nat :=
  308

/- Divide by the greatest power of ten a number of times. -/
def lower
    (x : Nat) : Nat → Nat
  | 0 => x
  | n + 1 =>
      if x == 0 then
        0
      else
        lower (quotient x (powerOfTen topPower)) n

/-
  A finite magnitude times a power of ten, if that is in
  range.  A power of ten that is out of range itself divides
  in several steps.
-/
def scale?
    (x : Nat)
    (exponent : Int) : Option Nat :=
  if 0 ≤ exponent then
    let n := exponent.toNat
    if x == 0 then
      some 0
    else if topPower < n then
      none
    else
      (some (product x (powerOfTen n))).filter
        (· < infinityBits)
  else
    let n := (-exponent).toNat
    let steps := (n - 1) / topPower
    some (quotient (lower x steps)
      (powerOfTen (n - steps * topPower)))

end Binary64

end DeviceHub
