import DeviceHub.Numeric.Binary64

/-
  The shortest decimal text of a finite number.

  Of all decimals that are read back as the number, the text
  has the fewest digits, and of those the one nearest to it.
  Numbers from 1e-5 up to 1e16 are written without an
  exponent.

  Key definitions include:
    * `Binary64.shortestDigits`
    * `Binary64.toText`
-/

namespace DeviceHub

namespace Binary64

------------------------------------------------------------
-- Shortest Digits
------------------------------------------------------------

/- Digits `d` with the number standing for `d * 10 ^ e`. -/
structure DecimalDigits where
  digits : Nat
  exponent : Int

/- Strip the zeros at the end, at most `fuel` of them. -/
def DecimalDigits.strip
    (d : DecimalDigits) : Nat → DecimalDigits
  | 0 => d
  | fuel + 1 =>
      if d.digits != 0 && d.digits % 10 == 0 then
        strip ⟨d.digits / 10, d.exponent + 1⟩ fuel
      else
        d

/- The value of a magnitude as a ratio. -/
def toRatio
    (magnitude : Nat) : Nat × Nat :=
  let field := magnitude / Nat.pow 2 52
  let fraction := magnitude % Nat.pow 2 52
  let significand :=
    if field == 0 then fraction
    else fraction + Nat.pow 2 52
  let e : Int := Int.ofNat (max field 1) - 1075
  if 0 ≤ e then
    (significand * Nat.pow 2 e.toNat, 1)
  else
    (significand, Nat.pow 2 (-e).toNat)

/- The exponent `p` with `10 ^ (p-1) ≤ num/den < 10 ^ p`. -/
def decimalPoint
    (num den : Nat) : Int :=
  let whole := num / den
  if whole != 0 then
    Int.ofNat (digitCount whole)
  else
    let inverse := den / num
    let p : Int := 1 - Int.ofNat (digitCount inverse)
    if Nat.pow 10 (-p).toNat * num < den then p else p + 1

/-
  The decimal with `count` digits that reads back, if there
  is one.  Only the two neighbours of the number can, and
  the nearer one is tried first.
-/
def roundedTo?
    (magnitude num den : Nat)
    (point : Int)
    (count : Nat) : Option DecimalDigits :=
  let e := point - Int.ofNat count
  let (n, d) :=
    if 0 ≤ e then
      (num, den * Nat.pow 10 e.toNat)
    else
      (num * Nat.pow 10 (-e).toNat, den)
  let low := n / d
  let neighbours :=
    if nearest n d == low then [low, low + 1]
    else [low + 1, low]
  let found := neighbours.find? fun x =>
    (ofDecimal false x e).magnitude == magnitude
  found.map fun x => ⟨x, e⟩

/- The shortest decimal that reads back as the magnitude. -/
def shortestDigits
    (magnitude : Nat) : DecimalDigits :=
  let (num, den) := toRatio magnitude
  let point := decimalPoint num den
  let tries := (List.range 17).filterMap fun k =>
    roundedTo? magnitude num den point (k + 1)
  match tries with
  | best :: _ => best.strip 20
  | [] => ⟨0, 0⟩

------------------------------------------------------------
-- Texts
------------------------------------------------------------

/- A text of `n` zeros. -/
def zeros
    (n : Nat) : String :=
  String.ofList (List.replicate n '0')

/- The text of a positive decimal. -/
def DecimalDigits.toText
    (d : DecimalDigits) : String :=
  let ds := toString d.digits
  let count := Int.ofNat ds.length
  let point := count + d.exponent
  let cut := fun (n : Nat) =>
    String.ofList (ds.toList.take n) ++ "." ++
      String.ofList (ds.toList.drop n)
  if 0 ≤ d.exponent && point ≤ 16 then
    ds ++ zeros d.exponent.toNat ++ ".0"
  else if 0 < point && point ≤ 16 then
    cut point.toNat
  else if -5 < point && point ≤ 0 then
    "0." ++ zeros (-point).toNat ++ ds
  else if count == 1 then
    ds ++ "e" ++ toString (point - 1)
  else
    cut 1 ++ "e" ++ toString (point - 1)

/- The text of a finite number. -/
def toText
    (x : Binary64) : String :=
  let body :=
    if x.magnitude == 0 then
      "0.0"
    else
      (shortestDigits x.magnitude).toText
  if x.isNegative then "-" ++ body else body

end Binary64

end DeviceHub
