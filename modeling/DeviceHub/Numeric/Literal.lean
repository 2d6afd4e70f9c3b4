import DeviceHub.Numeric.Word

/-
  Numbers written as plain text.

  An integer is an optional sign and decimal digits.  A real
  number has digits on at least one side of an optional
  point and an optional exponent; infinity and
  not-a-number have names, in any letter case.

  Key definitions include:
    * `Literal.integer?`
    * `Literal.natural?`
    * `Literal.isReal`
-/

namespace DeviceHub

namespace Literal

------------------------------------------------------------
-- Digits
------------------------------------------------------------

/- A decimal digit. -/
def isDigit
    (c : Char) : Bool :=
  48 ≤ c.toNat && c.toNat ≤ 57

/- The value of a decimal digit. -/
def digitValue
    (c : Char) : Nat :=
  c.toNat - 48

/- The value of a run of digits. -/
def digitsValue
    (cs : List Char) : Nat :=
  cs.foldl (fun n c => 10 * n + digitValue c) 0

/- The value of a text of digits only, at least one. -/
def digits?
    (cs : List Char) : Option Nat :=
  if !cs.isEmpty && cs.all isDigit then
    some (digitsValue cs)
  else
    none

------------------------------------------------------------
-- Integers
------------------------------------------------------------

/- The value of digits after an optional sign. -/
def signed?
    (cs : List Char) : Option Int :=
  match cs with
  | '+' :: rest => (digits? rest).map Int.ofNat
  | '-' :: rest => (digits? rest).map fun n => -Int.ofNat n
  | cs => (digits? cs).map Int.ofNat

/- The integer that a text denotes. -/
def integer?
    (s : String) : Option Int :=
  signed? s.toList

/- The integer of 64 bits that a text denotes. -/
def int64?
    (s : String) : Option Int :=
  (integer? s).filter (Word.isSigned 64)

/- The number of 64 bits; a minus sign is refused. -/
def natural?
    (s : String) : Option Nat :=
  let cs :=
    match s.toList with
    | '+' :: rest => rest
    | cs => cs
  (digits? cs).filter (· < Word.count 64)

------------------------------------------------------------
-- Real Numbers
------------------------------------------------------------

/- An ASCII letter in lower case. -/
def asciiLower
    (c : Char) : Char :=
  if 65 ≤ c.toNat && c.toNat ≤ 90 then
    Char.ofNat (c.toNat + 32)
  else
    c

/- Drop an optional sign. -/
def dropSign
    (cs : List Char) : List Char :=
  match cs with
  | '+' :: rest => rest
  | '-' :: rest => rest
  | cs => cs

/- Nothing, or the mark of an exponent and an integer. -/
def isExponentPart
    (cs : List Char) : Bool :=
  match cs with
  | [] => true
  | c :: rest =>
      asciiLower c == 'e' && (digits? (dropSign rest)).isSome

/- A real number without sign, written with digits. -/
def isUnsignedReal
    (cs : List Char) : Bool :=
  let whole := cs.takeWhile isDigit
  match cs.dropWhile isDigit with
  | '.' :: rest =>
      let fraction := rest.takeWhile isDigit
      !(whole.isEmpty && fraction.isEmpty) &&
        isExponentPart (rest.dropWhile isDigit)
  | rest => !whole.isEmpty && isExponentPart rest

/- The names of values that have no digits. -/
def isNamedReal
    (cs : List Char) : Bool :=
  ["inf", "infinity", "nan"].contains
    (String.ofList (cs.map asciiLower))

/- Whether a text denotes a floating-point number. -/
def isReal
    (s : String) : Bool :=
  let cs := dropSign s.toList
  isUnsignedReal cs || isNamedReal cs

end Literal

end DeviceHub
