import DeviceHub.Numeric.Binary64
import DeviceHub.Instant.Basic
import DeviceHub.Toml.Text
import DeviceHub.Toml.Value

/-
  Numbers, truth values and dates in TOML.

  Such a value is a run of letters, digits and a few signs;
  a date and its time may also have one space between them.

  Key definitions include:
    * `Toml.integer?`
    * `Toml.isReal`
    * `Toml.moment?`
    * `Toml.scanScalar`
-/

namespace DeviceHub

namespace Toml

------------------------------------------------------------
-- Digits
------------------------------------------------------------

/- The value of a digit in a base. -/
def digitIn?
    (base : Nat)
    (c : Char) : Option Nat :=
  (Text.hexValue? c.toNat).filter (· < base)

/-
  The digits of a run; underscores may stand between two of
  them.
-/
def digitRun?
    (base : Nat) : List Char → Option (List Nat)
  | [] => none
  | [c] => (digitIn? base c).map ([·])
  | c :: '_' :: rest => do
      let d ← digitIn? base c
      let ds ← digitRun? base rest
      some (d :: ds)
  | c :: rest => do
      let d ← digitIn? base c
      let ds ← digitRun? base rest
      some (d :: ds)

/- The value of digits in a base. -/
def valueOf
    (base : Nat)
    (digits : List Nat) : Nat :=
  digits.foldl (fun n d => base * n + d) 0

/- Digits without a zero in front of others. -/
def plainRun?
    (cs : List Char) : Option (List Nat) :=
  match digitRun? 10 cs with
  | some (0 :: _ :: _) => none
  | r => r

------------------------------------------------------------
-- Numbers
------------------------------------------------------------

/- An integer before its bounds are checked. -/
def unboundedInteger? : List Char → Option Int
  | '0' :: 'x' :: rest =>
      (digitRun? 16 rest).map fun ds =>
        Int.ofNat (valueOf 16 ds)
  | '0' :: 'o' :: rest =>
      (digitRun? 8 rest).map fun ds =>
        Int.ofNat (valueOf 8 ds)
  | '0' :: 'b' :: rest =>
      (digitRun? 2 rest).map fun ds =>
        Int.ofNat (valueOf 2 ds)
  | '+' :: rest =>
      (plainRun? rest).map fun ds =>
        Int.ofNat (valueOf 10 ds)
  | '-' :: rest =>
      (plainRun? rest).map fun ds =>
        -Int.ofNat (valueOf 10 ds)
  | cs =>
      (plainRun? cs).map fun ds => Int.ofNat (valueOf 10 ds)

/- An integer of 64 bits. -/
def integer?
    (cs : List Char) : Option Int :=
  (unboundedInteger? cs).filter (Word.isSigned 64)

/- The exponent of a number, without its letter. -/
def exponent?
    (cs : List Char) : Option Int :=
  match cs with
  | '+' :: rest =>
      (digitRun? 10 rest).map fun ds =>
        Int.ofNat (valueOf 10 ds)
  | '-' :: rest =>
      (digitRun? 10 rest).map fun ds =>
        -Int.ofNat (valueOf 10 ds)
  | cs =>
      (digitRun? 10 cs).map fun ds =>
        Int.ofNat (valueOf 10 ds)

/- The letter of an exponent. -/
def isExponentLetter
    (c : Char) : Bool :=
  c == 'e' || c == 'E'

/-
  The size of a number with a fraction or an exponent or
  both, without a sign.
-/
def magnitude?
    (cs : List Char) : Option Binary64 := do
  let mantissa := cs.takeWhile (!isExponentLetter ·)
  let exponent ←
    match cs.drop mantissa.length with
    | [] => some none
    | _ :: rest => (exponent? rest).map some
  let whole ← plainRun? (mantissa.takeWhile (· != '.'))
  let fraction ←
    match mantissa.dropWhile (· != '.') with
    | [] => some none
    | _ :: rest => (digitRun? 10 rest).map some
  if exponent.isNone && fraction.isNone then
    none
  else
    let fraction := fraction.getD []
    some (Binary64.ofDecimal false
      (valueOf 10 (whole ++ fraction))
      (exponent.getD 0 - Int.ofNat fraction.length))

/-
  Whether a run is a floating-point number.  One that is too
  large is refused unless it is negative.
-/
def isReal
    (cs : List Char) : Bool :=
  let (negative, rest) :=
    match cs with
    | '-' :: rest => (true, rest)
    | '+' :: rest => (false, rest)
    | cs => (false, cs)
  rest == ['i', 'n', 'f'] || rest == ['n', 'a', 'n'] ||
    (magnitude? rest).any fun x => negative || x.isFinite

------------------------------------------------------------
-- Dates
------------------------------------------------------------

/- A number of two digits, at most a limit. -/
def isPair
    (limit : Nat)
    (cs : List Char) : Bool :=
  cs.length == 2 && (Literal.digits? cs).any (· ≤ limit)

/- Whether a run is a day. -/
def isDay
    (cs : List Char) : Bool :=
  match cs with
  | [y, e, a, r, '-', m, n, '-', d, g] =>
      match Literal.digits? [y, e, a, r],
          Literal.digits? [m, n], Literal.digits? [d, g] with
      | some year, some month, some day =>
          Calendar.isDate (Int.ofNat year) month day
      | _, _, _ => false
  | _ => false

/-
  The fraction of a second, down to nanoseconds, with its
  point and without zeros at the end.
-/
def fraction?
    (cs : List Char) : Option (List Char) :=
  match cs with
  | [] => some []
  | '.' :: digits =>
      if (Literal.digits? digits).isSome then
        let backwards := (digits.take 9).reverse
        match backwards.dropWhile (· == '0') with
        | [] => some []
        | kept => some ('.' :: kept.reverse)
      else
        none
  | _ => none

/- A time of day in its shortest form. -/
def time?
    (cs : List Char) : Option (List Char) :=
  match cs with
  | h :: i :: ':' :: m :: n :: ':' :: s :: t :: rest =>
      if isPair 23 [h, i] && isPair 59 [m, n] &&
          isPair 60 [s, t] then
        (fraction? rest).map fun fraction =>
          [h, i, ':', m, n, ':', s, t] ++ fraction
      else
        none
  | _ => none

/-
  A distance from universal time; no distance has a plus
  sign.
-/
def offset?
    (cs : List Char) : Option (List Char) :=
  match cs with
  | ['z'] => some ['Z']
  | ['Z'] => some ['Z']
  | [sign, h, i, ':', m, n] =>
      if (sign == '+' || sign == '-') && isPair 23 [h, i] &&
          isPair 59 [m, n] then
        if [h, i, m, n].all (· == '0') then
          some ['+', h, i, ':', m, n]
        else
          some cs
      else
        none
  | _ => none

/- A character that begins an offset. -/
def beginsOffset
    (c : Char) : Bool :=
  c == 'z' || c == 'Z' || c == '+' || c == '-'

/- A time with or without an offset. -/
def zonedTime?
    (cs : List Char) : Option (List Char) := do
  let time ← time? (cs.takeWhile (!beginsOffset ·))
  let offset ←
    match cs.dropWhile (!beginsOffset ·) with
    | [] => some []
    | rest => offset? rest
  some (time ++ offset)

/- The mark between a day and its time. -/
def isTimeMark
    (c : Char) : Bool :=
  c == 'T' || c == 't' || c == ' '

/- A day, a time, or both, in the one form they have. -/
def moment?
    (cs : List Char) : Option String :=
  if isDay cs then
    some (String.ofList cs)
  else
    match time? cs with
    | some time => some (String.ofList time)
    | none =>
        match isDay (cs.take 10), cs.drop 10 with
        | true, mark :: rest =>
            if isTimeMark mark then
              (zonedTime? rest).map fun time =>
                String.ofList (cs.take 10 ++ 'T' :: time)
            else
              none
        | _, _ => none

------------------------------------------------------------
-- Scalars
------------------------------------------------------------

/- A character of a run. -/
def isRunChar
    (c : Char) : Bool :=
  isBare c || c == '+' || c == '.' || c == ':'

/- The run at the start, with the time that may follow. -/
def scanRun
    (cs : List Char) : List Char × List Char :=
  let run := cs.takeWhile isRunChar
  match cs.dropWhile isRunChar with
  | ' ' :: d :: rest =>
      if isDay run && Literal.isDigit d then
        (run ++ ' ' :: (d :: rest).takeWhile isRunChar,
          (d :: rest).dropWhile isRunChar)
      else
        (run, ' ' :: d :: rest)
  | rest => (run, rest)

/- The value of a run. -/
def scalar?
    (run : List Char) : Option Toml :=
  if run == ['t', 'r', 'u', 'e'] then
    some (bool true)
  else if run == ['f', 'a', 'l', 's', 'e'] then
    some (bool false)
  else
    match integer? run with
    | some n => some (int n)
    | none =>
        if isReal run then some real
        else (moment? run).map moment

/- A number, a truth value or a date. -/
def scanScalar : Scan Toml :=
  fun cs =>
    let (run, rest) := scanRun cs
    (scalar? run).map fun v => (v, rest)

end Toml

end DeviceHub
