import DeviceHub.Instant.Basic
import DeviceHub.Numeric.Literal
import DeviceHub.Text.Blank

/-
  Reading an instant from a text with date, time and offset.

  White space may stand before every number and every mark,
  but not before the letter between date and time, whose
  place a space may take.  A signed year may have any number
  of digits.  Digits of the second beyond the ninth place
  are dropped.

  Key definitions include:
    * `Instant.parse?`
-/

namespace DeviceHub

namespace Instant

------------------------------------------------------------
-- Parts of a Text
------------------------------------------------------------

/- Drop white space. -/
def skipSpace
    (cs : List Char) : List Char :=
  cs.dropWhile Text.isSpace

/- A number of one to `width` digits. -/
def number?
    (width : Nat)
    (cs : List Char) : Option (Nat × List Char) :=
  let ds := (cs.take width).takeWhile Literal.isDigit
  if ds.isEmpty then
    none
  else
    some (Literal.digitsValue ds, cs.drop ds.length)

/- A number in a field, within bounds. -/
def field?
    (low high : Nat)
    (cs : List Char) : Option (Nat × List Char) :=
  (number? 2 (skipSpace cs)).filter fun r =>
    low ≤ r.1 && r.1 ≤ high

/- A mark, with white space before it. -/
def mark?
    (m : Char)
    (cs : List Char) : Option (List Char) :=
  match skipSpace cs with
  | c :: rest => if c = m then some rest else none
  | [] => none

/- A year: up to four digits, or a sign and any number. -/
def year?
    (cs : List Char) : Option (Int × List Char) :=
  match skipSpace cs with
  | '-' :: rest =>
      (number? rest.length rest).map fun r =>
        (-Int.ofNat r.1, r.2)
  | '+' :: rest =>
      (number? rest.length rest).map fun r =>
        (Int.ofNat r.1, r.2)
  | cs =>
      (number? 4 cs).map fun r => (Int.ofNat r.1, r.2)

/- A fraction of a second, in nanoseconds. -/
def fraction?
    (cs : List Char) : Option (Nat × List Char) :=
  match cs with
  | '.' :: rest => do
      let (n, after) ← number? 9 rest
      let places := rest.length - after.length
      some (n * Nat.pow 10 (9 - places),
        after.dropWhile Literal.isDigit)
  | cs => some (0, cs)

/- The mark between date and time. -/
def separator?
    (cs : List Char) : Option (List Char) :=
  match cs with
  | 'T' :: rest => some rest
  | 't' :: rest => some rest
  | ' ' :: rest => some rest
  | _ => none

------------------------------------------------------------
-- Offsets
------------------------------------------------------------

/- Two digits. -/
def pair?
    (cs : List Char) : Option (Nat × List Char) :=
  match cs with
  | a :: b :: rest =>
      (Literal.digits? [a, b]).map fun n => (n, rest)
  | _ => none

/- Hours and minutes, with or without colons between. -/
def hoursMinutes?
    (cs : List Char) : Option (Int × List Char) := do
  let (hours, rest) ← pair? cs
  let rest := rest.dropWhile fun c =>
    c = ':' || Text.isSpace c
  let (minutes, rest) ← pair? rest
  if minutes < 60 && hours < 24 then
    some (Int.ofNat (hours * 3600 + minutes * 60), rest)
  else
    none

/- The distance from universal time, in seconds. -/
def offset?
    (cs : List Char) : Option (Int × List Char) :=
  match cs with
  | 'Z' :: rest => some (0, rest)
  | 'z' :: rest => some (0, rest)
  | '+' :: rest => hoursMinutes? rest
  | '-' :: rest =>
      (hoursMinutes? rest).map fun r => (-r.1, r.2)
  | c :: rest =>
      if c.toNat == 0x2212 then
        (hoursMinutes? rest).map fun r => (-r.1, r.2)
      else if
          ((c :: rest).take 3).map Literal.asciiLower =
            ['u', 't', 'c'] then
        some (0, rest.drop 2)
      else
        none
  | [] => none

------------------------------------------------------------
-- Instants
------------------------------------------------------------

/- The instant that a text denotes. -/
def parse?
    (s : String) : Option Instant := do
  let (year, cs) ← year? s.toList
  let cs ← mark? '-' cs
  let (month, cs) ← field? 1 12 cs
  let cs ← mark? '-' cs
  let (day, cs) ← field? 1 31 cs
  let cs ← separator? cs
  let (hour, cs) ← field? 0 23 cs
  let cs ← mark? ':' cs
  let (minute, cs) ← field? 0 59 cs
  let cs ← mark? ':' cs
  let (second, cs) ← field? 0 60 cs
  let (fraction, cs) ← fraction? cs
  let (offset, cs) ← offset? (skipSpace cs)
  if !(skipSpace cs).isEmpty ||
      !Calendar.isDate year month day then
    none
  else
    let leap := if second = 60 then 1 else 0
    let clock :=
      Int.ofNat (hour * 3600 + minute * 60 + second - leap)
    let days := Calendar.daysOfDate year month day
    let i : Instant :=
      ⟨days * 86400 + clock - offset,
        fraction + leap * 1000000000⟩
    if i.inCalendar then some i else none

end Instant

end DeviceHub
