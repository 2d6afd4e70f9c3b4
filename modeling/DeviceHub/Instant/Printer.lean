import DeviceHub.Instant.Basic

/-
  The text of an instant: date and time in universal time.

  The fraction of the second is left out, or has three, six
  or nine digits, whichever is the least that is exact.
  Years outside 0 to 9999 carry a sign.

  Key definitions include:
    * `Instant.toText`
-/

namespace DeviceHub

namespace Instant

/- A number with zeros in front, up to a width. -/
def padded
    (width n : Nat) : String :=
  let ds := Nat.toDigits 10 n
  String.ofList
    (List.replicate (width - ds.length) '0' ++ ds)

/- The text of a year. -/
def yearText
    (year : Int) : String :=
  if 0 ≤ year && year ≤ 9999 then
    padded 4 year.toNat
  else if year < 0 then
    "-" ++ padded 4 year.natAbs
  else
    "+" ++ padded 4 year.toNat

/- The text of a fraction of a second. -/
def fractionText
    (nano : Nat) : String :=
  if nano == 0 then ""
  else if nano % 1000000 == 0 then
    "." ++ padded 3 (nano / 1000000)
  else if nano % 1000 == 0 then
    "." ++ padded 6 (nano / 1000)
  else
    "." ++ padded 9 nano

/- The text of an instant. -/
def toText
    (i : Instant) : String :=
  let (year, month, day) :=
    Calendar.dateOfDays (i.second.fdiv 86400)
  let time := (i.second.fmod 86400).toNat
  let leap := i.nano / 1000000000
  yearText year ++ "-" ++ padded 2 month ++ "-" ++
    padded 2 day ++ "T" ++ padded 2 (time / 3600) ++ ":" ++
    padded 2 (time / 60 % 60) ++ ":" ++
    padded 2 (time % 60 + leap) ++
    fractionText (i.nano % 1000000000) ++ "Z"

end Instant

end DeviceHub
