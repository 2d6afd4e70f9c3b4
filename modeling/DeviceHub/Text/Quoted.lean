import DeviceHub.Text.PrintTable

/-
  Texts in quotes, as diagnostic descriptions show them.

  A quote and a backslash get a backslash before them, the
  usual controls have a letter, and any other character
  that would not be visible on its own is written by its
  number.

  Key definitions include:
    * `Text.hexValue?`
    * `Text.hexDigits`
    * `Text.escapeChar`
    * `Text.quoted`
    * `Text.quotedList`
-/

namespace DeviceHub

namespace Text

------------------------------------------------------------
-- Numbers in Base Sixteen
------------------------------------------------------------

/- One lower-case digit in base sixteen. -/
def hexDigit
    (n : Nat) : Char :=
  if n < 10 then
    Char.ofNat (48 + n)
  else
    Char.ofNat (87 + n)

/-
  The value of a digit in base sixteen, in either case, by
  its code.
-/
def hexValue?
    (code : Nat) : Option Nat :=
  if 48 ≤ code && code ≤ 57 then some (code - 48)
  else if 65 ≤ code && code ≤ 70 then some (code - 55)
  else if 97 ≤ code && code ≤ 102 then some (code - 87)
  else none

/- The digits of a number in base sixteen. -/
def hexDigits
    (n : Nat) : List Char :=
  if n < 16 then
    [hexDigit n]
  else
    hexDigits (n / 16) ++ [hexDigit (n % 16)]

/- Two digits for every byte. -/
def hexText
    (bytes : List UInt8) : String :=
  String.ofList (bytes.flatMap fun b =>
    [hexDigit (b.toNat / 16), hexDigit (b.toNat % 16)])

------------------------------------------------------------
-- Quoted Texts
------------------------------------------------------------

/- Letters that fill the place of another and show nothing. -/
def fillers : List Nat :=
  [0x115F, 0x1160, 0x3164, 0xFFA0]

/-
  Sound marks of half width: they extend the letter before
  them, but have a place of their own.
-/
def halfWidthMarks : List Nat :=
  [0xFF9E, 0xFF9F]

/- Whether a character shows on its own. -/
def isVisible
    (c : Char) : Bool :=
  let n := c.toNat
  let among := fun (ranges : List (Nat × Nat)) =>
    ranges.any fun r => r.1 ≤ n && n ≤ r.2
  if n < 127 then
    32 ≤ n
  else if halfWidthMarks.contains n then
    true
  else
    !fillers.contains n && !among extendingRanges &&
      !among unprintableRanges

/- The form of one character between quotes. -/
def escapeChar
    (c : Char) : List Char :=
  match c with
  | '\\' => ['\\', '\\']
  | '"' => ['\\', '"']
  | '\n' => ['\\', 'n']
  | '\r' => ['\\', 'r']
  | '\t' => ['\\', 't']
  | c =>
      if c.toNat == 0 then
        ['\\', '0']
      else if isVisible c then
        [c]
      else
        ['\\', 'u', '\x7b'] ++ hexDigits c.toNat ++ ['\x7d']

/- A text between quotes. -/
def quoted
    (s : String) : String :=
  String.ofList
    (['"'] ++ s.toList.flatMap escapeChar ++ ['"'])

/- A bracketed list of quoted texts. -/
def quotedList
    (names : List String) : String :=
  "[" ++ String.intercalate ", " (names.map quoted) ++ "]"

end Text

end DeviceHub
