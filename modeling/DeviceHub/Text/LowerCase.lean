import DeviceHub.Text.CaseTable

/-
  Full Unicode lower-casing of texts.

  Every character is replaced by its lower-case mapping, the
  capital I with a dot above becomes two characters, and a
  capital sigma takes its final form at the end of a word.

  Key definitions include:
    * `Text.lowerChar`
    * `Text.isFinalSigma`
    * `Text.lowerCase`
-/

namespace DeviceHub

namespace Text

------------------------------------------------------------
-- Single Characters
------------------------------------------------------------

/- Whether a code point lies in one of the ranges. -/
def inRanges
    (ranges : List (Nat × Nat))
    (n : Nat) : Bool :=
  ranges.any fun r => r.1 ≤ n && n ≤ r.2

/- The code point of the lower-case form. -/
def lowerCode
    (n : Nat) : Nat :=
  if n < 128 then
    if 65 ≤ n && n ≤ 90 then n + 32 else n
  else
    match lowerRuns.find? fun r =>
        r.first ≤ n && n ≤ r.last &&
          (n - r.first) % r.step == 0 with
    | some r => (Int.ofNat n + r.offset).toNat
    | none => n

/- The lower-case form of a character by itself. -/
def lowerChar
    (c : Char) : List Char :=
  if c.toNat == 0x130 then
    [Char.ofNat 0x69, Char.ofNat 0x307]
  else
    [Char.ofNat (lowerCode c.toNat)]

/- Letters that have case. -/
def isCased
    (c : Char) : Bool :=
  inRanges casedRanges c.toNat

/- Characters that do not end a word. -/
def isCaseIgnorable
    (c : Char) : Bool :=
  inRanges caseIgnorableRanges c.toNat

------------------------------------------------------------
-- Texts
------------------------------------------------------------

/-
  Whether the nearest character that is not case-ignorable
  is a cased letter.
-/
def leadsToCased
    (cs : List Char) : Bool :=
  match cs.dropWhile isCaseIgnorable with
  | [] => false
  | c :: _ => isCased c

/-
  A sigma is final when a cased letter comes before it and
  none comes after it, case-ignorable characters aside.
-/
def isFinalSigma
    (before after : List Char) : Bool :=
  leadsToCased before && !leadsToCased after

/-
  Lower-case the rest of a text; `before` holds the
  characters already passed, nearest first.
-/
def lowerChars
    (before : List Char) : List Char → List Char
  | [] => []
  | c :: rest =>
      let low :=
        if c.toNat == 0x3A3 then
          if isFinalSigma before rest then
            [Char.ofNat 0x3C2]
          else
            [Char.ofNat 0x3C3]
        else
          lowerChar c
      low ++ lowerChars (c :: before) rest

/- The lower-case form of a text. -/
def lowerCase
    (s : String) : String :=
  String.ofList (lowerChars [] s.toList)

end Text

end DeviceHub
