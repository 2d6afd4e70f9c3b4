/-
  Looking for one text inside another.

  Key definitions include:
    * `Text.cutPrefix?`
    * `Text.occursIn`
    * `Text.splitFirst?`
    * `Text.replaceAll`
-/

namespace DeviceHub

namespace Text

------------------------------------------------------------
-- Character Lists
------------------------------------------------------------

/- What follows `pat`, if the characters begin with it. -/
def cutPrefix?
    (pat cs : List Char) : Option (List Char) :=
  match pat, cs with
  | [], cs => some cs
  | _ :: _, [] => none
  | p :: ps, c :: rest =>
      if p = c then cutPrefix? ps rest else none

/- Whether `pat` stands somewhere in the characters. -/
def occursInChars
    (pat : List Char) : List Char → Bool
  | [] => pat.isEmpty
  | c :: rest =>
      (cutPrefix? pat (c :: rest)).isSome ||
        occursInChars pat rest

/-
  Replace every occurrence of a non-empty pattern, from left
  to right and without overlap.  The number `skip` counts
  the characters of the current occurrence still to be
  dropped.
-/
def replaceChars
    (pat new : List Char)
    (skip : Nat) : List Char → List Char
  | [] => []
  | c :: rest =>
      match skip with
      | n + 1 => replaceChars pat new n rest
      | 0 =>
          match cutPrefix? pat (c :: rest) with
          | some _ =>
              new ++
                replaceChars pat new (pat.length - 1) rest
          | none => c :: replaceChars pat new 0 rest

------------------------------------------------------------
-- Texts
------------------------------------------------------------

/- Whether `pat` stands somewhere in `s`. -/
def occursIn
    (pat s : String) : Bool :=
  occursInChars pat.toList s.toList

/- Replace every occurrence of a non-empty text. -/
def replaceAll
    (pat new s : String) : String :=
  String.ofList
    (replaceChars pat.toList new.toList 0 s.toList)

/- The parts before and after the first such character. -/
def splitFirst?
    (sep : Char)
    (s : String) : Option (String × String) :=
  let cs := s.toList
  match cs.dropWhile (· != sep) with
  | [] => none
  | _ :: after =>
      some
        (String.ofList (cs.takeWhile (· != sep)),
          String.ofList after)

end Text

end DeviceHub
