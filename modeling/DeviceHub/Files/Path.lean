/-
  Paths: texts whose parts are separated by slashes.

  Key definitions include:
    * `Path.parts`
    * `Path.isAbsolute`
    * `Path.join`
    * `Path.resolve`
    * `Path.parent?`
-/

namespace DeviceHub

namespace Path

------------------------------------------------------------
-- Parts
------------------------------------------------------------

/- The parts between slashes, empty ones included. -/
def partsOfChars : List Char → List (List Char)
  | [] => [[]]
  | '/' :: rest => [] :: partsOfChars rest
  | c :: rest =>
      match partsOfChars rest with
      | [] => [[c]]
      | part :: more => (c :: part) :: more

/- The parts of a path. -/
def parts
    (path : String) : List String :=
  (partsOfChars path.toList).map String.ofList

/- The path with the given parts. -/
def ofParts
    (parts : List String) : String :=
  String.intercalate "/" parts

/- Parts that lead nowhere. -/
def isIdle
    (part : String) : Bool :=
  part == "" || part == "."

------------------------------------------------------------
-- Joining
------------------------------------------------------------

/- Whether a path starts at the root. -/
def isAbsolute
    (path : String) : Bool :=
  path.toList.head? == some '/'

/- A path as seen from a directory. -/
def join
    (base path : String) : String :=
  if isAbsolute path || base == "" then
    path
  else if base.toList.getLast? == some '/' then
    base ++ path
  else
    base ++ "/" ++ path

/- A path as seen from a directory, if there is one. -/
def resolve
    (base : Option String)
    (path : String) : String :=
  match base with
  | some dir => join dir path
  | none => path

------------------------------------------------------------
-- Parents
------------------------------------------------------------

/- Drop the parts at the end that lead nowhere. -/
def dropIdle
    (parts : List String) : List String :=
  (parts.reverse.dropWhile isIdle).reverse

/- The directory that holds what a path names. -/
def parent?
    (path : String) : Option String :=
  match parts path with
  | [] => none
  | first :: rest =>
      match (dropIdle rest).dropLast, dropIdle rest with
      | _, [] => if first == "" then none else some ""
      | above, _ =>
          match first, dropIdle above with
          | "", [] => some "/"
          | first, above => some (ofParts (first :: above))

end Path

end DeviceHub
