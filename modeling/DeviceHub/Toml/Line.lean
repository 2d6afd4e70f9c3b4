import DeviceHub.Toml.Scalar
import DeviceHub.Toml.Draft

/-
  Values and lines of TOML documents.

  Key definitions include:
    * `Toml.scanValue`
    * `Toml.Line`
    * `Toml.scanLine`
-/

namespace DeviceHub

namespace Toml

------------------------------------------------------------
-- Fillers
------------------------------------------------------------

/- What follows a comment, which ends with its line. -/
def skipComment
    (cs : List Char) : List Char :=
  match cs with
  | '#' :: rest => rest.dropWhile isPlain
  | cs => cs

/- Drop blanks, comments and line ends. -/
def skipFiller : Nat → List Char → List Char
  | 0, cs => cs
  | fuel + 1, cs =>
      let rest := skipComment (skipGap cs)
      match cutNewline? rest with
      | some rest => skipFiller fuel rest
      | none => if cs.head? == some '#' then cs else skipGap cs

/- Drop all blanks, comments and line ends. -/
def skipAll
    (cs : List Char) : List Char :=
  skipFiller (cs.length + 1) cs

------------------------------------------------------------
-- Lists and Tables Within a Line
------------------------------------------------------------

/- The items of a list up to its closing bracket. -/
def scanItems
    (item : Scan Toml) : Nat → Scan (List Toml)
  | 0, _ => none
  | fuel + 1, cs =>
      match skipAll cs with
      | ']' :: rest => some ([], rest)
      | cs => do
          let (v, rest) ← item cs
          match skipAll rest with
          | ']' :: rest => some ([v], rest)
          | ',' :: rest => do
              let (vs, rest) ← scanItems item fuel rest
              some (v :: vs, rest)
          | _ => none

/- A key, an equals sign and a value. -/
def scanPair
    (item : Scan Toml) : Scan (List String × Toml) :=
  fun cs => do
    let (key, rest) ← scanKey cs
    match rest with
    | '=' :: rest => do
        let (v, rest) ← item (skipGap rest)
        some ((key, v), rest)
    | _ => none

/- The pairs of a table up to its closing brace. -/
def scanPairs
    (item : Scan Toml) :
    Nat → Scan (List (List String × Toml))
  | 0, _ => none
  | fuel + 1, cs => do
      let (pair, rest) ← scanPair item cs
      match skipGap rest with
      | '\x7d' :: rest => some ([pair], rest)
      | ',' :: rest => do
          let (pairs, rest) ← scanPairs item fuel rest
          some (pair :: pairs, rest)
      | _ => none

/- A table after its opening brace. -/
def scanInlineTable
    (item : Scan Toml)
    (cs : List Char) : Option (Toml × List Char) :=
  match skipGap cs with
  | '\x7d' :: rest => some (table [], rest)
  | cs => do
      let (pairs, rest) ←
        scanPairs item (cs.length + 1) cs
      let t ← Draft.ofPairs? pairs
      some (t.toToml, rest)

------------------------------------------------------------
-- Values
------------------------------------------------------------

/- A value without parts. -/
def scanPlain : Scan Toml
  | '"' :: rest =>
      (scanText ('"' :: rest)).map fun e => (text e.1, e.2)
  | '\'' :: rest =>
      (scanText ('\'' :: rest)).map fun e => (text e.1, e.2)
  | cs => scanScalar cs

/- A value with at most so many levels of nesting. -/
def scanNested : Nat → Scan Toml
  | 0, cs => scanPlain cs
  | room + 1, cs =>
      match cs with
      | '[' :: rest =>
          (scanItems (scanNested room) (rest.length + 1)
            rest).map fun e => (list e.1, e.2)
      | '\x7b' :: rest =>
          scanInlineTable (scanNested room) rest
      | cs => scanPlain cs

/- A value. -/
def scanValue : Scan Toml :=
  scanNested maxDepth

------------------------------------------------------------
-- Lines
------------------------------------------------------------

/- What a line of a document says. -/
inductive Line where
  | empty
  | pair (key : List String) (value : Toml)
  | header (key : List String)
  | itemHeader (key : List String)

/- What follows a line; only a comment may come before. -/
def endLine?
    (cs : List Char) : Option (List Char) :=
  match skipComment (skipGap cs) with
  | [] => some []
  | rest => cutNewline? rest

/- A line without its end. -/
def scanLineBody : Scan Line
  | '[' :: '[' :: rest => do
      let (key, rest) ← scanKey rest
      match rest with
      | ']' :: ']' :: rest => some (.itemHeader key, rest)
      | _ => none
  | '[' :: rest => do
      let (key, rest) ← scanKey rest
      match rest with
      | ']' :: rest => some (.header key, rest)
      | _ => none
  | cs =>
      if (endLine? cs).isSome then
        some (.empty, cs)
      else
        (scanPair scanValue cs).map fun e =>
          (.pair e.1.1 e.1.2, e.2)

/- A line with its end. -/
def scanLine : Scan Line :=
  fun cs => do
    let (line, rest) ← scanLineBody (skipGap cs)
    let rest ← endLine? rest
    some (line, rest)

end Toml

end DeviceHub
