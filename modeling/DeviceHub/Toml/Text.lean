import DeviceHub.Numeric.Literal
import DeviceHub.Text.Quoted

/-
  Texts and keys in TOML.

  A text stands between quotes, which may be tripled so that
  it can span lines.  Double quotes allow escapes, single
  ones do not.

  Key definitions include:
    * `Toml.Scan`
    * `Toml.scanText`
    * `Toml.scanKey`
-/

namespace DeviceHub

namespace Toml

------------------------------------------------------------
-- Characters
------------------------------------------------------------

/- Read something and give back the characters after it. -/
abbrev Scan (α : Type) :=
  List Char → Option (α × List Char)

/- A blank within a line. -/
def isGap
    (c : Char) : Bool :=
  c == ' ' || c == '\t'

/- A character that may stand in a line. -/
def isPlain
    (c : Char) : Bool :=
  c == '\t' || (32 ≤ c.toNat && c.toNat != 127)

/- Drop the blanks at the start. -/
def skipGap
    (cs : List Char) : List Char :=
  cs.dropWhile isGap

/- What follows the end of a line. -/
def cutNewline? : List Char → Option (List Char)
  | '\n' :: rest => some rest
  | '\r' :: '\n' :: rest => some rest
  | _ => none

------------------------------------------------------------
-- Escapes
------------------------------------------------------------

/- The character with a number in base sixteen. -/
def charOfHex?
    (cs : List Char) : Option Char := do
  let digits ← cs.mapM fun c =>
    Text.hexValue? c.toNat
  let n := digits.foldl (fun n d => 16 * n + d) 0
  if n.isValidChar then some (Char.ofNat n) else none

/- The character that a letter after a backslash means. -/
def simpleEscape?
    (c : Char) : Option Char :=
  match c with
  | 'b' => some '\x08'
  | 't' => some '\t'
  | 'n' => some '\n'
  | 'f' => some '\x0c'
  | 'r' => some '\r'
  | '"' => some '"'
  | '\\' => some '\\'
  | _ => none

/- The character that is escaped, after the backslash. -/
def scanEscape : Scan Char
  | 'u' :: rest =>
      if 4 ≤ rest.length then
        (charOfHex? (rest.take 4)).map fun c =>
          (c, rest.drop 4)
      else
        none
  | 'U' :: rest =>
      if 8 ≤ rest.length then
        (charOfHex? (rest.take 8)).map fun c =>
          (c, rest.drop 8)
      else
        none
  | c :: rest => (simpleEscape? c).map fun e => (e, rest)
  | [] => none

------------------------------------------------------------
-- Texts on One Line
------------------------------------------------------------

/- Put a character before a text that was read. -/
def consChar
    (c : Char)
    (r : Option (List Char × List Char)) :
    Option (List Char × List Char) :=
  r.map fun e => (c :: e.1, e.2)

/- The rest of a text in double quotes. -/
def basicRest : Nat → Scan (List Char)
  | 0, _ => none
  | _, [] => none
  | _, '"' :: rest => some ([], rest)
  | fuel + 1, '\\' :: rest =>
      match scanEscape rest with
      | some (c, rest) => consChar c (basicRest fuel rest)
      | none => none
  | fuel + 1, c :: rest =>
      if isPlain c then
        consChar c (basicRest fuel rest)
      else
        none

/- The rest of a text in single quotes. -/
def literalRest : Scan (List Char)
  | [] => none
  | '\'' :: rest => some ([], rest)
  | c :: rest =>
      if isPlain c then
        consChar c (literalRest rest)
      else
        none

------------------------------------------------------------
-- Texts on Several Lines
------------------------------------------------------------

/-
  What closes a text in tripled quotes: the three, with at
  most two more before them that belong to the text.
-/
def closing?
    (quote : Char) : Scan (List Char)
  | a :: b :: c :: rest =>
      if a == quote && b == quote && c == quote then
        let more := (rest.take 2).takeWhile (· == quote)
        some (more, rest.drop more.length)
      else
        none
  | _ => none

/- Whether nothing but blanks is left of a line. -/
def endsLine
    (cs : List Char) : Bool :=
  (cutNewline? (skipGap cs)).isSome

/-
  The rest of a text in tripled double quotes.  A backslash
  at the end of a line joins it to the next text, blanks and
  empty lines between them being skipped.
-/
def multiBasicRest
    (skipping : Bool) : Nat → Scan (List Char)
  | 0, _ => none
  | fuel + 1, cs =>
      match closing? '"' cs, cutNewline? cs, cs with
      | some closed, _, _ => some closed
      | _, some rest, _ =>
          if skipping then
            multiBasicRest true fuel rest
          else
            consChar '\n' (multiBasicRest false fuel rest)
      | _, _, '\\' :: rest =>
          if endsLine rest then
            multiBasicRest true fuel rest
          else
            match scanEscape rest with
            | some (c, rest) =>
                consChar c (multiBasicRest false fuel rest)
            | none => none
      | _, _, c :: rest =>
          if skipping && isGap c then
            multiBasicRest true fuel rest
          else if isPlain c then
            consChar c (multiBasicRest false fuel rest)
          else
            none
      | _, _, [] => none

/- The rest of a text in tripled single quotes. -/
def multiLiteralRest : Nat → Scan (List Char)
  | 0, _ => none
  | fuel + 1, cs =>
      match closing? '\'' cs, cutNewline? cs, cs with
      | some closed, _, _ => some closed
      | _, some rest, _ =>
          consChar '\n' (multiLiteralRest fuel rest)
      | _, _, c :: rest =>
          if isPlain c then
            consChar c (multiLiteralRest fuel rest)
          else
            none
      | _, _, [] => none

/- A line's end right after the opening quotes is dropped. -/
def dropFirstNewline
    (cs : List Char) : List Char :=
  (cutNewline? cs).getD cs

------------------------------------------------------------
-- Texts
------------------------------------------------------------

/- A text on one line. -/
def scanLineText : Scan String
  | '"' :: rest =>
      (basicRest (rest.length + 1) rest).map fun e =>
        (String.ofList e.1, e.2)
  | '\'' :: rest =>
      (literalRest rest).map fun e => (String.ofList e.1, e.2)
  | _ => none

/- A text. -/
def scanText : Scan String
  | '"' :: '"' :: '"' :: rest =>
      (multiBasicRest false (rest.length + 1)
        (dropFirstNewline rest)).map fun e =>
          (String.ofList e.1, e.2)
  | '\'' :: '\'' :: '\'' :: rest =>
      (multiLiteralRest (rest.length + 1)
        (dropFirstNewline rest)).map fun e =>
          (String.ofList e.1, e.2)
  | cs => scanLineText cs

------------------------------------------------------------
-- Keys
------------------------------------------------------------

/- An ASCII letter or digit. -/
def isAlphanumeric
    (c : Char) : Bool :=
  let n := (Literal.asciiLower c).toNat
  Literal.isDigit c || (97 ≤ n && n ≤ 122)

/- A character that needs no quotes in a key. -/
def isBare
    (c : Char) : Bool :=
  isAlphanumeric c || c == '_' || c == '-'

/- One part of a key. -/
def scanKeyPart
    (cs : List Char) : Option (String × List Char) :=
  match cs.takeWhile isBare with
  | [] => scanLineText cs
  | bare => some (String.ofList bare, cs.dropWhile isBare)

/- Levels of nesting that a document may have. -/
def maxDepth : Nat := 79

/- A key of at most so many parts, with dots between. -/
def scanKeyParts : Nat → Scan (List String)
  | 0, _ => none
  | room + 1, cs => do
      let (part, rest) ← scanKeyPart (skipGap cs)
      match skipGap rest with
      | '.' :: rest => do
          let (parts, rest) ← scanKeyParts room rest
          some (part :: parts, rest)
      | rest => some ([part], rest)

/- A key. -/
def scanKey : Scan (List String) :=
  scanKeyParts maxDepth

end Toml

end DeviceHub
