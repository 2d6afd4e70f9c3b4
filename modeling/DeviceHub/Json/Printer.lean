import DeviceHub.Json.Value
import DeviceHub.Numeric.Shortest
import DeviceHub.Text.Quoted

/-
  The text of a JSON value.

  In texts, the quote, the backslash and the controls are
  escaped and every other character stands for itself.
  Numbers that are not finite become null.

  Key definitions include:
    * `Json.quote`
    * `Json.compact`
    * `Json.pretty`
-/

namespace DeviceHub

namespace Json

------------------------------------------------------------
-- Texts and Numbers
------------------------------------------------------------

/- The form of one character between quotes. -/
def escape
    (c : Char) : List Char :=
  let n := c.toNat
  if c == '"' then ['\\', '"']
  else if c == '\\' then ['\\', '\\']
  else if n == 8 then ['\\', 'b']
  else if n == 9 then ['\\', 't']
  else if n == 10 then ['\\', 'n']
  else if n == 12 then ['\\', 'f']
  else if n == 13 then ['\\', 'r']
  else if n < 32 then
    ['\\', 'u', '0', '0', Text.hexDigit (n / 16),
      Text.hexDigit (n % 16)]
  else [c]

/- A text between quotes. -/
def quote
    (s : String) : String :=
  String.ofList (['"'] ++ s.toList.flatMap escape ++ ['"'])

/- The text of a floating-point number. -/
def realText
    (x : Binary64) : String :=
  if x.isFinite then x.toText else "null"

/- The text of a truth value. -/
def boolText
    (b : Bool) : String :=
  if b then "true" else "false"

------------------------------------------------------------
-- Compact Text
------------------------------------------------------------

mutual

/- The text of a value, without white space. -/
def compact : Json → String
  | null => "null"
  | bool b => boolText b
  | int n => toString n
  | real x => realText x
  | text s => quote s
  | list items => "[" ++ compactItems items ++ "]"
  | record fields =>
      "\x7b" ++ compactFields fields ++ "\x7d"

/- The items of a list, with commas between. -/
def compactItems : List Json → String
  | [] => ""
  | [x] => compact x
  | x :: y :: rest =>
      compact x ++ "," ++ compactItems (y :: rest)

/- The fields of a record, with commas between. -/
def compactFields : List (String × Json) → String
  | [] => ""
  | [(k, x)] => quote k ++ ":" ++ compact x
  | (k, x) :: e :: rest =>
      quote k ++ ":" ++ compact x ++ "," ++
        compactFields (e :: rest)

end

------------------------------------------------------------
-- Indented Text
------------------------------------------------------------

/- The start of a line at a depth. -/
def newline
    (depth : Nat) : String :=
  "\n" ++ String.ofList (List.replicate (2 * depth) ' ')

mutual

/- The text of a value, one item or field to a line. -/
def prettyAt
    (depth : Nat) : Json → String
  | null => "null"
  | bool b => boolText b
  | int n => toString n
  | real x => realText x
  | text s => quote s
  | list [] => "[]"
  | list items =>
      "[" ++ prettyItems depth items ++ newline depth ++ "]"
  | record [] => "\x7b\x7d"
  | record fields =>
      "\x7b" ++ prettyFields depth fields ++
        newline depth ++ "\x7d"

/- The lines of a list. -/
def prettyItems
    (depth : Nat) : List Json → String
  | [] => ""
  | [x] => newline (depth + 1) ++ prettyAt (depth + 1) x
  | x :: y :: rest =>
      newline (depth + 1) ++ prettyAt (depth + 1) x ++ "," ++
        prettyItems depth (y :: rest)

/- The lines of a record. -/
def prettyFields
    (depth : Nat) : List (String × Json) → String
  | [] => ""
  | [(k, x)] =>
      newline (depth + 1) ++ quote k ++ ": " ++
        prettyAt (depth + 1) x
  | (k, x) :: e :: rest =>
      newline (depth + 1) ++ quote k ++ ": " ++
        prettyAt (depth + 1) x ++ "," ++
        prettyFields depth (e :: rest)

end

/- The indented text of a value. -/
def pretty
    (j : Json) : String :=
  prettyAt 0 j

end Json

end DeviceHub
