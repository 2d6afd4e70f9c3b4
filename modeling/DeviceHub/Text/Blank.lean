/-
  White space, in the sense of the Unicode property
  `White_Space`, and the operations that depend on it.

  Key definitions include:
    * `Text.isSpace`
    * `Text.trim`
    * `Text.isBlank`
    * `Text.nonBlank?`
-/

namespace DeviceHub

namespace Text

------------------------------------------------------------
-- White Space
------------------------------------------------------------

/- The code points of the property `White_Space`. -/
def isSpace
    (c : Char) : Bool :=
  let n := c.toNat
  (9 ≤ n && n ≤ 13) || n == 32 || n == 0x85 || n == 0xA0 ||
    n == 0x1680 || (0x2000 ≤ n && n ≤ 0x200A) ||
    n == 0x2028 || n == 0x2029 || n == 0x202F ||
    n == 0x205F || n == 0x3000

------------------------------------------------------------
-- Trimming
------------------------------------------------------------

/- Drop the white space at both ends of a character list. -/
def trimChars
    (cs : List Char) : List Char :=
  ((cs.dropWhile isSpace).reverse.dropWhile isSpace).reverse

/- Drop the white space at both ends of a text. -/
def trim
    (s : String) : String :=
  String.ofList (trimChars s.toList)

/- A text is blank when it holds nothing but white space. -/
def isBlank
    (s : String) : Bool :=
  s.toList.all isSpace

/- The trimmed text, unless it is absent or blank. -/
def nonBlank?
    (s : Option String) : Option String :=
  s.bind fun s =>
    if isBlank s then none else some (trim s)

end Text

end DeviceHub
