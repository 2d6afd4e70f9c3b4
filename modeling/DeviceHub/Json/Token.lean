import DeviceHub.Numeric.Binary64
import DeviceHub.Numeric.Word
import DeviceHub.Text.Quoted

/-
  Tokens of a JSON text, read from its bytes.

  A text token keeps the bytes and number escapes between
  its quotes, and a number token its sign, leading digits
  and exponent, so that a value which is skipped is checked
  for form only: whether the bytes are valid or the number
  in range is asked when a token is put to use.

  Key definitions include:
    * `Json.RawText`
    * `Json.RawText.decode?`
    * `Json.RawNumber`
    * `Json.RawNumber.ofBytes?`
    * `Json.Token`
    * `Json.tokens?`
-/

namespace DeviceHub

namespace Json

------------------------------------------------------------
-- Texts
------------------------------------------------------------

/- A byte of a text, or sixteen bits given by an escape. -/
inductive TextUnit where
  | byte (b : UInt8)
  | escape (u : UInt16)
  deriving DecidableEq, Inhabited

/- What stands between two quotes. -/
abbrev RawText :=
  List TextUnit

/- The text of bytes in UTF-8, if they are valid. -/
def utf8?
    (bytes : List UInt8) : Option String :=
  String.fromUTF8? ⟨bytes.toArray⟩

/- The bytes of a text in UTF-8. -/
def utf8
    (s : String) : List UInt8 :=
  s.toUTF8.toList

/- Bits that begin a pair of escapes. -/
def isHighSurrogate
    (u : UInt16) : Bool :=
  0xD800 ≤ u.toNat && u.toNat ≤ 0xDBFF

/- Bits that end a pair of escapes. -/
def isLowSurrogate
    (u : UInt16) : Bool :=
  0xDC00 ≤ u.toNat && u.toNat ≤ 0xDFFF

/-
  The bytes of a text, each escape replaced by its
  character; escapes outside the basic plane come in pairs.
-/
def RawText.bytes? : RawText → Option (List UInt8)
  | [] => some []
  | .byte b :: rest => (bytes? rest).map (b :: ·)
  | .escape u :: rest =>
      if isLowSurrogate u then
        none
      else if isHighSurrogate u then
        match rest with
        | .escape v :: rest =>
            if isLowSurrogate v then
              let n := 0x10000 +
                (u.toNat - 0xD800) * 0x400 +
                (v.toNat - 0xDC00)
              (bytes? rest).map
                (String.utf8EncodeChar (Char.ofNat n) ++ ·)
            else
              none
        | _ => none
      else
        (bytes? rest).map
          (String.utf8EncodeChar (Char.ofNat u.toNat) ++ ·)

/- The text, if its bytes and escapes are valid. -/
def RawText.decode?
    (t : RawText) : Option String :=
  t.bytes?.bind utf8?

------------------------------------------------------------
-- Numbers
------------------------------------------------------------

/-
  A number as it is read: as many of its digits as fit into
  64 bits, the power of ten that they are to be scaled by,
  and whether all digits fit and there was neither point nor
  exponent.
-/
structure RawNumber where
  negative : Bool
  significand : Nat
  scale : Int
  whole : Bool
  deriving DecidableEq, Inhabited

/- A decimal digit. -/
def isDigit
    (b : UInt8) : Bool :=
  48 ≤ b.toNat && b.toNat ≤ 57

/- The value of a run of digits. -/
def digitsValue
    (bs : List UInt8) : Nat :=
  bs.foldl (fun n b => 10 * n + (b.toNat - 48)) 0

/-
  Append digits to a number up to the first one that makes
  it too large for 64 bits; that digit and those after it
  are left.
-/
def takeDigits
    (n : Nat) : List UInt8 → Nat × List UInt8
  | [] => (n, [])
  | b :: rest =>
      let next := 10 * n + (b.toNat - 48)
      if next < Word.count 64 then
        takeDigits next rest
      else
        (n, b :: rest)

/- An exponent: its mark, an optional sign, digits. -/
def exponent?
    (bs : List UInt8) : Option Int :=
  let number? := fun (ds : List UInt8) =>
    if !ds.isEmpty && ds.all isDigit then
      some (Int.ofNat (digitsValue ds))
    else
      none
  match bs with
  | 43 :: ds => number? ds
  | 45 :: ds => (number? ds).map fun n => -n
  | ds => number? ds

/-
  What follows the digits before and after the point.  Every
  digit left before the point scales up.  The digits after
  it continue the significand, each that is taken scaling
  down, and those left count for nothing.
-/
def RawNumber.finish?
    (negative : Bool)
    (whole fraction : List UInt8)
    (rest : List UInt8) : Option RawNumber :=
  let (n, spare) := takeDigits 0 whole
  let (n, unread) := takeDigits n fraction
  let scale := Int.ofNat spare.length -
    Int.ofNat (fraction.length - unread.length)
  match rest with
  | [] =>
      some ⟨negative, n, scale,
        spare.isEmpty && fraction.isEmpty⟩
  | mark :: e =>
      if mark == 101 || mark == 69 then
        (exponent? e).map fun e =>
          ⟨negative, n, scale + e, false⟩
      else
        none

/- The number that bytes spell, zeros in front refused. -/
def RawNumber.ofBytes?
    (bs : List UInt8) : Option RawNumber :=
  let (negative, bs) :=
    match bs with
    | 45 :: rest => (true, rest)
    | bs => (false, bs)
  let whole := bs.takeWhile isDigit
  let leadingZero := whole.length > 1 && whole.head? == some 48
  if whole.isEmpty || leadingZero then
    none
  else
    match bs.dropWhile isDigit with
    | 46 :: rest =>
        let fraction := rest.takeWhile isDigit
        if fraction.isEmpty then
          none
        else
          finish? negative whole fraction
            (rest.dropWhile isDigit)
    | rest => finish? negative whole [] rest

/-
  The integer that a number is: it has neither point nor
  exponent, fits in 64 bits, and is no negative zero.
-/
def RawNumber.integer?
    (n : RawNumber) : Option Int :=
  if !n.whole || (n.negative && n.significand == 0) then
    none
  else
    let v :=
      if n.negative then -Int.ofNat n.significand
      else Int.ofNat n.significand
    if Word.least 64 ≤ v && v < Int.ofNat (Word.count 64) then
      some v
    else
      none

/-
  The floating-point number, if it is in range.  Significand
  and power of ten are rounded apart, so that the result can
  miss the nearest number by a last place.
-/
def RawNumber.real?
    (n : RawNumber) : Option Binary64 :=
  (Binary64.scale? (Binary64.ofRatio n.significand 1)
    n.scale).map (Binary64.ofParts n.negative)

------------------------------------------------------------
-- Tokens
------------------------------------------------------------

/- The smallest parts of a JSON text. -/
inductive Token where
  | openList
  | closeList
  | openRecord
  | closeRecord
  | comma
  | colon
  | null
  | bool (b : Bool)
  | number (n : RawNumber)
  | text (t : RawText)
  deriving DecidableEq, Inhabited

/- Where the reader of tokens stands. -/
inductive Scan where
  | between
  | inNumber (read : List UInt8)
  | inWord (read : List UInt8)
  | inText (read : RawText)
  | inEscape (read : RawText)
  | inHex (read : RawText) (count value : Nat)
  deriving Inhabited

/- The space, tab, line feed and carriage return. -/
def isJsonSpace
    (b : UInt8) : Bool :=
  b == 32 || b == 9 || b == 10 || b == 13

/- Bytes that may stand in a number. -/
def isNumberByte
    (b : UInt8) : Bool :=
  isDigit b || b == 43 || b == 45 || b == 46 || b == 101 ||
    b == 69

/- Lower-case letters. -/
def isLetter
    (b : UInt8) : Bool :=
  97 ≤ b.toNat && b.toNat ≤ 122

/- A token of one byte. -/
def punctuation?
    (b : UInt8) : Option Token :=
  match b with
  | 91 => some .openList
  | 93 => some .closeList
  | 123 => some .openRecord
  | 125 => some .closeRecord
  | 44 => some .comma
  | 58 => some .colon
  | _ => none

/- The three words of the language. -/
def word?
    (read : List UInt8) : Option Token :=
  if read == utf8 "null" then some .null
  else if read == utf8 "true" then some (.bool true)
  else if read == utf8 "false" then some (.bool false)
  else none

/- The byte that a letter after a backslash stands for. -/
def simpleEscape?
    (b : UInt8) : Option UInt8 :=
  match b with
  | 34 => some 34
  | 92 => some 92
  | 47 => some 47
  | 98 => some 8
  | 102 => some 12
  | 110 => some 10
  | 114 => some 13
  | 116 => some 9
  | _ => none

/- Read one byte that does not continue a token. -/
def beginToken
    (done : List Token)
    (b : UInt8) : Option (List Token × Scan) :=
  if isJsonSpace b then
    some (done, .between)
  else if b == 34 then
    some (done, .inText [])
  else if isDigit b || b == 45 then
    some (done, .inNumber [b])
  else if isLetter b then
    some (done, .inWord [b])
  else
    (punctuation? b).map fun t => (t :: done, .between)

/-
  Read one byte.  Tokens already complete, and the parts of
  the current one, are kept latest first.
-/
def scanByte
    (done : List Token)
    (state : Scan)
    (b : UInt8) : Option (List Token × Scan) :=
  match state with
  | .between => beginToken done b
  | .inNumber read =>
      if isNumberByte b then
        some (done, .inNumber (b :: read))
      else do
        let n ← RawNumber.ofBytes? read.reverse
        beginToken (.number n :: done) b
  | .inWord read =>
      if isLetter b then
        some (done, .inWord (b :: read))
      else do
        let t ← word? read.reverse
        beginToken (t :: done) b
  | .inText read =>
      if b == 34 then
        some (.text read.reverse :: done, .between)
      else if b == 92 then
        some (done, .inEscape read)
      else if b.toNat < 32 then
        none
      else
        some (done, .inText (.byte b :: read))
  | .inEscape read =>
      if b == 117 then
        some (done, .inHex read 0 0)
      else
        (simpleEscape? b).map fun c =>
          (done, .inText (.byte c :: read))
  | .inHex read count value =>
      (Text.hexValue? b.toNat).map fun d =>
        let value := value * 16 + d
        if count == 3 then
          (done, .inText (.escape (UInt16.ofNat value) :: read))
        else
          (done, .inHex read (count + 1) value)

/- Read the remaining bytes. -/
def scanAll
    (done : List Token)
    (state : Scan) : List UInt8 → Option (List Token)
  | [] =>
      match state with
      | .between => some done.reverse
      | .inNumber read =>
          (RawNumber.ofBytes? read.reverse).map fun n =>
            (Token.number n :: done).reverse
      | .inWord read =>
          (word? read.reverse).map fun t =>
            (t :: done).reverse
      | _ => none
  | b :: rest =>
      match scanByte done state b with
      | some (done, state) => scanAll done state rest
      | none => none

/- The tokens of a text. -/
def tokens?
    (bytes : List UInt8) : Option (List Token) :=
  scanAll [] .between bytes

end Json

end DeviceHub
