import DeviceHub.Json.Token

/-
  JSON documents as they are written.

  A document keeps every field of a record in order,
  repeated ones included, and its texts and numbers as
  tokens.  It is put together from the tokens with an
  explicit stack of the lists and records that are open, so
  any depth can be read.

  Key definitions include:
    * `Json.Document`
    * `Json.Document.isSound`
    * `Json.Document.parse?`
-/

namespace DeviceHub

namespace Json

------------------------------------------------------------
-- Documents
------------------------------------------------------------

/- A JSON text of correct form. -/
inductive Document where
  | null
  | bool (b : Bool)
  | number (n : RawNumber)
  | text (t : RawText)
  | list (items : List Document)
  | record (fields : List (RawText × Document))
  deriving Inhabited

namespace Document

mutual

/-
  Whether every text is valid, every number in range, and no
  value nested more than `room` levels deep.
-/
def isSound
    (room : Nat) : Document → Bool
  | null => true
  | bool _ => true
  | number n => n.integer?.isSome || n.real?.isSome
  | text t => t.decode?.isSome
  | list items =>
      match room with
      | 0 => false
      | room + 1 => areSound room items
  | record fields =>
      match room with
      | 0 => false
      | room + 1 => fieldsAreSound room fields

/- All items of a list. -/
def areSound
    (room : Nat) : List Document → Bool
  | [] => true
  | d :: rest => isSound room d && areSound room rest

/- All fields of a record. -/
def fieldsAreSound
    (room : Nat) : List (RawText × Document) → Bool
  | [] => true
  | (k, d) :: rest =>
      k.decode?.isSome && isSound room d &&
        fieldsAreSound room rest

end

------------------------------------------------------------
-- Reading
------------------------------------------------------------

/-
  A list or record that is open, with the parts read so far,
  latest first; a record waits for the value of its key.
-/
inductive Frame where
  | list (read : List Document)
  | record
      (read : List (RawText × Document))
      (key : RawText)

/- What may come next. -/
inductive Expect where
  | value
  | itemOrClose
  | keyOrClose
  | key (read : List (RawText × Document))
  | colon (read : List (RawText × Document)) (key : RawText)
  | afterValue (d : Document)

/- A value has been read inside the open frames. -/
def place
    (d : Document)
    (frames : List Frame) : List Frame × Expect :=
  (frames, .afterValue d)

/- Read one token that begins a value. -/
def beginValue
    (frames : List Frame)
    (t : Token) : Option (List Frame × Expect) :=
  match t with
  | .null => some (place null frames)
  | .bool b => some (place (bool b) frames)
  | .number n => some (place (number n) frames)
  | .text t => some (place (text t) frames)
  | .openList => some (.list [] :: frames, .itemOrClose)
  | .openRecord => some (frames, .keyOrClose)
  | _ => none

/- Read one token after a complete value. -/
def afterValue
    (frames : List Frame)
    (d : Document)
    (t : Token) : Option (List Frame × Expect) :=
  match frames, t with
  | .list read :: rest, .comma =>
      some (.list (d :: read) :: rest, .value)
  | .list read :: rest, .closeList =>
      some (place (list (d :: read).reverse) rest)
  | .record read k :: rest, .comma =>
      some (rest, .key ((k, d) :: read))
  | .record read k :: rest, .closeRecord =>
      some (place (record ((k, d) :: read).reverse) rest)
  | _, _ => none

/- Read one token. -/
def readToken
    (frames : List Frame)
    (expect : Expect)
    (t : Token) : Option (List Frame × Expect) :=
  match expect with
  | .value => beginValue frames t
  | .itemOrClose =>
      match frames, t with
      | .list _ :: rest, .closeList =>
          some (place (list []) rest)
      | frames, t => beginValue frames t
  | .keyOrClose =>
      match t with
      | .closeRecord => some (place (record []) frames)
      | .text k => some (frames, .colon [] k)
      | _ => none
  | .key read =>
      match t with
      | .text k => some (frames, .colon read k)
      | _ => none
  | .colon read k =>
      match t with
      | .colon => some (.record read k :: frames, .value)
      | _ => none
  | .afterValue d => afterValue frames d t

/- Read the remaining tokens. -/
def readAll
    (frames : List Frame)
    (expect : Expect) : List Token → Option Document
  | [] =>
      match frames, expect with
      | [], .afterValue d => some d
      | _, _ => none
  | t :: rest =>
      match readToken frames expect t with
      | some (frames, expect) => readAll frames expect rest
      | none => none

/- The document that bytes spell, with nothing after it. -/
def parse?
    (bytes : List UInt8) : Option Document :=
  (tokens? bytes).bind (readAll [] .value)

end Document

end Json

end DeviceHub
