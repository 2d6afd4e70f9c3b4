import DeviceHub.Codec.CommandFrame
import DeviceHub.Codec.Envelope
import DeviceHub.Codec.JsonBatch

/-
  The decoders and encoders in use, by the kind of payload
  or command they serve.

  Key definitions include:
    * `Decoder`
    * `Decoding`
    * `Encoder`
    * `CodecRegistry`
    * `CodecRegistry.standard`
    * `CodecRegistry.decode`
    * `CodecRegistry.encode`
-/

namespace DeviceHub

------------------------------------------------------------
-- Decoders and Encoders
------------------------------------------------------------

/-
  A way to decode payloads, under a name: one of those below
  or any other.
-/
structure Decoder where
  name : String
  decode : List UInt8 → Context →
    Except CodecError (List DecodedEvent)

namespace Decoder

/- Lists of requests as JSON. -/
def jsonBatch : Decoder :=
  ⟨"json-batch", JsonBatch.decode⟩

/- Single messages as bytes. -/
def binary : Decoder :=
  ⟨"binary", Envelope.decode⟩

/- Payloads that are looked at only; no event is in them. -/
def debug : Decoder :=
  ⟨"debug", fun _ _ => .ok []⟩

/- The decoders that are there from the beginning. -/
def all : List Decoder :=
  [jsonBatch, binary, debug]

end Decoder

/-
  What becomes of a payload that a decoder is handed: its own
  work, or anything else that tells the decoders apart.
-/
abbrev Decoding :=
  Decoder → List UInt8 → Context →
    Except CodecError (List DecodedEvent)

/-
  A way to encode commands as bytes, under a name.  The
  context says where the bytes are to go.
-/
structure Encoder where
  name : String
  encode : CommandExecution → Context →
    Except CodecError (List UInt8)

namespace Encoder

/- A record as JSON. -/
def json : Encoder :=
  ⟨"json", fun e _ => e.toJsonBytes⟩

/- A frame of bytes. -/
def binary : Encoder :=
  ⟨"binary", fun e _ => e.toFrameBytes⟩

/- The encoders that are there from the beginning. -/
def all : List Encoder :=
  [json, binary]

end Encoder

------------------------------------------------------------
-- Registries
------------------------------------------------------------

/- Decoders and encoders by kind. -/
structure CodecRegistry where
  decoders : Dict Decoder
  encoders : Dict Encoder
  deriving Inhabited

namespace CodecRegistry

/- The registry without entries. -/
def empty : CodecRegistry :=
  ⟨.empty, .empty⟩

/- Every decoder and encoder under its own name. -/
def standard : CodecRegistry :=
  ⟨.ofList (Decoder.all.map fun d => (d.name, d)),
    .ofList (Encoder.all.map fun c => (c.name, c))⟩

/- Add a decoder for a kind that has none yet. -/
def addDecoder
    (r : CodecRegistry)
    (kind : String)
    (d : Decoder) : Except CodecError CodecRegistry :=
  if r.decoders.contains kind then
    .error (.configuration
      s!"Decoder already registered for payload kind '{kind}'")
  else
    .ok { r with decoders := r.decoders.insert kind d }

/- Add an encoder for a kind that has none yet. -/
def addEncoder
    (r : CodecRegistry)
    (kind : String)
    (c : Encoder) : Except CodecError CodecRegistry :=
  if r.encoders.contains kind then
    .error (.configuration
      s!"Encoder already registered for command kind '{kind}'")
  else
    .ok { r with encoders := r.encoders.insert kind c }

/- What is wrong with a kind that has no decoder. -/
def noDecoder
    (kind : String) : String :=
  s!"No decoder registered for payload kind '{kind}'"

/- Decode a payload of a kind. -/
def decode
    (r : CodecRegistry)
    (kind : String)
    (payload : List UInt8)
    (context : Context) :
    Except CodecError (List DecodedEvent) :=
  match r.decoders.get? kind with
  | some d => d.decode payload context
  | none => .error (.configuration (noDecoder kind))

/- Encode a command for a kind. -/
def encode
    (r : CodecRegistry)
    (kind : String)
    (e : CommandExecution)
    (context : Context := .empty) :
    Except CodecError (List UInt8) :=
  match r.encoders.get? kind with
  | some c => c.encode e context
  | none =>
      .error (.configuration
        s!"No encoder registered for command kind '{kind}'")

/- A description for diagnosis. -/
def describe
    (r : CodecRegistry) : String :=
  "CodecRegistry \x7b decoders: " ++
    Text.quotedList r.decoders.keys ++ ", encoders: " ++
    Text.quotedList r.encoders.keys ++ " \x7d"

end CodecRegistry

end DeviceHub
