import DeviceHub.Toml.Line

/-
  Reading TOML documents.

  Key definitions include:
    * `Toml.Draft.addLine?`
    * `Toml.parse?`
-/

namespace DeviceHub

namespace Toml

/- Take a line into a document. -/
def Draft.addLine?
    (d : Draft) : Line → Option Draft
  | .empty => some d
  | .pair key v => d.addPair? key v
  | .header key => d.openTable? key
  | .itemHeader key => d.openItem? key

/- Take all lines into a document. -/
def addLines? : Nat → Draft → List Char → Option Draft
  | _, d, [] => some d
  | 0, _, _ => none
  | fuel + 1, d, cs => do
      let (line, rest) ← scanLine cs
      let d ← d.addLine? line
      addLines? fuel d rest

/- A mark of byte order may open a document. -/
def dropMark
    (cs : List Char) : List Char :=
  match cs with
  | '\ufeff' :: rest => rest
  | cs => cs

/- The value of a document. -/
def parse?
    (s : String) : Option Toml :=
  let cs := dropMark s.toList
  (addLines? (cs.length + 1) .empty cs).map Draft.toToml

end Toml

end DeviceHub
