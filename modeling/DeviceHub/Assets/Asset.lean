import DeviceHub.Json.Reader
import DeviceHub.Text.Blank
import DeviceHub.Text.LowerCase

/-
  Assets: what devices can be assigned to.

  Key definitions include:
    * `AssetType`
    * `AssetType.ofText`
    * `AssetDetails`
    * `Asset`
    * `Asset.naturalSort`
-/

namespace DeviceHub

------------------------------------------------------------
-- Types
------------------------------------------------------------

/- What an asset is. -/
inductive AssetType where
  | person
  | hardware
  | device
  | location
  deriving DecidableEq, Inhabited, Repr

namespace AssetType

/- All types. -/
def all : List AssetType :=
  [person, hardware, device, location]

/- The name of a type. -/
def name : AssetType → String
  | person => "person"
  | hardware => "hardware"
  | device => "device"
  | location => "location"

/- The word for a type in descriptions. -/
def word : AssetType → String
  | person => "Person"
  | hardware => "Hardware"
  | device => "Device"
  | location => "Location"

/- The type with a name, in any case and with blanks around. -/
def ofText
    (s : String) : Except String AssetType :=
  let key := Text.lowerCase (Text.trim s)
  match all.find? (·.name == key) with
  | some t => .ok t
  | none => .error s!"Unknown asset type: {key}"

/- The JSON form. -/
def toJson
    (t : AssetType) : Json :=
  .text t.name

/- Read the JSON form. -/
def reader : Json.Reader AssetType :=
  .name (all.map fun t => (t.name, t))

end AssetType

------------------------------------------------------------
-- Details
------------------------------------------------------------

/- What there is to know of an asset of each type. -/
inductive AssetDetails where
  | person
      (userName : String)
      (emailAddress : Option String)
      (roles : List String)
  | hardware
      (sku : String)
      (description : Option String)
  | device
      (sku : String)
      (description : Option String)
  | location
      (latitude longitude : Binary64)
      (elevation : Option Binary64)
  deriving DecidableEq, Inhabited, Repr

namespace AssetDetails

/- The type that details belong to. -/
def type : AssetDetails → AssetType
  | person .. => .person
  | hardware .. => .hardware
  | device .. => .device
  | location .. => .location

/- The fields of the JSON form, the type among them. -/
def fields
    (d : AssetDetails) : List (String × Json) :=
  ("type", d.type.toJson) ::
    match d with
    | person userName emailAddress roles =>
        [("userName", .text userName),
          ("emailAddress", .text? emailAddress),
          ("roles", .texts roles)]
    | hardware sku description =>
        [("sku", .text sku),
          ("description", .text? description)]
    | device sku description =>
        [("sku", .text sku),
          ("description", .text? description)]
    | location latitude longitude elevation =>
        [("latitude", .real latitude),
          ("longitude", .real longitude),
          ("elevation", .ofOption .real elevation)]

/- The JSON form. -/
def toJson
    (d : AssetDetails) : Json :=
  .record d.fields

open Json in
/- Read the details that stand beside a tag. -/
def ofTagged?
    (p : Place)
    (t : Members.Tagged) : Option AssetDetails :=
  match t.tag with
  | "person" => do
      let m ← t.members? ["userName", "emailAddress", "roles"]
        p
      let userName ← m.required "userName" .text
      let email ← m.optionalDefault "emailAddress" .text
      let roles ← m.withDefault "roles" [] (.list .text)
      some (person userName email roles)
  | "hardware" => do
      let m ← t.members? ["sku", "description"] p
      let sku ← m.required "sku" .text
      let description ← m.optionalDefault "description" .text
      some (hardware sku description)
  | "device" => do
      let m ← t.members? ["sku", "description"] p
      let sku ← m.required "sku" .text
      let description ← m.optionalDefault "description" .text
      some (device sku description)
  | "location" => do
      let m ← t.members? ["latitude", "longitude", "elevation"]
        p
      let latitude ← m.required "latitude" .real
      let longitude ← m.required "longitude" .real
      let elevation ← m.optionalDefault "elevation" .real
      some (location latitude longitude elevation)
  | _ => none

/- The names that tags may have. -/
def tags : List String :=
  AssetType.all.map AssetType.name

open Json in
/- Read the JSON form. -/
def reader : Reader AssetDetails :=
  fun p d => do
    let t ← Members.tagged? "type" tags p d
    ofTagged? p t

end AssetDetails

------------------------------------------------------------
-- Assets
------------------------------------------------------------

/- Something a device can be assigned to. -/
structure Asset where
  id : String
  name : String
  imageUrl : Option String
  properties : Dict String
  details : AssetDetails
  deriving Inhabited

namespace Asset

/- An asset without image and properties. -/
def new
    (id name : String)
    (details : AssetDetails) : Asset :=
  ⟨id, name, none, .empty, details⟩

/- What an asset is. -/
def type
    (a : Asset) : AssetType :=
  a.details.type

/- The JSON form; the details stand among the fields. -/
def toJson
    (a : Asset) : Json :=
  .record
    ([("id", .text a.id), ("name", .text a.name),
      ("imageUrl", .text? a.imageUrl),
      ("properties", .textDict a.properties)] ++
      a.details.fields)

open Json in
/- Read the JSON form. -/
def reader : Reader Asset :=
  fun p d => do
    let (m, rest) ← Members.flattened?
      ["id", "name", "imageUrl", "properties"] p d
    let id ← m.required "id" .text
    let name ← m.required "name" .text
    let imageUrl ← m.optionalDefault "imageUrl" .text
    let properties ← m.withDefault "properties" .empty
      .textDict
    let t ← Members.taggedFields? "type" AssetDetails.tags
      p.hold rest
    let details ← AssetDetails.ofTagged? p.hold t
    some ⟨id, name, imageUrl, properties, details⟩

/- Whether an asset comes no later: by name, then by id. -/
def naturalLe
    (a b : Asset) : Bool :=
  if a.name = b.name then a.id ≤ b.id else a.name < b.name

/- Assets in natural order. -/
def naturalSort
    (assets : List Asset) : List Asset :=
  assets.mergeSort naturalLe

end Asset

end DeviceHub
