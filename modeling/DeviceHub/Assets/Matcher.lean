import DeviceHub.Assets.Asset
import DeviceHub.Text.Search

/-
  Criteria by which assets are searched.

  Criteria are compared in lower case.  Empty ones match all
  assets, a key and a value with an equals sign between them
  match a field or property, and any other text is looked
  for inside the text fields.

  Key definitions include:
    * `AssetMatcher`
    * `AssetMatcher.parse`
    * `AssetMatcher.accepts`
-/

namespace DeviceHub

namespace Asset

/- The texts of an asset that free text is looked for in. -/
def searchedTexts
    (a : Asset) : List String :=
  [a.id, a.name] ++
    match a.details with
    | .person userName email _ => userName :: email.toList
    | .hardware sku description => sku :: description.toList
    | .device sku description => sku :: description.toList
    | .location .. => []

/- Whether a text is a value, in lower case. -/
def hasValue
    (value candidate : String) : Bool :=
  Text.lowerCase candidate == value

/- Whether a property has a key and a value. -/
def hasProperty
    (a : Asset)
    (key value : String) : Bool :=
  a.properties.entries.any fun e =>
    hasValue key e.1 && hasValue value e.2

/-
  The values of a field that assets of the type have; other
  keys are left to the properties.
-/
def fieldValues?
    (a : Asset)
    (key : String) : Option (List String) :=
  match key, a.details with
  | "role", .person _ _ roles => some roles
  | "roles", .person _ _ roles => some roles
  | "id", _ => some [a.id]
  | "name", _ => some [a.name]
  | "type", _ => some [a.type.name]
  | "username", .person userName _ _ => some [userName]
  | "email", .person _ email _ => some email.toList
  | "sku", .hardware sku _ => some [sku]
  | "sku", .device sku _ => some [sku]
  | _, _ => none

/- Whether a field or property has a value. -/
def fieldIs
    (a : Asset)
    (key value : String) : Bool :=
  match a.fieldValues? key with
  | some values => values.any (hasValue value)
  | none => a.hasProperty key value

end Asset

/- Criteria that have been understood. -/
inductive AssetMatcher where
  | all
  | field (key value : String)
  | text (s : String)
  deriving DecidableEq, Inhabited, Repr

namespace AssetMatcher

/- Understand criteria. -/
def parse
    (criteria : String) : AssetMatcher :=
  let criteria := Text.lowerCase (Text.trim criteria)
  if criteria == "" then
    all
  else
    match Text.splitFirst? '=' criteria with
    | some (key, value) =>
        if Text.isBlank key then
          text criteria
        else
          field (Text.trim key) (Text.trim value)
    | none => text criteria

/- Whether criteria match an asset. -/
def accepts
    (m : AssetMatcher)
    (a : Asset) : Bool :=
  match m with
  | all => true
  | field key value => a.fieldIs key value
  | text s =>
      a.searchedTexts.any fun f =>
        Text.occursIn s (Text.lowerCase f)

end AssetMatcher

end DeviceHub
