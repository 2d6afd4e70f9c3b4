import DeviceHub.Problem

/-
  What can go wrong with assets.

  Key definitions include:
    * `AssetError`
    * `AssetError.message`
    * `AssetError.problem`
-/

namespace DeviceHub

/- Errors of asset modules and their sources. -/
inductive AssetError where
  | unknownModule (id : String)
  | duplicateModule (id : String)
  | source (detail : String)
  | io (detail : String)
  | invalidData
  | other (detail : String)
  deriving DecidableEq, Inhabited, Repr

namespace AssetError

/- The name of the cause. -/
def cause : AssetError → String
  | unknownModule _ => "UnknownModule"
  | duplicateModule _ => "DuplicateModule"
  | source _ => "Source"
  | io _ => "Io"
  | invalidData => "Parse"
  | other _ => "Other"

/- The message. -/
def message : AssetError → String
  | unknownModule id => s!"Invalid asset module id: {id}"
  | duplicateModule id =>
      s!"Asset module already registered: {id}"
  | source detail => s!"Asset source error: {detail}"
  | io detail => s!"I/O error: {detail}"
  | invalidData => "Invalid asset data"
  | other detail => s!"Asset error: {detail}"

/- The code. -/
def code : AssetError → ErrorCode
  | unknownModule _ => .unknownAssetModule
  | duplicateModule _ => .duplicateAssetModule
  | source _ => .assetSourceFailed
  | io _ => .assetSourceFailed
  | invalidData => .assetSourceFailed
  | other _ => .internal

/- The error as callers see it. -/
def problem
    (e : AssetError) : Problem :=
  .of e.cause e.message e.code

end AssetError

end DeviceHub
