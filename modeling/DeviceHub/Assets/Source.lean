import DeviceHub.Assets.Error
import DeviceHub.Assets.Matcher
import DeviceHub.Files.View

/-
  Where the assets of a module come from: a fixed list, or a
  file that is read again at every reload.

  A reload that fails leaves the assets as they were.

  Key definitions include:
    * `AssetSource`
    * `AssetSource.reload`
    * `AssetSource.find?`
    * `AssetSource.search`
-/

namespace DeviceHub

/- A source of assets, with those it has at the moment. -/
inductive AssetSource where
  | fixed (assets : List Asset)
  | file (path : String) (assets : List Asset)
  deriving Inhabited

namespace AssetSource

/- A file that has not been read. -/
def ofFile
    (path : String) : AssetSource :=
  file path []

/- The assets at the moment. -/
def assets : AssetSource → List Asset
  | fixed assets => assets
  | file _ assets => assets

/- The first id that occurs a second time. -/
def repeatedId?
    (seen : List String) : List Asset → Option String
  | [] => none
  | a :: rest =>
      if seen.contains a.id then
        some a.id
      else
        repeatedId? (a.id :: seen) rest

/- The assets that a file lists. -/
def load
    (files : FileView)
    (path : String) : Except AssetError (List Asset) :=
  match (files path).bytes? with
  | none => .error (.source s!"Unable to read {path}")
  | some bytes =>
      match (Json.Reader.list Asset.reader).ofBytes bytes with
      | none => .error .invalidData
      | some assets =>
          match repeatedId? [] assets with
          | some id =>
              .error (.source
                s!"Duplicate asset id '{id}' in {path}")
          | none => .ok assets

/- Read the assets again. -/
def reload
    (s : AssetSource)
    (files : FileView) : Except AssetError AssetSource :=
  match s with
  | fixed assets => .ok (fixed assets)
  | file path _ => (load files path).map (file path)

/- The asset with an id. -/
def find?
    (s : AssetSource)
    (id : String) : Option Asset :=
  s.assets.find? (·.id == id)

/- The assets that criteria match, in the source's order. -/
def search
    (s : AssetSource)
    (m : AssetMatcher) : List Asset :=
  s.assets.filter m.accepts

end AssetSource

end DeviceHub
