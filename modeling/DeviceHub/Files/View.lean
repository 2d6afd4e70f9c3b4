import DeviceHub.Files.Path

/-
  What can be seen of files, and a tree of files held in
  memory.

  A path is followed part by part: each part before the last
  has to name a directory.

  Key definitions include:
    * `FileEntry`
    * `FileView`
    * `FileTree`
    * `FileTree.view`
    * `FileTree.viewFrom`
    * `FileTree.write`
    * `FileTree.delete`
-/

namespace DeviceHub

------------------------------------------------------------
-- Views
------------------------------------------------------------

/- What a path names. -/
inductive FileEntry where
  | missing
  | directory
  | content (bytes : List UInt8)
  deriving DecidableEq, Inhabited, Repr

/- The bytes of a file. -/
def FileEntry.bytes? : FileEntry → Option (List UInt8)
  | content bytes => some bytes
  | _ => none

/- What every path names. -/
abbrev FileView :=
  String → FileEntry

------------------------------------------------------------
-- Trees
------------------------------------------------------------

/- Directories and files, each under the parts of its path. -/
structure FileTree where
  directories : List (List String)
  files : List (List String × List UInt8)
  deriving Inhabited

namespace FileTree

/- A tree with one empty directory. -/
def ofDirectory
    (path : String) : FileTree :=
  ⟨[Path.parts path], []⟩

/- Whether parts name a directory. -/
def isDirectory
    (t : FileTree)
    (parts : List String) : Bool :=
  parts.isEmpty || t.directories.contains parts

/- Follow the parts of a path from a directory. -/
def follow
    (t : FileTree)
    (dir : List String) : List String → FileEntry
  | [] => .directory
  | part :: rest =>
      if Path.isIdle part then
        t.follow dir rest
      else if part == ".." then
        t.follow dir.dropLast rest
      else
        let next := dir ++ [part]
        if t.isDirectory next then
          t.follow next rest
        else
          match rest, t.files.lookup next with
          | [], some bytes => .content bytes
          | _, _ => .missing

/- What paths name in a tree. -/
def view
    (t : FileTree) : FileView :=
  fun path =>
    if path == "" || Path.isAbsolute path then
      .missing
    else
      t.follow [] (Path.parts path)

/- What paths name, as seen from a directory. -/
def viewFrom
    (t : FileTree)
    (dir : String) : FileView :=
  fun path =>
    if path == "" then .missing else t.view (Path.join dir path)

/- The directories above the parts of a path. -/
def above
    (parts : List String) : List (List String) :=
  (List.range parts.length).map fun n => parts.take n

/- Write a file, and make the directories above it. -/
def write
    (t : FileTree)
    (path : String)
    (bytes : List UInt8) : FileTree :=
  let parts := (Path.parts path).filter (!Path.isIdle ·)
  ⟨above parts ++ t.directories, (parts, bytes) :: t.files⟩

/- Delete a file; the directories above it remain. -/
def delete
    (t : FileTree)
    (path : String) : FileTree :=
  let parts := (Path.parts path).filter (!Path.isIdle ·)
  { t with files := t.files.filter (·.1 != parts) }

end FileTree

end DeviceHub
