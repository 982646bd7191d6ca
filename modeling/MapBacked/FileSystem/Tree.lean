import MapBacked.FileSystem
import MapBacked.NameMap

/-!
# Directory trees

A file system held as a tree. A path is followed component by component: an empty component and a
single dot stay where they are, two dots go up, and every component needs a directory to start from,
so that a slash behind the name of a file leads nowhere. The root is its own parent. A path that
does not start at the root starts in the working directory; the empty path names nothing.
-/

namespace MapBacked

/-- A file or a directory. -/
inductive Node where
  | file (content : ByteArray)
  | directory (entries : List (String × Node))

namespace Node

instance : Inhabited Node := ⟨.directory []⟩

/-- The entries of a directory; a file has none. -/
def entries : Node → List (String × Node)
  | .file _ => []
  | .directory entries => entries

/-- Puts content under a chain of names, or an empty directory where there is no content. Missing
directories come into being on the way, and what stood at the end is replaced unless it is a
directory that stays one. -/
def put (content : Option ByteArray) : List String → Node → Node
  | [], here =>
    match content with
    | some bytes => .file bytes
    | none => .directory here.entries
  | name :: rest, here =>
    let inner := (NameMap.findEntry name here.entries).getD (.directory [])
    .directory (NameMap.insertEntry name (put content rest inner) here.entries)

/-- What stands at a place. -/
def entry : Node → Entry
  | .file content => .file content
  | .directory _ => .directory

/-- Follows components from a place whose ancestors are given, the parent first. -/
def follow (ancestors : List Node) (here : Node) : List String → Entry
  | [] => here.entry
  | name :: rest =>
    match here with
    | .file _ => .blocked
    | .directory entries =>
      if name = "" ∨ name = "." then follow ancestors here rest
      else if name = ".." then
        match ancestors with
        -- the root is its own parent
        | [] => follow [] here rest
        | parent :: above => follow above parent rest
      else
        match NameMap.findEntry name entries with
        | some inner => follow (here :: ancestors) inner rest
        | none => .absent

end Node

/-- The components of a path, the empty ones included. -/
def Path.components (p : Path) : List String := p.text.splitOn "/"

/-- The file system of a tree, with a working directory. -/
def FileSystem.ofTree (root : Node) (workingDirectory : Path) : FileSystem where
  entry p :=
    if p.text.isEmpty then .absent
    else
      let components :=
        if p.isAbsolute then p.components else workingDirectory.components ++ p.components
      root.follow [] components

end MapBacked
