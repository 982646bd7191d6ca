import MapBacked.Path

/-!
# Files

What a configuration is read from. A file system answers what stands at a path; all that matters
here is whether something can be read there as text, and why not.
-/

namespace MapBacked

/-- What stands at a path. A path is blocked when it leads on through something that is no
directory. -/
inductive Entry where
  | absent
  | blocked
  | directory
  | locked
  | file (content : ByteArray)

/-- Why there is no text to be read. -/
inductive ReadError where
  | notFound
  | notDirectory
  | isDirectory
  | denied
  | notText
deriving DecidableEq, Inhabited

def ReadError.message : ReadError → String
  | .notFound => "No such file or directory (os error 2)"
  | .notDirectory => "Not a directory (os error 20)"
  | .isDirectory => "Is a directory (os error 21)"
  | .denied => "Permission denied (os error 13)"
  | .notText => "stream did not contain valid UTF-8"

/-- What stands at every path. -/
structure FileSystem where
  entry : Path → Entry

namespace FileSystem

/-- Whether a file stands at the path, readable or not. -/
def isFile (fs : FileSystem) (p : Path) : Bool :=
  match fs.entry p with
  | .file _ | .locked => true
  | _ => false

def readEntry : Entry → Except ReadError String
  | .absent => .error .notFound
  | .blocked => .error .notDirectory
  | .directory => .error .isDirectory
  | .locked => .error .denied
  | .file content =>
    match String.fromUTF8? content with
    | some s => .ok s
    | none => .error .notText

def read (fs : FileSystem) (p : Path) : Except ReadError String := readEntry (fs.entry p)

/-- A file that holds a text is read as that text. -/
theorem read_of_file {fs : FileSystem} {p : Path} {text : String}
    (h : fs.entry p = .file text.toByteArray) : fs.read p = .ok text := by
  rw [read, h, readEntry, String.fromUTF8?, dif_pos text.isValidUTF8]
  rfl

end FileSystem

end MapBacked
