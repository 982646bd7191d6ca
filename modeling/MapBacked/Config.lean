import MapBacked.FileSystem
import MapBacked.Property.Table
import MapBacked.Toml.Basic

/-!
# Configuration

A configuration adds marker names to the built-in ones and may name a class template of its own.
It is read from a TOML document with the sections `markers` and `template`. Sections and their
fields may be left out; names that are no sections or fields are refused, so that a misspelt one
does not pass unnoticed. A section may also be a list of its fields in order. Reading the document
itself is the business of a decoder.

A template path is meant from the directory of the file it stands in, so loading a file anchors it
there. Discovery takes the file of the usual name in a directory if there is one, and otherwise the
configuration that adds nothing.
-/

namespace MapBacked

structure Config where
  markers : MarkerConfig
  templatePath : Option Path
deriving DecidableEq, Inhabited

inductive ConfigError where
  | unreadable (path : Path) (cause : ReadError)
  | malformed (cause : String)
deriving DecidableEq, Inhabited

/-- What a host is told. -/
def ConfigError.message : ConfigError → String
  | .unreadable path cause => "failed to read config '" ++ path.text ++ "': " ++ cause.message
  | .malformed cause => "invalid config: " ++ cause

namespace Config

/-- The configuration that adds nothing. -/
def empty : Config := ⟨.empty, none⟩

/-- The name under which a configuration is looked for in a directory. -/
def fileName : Path := ⟨"automap.toml"⟩

/-! ## From TOML -/

/-- The fields of a section: by name, all of them known, or in order. -/
def section? (known : List String) : Toml.Value → Option (List (String × Toml.Value))
  | .table fields => if fields.all fun f => known.contains f.1 then some fields else none
  | .list items => some (known.zip items)
  | _ => none

def text? : Toml.Value → Option String
  | .text s => some s
  | _ => none

def texts? : Toml.Value → Option (List String)
  | .list items => items.mapM text?
  | _ => none

/-- The names a field lists; a field that is left out lists none. -/
def names? (fields : List (String × Toml.Value)) (name : String) : Option (List String) :=
  match NameMap.findEntry name fields with
  | some v => texts? v
  | none => some []

/-- The marker names of a section. -/
def markers? (v : Toml.Value) : Option MarkerConfig := do
  let fields ← section? ["nullable", "name_attribute", "value_attribute", "map_key"] v
  return ⟨← names? fields "nullable", ← names? fields "name_attribute",
    ← names? fields "value_attribute", ← names? fields "map_key"⟩

/-- The template path of a section. -/
def templatePath? (v : Toml.Value) : Option (Option Path) := do
  let fields ← section? ["path"] v
  match NameMap.findEntry "path" fields with
  | some v => return some ⟨← text? v⟩
  | none => return none

/-- The configuration a document says. -/
def ofDocument? (fields : Toml.Document) : Option Config := do
  let sections ← section? ["markers", "template"] (.table fields)
  let markers ← match NameMap.findEntry "markers" sections with
    | some v => markers? v
    | none => some .empty
  let path ← match NameMap.findEntry "template" sections with
    | some v => templatePath? v
    | none => some none
  return ⟨markers, path⟩

def parse (toml : Toml.Decoder) (source : String) : Except ConfigError Config :=
  match toml.decode source with
  | .ok fields =>
    match ofDocument? fields with
    | some c => .ok c
    | none => .error (.malformed (toml.mismatch source))
  | .error cause => .error (.malformed cause)

/-! ## From files -/

/-- Reads the template path from the directory of the file it stands in. -/
def anchor (c : Config) (file : Path) : Config :=
  -- joining leaves an absolute template path as it is
  match c.templatePath, file.parent? with
  | some path, some base => { c with templatePath := some (base.join path) }
  | _, _ => c

def load (toml : Toml.Decoder) (fs : FileSystem) (file : Path) : Except ConfigError Config := do
  match fs.read file with
  | .ok source => return (← parse toml source).anchor file
  | .error cause => .error (.unreadable file cause)

/-- Loads the configuration of a directory. -/
def discover (toml : Toml.Decoder) (fs : FileSystem) (dir : Path) : Except ConfigError Config :=
  let file := dir.join fileName
  if fs.isFile file then load toml fs file else .ok empty

end Config

end MapBacked
