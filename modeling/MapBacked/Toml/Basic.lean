import MapBacked.NameMap

/-!
# TOML documents

What a TOML document says, as far as a configuration can ask for it: texts, lists and tables.
Numbers, truth values, dates and times are told apart from these but not from one another, since
nothing that is configured is one of them.

Documents are decoded by a library of its own (`Decoder`). Which texts are TOML is up to that, and
so are the words for a fault; what is said of configurations is said for every decoder.

A document is a sequence of lines. A header opens a table, or a new row of a list of tables, and a
pair puts a value under a name in the table that is open; a name may be a path through tables.
Building the document settles who may open what: a table is opened by a header once, tables that
only came into being on the way to another one may still be opened, tables that came into being
through paths in front of a value may only be entered by such paths, and what is written as a value
is closed.
-/

namespace MapBacked.Toml

inductive Value where
  | text (s : String)
  | scalar
  | list (items : List Value)
  | table (fields : List (String × Value))
deriving Inhabited

/-- The table that a whole text says. -/
abbrev Document := List (String × Value)

/-- What reads documents. A fault is the text that it is reported with. -/
structure Decoder where
  decode : String → Except String Document
  /-- What is said of a text whose document does not have the form that was asked for. -/
  mismatch : String → String

/-! ## While a document is built -/

/-- How a table came into being. -/
inductive Origin where
  | header
  | passing
  | pair
deriving DecidableEq, Inhabited

/-- What stands under a name while a document is built. -/
inductive Item where
  | value (v : Value)
  | table (origin : Origin) (entries : List (String × Item))
  | rows (rows : List (List (String × Item)))
deriving Inhabited

/-- The names in a table and what stands under them. -/
abbrev Entries := List (String × Item)

/-- A line that says something. -/
inductive Line where
  | pair (path : List String) (name : String) (v : Value)
  | header (path : List String) (name : String)
  | row (path : List String) (name : String)

namespace Entries

/-! ## Changing what is there -/

def onLastRow (f : Entries → Option Entries) : List Entries → Option (List Entries)
  | [] => none
  | [row] => do return [← f row]
  | row :: rest => do return row :: (← onLastRow f rest)

/-- Puts a value at the end of a path in front of it. -/
def put (name : String) (v : Value) : List String → Entries → Option Entries
  | [], es =>
    match NameMap.findEntry name es with
    | none => some (NameMap.insertEntry name (.value v) es)
    | some _ => none
  | step :: path, es =>
    match NameMap.findEntry step es with
    | none => do return NameMap.insertEntry step (.table .pair (← put name v path [])) es
    -- a table that a header opened or passed through is not entered by a path
    | some (.table .pair inner) => do
      return NameMap.insertEntry step (.table .pair (← put name v path inner)) es
    | some _ => none

/-- Changes the table at the end of a header's path; missing tables come into being on the way, and
a list of tables stands for its last row. -/
def onTable (f : Entries → Option Entries) : List String → Entries → Option Entries
  | [], es => f es
  | step :: path, es =>
    match NameMap.findEntry step es with
    | none => do return NameMap.insertEntry step (.table .passing (← onTable f path [])) es
    | some (.table origin inner) => do
      return NameMap.insertEntry step (.table origin (← onTable f path inner)) es
    | some (.rows rows) => do
      return NameMap.insertEntry step (.rows (← onLastRow (onTable f path) rows)) es
    | some (.value _) => none

def openTable (name : String) (es : Entries) : Option Entries :=
  match NameMap.findEntry name es with
  | none => some (NameMap.insertEntry name (.table .header []) es)
  -- a table that only came into being on the way is opened with what is in it
  | some (.table .passing inner) => some (NameMap.insertEntry name (.table .header inner) es)
  | some _ => none

/-- Opens a new row of a list of tables. -/
def openRow (name : String) (es : Entries) : Option Entries :=
  match NameMap.findEntry name es with
  | none => some (NameMap.insertEntry name (.rows [[]]) es)
  | some (.rows rows) => some (NameMap.insertEntry name (.rows (rows ++ [[]])) es)
  | some _ => none

end Entries

/-! ## Building -/

mutual

/-- What an item says once nothing is added any more. -/
def Item.closed : Item → Value
  | .value v => v
  | .table _ entries => .table (closedEntries entries)
  | .rows rows => .list (closedRows rows)
termination_by structural i => i

def closedEntries : List (String × Item) → List (String × Value)
  | [] => []
  | (name, i) :: rest => (name, i.closed) :: closedEntries rest
termination_by structural es => es

def closedRows : List (List (String × Item)) → List Value
  | [] => []
  | row :: rest => .table (closedEntries row) :: closedRows rest
termination_by structural rows => rows

end

/-- Takes lines in order; `place` is the path of the table that is open. -/
def build (place : List String) (es : Entries) : List Line → Option Entries
  | [] => some es
  | .pair path name v :: rest => do
    build place (← Entries.onTable (Entries.put name v path) place es) rest
  | .header path name :: rest => do
    build (path ++ [name]) (← Entries.onTable (Entries.openTable name) path es) rest
  | .row path name :: rest => do
    build (path ++ [name]) (← Entries.onTable (Entries.openRow name) path es) rest

def ofLines (lines : List Line) : Option Document := do
  return closedEntries (← build [] [] lines)

end MapBacked.Toml
