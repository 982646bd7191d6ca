import MapBacked.Text.Digits
import MapBacked.Toml.Basic
import MapBacked.Toml.Scalar

/-!
# Reading TOML text

Each part takes characters off the front and returns what is left. A line holds one pair or one
header and nothing else but blanks and a comment; only between the brackets of a list and the braces
of a table may lines end freely, but for the names of a path. Texts stand between quotes of two
kinds, of which only the first has escapes, and each kind also comes tripled for texts of several
lines.

Where a reader calls itself behind a part of any length it counts down a number that starts beyond
the number of characters, of which every call takes one at least.
-/

namespace MapBacked.Toml

namespace Reader

/-- Reads something from the front. -/
abbrev Part (α : Type) := List Char → Option (α × List Char)

/-! ## Blanks, comments and line ends -/

/-- Whether a character may stand in a line as it is: a tab, or no control. -/
def isPlain (c : Char) : Bool := c == '\t' || (0x20 ≤ c.toNat && c != '\x7f')

def skipBlanks (cs : List Char) : List Char := cs.dropWhile fun c => c == ' ' || c == '\t'

def lineEnd? : List Char → Option (List Char)
  | '\n' :: cs => some cs
  | '\r' :: '\n' :: cs => some cs
  | _ => none

def skipComment (cs : List Char) : List Char := cs.dropWhile isPlain

/-- Drops what may follow the content of a line, and the line end if the text goes on. -/
def finishLine? (cs : List Char) : Option (List Char) :=
  let cs := match skipBlanks cs with
    | '#' :: cs => skipComment cs
    | cs => cs
  if cs.isEmpty then some [] else lineEnd? cs

/-- Drops blanks, comments and line ends. -/
def skipLines : Nat → List Char → Option (List Char)
  | 0, cs => some cs
  | fuel + 1, cs =>
    match skipBlanks cs with
    | '#' :: cs => do
      let cs := skipComment cs
      if cs.isEmpty then some [] else skipLines fuel (← lineEnd? cs)
    | '\n' :: cs => skipLines fuel cs
    | '\r' :: cs => do skipLines fuel (← lineEnd? ('\r' :: cs))
    | cs => some cs

/-- Drops everything between two parts of a list. -/
def skipAll (cs : List Char) : Option (List Char) := skipLines (cs.length + 1) cs

/-! ## Texts -/

def numbered? (count : Nat) (cs : List Char) : Option (Char × List Char) :=
  let ds := cs.take count
  if ds.length = count then do
    return (← Text.scalar? (← Text.hexNumber? ds), cs.drop count)
  else none

/-- The character an escape stands for, from behind the backslash. -/
def escape? : Part Char
  | '"' :: cs => some ('"', cs)
  | '\\' :: cs => some ('\\', cs)
  | 'b' :: cs => some ('\x08', cs)
  | 'e' :: cs => some ('\x1b', cs)
  | 'f' :: cs => some ('\x0c', cs)
  | 'n' :: cs => some ('\n', cs)
  | 'r' :: cs => some ('\r', cs)
  | 't' :: cs => some ('\t', cs)
  | 'x' :: cs => numbered? 2 cs
  | 'u' :: cs => numbered? 4 cs
  | 'U' :: cs => numbered? 8 cs
  | _ => none

/-- Reads a text of one line with escapes, from behind its quote. -/
def basic : Nat → Part (List Char)
  | 0, _ => none
  | fuel + 1, cs =>
    match cs with
    | [] => none
    | '"' :: cs => some ([], cs)
    | '\\' :: cs => do
      let (c, cs) ← escape? cs
      let (s, cs) ← basic fuel cs
      return (c :: s, cs)
    | c :: cs =>
      if isPlain c then do
        let (s, cs) ← basic fuel cs
        return (c :: s, cs)
      else none

/-- Reads a text of one line without escapes, from behind its quote. -/
def verbatim : Part (List Char)
  | [] => none
  | '\'' :: cs => some ([], cs)
  | c :: cs =>
    if isPlain c then do
      let (s, cs) ← verbatim cs
      return (c :: s, cs)
    else none

/-- Drops blanks and line ends behind a backslash that ends a line. -/
def skipFold : List Char → Option (List Char)
  | [] => some []
  | '\r' :: '\n' :: cs => skipFold cs
  | c :: cs =>
    if c = ' ' ∨ c = '\t' ∨ c = '\n' then skipFold cs
    else if c = '\r' then none
    else some (c :: cs)

/-- What follows a backslash that ends a line, if nothing but blanks stands behind it. -/
def fold? (cs : List Char) : Option (List Char) := do skipFold (← lineEnd? (skipBlanks cs))

/-- Whether three quotes stand at the front with no further one behind them, so that the last three
of up to five quotes end the text. -/
def closes (quote : Char) : List Char → Bool
  | a :: b :: c :: rest => a == quote && b == quote && c == quote && rest.head? != some quote
  | _ => false

/-- Whether more than five quotes stand at the front. -/
def overlong (quote : Char) (cs : List Char) : Bool :=
  6 ≤ (cs.takeWhile (· == quote)).length

/-- Reads a text of several lines with escapes, from behind its quotes. -/
def basicLines : Nat → Part (List Char)
  | 0, _ => none
  | fuel + 1, cs =>
    if closes '"' cs then some ([], cs.drop 3)
    else if overlong '"' cs then none
    else
      match cs with
      | [] => none
      | '\\' :: cs =>
        -- a line break behind the backslash joins the lines, and otherwise there is an escape
        match fold? cs with
        | some cs => basicLines fuel cs
        | none => do
          let (c, cs) ← escape? cs
          let (s, cs) ← basicLines fuel cs
          return (c :: s, cs)
      | c :: cs =>
        if isPlain c || (lineEnd? (c :: cs)).isSome then do
          let (s, cs) ← basicLines fuel cs
          return (c :: s, cs)
        else none

/-- Reads a text of several lines without escapes, from behind its quotes. -/
def verbatimLines : Nat → Part (List Char)
  | 0, _ => none
  | fuel + 1, cs =>
    if closes '\'' cs then some ([], cs.drop 3)
    else if overlong '\'' cs then none
    else
      match cs with
      | [] => none
      | c :: cs =>
        if isPlain c || (lineEnd? (c :: cs)).isSome then do
          let (s, cs) ← verbatimLines fuel cs
          return (c :: s, cs)
        else none

/-- The text without the line end that may follow its quotes. -/
def behindQuotes (cs : List Char) : List Char := (lineEnd? cs).getD cs

def shortText (cs : List Char) : Option (Option (String × List Char)) :=
  match cs with
  | '"' :: rest => do
    let (s, rest) ← basic (rest.length + 1) rest
    return some (String.ofList s, rest)
  | '\'' :: rest => do
    let (s, rest) ← verbatim rest
    return some (String.ofList s, rest)
  | _ => some none

/-- Reads a text of either form, if a quote stands there. -/
def text (cs : List Char) : Option (Option (String × List Char)) :=
  match cs with
  | '"' :: '"' :: '"' :: rest => do
    let rest := behindQuotes rest
    let (s, rest) ← basicLines (rest.length + 1) rest
    return some (String.ofList s, rest)
  | '\'' :: '\'' :: '\'' :: rest => do
    let rest := behindQuotes rest
    let (s, rest) ← verbatimLines (rest.length + 1) rest
    return some (String.ofList s, rest)
  | cs => shortText cs

/-! ## Names -/

def inName (c : Char) : Bool := c.isAlphanum || c == '_' || c == '-'

def name : Part String := fun cs => do
  match ← shortText cs with
  | some (s, rest) => return (s, rest)
  | none =>
    let n := cs.takeWhile inName
    if n.isEmpty then none else return (String.ofList n, cs.dropWhile inName)

/-- Reads a path: names with dots between them, of which the last one is given apart. -/
def path : Nat → Part (List String × String)
  | 0, _ => none
  | fuel + 1, cs => do
    let (n, cs) ← name (skipBlanks cs)
    match skipBlanks cs with
    | '.' :: cs =>
      let ((front, last), cs) ← path fuel cs
      return ((n :: front, last), cs)
    | cs => return (([], n), cs)

def names : Part (List String × String) := fun cs => path (cs.length + 1) cs

/-! ## Values -/

/-- How deep lists and tables nest inside a value. -/
def maxDepth : Nat := 80

mutual

/-- Reads a value. Lists and tables nest up to the given depth. -/
def value : Nat → Nat → Part Value
  | 0, _, _ => none
  | fuel + 1, depth, cs =>
    match cs, depth with
    | '[' :: cs, depth + 1 => do
      let (vs, cs) ← items fuel depth (← skipAll cs)
      return (.list vs, cs)
    | '\x7b' :: cs, depth + 1 => do
      let (es, cs) ← pairs fuel depth [] (← skipAll cs)
      return (.table (closedEntries es), cs)
    | cs, _ => do
      match ← text cs with
      | some (s, cs) => return (.text s, cs)
      | none => return (.scalar, ← Scalar.skip? cs)

/-- Reads the items of a list up to the closing bracket. -/
def items : Nat → Nat → Part (List Value)
  | 0, _, _ => none
  | _ + 1, _, ']' :: cs => some ([], cs)
  | fuel + 1, depth, cs => do
    let (v, cs) ← value fuel depth cs
    match ← skipAll cs with
    | ',' :: cs =>
      let (vs, cs) ← items fuel depth (← skipAll cs)
      return (v :: vs, cs)
    | ']' :: cs => return ([v], cs)
    | _ => none

/-- Reads the pairs of a table up to the closing brace. -/
def pairs : Nat → Nat → Entries → Part Entries
  | 0, _, _, _ => none
  | fuel + 1, depth, es, cs =>
    match cs with
    | '\x7d' :: cs => some (es, cs)
    | cs => do
      let ((front, last), cs) ← names cs
      match ← skipAll cs with
      | '=' :: cs =>
        let (v, cs) ← value fuel depth (← skipAll cs)
        let es ← Entries.put last v front es
        match ← skipAll cs with
        | ',' :: cs => pairs fuel depth es (← skipAll cs)
        | '\x7d' :: cs => return (es, cs)
        | _ => none
      | _ => none

end

/-! ## Lines -/

/-- Reads the content of a line, which is not empty. -/
def content : Part Line
  | '[' :: '[' :: cs => do
    let ((front, last), cs) ← names cs
    match skipBlanks cs with
    | ']' :: ']' :: cs => return (.row front last, cs)
    | _ => none
  | '[' :: cs => do
    let ((front, last), cs) ← names cs
    match skipBlanks cs with
    | ']' :: cs => return (.header front last, cs)
    | _ => none
  | cs => do
    let ((front, last), cs) ← names cs
    match skipBlanks cs with
    | '=' :: cs =>
      let cs := skipBlanks cs
      let (v, cs) ← value (2 * cs.length + 2) maxDepth cs
      return (.pair front last v, cs)
    | _ => none

def lines : Nat → List Char → Option (List Line)
  | 0, _ => none
  | fuel + 1, cs => do
    match ← skipAll cs with
    | [] => return []
    | cs =>
      let (line, cs) ← content cs
      return line :: (← lines fuel (← finishLine? cs))

/-- The text without the byte order mark it may begin with. -/
def behindMark : List Char → List Char
  | '\ufeff' :: cs => cs
  | cs => cs

end Reader

/-- Reads a document: the table it says, if it is well formed. -/
def parse? (source : String) : Option Document := do
  let cs := Reader.behindMark source.toList
  ofLines (← Reader.lines (cs.length + 1) cs)

/-- The decoder that goes by `parse?`. Its faults are not told apart. -/
def Decoder.ofParse : Decoder where
  decode source :=
    match parse? source with
    | some fields => .ok fields
    | none => .error "TOML parse error"
  mismatch _ := "TOML parse error"

theorem Decoder.decode_ofParse (source : String) : ofParse.decode source =
    match parse? source with
    | some fields => .ok fields
    | none => .error "TOML parse error" := rfl

end MapBacked.Toml
