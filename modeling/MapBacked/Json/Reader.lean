import MapBacked.Decimal.Literal
import MapBacked.Json.Basic
import MapBacked.Text.Digits

/-!
# Reading JSON text

A strict reader: one value, blanks around it, nothing else; no comments, no byte order mark, no
trailing commas. Each part takes characters off the front and returns what is left. The readers of
values, items and members call one another, so they count down a number that starts at the length
of the text: every call has taken a character since the last one.
-/

namespace MapBacked.Json.Reader

/-- The blanks between tokens. -/
def isBlank (c : Char) : Bool := c = ' ' || c = '\n' || c = '\t' || c = '\r'

def skip (cs : List Char) : List Char := cs.dropWhile isBlank

/-! ## Strings -/

/-- One element of a string: a character, or a 16-bit unit that was written as an escape. -/
inductive Element where
  | char (c : Char)
  | unit (u : Nat)

/-- The character of an escape letter. -/
def escaped? (c : Char) : Option Char :=
  match c with
  | '"' | '\\' | '/' => some c
  | 'b' => some '\x08'
  | 'f' => some '\x0c'
  | 'n' => some '\n'
  | 'r' => some '\r'
  | 't' => some '\t'
  | _ => none

/-- The elements up to the closing quote, which is dropped. -/
def elements : List Char → Option (List Element × List Char)
  | [] => none
  | '"' :: rest => some ([], rest)
  | '\\' :: 'u' :: a :: b :: c :: d :: rest => do
    let u ← Text.hexNumber? [a, b, c, d]
    let (es, left) ← elements rest
    return (.unit u :: es, left)
  | '\\' :: c :: rest => do
    let e ← escaped? c
    let (es, left) ← elements rest
    return (.char e :: es, left)
  | c :: rest =>
    if c.toNat < 0x20 || c = '\\' then none
    else do
      let (es, left) ← elements rest
      return (.char c :: es, left)

/-- The characters that elements stand for. -/
def chars? : List Element → Option (List Char)
  | [] => some []
  | .char c :: rest => do return c :: (← chars? rest)
  | .unit u :: .unit v :: rest =>
    if 0xd800 ≤ u && u < 0xdc00 && 0xdc00 ≤ v && v < 0xe000 then do
      return Char.ofNat (0x10000 + (u - 0xd800) * 0x400 + (v - 0xdc00)) :: (← chars? rest)
    -- half a surrogate pair stands for no character
    else if 0xd800 ≤ u && u < 0xe000 then none
    else do return Char.ofNat u :: (← chars? (.unit v :: rest))
  | .unit u :: rest =>
    if 0xd800 ≤ u && u < 0xe000 then none else do return Char.ofNat u :: (← chars? rest)

/-- A string behind its opening quote. -/
def string (cs : List Char) : Option (Option String × List Char) := do
  let (es, left) ← elements cs
  return ((chars? es).map String.ofList, left)

/-! ## Numbers -/

/-- The digits at the front, by value. -/
def digits (cs : List Char) : List Nat × List Char :=
  ((cs.takeWhile Char.isDigit).map Text.digitValue, cs.dropWhile Char.isDigit)

/-- The fraction behind a point, if there is a point. -/
def fraction? (cs : List Char) : Option (Option (List Nat) × List Char) :=
  match cs with
  | '.' :: rest =>
    let (ds, left) := digits rest
    if ds.isEmpty then none else some (some ds, left)
  | _ => some (none, cs)

/-- The number of some decimal digits. -/
def decimal (ds : List Nat) : Nat := ds.foldl (fun n d => n * 10 + d) 0

/-- The exponent behind its letter, if there is a letter. -/
def exponent? (cs : List Char) : Option (Option Int × List Char) :=
  let signed (negative : Bool) (cs : List Char) : Option (Option Int × List Char) :=
    let (ds, left) := digits cs
    if ds.isEmpty then none
    else some (some (if negative then -(decimal ds : Int) else decimal ds), left)
  let behindLetter (cs : List Char) : Option (Option Int × List Char) :=
    match cs with
    | '-' :: rest => signed true rest
    | '+' :: rest => signed false rest
    | _ => signed false cs
  match cs with
  | 'e' :: rest => behindLetter rest
  | 'E' :: rest => behindLetter rest
  | _ => some (none, cs)

/-- Whether an integer has an exact place in 64 bits, signed or unsigned. -/
def fitsWord (negative : Bool) (n : Nat) : Bool :=
  -- a zero with a sign is a double
  if negative then 0 < n && n ≤ 0x8000000000000000 else n < 0x10000000000000000

/-- A number behind its sign. -/
def number (negative : Bool) (cs : List Char) : Option (Json × List Char) := do
  let (whole, cs) := digits cs
  let leadingZero := whole.head? == some 0 && whole.length != 1
  if whole.isEmpty || leadingZero then none
  else
    let (fraction, cs) ← fraction? cs
    let (exponent, cs) ← exponent? cs
    let n := decimal whole
    if fraction.isNone && exponent.isNone && fitsWord negative n then
      return (.int (if negative then -(n : Int) else n), cs)
    else
      let literal : Decimal.Literal := ⟨negative, whole, fraction.getD [], exponent.getD 0⟩
      return (match literal.text? with
        | some shown => .double shown
        | none => .unreadable, cs)

/-! ## Values -/

/-- How deep arrays and objects may be nested. -/
def maxDepth : Nat := 127

/-- A nested value, refused where no more nesting is allowed. -/
def nested (depth : Nat) (j : Json) : Json := if depth = 0 then .unreadable else j

/-- Takes a word off the front. -/
def word? (w : List Char) (j : Json) (cs : List Char) : Option (Json × List Char) :=
  if w.isPrefixOf cs then some (j, cs.drop w.length) else none

/-- The object of some members, a name that denotes no text spoiling it. -/
def object (members : List (Option String × Json)) : Json :=
  match members.mapM fun m => m.1.map fun name => (name, m.2) with
  | some ms => .obj ms
  | none => .unreadable

mutual

/-- A value; `depth` counts the nesting that is still allowed. -/
def value (depth : Nat) : Nat → List Char → Option (Json × List Char)
  | 0, _ => none
  | fuel + 1, cs =>
    match skip cs with
    | '"' :: rest => do
      let (s, left) ← string rest
      return (match s with
        | some s => .str s
        | none => .unreadable, left)
    | '[' :: rest =>
      match skip rest with
      | ']' :: left => some (nested depth (.arr []), left)
      | _ => do
        let (js, left) ← items (depth - 1) fuel rest
        return (nested depth (.arr js), left)
    | '{' :: rest =>
      match skip rest with
      | '}' :: left => some (nested depth (.obj []), left)
      | _ => do
        let (ms, left) ← members (depth - 1) fuel rest
        return (nested depth (object ms), left)
    | '-' :: rest => number true rest
    | 'n' :: rest => word? ['u', 'l', 'l'] .null rest
    | 't' :: rest => word? ['r', 'u', 'e'] (.bool true) rest
    | 'f' :: rest => word? ['a', 'l', 's', 'e'] (.bool false) rest
    | rest => number false rest

/-- The items up to the closing bracket, which is dropped. -/
def items (depth : Nat) : Nat → List Char → Option (List Json × List Char)
  | 0, _ => none
  | fuel + 1, cs => do
    let (j, left) ← value depth fuel cs
    match skip left with
    | ',' :: rest => do
      let (js, left) ← items depth fuel rest
      return (j :: js, left)
    | ']' :: left => return ([j], left)
    | _ => none

/-- The members up to the closing brace, which is dropped. -/
def members (depth : Nat) : Nat → List Char → Option (List (Option String × Json) × List Char)
  | 0, _ => none
  | fuel + 1, cs =>
    match skip cs with
    | '"' :: rest => do
      let (name, left) ← string rest
      match skip left with
      | ':' :: rest => do
        let (j, left) ← value depth fuel rest
        match skip left with
        | ',' :: rest => do
          let (ms, left) ← members depth fuel rest
          return ((name, j) :: ms, left)
        | '}' :: left => return ([(name, j)], left)
        | _ => none
      | _ => none
    | _ => none

end

end Reader

/-- The one value that a text consists of. -/
def parse? (s : String) : Option Json := do
  let cs := s.toList
  let (j, left) ← Reader.value Reader.maxDepth (2 * cs.length + 2) cs
  if (Reader.skip left).isEmpty then return j else none

end MapBacked.Json
