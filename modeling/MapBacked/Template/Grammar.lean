import MapBacked.Template.Grammar.Expression
import MapBacked.Template.Piece

/-!
# The grammar of templates

How pieces make statements. A statement with a body goes on over the pieces that follow it up to the
tag that ends it, and an `elif` is a branch inside the second branch. A statement takes one from the
depth that is left for what is inside it.

The grammar is that of a part of the language: of the statements it has `set`, `if` and `for`, and
it refuses the others (`macro`, `with`, `filter`, `block`, `include` and so on) like a misspelt one.

Main definition: `parse`, which reads a whole template.
-/

namespace MapBacked.Template

namespace Grammar

/-! ## Tags -/

/-- The names that belong to the language. -/
def reservedNames : List String :=
  ["true", "True", "false", "False", "none", "None", "loop", "self", "in"]

/-- Reads a name that may be given a value. -/
def assignable? : Reader String := fun ts => do
  let (x, ts) ← anyWord ts
  if reservedNames.contains x then .error .badSyntax else return (x, ts)

structure LoopHead where
  target : String
  source : Expr
  condition : Option Expr

def loopHead (d : Depth) (ts : List Token) : Except Error LoopHead := do
  let (x, ts) ← assignable? ts
  let ((), ts) ← expect (.word "in") ts
  let (source, ts) ← disjunction d ts
  match ts with
  | .word "if" :: ts => return ⟨x, source, some (← whole (expression d) ts)⟩
  | ts =>
    nothingLeft ts
    return ⟨x, source, none⟩

def assignment (d : Depth) (ts : List Token) : Except Error Stmt := do
  let (x, ts) ← assignable? ts
  let ((), ts) ← expect (.symbol .assign) ts
  return .assign x (← whole (expression d) ts)

/-! ## Bodies -/

/-- Whether a word ends or parts the body of a statement. -/
def endsBody (x : String) : Bool := ["else", "elif", "endif", "endfor"].contains x

/-- What ends a body: a word and the tokens behind it. -/
abbrev Ending := String × List Token

/-- The statements of a body, what ends it, if anything, and the pieces behind that. -/
abbrev Body := List Stmt × Option Ending × List Piece

mutual

/-- Reads statements up to one that ends or parts a body. -/
def body : Nat → Depth → List Piece → Except Error Body
  | 0, _, _ => .error .badSyntax
  | _ + 1, _, [] => .ok ([], none, [])
  | _ + 1, _, .unclosed :: _ => .error .badSyntax
  | fuel + 1, d, .text cs :: rest => do
    let (ss, ending, rest) ← body fuel d rest
    return (.text (String.ofList cs) :: ss, ending, rest)
  | fuel + 1, d, .output ts :: rest => do
    let e ← whole (expression d) ts
    let (ss, ending, rest) ← body fuel d rest
    return (.output e :: ss, ending, rest)
  | fuel + 1, d, .statement ts :: rest => do
    let (x, ts) ← anyWord ts
    if endsBody x then return ([], some (x, ts), rest)
    else
      let (s, rest) ← statement fuel d x ts rest
      let (ss, ending, rest) ← body fuel d rest
      return (s :: ss, ending, rest)

/-- Reads a statement from behind its first word, and gives the pieces behind its end. -/
def statement : Nat → Depth → String → List Token → List Piece → Except Error (Stmt × List Piece)
  | 0, _, _, _, _ | _, [], _, _, _ => .error .badSyntax
  | fuel + 1, _ :: deeper, x, ts, rest =>
    if x = "set" then do return (← assignment deeper ts, rest)
    else if x = "if" then branch fuel deeper ts rest
    else if x = "for" then loop fuel deeper ts rest
    else .error .badSyntax

/-- Reads a branch from behind its first word, and gives the pieces behind its end. -/
def branch : Nat → Depth → List Token → List Piece → Except Error (Stmt × List Piece)
  | 0, _, _, _ => .error .badSyntax
  | fuel + 1, d, ts, rest => do
    let condition ← whole (disjunction d) ts
    let (yes, ending, rest) ← body fuel d rest
    match ending with
    | some ("endif", ts) =>
      nothingLeft ts
      return (.branch condition yes [], rest)
    | some ("else", ts) =>
      nothingLeft ts
      let (no, rest) ← lastBody fuel d "endif" rest
      return (.branch condition yes no, rest)
    | some ("elif", ts) =>
      -- the further branch is the whole of the second one, and both end with one tag
      let (s, rest) ← branch fuel d ts rest
      return (.branch condition yes [s], rest)
    | _ => .error .badSyntax

/-- Reads a loop from behind its first word, and gives the pieces behind its end. -/
def loop : Nat → Depth → List Token → List Piece → Except Error (Stmt × List Piece)
  | 0, _, _, _ => .error .badSyntax
  | fuel + 1, d, ts, rest => do
    let head ← loopHead d ts
    let (inside, ending, rest) ← body fuel d rest
    match ending with
    | some ("endfor", ts) =>
      nothingLeft ts
      return (.loop head.target head.source head.condition inside [], rest)
    | some ("else", ts) =>
      nothingLeft ts
      let (otherwise, rest) ← lastBody fuel d "endfor" rest
      return (.loop head.target head.source head.condition inside otherwise, rest)
    | _ => .error .badSyntax

/-- Reads the last body of a statement and the word that ends it. -/
def lastBody : Nat → Depth → String → List Piece → Except Error (List Stmt × List Piece)
  | 0, _, _, _ => .error .badSyntax
  | fuel + 1, d, word, rest => do
    let (ss, ending, rest) ← body fuel d rest
    match ending with
    | some (x, ts) =>
      if x = word then
        nothingLeft ts
        return (ss, rest)
      else .error .badSyntax
    | none => .error .badSyntax

end

end Grammar

/-- Reads a template that keeps to the part of the language there is a grammar for. Every step of the
grammar of statements goes on to the next piece or into a part of a statement that took one. -/
def parse (source : String) : Except Error (List Stmt) := do
  let pieces := Piece.cut source.toList
  let (ss, ending, _) ← Grammar.body (4 * pieces.length + 4) (Grammar.readers Grammar.maxDepth) pieces
  if ending.isNone then return ss else .error .badSyntax

end MapBacked.Template
