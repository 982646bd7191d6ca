import MapBacked.Template.Token
import MapBacked.Template.Tree

/-!
# The grammar of expressions

How tokens make expressions. Expressions have levels, the loosest first: choice, or, and, not,
comparison, sum, concatenation, product, opposite number, parts and filters. A level reads what the
next tighter one leaves; only what stands between brackets goes back to the loosest level.

How deep expressions nest is limited, and the limit is also what the recursion counts down. An
expression of its own, every operand inside it, and every operation with one operand take one from
the depth that is left. What is left is handed down as the readers of a whole expression for all
smaller depths, the largest first, so that a list without readers means that no depth is left.

Main definitions: `readers`, `expression`, and `disjunction` for the places where a choice may not
stand.
-/

namespace MapBacked.Template

/-- Reads something from the front of a list of tokens. -/
abbrev Reader (α : Type) := List Token → Except Error (α × List Token)

namespace Grammar

variable {α : Type}

/-! ## Tokens -/

/-- The fault of tokens that do not fit: the one among them, if it comes first. -/
def unexpected : List Token → Except Error α
  | .fault e :: _ => .error e
  | _ => .error .badSyntax

def expect (t : Token) : Reader Unit
  | u :: ts => if u = t then .ok ((), ts) else unexpected (u :: ts)
  | [] => unexpected []

def anyWord : Reader String
  | .word x :: ts => .ok (x, ts)
  | ts => unexpected ts

def nothingLeft : List Token → Except Error Unit
  | [] => .ok ()
  | ts => unexpected ts

/-- Reads a tag's tokens to their end. -/
def whole (read : Reader α) (ts : List Token) : Except Error α := do
  let (a, rest) ← read ts
  nothingLeft rest
  return a

/-! ## Depth -/

/-- The readers of a whole expression for the depths that are left. -/
abbrev Depth := List (Reader Expr)

def expression : Depth → Reader Expr
  | [], _ => .error .badSyntax
  | read :: _, ts => read ts

/-! ## Lists between brackets -/

/-- Reads the items that follow the first one, up to the closing bracket. -/
def moreItems (close : Token) (read : Reader α) : Nat → Reader (List α)
  | 0, ts => unexpected ts
  | _ + 1, [] => unexpected []
  | fuel + 1, t :: ts =>
    if t = close then .ok ([], ts)
    else if t = .symbol .comma then
      -- a comma may stand behind the last item
      if ts.head? = some close then .ok ([], ts.tail)
      else do
        let (a, ts) ← read ts
        let (as, ts) ← moreItems close read fuel ts
        return (a :: as, ts)
    else unexpected (t :: ts)

def items (close : Token) (read : Reader α) : Reader (List α) := fun ts =>
  if ts.head? = some close then .ok ([], ts.tail)
  else do
    let (a, ts) ← read ts
    let (as, ts) ← moreItems close read (ts.length + 1) ts
    return (a :: as, ts)

/-! ## Arguments -/

/-- An argument, with its name if it has one. -/
abbrev Argument := Option String × Expr

/-- Reads an argument. Behind one with a name all others have to have one, too. -/
def argument (d : Depth) (afterNamed : Bool) : Reader Argument := fun ts => do
  let (e, ts) ← expression d ts
  match e, ts with
  | .name x, .symbol .assign :: ts =>
    let (v, ts) ← expression d ts
    return ((some x, v), ts)
  | e, ts => if afterNamed then .error .badSyntax else return ((none, e), ts)

/-- Reads arguments, one at least, up to the closing parenthesis. -/
def moreArguments (d : Depth) : Nat → Bool → Reader (List Argument)
  | 0, _, ts => unexpected ts
  | fuel + 1, afterNamed, ts => do
    let (a, ts) ← argument d afterNamed ts
    match ts with
    | .symbol .closeParen :: ts => return ([a], ts)
    | .symbol .comma :: .symbol .closeParen :: ts => return ([a], ts)
    | .symbol .comma :: ts =>
      let (rest, ts) ← moreArguments d fuel a.1.isSome ts
      return (a :: rest, ts)
    | ts => unexpected ts

/-- The arguments without a name and those with one. -/
def arrange (args : List Argument) : List Expr × List (String × Expr) :=
  (args.filterMap fun a => if a.1.isSome then none else some a.2,
    args.filterMap fun a => a.1.map fun x => (x, a.2))

/-- Reads arguments from behind the opening parenthesis. -/
def arguments (d : Depth) : Reader (List Expr × List (String × Expr))
  | .symbol .closeParen :: ts => .ok (([], []), ts)
  | ts => do
    let (args, ts) ← moreArguments d (ts.length + 1) false ts
    return (arrange args, ts)

/-- Reads arguments if there are parentheses, and otherwise none. -/
def optionalArguments (d : Depth) : Reader (List Expr × List (String × Expr))
  | .symbol .openParen :: ts => arguments d ts
  | ts => .ok (([], []), ts)

/-! ## The tightest expressions -/

/-- Reads what stands behind an opening parenthesis: one expression, or a list if there is a comma
or nothing. -/
def parenthesized (d : Depth) : Reader Expr
  | .symbol .closeParen :: ts => .ok (.list [], ts)
  | ts => do
    let (e, ts) ← expression d ts
    match ts with
    | .symbol .closeParen :: ts => return (e, ts)
    | ts =>
      let (es, ts) ← moreItems (.symbol .closeParen) (expression d) (ts.length + 1) ts
      return (.list (e :: es), ts)

/-- The text that texts in a row make, and what stands behind them. -/
def joinedText : List Token → String × List Token
  | .text s :: ts =>
    let (t, ts) := joinedText ts
    (s ++ t, ts)
  | ts => ("", ts)

/-- Reads a literal, a name, a list or an expression in parentheses. -/
def primary : Depth → Reader Expr
  | [], _ => .error .badSyntax
  | _ :: deeper, ts =>
    match ts with
    | .word x :: ts =>
      if x = "true" ∨ x = "True" then .ok (.literal (.bool true), ts)
      else if x = "false" ∨ x = "False" then .ok (.literal (.bool false), ts)
      else if x = "none" ∨ x = "None" then .ok (.literal .none, ts)
      else .ok (.name x, ts)
    | .text s :: ts =>
      let (t, ts) := joinedText ts
      .ok (.literal (.text (s ++ t)), ts)
    | .number n :: ts => .ok (.literal (.int n), ts)
    | .symbol .openParen :: ts => parenthesized deeper ts
    | .symbol .openBracket :: ts => do
      let (es, ts) ← items (.symbol .closeBracket) (expression deeper) ts
      return (.list es, ts)
    | ts => unexpected ts

def signed : Depth → Reader Expr
  | [], _ => .error .badSyntax
  | _ :: deeper, .symbol .minus :: ts => do
    -- every sign takes one from the depth
    let (e, ts) ← signed deeper ts
    return (.neg e, ts)
  | d, ts => primary d ts

/-! ## Parts -/

/-- Reads a bound of a slice; a missing one is none. -/
def bound (d : Depth) : Reader Expr
  | .symbol .colon :: ts => .ok (.literal .none, .symbol .colon :: ts)
  | .symbol .closeBracket :: ts => .ok (.literal .none, .symbol .closeBracket :: ts)
  | ts => expression d ts

/-- Reads the step of a slice, from behind the second bound. -/
def step (d : Depth) : Reader Expr
  | .symbol .colon :: .symbol .closeBracket :: ts => .ok (.literal .none, ts)
  | .symbol .colon :: ts => do
    let (e, ts) ← expression d ts
    let ((), ts) ← expect (.symbol .closeBracket) ts
    return (e, ts)
  | ts => do
    let ((), ts) ← expect (.symbol .closeBracket) ts
    return (.literal .none, ts)

/-- Reads a part or a slice from behind the opening bracket. -/
def subscript (d : Depth) (subject : Expr) : Reader Expr
  | .symbol .closeBracket :: _ => .error .badSyntax
  | ts => do
    let (start, ts) ← bound d ts
    match ts with
    | .symbol .closeBracket :: ts => return (.item subject start, ts)
    | .symbol .colon :: ts =>
      let (stop, ts) ← bound d ts
      let (step, ts) ← step d ts
      return (.slice subject start stop step, ts)
    | ts => unexpected ts

/-- A call of an expression: of a function if it is a name, of a method if it is a part. -/
def called (subject : Expr) (args : List Expr × List (String × Expr)) : Expr :=
  match subject with
  | .name x => .call x args.1 args.2
  | .attr subject x => .method subject x args.1 args.2
  | subject => .apply subject args.1 args.2

/-- Reads the parts and calls behind an expression. -/
def parts (d : Depth) : Nat → Expr → Reader Expr
  | 0, e, ts => .ok (e, ts)
  | fuel + 1, e, ts =>
    match ts with
    | .symbol .dot :: ts => do
      let (x, ts) ← anyWord ts
      parts d fuel (.attr e x) ts
    | .symbol .openBracket :: ts => do
      let (e, ts) ← subscript d e ts
      parts d fuel e ts
    | .symbol .openParen :: ts => do
      let (args, ts) ← arguments d ts
      parts d fuel (called e args) ts
    | ts => .ok (e, ts)

def operand (d : Depth) : Reader Expr := fun ts => do
  let (e, ts) ← signed d ts
  parts d ts.length e ts

/-! ## Filters and tests -/

/-- Whether a token can be the first one of a test's bare argument. -/
def startsBareArgument : Token → Bool
  | .word x => x != "and" && x != "or" && x != "else" && x != "is"
  | .text _ | .number _ => true
  | .symbol .plus | .symbol .minus | .symbol .openBracket => true
  | _ => false

/-- Reads the arguments of a test: those in parentheses, or a bare one, or none. -/
def testArguments (d : Depth) : Reader (List Expr × List (String × Expr))
  | .symbol .openParen :: ts => arguments d ts
  | [] => .ok (([], []), [])
  | t :: ts =>
    if startsBareArgument t then do
      let (e, ts) ← operand d (t :: ts)
      return (([e], []), ts)
    else .ok (([], []), t :: ts)

def negatedIf (negated : Bool) (e : Expr) : Expr := if negated then .not e else e

/-- Reads a test from behind its first word. -/
def testing (d : Depth) (e : Expr) : Reader Expr := fun ts => do
  let (negated, ts) := match ts with
    | .word "not" :: ts => (true, ts)
    | ts => (false, ts)
  let (x, ts) ← anyWord ts
  let (args, ts) ← testArguments d ts
  return (negatedIf negated (.test x e args.1 args.2), ts)

/-- Reads the filters and tests behind an expression. -/
def filters (d : Depth) : Nat → Expr → Reader Expr
  | 0, e, ts => .ok (e, ts)
  | fuel + 1, e, ts =>
    match ts with
    | .symbol .bar :: ts => do
      let (x, ts) ← anyWord ts
      let (args, ts) ← optionalArguments d ts
      filters d fuel (.filter x e args.1 args.2) ts
    | .word "is" :: ts => do
      let (e, ts) ← testing d e ts
      filters d fuel e ts
    | ts => .ok (e, ts)

/-- Reads an expression with its parts, filters and tests. -/
def filtered (d : Depth) : Reader Expr := fun ts => do
  let (e, ts) ← operand d ts
  filters d ts.length e ts

/-! ## Operations -/

/-- Reads further operands of a level, binding to the left. -/
def chainRest (next : Reader Expr) (op : Token → Option (Expr → Expr → Expr)) :
    Nat → Expr → Reader Expr
  | 0, e, ts => .ok (e, ts)
  | _ + 1, e, [] => .ok (e, [])
  | fuel + 1, e, t :: ts =>
    match op t with
    | some f => do
      let (right, ts) ← next ts
      chainRest next op fuel (f e right) ts
    | none => .ok (e, t :: ts)

/-- Reads a level of operations that bind to the left. -/
def chain (next : Reader Expr) (op : Token → Option (Expr → Expr → Expr)) : Reader Expr :=
  fun ts => do
    let (e, ts) ← next ts
    chainRest next op ts.length e ts

def productOp : Token → Option (Expr → Expr → Expr)
  | .symbol .times => some (.binary .mul)
  | .symbol .floorDiv => some (.binary .floorDiv)
  | .symbol .percent => some (.binary .rem)
  | _ => none

/-- The operation that prints two values one behind the other. -/
def concatOp : Token → Option (Expr → Expr → Expr)
  | .symbol .tilde => some (.binary .concat)
  | _ => none

def sumOp : Token → Option (Expr → Expr → Expr)
  | .symbol .plus => some (.binary .add)
  | .symbol .minus => some (.binary .sub)
  | _ => none

def sum (d : Depth) : Reader Expr := chain (chain (chain (filtered d) productOp) concatOp) sumOp

/-- A comparison at the front, and what stands behind it. -/
def comparison? : List Token → Except Error (Option (Operator × List Token))
  | .symbol .eq :: ts => .ok (some (.eq, ts))
  | .symbol .ne :: ts => .ok (some (.ne, ts))
  | .symbol .lt :: ts => .ok (some (.lt, ts))
  | .symbol .le :: ts => .ok (some (.le, ts))
  | .symbol .gt :: ts => .ok (some (.gt, ts))
  | .symbol .ge :: ts => .ok (some (.ge, ts))
  | .word "in" :: ts => .ok (some (.isIn, ts))
  | .word "not" :: .word "in" :: ts => .ok (some (.notIn, ts))
  | .word "not" :: ts => unexpected ts
  | _ => .ok none

/-- Reads further comparisons. -/
def comparisonRest (next : Reader Expr) : Nat → Reader (List (Operator × Expr))
  | 0, ts => .ok ([], ts)
  | fuel + 1, ts => do
    match ← comparison? ts with
    | some (op, ts) =>
      let (right, ts) ← next ts
      let (rest, ts) ← comparisonRest next fuel ts
      return ((op, right) :: rest, ts)
    | none => return ([], ts)

/-- An expression with the comparisons that follow it. -/
def compared (e : Expr) : List (Operator × Expr) → Expr
  | [] => e
  | [(op, right)] => .binary op e right
  | rest => .chain e rest

def comparison (d : Depth) : Reader Expr := fun ts => do
  let (e, ts) ← sum d ts
  let (rest, ts) ← comparisonRest (sum d) ts.length ts
  return (compared e rest, ts)

def negation : Depth → Reader Expr
  | [], _ => .error .badSyntax
  | _ :: deeper, .word "not" :: ts => do
    let (e, ts) ← negation deeper ts
    return (.not e, ts)
  | d, ts => comparison d ts

def andOp : Token → Option (Expr → Expr → Expr)
  | .word "and" => some .and
  | _ => none

def orOp : Token → Option (Expr → Expr → Expr)
  | .word "or" => some .or
  | _ => none

/-- Reads everything but a choice. -/
def disjunction (d : Depth) : Reader Expr := chain (chain (negation d) andOp) orOp

mutual

/-- Reads an expression with the choices behind it. -/
def choice (d : Depth) : Nat → Reader Expr
  | 0, ts => unexpected ts
  | fuel + 1, ts => do
    let (e, ts) ← disjunction d ts
    choiceRest d fuel e ts

/-- Reads the choices behind an expression. -/
def choiceRest (d : Depth) : Nat → Expr → Reader Expr
  | 0, e, ts => .ok (e, ts)
  | fuel + 1, e, ts =>
    match ts with
    | .word "if" :: ts => do
      let (condition, ts) ← disjunction d ts
      match ts with
      | .word "else" :: ts =>
        -- the second branch takes all the choices that follow
        let (no, ts) ← choice d fuel ts
        choiceRest d fuel (.choice condition e no) ts
      | ts => choiceRest d fuel (.choice condition e (.literal .blank)) ts
    | ts => .ok (e, ts)

end

/-! ## Expressions -/

/-- The readers of an expression of its own, for the given depth and all smaller ones. -/
def readers : Nat → Depth
  | 0 => []
  | depth + 1 =>
    let d := readers depth
    (fun ts => choice d (ts.length + 1) ts) :: d

/-- How deep statements and the expressions in them nest. -/
def maxDepth : Nat := 150

end Grammar

end MapBacked.Template
