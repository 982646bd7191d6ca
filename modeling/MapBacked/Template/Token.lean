import MapBacked.Template.Error
import MapBacked.Text.Digits

/-!
# The words of a tag

What stands between the markers of a tag is a list of tokens: words, texts between quotes, integers
and symbols, with blanks between them or not. A tag ends at its end marker, which no token can
contain except a text between quotes.

Characters that make no token leave a fault in the list, and nothing is read behind it. Whether the
fault is ever met is up to the grammar: a template that goes wrong before it is wrong for another
reason.

Main definition: `scanTag`, which reads the tokens of a tag and gives back what stands behind the
end marker.
-/

namespace MapBacked.Template

/-- A symbol of the expression language. -/
inductive Symbol where
  | plus | minus | times | floorDiv | percent | tilde
  | eq | ne | lt | le | gt | ge
  | assign | dot | comma | colon | bar
  | openParen | closeParen | openBracket | closeBracket
deriving DecidableEq, Inhabited, Repr

/-- A token, or the fault in place of one. -/
inductive Token where
  | word (name : String)
  | text (s : String)
  | number (n : Nat)
  | symbol (s : Symbol)
  | fault (e : Error)
deriving DecidableEq, Inhabited, Repr

/-- What the sign at a marker asks for: the usual treatment of the blanks next to the tag, all of
them cut off, or all of them kept. -/
inductive Edge where
  | usual
  | cut
  | kept
deriving DecidableEq, Inhabited, Repr

/-- The edge a sign asks for, and what stands behind the sign. -/
def Edge.scan : List Char → Edge × List Char
  | '-' :: cs => (.cut, cs)
  | '+' :: cs => (.kept, cs)
  | cs => (.usual, cs)

/-! ## Characters -/

/-- The blanks between tokens. -/
def isGap (c : Char) : Bool := c == ' ' || c == '\t' || c == '\n' || c == '\r' || c == '\x0c'

def startsWord (c : Char) : Bool := c.isAlpha || c == '_'

def continuesWord (c : Char) : Bool := c.isAlphanum || c == '_'

/-! ## Texts between quotes -/

/-- The character a letter behind a backslash stands for. -/
def escaped? : Char → Option Char
  | '"' => some '"'
  | '\\' => some '\\'
  | '/' => some '/'
  | '\'' => some '\''
  | 'b' => some '\x08'
  | 'f' => some '\x0c'
  | 'n' => some '\n'
  | 'r' => some '\r'
  | 't' => some '\t'
  | _ => none

/-- The number that exactly so many hexadecimal digits at the front stand for. -/
def hexDigits? (count : Nat) (cs : List Char) : Option Nat :=
  let ds := cs.take count
  if ds.length = count then Text.hexNumber? ds else none

/-- The character that the four digits at the front stand for, and how many characters are taken. -/
def numbered? (cs : List Char) : Option (Char × Nat) := do
  let m ← hexDigits? 4 cs
  -- half of a character: the other half has to follow in the same form
  if 0xD800 ≤ m ∧ m < 0xDC00 then
    match cs.drop 4 with
    | '\\' :: 'u' :: rest =>
      let n ← hexDigits? 4 rest
      if 0xDC00 ≤ n ∧ n < 0xE000 then
        return (Char.ofNat (0x10000 + (m - 0xD800) * 0x400 + (n - 0xDC00)), 10)
      else none
    | _ => none
  else if 0xDC00 ≤ m ∧ m < 0xE000 then none
  else return (Char.ofNat m, 4)

def isOctal (c : Char) : Bool := '0' ≤ c && c ≤ '7'

/-- What an escape stands for, from behind its backslash, and how many characters it takes. -/
def escape? : List Char → Option (List Char × Nat)
  | [] => none
  | c :: cs =>
    if c = 'u' then do
      let (d, taken) ← numbered? cs
      return ([d], taken + 1)
    else if c = 'x' then do return ([Char.ofNat (← hexDigits? 2 cs)], 3)
    else if isOctal c then
      let ds := ((c :: cs).take 3).takeWhile isOctal
      do return ([Char.ofNat (← Text.number? 8 ds)], ds.length)
    else
      match escaped? c with
      | some d => some ([d], 1)
      -- no escape, and the backslash stands for itself
      | none => some (['\\', c], 1)

/-- The characters between the quotes as they are written, and what stands behind the second quote.
-/
def quoted? (quote : Char) : List Char → Option (List Char × List Char)
  | [] => none
  -- behind a backslash a quote does not end the text
  | '\\' :: c :: cs => do
    let (written, rest) ← quoted? quote cs
    return ('\\' :: c :: written, rest)
  | c :: cs =>
    if c = '\\' then none
    else if c = quote then some ([], cs)
    else do
      let (written, rest) ← quoted? quote cs
      return (c :: written, rest)

/-- What the characters between quotes stand for. `skip` counts the characters that belong to an
escape already read. -/
def unescape? : Nat → List Char → Option (List Char)
  | _, [] => some []
  | skip + 1, _ :: cs => unescape? skip cs
  | 0, c :: cs =>
    if c = '\\' then do
      let (s, taken) ← escape? cs
      return s ++ (← unescape? taken cs)
    else do return c :: (← unescape? 0 cs)

/-! ## Numbers -/

/-- The base a number's first characters ask for, and the digits behind them. -/
def base : List Char → Nat × List Char
  | '0' :: c :: cs =>
    if c = 'x' ∨ c = 'X' then (16, cs)
    else if c = 'o' ∨ c = 'O' then (8, cs)
    else if c = 'b' ∨ c = 'B' then (2, cs)
    else (10, '0' :: c :: cs)
  | cs => (10, cs)

/-- Whether a number of the base can go on with the character. -/
def continuesNumber (base : Nat) (c : Char) : Bool :=
  c.isDigit || c == '_' || (base == 16 && (Text.hexValue? c).isSome)

/-- Whether a decimal number goes on with a fraction or an exponent. -/
def isBroken (base : Nat) (rest : List Char) : Bool :=
  base == 10 && (rest.head? == some '.' || rest.head? == some 'e' || rest.head? == some 'E')

/-- The number at the front and what stands behind it. Integers have up to 128 bits; their digits
may be grouped by underscores, but do not end with one. -/
def numeral (cs : List Char) : Token × List Char :=
  let (b, cs) := base cs
  let written := cs.takeWhile (continuesNumber b)
  let rest := cs.dropWhile (continuesNumber b)
  let digits := written.filter (· != '_')
  match Text.number? b digits with
  | some n =>
    if digits.isEmpty || written.getLast? == some '_' || isBroken b rest
        || 0x100000000000000000000000000000000 ≤ n then
      (.fault .badSyntax, [])
    else (.number n, rest)
  | none => (.fault .badSyntax, [])

/-! ## Tokens -/

/-- The symbol at the front, two characters long where possible, and what stands behind it. -/
def symbol? : List Char → Option (Symbol × List Char)
  | '/' :: '/' :: cs => some (.floorDiv, cs)
  | '=' :: '=' :: cs => some (.eq, cs)
  | '!' :: '=' :: cs => some (.ne, cs)
  | '<' :: '=' :: cs => some (.le, cs)
  | '>' :: '=' :: cs => some (.ge, cs)
  | '<' :: cs => some (.lt, cs)
  | '>' :: cs => some (.gt, cs)
  | '=' :: cs => some (.assign, cs)
  | '+' :: cs => some (.plus, cs)
  | '-' :: cs => some (.minus, cs)
  | '*' :: cs => some (.times, cs)
  | '%' :: cs => some (.percent, cs)
  | '~' :: cs => some (.tilde, cs)
  | '.' :: cs => some (.dot, cs)
  | ',' :: cs => some (.comma, cs)
  | ':' :: cs => some (.colon, cs)
  | '|' :: cs => some (.bar, cs)
  | '(' :: cs => some (.openParen, cs)
  | ')' :: cs => some (.closeParen, cs)
  | '[' :: cs => some (.openBracket, cs)
  | ']' :: cs => some (.closeBracket, cs)
  | _ => none

/-- The text between quotes, from behind the first one, and what stands behind the second one. -/
def quotedText (quote : Char) (cs : List Char) : Token × List Char :=
  match quoted? quote cs with
  | some (written, rest) =>
    match unescape? 0 written with
    | some s => (.text (String.ofList s), rest)
    | none => (.fault .badEscape, [])
  | none => (.fault .badSyntax, [])

/-- The token at the front and what stands behind it. -/
def Token.scan : List Char → Token × List Char
  | [] => (.fault .badSyntax, [])
  | c :: cs =>
    if startsWord c then
      (.word (String.ofList (c :: cs.takeWhile continuesWord)), cs.dropWhile continuesWord)
    else if c.isDigit then numeral (c :: cs)
    else if c = '"' ∨ c = '\'' then quotedText c cs
    else
      match symbol? (c :: cs) with
      | some (s, rest) => (.symbol s, rest)
      | none => (.fault .badSyntax, [])

/-! ## Tags -/

/-- The end marker of a tag: the given character and a closing brace, with or without a sign. -/
def endMarker? (close : Char) : List Char → Option (Edge × List Char)
  | '-' :: c :: '\x7d' :: cs => if c = close then some (.cut, cs) else none
  | '+' :: c :: '\x7d' :: cs => if c = close then some (.kept, cs) else none
  | c :: '\x7d' :: cs => if c = close then some (.usual, cs) else none
  | _ => none

/-- A tag that was read: its tokens, and the edge behind its end marker with what follows. A tag
whose tokens end with a fault has no end marker. -/
structure ScannedTag where
  tokens : List Token
  behind : Option (Edge × List Char)

/-- Reads the tokens up to the end marker. -/
def scanTokens (close : Char) : Nat → List Char → ScannedTag
  | 0, _ => ⟨[.fault .badSyntax], none⟩
  | fuel + 1, cs =>
    let cs := cs.dropWhile isGap
    match endMarker? close cs with
    | some behind => ⟨[], some behind⟩
    | none =>
      match Token.scan cs with
      | (.fault e, _) => ⟨[.fault e], none⟩
      | (token, rest) =>
        let tag := scanTokens close fuel rest
        { tag with tokens := token :: tag.tokens }

/-- Reads the inside of a tag. Every token takes a character at least, so the number of characters
bounds the number of tokens. -/
def scanTag (close : Char) (cs : List Char) : ScannedTag :=
  scanTokens close (cs.length + 1) cs

end MapBacked.Template
