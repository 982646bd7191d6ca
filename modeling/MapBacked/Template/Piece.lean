import MapBacked.Template.Token
import MapBacked.Text.Space

/-!
# The pieces of a template

A template is a text with tags in it: outputs, statements, comments and raw passages. `Piece.cut`
takes it apart. Comments leave nothing behind and raw passages become text.

Blanks next to a tag belong to it under these rules. A sign at the marker decides for its side:
minus cuts off all blanks there, plus keeps them. Without a sign, a statement or comment that stands
first in its line takes the blanks before it along, and one line end directly behind it, so that a
line that holds nothing else vanishes from the text. An output takes no blanks unless told to.

A tag that never ends, or has a fault in it, is the last piece.
-/

namespace MapBacked.Template

inductive Piece where
  | text (cs : List Char)
  | output (tokens : List Token)
  | statement (tokens : List Token)
  | unclosed
deriving DecidableEq, Inhabited, Repr

inductive TagKind where
  | output
  | statement
  | comment
deriving DecidableEq, Inhabited, Repr

/-- The kind of tag a character behind an opening brace opens. -/
def TagKind.ofChar? : Char → Option TagKind
  | '\x7b' => some .output
  | '%' => some .statement
  | '#' => some .comment
  | _ => none

namespace Piece

/-! ## Blanks next to a tag -/

/-- Whether the character ends a line. -/
def isLineEnd (c : Char) : Bool := c == '\n' || c == '\r'

/-- Whether only blanks stand between the last line end and here, after some more characters. -/
def blankLine : Bool → List Char → Bool
  | blank, [] => blank
  | blank, c :: cs => blankLine (isLineEnd c || (blank && Text.isSpace c)) cs

/-- The text without its last line, which is blank. -/
def dropIndent (cs : List Char) : List Char :=
  let rest := (cs.reverse.dropWhile fun c => Text.isSpace c && !isLineEnd c).reverse
  -- behind a lone carriage return the line stays
  if rest.isEmpty || rest.getLast? == some '\n' then rest else cs

/-- The text in front of a tag. `alone` says whether the tag goes first in its line and takes its
indentation along. -/
def before (edge : Edge) (alone : Bool) (cs : List Char) : List Char :=
  match edge with
  | .cut => Text.trimEnd cs
  | .kept => cs
  | .usual => if alone then dropIndent cs else cs

/-- The line end at the front. -/
def lineEnd : List Char → List Char
  | '\r' :: '\n' :: _ => ['\r', '\n']
  | '\r' :: _ => ['\r']
  | '\n' :: _ => ['\n']
  | _ => []

/-- The blanks that go with the tag in front of them. `takesLineEnd` says whether the tag is one
that takes a line end along. -/
def taken (edge : Edge) (takesLineEnd : Bool) (cs : List Char) : List Char :=
  match edge with
  | .cut => cs.takeWhile Text.isSpace
  | .kept => []
  | .usual => if takesLineEnd then lineEnd cs else []

/-! ## Tags without tokens -/

/-- The kind of tag that opens with a character and those behind it, and what stands behind its
marker. -/
def opening? (c : Char) (cs : List Char) : Option (TagKind × List Char) :=
  if c = '\x7b' then
    match cs with
    | d :: rest => (TagKind.ofChar? d).map fun kind => (kind, rest)
    | [] => none
  else none

/-- Parts the text at the first place where a tag opens: what stands before it, and the kind of tag
with what stands behind its marker. -/
def split : List Char → List Char × Option (TagKind × List Char)
  | [] => ([], none)
  | c :: cs =>
    match opening? c cs with
    | some tag => ([], some tag)
    | none =>
      let (lead, tag) := split cs
      (c :: lead, tag)

/-- The inside of a comment and what stands behind its end marker. -/
def comment? : List Char → Option (List Char × List Char)
  | [] => none
  | '#' :: '\x7d' :: cs => some ([], cs)
  | c :: cs => do
    let (inside, rest) ← comment? cs
    return (c :: inside, rest)

/-- The edge behind a comment: the sign at the end of it. -/
def commentEdge (inside : List Char) : Edge :=
  match inside.getLast? with
  | some '-' => .cut
  | some '+' => .kept
  | _ => .usual

/-- What stands behind a word. -/
def afterWord? : List Char → List Char → Option (List Char)
  | [], cs => some cs
  | w :: ws, c :: cs => if w = c then afterWord? ws cs else none
  | _ :: _, [] => none

/-- Reads a statement that consists of one word, and gives the edge behind it and what follows. -/
def wordTag? (word : String) (cs : List Char) : Option (Edge × List Char) := do
  let rest ← afterWord? word.toList (cs.dropWhile isGap)
  endMarker? '%' (rest.dropWhile isGap)

/-- The inside of a raw passage, the edges of the tag that ends it, and what stands behind that. -/
def raw? : List Char → Option (List Char × Edge × Edge × List Char)
  | [] => none
  | '\x7b' :: '%' :: cs =>
    let (edge, inner) := Edge.scan cs
    match wordTag? "endraw" inner with
    | some (edgeBehind, rest) => some ([], edge, edgeBehind, rest)
    | none => do
      let (inside, edge, edgeBehind, rest) ← raw? cs
      return ('\x7b' :: '%' :: inside, edge, edgeBehind, rest)
  | c :: cs => do
    let (inside, edge, edgeBehind, rest) ← raw? cs
    return (c :: inside, edge, edgeBehind, rest)

/-! ## Cutting -/

/-- A tag that was read: the pieces it leaves, whether it takes a line end along, and the edge
behind it with what follows, unless it does not end. -/
structure CutTag where
  pieces : List Piece
  takesLineEnd : Bool
  behind : Option (Edge × List Char)

/-- Reads a tag from behind its marker and sign. -/
def tag (kind : TagKind) (cs : List Char) : CutTag :=
  match kind with
  | .output =>
    let t := scanTag '\x7d' cs
    ⟨[.output t.tokens], false, t.behind⟩
  | .comment =>
    match comment? cs with
    | some (inside, rest) => ⟨[], true, some (commentEdge inside, rest)⟩
    | none => ⟨[.unclosed], true, none⟩
  | .statement =>
    match wordTag? "raw" cs with
    | some (start, body) =>
      match raw? body with
      | some (inside, stop, edge, rest) =>
        let inside := inside.drop (taken start true inside).length
        ⟨[.text (before stop (blankLine true inside) inside)], true, some (edge, rest)⟩
      | none => ⟨[.unclosed], true, none⟩
    | none =>
      let t := scanTag '%' cs
      ⟨[.statement t.tokens], true, t.behind⟩

/-- Cuts a text into pieces. `blank` says whether the line the text goes on with is blank so far. -/
def cutFrom : Nat → Bool → List Char → List Piece
  | 0, _, _ => [.unclosed]
  | fuel + 1, blank, cs =>
    match split cs with
    | (lead, none) => [.text lead]
    | (lead, some (kind, inner)) =>
      let (edge, inner) := Edge.scan inner
      let lead := before edge (kind != .output && blankLine blank lead) lead
      let t := tag kind inner
      .text lead :: (t.pieces ++
        match t.behind with
        | some (edge, rest) =>
          let blanks := taken edge t.takesLineEnd rest
          cutFrom fuel (blankLine false blanks) (rest.drop blanks.length)
        | none => [])

/-- Cuts a template into pieces. Every tag takes two characters at least, so the number of
characters bounds the number of tags. -/
def cut (cs : List Char) : List Piece := cutFrom (cs.length + 1) true cs

end Piece

end MapBacked.Template
