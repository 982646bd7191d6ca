import MapBacked.Proofs.ClassText.Lines
import MapBacked.Renderer
import MapBacked.Template.Rendering

/-!
# The tree of the class template

The built-in template read once and for all. Its source is cut into pieces (`cut_source`), and the
pieces make the tree that `ClassTemplate.tree` is (`parse_source`), so everything the renderer does
with the template is a matter of this tree. Both steps are evaluated; the source is turned into
characters line by line before, because decoding it as a whole is what takes long.

The texts between the tags are given as lines where they are lines, in the words of the direct
description of the class.
-/

namespace MapBacked.ClassTemplate

open Template ClassText

/-! ## Texts between the tags -/

/-- What stands between the head of the class and the constructor's name. -/
def beforeConstructor : String := " \x7b" ++ "\n" ++ Text.ofLines storeLines ++ "  "

/-- What stands between the names handed to the superclass and the first entry. -/
def beforeEntries : String :=
  ");" ++ "\n" ++ Text.ofLines ["    Map<String, Object> $entries = new LinkedHashMap<>();"]

/-- What stands between the last entry and the signature of the first mutator. -/
def beforePut : String := Text.ofLines (storingLines ++
  memberLines "int size()" (reading "size()") ++
  memberLines "boolean isEmpty()" (reading "isEmpty()") ++
  memberLines "boolean containsKey(Object key)" (reading "containsKey(key)") ++
  memberLines "boolean containsValue(Object value)" (reading "containsValue(value)") ++
  memberLines "Object get(Object key)" (reading "get(key)") ++ ["", "  @Override"])

/-- What stands between the signatures that depend on the usage. -/
def beforePutAll : String := Text.ofLines (["    " ++ refusing, "  \x7d"] ++
  memberLines "Object remove(Object key)" refusing ++ ["", "  @Override"])

def behindPutAll : String := Text.ofLines (["    " ++ refusing, "  \x7d"] ++
  memberLines "void clear()" refusing ++
  memberLines "Set<String> keySet()" (reading "keySet()") ++
  memberLines "Collection<Object> values()" (reading "values()") ++
  memberLines "Set<Map.Entry<String, Object>> entrySet()" (reading "entrySet()") ++ ["\x7d"])

def signatureLine (signature : String) : String :=
  Text.ofLines ["  public " ++ signature ++ " \x7b"]

/-! ## Pieces -/

def textPiece (s : String) : Piece := .text s.toList

/-- An output of a part of a property. -/
def partPiece (name : String) : Piece :=
  .output [.word "property", .symbol .dot, .word name]

/-- An output of a separator behind all but the last item. -/
def separatorPiece (sep : String) : Piece :=
  .output [.text sep, .word "if", .word "not", .word "loop", .symbol .dot, .word "last",
    .word "else", .text ""]

/-- The head of a loop over the properties. -/
def loopPiece : Piece :=
  .statement [.word "for", .word "property", .word "in", .word "properties"]

/-- The pieces of the template. -/
def pieces : List Piece :=
  [textPiece "", .statement [.word "if", .word "packageName"], textPiece "package ",
   .output [.word "packageName"], textPiece ";\n\n", .statement [.word "endif"],
   textPiece (Text.ofLines importLines), .statement [.word "if", .word "isFinal"],
   textPiece "final", .statement [.word "else"], textPiece "abstract", .statement [.word "endif"],
   textPiece " class ", .output [.word "className"], textPiece "", .output [.word "typeParameters"],
   textPiece " extends ", .output [.word "classToExtend"], textPiece "",
   .output [.word "typeParameters"], textPiece beforeConstructor, .output [.word "className"],
   textPiece "(\n", loopPiece, textPiece "      ", partPiece "nullable", textPiece "",
   partPiece "type", textPiece " ", partPiece "name", textPiece "", separatorPiece ",",
   textPiece "\n", .statement [.word "endfor"], textPiece "  ) \x7b\n    super(", loopPiece,
   textPiece "", partPiece "name", textPiece "", separatorPiece ", ", textPiece "",
   .statement [.word "endfor"], textPiece beforeEntries, loopPiece, textPiece "    $entries.put(",
   .output [.word "property", .symbol .dot, .word "key", .symbol .bar, .word "java_string"],
   textPiece ", ", partPiece "value", textPiece ");\n", .statement [.word "endfor"],
   textPiece beforePut, .statement [.word "if", .word "rawMap"],
   textPiece (signatureLine (putSignature true)), .statement [.word "else"],
   textPiece (signatureLine (putSignature false)), .statement [.word "endif"],
   textPiece beforePutAll, .statement [.word "if", .word "rawMap"],
   textPiece (signatureLine (putAllSignature true)), .statement [.word "else"],
   textPiece (signatureLine (putAllSignature false)), .statement [.word "endif"],
   textPiece behindPutAll]

/-! ## Statements -/

/-- The text of a piece as a statement. -/
def passage (s : String) : Stmt := .text (String.ofList s.toList)

def part (name : String) : Stmt := .output (.attr (.name "property") name)

def separator (sep : String) : Stmt :=
  .output (.choice (.not (.attr (.name "loop") "last")) (.literal (.text sep))
    (.literal (.text "")))

def overProperties (body : List Stmt) : Stmt :=
  .loop "property" (.name "properties") none body []

/-- The parameter of a property. -/
def parameterBody : List Stmt :=
  [passage "      ", part "nullable", passage "", part "type", passage " ", part "name", passage "",
   separator ",", passage "\n"]

/-- The argument of the superclass' constructor for a property. -/
def argumentBody : List Stmt := [passage "", part "name", passage "", separator ", ", passage ""]

/-- The entry of a property. -/
def entryBody : List Stmt :=
  [passage "    $entries.put(",
   .output (.filter "java_string" (.attr (.name "property") "key") [] []),
   passage ", ", part "value", passage ");\n"]

/-- The tree of the template. -/
def tree : List Stmt :=
  [passage "",
   .branch (.name "packageName")
    [passage "package ", .output (.name "packageName"), passage ";\n\n"] [],
   passage (Text.ofLines importLines),
   .branch (.name "isFinal") [passage "final"] [passage "abstract"],
   passage " class ", .output (.name "className"), passage "", .output (.name "typeParameters"),
   passage " extends ", .output (.name "classToExtend"), passage "",
   .output (.name "typeParameters"), passage beforeConstructor, .output (.name "className"), passage "(\n",
   overProperties parameterBody,
   passage "  ) \x7b\n    super(",
   overProperties argumentBody,
   passage beforeEntries,
   overProperties entryBody,
   passage beforePut,
   .branch (.name "rawMap") [passage (signatureLine (putSignature true))]
    [passage (signatureLine (putSignature false))],
   passage beforePutAll,
   .branch (.name "rawMap") [passage (signatureLine (putAllSignature true))]
    [passage (signatureLine (putAllSignature false))],
   passage behindPutAll]

/-! ## Reading the source -/

theorem source_eq : source = Text.ofLines lines := rfl

set_option maxRecDepth 4000 in
theorem cut_source : Piece.cut source.toList = pieces := by
  rw [source_eq]
  unfold lines
  repeat rw [Text.toList_ofLines_cons]
  simp only [pieces, textPiece, beforeConstructor, beforeEntries, beforePut, beforePutAll,
    behindPutAll, signatureLine, importLines, storeLines, storingLines, memberLines, reading,
    refusing, putSignature, putAllSignature, if_true, Bool.false_eq_true, if_false,
    List.cons_append, List.nil_append, Text.ofLines_cons, Text.ofLines_nil, String.toList_append]
  repeat rw [String.toList_ofList]
  decide +kernel

/-- The pieces make the tree, and nothing is left behind it. -/
theorem body_pieces :
    Grammar.body (4 * pieces.length + 4) (Grammar.readers Grammar.maxDepth) pieces
      = .ok (tree, none, []) := rfl

/-- **The built-in template is read without a fault**, and this is its tree. -/
theorem parse_source : parse source = .ok tree := by
  rw [parse, cut_source, body_pieces]
  rfl

theorem compile_source : Engine.ofTrees.compile source = .ok tree := by
  rw [Engine.compile_ofTrees, parse_source]
  rfl

theorem builtin_eq : Renderer.builtin .ofTrees = .ok ⟨tree⟩ := by
  rw [Renderer.builtin, Renderer.ofSource, compile_source]
  rfl

end MapBacked.ClassTemplate
