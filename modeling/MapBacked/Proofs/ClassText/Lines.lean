import MapBacked.Descriptor
import MapBacked.Proofs.Text.Lines
import MapBacked.Text.Literal

/-!
# The text of a class, line by line

What the generated class looks like, said without any template: a list of lines that is a function
of the descriptor (`ClassDescriptor.lines`).

Few parts depend on the class. The package is named unless it is the default one, the constructor
takes the properties in order with a comma between every two, hands their names on to the superclass
in the same order and puts one entry after the other, and the two mutators that take keys or maps
have erased signatures for a raw map. Everything else is the same for all classes.
-/

namespace MapBacked

namespace ClassText

/-! ## Parts that every class has -/

def importLines : List String :=
  ["import java.util.Collection;", "import java.util.Collections;",
   "import java.util.LinkedHashMap;", "import java.util.Map;", "import java.util.Set;", ""]

def storeLines : List String := ["", "  private final Map<String, Object> $store;", ""]

/-- A public member that overrides one of the superclass and has one statement, below a blank
line. -/
def memberLines (signature statement : String) : List String :=
  ["", "  @Override", "  public " ++ signature ++ " \x7b", "    " ++ statement, "  \x7d"]

/-- The statement of a member that reads the store. -/
def reading (call : String) : String := "return $store." ++ call ++ ";"

/-- The statement of a member that would change the store. -/
def refusing : String := "throw new UnsupportedOperationException();"

/-! ## Parts that depend on the class -/

/-- The package, and a blank line behind it. The default package has no name to be given. -/
def packageLines (name : String) : List String :=
  if name = "" then [] else ["package " ++ name ++ ";", ""]

/-- The line that opens the class. The type parameters stand behind both names. -/
def headLine (d : ClassDescriptor) : String :=
  (if d.isFinal then "final" else "abstract") ++ " class " ++ d.className ++ d.typeParameters
    ++ " extends " ++ d.superclassName ++ d.typeParameters ++ " \x7b"

/-- A parameter of the constructor on a line of its own. -/
def parameter (p : PropertySpec) : String :=
  "      " ++ p.nullable ++ p.type ++ " " ++ p.name

/-- The parameters of the constructor, a comma behind all but the last. -/
def parameterLines : List PropertySpec → List String
  | [] => []
  | [p] => [parameter p]
  | p :: q :: rest => (parameter p ++ ",") :: parameterLines (q :: rest)

def superLine (ps : List PropertySpec) : String :=
  "    super(" ++ Text.separated ", " (ps.map PropertySpec.name) ++ ");"

/-- The statement that puts the entry of a property. -/
def putLine (p : PropertySpec) : String :=
  "    $entries.put(" ++ Text.literal p.key ++ ", " ++ p.value ++ ");"

/-- The constructor up to the first entry. -/
def constructorLines (d : ClassDescriptor) : List String :=
  ["  " ++ d.className ++ "("] ++ parameterLines d.properties ++
    ["  ) \x7b", superLine d.properties,
     "    Map<String, Object> $entries = new LinkedHashMap<>();"]

/-- The constructor behind the last entry. -/
def storingLines : List String :=
  ["    this.$store = Collections.unmodifiableMap($entries);", "  \x7d"]

def putSignature (raw : Bool) : String :=
  if raw then "Object put(Object key, Object value)" else "Object put(String key, Object value)"

def putAllSignature (raw : Bool) : String :=
  if raw then "void putAll(Map other)" else "void putAll(Map<? extends String, ?> other)"

/-- The members of the map contract. -/
def contractLines (raw : Bool) : List String :=
  memberLines "int size()" (reading "size()") ++
  memberLines "boolean isEmpty()" (reading "isEmpty()") ++
  memberLines "boolean containsKey(Object key)" (reading "containsKey(key)") ++
  memberLines "boolean containsValue(Object value)" (reading "containsValue(value)") ++
  memberLines "Object get(Object key)" (reading "get(key)") ++
  memberLines (putSignature raw) refusing ++
  memberLines "Object remove(Object key)" refusing ++
  memberLines (putAllSignature raw) refusing ++
  memberLines "void clear()" refusing ++
  memberLines "Set<String> keySet()" (reading "keySet()") ++
  memberLines "Collection<Object> values()" (reading "values()") ++
  memberLines "Set<Map.Entry<String, Object>> entrySet()" (reading "entrySet()")

end ClassText

open ClassText

/-- The lines of the generated class in front of the entries. -/
def ClassDescriptor.linesBefore (d : ClassDescriptor) : List String :=
  packageLines d.packageName ++ importLines ++ [headLine d] ++ storeLines ++ constructorLines d

/-- The lines of the generated class behind the entries. -/
def ClassDescriptor.linesBehind (d : ClassDescriptor) : List String :=
  storingLines ++ contractLines d.rawMap ++ ["\x7d"]

/-- The lines of the generated class. -/
def ClassDescriptor.lines (d : ClassDescriptor) : List String :=
  d.linesBefore ++ d.properties.map putLine ++ d.linesBehind

end MapBacked
