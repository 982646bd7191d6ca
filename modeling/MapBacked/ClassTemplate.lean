/-!
# The class template

The template of a class whose instances are maps. The constructor takes every property, hands all of
them to the superclass in order, and fills the store with the keys and values; the members of the
map contract read the store, and the mutators refuse. Keys are the only texts that are put between
quotes, so they are the only ones that go through a filter.
-/

namespace MapBacked.ClassTemplate

def lines : List String :=
  ["\x7b% if packageName %\x7d",
   "package \x7b\x7b packageName \x7d\x7d;",
   "",
   "\x7b% endif %\x7d",
   "import java.util.Collection;",
   "import java.util.Collections;",
   "import java.util.LinkedHashMap;",
   "import java.util.Map;",
   "import java.util.Set;",
   "",
   "\x7b% if isFinal %\x7dfinal\x7b% else %\x7dabstract\x7b% endif %\x7d class \x7b\x7b className \x7d\x7d\x7b\x7b typeParameters \x7d\x7d extends \x7b\x7b classToExtend \x7d\x7d\x7b\x7b typeParameters \x7d\x7d \x7b",
   "",
   "  private final Map<String, Object> $store;",
   "",
   "  \x7b\x7b className \x7d\x7d(",
   "\x7b% for property in properties %\x7d",
   "      \x7b\x7b property.nullable \x7d\x7d\x7b\x7b property.type \x7d\x7d \x7b\x7b property.name \x7d\x7d\x7b\x7b \",\" if not loop.last else \"\" \x7d\x7d",
   "\x7b% endfor %\x7d",
   "  ) \x7b",
   "    super(\x7b% for property in properties %\x7d\x7b\x7b property.name \x7d\x7d\x7b\x7b \", \" if not loop.last else \"\" \x7d\x7d\x7b% endfor %\x7d);",
   "    Map<String, Object> $entries = new LinkedHashMap<>();",
   "\x7b% for property in properties %\x7d",
   "    $entries.put(\x7b\x7b property.key | java_string \x7d\x7d, \x7b\x7b property.value \x7d\x7d);",
   "\x7b% endfor %\x7d",
   "    this.$store = Collections.unmodifiableMap($entries);",
   "  \x7d",
   "",
   "  @Override",
   "  public int size() \x7b",
   "    return $store.size();",
   "  \x7d",
   "",
   "  @Override",
   "  public boolean isEmpty() \x7b",
   "    return $store.isEmpty();",
   "  \x7d",
   "",
   "  @Override",
   "  public boolean containsKey(Object key) \x7b",
   "    return $store.containsKey(key);",
   "  \x7d",
   "",
   "  @Override",
   "  public boolean containsValue(Object value) \x7b",
   "    return $store.containsValue(value);",
   "  \x7d",
   "",
   "  @Override",
   "  public Object get(Object key) \x7b",
   "    return $store.get(key);",
   "  \x7d",
   "",
   "  @Override",
   "\x7b% if rawMap %\x7d",
   "  public Object put(Object key, Object value) \x7b",
   "\x7b% else %\x7d",
   "  public Object put(String key, Object value) \x7b",
   "\x7b% endif %\x7d",
   "    throw new UnsupportedOperationException();",
   "  \x7d",
   "",
   "  @Override",
   "  public Object remove(Object key) \x7b",
   "    throw new UnsupportedOperationException();",
   "  \x7d",
   "",
   "  @Override",
   "\x7b% if rawMap %\x7d",
   "  public void putAll(Map other) \x7b",
   "\x7b% else %\x7d",
   "  public void putAll(Map<? extends String, ?> other) \x7b",
   "\x7b% endif %\x7d",
   "    throw new UnsupportedOperationException();",
   "  \x7d",
   "",
   "  @Override",
   "  public void clear() \x7b",
   "    throw new UnsupportedOperationException();",
   "  \x7d",
   "",
   "  @Override",
   "  public Set<String> keySet() \x7b",
   "    return $store.keySet();",
   "  \x7d",
   "",
   "  @Override",
   "  public Collection<Object> values() \x7b",
   "    return $store.values();",
   "  \x7d",
   "",
   "  @Override",
   "  public Set<Map.Entry<String, Object>> entrySet() \x7b",
   "    return $store.entrySet();",
   "  \x7d",
   "\x7d"]

/-- The template as a text; every line ends with a line end. -/
def source : String := String.ofList (lines.flatMap fun l => l.toList ++ ['\n'])

end MapBacked.ClassTemplate
