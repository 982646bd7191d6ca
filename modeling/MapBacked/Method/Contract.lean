import MapBacked.Method.Signature
import MapBacked.SortedSet

/-!
# The dictionary contract

Every member the dictionary interface declares, and the part of it that generated classes
implement. A generated class takes over the abstract members only; the rest stays with the
interface. The names it takes over are also handed out on their own, and there `remove` stands for
its form with one parameter, since the other one is not abstract.
-/

namespace MapBacked

/-- The members without a body. -/
def abstractMembers : List MethodSig :=
  [⟨"size", [], "int", .abstract⟩,
   ⟨"isEmpty", [], "boolean", .abstract⟩,
   ⟨"containsKey", ["Object"], "boolean", .abstract⟩,
   ⟨"containsValue", ["Object"], "boolean", .abstract⟩,
   ⟨"get", ["Object"], "V", .abstract⟩,
   ⟨"put", ["K", "V"], "V", .abstract⟩,
   ⟨"remove", ["Object"], "V", .abstract⟩,
   ⟨"putAll", ["Map<? extends K, ? extends V>"], "void", .abstract⟩,
   ⟨"clear", [], "void", .abstract⟩,
   ⟨"keySet", [], "Set<K>", .abstract⟩,
   ⟨"values", [], "Collection<V>", .abstract⟩,
   ⟨"entrySet", [], "Set<Map.Entry<K, V>>", .abstract⟩]

/-- The members declared again that every object has. -/
def objectMembers : List MethodSig :=
  [⟨"equals", ["Object"], "boolean", .objectInherited⟩,
   ⟨"hashCode", [], "int", .objectInherited⟩]

/-- The members with a body. -/
def defaultMembers : List MethodSig :=
  [⟨"getOrDefault", ["Object", "V"], "V", .default⟩,
   ⟨"forEach", ["BiConsumer<? super K, ? super V>"], "void", .default⟩,
   ⟨"replaceAll", ["BiFunction<? super K, ? super V, ? extends V>"], "void", .default⟩,
   ⟨"putIfAbsent", ["K", "V"], "V", .default⟩,
   ⟨"remove", ["Object", "Object"], "boolean", .default⟩,
   ⟨"replace", ["K", "V", "V"], "boolean", .default⟩,
   ⟨"replace", ["K", "V"], "V", .default⟩,
   ⟨"computeIfAbsent", ["K", "Function<? super K, ? extends V>"], "V", .default⟩,
   ⟨"computeIfPresent", ["K", "BiFunction<? super K, ? super V, ? extends V>"], "V", .default⟩,
   ⟨"compute", ["K", "BiFunction<? super K, ? super V, ? extends V>"], "V", .default⟩,
   ⟨"merge", ["K", "V", "BiFunction<? super V, ? super V, ? extends V>"], "V", .default⟩]

/-- The members without an instance. -/
def staticMembers : List MethodSig :=
  [⟨"of", [], "Map<K, V>", .static⟩,
   ⟨"of", ["K", "V"], "Map<K, V>", .static⟩,
   ⟨"ofEntries", ["Map.Entry<? extends K, ? extends V>..."], "Map<K, V>", .static⟩,
   ⟨"entry", ["K", "V"], "Map.Entry<K, V>", .static⟩,
   ⟨"copyOf", ["Map<? extends K, ? extends V>"], "Map<K, V>", .static⟩]

/-- The members of the dictionary interface in the order of their declaration. -/
def dictionaryContract : List MethodSig :=
  abstractMembers ++ objectMembers ++ defaultMembers ++ staticMembers

/-- The names of the members a generated class implements. -/
def capabilities : List String :=
  ["clear", "containsKey", "containsValue", "entrySet", "get", "isEmpty", "keySet", "put",
   "putAll", "remove", "size", "values"]

/-- Whether a generated class implements the member. -/
def MethodSig.isConsumed (m : MethodSig) : Bool :=
  m.kind.isAbstract && if m.name = "remove" then m.arity == 1 else capabilities.contains m.name

/-- The members a generated class implements, in order. -/
def consumedMethods : List MethodSig :=
  SortedSet.ofList (dictionaryContract.filter MethodSig.isConsumed)

end MapBacked
