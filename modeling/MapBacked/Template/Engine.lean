import MapBacked.Template.Value

/-!
# Template engines

Class templates are compiled and rendered by an engine, which is no part of this library. The
library relies on two things only: an engine turns a source into a template or says what is wrong
with it, and it renders a template under given values of its names, which can go wrong as well. What
is said of extensions and of what they generate is said for every engine.

The engine that is meant has the settings of class templates: a name that is not bound is a fault,
nothing is escaped on its own, a tag of a statement takes the blanks before it and the line end
behind it, the line end at the end of a template stays, and there is a filter `java_string` that
writes a text as a literal.
-/

namespace MapBacked.Template

/-- What the names are bound to. -/
abbrev Scope := NameMap Value

/-- What compiles and renders templates. A fault is the text that it is reported with. -/
structure Engine where
  Compiled : Type
  compile : String → Except String Compiled
  render : Compiled → Scope → Except String String

end MapBacked.Template
