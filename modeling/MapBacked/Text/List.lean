/-!
# Texts in a row

Lists of texts are printed in several places (type arguments, parameters, list values), each time
with a separator between two neighbours and none at the ends. The other way round, texts are taken
apart at a character.
-/

namespace MapBacked.Text

/-- The texts one after the other, the separator between every two neighbours. -/
def separated (sep : String) : List String → String
  | [] => ""
  | [s] => s
  | s :: t :: rest => s ++ sep ++ separated sep (t :: rest)

@[simp] theorem separated_nil (sep : String) : separated sep [] = "" := rfl

@[simp] theorem separated_singleton (sep s : String) : separated sep [s] = s := rfl

@[simp] theorem separated_cons_cons (sep s t : String) (rest : List String) :
    separated sep (s :: t :: rest) = s ++ sep ++ separated sep (t :: rest) := rfl

/-- The texts between two brackets, or nothing when there is none. -/
def bracketed (texts : List String) : String :=
  if texts.isEmpty then "" else "<" ++ separated ", " texts ++ ">"

/-- The pieces between the places where a character stands. There is one piece at least. -/
def split (c : Char) : List Char → List (List Char)
  | [] => [[]]
  | d :: cs =>
    if d = c then [] :: split c cs
    else
      match split c cs with
      | [] => [[d]]
      | piece :: rest => (d :: piece) :: rest

end MapBacked.Text
