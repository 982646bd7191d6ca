import MapBacked.Text.Digits

/-!
# How Java reads a string literal

Java reads source in two passes, and this is both of them, apart from anything that writes source.

The first pass turns characters into signs (`signs`). A backslash with an even number of backslashes
right in front of it, a `u` behind it and four hexadecimal digits behind the last `u` in a row is
one sign with them, the one of the number that the digits are; any other character is a sign of its
own. Where such a backslash has its `u` but not its digits the source is in error, and since nobody
has to read that far, the error is a sign too.

The second pass reads one literal (`literal?`), from its opening quote to the first quote that no
backslash takes for itself. It is blind to how its signs were spelled, so a line end is none of its
signs in either spelling. Seven letters may follow a backslash. What a literal says is a sequence of
code points: two signs that are the halves of a surrogate pair are one of them (`codePoints`).

Literals of several lines, which have three quotes on both sides, are not read here.
-/

namespace MapBacked.Java

/-! ## Signs -/

/-- What the first pass makes of characters in a row. -/
inductive Sign where
  | plain (c : Char)
  | escaped (marks digits : List Char) (n : Nat)
  | broken
deriving DecidableEq, Repr

namespace Sign

/-- The number a sign stands for. An error stands for none. -/
def value : Sign → Option Nat
  | .plain c => some c.toNat
  | .escaped _ _ n => some n
  | .broken => none

/-- The characters of a sign. -/
def source : Sign → List Char
  | .plain c => [c]
  | .escaped marks digits _ => '\\' :: (marks ++ digits)
  | .broken => ['\\']

end Sign

/-- The number of the first four characters, if they are hexadecimal digits. -/
def fourDigits? (cs : List Char) : Option Nat :=
  if (cs.take 4).length = 4 then Text.hexNumber? (cs.take 4) else none

/-- What stands behind the marks of a Unicode escape. -/
def behindMarks (cs : List Char) : List Char := cs.dropWhile (· == 'u')

/-- The first pass. `even` says whether the number of backslashes right in front is even. -/
def signs (even : Bool) : List Char → List Sign
  | [] => []
  | c :: cs =>
    if c = '\\' then
      if even && cs.head? == some 'u' then
        match fourDigits? (behindMarks cs) with
        | some n =>
          .escaped (cs.takeWhile (· == 'u')) ((behindMarks cs).take 4) n
            :: signs true ((behindMarks cs).drop 4)
        | none => .broken :: signs false cs
      else .plain c :: signs (!even) cs
    else .plain c :: signs true cs
termination_by cs => cs.length
decreasing_by
  all_goals simp only [List.length_cons, List.length_drop]
  · have := (List.dropWhile_suffix (l := cs) (· == 'u')).length_le
    unfold behindMarks
    omega
  all_goals omega

/-- No character gets lost, and none is made up. -/
theorem source_signs (even : Bool) (cs : List Char) : (signs even cs).flatMap Sign.source = cs := by
  fun_induction signs even cs with
  | case1 => rfl
  | case2 even cs heven n hn ih =>
    rw [List.flatMap_cons, ih]
    show '\\' :: (cs.takeWhile (· == 'u') ++ (behindMarks cs).take 4)
      ++ (behindMarks cs).drop 4 = _
    rw [List.cons_append, List.append_assoc, List.take_append_drop]
    exact congrArg _ List.takeWhile_append_dropWhile
  | case3 even cs heven hn ih => rw [List.flatMap_cons, ih]; rfl
  | case4 even cs heven ih => rw [List.flatMap_cons, ih]; rfl
  | case5 even c cs hc ih => rw [List.flatMap_cons, ih]; rfl

/-! ## Literals -/

/-- The number that a letter behind a backslash stands for. -/
def letter? (n : Nat) : Option Nat :=
  ([('b', '\x08'), ('t', '\t'), ('n', '\n'), ('f', '\x0c'), ('r', '\r'), ('"', '"'),
    ('\\', '\\')].find? fun e => e.1.toNat == n).map fun e => e.2.toNat

/-- The second pass behind the opening quote: what the literal says, and the signs behind it.
`taken` says whether a backslash takes the next sign for itself. -/
def body : Bool → List Sign → Option (List Nat × List Sign)
  | _, [] => none
  | true, s :: ss => do
    let n ← s.value.bind letter?
    (body false ss).map fun (said, rest) => (n :: said, rest)
  | false, s :: ss => do
    let n ← s.value
    if n = '"'.toNat then some ([], ss)
    else if n = '\n'.toNat ∨ n = '\r'.toNat then none
    else if n = '\\'.toNat then body true ss
    else (body false ss).map fun (said, rest) => (n :: said, rest)

/-- The second pass. -/
def literal? : List Sign → Option (List Nat × List Sign)
  | [] => none
  | s :: ss => if s.value = some '"'.toNat then body false ss else none

/-! ## Code points -/

/-- Whether the number is the first half of a surrogate pair. -/
def isHigh (n : Nat) : Bool := 0xd800 ≤ n && n < 0xdc00

/-- Whether the number is the second half of a surrogate pair. -/
def isLow (n : Nat) : Bool := 0xdc00 ≤ n && n < 0xe000

/-- The code points of signs, surrogate pairs taken together. -/
def codePoints : List Nat → List Nat
  | [] => []
  | [n] => [n]
  | n :: m :: rest =>
    if isHigh n && isLow m then (0x10000 + (n - 0xd800) * 0x400 + (m - 0xdc00)) :: codePoints rest
    else n :: codePoints (m :: rest)

/-- The code points of one literal, and the characters behind it. -/
def read (cs : List Char) : Option (List Nat × List Char) :=
  (literal? (signs true cs)).map fun (said, rest) => (codePoints said, rest.flatMap Sign.source)

-- a quote ends a literal in either spelling, unless its backslash is taken
example : read "\"a\\u0022 b".toList = some (['a'.toNat], " b".toList) := by cbv
example : read "\"\\\\u0022\" b".toList
    = some ("\\u0022".toList.map Char.toNat, " b".toList) := by cbv

end MapBacked.Java
