import MapBacked.Text.Digits
import MapBacked.Text.List

/-!
# Numbers, truth values, dates and times

The words of a TOML document that stand for values without quotes. Nothing is made of them but the
decision whether they are well formed. For an integer that is a question of its beginning and of the
underscores in it: what it stands for, and whether it has a place among the integers, is only asked
when somebody wants to know, and nobody does.
-/

namespace MapBacked.Toml.Scalar

/-! ## Numbers -/

def isHexDigit (c : Char) : Bool := (Text.hexValue? c).isSome

/-- Whether the pieces of a number between its underscores meet at digits. A first piece of one
character may be a sign. -/
def meetAtDigits (isDigit : Char → Bool) : List (List Char) → Bool
  | a :: b :: rest =>
    (a.length == 1 || a.getLast?.any isDigit) && b.head?.any isDigit
      && meetAtDigits isDigit (b :: rest)
  | _ => true

/-- Whether the underscores of a number stand where they may. -/
def isGrouped (isDigit : Char → Bool) (cs : List Char) : Bool :=
  meetAtDigits isDigit (Text.split '_' cs)

/-- Drops digits and underscores, among them one digit at least. Several digits begin with a zero
only where that is allowed. -/
def digits? (zeroFirst : Bool) (cs : List Char) : Option (List Char) :=
  let run := cs.takeWhile fun c => c.isDigit || c == '_'
  let count := run.countP Char.isDigit
  if count = 0 || (1 < count && cs.head? == some '0' && !zeroFirst) then none
  else some (cs.drop run.length)

def fractionPart? : List Char → Option (List Char)
  | '.' :: cs => digits? true cs
  | cs => some cs

def exponentPart? : List Char → Option (List Char)
  | c :: cs =>
    if c = 'e' ∨ c = 'E' then
      match cs with
      | '+' :: cs => digits? true cs
      | '-' :: cs => digits? true cs
      | cs => digits? true cs
    else some (c :: cs)
  | [] => some []

/-- Whether the number without its sign has the form of one with a fraction or an exponent. -/
def isFloat (cs : List Char) : Bool :=
  ((digits? false cs).bind fractionPart?).bind exponentPart? == some []

/-- Whether digits of another base stand there, or none. -/
def isBased (isDigit : Char → Bool) (cs : List Char) : Bool :=
  (cs.all fun c => isDigit c || c == '_') && isGrouped isHexDigit cs

/-- What follows the digits of a date or time. -/
def isMomentMark (c : Char) : Bool := c == '-' || c == ':'

/-! ## Dates and times -/

/-- The number of exactly so many digits at the front, and what follows. -/
def fixed? (count : Nat) (cs : List Char) : Option (Nat × List Char) :=
  let ds := cs.take count
  if ds.length = count ∧ ds.all Char.isDigit then some (Text.decimal ds, cs.drop count) else none

def daysIn (year month : Nat) : Nat :=
  if month = 2 then
    if year % 4 = 0 ∧ (year % 100 ≠ 0 ∨ year % 400 = 0) then 29 else 28
  else if month = 4 ∨ month = 6 ∨ month = 9 ∨ month = 11 then 30
  else 31

def after? (c : Char) : List Char → Option (List Char)
  | d :: cs => if c = d then some cs else none
  | [] => none

/-- What follows a date. -/
def date? (cs : List Char) : Option (List Char) := do
  let (year, cs) ← fixed? 4 cs
  let (month, cs) ← fixed? 2 (← after? '-' cs)
  let (day, cs) ← fixed? 2 (← after? '-' cs)
  if 1 ≤ month ∧ month ≤ 12 ∧ 1 ≤ day ∧ day ≤ daysIn year month then some cs else none

/-- What follows the fraction of a second, if there is one. -/
def fraction? : List Char → Option (List Char)
  | '.' :: c :: cs => if c.isDigit then some (cs.dropWhile Char.isDigit) else none
  | cs => some cs

/-- What follows the seconds of a time, if there are any. -/
def seconds? : List Char → Option (List Char)
  | ':' :: cs => do
    let (second, cs) ← fixed? 2 cs
    if second ≤ 60 then fraction? cs else none
  | cs => some cs

/-- What follows a time of day. -/
def time? (cs : List Char) : Option (List Char) := do
  let (hour, cs) ← fixed? 2 cs
  let (minute, cs) ← fixed? 2 (← after? ':' cs)
  if hour ≤ 23 ∧ minute ≤ 59 then seconds? cs else none

/-- Whether an offset from universal time stands there, or nothing. -/
def isOffset : List Char → Bool
  | [] => true
  | c :: cs =>
    if c = 'Z' ∨ c = 'z' then cs.isEmpty
    else if c = '+' ∨ c = '-' then
      match fixed? 2 cs with
      | some (hour, ':' :: cs) =>
        match fixed? 2 cs with
        | some (minute, []) => hour ≤ 23 && minute ≤ 59
        | _ => false
      | _ => false
    else false

/-- Whether the word is a date, a time, or both. -/
def isMoment (cs : List Char) : Bool :=
  match date? cs with
  | some [] => true
  | some (c :: rest) =>
    if c = 'T' ∨ c = 't' ∨ c = ' ' then (time? rest).any isOffset else false
  | none => time? cs == some []

/-! ## Words -/

/-- Whether a word that begins with digits or an underscore stands for a value. The word is given
with its sign and without. -/
def isNumeral (word cs : List Char) : Bool :=
  let rest := cs.dropWhile Char.isDigit
  if rest.head?.any isMomentMark then isMoment word
  else if rest.any fun c => c == '.' || c == 'e' || c == 'E' then
    isFloat cs && isGrouped Char.isDigit word
  else if rest.isEmpty || rest.head? == some '_' then
    (cs.head? != some '0' || cs.length == 1) && isGrouped isHexDigit word
  else false

/-- Whether a word stands for a number, a date or a time, or one of the special numbers. The word is
given with its sign and without. -/
def isNumber (word cs : List Char) : Bool :=
  match cs with
  | ['i', 'n', 'f'] | ['n', 'a', 'n'] => true
  | '0' :: 'x' :: ds => word == cs && isBased isHexDigit ds
  | '0' :: 'o' :: ds => word == cs && isBased (fun c => '0' ≤ c && c ≤ '7') ds
  | '0' :: 'b' :: ds => word == cs && isBased (fun c => c == '0' || c == '1') ds
  | c :: _ => (c.isDigit || c == '_') && isNumeral word cs
  | [] => false

/-- Whether the word stands for a value. -/
def isScalar (word : List Char) : Bool :=
  match word with
  | ['t', 'r', 'u', 'e'] | ['f', 'a', 'l', 's', 'e'] => true
  | '+' :: cs | '-' :: cs => isNumber word cs
  | cs => isNumber word cs

/-- The characters that end a word. -/
def endsWord (c : Char) : Bool := "=,[]\x7b\x7d# \t\r\n".toList.contains c

/-- The word at the front and what follows it. -/
def word (cs : List Char) : List Char × List Char :=
  let isIn := fun c => !endsWord c
  let front := cs.takeWhile isIn
  match cs.dropWhile isIn with
  | ' ' :: c :: rest =>
    -- a time may stand one blank behind its date, and is part of the word then
    if date? front = some [] ∧ c.isDigit then
      (front ++ ' ' :: (c :: rest).takeWhile isIn, (c :: rest).dropWhile isIn)
    else (front, ' ' :: c :: rest)
  | rest => (front, rest)

/-- What follows a value without quotes. -/
def skip? (cs : List Char) : Option (List Char) :=
  let (w, rest) := word cs
  if isScalar w then some rest else none

end MapBacked.Toml.Scalar
