/-!
# String literals of the generated source

A property's key is arbitrary text and ends up between quotes in Java source, so it is written in
the one form that cannot end the literal early: the quote and the backslash are escaped, the
controls with a letter of their own use it, every other control character is written as a Unicode
escape of four lower-case hexadecimal digits, and all else stands for itself.

`isControl` is the Unicode category `Cc`. Its members all lie below U+00A0, which is why four
digits are enough and why no Unicode escape written here can stand for a quote, a backslash or a
line end: those have their letter.
-/

namespace MapBacked.Text

/-- Whether the character is of the category `Cc`: the two blocks of control codes and delete. -/
def isControl (c : Char) : Bool := c.toNat < 0x20 || (0x7f ≤ c.toNat && c.toNat < 0xa0)

/-- The four lowest hexadecimal digits of a number, the highest of them first. -/
def hexDigits4 (n : Nat) : List Char :=
  [n / 0x1000 % 16, n / 0x100 % 16, n / 0x10 % 16, n % 16].map Nat.digitChar

/-- One character as it is written between the quotes. -/
def escape (c : Char) : List Char :=
  if c = '"' then ['\\', '"']
  else if c = '\\' then ['\\', '\\']
  else if c = '\n' then ['\\', 'n']
  else if c = '\r' then ['\\', 'r']
  else if c = '\t' then ['\\', 't']
  else if c = '\x08' then ['\\', 'b']
  else if c = '\x0c' then ['\\', 'f']
  else if isControl c then '\\' :: 'u' :: hexDigits4 c.toNat
  else [c]

/-- The characters of the literal that denotes the given ones, quotes included. -/
def literalChars (cs : List Char) : List Char := '"' :: (cs.flatMap escape ++ ['"'])

/-- The literal that denotes the text. -/
def literal (s : String) : String := String.ofList (literalChars s.toList)

/-- Four digits cover every control character. -/
theorem lt_of_isControl {c : Char} (h : isControl c = true) : c.toNat < 0xa0 := by
  simp only [isControl, Bool.or_eq_true, Bool.and_eq_true, decide_eq_true_eq] at h
  omega

@[simp] theorem toList_literal (s : String) : (literal s).toList = literalChars s.toList := by
  simp [literal]

end MapBacked.Text
