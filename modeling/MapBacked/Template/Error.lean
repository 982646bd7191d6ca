/-!
# What can be wrong with a template

Some faults show when a template is read, the others when it is rendered. Rendering stops at the
first fault and gives no text at all.
-/

namespace MapBacked.Template

inductive Error where
  | badSyntax
  | badEscape
  | undefinedValue
  | badOperation
  | unknownFilter
  | unknownTest
  | unknownFunction
  | unknownMethod
  | missingArgument
  | surplusArgument
deriving DecidableEq, Inhabited, Repr

def Error.text : Error → String
  | .badSyntax => "SyntaxError"
  | .badEscape => "BadEscape"
  | .undefinedValue => "UndefinedError"
  | .badOperation => "InvalidOperation"
  | .unknownFilter => "UnknownFilter"
  | .unknownTest => "UnknownTest"
  | .unknownFunction => "UnknownFunction"
  | .unknownMethod => "UnknownMethod"
  | .missingArgument => "MissingArgument"
  | .surplusArgument => "TooManyArguments"

end MapBacked.Template
