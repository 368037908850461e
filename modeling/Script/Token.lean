import Script.Token.Kind
import Script.Value

set_option autoImplicit false

/- Tokens: the words of a program with their places. -/
namespace Script

/-- A word of a program. Numbers and strings carry the value that they denote. -/
structure Token where
  kind : Token.Kind
  lexeme : String
  literal : Option Value
  position : Position
deriving DecidableEq, Repr

namespace Token

/-- A token for messages: by its kind, and by its text too where the kind does not fix it. -/
def describe (token : Token) : String :=
  if token.kind.isSelfDescribing then token.kind.describe
  else token.kind.describe ++ " `" ++ token.lexeme ++ "`"

/-- The token behind the last word of a text. -/
def endOfFile (position : Position) : Token := ⟨.endOfFile, "", none, position⟩

end Token
end Script
