import Script.Grammar.Program
import Script.Token.Scan

set_option autoImplicit false

/- From source text to a program. -/
namespace Script

/-- The program of a text, or all errors in it: first those of its words, then those of its
phrases. -/
def parseSource (source : String) : Except (List Error) (List Stmt) :=
  let scanned := tokenize source
  let parsed := parse scanned.tokens
  let errors := scanned.errors ++ parsed.errors
  if errors.isEmpty then .ok parsed.statements else .error errors

end Script
