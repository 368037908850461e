import Script.Grammar.Parser
import Script.Tree

set_option autoImplicit false

/- The grammar of types: a name, `[]` or a key type in brackets before it, a question mark behind
it; and of specifiers, which are types in angle brackets. -/
namespace Script.Parser

/-- The name of a type and whether a question mark follows it. -/
def typeName (context : String) : Parser (Token × Bool) := do
  let name ← expect .identifier context
  let optional ← advanceIf [.symbol .question]
  return (name, optional)

/-- A type with at most as many brackets as the bound. -/
def typeWithin : Nat → String → Parser TypeExpr
  | 0, context => do
      let (name, optional) ← typeName context
      return .named name optional
  | bound + 1, context => do
      if ← advanceIf [.symbol .openBracket] then
        if ← sees (.symbol .closeBracket) then
          let _ ← expect (.symbol .closeBracket) "in type declaration"
          let (name, optional) ← typeName context
          return .array name optional
        else
          let key ← typeWithin bound "in map key type"
          let _ ← expect (.symbol .closeBracket) "in type declaration"
          let (name, optional) ← typeName context
          return .map key name optional
      else
        let (name, optional) ← typeName context
        return .named name optional

/-- A type. The context says in messages what it is a part of. -/
def typeExpr (context : String) : Parser TypeExpr := do
  typeWithin (← left) context

/-- At most as many lists in angle brackets as the bound. -/
def specifiersWithin (context : String) : Nat → Parser (List TypeExpr)
  | 0 => return []
  | bound + 1 => do
      if ← advanceIf [.symbol .less] then
        let types ← separated (typeExpr context)
        let _ ← expect (.symbol .greater) "after specifier type"
        return types ++ (← specifiersWithin context bound)
      else
        return []

/-- Lists in angle brackets, taken together. -/
def specifiers (context : String) : Parser (List TypeExpr) := do
  specifiersWithin context (← left)

end Script.Parser
