import Script.Tree

set_option autoImplicit false

/- The grammar of the language, as relations between tokens and the trees that they spell. A
relation holds of exactly the tokens of its phrase: nothing before them and nothing behind. -/
namespace Script.Grammar

open Token (Kind)

/-- The name of a type, which a question mark may follow: `IDENT [?]`. -/
inductive TypeName : List Token → Token → Bool → Prop where
  | plain {name : Token} (named : name.kind = .identifier) : TypeName [name] name false
  | optional {name mark : Token} (named : name.kind = .identifier)
      (marked : mark.kind = .symbol .question) : TypeName [name, mark] name true

/-- A type: a name, behind `[]` for an array or behind a type in brackets for a map. -/
inductive TypePhrase : List Token → TypeExpr → Prop where
  | named {tokens : List Token} {name : Token} {optional : Bool}
      (rest : TypeName tokens name optional) : TypePhrase tokens (.named name optional)
  | array {opening closing : Token} {tokens : List Token} {name : Token} {optional : Bool}
      (opens : opening.kind = .symbol .openBracket)
      (closes : closing.kind = .symbol .closeBracket) (rest : TypeName tokens name optional) :
      TypePhrase (opening :: closing :: tokens) (.array name optional)
  | map {opening closing : Token} {inner tokens : List Token} {key : TypeExpr} {name : Token}
      {optional : Bool} (opens : opening.kind = .symbol .openBracket)
      (keyed : TypePhrase inner key) (closes : closing.kind = .symbol .closeBracket)
      (rest : TypeName tokens name optional) :
      TypePhrase (opening :: (inner ++ closing :: tokens)) (.map key name optional)

/-- One or more items with commas between them. -/
inductive Separated {α : Type} (item : List Token → α → Prop) : List Token → List α → Prop where
  | one {tokens : List Token} {value : α} (only : item tokens value) :
      Separated item tokens [value]
  | more {first rest : List Token} {comma : Token} {value : α} {values : List α}
      (head : item first value) (parts : comma.kind = .symbol .comma)
      (tail : Separated item rest values) :
      Separated item (first ++ comma :: rest) (value :: values)

/-- Lists of types in angle brackets, taken together. -/
inductive Specifiers : List Token → List TypeExpr → Prop where
  | none : Specifiers [] []
  | more {opening closing : Token} {inner rest : List Token} {types others : List TypeExpr}
      (opens : opening.kind = .symbol .less) (listed : Separated TypePhrase inner types)
      (closes : closing.kind = .symbol .greater) (behind : Specifiers rest others) :
      Specifiers (opening :: (inner ++ closing :: rest)) (types ++ others)

/-- A parameter: `IDENT : Type`. -/
inductive ParameterPhrase : List Token → Parameter → Prop where
  | typed {name colon : Token} {tokens : List Token} {type : TypeExpr}
      (named : name.kind = .identifier) (sign : colon.kind = .symbol .colon)
      (annotated : TypePhrase tokens type) :
      ParameterPhrase (name :: colon :: tokens) ⟨name, some type⟩

/-- What stands between the parentheses of a function declaration. -/
inductive Parameters : List Token → List Parameter → Prop where
  | none : Parameters [] []
  | some {tokens : List Token} {parameters : List Parameter}
      (listed : Separated ParameterPhrase tokens parameters) : Parameters tokens parameters

/-- The binary operators, those that bind loosest first. Those of one level bind alike and group
to the left. -/
def levels : List (List Kind) :=
  [[.symbol .equals],
    [.symbol .greater, .symbol .greaterEquals, .symbol .less, .symbol .lessEquals],
    [.symbol .plus, .symbol .dash],
    [.symbol .star, .symbol .slash]]

/-- Tokens that begin like an assignment: `IDENT =`. -/
def BeginsAssignment (tokens : List Token) : Prop :=
  ∃ name sign rest, tokens = name :: sign :: rest ∧ name.kind = .identifier ∧
    sign.kind = .symbol .equals

/-- How freely tokens are read. -/
structure Mode where
  /-- Tokens between statements may be passed over. -/
  skips : Prop
  /-- An assignment may be read as a comparison. -/
  compares : Prop

namespace Mode

/-- The grammar as it is written: no token is passed over, and of the two ways to read
`IDENT = Expr` none is preferred. -/
def plain : Mode := ⟨False, True⟩

/-- The grammar with assignments preferred to comparisons. It spells one tree. -/
def preferred : Mode := ⟨False, False⟩

/-- The grammar with assignments preferred and stretches of tokens passed over. -/
def lenient : Mode := ⟨True, False⟩

end Mode

mutual

/-- `literal | IDENT | ( Expr )`. -/
inductive Primary (mode : Mode) : List Token → Expr → Prop where
  | trueWord {token : Token} (spelled : token.kind = .keyword .trueWord) :
      Primary mode [token] (.literal (.bool true) token.position)
  | falseWord {token : Token} (spelled : token.kind = .keyword .falseWord) :
      Primary mode [token] (.literal (.bool false) token.position)
  | literal {token : Token} {value : Value}
      (sort : token.kind = .int ∨ token.kind = .float ∨ token.kind = .string)
      (carries : token.literal = some value) :
      Primary mode [token] (.literal value token.position)
  | name {token : Token} (named : token.kind = .identifier) : Primary mode [token] (.name token)
  | grouping {opening closing : Token} {tokens : List Token} {inner : Expr}
      (opens : opening.kind = .symbol .openParen) (held : Expression mode tokens inner)
      (closes : closing.kind = .symbol .closeParen) :
      Primary mode (opening :: (tokens ++ [closing])) (.grouping inner)

/-- Calls with at most 255 arguments and member accesses, behind an expression that they apply
to: `{ ( [Expr {, Expr}] ) | . IDENT }`. -/
inductive Suffixes (mode : Mode) : Expr → List Token → Expr → Prop where
  | none {expr : Expr} : Suffixes mode expr [] expr
  | bare {expr result : Expr} {opening closing : Token} {rest : List Token}
      (opens : opening.kind = .symbol .openParen) (closes : closing.kind = .symbol .closeParen)
      (behind : Suffixes mode (.call expr []) rest result) :
      Suffixes mode expr (opening :: closing :: rest) result
  | call {expr result : Expr} {opening closing : Token} {inner rest : List Token}
      {arguments : List Expr} (opens : opening.kind = .symbol .openParen)
      (listed : Arguments mode inner arguments) (few : arguments.length ≤ 255)
      (closes : closing.kind = .symbol .closeParen)
      (behind : Suffixes mode (.call expr arguments) rest result) :
      Suffixes mode expr (opening :: (inner ++ closing :: rest)) result
  | member {expr result : Expr} {dot name : Token} {rest : List Token}
      (sign : dot.kind = .symbol .dot) (named : name.kind = .identifier)
      (behind : Suffixes mode (.member expr name) rest result) :
      Suffixes mode expr (dot :: name :: rest) result

/-- `Expr {, Expr}`. -/
inductive Arguments (mode : Mode) : List Token → List Expr → Prop where
  | one {tokens : List Token} {expr : Expr} (only : Expression mode tokens expr) :
      Arguments mode tokens [expr]
  | more {first rest : List Token} {comma : Token} {expr : Expr} {exprs : List Expr}
      (head : Expression mode first expr) (parts : comma.kind = .symbol .comma)
      (tail : Arguments mode rest exprs) :
      Arguments mode (first ++ comma :: rest) (expr :: exprs)

/-- `(- | not) Unary | Primary Suffixes`. -/
inductive Unary (mode : Mode) : List Token → Expr → Prop where
  | sign {operator : Token} {tokens : List Token} {operand : Expr}
      (signs : operator.kind ∈ [.symbol .dash, .keyword .notWord])
      (signed : Unary mode tokens operand) :
      Unary mode (operator :: tokens) (.unary operator operand)
  | call {first rest : List Token} {expr result : Expr} (head : Primary mode first expr)
      (behind : Suffixes mode expr rest result) : Unary mode (first ++ rest) result

/-- Operations of the given levels: `Tighter {operator Tighter}`. -/
inductive Operation (mode : Mode) : List (List Kind) → List Token → Expr → Prop where
  | tightest {tokens : List Token} {expr : Expr} (only : Unary mode tokens expr) :
      Operation mode [] tokens expr
  | level {operators : List Kind} {tighter : List (List Kind)} {first rest : List Token}
      {expr result : Expr} (head : Operation mode tighter first expr)
      (behind : Chain mode operators tighter expr rest result) :
      Operation mode (operators :: tighter) (first ++ rest) result

/-- Operators and operands behind an expression, which is the left operand of the first. -/
inductive Chain (mode : Mode) :
    List Kind → List (List Kind) → Expr → List Token → Expr → Prop where
  | none {operators : List Kind} {tighter : List (List Kind)} {expr : Expr} :
      Chain mode operators tighter expr [] expr
  | more {operators : List Kind} {tighter : List (List Kind)} {operator : Token}
      {first rest : List Token} {left right result : Expr} (joins : operator.kind ∈ operators)
      (operand : Operation mode tighter first right)
      (behind : Chain mode operators tighter (.binary left operator right) rest result) :
      Chain mode operators tighter left (operator :: (first ++ rest)) result

/-- `if ( Expr ) Block [else Block] | Equality`. -/
inductive Expression (mode : Mode) : List Token → Expr → Prop where
  | conditional {word opening closing : Token} {test first second : List Token} {condition : Expr}
      {thenBranch elseBranch : List Stmt} (begins : word.kind = .keyword .ifWord)
      (opens : opening.kind = .symbol .openParen) (tested : Expression mode test condition)
      (closes : closing.kind = .symbol .closeParen) (body : Block mode first thenBranch)
      (other : ElseBranch mode second elseBranch) :
      Expression mode (word :: opening :: (test ++ closing :: (first ++ second)))
        (.conditional condition thenBranch elseBranch)
  | operation {tokens : List Token} {expr : Expr} (only : Operation mode levels tokens expr) :
      Expression mode tokens expr

/-- `[else Block]`; an absent branch is empty. -/
inductive ElseBranch (mode : Mode) : List Token → List Stmt → Prop where
  | none : ElseBranch mode [] []
  | some {word : Token} {tokens : List Token} {branch : List Stmt}
      (begins : word.kind = .keyword .elseWord) (body : Block mode tokens branch) :
      ElseBranch mode (word :: tokens) branch

/-- `IDENT = Assign | Expr`. -/
inductive Assignment (mode : Mode) : List Token → Expr → Prop where
  | assign {name sign : Token} {tokens : List Token} {value : Expr}
      (named : name.kind = .identifier) (assigns : sign.kind = .symbol .equals)
      (assigned : Assignment mode tokens value) :
      Assignment mode (name :: sign :: tokens) (.assign name value)
  | value {tokens : List Token} {expr : Expr} (only : Expression mode tokens expr)
      (free : BeginsAssignment tokens → mode.compares) : Assignment mode tokens expr

/-- A declaration of a variable or of a function, `block Block`, or an assignment. -/
inductive Statement (mode : Mode) : List Token → Stmt → Prop where
  | mutable {word name colon sign : Token} {specified typing tokens : List Token}
      {specifiers : List TypeExpr} {type : TypeExpr} {initializer : Expr}
      (begins : word.kind = .keyword .varWord) (named : name.kind = .identifier)
      (specifies : Specifiers specified specifiers) (parts : colon.kind = .symbol .colon)
      (annotated : TypePhrase typing type) (defines : sign.kind = .symbol .equals)
      (initialized : Expression mode tokens initializer) :
      Statement mode
        (word :: name :: (specified ++ colon :: (typing ++ sign :: tokens)))
        (.variableDecl ⟨name, specifiers, some type, true⟩ initializer)
  | typed {name colon sign : Token} {specified typing tokens : List Token}
      {specifiers : List TypeExpr} {type : TypeExpr} {initializer : Expr}
      (named : name.kind = .identifier) (specifies : Specifiers specified specifiers)
      (parts : colon.kind = .symbol .colon) (annotated : TypePhrase typing type)
      (defines : sign.kind = .symbol .equals)
      (initialized : Expression mode tokens initializer) :
      Statement mode (name :: (specified ++ colon :: (typing ++ sign :: tokens)))
        (.variableDecl ⟨name, specifiers, some type, false⟩ initializer)
  | inferred {name sign : Token} {specified tokens : List Token} {specifiers : List TypeExpr}
      {initializer : Expr} (named : name.kind = .identifier)
      (specifies : Specifiers specified specifiers) (defines : sign.kind = .symbol .inferred)
      (initialized : Expression mode tokens initializer) :
      Statement mode (name :: (specified ++ sign :: tokens))
        (.variableDecl ⟨name, specifiers, none, false⟩ initializer)
  | function {name opening closing colon : Token}
      {specified listed effected typing tokens : List Token}
      {specifiers effects : List TypeExpr} {parameters : List Parameter} {returns : TypeExpr}
      {body : Option (List Stmt)} (named : name.kind = .identifier)
      (specifies : Specifiers specified specifiers) (opens : opening.kind = .symbol .openParen)
      (takes : Parameters listed parameters) (closes : closing.kind = .symbol .closeParen)
      (affects : Specifiers effected effects) (parts : colon.kind = .symbol .colon)
      (annotated : TypePhrase typing returns) (bodied : FunctionBody mode tokens body) :
      Statement mode
        (name :: (specified ++ opening :: (listed ++ closing ::
          (effected ++ colon :: (typing ++ tokens)))))
        (.functionDecl ⟨name, specifiers, parameters, effects, returns⟩ body)
  | block {word : Token} {tokens : List Token} {body : List Stmt}
      (begins : word.kind = .keyword .blockWord) (braced : Block mode tokens body) :
      Statement mode (word :: tokens) (.block body)
  | expression {tokens : List Token} {expr : Expr} (only : Assignment mode tokens expr) :
      Statement mode tokens (.expression expr)

/-- `[= Block]`. -/
inductive FunctionBody (mode : Mode) : List Token → Option (List Stmt) → Prop where
  | none : FunctionBody mode [] none
  | some {sign : Token} {tokens : List Token} {body : List Stmt}
      (defines : sign.kind = .symbol .equals) (braced : Block mode tokens body) :
      FunctionBody mode (sign :: tokens) (some body)

/-- `{ Statements }`. -/
inductive Block (mode : Mode) : List Token → List Stmt → Prop where
  | braces {opening closing : Token} {tokens : List Token} {body : List Stmt}
      (opens : opening.kind = .symbol .openCurly) (held : Statements mode tokens body)
      (closes : closing.kind = .symbol .closeCurly) :
      Block mode (opening :: (tokens ++ [closing])) body

/-- `NL* (Stmt (; | NL) NL*)* [Stmt]`. A statement that is not the last ends with a semicolon or a
line break, and blank lines stand anywhere between. -/
inductive Statements (mode : Mode) : List Token → List Stmt → Prop where
  | none : Statements mode [] []
  | blank {newline : Token} {rest : List Token} {stmts : List Stmt}
      (breaks : newline.kind = .newline) (behind : Statements mode rest stmts) :
      Statements mode (newline :: rest) stmts
  | last {tokens : List Token} {stmt : Stmt} (only : Statement mode tokens stmt) :
      Statements mode tokens [stmt]
  | ended {first rest : List Token} {ending : Token} {stmt : Stmt} {stmts : List Stmt}
      (head : Statement mode first stmt) (ends : ending.kind ∈ [.symbol .semicolon, .newline])
      (behind : Statements mode rest stmts) :
      Statements mode (first ++ ending :: rest) (stmt :: stmts)
  | skipped {passed rest : List Token} {stmts : List Stmt} (allowed : mode.skips)
      (behind : Statements mode rest stmts) : Statements mode (passed ++ rest) stmts
  | unended {first rest : List Token} {stmt : Stmt} {stmts : List Stmt} (allowed : mode.skips)
      (head : Statement mode first stmt) (behind : Statements mode rest stmts) :
      Statements mode (first ++ rest) (stmt :: stmts)

end

end Script.Grammar
