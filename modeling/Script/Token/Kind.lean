set_option autoImplicit false

/- The kinds of token and the words that name them in messages. A kind that always has one
spelling is named by it; the other kinds are named by what they are. -/
namespace Script

/-- Punctuation and operators. -/
inductive Symbol where
  | openParen | closeParen | openCurly | closeCurly | openBracket | closeBracket
  | comma | dot | semicolon | colon | question
  | equals | plus | dash | star | slash | inferred
  | greater | greaterEquals | less | lessEquals
deriving DecidableEq, Repr

namespace Symbol

def spelling : Symbol → String
  | openParen => "("
  | closeParen => ")"
  | openCurly => "\x7b"
  | closeCurly => "\x7d"
  | openBracket => "["
  | closeBracket => "]"
  | comma => ","
  | dot => "."
  | semicolon => ";"
  | colon => ":"
  | question => "?"
  | equals => "="
  | plus => "+"
  | dash => "-"
  | star => "*"
  | slash => "/"
  | inferred => ":="
  | greater => ">"
  | greaterEquals => ">="
  | less => "<"
  | lessEquals => "<="

end Symbol

inductive Keyword where
  | andWord | orWord | notWord | trueWord | falseWord | varWord | returnWord | selfWord
  | ifWord | elseWord | forWord | whileWord | breakWord | classWord | moduleWord | blockWord
  | spawnWord
deriving DecidableEq, Repr

namespace Keyword

def spelling : Keyword → String
  | andWord => "and"
  | orWord => "or"
  | notWord => "not"
  | trueWord => "true"
  | falseWord => "false"
  | varWord => "var"
  | returnWord => "return"
  | selfWord => "self"
  | ifWord => "if"
  | elseWord => "else"
  | forWord => "for"
  | whileWord => "while"
  | breakWord => "break"
  | classWord => "class"
  | moduleWord => "module"
  | blockWord => "block"
  | spawnWord => "spawn"

def all : List Keyword :=
  [andWord, orWord, notWord, trueWord, falseWord, varWord, returnWord, selfWord, ifWord, elseWord,
    forWord, whileWord, breakWord, classWord, moduleWord, blockWord, spawnWord]

def ofSpelling? (word : String) : Option Keyword :=
  all.find? fun keyword => keyword.spelling == word

theorem ofSpelling?_spelling (keyword : Keyword) :
    ofSpelling? keyword.spelling = some keyword := by
  cases keyword <;> decide

theorem spelling_of_ofSpelling? {word : String} {keyword : Keyword}
    (found : ofSpelling? word = some keyword) : keyword.spelling = word := by
  simpa using List.find?_some found

end Keyword

namespace Token

/-- What a token is, apart from its text. -/
inductive Kind where
  | endOfFile
  | newline
  | identifier
  | string
  | int
  | float
  | symbol (sign : Symbol)
  | keyword (word : Keyword)
deriving DecidableEq, Repr

namespace Kind

/-- The printable spelling of punctuation; a line break is shown by its escape. -/
def symbol? : Kind → Option String
  | newline => some "\\n"
  | symbol sign => some sign.spelling
  | _ => none

def keyword? : Kind → Option String
  | keyword word => some word.spelling
  | _ => none

/-- Kinds whose tokens are described without their text. -/
def isSelfDescribing : Kind → Bool
  | identifier | string | int | float => false
  | _ => true

/-- The words for a kind in a message: punctuation in backquotes, a reserved word as it is. -/
def describe : Kind → String
  | endOfFile => "end of file"
  | newline => "`\\n`"
  | identifier => "identifier"
  | string => "string"
  | int => "integer"
  | float => "float"
  | symbol sign => "`" ++ sign.spelling ++ "`"
  | keyword word => word.spelling

end Kind
end Token
end Script
