import Script.Eval.Rules
import Script.Program

set_option autoImplicit false

/- Transcripts: what is done with a text, step by step, in the words of a log. -/
namespace Script

/-- How much an entry of a transcript matters. -/
inductive Level where
  | trace
  | debug
  | warn
deriving DecidableEq, Repr

structure Entry where
  level : Level
  message : String
deriving DecidableEq, Repr

/-- A decision of the parser as an entry. -/
def Parser.Event.entry : Parser.Event → Entry
  | marked index => ⟨.trace, "Checkpoint at token " ++ toString index⟩
  | notDeclaration error => ⟨.trace, "Not a declaration: " ++ error.display⟩
  | backtracked source target =>
      ⟨.trace, "Backtracking from token " ++ toString source ++ " to " ++ toString target⟩
  | committed index => ⟨.trace, "Committed at token " ++ toString index⟩
  | parsedStatement => ⟨.trace, "Parsed statement"⟩
  | recovered error => ⟨.warn, "Recovering from syntax error: " ++ error.display⟩

/-- An event of a run as an entry; printed lines are not entered. -/
def Eval.Event.entry? : Eval.Event → Option Entry
  | starting count => some ⟨.debug, "Interpreting " ++ toString count ++ " statements"⟩
  | executing stmt => some ⟨.trace, "Executing " ++ stmt.print⟩
  | finished => some ⟨.debug, "Interpretation finished"⟩
  | calling name count =>
      some ⟨.trace, "Calling native " ++ name ++ " with " ++ toString count ++ " arguments"⟩
  | printed _ => none

/-- A transcript and what was printed meanwhile. -/
structure Transcript where
  entries : List Entry
  output : String

/-- Counts what one phase gave. -/
def countEntry (phase : String) (count : Nat) (what : String) (errors : Nat) : Entry :=
  ⟨.debug,
    phase ++ " " ++ toString count ++ " " ++ what ++ " with " ++ toString errors ++ " errors"⟩

/-- Reads a text and, if it has no errors, runs it with the standard host functions. -/
def transcribe (source : String) : Transcript :=
  let scanned := tokenize source
  let (parsed, events) := traceParse scanned.tokens
  let reading :=
    countEntry "Scanned" scanned.tokens.length "tokens" scanned.errors.length ::
      ⟨.debug, "Parsing " ++ toString scanned.tokens.length ++ " tokens"⟩ ::
      (events.map Parser.Event.entry ++
        [countEntry "Parsed" parsed.statements.length "statements" parsed.errors.length])
  if scanned.errors.isEmpty && parsed.errors.isEmpty then
    let done := (interpret { program := parsed.statements }).run .empty
    ⟨reading ++ done.trace.filterMap Eval.Event.entry?, outputOf done.trace⟩
  else
    ⟨reading, ""⟩

end Script
