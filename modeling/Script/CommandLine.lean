import Script.Diagnostic
import Script.Eval.Rules
import Script.Program

set_option autoImplicit false

/- The command line: one file is read, shown if asked for, and run. What is printed and the exit
code are functions of the arguments and of the file. -/
namespace Script.CommandLine

/-- What the arguments ask for. -/
structure Options where
  file : String
  /-- Show every statement before the run. -/
  printTree : Bool
  /-- How often more details were asked for. They do not change what is printed. -/
  verbosity : Nat

/-- Arguments read so far. -/
structure Draft where
  file : Option String := none
  printTree : Bool := false
  verbosity : Nat := 0

/-- A file name. Only one is taken, and it is not empty. -/
def Draft.withFile? (draft : Draft) (name : String) : Option Draft :=
  if name.isEmpty || draft.file.isSome then none else some { draft with file := some name }

/-- An option. A cluster of letters behind a dash may ask for details more than once. -/
def Draft.withOption? (draft : Draft) (option : String) : Option Draft :=
  if option == "--print-ast" then
    if draft.printTree then none else some { draft with printTree := true }
  else if option == "--verbose" then some { draft with verbosity := draft.verbosity + 1 }
  else
    let letters := option.toList.drop 1
    if letters.all (· == 'v') then
      some { draft with verbosity := draft.verbosity + letters.length }
    else none

/-- An argument is an option if it begins with a dash and is not a dash alone. -/
def isOption (argument : String) : Bool :=
  argument.toList.head? == some '-' && argument != "-"

/-- Takes up the arguments in order. Behind a double dash all are file names. -/
def Draft.withArguments? (draft : Draft) : List String → Option Draft
  | [] => some draft
  | argument :: rest =>
      if argument == "--" then rest.foldlM Draft.withFile? draft
      else if isOption argument then (draft.withOption? argument).bind (·.withArguments? rest)
      else (draft.withFile? argument).bind (·.withArguments? rest)

def Options.ofArguments? (arguments : List String) : Option Options := do
  let draft ← Draft.withArguments? {} arguments
  let file ← draft.file
  return ⟨file, draft.printTree, draft.verbosity⟩

/-- What stands under a file name. -/
inductive Content where
  | notAFile
  | notText
  | text (source : String)

/-- What a command leaves behind. -/
structure Outcome where
  exitCode : Nat
  output : String
  /-- What is told of errors. What the system says of a command that breaks off is left out. -/
  errors : String
  /-- What happened in the run of the program, if it was run. -/
  events : List Eval.Event

def exitArguments : Nat := 2

/-- The file cannot be read. -/
def exitUsage : Nat := 64

def exitSyntax : Nat := 65

def exitRuntime : Nat := 70

/-- The command broke off. -/
def exitBroken : Nat := 101

/-- An error with its diagnostic and, if it has a place, its one line. -/
def reportOne? (source file : String) (error : Error) : Option String := do
  let diagnostic ← Diagnostic.render? error source file
  return diagnostic ++ if error.position.isNull then "" else error.display ++ "\n"

/-- What is told of errors. -/
structure Report where
  text : String
  /-- All of them are told. -/
  complete : Bool

/-- The exit code behind a report: the one that is due, if the command has not broken off. -/
def Report.exitCode (report : Report) (due : Nat) : Nat :=
  if report.complete then due else exitBroken

/-- Errors one behind the other, up to one without a diagnostic, where the command breaks off. -/
def report (source file : String) : List Error → Report
  | [] => ⟨"", true⟩
  | error :: rest =>
      match reportOne? source file error with
      | none => ⟨"", false⟩
      | some text =>
          let behind := report source file rest
          { behind with text := text ++ behind.text }

/-- Reads and runs a text. Nothing is run if it has errors. -/
def runSource (options : Options) (source : String) : Outcome :=
  let scanned := tokenize source
  let parsed := parse scanned.tokens
  let errors := scanned.errors ++ parsed.errors
  if !errors.isEmpty then
    let told := report source options.file errors
    ⟨told.exitCode exitSyntax, "", told.text, []⟩
  else
    let tree := if options.printTree then printLines parsed.statements else ""
    let done := (interpret { program := parsed.statements }).run .empty
    let output := tree ++ outputOf done.trace
    match done.outcome with
    | .ok () => ⟨0, output, "", done.trace⟩
    | .error error =>
        let told := report source options.file [error]
        ⟨told.exitCode exitRuntime, output, told.text, done.trace⟩

/-- Carries out what the options ask for. -/
def runFile (options : Options) : Content → Outcome
  | .notAFile => ⟨exitUsage, "", "Failed to read '" ++ options.file ++ "': not a file\n", []⟩
  | .notText =>
      ⟨exitUsage, "",
        "Failed to read '" ++ options.file ++ "': stream did not contain valid UTF-8\n", []⟩
  | .text source => runSource options source

end Script.CommandLine
