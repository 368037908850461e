import Script.CommandLine
import Script.Proofs.Diagnostic

set_option autoImplicit false

/- The command line and the library. The command reads a text in steps of its own, and what it
leaves behind is what the library says of the text, up to an error that has no diagnostic. -/
namespace Script

/-- What an event adds to the output: a line that is printed, and its line feed. -/
def Eval.Event.shown : Eval.Event → List Char
  | printed line => line.toList ++ ['\n']
  | _ => []

theorem toList_outputOf (trace : List Eval.Event) :
    (outputOf trace).toList = trace.flatMap Eval.Event.shown := by
  unfold outputOf
  induction trace with
  | nil => rfl
  | cons event rest ih =>
    rw [List.flatMap_cons, ← ih]
    cases event with
    | printed line =>
      have printed : (Eval.Event.printed line).line? = some line := rfl
      rw [List.filterMap_cons_some printed, List.map_cons, String.join_cons, String.toList_append,
        String.toList_append]
      rfl
    | _ => rfl

theorem toList_printLines (stmts : List Stmt) :
    (printLines stmts).toList = stmts.flatMap fun stmt => stmt.print.toList ++ ['\n'] := by
  induction stmts with
  | nil => rfl
  | cons stmt rest ih =>
    rw [printLines, List.flatMap_cons, ← ih]
    simp

namespace CommandLine

open Diagnostic (Fits excerptLines written)

/-- What a run leaves on the output: the statements, if they are to be shown, and what the events
add. -/
def printed (printTree : Bool) (program : List Stmt) (trace : List Eval.Event) : List Char :=
  (if printTree then program.flatMap fun stmt => stmt.print.toList ++ ['\n'] else []) ++
    trace.flatMap Eval.Event.shown

/-- What is told of an error on a line: the diagnostic that shows the line without its indentation,
and the error in one line. -/
def told (error : Error) (file : String) (indent shown : List Char) : List Char :=
  written (excerptLines error file indent shown) ++ (error.display.toList ++ ['\n'])

/-- The line of an error has the given indentation and shows the given text behind it. -/
def OnLine (source : String) (error : Error) (indent shown : List Char) : Prop :=
  ∃ raw, (splitLines source.toList)[error.position.line - 1]? = some raw ∧ Trims raw indent shown

/-- The line of an error and its caret need no wider fields than there are. -/
def Showable (source : String) (error : Error) : Prop :=
  ∃ indent shown, OnLine source error indent shown ∧ Fits error.position indent

/-- Errors are told in their order, each with its line and once, up to one that cannot be shown. -/
inductive Tells (source file : String) : List Error → List Char → Prop where
  | done : Tells source file [] []
  | more {error : Error} {errors : List Error} {indent shown behind : List Char}
      (on : OnLine source error indent shown) (fits : Fits error.position indent)
      (rest : Tells source file errors behind) :
      Tells source file (error :: errors) (told error file indent shown ++ behind)
  | broken {error : Error} {errors : List Error} (wide : ¬ Showable source error) :
      Tells source file (error :: errors) []

/-- The exit code that is due if all errors can be shown, and another one if the command breaks
off. -/
inductive Exits (source : String) (errors : List Error) (due : Nat) : Nat → Prop where
  | done (all : ∀ error ∈ errors, Showable source error) : Exits source errors due due
  | broken (wide : ∃ error ∈ errors, ¬ Showable source error) : Exits source errors due 101

theorem OnLine.showable_iff {source : String} {error : Error} {indent shown : List Char}
    (on : OnLine source error indent shown) :
    Showable source error ↔ Fits error.position indent := by
  refine ⟨fun ⟨indent', shown', ⟨raw', found', trims'⟩, fits⟩ => ?_,
    fun fits => ⟨indent, shown, on, fits⟩⟩
  obtain ⟨raw, found, trims⟩ := on
  cases found.symm.trans found'
  rwa [trims.indent_eq, ← trims'.indent_eq]

/-- An error of a text is told with its line, if it can be shown. -/
theorem reportOne?_cases {source : String} {error : Error} (reported : Reported source error)
    (file : String) :
    (∃ indent shown, OnLine source error indent shown ∧ Fits error.position indent ∧
        reportOne? source file error = some (String.ofList (told error file indent shown))) ∨
      ¬ Showable source error ∧ reportOne? source file error = none := by
  obtain ⟨first, raw, found, looked, -, behind⟩ := reported.line
  have placed : error.position.isNull = false := by
    rw [Position.isNull, beq_eq_false_iff_ne]
    omega
  have on : OnLine source error _ _ := ⟨raw, found, .of_stripReturn raw⟩
  by_cases fits : Fits error.position ((stripReturn raw).takeWhile Diagnostic.isIndent)
  · obtain ⟨diagnostic, rendered, spelled⟩ := Diagnostic.render?_of_fits looked behind fits file
    refine .inl ⟨_, _, on, fits, ?_⟩
    rw [reportOne?, rendered, placed]
    refine congrArg some (String.toList_injective ?_)
    simp [told, spelled]
  · refine .inr ⟨fun showable => fits (on.showable_iff.mp showable), ?_⟩
    rw [reportOne?, Diagnostic.render?_of_not_fits looked fits]
    rfl

/-- The report of errors of a text. -/
theorem report_tells {source : String} (file : String) {errors : List Error}
    (reported : ∀ error ∈ errors, Reported source error) (due : Nat) :
    ∃ text, Tells source file errors text ∧
      (report source file errors).text = String.ofList text ∧
      Exits source errors due ((report source file errors).exitCode due) := by
  induction errors with
  | nil => exact ⟨[], .done, rfl, .done nofun⟩
  | cons error rest ih =>
    rw [List.forall_mem_cons] at reported
    obtain ⟨behind, tells, spelled, exits⟩ := ih reported.2
    rcases reportOne?_cases reported.1 file with ⟨indent, shown, on, fits, one⟩ | ⟨wide, one⟩
    · have whole : report source file (error :: rest) =
          { report source file rest with
            text := String.ofList (told error file indent shown) ++
              (report source file rest).text } := by
        rw [report, one]
      refine ⟨_, .more on fits tells, by rw [whole, spelled, String.ofList_append], ?_⟩
      have same : (report source file (error :: rest)).exitCode due =
          (report source file rest).exitCode due := by
        rw [whole]
        rfl
      rw [same]
      generalize (report source file rest).exitCode due = exitCode at exits
      cases exits with
      | done all => exact .done (List.forall_mem_cons.mpr ⟨⟨indent, shown, on, fits⟩, all⟩)
      | broken wide =>
        obtain ⟨error', member, wide⟩ := wide
        exact .broken ⟨error', List.mem_cons_of_mem _ member, wide⟩
    · rw [report, one]
      exact ⟨[], .broken wide, rfl, .broken ⟨error, List.mem_cons_self, wide⟩⟩

/-- The command takes the steps of the library. -/
theorem runSource_eq (options : Options) (source : String) :
    runSource options source =
      match parseSource source with
      | .error errors =>
          let told := report source options.file errors
          ⟨told.exitCode exitSyntax, "", told.text, []⟩
      | .ok program =>
          let done := (interpret { program }).run .empty
          let output := (if options.printTree then printLines program else "") ++
            outputOf done.trace
          match done.outcome with
          | .ok () => ⟨0, output, "", done.trace⟩
          | .error error =>
              let told := report source options.file [error]
              ⟨told.exitCode exitRuntime, output, told.text, done.trace⟩ := by
  rw [runSource, parseSource]
  dsimp only
  cases (((tokenize source).errors ++ (parse (tokenize source).tokens).errors).isEmpty) with
  | false => rfl
  | true => rfl

/-- The command line agrees with the library on every text. If the text has errors, they are told in
their order and nothing else is printed or run. Otherwise the statements are shown if asked for, and
behind them stands what their run prints, also when it fails; only an error of the run is told then.
Each error is told with the line of its place, and once. Only at an error that cannot be shown the
command breaks off. -/
theorem runFile_agrees (file : String) (printTree : Bool) (source : String) :
    match parseSource source with
    | .error errors =>
        ∃ text exitCode, Tells source file errors text ∧ Exits source errors 65 exitCode ∧
          runFile ⟨file, printTree, 0⟩ (.text source) =
            { exitCode, output := "", errors := String.ofList text, events := [] }
    | .ok program =>
        let run := (interpret ⟨program, .standard⟩).run .empty
        ∃ output : String, output.toList = printed printTree program run.trace ∧
          match run.outcome with
          | .ok () =>
              runFile ⟨file, printTree, 0⟩ (.text source) =
                { exitCode := 0, output, errors := "", events := run.trace }
          | .error error =>
              ∃ text exitCode, Tells source file [error] text ∧ Exits source [error] 70 exitCode ∧
                runFile ⟨file, printTree, 0⟩ (.text source) =
                  { exitCode, output, errors := String.ofList text, events := run.trace } := by
  have ran : runFile ⟨file, printTree, 0⟩ (.text source) = _ :=
    runSource_eq ⟨file, printTree, 0⟩ source
  rw [ran]
  cases read : parseSource source with
  | error errors =>
    have reported : ∀ error ∈ errors, Reported source error := fun _ => .read read
    obtain ⟨text, tells, spelled, exits⟩ := report_tells file reported exitSyntax
    refine ⟨text, _, tells, exits, ?_⟩
    dsimp only
    rw [spelled]
  | ok program =>
    dsimp only
    cases ended : (interpret ⟨program, .standard⟩).run .empty with
    | mk outcome after trace =>
      have output : ((if printTree then printLines program else "") ++ outputOf trace).toList =
          printed printTree program trace := by
        rw [String.toList_append, toList_outputOf, printed]
        cases printTree with
        | false => rfl
        | true => exact congrArg (· ++ _) (toList_printLines program)
      refine ⟨_, output, ?_⟩
      cases outcome with
      | ok _ => rfl
      | error error =>
        have reported : Reported source error := .run read ended
        obtain ⟨text, tells, spelled, exits⟩ :=
          report_tells file (List.forall_mem_singleton.mpr reported) exitRuntime
        refine ⟨text, _, tells, exits, ?_⟩
        dsimp only
        rw [spelled]

/-- A program that is shown and then fails. -/
example : let done := runFile ⟨"notes", true, 0⟩ (.text "1 / 0")
    done.exitCode = 70 ∧ done.output = "(1 / 0)\n" := by
  decide +kernel

/-- At an error behind a line of 65535 characters the command breaks off, and tells nothing. -/
theorem runFile_agrees_not_behind :
    parseSource wideText = .error [wideError] ∧
      runFile ⟨"notes", false, 0⟩ (.text wideText) =
        { exitCode := 101, output := "", errors := "", events := [] } := by
  have ran : runFile ⟨"notes", false, 0⟩ (.text wideText) = _ :=
    runSource_eq ⟨"notes", false, 0⟩ wideText
  rw [parseSource_wideText] at ran
  have one : reportOne? wideText "notes" wideError = none := by
    rw [reportOne?, render?_wideText]
    rfl
  refine ⟨parseSource_wideText, ran.trans ?_⟩
  dsimp only
  rw [report, one]
  rfl

end CommandLine
end Script
