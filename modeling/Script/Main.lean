import Script.CommandLine

set_option autoImplicit false

/- The program itself: reads the file that the arguments name and prints what the command says. -/

namespace Script.CommandLine

def readContent (file : String) : IO Content := do
  try
    match String.fromUTF8? (← IO.FS.readBinFile file) with
    | some source => return .text source
    | none => return .notText
  catch _ => return .notAFile

end Script.CommandLine

open Script.CommandLine

/-- Runs the file that the arguments name. -/
def main (arguments : List String) : IO UInt32 := do
  match Options.ofArguments? arguments with
  | none =>
      IO.eprintln "usage: script [--print-ast] [-v]... FILE"
      return exitArguments.toUInt32
  | some options =>
      let outcome := runFile options (← readContent options.file)
      IO.print outcome.output
      IO.eprint outcome.errors
      return outcome.exitCode.toUInt32
