import Sentential.CommandLine.Run

/-! The program: prints what a run of its command line gives. -/

open Sentential

def main (arguments : List String) : IO UInt32 := do
  let outcome := CommandLine.run arguments
  IO.print outcome.output
  IO.eprint outcome.errors
  return outcome.code.toUInt32
