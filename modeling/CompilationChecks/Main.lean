import CompilationChecks.CommandLine

/-!
The program, which runs with the means that the system gives it.
-/

namespace CompilationChecks

/-- The means of a process of the system. -/
def systemMeans : CommandLine.Means IO where
  read path := do
    try
      let bytes ← IO.FS.readBinFile path
      return some bytes.toList
    catch _ => return none
  print text := IO.print text
  complain text := IO.eprintln text
  write path text := do
    try
      IO.FS.writeFile path text
      return true
    catch _ => return false

end CompilationChecks

open CompilationChecks

/-- Runs the program. -/
def main (arguments : List String) : IO UInt32 := do
  let environment ← CommandLine.Environment.collect fun name => IO.getEnv name
  let status ← CommandLine.program systemMeans arguments environment
  return UInt32.ofNat status.code
