import PathQuery.Command.Report

/-!
# The command

Reads the standard input if the arguments ask for it and it is not a terminal, and writes the
report of the run.
-/

open PathQuery.Command

def main (line : List String) : IO UInt32 := do
  let input ← IO.getStdin
  let bytes? ←
    if asksForInput line && !(← input.isTty) then some <$> input.readBinToEnd
    else pure none
  let report := report line bytes?
  (← IO.getStdout).putStr report.out
  (← IO.getStderr).putStr report.err
  return report.code.toUInt32
