import TypedPattern.CommandLine

def main (args : List String) : IO UInt32 := do
  let report := TypedPattern.CommandLine.run args
  IO.print report.stdout
  IO.eprint report.stderr
  return report.code.toUInt32
