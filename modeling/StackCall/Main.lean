import StackCall.CommandLine.Report

set_option autoImplicit false

open StackCall.CommandLine

def readText (path : String) : IO (Option String) := do
  try
    let content ← IO.FS.readFile path
    return some content
  catch _ => return none

def main (words : List String) : IO UInt32 := do
  let path := (Invocation.ofWords words).toOption.bind Invocation.config
  let content ← match path with
    | some path => readText path
    | none => pure none
  let report := run words fun _ => content
  IO.print report.output
  IO.eprint report.notice
  return report.exitCode.toUInt32
