import VisualNovel.CommandLine.Report

/-!
# The command line

Reads the files that a request names, and prints its report.
-/

namespace VisualNovel.CommandLine

/-- The text of a file, if it can be read. -/
def readText (file : String) : IO (Option String) := do
  try
    return some (← IO.FS.readFile file)
  catch _ =>
    return none

/-- The texts of all files that a request names. -/
def readTexts (request : Request) : IO Files := do
  let texts ← request.files.mapM fun file => return (file, ← readText file)
  return fun file => (texts.lookup file).join

/-- Prints what a command line asks for, and gives the exit code. -/
def run (arguments : List String) : IO UInt32 := do
  match Request.read arguments with
  | .error mistake =>
    IO.eprintln mistake.message
    usage.forM fun line => IO.eprintln line
    return usageExit.toUInt32
  | .ok request =>
    let report := request.report (← readTexts request)
    report.output.forM fun line => IO.println line
    report.error.forM fun message => IO.eprintln s!"错误: {message}"
    return report.exit.toUInt32

end VisualNovel.CommandLine

/-- Answers the request on the command line. -/
def main (arguments : List String) : IO UInt32 :=
  VisualNovel.CommandLine.run arguments
