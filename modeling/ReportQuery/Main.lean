import ReportQuery.CommandLine.Preview

/-!
# The command

Reads the named files, previews the report, and prints what there is to show. The command is
built without a driver for any database, so a statement that is to be run fails to connect.
-/

namespace ReportQuery.CommandLine

/-- A database that no driver is there for. -/
def noDatabase : Database where
  onConnect := some (.reported "NoDriverError" "no database driver is available")

/-- What is printed for one thing that is shown. -/
def Shown.lines : Shown → List String
  | .blank => [""]
  | .line text => [text]
  | .frame text title _ => [title, text]
  | .table columns title rows =>
    title :: " | ".intercalate columns :: rows.map (" | ".intercalate ·)
  | .status text => [text]

/-- What stands at a path. -/
def contentAt (path : String) : IO FileContent := do
  try
    return .bytes (← IO.FS.readBinFile path)
  catch
    | .inappropriateType .. => return .directory
    | _ => return .missing

/-- The directory in which the command was called, as far as the arguments name files in it. -/
def callingDirectory (a : Arguments) : IO Directory := do
  let mut found : List (String × FileContent) := []
  for path in a.request :: a.graphPath.toList do
    found := (path, ← contentAt path) :: found
  let contents := found
  return { lookup := fun path ↦ (contents.lookup path).getD .missing }

/-- How the command is called. -/
def usage : String :=
  "usage: [-h] [--graph-source static|file|catalog] [--graph-path GRAPH_PATH] [--execute] request"

/-- Previews the report and prints it; the exit code is the result. -/
def runCommand (arguments : List String) : IO UInt32 := do
  match Arguments.read arguments with
  | .error .help => IO.println usage; return 0
  | .error .usage => IO.eprintln usage; return 2
  | .ok a =>
    let run := preview a { directory := ← callingDirectory a, database := noDatabase }
    for shown in run.shown do
      for line in shown.lines do
        IO.println line
    match run.ending with
    | .code n => return n.toUInt32
    | .broken _ => IO.eprintln "the report could not be previewed"; return 1

end ReportQuery.CommandLine

/-- The command. -/
def main (arguments : List String) : IO UInt32 :=
  ReportQuery.CommandLine.runCommand arguments
