-- The program: reads the files that a command line names, and prints its
-- report or writes the rows of a batch.
import SceneMask.Batch
import SceneMask.Report

namespace SceneMask.Main

open CommandLine (BatchRequest Request UsageError)

/-- Reads files into a table; what cannot be read is not in it. -/
def load (paths : List String) : IO Files := do
  let table ← paths.filterMapM fun (path : String) => do
    try
      let bytes ← IO.FS.readBinFile path
      return some (path, bytes)
    catch _ => return none
  return fun path => table.lookup path

def usageText : UsageError → String
  | .unknownArgument => "unexpected argument"
  | .missingArgument => "a required argument is missing"
  | .argumentConflict => "an argument cannot be used with another one, or twice"
  | .invalidValue => "a value is required"
  | .valueValidation => "invalid value"
  | .tooManyValues => "unexpected value"
  | .invalidSubcommand => "unrecognized subcommand"
  | .missingSubcommand => "a subcommand is required"
  | .help | .helpForMissingSubcommand => "subcommands: compile, crop, account, stats, batch"

/-- Says what is wrong with a command line; asking for help is no error. -/
def refuse (error : UsageError) : IO UInt32 := do
  if error = .help then
    IO.println (usageText error)
    return 0
  IO.eprintln ("error: " ++ usageText error)
  return 2

def fail (failure : Failure) : IO UInt32 := do
  IO.eprintln ("Error: " ++ failure.message)
  return 1

def report (words : List String) : IO UInt32 := do
  match Request.parse words with
  | .error error => refuse error
  | .ok request =>
    match Report.run (← load request.paths) request with
    | .error failure => fail failure
    | .ok json =>
      IO.println json.pretty
      return 0

/-- Writes the rows where the request wants them. -/
def write (path : String) (rows : Batch.Rows) : IO Unit := do
  let directory := Files.directory path
  if directory ≠ "" then IO.FS.createDirAll directory
  IO.FS.writeFile path rows.toJson.pretty

def batch (words : List String) : IO UInt32 := do
  match BatchRequest.parse words with
  | .error error => refuse error
  | .ok request =>
    let named ← load request.paths
    let scenes := (Batch.readManifest named request.manifest).toOption.getD []
    let files ← load (request.paths ++ scenes.flatMap Scene.paths)
    match Batch.run files request with
    | .error failure => fail failure
    | .ok rows =>
      write request.output rows
      return 0

end SceneMask.Main

def main (words : List String) : IO UInt32 :=
  match words with
  | "batch" :: rest => SceneMask.Main.batch rest
  | words => SceneMask.Main.report words
