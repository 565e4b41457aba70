import Std.Time.Date.PlainDate
import Std.Time.DateTime.Timestamp
import Signpost.Log.File
import Signpost.Log.Filter
import Signpost.Program

/-!
# The command line

The program takes its settings from the environment and from files, writes its log and looks at the
rules file from time to time. The end of the standard input is the request to stop. There is no
connection to a container daemon here.
-/

namespace Signpost.Main

open Signpost.Files (Tree Path Edit)

/-- The variables that the program reads. -/
def variableNames : List String :=
  ["PROXY_CONFIG_FILE", "PROXY_LOG_LEVEL", "PROXY_LOG_FORMAT", "PROXY_LOG_OUTPUT",
    "PROXY_DOCKER_ENABLED", "PROXY_DOCKER_NETWORK", "PROXY_LABEL_PREFIX", "PROXY_DOCKER_EXCLUDE",
    "PROXY_DOCKER_RETRY_ATTEMPTS", "PROXY_DOCKER_RETRY_INTERVAL", "PROXY_FILE_ENABLED",
    "PROXY_FILE_PATH", "PROXY_STATIC_ENABLED", "PROXY_STATIC_RULES", "RUST_LOG"]

def readEnvironment : IO Environment :=
  variableNames.filterMapM fun name => do
    return (← IO.getEnv name).map fun value => (name, Text.Utf8.encode value)

/-- Whether something can be opened. -/
def canOpen (path : String) : IO Bool := do
  try
    let _ ← IO.FS.Handle.mk path .read
    return true
  catch _ => return false

/-- What is at a path, and the directory that holds it. -/
def look (path : String) : IO Tree := do
  let t := ({} : Tree).enter (Path.ofString (toString (← IO.currentDir)))
  let p : Path := .ofString path
  let there ← canOpen (p.directory.shown ++ "/.")
  let t := if there then (Edit.makeDirectory p.directory).apply t else t
  try
    let content ← IO.FS.readBinFile path
    return (Edit.write p content.toList).apply t
  catch _ => return t

/-- Today's date. -/
def today : IO String := do
  let seconds := (← Std.Time.Timestamp.now).toSecondsSinceUnixEpoch.val
  let day := Std.Time.PlainDate.ofEpochDay (.ofInt (seconds / 86400))
  let pad (n : Int) : String := if n < 10 then "0" ++ toString n else toString n
  return toString day.year.toInt ++ "-" ++ pad day.month.val ++ "-" ++ pad day.day.val

/-- Opens what the log is written to. -/
def openLog (l : Settings.Logging) : IO IO.FS.Stream := do
  match l.output with
  | .stdout => IO.getStdout
  | .file path =>
    let directory := (Path.ofString path).directory.shown
    IO.FS.createDirAll directory
    match Log.LogFile.open? (← look (directory ++ "/x")) path with
    | some (_, file) =>
      return .ofHandle (← IO.FS.Handle.mk (directory ++ "/" ++ file.dated (← today)) .append)
    | none => throw (IO.userError ("no log file can be made for " ++ path))

/-- What the log is written with. -/
structure Writer where
  env : Environment
  logging : Settings.Logging
  stream : IO.FS.Stream

def Writer.write (w : Writer) (lines : List Log.Line) : IO Unit := do
  for line in Log.shown w.env w.logging.level lines do
    w.stream.putStrLn (line.write w.logging.format)
  w.stream.flush

/-- Reads the standard input to its end. -/
partial def drain : IO Unit := do
  let line ← (← IO.getStdin).getLine
  if line.isEmpty then return else drain

/-- Goes on until the input has ended. The table is made anew when the rules file has changed. -/
partial def watch (w : Writer) (s : Settings) (files : Tree) (ended : Task (Except IO.Error Unit)) :
    IO Unit := do
  if ← IO.hasFinished ended then return
  IO.sleep 200
  let next ← if s.file.enabled then look s.file.path else pure files
  if next != files then
    w.write (Program.rebuildLines Toml.Fault.message next (Program.providers s none))
  watch w s next ended

/-- Runs the program with settings until it is told to stop. -/
def serve (env : Environment) (s : Settings) : IO Unit := do
  for complaint in Log.complaints env do
    IO.eprintln complaint
  let w : Writer := { env, logging := s.logging, stream := ← openLog s.logging }
  let files ← look s.file.path
  w.write (Program.startLines Toml.Fault.message s files none)
  watch w s files (← IO.asTask drain .dedicated)
  w.write Program.stopLines

end Signpost.Main

open Signpost Signpost.Main in
def main : IO UInt32 := do
  let env ← readEnvironment
  let config := (Settings.configPath? env).map fun path =>
    String.ofList (Text.Utf8.decodeLossy path)
  let files ← match config with
    | some path => look path
    | none => pure {}
  match Settings.load env files with
  | .error f =>
    IO.eprintln (Program.loadFailure Toml.Fault.message f)
    return 1
  | .ok s =>
    serve env s
    return 0
