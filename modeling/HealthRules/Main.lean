import HealthRules.Command.Machine
import Std.Time.DateTime.Timestamp

/-!
# Main — the command line

The command takes the path of a rule file, or reads rule text from the standard input. This module only
fetches what a report depends on and carries out what the report says.
-/

namespace HealthRules.CommandLine

/-- A code of the system, which may come with its sign turned round. -/
def isCode (n code : UInt32) : Bool := code == n || code == 0 - n

def storageError : IO.Error → StorageError
  | .noFileOrDirectory .. => .missing
  | .inappropriateType _ code _ => if isCode 20 code then .notFolder else .isFolder
  | .invalidArgument _ code details =>
      if isCode 36 code then .nameTooLong else .failed details
  | e => .failed (toString e)

def readFile (path : String) : IO (Except StorageError (List UInt8)) := do
  try
    return .ok (← IO.FS.readBinFile path).toList
  catch e => return .error (storageError e)

/-- Read a file whose path may be any bytes; only texts can be opened here. -/
def readPath (path : Path) : IO (Except StorageError (List UInt8)) := do
  match Utf8.text? path with
  | some path => readFile path
  | none => return .error (.failed "the path is no text")

/-- A file that tells about the process, or nothing. -/
def readBytes (path : String) : IO (List UInt8) := do
  return (← readFile path).toOption.getD []

/-- The text of such a file. -/
def readFact (path : String) : IO String := do return (Utf8.text? (← readBytes path)).getD ""

partial def readChunks (stream : IO.FS.Stream) (chunks : List (List UInt8)) :
    IO (List (List UInt8)) := do
  let chunk ← stream.read 65536
  if chunk.isEmpty then return chunks.reverse else readChunks stream (chunk.toList :: chunks)

def readStandardInput : IO Source := do
  try
    return { chunks := ← readChunks (← IO.getStdin) [] }
  catch e => return { chunks := [], failure := some (toString e) }

/-- The name of the program and its arguments, each with a zero behind it. -/
def readArguments : IO (List (List UInt8)) := do
  return (Lines.cut (· == 0) (← readBytes "/proc/self/cmdline")).1

def readEnvironment : IO Environment := do return .ofBlock (← readBytes "/proc/self/environ")

def readFacts : IO Facts := do
  let cpus := match ← readFile "/proc/cpuinfo" with
    | .ok bytes => .ok (((Utf8.text? bytes).getD "").splitOn "\nprocessor").length
    | .error e => .error e.message
  let pid := ((← readFact "/proc/self/stat").splitOn " ").head?.bind String.toNat?
  return { os := "linux", family := "unix", arch := "x86_64", cpus, pid := pid.getD 1 }

/-- The home directory of the user in the database of accounts. -/
def readAccount : IO (Option (List UInt8)) := do
  let user := ((← readFact "/proc/self/status").splitOn "\nUid:\t")[1]?.map fun rest =>
    Utf8.encode (rest.toList.takeWhile Char.isDigit)
  let (accounts, _) := Lines.cut (· == 0x0A) (← readBytes "/etc/passwd")
  return accounts.findSome? fun account : List UInt8 =>
    let (done, _) := Lines.cut (· == 0x3A) account
    if done[2]? = user then done[5]? else none

/-- Write at the end of the history file; a failure does not matter. -/
def keep (path text : String) : IO Unit := do
  try
    if let some folder := Utf8.text? (Storage.parentPath (.ofText path)) then
      IO.FS.createDirAll folder
  catch _ => pure ()
  try
    let handle ← IO.FS.Handle.mk path .append
    handle.putStr text
  catch _ => pure ()

def readConfig (environment : Environment) : IO Config := do
  match environment.configPath? with
  | some path => return .ofUserFile (← readPath path)
  | none => return .standard

def readSource : RuleInput → IO Source
  | .standard => readStandardInput
  | .file path => return RuleInput.sourceOf (← readPath path)

/-- Say what the report has to say. -/
def tell (report : Report) : IO UInt32 := do
  let stderr ← IO.getStderr
  for message in report.messages do
    stderr.putStrLn message
  (← IO.getStdout).putStr report.output
  return report.exitCode.toUInt32

def run : IO UInt32 := do
  let environment ← readEnvironment
  let config ← readConfig environment
  match RuleInput.ofArguments (← readArguments) with
  | .error argument => tell (.panicked argument)
  | .ok input =>
      let source ← readSource input
      let host := Host.start { environment, facts := ← readFacts }
      let report := ((config.report source).run host).1
      let seconds := (← Std.Time.Timestamp.now).toSecondsSinceUnixEpoch.toInt.toNat
      match report.history? config (environment.home? (← readAccount)) seconds with
      | some (path, text) => keep path text
      | none => pure ()
      tell report

end HealthRules.CommandLine

def main : IO UInt32 := HealthRules.CommandLine.run
