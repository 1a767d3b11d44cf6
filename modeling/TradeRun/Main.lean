import Std.Time.DateTime.Timestamp
import TradeRun.Account
import TradeRun.CommandLine.Answer
import TradeRun.Store.Contents

/-!
The program: it answers its command line on the machine that it runs on.
-/

namespace TradeRun.CommandLine

/-- What a path leads to, if to anything. -/
def fileType? (path : String) : IO (Option IO.FS.FileType) := do
  if path = "" then return none
  let here ← IO.currentDir
  try
    return some (← (here / path).metadata).type
  catch _ => return none

/-- Makes an empty file, and tells whether that worked. -/
def makeFile (path : String) : IO Bool := do
  try
    let _ ← IO.FS.Handle.mk path .append
    return true
  catch _ => return false

/-- The directory of the user that the list of accounts has, where there is such a list. -/
def readAccountHome : IO (Option String) := do
  try
    let status ← IO.FS.readFile "/proc/self/status"
    let accounts ← IO.FS.readFile "/etc/passwd"
    return (userOf? status).bind (accountHome? accounts)
  catch _ => return none

/-- The machine that the program runs on. -/
def machine : IO (Host IO) := do
  let environment ← Environment.ofLookup (← readAccountHome) fun name => IO.getEnv name
  return {
    environment
    isDirectory := fun path => do return (← fileType? path) == some .dir
    isFile := fun path => do return (← fileType? path) == some .file
    now := do return Float.ofInt (← Std.Time.Timestamp.now).toSecondsSinceUnixEpoch.toInt
    directory := (← IO.currentDir).toString
    file := fun path => do return StoreFile.ofBytes (← IO.FS.readBinFile path)
    makeFile }

end TradeRun.CommandLine

/-- Writes the answer to the command line and ends with its status. -/
def main (words : List String) : IO UInt32 := do
  let answer ← TradeRun.CommandLine.respond (← TradeRun.CommandLine.machine) words
  IO.eprint answer.err
  IO.print answer.out
  return UInt32.ofNat answer.status
