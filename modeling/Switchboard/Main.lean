import Switchboard.Json.Writer
import Switchboard.Settings.CommandLine

/-!
# The command

Takes a command line, and prints the settings that the relay starts with, or why it would not
start.  All that is decided is decided by `CommandLine.settings`; here the environment and the
settings file are read, and the answer is printed.
-/
namespace Switchboard

namespace Main

/-- The variables of the environment that count. -/
def variableNames : List String := [
  "HOME", "RELAY_CONFIG", "RELAY_HOST", "RELAY_PORT", "RELAY_MAX_MESSAGE_SIZE",
  "RELAY_HUB_EVENT_BUFFER", "RELAY_QUEUE_CAPACITY", "RELAY_WRITE_WAIT_MS", "RELAY_PONG_WAIT_MS",
  "RELAY_PING_PERIOD_MS", "RELAY_BUS_BROKERS", "RELAY_BUS_GROUP_ID", "RELAY_BUS_TOPICS",
  "RELAY_BUS_OFFSET_RESET", "RELAY_LOG_LEVEL", "RELAY_LOG_FORMAT"]

/-- The environment of this process. -/
def environment : IO Environment := do
  let entries ← variableNames.filterMapM fun name => do
    return (← IO.getEnv name).map fun value => (name, Bytes.ofText value)
  return ⟨entries⟩

/-- The number by which the system says that a directory stands where a file is wanted. -/
def directoryCode : UInt32 := 21

/-- What stands at a path of the file system.  A path that leads through a file leads nowhere. -/
def stored (path : String) : IO Stored := do
  try
    let content ← IO.FS.readBinFile path
    return .file content.data.toList
  catch
    | .noFileOrDirectory .. => return .absent
    | .inappropriateType _ code _ => return if code = directoryCode then .directory else .absent
    | e => throw e

/-- What a command line gives, as the text to print, or the causes why it gives nothing. -/
def answer (args : List String) : IO (Except (List String) String) := do
  let env ← environment
  let path := match CommandLine.parse args with
    | .ok c => c.config.getD (Settings.path env)
    | .error _ => Settings.path env
  let here ← stored path
  return match CommandLine.settings args env fun _ => here with
    | .ok s => .ok s.json.text
    | .error e => .error e.chain

end Main

end Switchboard

/-- Prints the settings, or the causes of the error, each on a line of its own. -/
def main (args : List String) : IO UInt32 := do
  match ← Switchboard.Main.answer args with
  | .ok text =>
    IO.println text
    return 0
  | .error causes =>
    for cause in causes do
      IO.eprintln cause
    return 1
