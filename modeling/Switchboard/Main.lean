import Std.Time.DateTime.Timestamp
import Switchboard.Console.Dialogue
import Switchboard.Profile.Shipped

/-!
# The command line

Runs a command on the shipped profiles. There is no network behind it, so lookups are answered from
simulated data.
-/

namespace Switchboard

def watchedVariables : List String := ["OPENWEATHER_API_KEY"]

def readEnvironment : IO Environment := do
  let found ← watchedVariables.mapM fun name => do
    let value ← IO.getEnv name
    return value.map fun v => (name, v)
  return found.filterMap id

def readSeconds : IO Int := do
  let now ← Std.Time.Timestamp.now
  return now.toSecondsSinceUnixEpoch.val

/-- Chats until the end of the input or of the chat. Lines that have been read already come first. -/
partial def converse (c : Conversation) (debug : Bool) (network : Network) (read : List String) :
    IO Nat := do
  IO.print Console.prompt
  (← IO.getStdout).flush
  let lines ← if read.isEmpty then Console.inputLines <$> (← IO.getStdin).getLine else pure read
  match lines with
  | [] => do
    IO.println ""
    return 0
  | line :: rest =>
    match Console.turn Console.line c debug network line with
    | .ended code output _ => do
      IO.print output
      return code
    | .answered output after network => do
      IO.print output
      converse after debug network rest

def runCommand (command : Console.Command) (site : Site) : IO Nat := do
  let network : Network := ⟨[], []⟩
  let finish (ending : Console.Ending) : IO Nat := do
    IO.print ending.output
    return ending.code
  match command with
  | .chat profile debug =>
    match Console.begin? Console.line site profile network with
    | .error ending => finish ending
    | .ok c => do
      IO.print (Console.welcome Console.line)
      converse c debug network []
  | command => finish (command.run site "" network)

end Switchboard

def main (args : List String) : IO UInt32 := do
  match Switchboard.Console.Command.ofArguments? args with
  | none => return Switchboard.Console.usageCode.toUInt32
  | some command => do
    let env ← Switchboard.readEnvironment
    let clock ← Switchboard.readSeconds
    let folder := Switchboard.shippedFolder "config" "config".utf8ByteSize []
    let code ← Switchboard.runCommand command ⟨folder, env, clock⟩
    return code.toUInt32
