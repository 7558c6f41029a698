/-!
# Arguments of the command line

A command, options and at most one text. Options may stand before and after the text; two dashes
alone end them.
-/

namespace Switchboard.Console

/-- What a command line asks for. -/
inductive Command where
  | chat (profile : String) (debug : Bool)
  | ask (text : String) (profile : String) (debug json : Bool)
  | skills (profile : String)
deriving DecidableEq, Repr

/-- What has been read of the arguments of a command. -/
structure Arguments where
  profile : String
  debug : Bool
  json : Bool
  texts : List String
deriving DecidableEq, Repr

def Arguments.start : Arguments := ⟨"default", false, false, []⟩

structure Flags where
  debug : Bool
  json : Bool

def after? (start text : List Char) : Option (List Char) :=
  if start.isPrefixOf text then some (text.drop start.length) else none

/-- Reads arguments one by one; nothing comes of an option that the command does not have. -/
def Arguments.read (flags : Flags) (read : Arguments) : List String → Option Arguments
  | [] => some read
  | "--" :: rest => some { read with texts := read.texts ++ rest }
  | "--profile" :: value :: rest => { read with profile := value }.read flags rest
  | "-p" :: value :: rest => { read with profile := value }.read flags rest
  | arg :: rest =>
    if arg == "--debug" && flags.debug then { read with debug := true }.read flags rest
    else if arg == "--json" && flags.json then { read with json := true }.read flags rest
    else if arg.startsWith "-" && arg != "-" then
      match after? "--profile=".toList arg.toList with
      | some value => { read with profile := String.ofList value }.read flags rest
      | none =>
        match after? "-p".toList arg.toList with
        | some (c :: value) => { read with profile := String.ofList (c :: value) }.read flags rest
        | _ => none
    else { read with texts := read.texts ++ [arg] }.read flags rest

def Command.ofNamed? (name : String) (args : List String) : Option Command :=
  match name with
  | "chat" => do
    match ← Arguments.start.read ⟨true, false⟩ args with
    | ⟨profile, debug, _, []⟩ => some (.chat profile debug)
    | _ => none
  | "ask" => do
    match ← Arguments.start.read ⟨true, true⟩ args with
    | ⟨profile, debug, json, [text]⟩ => some (.ask text profile debug json)
    | _ => none
  | "skills" => do
    match ← Arguments.start.read ⟨false, false⟩ args with
    | ⟨profile, _, _, []⟩ => some (.skills profile)
    | _ => none
  | _ => none

/-- The command that some arguments ask for, if they are well formed. -/
def Command.ofArguments? : List String → Option Command
  | "--" :: name :: args => Command.ofNamed? name args
  | name :: args => Command.ofNamed? name args
  | [] => none

end Switchboard.Console
