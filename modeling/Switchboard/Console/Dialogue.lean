import Switchboard.Console.Arguments
import Switchboard.Data.Json.Printer
import Switchboard.Server
import Switchboard.Text.Style

/-!
# The console

What each command prints, for any way of putting texts in their colours on the console. A chat routes
one line after the other and ends with an empty line, with the word for leaving, or with the input.
-/

namespace Switchboard.Console

/-- What a command leaves behind: an exit code, what it has printed, and the network. -/
structure Ending where
  code : Nat
  output : String
  network : Network

inductive Colour where
  | red | blue
deriving DecidableEq, Repr

/-- A text with the end of its line as it is printed where there are no styles and colours. -/
def line (_ : Option Colour) (s : String) : String :=
  String.ofList (Text.withoutReturns (Text.withoutStyles s.toList ++ ['\n']))

section

variable (echo : Option Colour → String → String)

def welcome : String :=
  echo none "Введите сообщение для ассистента. Пустая строка или команда /exit завершит работу."

def farewell : String := echo none "Завершение работы CLI."

def prompt : String := "> "

def exitWord : String := "/exit"

def loadFailure (profile : String) : LoadFault → String
  | .missing name folder tried =>
    echo (some .red) ("Профиль '" ++ profile ++ "' не найден: " ++
      (LoadFault.missing name folder tried).message)
  | fault =>
    echo (some .red) ("Не удалось загрузить профиль '" ++ profile ++ "': " ++ fault.message)

def answerText (o : Outcome) : String :=
  let label := if o.matched then (Value.option o.skill).display else "assistant"
  echo none ("[" ++ label ++ "] " ++ o.response.display)

def decisionText (d : Decision) : String :=
  echo (some .blue) ("[DEBUG] Навык: " ++ d.skill.name ++ ", стратегия: " ++ d.strategy.name ++
    ", триггер: " ++ Text.quotedText d.trigger ++ ", аргумент: " ++ Text.quotedText d.argument)

def decisionPart (assistant : Assistant) (text : String) : String :=
  (assistant.matchText text).elim "" (decisionText echo)

/-- What has been printed, and whether nothing has failed on the way. -/
structure Report where
  output : String
  complete : Bool

/-- The data of an answer after what has been printed before. Some data cannot be written. -/
def dataReport (before : String) (o : Outcome) : Report :=
  match Json.indented? (Outcome.reported o.data) with
  | some text => ⟨before ++ echo (some .blue) ("[DEBUG] Данные навыка: " ++ text), true⟩
  | none => ⟨before, false⟩

/-- An answer as it is printed, with the decision and the data where they are asked for. Nothing is
printed of an answer that cannot be written. -/
def report (assistant : Assistant) (text : String) (o : Outcome) (debug : Bool) : Report :=
  if !o.response.isWritable then ⟨"", false⟩
  else if debug then
    let before := answerText echo o ++ decisionPart echo assistant text
    if o.matched then dataReport echo before o else ⟨before, true⟩
  else ⟨answerText echo o, true⟩

def jsonReport (o : Outcome) : Report :=
  match Json.indented? o.toValue with
  | some text => ⟨echo none text, true⟩
  | none => ⟨"", false⟩

def failureCode : Nat := 1

/-- What a line of a chat comes to: an end, or an answer after which the chat goes on. -/
inductive Turn where
  | ended (code : Nat) (output : String) (network : Network)
  | answered (output : String) (c : Conversation) (network : Network)

def turn (c : Conversation) (debug : Bool) (network : Network) (typed : String) : Turn :=
  let text := String.ofList (Text.trim typed.toList)
  if text.isEmpty || text == exitWord then .ended 0 (farewell echo) network
  else
    match c.say text network with
    | (.ok o, after, network) =>
      let printed := report echo c.assistant text o debug
      if printed.complete then .answered printed.output after network
      else .ended failureCode printed.output network
    | (.error _, _, network) => .ended failureCode "" network

/-- Chats line by line, after what has been printed so far. -/
def chatLines (c : Conversation) (debug : Bool) (network : Network) (printed : String) :
    List String → Ending
  | [] => ⟨0, printed ++ prompt ++ echo none "", network⟩
  | typed :: rest =>
    match turn echo c debug network typed with
    | .ended code output network => ⟨code, printed ++ prompt ++ output, network⟩
    | .answered output after network =>
      chatLines after debug network (printed ++ prompt ++ output) rest

def padded (width : Nat) (s : String) : String :=
  s ++ String.ofList (List.replicate (width - s.length) ' ')

def usageWidth : Nat := 22

def skillText (skill : Skill) : String :=
  let phrases := ", ".intercalate skill.phrases
  echo none (padded usageWidth skill.usage ++ " " ++ skill.description) ++
    echo none (padded usageWidth "" ++ " фразы: " ++ if phrases.isEmpty then "-" else phrases)

def inputLines (input : String) : List String :=
  (Text.lines (Text.plainLines input.toList)).map String.ofList

/-- The configuration and the assistant of a profile, or the end where there are none. -/
def enter (site : Site) (profile : String) (network : Network) :
    Except Ending (Value × Assistant) :=
  match site.folder.load site.env profile with
  | .error fault => .error ⟨failureCode, loadFailure echo profile fault, network⟩
  | .ok fields =>
    match Assistant.build (.record fields) site.clock with
    | .error _ => .error ⟨failureCode, "", network⟩
    | .ok assistant => .ok (.record fields, assistant)

def begin? (site : Site) (profile : String) (network : Network) : Except Ending Conversation := do
  let (config, assistant) ← enter echo site profile network
  match Conversation.limitOf config with
  | .error _ => .error ⟨failureCode, "", network⟩
  | .ok limit => return ⟨assistant, .empty limit⟩

def chat (site : Site) (profile : String) (debug : Bool) (input : String) (network : Network) :
    Ending :=
  match begin? echo site profile network with
  | .error ending => ending
  | .ok c => chatLines echo c debug network (welcome echo) (inputLines input)

def ask (site : Site) (text profile : String) (debug json : Bool) (network : Network) : Ending :=
  match enter echo site profile network with
  | .error ending => ending
  | .ok (_, assistant) =>
    match assistant.route text network with
    | (.error _, after) => ⟨failureCode, "", after⟩
    | (.ok o, after) =>
      let printed := if json then jsonReport echo o else report echo assistant text o debug
      ⟨if printed.complete then 0 else failureCode, printed.output, after⟩

def listSkills (site : Site) (profile : String) (network : Network) : Ending :=
  match enter echo site profile network with
  | .error ending => ending
  | .ok (_, assistant) => ⟨0, String.join (assistant.skills.map (skillText echo)), network⟩

end

def Command.run (command : Command) (site : Site) (input : String) (network : Network)
    (echo : Option Colour → String → String := line) : Ending :=
  match command with
  | .chat profile debug => Console.chat echo site profile debug input network
  | .ask text profile debug json => Console.ask echo site text profile debug json network
  | .skills profile => listSkills echo site profile network

/-- The exit code of arguments that ask for nothing. -/
def usageCode : Nat := 2

end Switchboard.Console
