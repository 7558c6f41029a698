/-!
# Texts as patterns

A pattern that matches one text is written with a backslash before each character that has a meaning
of its own in patterns.
-/

namespace Switchboard.Text

def patternSigns : List Char :=
  " \t\n\r\x0b\x0c#$&()*+-.?[\\]^\x7b|\x7d~".toList

def escapedPattern (s : String) : String :=
  String.ofList (s.toList.flatMap fun c => if patternSigns.contains c then ['\\', c] else [c])

end Switchboard.Text
