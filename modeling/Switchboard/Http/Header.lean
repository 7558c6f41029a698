import Switchboard.Data.Conversion
import Switchboard.Text.Lowercase

/-!
# The header of requests

Which form of answer a client asks for. Names and values of a header are ASCII texts.
-/

namespace Switchboard

inductive HeaderFault where
  | mismatch (m : Mismatch)
  /-- A text has a character outside ASCII. -/
  | notAscii
deriving DecidableEq, Repr

def asciiText (s : String) : Except HeaderFault String :=
  if s.toList.all (·.toNat < 0x80) then .ok s else .error .notAscii

def headerName : Scalar → Except HeaderFault String
  | .text s => asciiText s
  | _ => .error (.mismatch .noFields)

def headerText : Value → Except HeaderFault String
  | .text s => asciiText s
  | _ => .error (.mismatch .wrongKind)

def headerFields (fields : Fields) : Except HeaderFault (List (String × String)) :=
  fields.mapM fun field => do
    let name ← headerName field.1
    let value ← headerText field.2
    return (Text.lowerText name, value)

/-- What requests accept: JSON where no headers are set, and anything where other headers are. -/
def acceptHeader (headers : Value) : Except HeaderFault String :=
  match (headers.orElse (.record [("Accept", .text "application/json")])).toFields with
  | .error m => .error (.mismatch m)
  | .ok fields => do
    let named ← headerFields fields
    match (named.filter (·.1 == "accept")).map (·.2) with
    | [] => return "*/*"
    | values => return ", ".intercalate values

end Switchboard
