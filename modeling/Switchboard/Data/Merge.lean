import Switchboard.Data.Conversion

/-!
# Laying one configuration over another

Records are merged field by field; every other value replaces what was there.
-/

namespace Switchboard

namespace Value

mutual

/-- The value that a field has after another value has been laid over it. -/
def laidOver (under : Option Value) : Value → Value
  | record above =>
    match under with
    | some (record fields) => record (mergeFields fields above)
    | _ => record above
  | v => v

def mergeFields (under : Fields) : List (Scalar × Value) → Fields
  | [] => under
  | (name, v) :: rest => mergeFields (Fields.put name (laidOver (Fields.get? under name) v) under) rest

end

/-- Merges two values as configurations. What is laid over must be a record. -/
def merge (base overrides : Value) : Except Mismatch Fields := do
  let under ← base.toFields
  match overrides with
  | record above => return mergeFields under above
  | _ => .error .noFields

end Value

end Switchboard
