import TableShell.Error
import TableShell.Value

/-!
# Field types

The three types that a column can have. Every text that a user types enters the table through
`FieldType.convert`.
-/

namespace TableShell

inductive FieldType where
  | integer
  | string
  | date
  deriving DecidableEq, Repr

namespace FieldType

def name : FieldType → String
  | .integer => "integer"
  | .string => "string"
  | .date => "date"

def ofName? (name : String) : Option FieldType :=
  [integer, string, date].find? (·.name == name)

@[simp] theorem ofName?_name (t : FieldType) : ofName? t.name = some t := by
  cases t <;> decide

def convert (type : FieldType) (raw : String) : Except Error Value :=
  match type with
  | .integer =>
    match (Text.integer? raw.toList).bind Text.int64? with
    | some n => .ok (.int n)
    | none => .error (.entryInvalid (.notAnInteger raw))
  | .string => .ok (.text raw)
  | .date =>
    match Date.parse? raw.toList with
    | some d => .ok (.date d)
    | none => .error (.entryInvalid (.notADate raw))

/-- The type whose conversions give values of this kind. -/
def ofValue : Value → FieldType
  | .int _ => .integer
  | .text _ => .string
  | .date _ => .date

theorem ofValue_of_convert {type : FieldType} {raw : String} {v : Value}
    (h : type.convert raw = .ok v) : ofValue v = type := by
  cases type <;> simp only [convert] at h
  · split at h <;> cases h; rfl
  · cases h; rfl
  · split at h <;> cases h; rfl

end FieldType

end TableShell
