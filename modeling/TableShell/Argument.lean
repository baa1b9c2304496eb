import TableShell.Text.Quoted

/-!
# Arguments of a command

The words after a command's name reach the command grouped into arguments.
-/

namespace TableShell

inductive Argument where
  | pair (key value : String)
  | key (key : String)
  | value (value : String)
  deriving DecidableEq, Repr

namespace Argument

def value? : Argument → Option String
  | .pair _ v => some v
  | .key _ => none
  | .value v => some v

def words : Argument → List String
  | .pair k v => [k, v]
  | .key k => [k]
  | .value v => [v]

/-- The form in which diagnostics show an argument. -/
def diagnostic : Argument → String
  | .pair k v => "Pair(" ++ Text.quoted k ++ ", " ++ Text.quoted v ++ ")"
  | .key k => "Key(" ++ Text.quoted k ++ ")"
  | .value v => "Value(" ++ Text.quoted v ++ ")"

def diagnosticList (args : List Argument) : String :=
  "[" ++ ", ".intercalate (args.map diagnostic) ++ "]"

end Argument

end TableShell
