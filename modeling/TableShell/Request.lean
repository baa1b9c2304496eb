import TableShell.Help
import TableShell.Query

/-!
# Requests

What a statement asks of the table, once its arguments have been checked and converted. Checking
needs the schema and the registry only; performing a request is the one step that touches the store.
-/

namespace TableShell

/-- What a statement hands back: rows in display order, or a text to be shown as it is. -/
structure Outcome where
  rows : List Row := []
  notice : Option String := none
  deriving DecidableEq

def Outcome.ofRow (row : Row) : Outcome := { rows := [row] }

inductive Request where
  | create (key : Value) (fields : Row)
  | delete (key : Value)
  | read (key : Value)
  | select (query : Query)
  | update (key : Value) (fields : Row)
  | notice (text : String)
  deriving DecidableEq

def Argument.toPair : Argument → Except Error (String × String)
  | .pair k v => .ok (k, v)
  | arg => .error (.internal (.notAPair arg))

def singleValue : List Argument → Except Error String
  | [.value v] => .ok v
  | args => .error (.internal (.notOneValue args))

namespace Request

/-- Every declared field must be given, exactly once, and no other. -/
def ofAdd (S : Schema) (pairs : List (String × String)) : Except Error Request := do
  let entry ← Entry.ofPairs pairs
  S.validateKeys entry true true
  let row ← S.convertEntry entry
  match row[S.key.name]? with
  | none => throw (.entryInvalid (.missingKeys [S.key.name]))
  | some key => return .create key (row.erase S.key.name)

/-- The first pair names the target by its primary key; the others are the new field values, and
the primary key may not be among them. -/
def ofModify (S : Schema) (pairs : List (String × String)) : Except Error Request :=
  match pairs with
  | [] => throw (.internal .noTarget)
  | (name, rawKey) :: updates => do
    if name ≠ S.key.name then throw (.invalidKeyArgument name)
    if updates.any (·.1 == S.key.name) then throw (.invalidKeyArgument S.key.name)
    let entry ← Entry.ofPairs updates
    S.validateKeys entry false true
    let key ← S.convertKey rawKey
    let fields ← S.convertEntry entry
    return .update key fields

def ofAction (S : Schema) (r : Registry) (args : List Argument) : Action → Except Error Request
  | .add => args.mapM Argument.toPair >>= ofAdd S
  | .delete => (singleValue args >>= S.convertKey).map .delete
  | .get => (singleValue args >>= S.convertKey).map .read
  | .list => (args.mapM Argument.toPair >>= Query.ofPairs S).map .select
  | .modify => args.mapM Argument.toPair >>= ofModify S
  | .help => (Help.text r (args.head?.bind Argument.value?)).map .notice

def perform (s : Store) : Request → Except Error Outcome × Store
  | .create key fields =>
    let (row, s') := s.create key fields
    (row.map .ofRow, s')
  | .delete key =>
    let (row, s') := s.delete key
    (row.map .ofRow, s')
  | .read key => ((s.read key).map .ofRow, s)
  | .select query => ((query.run s).map fun rows => { rows }, s)
  | .update key fields =>
    let (row, s') := s.update key fields
    (row.map .ofRow, s')
  | .notice text => (.ok { notice := some text }, s)

end Request

end TableShell
