import TableShell.Error
import TableShell.Text.CharClass
import TableShell.Text.Lowercase

/-!
# Grammars

A grammar says how a command's words are grouped into arguments and how many there may be. Keys are
lowercased and checked on the way.
-/

namespace TableShell

inductive Shape where
  | keyValue
  | key
  | value
  deriving DecidableEq, Repr

/-- Both bounds are inclusive and count arguments, not words; an absent bound does not bind. -/
structure Grammar where
  shape : Shape
  least : Option Nat := none
  most : Option Nat := none
  deriving DecidableEq, Repr

/-- A key is an optional `$`, an ASCII letter or underscore, and word characters to the end. -/
def isKey (cs : List Char) : Bool :=
  let name := match cs with
    | '$' :: rest => rest
    | cs => cs
  match name with
  | [] => false
  | c :: rest => (c.isAlpha || c == '_') && rest.all Text.isWordChar

def lowercaseWord (word : String) : String := String.ofList (Text.lowercase word.toList)

def normalizeKey (word : String) : Except Error String :=
  let key := lowercaseWord word
  if isKey key.toList then .ok key else .error (.invalidKeyArgument key)

namespace Grammar

/-- Words taken two by two; a key without a value is looked at last, and only then. -/
def groupPairs : List String → Except Error (List Argument)
  | [] => .ok []
  | [dangling] => .error (.keyValueUnmatched (lowercaseWord dangling))
  | word :: value :: rest => do
    let key ← normalizeKey word
    let args ← groupPairs rest
    return .pair key value :: args

def groupByShape (words : List String) : Shape → Except Error (List Argument)
  | .keyValue => groupPairs words
  | .key => words.mapM fun word => (normalizeKey word).map .key
  | .value => .ok (words.map .value)

/-- Refuses an argument count out of bounds; too few comes before too many. -/
def checkCount (g : Grammar) (n : Nat) : Except Error Unit :=
  match g.least.filter (n < ·), g.most.filter (· < n) with
  | some least, _ => .error (.tooFewArguments least n)
  | none, some most => .error (.tooManyArguments most n)
  | none, none => .ok ()

def group (g : Grammar) (words : List String) : Except Error (List Argument) := do
  let args ← groupByShape words g.shape
  g.checkCount args.length
  return args

end Grammar

end TableShell
