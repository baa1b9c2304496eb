import TableShell.Schema
import TableShell.Text.Utf8
import TableShell.Yaml.Document

/-!
# Sources of schemas

A schema is written as a YAML mapping: `columns` holds the list of the columns, each a mapping with
`name`, `type` and `attribute`, which are texts. Keys that are not known are left alone; an absent
value counts like an absent key.
-/

namespace TableShell

namespace Yaml.Document

variable (d : Document)

def text? (n : Node) : Option String :=
  match d.resolve? n with
  | some (.scalar _ _ s) => some (String.ofList s.text)
  | _ => none

def isNull (text : List Char) : Bool :=
  ["~", "null", "Null", "NULL"].any (·.toList == text)

def nullTag : List Char := "tag:yaml.org,2002:null".toList

/-- Whether a value is absent; a plain scalar with the tag of absent values must be one. -/
def isAbsent? (n : Node) : Option Bool := do
  match ← d.resolve? n with
  | .scalar _ none ⟨true, text⟩ => some (text.isEmpty || isNull text)
  | .scalar _ (some tag) ⟨true, text⟩ =>
    if tag = nullTag then if isNull text then some true else none
    else some false
  | _ => some false

def optional? {α : Type} (read : Node → Option α) (n : Option Node) : Option (Option α) :=
  match n with
  | none => some none
  | some n => do if ← d.isAbsent? n then some none else some <$> read n

/-- The items of a sequence; an empty plain scalar has none. -/
def items? (n : Node) : Option (List Node) :=
  match d.resolve? n with
  | some (.sequence _ items) => some items
  | some (.scalar _ _ ⟨true, []⟩) => some []
  | _ => none

/-- The values under the `known` keys of a mapping, none of which may come twice; all keys must be
scalars. An empty plain scalar has no keys. -/
def fields? (known : List String) (n : Node) : Option (List (String × Node)) :=
  match d.resolve? n with
  | some (.mapping _ pairs) => do
    let fields ← pairs.mapM fun (key, value) => (d.text? key).map (·, value)
    let fields := fields.filter fun field => known.contains field.1
    if (fields.map Prod.fst).Nodup then some fields else none
  | some (.scalar _ _ ⟨true, []⟩) => some []
  | _ => none

end Yaml.Document

namespace Schema

open Yaml

def declaration? (d : Document) (n : Node) : Option Declaration := do
  let fields ← d.fields? ["name", "type", "attribute"] n
  let text? (key : String) := d.optional? d.text? (fields.lookup key)
  some ⟨← text? "name", ← text? "type", ← text? "attribute"⟩

def declarations? (d : Document) : Option (List Declaration) := do
  match d.root with
  | none => some []
  | some root => do
    let fields ← d.fields? ["columns"] root
    let items ← d.optional? d.items? (fields.lookup "columns")
    (items.getD []).mapM (declaration? d)

def ofYaml (text : String) : Except Error Schema :=
  match Document.ofText? text >>= declarations? with
  | some ds => ofDeclarations ds
  | none => .error (.schemaInvalid .unparsable)

def load (content : Option (List UInt8)) : Except Error Schema :=
  match content >>= Text.decode? with
  | some text => ofYaml (String.ofList text)
  | none => .error (.schemaInvalid .unreadable)

end Schema

end TableShell
