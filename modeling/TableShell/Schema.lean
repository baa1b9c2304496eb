import TableShell.Entry
import TableShell.FieldType
import TableShell.Text.CharClass

/-!
# Schemas

A schema is the ordered list of the columns of the table. Their names are pairwise distinct and
exactly one of them is the primary key.
-/

namespace TableShell

structure Column where
  name : String
  type : FieldType
  isKey : Bool
  deriving DecidableEq, Repr

structure Schema where
  columns : List Column
  key : Column
  names_nodup : (columns.map Column.name).Nodup
  filter_isKey : columns.filter Column.isKey = [key]

namespace Schema

/-- The first fault in this order decides: no column at all, a name that comes twice, no primary
key, more than one. -/
def ofColumns (columns : List Column) : Except Error Schema :=
  if columns = [] then .error (.schemaInvalid .noColumns)
  else match hn : firstRepeated? [] (columns.map Column.name) with
    | some name => .error (.schemaInvalid (.duplicateColumn name))
    | none =>
      match hk : columns.filter Column.isKey with
      | [] => .error (.schemaInvalid .noPrimaryKey)
      | [key] => .ok ⟨columns, key, (firstRepeated?_nil_eq_none_iff _).1 hn, hk⟩
      | _ :: _ :: _ => .error (.schemaInvalid .severalPrimaryKeys)

structure Declaration where
  name : Option String
  type : Option String
  attributes : Option String
  deriving DecidableEq, Repr

namespace Declaration

/-- Whether `wanted` is one of the comma-separated attributes; blanks around them do not count. -/
def hasAttribute (d : Declaration) (wanted : String) : Bool :=
  match d.attributes with
  | none => false
  | some attributes =>
    (attributes.toList.splitOn ',').any fun a => Text.trim a == wanted.toList

def column (d : Declaration) : Except Error Column :=
  match d.name, d.type with
  | none, _ => .error (.schemaInvalid .nameMissing)
  | some _, none => .error (.schemaInvalid .typeMissing)
  | some name, some typeName =>
    match FieldType.ofName? typeName with
    | none => .error (.schemaInvalid (.unknownType typeName))
    | some type => .ok ⟨name, type, d.hasAttribute "primary_key"⟩

end Declaration

def ofDeclarations (ds : List Declaration) : Except Error Schema :=
  ds.mapM Declaration.column >>= ofColumns

variable (S : Schema)

def names : List String := S.columns.map Column.name

def column? (name : String) : Option Column := S.columns.find? (·.name == name)

def hasColumn (name : String) : Bool := (S.column? name).isSome

/-- The declared names that the entry lacks, in schema order. -/
def missingKeys (entry : Entry) : List String := S.names.filter (!entry.contains ·)

/-- The names of the entry that are not declared, in code-point order. -/
def extraKeys (entry : Entry) : List String := entry.keys.filter (!S.hasColumn ·)

/-- Missing names are reported before extra ones. -/
def validateKeys (entry : Entry) (noMissing noExtra : Bool) : Except Error Unit :=
  if noMissing && !(S.missingKeys entry).isEmpty then
    .error (.entryInvalid (.missingKeys (S.missingKeys entry)))
  else if noExtra && !(S.extraKeys entry).isEmpty then
    .error (.entryInvalid (.extraKeys (S.extraKeys entry)))
  else .ok ()

def convertField (field : String × String) : Except Error (String × Value) :=
  match S.column? field.1 with
  | none => .error (.entryInvalid (.extraKeys [field.1]))
  | some c => (c.type.convert field.2).map (field.1, ·)

/-- Converts every field of the entry; fields that the entry lacks are absent from the row. An entry
has no order of its own. It is gone through by name here, which decides only which value is reported
where several do not convert. -/
def convertEntry (entry : Entry) : Except Error Row :=
  (entry.toList.mapM S.convertField).map (Std.ExtTreeMap.ofList ·)

def convertKey (raw : String) : Except Error Value := S.key.type.convert raw

end Schema

end TableShell
