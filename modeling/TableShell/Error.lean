import TableShell.Argument

/-!
# Errors

Every cause for which a statement can fail, with its kind, its stable code and its message. A cause
that is `described` carries its own wording; the library itself raises the named ones.
-/

namespace TableShell

inductive ErrorKind where
  | internal
  | commandNotFound
  | keyValueUnmatched
  | invalidKeyArgument
  | invalidValueArgument
  | tooFewArguments
  | tooManyArguments
  | argumentConflict
  | schemaInvalid
  | entryInvalid
  | duplicateEntry
  | entryNotFound
  deriving DecidableEq, Repr

namespace ErrorKind

def name : ErrorKind → String
  | .internal => "InternalError"
  | .commandNotFound => "CommandNotFound"
  | .keyValueUnmatched => "CommandKeyValueUnmatched"
  | .invalidKeyArgument => "CommandInvalidKeyArgument"
  | .invalidValueArgument => "CommandInvalidValueArgument"
  | .tooFewArguments => "CommandTooFewArguments"
  | .tooManyArguments => "CommandTooManyArguments"
  | .argumentConflict => "CommandArgumentConflict"
  | .schemaInvalid => "SchemaInvalid"
  | .entryInvalid => "DataEntryInvalid"
  | .duplicateEntry => "DataDuplicateEntry"
  | .entryNotFound => "DataEntryNotFound"

def code : ErrorKind → String
  | .internal => "0x100000"
  | .commandNotFound => "0x101000"
  | .keyValueUnmatched => "0x101001"
  | .invalidKeyArgument => "0x101002"
  | .invalidValueArgument => "0x101003"
  | .tooFewArguments => "0x101004"
  | .tooManyArguments => "0x101005"
  | .argumentConflict => "0x101006"
  | .duplicateEntry => "0x102001"
  | .entryNotFound => "0x102002"
  | .entryInvalid => "0x102003"
  | .schemaInvalid => "0x103001"

end ErrorKind

/-- A fault of the caller of the library rather than of the user. -/
inductive InternalFault where
  | notAPair (arg : Argument)
  | notOneValue (args : List Argument)
  | noTarget
  | cursorExhausted
  | unknownDirective (key : String)
  | registeredTwice (word : String)
  | described (text : String)
  deriving DecidableEq, Repr

def InternalFault.message : InternalFault → String
  | .notAPair arg => "expected a key-value argument, got " ++ arg.diagnostic
  | .notOneValue args => "expected exactly one value argument, got " ++ Argument.diagnosticList args
  | .noTarget => "mod requires a target key"
  | .cursorExhausted => "cursor is exhausted"
  | .unknownDirective key => "unknown magic argument: " ++ key
  | .registeredTwice word => "command registered twice: " ++ word
  | .described text => text

inductive SchemaFault where
  | unreadable
  | unparsable
  | nameMissing
  | typeMissing
  | unknownType (name : String)
  | noColumns
  | duplicateColumn (name : String)
  | noPrimaryKey
  | severalPrimaryKeys
  | described (text : String)
  deriving DecidableEq, Repr

def SchemaFault.message : SchemaFault → String
  | .unreadable => "cannot read"
  | .unparsable => "cannot parse schema"
  | .nameMissing => "`name` required in schema definition"
  | .typeMissing => "`type` required in schema definition"
  | .unknownType name => "invalid value of `type` within schema definition: " ++ name
  | .noColumns => "`columns` is required to be a non-empty list"
  | .duplicateColumn name => "duplicate column name: " ++ name
  | .noPrimaryKey => "no primary_key found within schema definition"
  | .severalPrimaryKeys => "multiple primary key is not allowed"
  | .described text => text

inductive EntryFault where
  | notAnInteger (raw : String)
  | notADate (raw : String)
  | missingKeys (names : List String)
  | extraKeys (names : List String)
  | described (text : String)
  deriving DecidableEq, Repr

def EntryFault.message : EntryFault → String
  | .notAnInteger raw => "invalid integer: " ++ raw
  | .notADate raw => "incorrect date format, should be YYYY-MM-DD: " ++ raw
  | .missingKeys names => "missing keys: " ++ ", ".intercalate names
  | .extraKeys names => "unexpected extra keys: " ++ ", ".intercalate names
  | .described text => text

inductive Error where
  | internal (fault : InternalFault)
  | commandNotFound (word : String)
  | keyValueUnmatched (key : String)
  | invalidKeyArgument (key : String)
  | invalidValueArgument (value : String)
  | tooFewArguments (expected actual : Nat)
  | tooManyArguments (expected actual : Nat)
  | argumentConflict (key : String)
  | schemaInvalid (fault : SchemaFault)
  | entryInvalid (fault : EntryFault)
  | duplicateEntry (field value : String)
  | entryNotFound (field value : String)
  deriving DecidableEq, Repr

namespace Error

def kind : Error → ErrorKind
  | .internal _ => .internal
  | .commandNotFound _ => .commandNotFound
  | .keyValueUnmatched _ => .keyValueUnmatched
  | .invalidKeyArgument _ => .invalidKeyArgument
  | .invalidValueArgument _ => .invalidValueArgument
  | .tooFewArguments _ _ => .tooFewArguments
  | .tooManyArguments _ _ => .tooManyArguments
  | .argumentConflict _ => .argumentConflict
  | .schemaInvalid _ => .schemaInvalid
  | .entryInvalid _ => .entryInvalid
  | .duplicateEntry _ _ => .duplicateEntry
  | .entryNotFound _ _ => .entryNotFound

def message : Error → String
  | .internal fault => "internal error: " ++ fault.message
  | .commandNotFound word => "command not found: " ++ word
  | .keyValueUnmatched key => "you should provide a value for the key `" ++ key ++ "`"
  | .invalidKeyArgument key => "invalid key-argument: `" ++ key ++ "`"
  | .invalidValueArgument value => "invalid value-argument: `" ++ value ++ "`"
  | .tooFewArguments expected actual =>
    "too few arguments! expect " ++ toString expected ++ " argument(-groups) while only " ++
      toString actual ++ " supplied."
  | .tooManyArguments expected actual =>
    "too many arguments! expect " ++ toString expected ++ " argument(-groups) while " ++
      toString actual ++ " supplied."
  | .argumentConflict key => "conflict argument: " ++ key
  | .schemaInvalid fault => "invalid schema: " ++ fault.message
  | .entryInvalid fault => "invalid entry: " ++ fault.message
  | .duplicateEntry field value =>
    "duplicate entry: there is already an entry whose `" ++ field ++ "` equals to `" ++ value ++ "`"
  | .entryNotFound field value =>
    "no any entries matching " ++ field ++ "=" ++ value ++ " were found."

def report (e : Error) : String :=
  "[" ++ e.kind.code ++ "] " ++ e.kind.name ++ ": " ++ e.message

end Error

end TableShell
