import TableShell.Files
import TableShell.Text.Utf8
import TableShell.Toml.Document

/-!
# Settings

What can be set in a TOML file, section by section. Every key may lack; keys that are not known are
left alone.
-/

namespace TableShell

inductive Input where
  | stdin
  | file (path : String)
  deriving DecidableEq, Repr

namespace Input

/-- `stdin`, in letters of either case, and `-` name the standard input; all else is a path. -/
def ofText (text : String) : Input :=
  if text.toList.map Char.toLower = "stdin".toList ∨ text = "-" then .stdin else .file text

def text : Input → String
  | .stdin => "stdin"
  | .file path => path

end Input

inductive Storage where
  | memory
  deriving DecidableEq, Repr

namespace Storage

def name : Storage → String
  | .memory => "memory"

def ofName? (name : String) : Option Storage :=
  if name = "memory" ∨ name = "memory_dict" then some .memory else none

end Storage

structure Settings where
  debug : Bool := false
  prompt : String := ">>> "
  banner : Option String := none
  input : Input := .stdin
  historyFile : Option String := none
  schemaPath : String := "etc/schema.yaml"
  storage : Storage := .memory
  deriving DecidableEq, Repr

namespace Toml.Value

def bool? : Value → Option Bool
  | .boolean b => some b
  | _ => none

def text? : Value → Option String
  | .string text => some text
  | _ => none

/-- A storage is given by its name, or by a table with nothing but an empty entry of that name. -/
def storage? : Value → Option Storage
  | .string name => Storage.ofName? name
  | .table _ [(name, .table _ [])] | .table _ [(name, .array [])] => Storage.ofName? name
  | _ => none

end Toml.Value

namespace Settings

open Toml

/-- The values of a section under the given keys. In an array they are found by their place. A date
is a section without any of them. -/
def fields? (keys : List String) : Option Value → Option Entries
  | none | some (.moment _) => some []
  | some (.table _ entries) => some entries
  | some (.array items) => some (keys.zip items)
  | some (.tables rows) => some (keys.zip (rows.map (.table .header)))
  | some _ => none

def optional? {α : Type} (read : Value → Option α) (key : String) (es : Entries) :
    Option (Option α) :=
  (es.lookup key).elim (some none) fun v => some <$> read v

def ofEntries? (es : Entries) : Option Settings := do
  let general ← fields? ["debug"] (es.lookup "general")
  let shell ← fields? ["prompt", "banner", "infile", "history_file"] (es.lookup "repl")
  let schema ← fields? ["path"] (es.lookup "schema")
  let data ← fields? ["driver"] (es.lookup "data")
  let defaults : Settings := {}
  some {
    debug := (← optional? Value.bool? "debug" general).getD defaults.debug
    prompt := (← optional? Value.text? "prompt" shell).getD defaults.prompt
    banner := ← optional? Value.text? "banner" shell
    input := ((← optional? Value.text? "infile" shell).map Input.ofText).getD defaults.input
    historyFile := ← optional? Value.text? "history_file" shell
    schemaPath := (← optional? Value.text? "path" schema).getD defaults.schemaPath
    storage := (← optional? Value.storage? "driver" data).getD defaults.storage }

def ofToml? (text : String) : Option Settings := Entries.ofText? text >>= ofEntries?

inductive Fault where
  | unreadable (fault : FileFault)
  | malformed
  deriving DecidableEq, Repr

/-- The settings in a file. A file that is not required may be missing. -/
def load (required : Bool) : Except FileFault (List UInt8) → Except Fault Settings
  | .ok content =>
    match Text.decode? content with
    | none => .error (.unreadable .notUtf8)
    | some text =>
      match ofToml? (String.ofList text) with
      | some settings => .ok settings
      | none => .error .malformed
  | .error .missing => if required then .error (.unreadable .missing) else .ok {}
  | .error fault => .error (.unreadable fault)

end Settings

end TableShell
