import TableShell.Text.Terminal

/-!
# Command line options

The arguments of the program: options with a value, flags, and flags that are written together. The
first argument that does not fit decides; so does a wish for help before it.
-/

namespace TableShell

structure Options where
  config : Option String := none
  schema : Option String := none
  input : Option String := none
  debug : Bool := false
  deriving DecidableEq, Repr

namespace Options

inductive Stop where
  | help
  | misuse
  deriving DecidableEq, Repr

inductive Setting where
  | config
  | schema
  | input
  deriving DecidableEq, Repr

inductive Name where
  | setting (s : Setting)
  | debug
  | help
  deriving DecidableEq, Repr

def Name.ofLong? : String → Option Name
  | "config" => some (.setting .config)
  | "schema" => some (.setting .schema)
  | "input" => some (.setting .input)
  | "debug" => some .debug
  | "help" => some .help
  | _ => none

def Name.ofShort? : Char → Option Name
  | 'c' => some (.setting .config)
  | 's' => some (.setting .schema)
  | 'i' => some (.setting .input)
  | 'd' => some .debug
  | 'h' => some .help
  | _ => none

def give (o : Options) (s : Setting) (value : String) : Except Stop Options :=
  if value = "" then .error .misuse
  else match s with
    | .config => if o.config.isSome then .error .misuse else .ok { o with config := some value }
    | .schema => if o.schema.isSome then .error .misuse else .ok { o with schema := some value }
    | .input => if o.input.isSome then .error .misuse else .ok { o with input := some value }

def raiseDebug (o : Options) : Except Stop Options :=
  if o.debug then .error .misuse else .ok { o with debug := true }

/-- A row of short options; the first that takes a value takes the rest of the row, without an
equals sign in front. Gives the setting whose value is still to come, if there is one. -/
def cluster (o : Options) : List Char → Except Stop (Options × Option Setting)
  | [] => .ok (o, none)
  | c :: cs =>
    match Name.ofShort? c with
    | none => .error .misuse
    | some .help => .error .help
    | some .debug => do (← o.raiseDebug).cluster cs
    | some (.setting s) =>
      match cs with
      | [] => .ok (o, some s)
      | '=' :: value => return (← o.give s (String.ofList value), none)
      | value => return (← o.give s (String.ofList value), none)

def long (o : Options) (cs : List Char) : Except Stop (Options × Option Setting) :=
  let name := cs.takeWhile (· != '=')
  let value : Option String :=
    if name.length < cs.length then some (String.ofList (cs.drop (name.length + 1))) else none
  match Name.ofLong? (String.ofList name), value with
  | some (.setting s), some value => return (← o.give s value, none)
  | some (.setting s), none => .ok (o, some s)
  | some .debug, none => return (← o.raiseDebug, none)
  | some .help, none => .error .help
  | _, _ => .error .misuse

/-- Reads on; a value for `pending` comes next, if there is such a setting. Two hyphens end the
options, and nothing else may follow them. -/
def readFrom (o : Options) (pending : Option Setting) : List String → Except Stop Options
  | [] => if pending.isSome then .error .misuse else .ok o
  | arg :: args =>
    match arg.toList, pending with
    | ['-', '-'], _ => if args = [] ∧ pending = none then .ok o else .error .misuse
    | '-' :: _ :: _, some _ => .error .misuse
    | '-' :: '-' :: cs, none => do
      let (o, pending) ← o.long cs
      o.readFrom pending args
    | '-' :: c :: cs, none => do
      let (o, pending) ← o.cluster (c :: cs)
      o.readFrom pending args
    | _, some s => do (← o.give s arg).readFrom none args
    | _, none => .error .misuse

def read (args : List String) : Except Stop Options := readFrom {} none args

def configVariable : String := "MINTABLE_CONFIG"

def namesWidth : Nat := 21

def blanks (n : Nat) : List Char := List.replicate n ' '

/-- A row of the list of options; further lines of its text start below the first. -/
def helpRow (short long value text : String) : String :=
  let width := 6 + long.length + value.length
  let indented := text.toList.flatMap fun c => if c = '\n' then c :: blanks (namesWidth + 4) else [c]
  "  " ++ Text.bold ("-" ++ short) ++ ", " ++ Text.bold ("--" ++ long) ++ value ++
    String.ofList (blanks (namesWidth - width + 2) ++ indented)

def helpText (fromEnv : Option String) : String :=
  Text.visible <| "\n".intercalate [
    "Interactive interpreter over a schema-validated in-memory table",
    "",
    Text.heading "Usage:" ++ " " ++ Text.bold "mintable" ++ " [OPTIONS]",
    "",
    Text.heading "Options:",
    helpRow "c" "config" " <CONFIG>" ("Configuration file (TOML) [env: " ++ configVariable ++ "=" ++
      fromEnv.getD "" ++ "]"),
    helpRow "s" "schema" " <SCHEMA>" "Schema file (YAML), overrides `schema.path`",
    helpRow "i" "input" " <INPUT>" "Statement script to run instead of reading stdin",
    helpRow "d" "debug" "" "Enable debug logging",
    helpRow "h" "help" "" "Print help",
    ""]

end Options

end TableShell
