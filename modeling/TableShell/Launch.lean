import TableShell.Options
import TableShell.SchemaSource
import TableShell.Settings
import TableShell.Shell

/-!
# Launch

From the arguments of the program to its output: the settings are loaded, then the schema, and then
the statements of the input are run as a script. The effects that this takes are parameters.
-/

namespace TableShell

structure Reading (m : Type → Type) where
  file : String → m (Except FileFault (List UInt8))
  stdin : m (List UInt8)

structure Ending where
  code : Nat
  output : String := ""
  fault : Option String := none
  deriving DecidableEq, Repr

namespace Launch

def defaultConfig : String := "etc/config.toml"

def failed (fault : String) (output : String := "") : Ending := ⟨1, output, some fault⟩

/-- The path of the settings, and whether there must be a file. The option goes before the variable
of the environment, which must not be empty where it counts. -/
def config (o : Options) (fromEnv : Option String) : Except Options.Stop (String × Bool) :=
  match o.config, fromEnv with
  | some path, _ => .ok (path, true)
  | none, some "" => .error .misuse
  | none, some path => .ok (path, true)
  | none, none => .ok (defaultConfig, false)

def settingsFault (path : String) : Settings.Fault → String
  | .unreadable fault => "cannot read config file " ++ path ++ ": " ++ fault.message
  | .malformed => "invalid config"

/-- Options go before settings. An input that is given as an option is always a file. -/
def override (o : Options) (s : Settings) : Settings :=
  { s with
    debug := s.debug || o.debug
    schemaPath := o.schema.getD s.schemaPath
    input := (o.input.map Input.file).getD s.input }

def runScript (schema : Schema) (banner : Option String) (script : List UInt8) : Ending :=
  { code := 0, output := ((Session.start schema .builtin).runScript banner script).1 }

variable {m : Type → Type} [Monad m] (r : Reading m)

/-- A directory can be opened but not read, so the banner comes before its fault. -/
def runInput (schema : Schema) (s : Settings) : m Ending := do
  match s.input with
  | .stdin => return runScript schema s.banner (← r.stdin)
  | .file path =>
    match ← r.file path with
    | .ok script => return runScript schema s.banner script
    | .error .isDirectory =>
      return failed "failed to read statement" (Script.output s.banner.toList)
    | .error _ => return failed ("cannot open input file " ++ path)

def runSettings (s : Settings) : m Ending := do
  match Schema.load (← r.file s.schemaPath).toOption with
  | .ok schema => runInput r schema s
  | .error _ => return failed ("failed to load schema from " ++ s.schemaPath)

def stopped (fromEnv : Option String) : Options.Stop → Ending
  | .help => { code := 0, output := Options.helpText fromEnv }
  | .misuse => { code := 2 }

def run (args : List String) (fromEnv : Option String) : m Ending := do
  match Options.read args with
  | .error stop => return stopped fromEnv stop
  | .ok o =>
    match config o fromEnv with
    | .error stop => return stopped fromEnv stop
    | .ok (path, required) =>
      match Settings.load required (← r.file path) with
      | .ok s => runSettings r (override o s)
      | .error fault => return failed (settingsFault path fault)

end Launch

end TableShell
