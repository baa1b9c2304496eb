import TableShell.Command
import TableShell.Text.CharClass

/-!
# Help texts
-/

namespace TableShell.Help

/-- One line per command. The words are filled up with spaces to the byte length of the longest. -/
def overviewLines (r : Registry) : String :=
  let width := (r.commands.map (·.word.utf8ByteSize)).foldl max 0
  String.join (r.commands.map fun c =>
    "    " ++ c.word ++ String.ofList (List.replicate (width - c.word.length) ' ') ++ "    " ++
      c.description ++ "\n")

def commandLines (c : Command) : String :=
  "    " ++ c.word ++ ": " ++ c.name ++ "\n" ++
  "    " ++ c.description ++ "\n" ++
  "    usage: " ++ c.usage

def page (body : String) : String :=
  String.ofList (Text.trimEnd ("Help:\n\n" ++ body).toList)

def text (r : Registry) (word : Option String) : Except Error String :=
  match word with
  | none => .ok (page (overviewLines r))
  | some word => (r.find word).map fun c => page (commandLines c)

end TableShell.Help
