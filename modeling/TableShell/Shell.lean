import TableShell.Layout
import TableShell.Session
import TableShell.Text.Utf8

/-!
# The shell

Statements are evaluated line by line and what they answer is written out. A statement that fails
is reported and the session goes on.
-/

namespace TableShell.Session

def answer (db : Session) : Except Error Outcome → String
  | .error e => e.report
  | .ok { notice := some text, .. } => text
  | .ok { rows, notice := none } => Layout.rowSet db.schema.names rows

/-- Evaluates one statement line. A blank line shows nothing. -/
def eval (db : Session) (line : String) : Option String × Session :=
  if line.toList.all Text.isBlank then (none, db)
  else
    let (result, db') := db.execute line
    (some (db.answer result), db')

def evalLines (db : Session) : List String → List String × Session
  | [] => ([], db)
  | line :: rest =>
    let (text, db₁) := db.eval line
    let (texts, db₂) := db₁.evalLines rest
    (text.toList ++ texts, db₂)

end TableShell.Session

namespace TableShell.Script

def newline : UInt8 := 10

/-- The pieces of a script, each up to and with its newline; the last may lack one. -/
def pieces (bs : List UInt8) : List (List UInt8) :=
  match _h : bs with
  | [] => []
  | _ :: _ =>
    let head := bs.takeWhile (· != newline)
    match _hd : bs.dropWhile (· != newline) with
    | [] => [head]
    | b :: rest => (head ++ [b]) :: pieces rest
termination_by bs.length
decreasing_by
  have := (List.dropWhile_sublist (· != newline) (l := bs)).length_le
  rw [_hd, _h] at this
  simp only [List.length_cons] at this ⊢
  omega

/-- The statement line in a piece: bytes that are not UTF-8 are replaced, and the line breaks at the
end are dropped. -/
def lineOf (piece : List UInt8) : String :=
  let text := Text.decodeLossy piece
  String.ofList (text.reverse.dropWhile fun c => c == '\n' || c == '\r').reverse

def lines (bs : List UInt8) : List String := (pieces bs).map lineOf

def farewell : String := "Goodbye!"

def output (texts : List String) : String := String.join (texts.map (· ++ "\n"))

end TableShell.Script

namespace TableShell.Session

/-- Runs a script: the banner, if there is one, what the lines show, and the farewell. -/
def runScript (db : Session) (banner : Option String) (script : List UInt8) : String × Session :=
  let (texts, db') := db.evalLines (Script.lines script)
  (Script.output (banner.toList ++ texts ++ [Script.farewell]), db')

end TableShell.Session
