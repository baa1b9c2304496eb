import TableShell.Request
import TableShell.Words

/-!
# Sessions

A session is a schema, the commands that it knows, and the rows that it has stored. A statement line
is split into words, the first word is looked up, the others are grouped by the command's grammar
and checked, and the resulting request is performed. A line without words does nothing.
-/

namespace TableShell

structure Session where
  schema : Schema
  registry : Registry
  store : Store

namespace Session

def start (schema : Schema) (registry : Registry) : Session :=
  ⟨schema, registry, .empty schema.key.name⟩

/-- The request of a statement with the given words. -/
def request (db : Session) (word : String) (rest : List String) : Except Error Request := do
  let command ← db.registry.find word
  let args ← command.grammar.group rest
  Request.ofAction db.schema db.registry args command.action

def execute (db : Session) (line : String) : Except Error Outcome × Session :=
  match Words.split line with
  | [] => (.ok {}, db)
  | word :: rest =>
    match db.request word rest with
    | .error e => (.error e, db)
    | .ok request =>
      let (outcome, store) := request.perform db.store
      (outcome, { db with store })

end Session

end TableShell
