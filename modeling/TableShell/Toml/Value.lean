/-!
# TOML values

Values, and the rules by which the tables of a document grow: a table can be extended only in the
way that it was made.
-/

namespace TableShell.Toml

/-- How a table was made: between braces, so that nothing can be added, by a header of its own, on the
path of another table's header, or on the path of a dotted key. -/
inductive Form where
  | inline
  | header
  | implicit
  | dotted
  deriving DecidableEq, Repr

inductive Value where
  | string (text : String)
  | integer (value : Int64)
  | float (literal : String)
  | boolean (value : Bool)
  | moment (literal : String)
  | array (items : List Value)
  | table (form : Form) (entries : List (String × Value))
  | tables (rows : List (List (String × Value)))

abbrev Entries := List (String × Value)

namespace Entries

def set (key : String) (v : Value) : Entries → Entries
  | [] => [(key, v)]
  | (k, w) :: es => if k = key then (k, v) :: es else (k, w) :: set key v es

/-- The table under a key, the way in which it was made, and what it becomes with other entries. A
lacking table is made in the form `fresh`. Of tables under one header the last counts; one can pass
through it as through an implicit table. -/
def child? (fresh : Form) : Option Value → Option (Form × Entries × (Entries → Value))
  | none => some (fresh, [], .table fresh)
  | some (.table .inline _) => none
  | some (.table form sub) => some (form, sub, .table form)
  | some (.tables rows) =>
    rows.getLast?.map fun row => (.implicit, row, fun row => .tables (rows.dropLast ++ [row]))
  | some _ => none

/-- Puts a value under a dotted key. The path may lead through tables without a header, and must end
in one that dotted keys made; `direct` tells whether it may end here. -/
def put (direct : Bool) : List String → Value → Entries → Option Entries
  | [], _, _ => none
  | [key], v, es => if direct && (es.lookup key).isNone then some (es ++ [(key, v)]) else none
  | key :: next :: path, v, es => do
    let (form, sub, rebuild) ← child? .dotted (es.lookup key)
    if form = .header then none
    else some (es.set key (rebuild (← put (form == .dotted) (next :: path) v sub)))

def changeAt (change : Option Value → Option Value) : List String → Entries → Option Entries
  | [], _ => none
  | [key], es => do some (es.set key (← change (es.lookup key)))
  | key :: next :: path, es => do
    let (_, sub, rebuild) ← child? .implicit (es.lookup key)
    some (es.set key (rebuild (← changeAt change (next :: path) sub)))

def putAll (pairs : List (List String × Value)) (es : Entries) : Option Entries :=
  pairs.foldlM (fun es (path, v) => put true path v es) es

end Entries

end TableShell.Toml
