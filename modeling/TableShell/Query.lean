import TableShell.Schema
import TableShell.Store

/-!
# Queries

A query keeps the rows that carry every filter value and orders them by its sort keys, of which the
first is the primary order. Pairs whose key starts with `$` are directives, all others are filters.
-/

namespace TableShell

inductive Direction where
  | ascending
  | descending
  deriving DecidableEq, Repr

def Direction.ofDirective (key : String) : Except Error Direction :=
  if key = "$sort_asc" then .ok .ascending
  else if key = "$sort_desc" then .ok .descending
  else .error (.internal (.unknownDirective key))

def Direction.apply : Direction → Ordering → Ordering
  | .ascending, o => o
  | .descending, o => o.swap

structure SortKey where
  field : String
  direction : Direction
  deriving DecidableEq, Repr

/-- An absent field comes before any value. -/
def compareField : Option Value → Option Value → Ordering
  | none, none => .eq
  | none, some _ => .lt
  | some _, none => .gt
  | some a, some b => compare a b

def SortKey.compareRows (k : SortKey) (a b : Row) : Ordering :=
  k.direction.apply (compareField a[k.field]? b[k.field]?)

/-- The first key on which two rows differ decides. -/
def compareRows : List SortKey → Row → Row → Ordering
  | [], _, _ => .eq
  | k :: ks, a, b => (k.compareRows a b).then (compareRows ks a b)

/-- Rows that compare equal keep their order. -/
def sortRows (keys : List SortKey) (rows : List Row) : List Row :=
  rows.mergeSort fun a b => (compareRows keys a b).isLE

structure Query where
  filters : Row
  sort : List SortKey
  deriving DecidableEq

namespace Query

def isDirective (key : String) : Bool := key.toList.head? == some '$'

def sortKey (S : Schema) (pair : String × String) : Except Error SortKey := do
  let direction ← Direction.ofDirective pair.1
  if S.hasColumn pair.2 then return ⟨pair.2, direction⟩
  else throw (.invalidValueArgument pair.2)

/-- Directives are checked before filters. -/
def ofPairs (S : Schema) (pairs : List (String × String)) : Except Error Query := do
  let sort ← (pairs.filter (isDirective ·.1)).mapM (sortKey S)
  let entry ← Entry.ofPairs (pairs.filter (!isDirective ·.1))
  S.validateKeys entry false true
  let filters ← S.convertEntry entry
  return ⟨filters, sort⟩

def accepts (q : Query) (row : Row) : Bool :=
  q.filters.all fun field wanted => row[field]? == some wanted

def run (q : Query) (s : Store) : Except Error (List Row) :=
  (s.scan s.cursor).map fun rows => sortRows q.sort (rows.filter q.accepts)

end Query

end TableShell
