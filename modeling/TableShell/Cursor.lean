import TableShell.Value

/-!
# Cursors

A cursor is a position in a snapshot of keys. Later writes to the table do not change the snapshot.
-/

namespace TableShell

structure Cursor where
  keys : Array Value
  position : Nat := 0
  deriving DecidableEq

namespace Cursor

def hasMore (c : Cursor) : Bool := c.position < c.keys.size

def current? (c : Cursor) : Option Value := c.keys[c.position]?

/-- One step further over the same snapshot. -/
def advance (c : Cursor) : Cursor := { c with position := c.position + 1 }

def remaining (c : Cursor) : List Value := c.keys.toList.drop c.position

end Cursor

end TableShell
