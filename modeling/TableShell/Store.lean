import TableShell.Cursor
import TableShell.Entry

/-!
# The store

Rows are kept in slots, in the order in which they were created. A bitmap tells the live slots from
the dead ones, so that deleting a row moves no other, and an index finds the slot of a key. Slots of
deleted rows are reclaimed when there are many of them.

The key is kept beside the other fields of a row. Every row that the store hands out has its key put
back under the name of the primary key. An operation that fails hands back the store as it was.
-/

namespace TableShell

structure Slot where
  key : Value
  fields : Row
  deriving DecidableEq

structure Store where
  keyName : String
  slots : Array Slot := #[]
  live : Array Bool := #[]
  index : Std.ExtTreeMap Value Nat := ∅
  deriving DecidableEq

namespace Store

/-- Dead slots are reclaimed only from this number on. -/
def reclaimLeast : Nat := 32

def empty (keyName : String) : Store := ⟨keyName, #[], #[], ∅⟩

def size (s : Store) : Nat := s.index.size

def isEmpty (s : Store) : Bool := s.size == 0

def attach (s : Store) (key : Value) (fields : Row) : Row := fields.insert s.keyName key

def notFound (s : Store) (key : Value) : Error := .entryNotFound s.keyName key.display

def duplicate (s : Store) (key : Value) : Error := .duplicateEntry s.keyName key.display

def find? (s : Store) (key : Value) : Option (Nat × Slot) := do
  let i ← s.index[key]?
  let slot ← s.slots[i]?
  return (i, slot)

def read (s : Store) (key : Value) : Except Error Row :=
  match s.find? key with
  | none => .error (s.notFound key)
  | some (_, slot) => .ok (s.attach slot.key slot.fields)

def create (s : Store) (key : Value) (fields : Row) : Except Error Row × Store :=
  if s.index.contains key then (.error (s.duplicate key), s)
  else
    let fields := fields.erase s.keyName
    (.ok (s.attach key fields),
      { s with
        slots := s.slots.push ⟨key, fields⟩
        live := s.live.push true
        index := s.index.insert key s.slots.size })

/-- Overrides the given fields of a row; its other fields and its place stay as they are. -/
def update (s : Store) (key : Value) (fields : Row) : Except Error Row × Store :=
  match s.find? key with
  | none => (.error (s.notFound key), s)
  | some (i, slot) =>
    let slot := { slot with fields := slot.fields ∪ fields.erase s.keyName }
    (.ok (s.attach slot.key slot.fields), { s with slots := s.slots.setIfInBounds i slot })

def liveSlots (s : Store) : List Slot :=
  (s.slots.toList.zip s.live.toList).filterMap fun (slot, alive) =>
    if alive then some slot else none

def indexOf (slots : List Slot) : Std.ExtTreeMap Value Nat :=
  Std.ExtTreeMap.ofList ((slots.map Slot.key).zipIdx)

def reclaim (s : Store) : Store :=
  { s with
    slots := s.liveSlots.toArray
    live := Array.replicate s.liveSlots.length true
    index := indexOf s.liveSlots }

/-- Reclaims when the dead slots are many and outnumber the live ones. -/
def reclaimIfWorthwhile (s : Store) : Store :=
  let dead := s.slots.size - s.size
  if dead < reclaimLeast ∨ dead ≤ s.size then s else s.reclaim

def delete (s : Store) (key : Value) : Except Error Row × Store :=
  match s.find? key with
  | none => (.error (s.notFound key), s)
  | some (i, slot) =>
    let s' : Store :=
      { s with
        slots := s.slots.setIfInBounds i { slot with fields := ∅ }
        live := s.live.setIfInBounds i false
        index := s.index.erase key }
    (.ok (s.attach key slot.fields), s'.reclaimIfWorthwhile)

/-- A snapshot of the keys in the order in which their rows were created. -/
def cursor (s : Store) : Cursor := ⟨(s.liveSlots.map Slot.key).toArray, 0⟩

def next (s : Store) (c : Cursor) : Except Error (Cursor × Row) :=
  match c.current? with
  | none => .error (.internal .cursorExhausted)
  | some key => (s.read key).map (c.advance, ·)

def scan (s : Store) (c : Cursor) : Except Error (List Row) :=
  if _h : c.position < c.keys.size then
    match s.read c.keys[c.position] with
    | .error e => .error e
    | .ok row => (s.scan c.advance).map (row :: ·)
  else .ok []
termination_by c.keys.size - c.position
decreasing_by simp only [Cursor.advance]; omega

end Store

end TableShell
