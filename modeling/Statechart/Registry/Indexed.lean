import Mathlib.Init
import Statechart.Registry

/-! A registry that finds its entries by an index: the entries stand in a row, and a hash map tells
the position of each key. The two are written one after the other and no type keeps them together, so
that reading a position may fail. -/
namespace Statechart

structure Indexed (α : Type) where
  entries : Array α := #[]
  index : Std.HashMap String Nat := ∅

/-- A position was read where there is no entry. -/
structure OutOfRange where
  position : Nat
  size : Nat

namespace Indexed
variable {α : Type} [Keyed α]

def keys (t : Indexed α) : List String := t.entries.toList.map key

def contains (t : Indexed α) (k : String) : Bool := t.index.contains k

def entryAt (t : Indexed α) (i : Nat) : Except OutOfRange α :=
  match t.entries[i]? with
  | some a => .ok a
  | none => .error { position := i, size := t.entries.size }

def get? (t : Indexed α) (k : String) : Except OutOfRange (Option α) :=
  match t.index[k]? with
  | some i => some <$> t.entryAt i
  | none => .ok none

def put (t : Indexed α) (i : Nat) (a : α) : Indexed α :=
  { t with entries := t.entries.setIfInBounds i a }

def push (t : Indexed α) (a : α) : Indexed α where
  entries := t.entries.push a
  index := t.index.insert (key a) t.entries.size

def insert (t : Indexed α) (a : α) : Except OutOfRange (Option α × Indexed α) :=
  match t.index[key a]? with
  | some i => do
    let old ← t.entryAt i
    return (some old, t.put i a)
  | none => .ok (none, t.push a)

def update (t : Indexed α) (k : String) (f : α → α) : Except OutOfRange (Indexed α) :=
  match t.index[k]? with
  | some i => do
    let old ← t.entryAt i
    return t.put i (f old)
  | none => .ok t

end Indexed
end Statechart
