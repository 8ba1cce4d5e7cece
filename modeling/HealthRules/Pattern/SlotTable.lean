import Std.Data.HashMap

/-!
# SlotTable — a bounded memory with one slot for each key

A slot table remembers numbers by keys, which are lists of numbers. It has a fixed count of slots; a key's
slot follows from the key alone, and a key that comes later takes the slot from one that came before. What
is found is therefore right, but not all that was put in is found.

* `SlotTable.slot`, the slot of a key;
* `SlotTable.find?` and `SlotTable.insert`.
-/

namespace HealthRules.Pattern

/-- What is remembered, by slots. -/
structure SlotTable where
  /-- How many slots there are. -/
  size : Nat
  entries : Std.HashMap Nat (List Nat × Nat) := {}

namespace SlotTable

/-- Mix a number into a hash. -/
def mix (h : UInt64) (n : Nat) : UInt64 := (h ^^^ n.toUInt64) * 1099511628211

def hashOf (key : List Nat) : UInt64 := key.foldl mix 14695981039346656037

def slot (t : SlotTable) (key : List Nat) : Nat := (hashOf key).toNat % t.size

/-- The number remembered for a key, unless its slot is empty or belongs to another key. -/
def find? (t : SlotTable) (key : List Nat) : Option Nat :=
  match t.entries[t.slot key]? with
  | some (k, n) => if k = key then some n else none
  | none => none

/-- Remember a number for a key, in place of what its slot held. -/
def insert (t : SlotTable) (key : List Nat) (n : Nat) : SlotTable :=
  { t with entries := t.entries.insert (t.slot key) (key, n) }

end SlotTable

end HealthRules.Pattern
