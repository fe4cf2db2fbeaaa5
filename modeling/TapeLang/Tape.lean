import TapeLang.Fault

/-!
The byte tape. Its cells are the first `size` bytes of a store that may hold spare room; the store at
least doubles when it is outgrown, and then only the cells are kept. Indexes may be any integer: a
negative one counts from the end of the store.
-/

namespace TapeLang

structure Tape where
  store : Array UInt8
  size : Nat
  size_le : size ≤ store.size

namespace Tape

def blank (size : Nat) : Tape where
  store := Array.replicate size 0
  size := size
  size_le := by simp

def cells (tape : Tape) : List UInt8 :=
  (tape.store.extract 0 tape.size).toList

def position (tape : Tape) (index : Int) : Except IndexFault (Fin tape.store.size) :=
  let counted := if index < 0 then index + tape.store.size else index
  if inStore : 0 ≤ counted ∧ counted < tape.store.size then
    .ok ⟨counted.toNat, by omega⟩
  else if -IndexFault.wordBound ≤ index ∧ index < IndexFault.wordBound then
    .error (.outsideTape index tape.store.size)
  else if 0 ≤ index ∧ index < 2 * IndexFault.wordBound then .error .wordTooLarge
  else .error .notATapeIndex

def read (tape : Tape) (index : Int) : Except IndexFault UInt8 := do
  let position ← tape.position index
  return tape.store[position]

def write (tape : Tape) (index : Int) (value : UInt8) : Except IndexFault Tape := do
  let position ← tape.position index
  return {
    store := tape.store.set position value
    size := tape.size
    size_le := by simpa using tape.size_le
  }

def clear (tape : Tape) : Tape where
  store := Array.replicate tape.store.size 0
  size := tape.size
  size_le := by simpa using tape.size_le

/-- Extends the cells to at least the given number. -/
def grow (tape : Tape) (size : Nat) : Tape :=
  if size ≤ tape.size then tape
  else if fits : size ≤ tape.store.size then { store := tape.store, size, size_le := fits }
  else
    let capacity := max size (2 * tape.store.size)
    { store := tape.store.extract 0 tape.size ++ Array.replicate (capacity - tape.size) 0
      size
      size_le := by
        have := tape.size_le
        simp only [Array.size_append, Array.size_extract, Array.size_replicate]
        omega }

@[simp] theorem length_cells (tape : Tape) : tape.cells.length = tape.size := by
  have := tape.size_le
  simp only [cells, Array.length_toList, Array.size_extract]
  omega

@[simp] theorem cells_blank (size : Nat) : (blank size).cells = List.replicate size 0 := by
  simp [cells, blank]

@[simp] theorem cells_clear (tape : Tape) : tape.clear.cells = List.replicate tape.size 0 := by
  simp [cells, clear, Nat.min_eq_left tape.size_le]

@[simp] theorem size_grow (tape : Tape) (size : Nat) :
    (tape.grow size).size = max tape.size size := by
  unfold grow
  split
  · omega
  · split <;> simp <;> omega

end Tape

end TapeLang
