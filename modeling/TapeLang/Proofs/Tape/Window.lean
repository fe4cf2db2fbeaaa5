import TapeLang.Tape

/-!
The tape as a list of cells. At an index inside the cells, reading and writing are those of the list;
growing adds zeros behind the cells as long as the spare room of the store holds nothing but zeros,
which every operation inside the cells keeps.
-/

namespace TapeLang.Tape

def Clean (tape : Tape) : Prop :=
  ∃ spare, tape.store.toList = tape.cells ++ List.replicate spare 0

theorem cells_eq_take (tape : Tape) : tape.cells = tape.store.toList.take tape.size := by
  simp [cells]

theorem position_inside (tape : Tape) {place : Nat} (inside : place < tape.size) :
    tape.position place = .ok ⟨place, Nat.lt_of_lt_of_le inside tape.size_le⟩ := by
  have bound := tape.size_le
  have counted : ¬(place : Int) < 0 := by omega
  have inStore : (0 : Int) ≤ place ∧ (place : Int) < tape.store.size := by omega
  simp only [position, if_neg counted, dif_pos inStore, Int.toNat_natCast]

theorem read_inside (tape : Tape) {place : Nat} (inside : place < tape.size) :
    tape.read place = .ok (tape.cells.getD place 0) := by
  have bound := tape.size_le
  have inStore : place < tape.store.toList.length := by
    rw [Array.length_toList]
    omega
  have cell : tape.cells.getD place 0 = tape.store[place] := by
    rw [cells_eq_take, List.getD_eq_getElem?_getD, List.getElem?_take_of_lt inside,
      List.getElem?_eq_getElem inStore]
    rfl
  unfold read
  rw [position_inside tape inside, cell]
  rfl

def put (tape : Tape) (place : Nat) (value : UInt8) : Tape where
  store := tape.store.setIfInBounds place value
  size := tape.size
  size_le := by simpa using tape.size_le

@[simp] theorem size_put (tape : Tape) (place : Nat) (value : UInt8) :
    (tape.put place value).size = tape.size := rfl

theorem write_inside (tape : Tape) {place : Nat} (inside : place < tape.size) (value : UInt8) :
    tape.write place value = .ok (tape.put place value) := by
  have bound := tape.size_le
  have inStore : place < tape.store.size := by omega
  unfold write put
  rw [position_inside tape inside]
  simp only [bind, Except.bind, pure, Except.pure, Array.setIfInBounds, dif_pos inStore]

@[simp] theorem cells_put (tape : Tape) (place : Nat) (value : UInt8) :
    (tape.put place value).cells = tape.cells.set place value := by
  simp [cells_eq_take, put, List.take_set]

theorem clean_put {tape : Tape} (clean : tape.Clean) {place : Nat} (inside : place < tape.size)
    (value : UInt8) : (tape.put place value).Clean := by
  rcases clean with ⟨spare, stored⟩
  refine ⟨spare, ?_⟩
  have inCells : place < tape.cells.length := by simpa using inside
  rw [cells_put, ← List.set_append_left _ _ inCells, ← stored]
  simp [put]

theorem clean_blank (size : Nat) : (blank size).Clean := by
  refine ⟨0, ?_⟩
  rw [cells_blank]
  simp [blank]

@[simp] theorem size_clear (tape : Tape) : tape.clear.size = tape.size := rfl

theorem clean_clear (tape : Tape) : tape.clear.Clean := by
  refine ⟨tape.store.size - tape.size, ?_⟩
  have bound := tape.size_le
  rw [cells_clear, List.replicate_append_replicate]
  simp [clear, Nat.add_sub_cancel' bound]

/-- Growing shows zeros behind the cells, whether it takes them from the spare room or from a new
store. -/
theorem grow_clean {tape : Tape} (clean : tape.Clean) (size : Nat) :
    (tape.grow size).cells = tape.cells ++ List.replicate (size - tape.size) 0 ∧
      (tape.grow size).Clean := by
  rcases clean with ⟨spare, stored⟩
  have count := congrArg List.length stored
  rw [List.length_append, length_cells, List.length_replicate] at count
  unfold grow
  split
  case isTrue enough =>
    rw [Nat.sub_eq_zero_of_le enough]
    exact ⟨by simp, spare, stored⟩
  case isFalse short =>
    split
    case isTrue fits =>
      have room : size - tape.size ≤ spare := by
        rw [Array.length_toList] at count
        omega
      have shown : tape.store.toList.take size =
          tape.cells ++ List.replicate (size - tape.size) 0 := by
        rw [stored, List.take_append, List.take_of_length_le (by simp; omega), length_cells,
          List.take_replicate, Nat.min_eq_left room]
      refine ⟨?_, spare - (size - tape.size), ?_⟩
      · rw [cells_eq_take, shown]
      · rw [cells_eq_take, shown, List.append_assoc, List.replicate_append_replicate,
          Nat.add_sub_cancel' room, stored]
    case isFalse outgrown =>
      let room := max size (2 * tape.store.size) - tape.size
      have kept : (tape.store.extract 0 tape.size ++ Array.replicate room 0).toList =
          tape.cells ++ List.replicate room 0 := by simp [cells]
      have enough : size - tape.size ≤ room := by
        dsimp only [room]
        omega
      have shown : (tape.store.extract 0 tape.size ++ Array.replicate room 0).toList.take size =
          tape.cells ++ List.replicate (size - tape.size) 0 := by
        rw [kept, List.take_append, List.take_of_length_le (by simp; omega), length_cells,
          List.take_replicate, Nat.min_eq_left enough]
      refine ⟨?_, room - (size - tape.size), ?_⟩
      · rw [cells_eq_take, shown]
      · rw [cells_eq_take, shown, List.append_assoc, List.replicate_append_replicate,
          Nat.add_sub_cancel' enough, kept]

/-- Two tapes that no operation inside their cells can tell apart: they are the same, or they show
the same cells and both have only zeros to spare. -/
def Alike (left right : Tape) : Prop :=
  left = right ∨ (left.cells = right.cells ∧ left.Clean ∧ right.Clean)

namespace Alike

variable {left right : Tape}

theorem cells_eq (alike : left.Alike right) : left.cells = right.cells := by
  rcases alike with rfl | ⟨same, -, -⟩
  · rfl
  · exact same

theorem size_eq (alike : left.Alike right) : left.size = right.size := by
  rw [← length_cells, alike.cells_eq, length_cells]

theorem put (alike : left.Alike right) {place : Nat} (inside : place < right.size)
    (value : UInt8) : (left.put place value).Alike (right.put place value) := by
  have size := alike.size_eq
  rcases alike with rfl | ⟨same, leftClean, rightClean⟩
  · exact .inl rfl
  · right
    exact ⟨by simp [same], clean_put leftClean (by omega) value, clean_put rightClean inside value⟩

theorem clear (alike : left.Alike right) : left.clear.Alike right.clear := by
  have size := alike.size_eq
  rcases alike with rfl | ⟨same, -, -⟩
  · exact .inl rfl
  · exact .inr ⟨by simp [size], clean_clear left, clean_clear right⟩

theorem grow (alike : left.Alike right) (size : Nat) :
    (left.grow size).Alike (right.grow size) := by
  have sizes := alike.size_eq
  rcases alike with rfl | ⟨same, leftClean, rightClean⟩
  · exact .inl rfl
  · obtain ⟨leftCells, leftGrown⟩ := grow_clean leftClean size
    obtain ⟨rightCells, rightGrown⟩ := grow_clean rightClean size
    exact .inr ⟨by rw [leftCells, rightCells, same, sizes], leftGrown, rightGrown⟩

end Alike

end TapeLang.Tape
