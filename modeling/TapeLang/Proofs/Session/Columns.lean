import TapeLang.Session.TapeView

/-!
The columns of the shown tape. Marks and values are joined into lines of their own, so where one of them
starts depends on the widths of all before it. A value takes three characters and a mark at least three, and
more from the thousandth cell on unless it is the pointer's. So the two lines are aligned up to there, and
behind it the marks stand too far to the right.
-/

namespace TapeLang

namespace Text

/-- What stands before a piece of a joined text: the pieces before it, each with the separator behind it. -/
def leading (separator : String) : List String → Nat → String
  | piece :: pieces, index + 1 => piece ++ separator ++ leading separator pieces index
  | _, _ => ""

def StartsAt (line : String) (column : Nat) (piece : String) : Prop :=
  ∃ before behind, line = before ++ piece ++ behind ∧ before.length = column

variable {separator piece : String} {pieces : List String} {index : Nat}

theorem leading_zero (separator : String) (pieces : List String) : leading separator pieces 0 = "" := by
  cases pieces <;> rfl

theorem starts_at_leading (found : pieces[index]? = some piece) :
    StartsAt (separator.intercalate pieces) (leading separator pieces index).length piece := by
  induction pieces generalizing index with
  | nil => cases found
  | cons first pieces ih =>
      cases index with
      | zero =>
          cases found
          cases pieces with
          | nil => exact ⟨"", "", by simp, rfl⟩
          | cons second pieces =>
              refine ⟨"", separator ++ separator.intercalate (second :: pieces), ?_, rfl⟩
              rw [String.intercalate_cons_cons, String.empty_append, String.append_assoc]
      | succ index =>
          rw [List.getElem?_cons_succ] at found
          obtain ⟨before, behind, joined, width⟩ := ih found
          have more : pieces ≠ [] := by
            rintro rfl
            cases found
          refine ⟨first ++ separator ++ before, behind, ?_, ?_⟩
          · rw [String.intercalate_cons_of_ne_nil more, joined]
            simp only [String.append_assoc]
          · simp only [leading, String.length_append, width]

theorem length_leading_succ (found : pieces[index]? = some piece) :
    (leading separator pieces (index + 1)).length =
      (leading separator pieces index).length + piece.length + separator.length := by
  induction pieces generalizing index with
  | nil => cases found
  | cons first pieces ih =>
      cases index with
      | zero =>
          cases found
          simp [leading]
      | succ index =>
          rw [List.getElem?_cons_succ] at found
          simp only [leading, String.length_append, ih found]
          omega

theorem length_pad_left (width : Nat) (text : String) :
    (padLeft width text).length = max width text.length := by
  rw [padLeft, String.length_append, String.length_ofList, List.length_replicate]
  omega

theorem length_padded_eq_three_iff (number : Nat) :
    (padLeft 3 (decimal number)).length = 3 ↔ number < 1000 := by
  have digits : (decimal number).length ≤ 3 ↔ number < 10 ^ 3 := by
    rw [← Nat.length_toDigits_le_iff (by decide) (by decide)]
    exact (congrArg (· ≤ 3) String.length_ofList).to_iff
  rw [length_pad_left, ← show (10 ^ 3 : Nat) = 1000 from rfl, ← digits]
  omega

end Text

namespace TapeView

def markColumn (count : Nat) (pointer : Int) (index : Nat) : Nat :=
  (Text.leading "   " ((List.range count).map (mark pointer)) index).length

def valueColumn (cells : List Int) (index : Nat) : Nat :=
  (Text.leading " | " (cells.map fun cell => Text.padLeft 3 (Text.decimal cell)) index).length

theorem three_le_length_mark (pointer : Int) (index : Nat) : 3 ≤ (mark pointer index).length := by
  unfold mark
  split
  · exact Nat.le_refl 3
  · rw [Text.length_pad_left]
    omega

theorem length_mark_eq_three_iff (pointer index : Nat) :
    (mark pointer index).length = 3 ↔ index < 1000 ∨ index = pointer := by
  unfold mark
  by_cases here : index = pointer
  · rw [if_pos (congrArg Nat.cast here)]
    exact iff_of_true rfl (.inr here)
  · rw [if_neg (by omega), Text.length_padded_eq_three_iff]
    exact ⟨.inl, fun small => small.resolve_right here⟩

section Columns

variable {count index : Nat}

theorem get_marks (pointer : Int) (within : index < count) :
    ((List.range count).map (mark pointer))[index]? = some (mark pointer index) := by
  rw [List.getElem?_map, List.getElem?_range within, Option.map_some]

theorem mark_column_succ (pointer : Int) (within : index < count) :
    markColumn count pointer (index + 1) =
      markColumn count pointer index + (mark pointer index).length + 3 :=
  Text.length_leading_succ (get_marks pointer within)

theorem le_mark_column (pointer : Int) (within : index ≤ count) :
    6 * index ≤ markColumn count pointer index := by
  induction index with
  | zero => exact Nat.zero_le _
  | succ index ih =>
      have earlier := ih (Nat.le_of_succ_le within)
      have wide := three_le_length_mark pointer index
      rw [mark_column_succ pointer within]
      omega

theorem mark_column_eq_iff (pointer : Nat) (within : index ≤ count) :
    markColumn count pointer index = 6 * index ↔
      ∀ earlier < index, earlier < 1000 ∨ earlier = pointer := by
  induction index with
  | zero =>
      have first : markColumn count pointer 0 = 0 := congrArg String.length (Text.leading_zero _ _)
      exact iff_of_true first nofun
  | succ index ih =>
      have least := le_mark_column pointer (Nat.le_of_succ_le within)
      have wide := three_le_length_mark pointer index
      rw [mark_column_succ _ within, Nat.forall_lt_succ_right, ← ih (Nat.le_of_succ_le within),
        ← length_mark_eq_three_iff]
      omega

theorem value_column_eq {cells : List Int} (bytes : ∀ cell ∈ cells, 0 ≤ cell ∧ cell ≤ 255)
    (within : index ≤ cells.length) : valueColumn cells index = 6 * index := by
  induction index with
  | zero => exact congrArg String.length (Text.leading_zero _ _)
  | succ index ih =>
      have inside : index < cells.length := within
      have earlier := ih (Nat.le_of_succ_le within)
      have found : (cells.map fun cell => Text.padLeft 3 (Text.decimal cell))[index]? =
          some (Text.padLeft 3 (Text.decimal cells[index])) := by
        rw [List.getElem?_map, List.getElem?_eq_getElem inside, Option.map_some]
      obtain ⟨low, high⟩ := bytes cells[index] (List.getElem_mem inside)
      obtain ⟨value, natural⟩ := Int.eq_ofNat_of_zero_le low
      have narrow : (Text.padLeft 3 (Text.decimal cells[index])).length = 3 := by
        rw [natural]
        exact (Text.length_padded_eq_three_iff value).mpr (by omega)
      have next : valueColumn cells (index + 1) = valueColumn cells index + _ + 3 :=
        Text.length_leading_succ found
      rw [next, earlier, narrow]
      omega

end Columns

/-- No mark before a cell is too wide: that is so up to cell one thousand, and for the one behind it when
the pointer is there. -/
theorem narrow_before_iff (pointer index : Nat) :
    (∀ earlier < index, earlier < 1000 ∨ earlier = pointer) ↔
      index ≤ 1000 ∨ index = 1001 ∧ pointer = 1000 := by
  constructor
  · intro narrow
    rcases Nat.lt_or_ge 1000 index with more | small
    · have here := narrow 1000 more
      have last : ¬1001 < index := by
        intro further
        have there := narrow 1001 further
        omega
      omega
    · exact .inl small
  · intro small earlier before
    omega

/-- The two lines of a shown tape are aligned as far as every number has three digits. The mark and the value
of a cell start at the same column up to cell one thousand, or one further when the pointer is there; behind
it, the mark of the pointer no longer stands above its value. -/
theorem columns_meet_up_to_thousand (cells : List Int) (pointer : Nat) (inside : pointer < cells.length)
    (bytes : ∀ cell ∈ cells, 0 ≤ cell ∧ cell ≤ 255) :
    render cells pointer = marks cells.length pointer ++ "\n" ++ values cells ∧
      (∀ index value, cells[index]? = some value →
        Text.StartsAt (marks cells.length pointer) (markColumn cells.length pointer index)
            (mark pointer index) ∧
          Text.StartsAt (values cells) (valueColumn cells index) (Text.padLeft 3 (Text.decimal value)) ∧
          (markColumn cells.length pointer index = valueColumn cells index ↔
            index ≤ 1000 ∨ index = 1001 ∧ pointer = 1000)) ∧
      (mark pointer pointer = " V " ∧
        (markColumn cells.length pointer pointer = valueColumn cells pointer ↔ pointer ≤ 1000)) ∧
      ((∀ index < cells.length, markColumn cells.length pointer index = valueColumn cells index) ↔
        cells.length ≤ 1001 ∨ cells.length = 1002 ∧ pointer = 1000) := by
  have aligned : ∀ index < cells.length,
      (markColumn cells.length pointer index = valueColumn cells index ↔
        index ≤ 1000 ∨ index = 1001 ∧ pointer = 1000) := by
    intro index within
    rw [value_column_eq bytes (Nat.le_of_lt within), mark_column_eq_iff pointer (Nat.le_of_lt within),
      narrow_before_iff]
  refine ⟨rfl, ?_, ⟨if_pos rfl, ?_⟩, ?_⟩
  · intro index value found
    obtain ⟨within, -⟩ := List.getElem?_eq_some_iff.mp found
    refine ⟨Text.starts_at_leading (get_marks pointer within), Text.starts_at_leading ?_, aligned index within⟩
    rw [List.getElem?_map, found, Option.map_some]
  · rw [aligned pointer inside]
    omega
  · constructor
    · intro all
      have last := (aligned (cells.length - 1) (by omega)).mp (all _ (by omega))
      omega
    · intro short index within
      exact (aligned index within).mpr (by omega)

/-- With the pointer at cell one thousand, one more cell is still in place. -/
theorem thousand_and_two_cells_aligned :
    let cells : List Int := List.replicate 1002 7
    (1000 < cells.length ∧ ∀ cell ∈ cells, 0 ≤ cell ∧ cell ≤ 255) ∧
      (∀ index < 1002, markColumn 1002 1000 index = valueColumn cells index) ∧
      mark 1000 1000 = " V " := by
  intro cells
  have size : cells.length = 1002 := List.length_replicate
  have bytes : ∀ cell ∈ cells, 0 ≤ cell ∧ cell ≤ 255 := by
    intro cell found
    rw [List.eq_of_mem_replicate found]
    decide
  have shown := columns_meet_up_to_thousand cells 1000 (by omega) bytes
  rw [size] at shown
  exact ⟨⟨by omega, bytes⟩, shown.2.2.2.mpr (.inr ⟨rfl, rfl⟩), shown.2.2.1.1⟩

/-- With the pointer one further its mark stands to the right of its value. -/
theorem pointer_mark_beside_value :
    let cells : List Int := List.replicate 1002 0
    (1001 < cells.length ∧ ∀ cell ∈ cells, 0 ≤ cell ∧ cell ≤ 255) ∧
      mark 1001 1001 = " V " ∧ markColumn cells.length 1001 1001 ≠ valueColumn cells 1001 := by
  intro cells
  have size : cells.length = 1002 := List.length_replicate
  have bytes : ∀ cell ∈ cells, 0 ≤ cell ∧ cell ≤ 255 := by
    intro cell found
    rw [List.eq_of_mem_replicate found]
    decide
  refine ⟨⟨by omega, bytes⟩, rfl, ?_⟩
  intro same
  have late := same.trans (value_column_eq bytes (by omega))
  have narrow := (mark_column_eq_iff 1001 (by omega)).mp late
  have wide := narrow 1000 (by decide)
  omega

end TapeView

end TapeLang
