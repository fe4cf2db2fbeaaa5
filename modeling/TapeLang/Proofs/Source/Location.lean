import TapeLang.Source.Location

/-!
What a location says about an offset in a source: its line is one more than the newlines before it, and
its column is one more than the bytes since the last of them.
-/

namespace TapeLang.Location

/-- The location names the byte at an offset. The bytes before it end in the part of its own line that
is to its left. -/
structure Names (file : String) (source : Bytes) (offset : Nat) (location : Location) : Prop where
  file : location.file = file
  line : location.line = 1 + (source.take offset).count newline
  column : ∃ earlier current, source.take offset = earlier ++ current ∧ newline ∉ current ∧
    (earlier = [] ∨ ∃ lines, earlier = lines ++ [newline]) ∧ location.column = 1 + current.length

theorem last_line_split (text : Bytes) :
    ∃ earlier current, text = earlier ++ current ∧ newline ∉ current ∧
      (earlier = [] ∨ ∃ lines, earlier = lines ++ [newline]) ∧
      lastLineStart text = earlier.length := by
  let current := (text.reverse.takeWhile (· != newline)).reverse
  let earlier := (text.reverse.dropWhile (· != newline)).reverse
  have parts : text = earlier ++ current := by
    rw [← List.reverse_append, List.takeWhile_append_dropWhile, List.reverse_reverse]
  refine ⟨earlier, current, parts, ?_, ?_, ?_⟩
  · intro found
    have kept := List.all_eq_true.mp List.all_takeWhile newline (List.mem_reverse.mp found)
    simp at kept
  · cases left : text.reverse.dropWhile (· != newline) with
    | nil => exact .inl (by simp only [earlier, left, List.reverse_nil])
    | cons byte lines =>
        have stops := List.head?_dropWhile_not (· != newline) text.reverse
        rw [left] at stops
        have same : byte = newline := by simpa using stops
        exact .inr ⟨lines.reverse, by simp only [earlier, left, List.reverse_cons, same]⟩
  · have size := congrArg List.length parts
    rw [List.length_append] at size
    have width : current.length = (text.reverse.takeWhile (· != newline)).length :=
      List.length_reverse
    unfold lastLineStart
    omega

theorem names_of_offset (file : String) {source : Bytes} {offset : Nat}
    (inside : offset ≤ source.length) : (ofOffset file source offset).Names file source offset := by
  have searches : searched source.length offset = offset := by
    unfold searched
    split <;> omega
  obtain ⟨earlier, current, parts, plain, ends, start⟩ := last_line_split (source.take offset)
  refine ⟨rfl, ?_, earlier, current, parts, plain, ends, ?_⟩
  · simp only [ofOffset, searches]
    omega
  · have size := congrArg List.length parts
    rw [List.length_append, List.length_take] at size
    simp only [ofOffset, searches, start]
    omega

end TapeLang.Location
