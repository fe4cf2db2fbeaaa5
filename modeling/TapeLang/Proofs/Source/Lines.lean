import Mathlib.Data.List.Basic
import Mathlib.Data.Prod.Lex
import TapeLang.Proofs.Source.Location
import TapeLang.Source.Scanner

/-!
Lines and offsets of a source. A line starts at the beginning or right behind a newline, so the starts of all
lines are found from the front, while a location counts newlines and looks for the last one from the back. The
two agree: a location names the line in which an offset lies, and how far behind its start. So an offset can
be read back from its location, and offsets come in the order of their lines and columns.
-/

namespace TapeLang

namespace Location

def lineStarts (source : Bytes) : List Nat :=
  0 :: source.idxsOf newline 1

def lineStart? (source : Bytes) : Nat → Option Nat
  | 0 => none
  | line + 1 => (lineStarts source)[line]?

/-- The place in a file, in the order of lines and, within a line, of columns. -/
def place (location : Location) : Nat ×ₗ Int :=
  toLex (location.line, location.column)

theorem length_line_starts (source : Bytes) :
    (lineStarts source).length = source.count newline + 1 := by
  rw [lineStarts, List.length_cons, List.length_idxsOf]

theorem line_starts_append (front rest : Bytes) :
    lineStarts (front ++ rest) = lineStarts front ++ rest.idxsOf newline (front.length + 1) := by
  rw [lineStarts, List.idxsOf_append, Nat.add_comm, lineStarts, List.cons_append]

theorem line_starts_plain {front rest : Bytes} (plain : newline ∉ rest) :
    lineStarts (front ++ rest) = lineStarts front := by
  have nothing : rest.idxsOf newline (front.length + 1) = [] := by
    rw [List.idxsOf_eq_nil_iff]
    intro byte found
    exact beq_false_of_ne fun same => plain (same ▸ found)
  rw [line_starts_append, nothing, List.append_nil]

theorem last_line_start {earlier current : Bytes} (plain : newline ∉ current)
    (ends : earlier = [] ∨ ∃ lines, earlier = lines ++ [newline]) :
    (lineStarts (earlier ++ current))[(earlier ++ current).count newline]? = some earlier.length := by
  rw [line_starts_plain plain, List.count_append, List.count_eq_zero.mpr plain, Nat.add_zero]
  rcases ends with rfl | ⟨lines, rfl⟩
  · rfl
  · have index : (lines ++ [newline]).count newline = (lineStarts lines).length := by
      rw [List.count_append, List.count_singleton_self, length_line_starts]
    have further : lineStarts (lines ++ [newline]) = lineStarts lines ++ [lines.length + 1] :=
      line_starts_append lines [newline]
    rw [index, further, List.getElem?_concat_length, List.length_append, List.length_singleton]

section Offsets

variable {file : String} {source : Bytes} {offset : Nat} {location : Location}

/-- Up to an offset the lines start as in the bytes before it, and all others start behind it. -/
theorem line_starts_split (inside : offset ≤ source.length) :
    lineStarts source =
      lineStarts (source.take offset) ++ (source.drop offset).idxsOf newline (offset + 1) := by
  have split := line_starts_append (source.take offset) (source.drop offset)
  rwa [List.take_append_drop, List.length_take_of_le inside] at split

theorem Names.line_start (names : location.Names file source offset) (inside : offset ≤ source.length) :
    ∃ start : Nat, lineStart? source location.line = some start ∧ start ≤ offset ∧
      location.column = offset - start + 1 := by
  obtain ⟨earlier, current, parts, plain, ends, column⟩ := names.column
  have size := congrArg List.length parts
  rw [List.length_take_of_le inside, List.length_append] at size
  have last := last_line_start plain ends
  rw [← parts] at last
  have within := (List.getElem?_eq_some_iff.mp last).1
  refine ⟨earlier.length, ?_, by omega, by omega⟩
  rw [names.line, Nat.add_comm, lineStart?, line_starts_split inside,
    List.getElem?_append_left within, last]

theorem Names.lt_next_line (names : location.Names file source offset)
    (inside : offset ≤ source.length) {next : Nat}
    (found : lineStart? source (location.line + 1) = some next) : offset < next := by
  have behind : (lineStarts (source.take offset)).length ≤ location.line := by
    rw [length_line_starts, names.line, Nat.add_comm]
  rw [lineStart?, line_starts_split inside, List.getElem?_append_right behind] at found
  exact List.ge_of_mem_idxsOf next (List.mem_of_getElem? found)

end Offsets

/-- Places grow with the offset: newlines before it only become more, and on one line columns count from
the same start. -/
theorem place_lt_of_lt (file : String) {source : Bytes} {first second : Nat} (before : first < second)
    (inside : second ≤ source.length) :
    (ofOffset file source first).place < (ofOffset file source second).place := by
  have earlier : first ≤ source.length := by omega
  have here := names_of_offset file earlier
  have there := names_of_offset file inside
  have lines : (ofOffset file source first).line ≤ (ofOffset file source second).line := by
    have taken : (source.take first).Sublist (source.take second) :=
      List.take_sublist_take_left (Nat.le_of_lt before)
    have fewer := taken.count_le newline
    rw [here.line, there.line]
    omega
  refine Prod.Lex.toLex_lt_toLex.mpr ?_
  rcases Nat.lt_or_eq_of_le lines with above | same
  · exact .inl above
  · obtain ⟨start, found, -, column⟩ := here.line_start earlier
    obtain ⟨_, again, -, further⟩ := there.line_start inside
    rw [← same, found] at again
    cases again
    exact .inr ⟨same, by omega⟩

end Location

/-- A location identifies its offset. Its line is the one in which the offset lies and its column counts from
the start of that line, so the offset can be read back. Different offsets have different places, in the same
order. -/
theorem locations_identify_offsets (scanner : Scanner) (offset : Nat)
    (inside : offset ≤ scanner.source.length) :
    let location := scanner.location (some offset)
    (1 ≤ location.line ∧ 1 ≤ location.column) ∧
      (∃ start : Nat, Location.lineStart? scanner.source location.line = some start ∧
        (offset : Int) = start + location.column - 1) ∧
      (∀ next, Location.lineStart? scanner.source (location.line + 1) = some next → offset < next) ∧
      ∀ other : Nat, other ≤ scanner.source.length →
        (offset ≠ other → location.place ≠ (scanner.location (some other)).place) ∧
        (offset < other ↔ location.place < (scanner.location (some other)).place) := by
  intro location
  have names : location.Names scanner.file scanner.source offset :=
    Location.names_of_offset scanner.file inside
  obtain ⟨start, found, before, column⟩ := names.line_start inside
  have line := names.line
  have grows : StrictMonoOn (fun offset : Nat => (scanner.location (some offset)).place)
      {offset | offset ≤ scanner.source.length} :=
    fun _ _ _ within before => Location.place_lt_of_lt scanner.file before within
  refine ⟨⟨by omega, by omega⟩, ⟨start, found, by omega⟩, fun _ => names.lt_next_line inside, ?_⟩
  intro other within
  refine ⟨?_, (grows.lt_iff_lt inside within).symm⟩
  intro differ same
  exact differ (grows.injOn inside within same)

/-- The newline of an empty line is the first place of that line, and the end of a source behind a newline is
on a line of its own. -/
theorem empty_lines_have_places :
    let scanner : Scanner := { source := [97, 98, 10, 10], file := "a", marks := false }
    (3 ≤ scanner.source.length ∧ 4 ≤ scanner.source.length) ∧
      scanner.location (some 3) = ⟨"a", 2, 1⟩ ∧ scanner.location (some 4) = ⟨"a", 3, 1⟩ ∧
      (∃ start : Nat, Location.lineStart? scanner.source 2 = some start ∧ (3 : Int) = start + 1 - 1) ∧
      (∀ next, Location.lineStart? scanner.source 3 = some next → 3 < next) ∧
      (scanner.location (some 3)).place ≠ (scanner.location (some 4)).place ∧
      (scanner.location (some 3)).place < (scanner.location (some 4)).place := by
  intro scanner
  obtain ⟨-, start, next, others⟩ := locations_identify_offsets scanner 3 (by decide)
  obtain ⟨distinct, ordered⟩ := others 4 (by decide)
  exact ⟨by decide, rfl, rfl, start, next, distinct (by decide), ordered.mp (by decide)⟩

end TapeLang
