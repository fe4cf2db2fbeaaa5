import TapeLang.Proofs.Program.Balance
import TapeLang.Proofs.Program.Canonical

/-!
Commands and loops in programs. A program that grows gets no command, so it always holds as many as at
first; and it gets no loop from sources without brackets, since every bracket of a program stands for one
of its source.
-/

namespace TapeLang

def Instruction.isCommand : Instruction → Bool
  | .command _ => true
  | _ => false

theorem countP_is_command_eq_zero_iff {program : List Instruction} :
    program.countP Instruction.isCommand = 0 ↔ ∀ text, .command text ∉ program := by
  rw [List.countP_eq_zero]
  constructor
  · intro none text found
    exact none _ found rfl
  · intro none instruction found same
    cases instruction with
    | command text => exact none text found
    | _ => cases same

theorem Grows.exists_rest {front program : List Instruction} (grown : Grows front program) :
    ∃ rest, program = front ++ rest ∧ rest.countP Instruction.isCommand = 0 := by
  induction grown with
  | refl => exact ⟨[], (List.append_nil front).symm, rfl⟩
  | @append program fragment source file grown accepted ih =>
      obtain ⟨rest, rfl, none⟩ := ih
      refine ⟨rest ++ relocate (front ++ rest).length fragment, by rw [List.append_assoc], ?_⟩
      rw [List.countP_append, none, Nat.zero_add, countP_is_command_eq_zero_iff]
      intro text found
      rw [command_mem_relocate] at found
      exact command_not_mem_of_parse_normal accepted text found

structure LoopFree (program : List Instruction) : Prop where
  opening : ∀ target, .loopStart target ∉ program
  closing : ∀ start, .loopEnd start ∉ program

namespace LoopFree

theorem nil : LoopFree [] := ⟨fun _ => List.not_mem_nil, fun _ => List.not_mem_nil⟩

theorem append_relocate {program fragment : List Instruction} (front : LoopFree program)
    (back : LoopFree fragment) (offset : Int) : LoopFree (program ++ relocate offset fragment) where
  opening := by
    intro target found
    rcases List.mem_append.mp found with found | found
    · exact front.opening target found
    · obtain ⟨instruction, here, moved⟩ := List.mem_map.mp found
      obtain ⟨before, rfl, -⟩ := Instruction.relocate_eq_loop_start moved
      exact back.opening before here
  closing := by
    intro start found
    rcases List.mem_append.mp found with found | found
    · exact front.closing start found
    · obtain ⟨instruction, here, moved⟩ := List.mem_map.mp found
      obtain ⟨before, rfl, -⟩ := Instruction.relocate_eq_loop_end moved
      exact back.closing before here

end LoopFree

theorem mem_unparse {program : List Instruction} {instruction : Instruction} {character : Char}
    (found : instruction ∈ program) (written : character ∈ instruction.spelling.toList) :
    character ∈ (unparse program).toList := by
  induction program with
  | nil => cases found
  | cons first rest ih =>
      rw [unparse, String.toList_append, List.mem_append]
      rcases List.mem_cons.mp found with rfl | later
      · exact .inl written
      · exact .inr (ih later)

/-- In normal mode every character that is left of a source is one of its bytes. -/
theorem mem_of_mem_token_text {source : Bytes} {character : Char}
    (found : character ∈ (tokenText .normal source).toList) :
    ∃ byte ∈ source, Char.ofNat byte.toNat = character := by
  fun_induction tokenText .normal source with
  | case1 => cases found
  | case2 byte rest marks ih => cases marks.2
  | case3 byte rest plain operator ih =>
      rw [String.toList_append, List.mem_append] at found
      rcases found with here | later
      · exact ⟨byte, List.mem_cons_self, by simpa [eq_comm] using here⟩
      · obtain ⟨other, found, same⟩ := ih later
        exact ⟨other, List.mem_cons_of_mem byte found, same⟩
  | case4 byte rest plain comment ih =>
      obtain ⟨other, found, same⟩ := ih found
      exact ⟨other, List.mem_cons_of_mem byte found, same⟩

structure Brackets.Absent (source : Bytes) : Prop where
  opening : Brackets.openingByte ∉ source
  closing : Brackets.closingByte ∉ source

theorem LoopFree.of_parse {source : Bytes} {file : String} {fragment : List Instruction}
    (accepted : parse source file .normal = .ok fragment) (absent : Brackets.Absent source) :
    LoopFree fragment := by
  have bytes : ∀ code : Fin 256, (Char.ofNat code = '[' → UInt8.ofFin code = Brackets.openingByte) ∧
      (Char.ofNat code = ']' → UInt8.ofFin code = Brackets.closingByte) := by
    decide +kernel
  have written {instruction : Instruction} {character : Char} (found : instruction ∈ fragment)
      (spelled : character ∈ instruction.spelling.toList) :
      ∃ byte ∈ source, Char.ofNat byte.toNat = character := by
    apply mem_of_mem_token_text
    rw [← unparse_of_parse accepted]
    exact mem_unparse found spelled
  constructor
  · intro target found
    have spelled : '[' ∈ (Instruction.loopStart target).spelling.toList := by simp [Instruction.spelling]
    obtain ⟨byte, inside, same⟩ := written found spelled
    exact absent.opening ((bytes byte.toFin).1 same ▸ inside)
  · intro start found
    have spelled : ']' ∈ (Instruction.loopEnd start).spelling.toList := by simp [Instruction.spelling]
    obtain ⟨byte, inside, same⟩ := written found spelled
    exact absent.closing ((bytes byte.toFin).2 same ▸ inside)

end TapeLang
