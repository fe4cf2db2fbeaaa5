import TapeLang.Proofs.Program.WellFormed

/-!
Growing programs. A program grows when fragments that were parsed in normal mode are placed behind it
one after another, as including files does. It stays well-formed, what was there stays where it was,
and no command is added, since a fragment parsed in normal mode holds none.
-/

namespace TapeLang

theorem command_not_mem_of_parse_normal {source : Bytes} {file : String}
    {fragment : List Instruction} (accepted : parse source file .normal = .ok fragment)
    (text : String) : .command text ∉ fragment := by
  obtain ⟨forest, written, rfl⟩ := (parse_eq_ok_iff source file .normal fragment).mp accepted
  have operators : Tree.Every Atom.IsOperator forest := by
    apply Tree.every_of_tokens
    intro atom found
    rw [written] at found
    exact Token.is_operator_of_operators (Token.scan_plain_tokens 0 source ▸ found)
  have leaves : Tree.Every (fun stretch : Stretch =>
      ∀ instruction ∈ stretch.instructions, instruction ≠ .command text) (Tree.gather forest) := by
    apply Tree.Every.mono _ (Tree.every_gather operators)
    intro stretch gathered instruction found same
    have operator := gathered.atom
    rcases stretch with ⟨atom, count⟩
    cases atom <;> simp_all [Stretch.instructions, Atom.IsOperator]
  intro found
  exact Tree.forall_mem_flatten (by simp) (by simp) leaves 0 _ found rfl

theorem command_mem_relocate (offset : Int) (fragment : List Instruction) (text : String) :
    .command text ∈ relocate offset fragment ↔ .command text ∈ fragment := by
  unfold relocate
  rw [List.mem_map]
  constructor
  · intro origin
    rcases origin with ⟨instruction, found, moved⟩
    cases instruction with
    | loopStart target => cases target <;> cases moved
    | command text => cases moved; exact found
    | _ => cases moved
  · intro found
    exact ⟨_, found, rfl⟩

inductive Grows (front : List Instruction) : List Instruction → Prop where
  | refl : Grows front front
  | append {program fragment : List Instruction} {source : Bytes} {file : String}
      (grown : Grows front program) (accepted : parse source file .normal = .ok fragment) :
      Grows front (program ++ relocate program.length fragment)

namespace Grows

variable {front middle program : List Instruction}

theorem trans (first : Grows front middle) (second : Grows middle program) :
    Grows front program := by
  induction second with
  | refl => exact first
  | append _ accepted ih => exact .append ih accepted

theorem keeps_front (grown : Grows front program) : front <+: program := by
  induction grown with
  | refl => exact List.prefix_rfl
  | append _ _ ih => exact ih.trans (List.prefix_append _ _)

theorem well_formed (grown : Grows front program) (well : WellFormed front) :
    WellFormed program := by
  induction grown with
  | refl => exact well
  | append _ accepted ih => exact ih.append (.of_parse accepted)

theorem command_mem (grown : Grows front program) (text : String) :
    .command text ∈ program ↔ .command text ∈ front := by
  induction grown with
  | refl => exact Iff.rfl
  | append _ accepted ih =>
      rw [List.mem_append, command_mem_relocate, ih]
      exact or_iff_left (command_not_mem_of_parse_normal accepted text)

/-- What grew from nothing can be moved behind a program as a whole: its parts then stand where they
would have been placed one by one. -/
theorem behind (front : List Instruction) (grown : Grows [] program) :
    Grows front (front ++ relocate front.length program) := by
  induction grown with
  | refl =>
      rw [relocate, List.map_nil, List.append_nil]
      exact .refl
  | @append program fragment _ _ _ accepted ih =>
      have length : ((front ++ relocate front.length program).length : Int) =
          (program.length : Int) + (front.length : Int) := by
        rw [List.length_append, length_relocate]
        omega
      have placed := ih.append accepted
      rw [length, List.append_assoc, ← relocate_relocate, ← relocate_append] at placed
      exact placed

end Grows

end TapeLang
