import TapeLang.Proofs.Program.Canonical

/-!
The program of a source that is still being read. Trees that would not be counted together are compiled one
behind the other, so what building holds has a program at any time: each tree that is added adds its own
instructions, and closing a loop only fills in the jump of its start.
-/

namespace TapeLang

namespace Tree

theorem gather_eq_nil_iff (trees : List (Tree Atom)) : gather trees = [] ↔ trees = [] := by
  constructor
  · intro empty
    cases trees with
    | nil => rfl
    | cons tree rest =>
        cases tree with
        | loop body => cases empty
        | leaf atom =>
            rw [gather, gatherOnto] at empty
            unfold gatherAtom at empty
            split at empty
            · split at empty <;> cases empty
            · cases empty
  · rintro rfl
    rfl

def Apart (front back : List (Tree Atom)) : Prop :=
  ∀ kind, front.getLast? = some (.leaf (.counted kind)) →
    ∀ stretch rest, gather back = .leaf stretch :: rest → stretch.atom ≠ .counted kind

theorem gather_atom_append (atom : Atom) {front : List (Tree Stretch)} (more : front ≠ [])
    (back : List (Tree Stretch)) : gatherAtom atom (front ++ back) = gatherAtom atom front ++ back := by
  cases front with
  | nil => exact absurd rfl more
  | cons tree rest =>
      cases tree with
      | loop body => cases atom <;> rfl
      | leaf stretch =>
          cases atom with
          | counted kind =>
              rw [List.cons_append, gatherAtom, gatherAtom]
              split <;> rfl
          | _ => rfl

theorem gather_append {front back : List (Tree Atom)} (apart : Apart front back) :
    gather (front ++ back) = gather front ++ gather back := by
  induction front with
  | nil => rfl
  | cons tree rest ih =>
      have later : gather (rest ++ back) = gather rest ++ gather back := by
        apply ih
        intro kind last
        apply apart kind
        cases rest with
        | nil => cases last
        | cons next rest => exact last
      rw [List.cons_append, gather, gather, later]
      cases tree with
      | loop body => rfl
      | leaf atom =>
          rw [gatherOnto, gatherOnto]
          -- only the last atom of the front meets the back
          by_cases more : rest = []
          case neg => exact gather_atom_append atom (mt (gather_eq_nil_iff rest).mp more) _
          case pos =>
            subst more
            rw [gather, List.nil_append]
            unfold Apart at apart
            generalize gather back = gathered at apart
            cases atom with
            | counted kind =>
                cases gathered with
                | nil => rfl
                | cons tree later =>
                    cases tree with
                    | loop body => rfl
                    | leaf stretch =>
                        rw [gatherAtom, if_neg (apart kind rfl stretch later rfl)]
                        rfl
            | _ => rfl

theorem flatten_append (base : Nat) (front back : List (Tree Stretch)) :
    flatten base (front ++ back) =
      flatten base front ++ flatten (base + (flatten base front).length) back := by
  induction front generalizing base with
  | nil => rfl
  | cons tree rest ih =>
      rw [List.cons_append, flatten, flatten, ih, List.append_assoc, List.length_append, Nat.add_assoc]

theorem compile_append {front back : List (Tree Atom)} (apart : Apart front back) :
    compile (front ++ back) = compile front ++ relocate (compile front).length (compile back) := by
  unfold compile
  rw [gather_append apart, flatten_append, Nat.zero_add, flatten_eq_relocate (flatten 0 _).length]

theorem compile_atom (atom : Atom) : compile [.leaf atom] = Stretch.instructions ⟨atom, 1⟩ := by
  have alone : gather [.leaf atom] = [.leaf ⟨atom, 1⟩] := by cases atom <;> rfl
  rw [compile, alone, flatten, flattenOne, flatten, List.append_nil]

theorem gather_copies_alone (kind : Counted) {count : Nat} (positive : 1 ≤ count) :
    gather (List.replicate count (.leaf (.counted kind))) = [.leaf ⟨.counted kind, count⟩] := by
  have gathered := @gather_copies kind count positive [] (by simp [gather])
  rw [List.append_nil] at gathered
  exact gathered

theorem compile_loop (body : List (Tree Atom)) :
    compile [.loop body] = .loopStart (some ((compile body).length + 2 : Nat)) ::
      (relocate 1 (compile body) ++ [.loopEnd 0]) := by
  have alone : gather [.loop body] = [.loop (gather body)] := rfl
  rw [compile, alone, flatten_cons, flatten_one_loop, flatten]
  exact List.append_nil _

/-- The instructions for what building has read. The starts of open loops lead nowhere yet. -/
def written : List Frame → List (Tree Atom) → List Instruction
  | [], body => compile body.reverse
  | frame :: frames, body =>
    let outer := written frames frame.before
    outer ++ .loopStart none :: relocate (outer.length + 1 : Nat) (compile body.reverse)

theorem written_append (frames : List Frame) {body back : List (Tree Atom)}
    (apart : Apart body.reverse back) :
    written frames (back.reverse ++ body) =
      written frames body ++ relocate (written frames body).length (compile back) := by
  have behind : (back.reverse ++ body).reverse = body.reverse ++ back := by simp
  cases frames with
  | nil => rw [written, written, behind, compile_append apart]
  | cons frame frames =>
      rw [written, written, behind, compile_append apart, relocate_append, relocate_relocate]
      have place : ((compile body.reverse).length : Int) +
          ((written frames frame.before).length + 1 : Nat) =
          ((written frames frame.before ++ Instruction.loopStart none ::
            relocate ((written frames frame.before).length + 1 : Nat)
              (compile body.reverse)).length : Nat) := by
        simp only [List.length_append, List.length_cons, length_relocate]
        omega
      rw [place, List.append_assoc, List.cons_append]

theorem written_atom (frames : List Frame) (body : List (Tree Atom)) {atom : Atom}
    (uncounted : ∀ kind, atom ≠ .counted kind) :
    written frames (.leaf atom :: body) = written frames body ++ Stretch.instructions ⟨atom, 1⟩ := by
  have apart : Apart body.reverse [.leaf atom] := by
    intro kind _ stretch rest gathered
    have alone : gather [.leaf atom] = [.leaf ⟨atom, 1⟩] := by cases atom <;> rfl
    cases alone.symm.trans gathered
    exact uncounted kind
  have added := written_append frames apart
  rw [compile_atom, Stretch.relocate_instructions] at added
  exact added

/-- Equal operators add one counted instruction, unless they follow one of their kind. -/
theorem written_copies (frames : List Frame) {body : List (Tree Atom)} {kind : Counted} {count : Nat}
    (positive : 1 ≤ count) (apart : body.head? ≠ some (.leaf (.counted kind))) :
    written frames (List.replicate count (.leaf (.counted kind)) ++ body) =
      written frames body ++ [.counted kind count] := by
  have seam : Apart body.reverse (List.replicate count (.leaf (.counted kind))) := by
    intro other last stretch rest gathered same
    cases (gather_copies_alone kind positive).symm.trans gathered
    cases same
    rw [List.getLast?_reverse] at last
    exact apart last
  have added := written_append frames seam
  rw [compile, gather_copies_alone kind positive, List.reverse_replicate] at added
  exact added

/-- Closing a loop fills in the jump of its start. -/
theorem written_loop (frame : Frame) (frames : List Frame) (body : List (Tree Atom)) :
    (written (frame :: frames) body ++ [Instruction.loopEnd (written frames frame.before).length]).set
        (written frames frame.before).length
        (.loopStart (some (written (frame :: frames) body ++
          [Instruction.loopEnd (written frames frame.before).length]).length)) =
      written frames (.loop body.reverse :: frame.before) := by
  have apart : Apart frame.before.reverse [.loop body.reverse] := by
    intro kind _ stretch rest gathered
    cases gathered
  have added := written_append frames apart
  rw [compile_loop] at added
  change _ = written frames ([.loop body.reverse].reverse ++ frame.before)
  rw [added, written]
  generalize written frames frame.before = outer
  generalize compile body.reverse = inner
  rw [List.append_assoc, List.set_append_right _ _ (Nat.le_refl _), Nat.sub_self, List.cons_append,
    List.set_cons_zero]
  have size : ((outer ++ Instruction.loopStart none ::
      (relocate (outer.length + 1 : Nat) inner ++ [.loopEnd outer.length])).length : Int) =
      ((inner.length + 2 : Nat) : Int) + outer.length := by
    simp only [List.length_append, List.length_cons, length_relocate, List.length_nil]
    omega
  have moved : relocate outer.length (relocate 1 inner) = relocate (outer.length + 1 : Nat) inner := by
    rw [relocate_relocate]
    congr 1
    omega
  rw [size]
  simp only [relocate, List.map_cons, List.map_append, List.map_nil, Instruction.relocate] at moved ⊢
  rw [moved, Int.zero_add]

end Tree

end TapeLang
