import TapeLang.Proofs.Program.Brackets

/-!
The layout of flat programs. A forest that is laid out further on is its layout moved there, and
forests that follow one another are laid out one behind the other; so a layout at any place is known
from the layout at the start. Gathering keeps every count at one or more.
-/

namespace TapeLang

theorem get_relocate (offset : Int) (fragment : List Instruction) (index : Nat) :
    (relocate offset fragment)[index]? = fragment[index]?.map (Instruction.relocate offset) :=
  List.getElem?_map

theorem Stretch.relocate_instructions (offset : Int) (stretch : Stretch) :
    relocate offset stretch.instructions = stretch.instructions := by
  rcases stretch with ⟨atom, count⟩
  cases atom <;> rfl

namespace Tree

inductive Every (property : Leaf → Prop) : List (Tree Leaf) → Prop where
  | nil : Every property []
  | leaf {leaf : Leaf} {rest : List (Tree Leaf)} (here : property leaf)
      (later : Every property rest) : Every property (.leaf leaf :: rest)
  | loop {body rest : List (Tree Leaf)} (inside : Every property body)
      (later : Every property rest) : Every property (.loop body :: rest)

theorem Every.mono {property other : Leaf → Prop} {trees : List (Tree Leaf)}
    (weaker : ∀ leaf, property leaf → other leaf) (every : Every property trees) :
    Every other trees := by
  induction every with
  | nil => exact .nil
  | leaf here _ ih => exact .leaf (weaker _ here) ih
  | loop _ _ inside later => exact .loop inside later

theorem every_of_tokens {property : Atom → Prop} {trees : List (Tree Atom)}
    (written : ∀ atom, Token.atom atom ∈ tokens trees → property atom) : Every property trees := by
  induction trees using trees_induction with
  | nil => exact .nil
  | leaf atom rest ih =>
      apply Every.leaf (written atom (by simp [tokens, tokensOne]))
      apply ih
      intro other found
      exact written other (by simp [tokens, found])
  | loop body rest inside later =>
      apply Every.loop
      · apply inside
        intro other found
        exact written other (by simp [tokens, tokensOne, found])
      · apply later
        intro other found
        exact written other (by simp [tokens, found])

theorem relocate_flatten (offset base : Nat) (trees : List (Tree Stretch)) :
    relocate offset (flatten base trees) = flatten (base + offset) trees := by
  induction trees using trees_induction generalizing base with
  | nil => rfl
  | leaf stretch rest ih =>
      rw [flatten, flatten, flattenOne, flattenOne, relocate_append, stretch.relocate_instructions,
        ih, Nat.add_right_comm]
  | loop body rest inside later =>
      have inner := inside (base + 1)
      have size := congrArg List.length inner
      rw [length_relocate] at size
      have start : base + offset + 1 = base + 1 + offset := by omega
      have past : ((base + (flatten (base + 1) body).length + 2 : Nat) : Int) + (offset : Int) =
          ((base + offset + (flatten (base + 1) body).length + 2 : Nat) : Int) := by omega
      have back : (base : Int) + (offset : Int) = ((base + offset : Nat) : Int) := by omega
      have bracketed : relocate offset (flattenOne base (.loop body)) =
          flattenOne (base + offset) (.loop body) := by
        rw [flattenOne, flattenOne, start, ← inner, length_relocate]
        simp only [relocate, List.map_cons, List.map_append, List.map_nil, Instruction.relocate, past,
          back]
      have length := congrArg List.length bracketed
      rw [length_relocate] at length
      rw [flatten, flatten, relocate_append, bracketed, later, ← length, Nat.add_right_comm]

theorem flatten_eq_relocate (base : Nat) (trees : List (Tree Stretch)) :
    flatten base trees = relocate base (flatten 0 trees) := by
  rw [relocate_flatten base 0 trees, Nat.zero_add]

@[simp] theorem length_flatten (base : Nat) (trees : List (Tree Stretch)) :
    (flatten base trees).length = (flatten 0 trees).length := by
  rw [flatten_eq_relocate, length_relocate]

theorem flatten_one_loop (body : List (Tree Stretch)) :
    flattenOne 0 (.loop body) =
      .loopStart (some ((flatten 0 body).length + 2 : Nat)) ::
        (relocate 1 (flatten 0 body) ++ [.loopEnd 0]) := by
  have moved := flatten_eq_relocate 1 body
  rw [flattenOne, Nat.zero_add, moved, length_relocate]
  rfl

theorem flatten_cons (tree : Tree Stretch) (rest : List (Tree Stretch)) :
    flatten 0 (tree :: rest) =
      flattenOne 0 tree ++ relocate (flattenOne 0 tree).length (flatten 0 rest) := by
  rw [flatten, Nat.zero_add, flatten_eq_relocate]

/-- What a layout consists of: the brackets of the loops and the instructions of the leaves. -/
theorem forall_mem_flatten {property : Instruction → Prop} {trees : List (Tree Stretch)}
    (opening : ∀ target, property (.loopStart target)) (closing : ∀ start, property (.loopEnd start))
    (leaves : Every (fun stretch => ∀ instruction ∈ stretch.instructions, property instruction) trees)
    (base : Nat) : ∀ instruction ∈ flatten base trees, property instruction := by
  induction leaves generalizing base with
  | nil =>
      intro instruction found
      cases found
  | leaf here later ih =>
      intro instruction found
      rw [flatten, flattenOne, List.mem_append] at found
      exact found.elim (here instruction) (ih _ instruction)
  | loop inside later insideHolds laterHolds =>
      intro instruction found
      rw [flatten, flattenOne, List.mem_append, List.mem_cons, List.mem_append,
        List.mem_singleton] at found
      rcases found with (rfl | member | rfl) | member
      · exact opening _
      · exact insideHolds _ instruction member
      · exact closing _
      · exact laterHolds _ instruction member

/-- A stretch that gathering can produce from atoms with a property: its count is at least one, and
is one unless its atom is counted. -/
structure Gathered (property : Atom → Prop) (stretch : Stretch) : Prop where
  atom : property stretch.atom
  positive : 1 ≤ stretch.count
  single : (∃ kind, stretch.atom = .counted kind) ∨ stretch.count = 1

theorem every_gather_atom {property : Atom → Prop} {atom : Atom} (holds : property atom)
    {gathered : List (Tree Stretch)} (every : Every (Gathered property) gathered) :
    Every (Gathered property) (gatherAtom atom gathered) := by
  fun_cases gatherAtom atom gathered with
  | case1 kind stretch rest same =>
      cases every with
      | leaf here later => exact .leaf ⟨holds, by simp, .inl ⟨kind, rfl⟩⟩ later
  | case2 kind stretch rest different => exact .leaf ⟨holds, Nat.le_refl 1, .inr rfl⟩ every
  | case3 atom gathered => exact .leaf ⟨holds, Nat.le_refl 1, .inr rfl⟩ every

theorem every_gather {property : Atom → Prop} {trees : List (Tree Atom)}
    (every : Every property trees) : Every (Gathered property) (gather trees) := by
  induction every with
  | nil => exact .nil
  | leaf here later ih => exact every_gather_atom here ih
  | loop inside later insideHolds laterHolds => exact .loop insideHolds laterHolds

end Tree

end TapeLang
