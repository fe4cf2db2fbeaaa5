import TapeLang.Proofs.Program.Layout

/-!
Well-formed programs. Every loop start and its loop end name each other, the pairs nest, every count is
at least one, and nothing stands in the program that is no instruction of the language. The property is
kept by placing one program behind another and by putting a program between two brackets, so every
parsed program has it, and so has every program to which parsed fragments were appended.
-/

namespace TapeLang

structure WellFormed (program : List Instruction) : Prop where
  opening : ∀ (index : Nat) (target : Option Int), program[index]? = some (.loopStart target) →
    ∃ past : Nat, target = some (past : Int) ∧ index + 1 < past ∧ past ≤ program.length ∧
      program[past - 1]? = some (.loopEnd index)
  closing : ∀ (index : Nat) (start : Int), program[index]? = some (.loopEnd start) →
    ∃ first : Nat, start = first ∧ first < index ∧
      program[first]? = some (.loopStart (some (index + 1 : Nat)))
  /-- A loop that starts inside another one ends inside it. -/
  nested : ∀ outer inner outerPast innerPast : Nat,
    program[outer]? = some (.loopStart (some (outerPast : Int))) →
    program[inner]? = some (.loopStart (some (innerPast : Int))) →
    outer < inner → inner < outerPast → innerPast < outerPast
  counted : ∀ (index : Nat) (kind : Counted) (count : Nat),
    program[index]? = some (.counted kind count) → 1 ≤ count
  known : ∀ (index : Nat) (text : String), program[index]? ≠ some (.foreign text)

namespace Instruction

def Straight : Instruction → Prop
  | .counted _ count => 1 ≤ count
  | .output => True
  | .input => True
  | .command _ => True
  | _ => False

theorem relocate_eq_loop_start {offset : Int} {instruction : Instruction} {target : Option Int}
    (moved : instruction.relocate offset = .loopStart target) :
    ∃ before, instruction = .loopStart before ∧ target = before.map (· + offset) := by
  cases instruction with
  | loopStart before =>
      cases before with
      | none => cases moved; exact ⟨none, rfl, rfl⟩
      | some before => cases moved; exact ⟨some before, rfl, rfl⟩
  | _ => cases moved

theorem relocate_eq_loop_end {offset : Int} {instruction : Instruction} {start : Int}
    (moved : instruction.relocate offset = .loopEnd start) :
    ∃ before, instruction = .loopEnd before ∧ start = before + offset := by
  cases instruction with
  | loopStart before => cases before <;> cases moved
  | loopEnd before => cases moved; exact ⟨before, rfl, rfl⟩
  | _ => cases moved

theorem relocate_eq_counted {offset : Int} {instruction : Instruction} {kind : Counted}
    {count : Nat} (moved : instruction.relocate offset = .counted kind count) :
    instruction = .counted kind count := by
  cases instruction with
  | loopStart before => cases before <;> cases moved
  | counted _ _ => exact moved
  | _ => cases moved

theorem relocate_eq_foreign {offset : Int} {instruction : Instruction} {text : String}
    (moved : instruction.relocate offset = .foreign text) : instruction = .foreign text := by
  cases instruction with
  | loopStart before => cases before <;> cases moved
  | foreign _ => exact moved
  | _ => cases moved

end Instruction

namespace WellFormed

theorem nil : WellFormed [] where
  opening := by simp
  closing := by simp
  nested := by simp
  counted := by simp
  known := by simp

theorem single {instruction : Instruction} (straight : instruction.Straight) :
    WellFormed [instruction] := by
  have only : ∀ (index : Nat) (other : Instruction), [instruction][index]? = some other →
      instruction = other := by
    intro index other found
    cases index with
    | zero => simpa using found
    | succ index => simp at found
  constructor
  · intro index target found
    rw [only index _ found] at straight
    exact straight.elim
  · intro index start found
    rw [only index _ found] at straight
    exact straight.elim
  · intro outer inner outerPast innerPast found
    rw [only outer _ found] at straight
    exact straight.elim
  · intro index kind count found
    rw [only index _ found] at straight
    exact straight
  · intro index text found
    rw [only index _ found] at straight
    exact straight.elim

variable {front back : List Instruction}

theorem get_append_relocate {index : Nat} {instruction : Instruction}
    (found : (front ++ relocate front.length back)[index]? = some instruction) :
    (index < front.length ∧ front[index]? = some instruction) ∨
      ∃ place before, index = front.length + place ∧ back[place]? = some before ∧
        before.relocate front.length = instruction := by
  rw [List.getElem?_append] at found
  split at found
  case isTrue inFront => exact .inl ⟨inFront, found⟩
  case isFalse inBack =>
    rw [get_relocate] at found
    obtain ⟨before, present, moved⟩ := Option.map_eq_some_iff.mp found
    exact .inr ⟨index - front.length, before, by omega, present, moved⟩

theorem get_append_front {index : Nat} {instruction : Instruction}
    (found : front[index]? = some instruction) :
    (front ++ relocate front.length back)[index]? = some instruction := by
  obtain ⟨inFront, -⟩ := List.getElem?_eq_some_iff.mp found
  rw [List.getElem?_append_left inFront, found]

theorem get_append_back {place : Nat} {instruction : Instruction}
    (found : back[place]? = some instruction) :
    (front ++ relocate front.length back)[front.length + place]? =
      some (instruction.relocate front.length) := by
  rw [List.getElem?_append_right (by omega), Nat.add_sub_cancel_left, get_relocate, found]
  rfl

theorem append (frontWell : WellFormed front) (backWell : WellFormed back) :
    WellFormed (front ++ relocate front.length back) := by
  constructor
  · intro index target found
    rcases get_append_relocate found with ⟨-, atFront⟩ | ⟨place, before, rfl, atBack, moved⟩
    · obtain ⟨past, rfl, inside, bound, closes⟩ := frontWell.opening index target atFront
      refine ⟨past, rfl, inside, ?_, get_append_front closes⟩
      simp only [List.length_append]
      omega
    · obtain ⟨target, rfl, rfl⟩ := Instruction.relocate_eq_loop_start moved
      obtain ⟨past, rfl, inside, bound, closes⟩ := backWell.opening place target atBack
      refine ⟨past + front.length, by simp, by omega, ?_, ?_⟩
      · simp only [List.length_append, length_relocate]
        omega
      · have index : past + front.length - 1 = front.length + (past - 1) := by omega
        have start : (place : Int) + (front.length : Int) = ((front.length + place : Nat) : Int) := by
          omega
        rw [index, get_append_back closes, Instruction.relocate, start]
  · intro index start found
    rcases get_append_relocate found with ⟨-, atFront⟩ | ⟨place, before, rfl, atBack, moved⟩
    · obtain ⟨first, rfl, earlier, opens⟩ := frontWell.closing index start atFront
      exact ⟨first, rfl, earlier, get_append_front opens⟩
    · obtain ⟨start, rfl, rfl⟩ := Instruction.relocate_eq_loop_end moved
      obtain ⟨first, rfl, earlier, opens⟩ := backWell.closing place start atBack
      have past : ((place + 1 : Nat) : Int) + (front.length : Int) =
          ((front.length + place + 1 : Nat) : Int) := by omega
      refine ⟨front.length + first, by omega, by omega, ?_⟩
      rw [get_append_back opens, Instruction.relocate, past]
  -- two loops on different sides of the seam cannot be nested
  · intro outer inner outerPast innerPast outerFound innerFound order inside
    rcases get_append_relocate outerFound with ⟨-, outerFront⟩ | ⟨place, before, rfl, outerBack, moved⟩
    · obtain ⟨past, same, -, bound, -⟩ := frontWell.opening outer _ outerFront
      simp only [Option.some.injEq] at same
      rcases get_append_relocate innerFound with ⟨-, innerFront⟩ | ⟨innerPlace, _, rfl, _, _⟩
      · exact frontWell.nested outer inner outerPast innerPast outerFront innerFront order inside
      · omega
    · rcases get_append_relocate innerFound with
        ⟨inFront, -⟩ | ⟨innerPlace, innerBefore, rfl, innerBack, innerMoved⟩
      · omega
      · obtain ⟨_, rfl, outerEq⟩ := Instruction.relocate_eq_loop_start moved
        obtain ⟨_, rfl, innerEq⟩ := Instruction.relocate_eq_loop_start innerMoved
        obtain ⟨past, rfl, -, -, -⟩ := backWell.opening place _ outerBack
        obtain ⟨innerPast', rfl, -, -, -⟩ := backWell.opening innerPlace _ innerBack
        simp only [Option.map_some, Option.some.injEq] at outerEq innerEq
        have smaller := backWell.nested place innerPlace past innerPast' outerBack innerBack
          (by omega) (by omega)
        omega
  · intro index kind count found
    rcases get_append_relocate found with ⟨-, atFront⟩ | ⟨place, before, rfl, atBack, moved⟩
    · exact frontWell.counted index kind count atFront
    · rw [Instruction.relocate_eq_counted moved] at atBack
      exact backWell.counted place kind count atBack
  · intro index text found
    rcases get_append_relocate found with ⟨-, atFront⟩ | ⟨place, before, rfl, atBack, moved⟩
    · exact frontWell.known index text atFront
    · rw [Instruction.relocate_eq_foreign moved] at atBack
      exact backWell.known place text atBack

theorem get_loop {body : List Instruction} {past : Nat} {index : Nat} {instruction : Instruction}
    (found : (.loopStart (some (past : Int)) ::
      (relocate 1 body ++ [.loopEnd 0]))[index]? = some instruction) :
    (index = 0 ∧ instruction = .loopStart (some (past : Int))) ∨
      (index = body.length + 1 ∧ instruction = .loopEnd 0) ∨
      ∃ place before, index = place + 1 ∧ body[place]? = some before ∧
        before.relocate 1 = instruction := by
  cases index with
  | zero =>
      rw [List.getElem?_cons_zero, Option.some.injEq] at found
      exact .inl ⟨rfl, found.symm⟩
  | succ place =>
      rw [List.getElem?_cons_succ, List.getElem?_append, length_relocate] at found
      split at found
      case isTrue inside =>
        rw [get_relocate] at found
        obtain ⟨before, present, moved⟩ := Option.map_eq_some_iff.mp found
        exact .inr (.inr ⟨place, before, rfl, present, moved⟩)
      case isFalse outside =>
        obtain ⟨bound, value⟩ := List.getElem?_eq_some_iff.mp found
        rw [List.length_singleton] at bound
        have last : place = body.length := by omega
        rw [List.getElem_singleton] at value
        exact .inr (.inl ⟨by omega, value.symm⟩)

theorem get_loop_body {body : List Instruction} {past : Nat} {place : Nat}
    {instruction : Instruction} (found : body[place]? = some instruction) :
    (.loopStart (some (past : Int)) :: (relocate 1 body ++ [.loopEnd 0]))[place + 1]? =
      some (instruction.relocate 1) := by
  obtain ⟨inside, -⟩ := List.getElem?_eq_some_iff.mp found
  rw [List.getElem?_cons_succ, List.getElem?_append_left (by simpa using inside), get_relocate, found]
  rfl

theorem get_loop_end (body : List Instruction) (past : Nat) :
    (.loopStart (some (past : Int)) :: (relocate 1 body ++ [.loopEnd 0]))[body.length + 1]? =
      some (.loopEnd 0) := by
  rw [List.getElem?_cons_succ, List.getElem?_append_right (by simp), length_relocate, Nat.sub_self]
  rfl

theorem loop {body : List Instruction} (bodyWell : WellFormed body) :
    WellFormed (.loopStart (some (body.length + 2 : Nat)) :: (relocate 1 body ++ [.loopEnd 0])) := by
  constructor
  · intro index target found
    rcases get_loop found with ⟨rfl, same⟩ | ⟨-, same⟩ | ⟨place, before, rfl, inside, moved⟩
    · cases same
      refine ⟨body.length + 2, rfl, by omega, by simp, ?_⟩
      exact get_loop_end body (body.length + 2)
    · cases same
    · obtain ⟨target, rfl, rfl⟩ := Instruction.relocate_eq_loop_start moved
      obtain ⟨past, rfl, order, bound, closes⟩ := bodyWell.opening place target inside
      refine ⟨past + 1, by simp, by omega, ?_, ?_⟩
      · simp only [List.length_cons, List.length_append, length_relocate]
        omega
      · have index : past + 1 - 1 = past - 1 + 1 := by omega
        rw [index, get_loop_body closes]
        rfl
  · intro index start found
    rcases get_loop found with ⟨-, same⟩ | ⟨rfl, same⟩ | ⟨place, before, rfl, inside, moved⟩
    · cases same
    · cases same
      exact ⟨0, rfl, by omega, rfl⟩
    · obtain ⟨start, rfl, rfl⟩ := Instruction.relocate_eq_loop_end moved
      obtain ⟨first, rfl, earlier, opens⟩ := bodyWell.closing place start inside
      refine ⟨first + 1, rfl, by omega, ?_⟩
      rw [get_loop_body opens]
      rfl
  · intro outer inner outerPast innerPast outerFound innerFound order inside
    rcases get_loop innerFound with ⟨rfl, -⟩ | ⟨-, same⟩ | ⟨innerPlace, _, rfl, innerIn, innerMoved⟩
    · omega
    · cases same
    · obtain ⟨_, rfl, innerEq⟩ := Instruction.relocate_eq_loop_start innerMoved
      obtain ⟨innerEnd, rfl, -, innerBound, -⟩ := bodyWell.opening innerPlace _ innerIn
      simp only [Option.map_some, Option.some.injEq] at innerEq
      rcases get_loop outerFound with ⟨-, same⟩ | ⟨-, same⟩ | ⟨outerPlace, _, rfl, outerIn, outerMoved⟩
      · simp only [Instruction.loopStart.injEq, Option.some.injEq] at same
        omega
      · cases same
      · obtain ⟨_, rfl, outerEq⟩ := Instruction.relocate_eq_loop_start outerMoved
        obtain ⟨outerEnd, rfl, -, -, -⟩ := bodyWell.opening outerPlace _ outerIn
        simp only [Option.map_some, Option.some.injEq] at outerEq
        have smaller := bodyWell.nested outerPlace innerPlace outerEnd innerEnd outerIn innerIn
          (by omega) (by omega)
        omega
  · intro index kind count found
    rcases get_loop found with ⟨-, same⟩ | ⟨-, same⟩ | ⟨place, before, rfl, inside, moved⟩
    · cases same
    · cases same
    · rw [Instruction.relocate_eq_counted moved] at inside
      exact bodyWell.counted place kind count inside
  · intro index text found
    rcases get_loop found with ⟨-, same⟩ | ⟨-, same⟩ | ⟨place, before, rfl, inside, moved⟩
    · cases same
    · cases same
    · rw [Instruction.relocate_eq_foreign moved] at inside
      exact bodyWell.known place text inside

theorem stretch {stretch : Stretch} (positive : 1 ≤ stretch.count) :
    WellFormed stretch.instructions := by
  rcases stretch with ⟨atom, count⟩
  cases atom with
  | counted kind => exact single positive
  | output => exact single trivial
  | input => exact single trivial
  | command payload => exact single trivial
  | mark => exact nil

/-- The induction is on the forest: a leaf stands alone, a loop brackets its body, and what follows
stands behind. -/
theorem flatten {property : Atom → Prop} {trees : List (Tree Stretch)}
    (every : Tree.Every (Tree.Gathered property) trees) :
    WellFormed (Tree.flatten 0 trees) := by
  induction every with
  | nil => exact nil
  | leaf here later ih =>
      rw [Tree.flatten_cons, Tree.flattenOne]
      exact append (stretch here.positive) ih
  | loop inside later insideWell laterWell =>
      rw [Tree.flatten_cons, Tree.flatten_one_loop]
      exact append (loop insideWell) laterWell

theorem compile (forest : List (Tree Atom)) : WellFormed (Tree.compile forest) := by
  have every : Tree.Every (fun _ => True) forest := Tree.every_of_tokens fun _ _ => trivial
  exact flatten (Tree.every_gather every)

theorem of_parse {source : Bytes} {file : String} {mode : Mode} {program : List Instruction}
    (accepted : parse source file mode = .ok program) : WellFormed program := by
  obtain ⟨forest, -, rfl⟩ := (parse_eq_ok_iff source file mode program).mp accepted
  exact compile forest

end WellFormed

end TapeLang
