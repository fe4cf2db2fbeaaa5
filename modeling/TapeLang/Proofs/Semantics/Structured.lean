import TapeLang.Proofs.Program.Layout

/-!
The meaning of bracket trees, without instruction indexes and jumps. A run of a forest either completes
or is starved of input; a forest that runs for ever has no run. The meaning is first given one operator
at a time, and then shown to be the same for the gathered forest, whose leaves act by a whole count at
once.
-/

namespace TapeLang

/-- What a program works on: the cells with the pointer in them, the input that is left, and the
output so far. -/
@[ext] structure Config where
  cells : List UInt8
  pointer : Nat
  input : Bytes
  output : Bytes
  inside : pointer < cells.length

namespace Config

def initial (size : Nat) (positive : 1 ≤ size) (input : Bytes) : Config where
  cells := List.replicate size 0
  pointer := 0
  input := input
  output := []
  inside := by
    rw [List.length_replicate]
    exact positive

def current (config : Config) : UInt8 := config.cells.getD config.pointer 0

def put (config : Config) (value : UInt8) : Config :=
  { config with
    cells := config.cells.set config.pointer value
    inside := by simpa using config.inside }

def once (config : Config) : Counted → Config
  | .increment => config.put (config.current + 1)
  | .decrement => config.put (config.current - 1)
  | .shiftLeft =>
    { config with
      pointer := config.pointer - 1
      inside := Nat.lt_of_le_of_lt (Nat.sub_le _ _) config.inside }
  | .shiftRight =>
    if room : config.pointer + 1 < config.cells.length then
      { config with pointer := config.pointer + 1, inside := room }
    else
      { config with
        cells := config.cells ++ [0]
        pointer := config.pointer + 1
        inside := by simpa using config.inside }

def emit (config : Config) : Config :=
  { config with output := config.output ++ [config.current] }

def read (config : Config) : Option Config :=
  match config.input with
  | [] => none
  | byte :: rest => some (put { config with input := rest } byte)

/-- The effect of one operator; there is none when it asks for input that has ended. Commands and marks
are no operators and have no effect here. -/
def act (config : Config) : Atom → Option Config
  | .counted kind => some (config.once kind)
  | .output => some config.emit
  | .input => config.read
  | .command _ => some config
  | .mark => some config

def times (config : Config) (count : Nat) : Counted → Config
  | .increment => config.put (config.current + UInt8.ofNat count)
  | .decrement => config.put (config.current - UInt8.ofNat count)
  | .shiftLeft =>
    { config with
      pointer := config.pointer - count
      inside := Nat.lt_of_le_of_lt (Nat.sub_le _ _) config.inside }
  | .shiftRight =>
    { config with
      cells := config.cells ++ List.replicate (config.pointer + count + 1 - config.cells.length) 0
      pointer := config.pointer + count
      inside := by
        rw [List.length_append, List.length_replicate]
        omega }

def cover (config : Config) (stretch : Stretch) : Option Config :=
  match stretch.atom with
  | .counted kind => some (config.times stretch.count kind)
  | atom => config.act atom

@[simp] theorem current_put (config : Config) (value : UInt8) : (config.put value).current = value := by
  simp [current, put, List.getD_eq_getElem?_getD, config.inside]

@[simp] theorem put_put (config : Config) (first second : UInt8) :
    (config.put first).put second = config.put second := by
  simp [put]

theorem times_one (config : Config) (kind : Counted) : config.times 1 kind = config.once kind := by
  cases kind with
  | increment => rfl
  | decrement => rfl
  | shiftLeft => rfl
  | shiftRight =>
      have inside := config.inside
      simp only [times, once]
      split
      case isTrue room =>
        have none : config.pointer + 1 + 1 - config.cells.length = 0 := by omega
        simp [none]
      case isFalse full =>
        have one : config.pointer + 1 + 1 - config.cells.length = 1 := by omega
        simp [one]

theorem once_times (config : Config) (count : Nat) (kind : Counted) :
    (config.once kind).times count kind = config.times (count + 1) kind := by
  cases kind with
  | increment =>
      have sum : config.current + 1 + UInt8.ofNat count =
          config.current + UInt8.ofNat (count + 1) := by
        rw [UInt8.ofNat_add, UInt8.add_assoc, UInt8.add_comm 1]
        rfl
      simp only [times, once, current_put, put_put, sum]
  | decrement =>
      have difference : config.current - 1 - UInt8.ofNat count =
          config.current - UInt8.ofNat (count + 1) := by
        simp only [UInt8.ofNat_add, UInt8.sub_eq_add_neg, UInt8.neg_add, UInt8.add_assoc]
        rw [UInt8.add_comm (-1)]
        rfl
      simp only [times, once, current_put, put_put, difference]
  | shiftLeft =>
      simp only [times, once, Nat.sub_sub, Nat.add_comm 1 count]
  | shiftRight =>
      have inside := config.inside
      simp only [times, once]
      split
      case isTrue room =>
        have steps : config.pointer + 1 + count = config.pointer + (count + 1) := by omega
        simp only [steps]
      case isFalse full =>
        have steps : config.pointer + 1 + count = config.pointer + (count + 1) := by omega
        have added : config.pointer + (count + 1) + 1 - config.cells.length =
            config.pointer + (count + 1) + 1 - (config.cells.length + 1) + 1 := by omega
        simp only [steps, List.length_append, List.length_singleton, List.append_assoc, added,
          List.replicate_succ, List.singleton_append]

theorem cover_one (config : Config) (atom : Atom) : config.cover ⟨atom, 1⟩ = config.act atom := by
  cases atom with
  | counted kind => exact congrArg some (config.times_one kind)
  | _ => rfl

end Config

inductive Ending where
  | completed
  | starved
  deriving DecidableEq

/-- Running the trees one after another, where the leaves act as given and a loop repeats its body while
the current cell is not zero, comes to an end. -/
inductive Executes (act : Config → Leaf → Option Config) :
    List (Tree Leaf) → Config → Ending → Config → Prop where
  | nil (config : Config) : Executes act [] config .completed config
  | leaf {leaf : Leaf} {rest : List (Tree Leaf)} {before middle after : Config} {ending : Ending}
      (acts : act before leaf = some middle) (later : Executes act rest middle ending after) :
      Executes act (.leaf leaf :: rest) before ending after
  | starve {leaf : Leaf} {rest : List (Tree Leaf)} {config : Config}
      (starved : act config leaf = none) : Executes act (.leaf leaf :: rest) config .starved config
  | skip {body rest : List (Tree Leaf)} {before after : Config} {ending : Ending}
      (zero : before.current = 0) (later : Executes act rest before ending after) :
      Executes act (.loop body :: rest) before ending after
  | again {body rest : List (Tree Leaf)} {before middle after : Config} {ending : Ending}
      (nonzero : before.current ≠ 0) (inside : Executes act body before .completed middle)
      (later : Executes act (.loop body :: rest) middle ending after) :
      Executes act (.loop body :: rest) before ending after
  | broken {body rest : List (Tree Leaf)} {before after : Config} (nonzero : before.current ≠ 0)
      (inside : Executes act body before .starved after) :
      Executes act (.loop body :: rest) before .starved after

namespace Executes

variable {act : Config → Leaf → Option Config} {before after : Config} {ending : Ending}

theorem leaf_iff {leaf : Leaf} {rest : List (Tree Leaf)} :
    Executes act (.leaf leaf :: rest) before ending after ↔
      match act before leaf with
      | some middle => Executes act rest middle ending after
      | none => ending = .starved ∧ after = before := by
  constructor
  · intro executes
    cases executes with
    | leaf acts later => simpa only [acts] using later
    | starve starved => simp only [starved, and_self]
  · intro executes
    cases acts : act before leaf with
    | some middle =>
        rw [acts] at executes
        exact .leaf acts executes
    | none =>
        rw [acts] at executes
        rcases executes with ⟨rfl, rfl⟩
        exact .starve acts

/-- A loop can be exchanged for one whose body does all that its body does, with what follows. -/
theorem exchange_loop {Other : Type} {act' : Config → Other → Option Config}
    {body rest : List (Tree Leaf)} {body' rest' : List (Tree Other)}
    (bodies : ∀ before ending after, Executes act body before ending after →
      Executes act' body' before ending after)
    (rests : ∀ before ending after, Executes act rest before ending after →
      Executes act' rest' before ending after)
    (executes : Executes act (.loop body :: rest) before ending after) :
    Executes act' (.loop body' :: rest') before ending after := by
  -- The rounds of the loop are counted by the derivation, so the forest is kept fixed in it.
  generalize whole : Tree.loop body :: rest = trees at executes
  induction executes with
  | nil => cases whole
  | leaf => cases whole
  | starve => cases whole
  | skip zero later =>
      cases whole
      exact .skip zero (rests _ _ _ later)
  | again nonzero inside _ _ again =>
      cases whole
      exact .again nonzero (bodies _ _ _ inside) (again rfl)
  | broken nonzero inside =>
      cases whole
      exact .broken nonzero (bodies _ _ _ inside)

end Executes

/-- An operator in front of gathered trees acts before them, also when it is counted in with the first
stretch. -/
theorem executes_gather_atom (atom : Atom) (gathered : List (Tree Stretch)) (before after : Config)
    (ending : Ending) :
    Executes Config.cover (Tree.gatherAtom atom gathered) before ending after ↔
      match before.act atom with
      | some middle => Executes Config.cover gathered middle ending after
      | none => ending = .starved ∧ after = before := by
  fun_cases Tree.gatherAtom atom gathered with
  | case1 kind stretch rest same =>
      have first : before.cover ⟨.counted kind, stretch.count + 1⟩ =
          some (before.times (stretch.count + 1) kind) := rfl
      have second : (before.once kind).cover stretch =
          some (before.times (stretch.count + 1) kind) := by
        rw [Config.cover, same]
        exact congrArg some (before.once_times stretch.count kind)
      simp only [Executes.leaf_iff, first, second, Config.act]
  | case2 kind stretch rest different => rw [Executes.leaf_iff, Config.cover_one]
  | case3 atom gathered => rw [Executes.leaf_iff, Config.cover_one]

theorem executes_gather (trees : List (Tree Atom)) (before after : Config) (ending : Ending) :
    Executes Config.cover (Tree.gather trees) before ending after ↔
      Executes Config.act trees before ending after := by
  induction trees using Tree.trees_induction generalizing before ending after with
  | nil =>
      constructor
      · intro executes
        cases executes
        exact .nil before
      · intro executes
        cases executes
        exact .nil before
  | leaf atom rest ih =>
      have gathered := executes_gather_atom atom (Tree.gather rest) before after ending
      rw [Tree.gather, Tree.gatherOnto, gathered, Executes.leaf_iff]
      cases before.act atom with
      | some middle => exact ih middle after ending
      | none => exact Iff.rfl
  | loop body rest inside later =>
      rw [Tree.gather, Tree.gatherOnto]
      constructor
      · exact Executes.exchange_loop (fun before ending after => (inside before after ending).mp)
          fun before ending after => (later before after ending).mp
      · exact Executes.exchange_loop (fun before ending after => (inside before after ending).mpr)
          fun before ending after => (later before after ending).mpr

end TapeLang
