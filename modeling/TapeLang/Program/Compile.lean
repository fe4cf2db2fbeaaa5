import TapeLang.Program.Instruction
import TapeLang.Program.Tree

/-!
From bracket trees to flat programs. Equal neighbours of a counted kind are first gathered into
stretches; the tree of stretches is then laid out with absolute jumps. A mark yields no instruction
but keeps the stretches on its two sides apart.
-/

namespace TapeLang

/-- Equal atoms that follow one another. Only counted atoms have a count other than one. -/
structure Stretch where
  atom : Atom
  count : Nat
  deriving DecidableEq, Repr

def Stretch.instructions (stretch : Stretch) : List Instruction :=
  match stretch.atom with
  | .counted kind => [.counted kind stretch.count]
  | .output => [.output]
  | .input => [.input]
  | .command payload => [.command (Text.decode payload)]
  | .mark => []

namespace Tree

/-- Puts one atom in front of gathered trees. -/
def gatherAtom (atom : Atom) (gathered : List (Tree Stretch)) : List (Tree Stretch) :=
  match atom, gathered with
  | .counted kind, .leaf stretch :: rest =>
    if stretch.atom = .counted kind then .leaf ⟨.counted kind, stretch.count + 1⟩ :: rest
    else .leaf ⟨.counted kind, 1⟩ :: .leaf stretch :: rest
  | atom, gathered => .leaf ⟨atom, 1⟩ :: gathered

mutual

def gatherOnto : Tree Atom → List (Tree Stretch) → List (Tree Stretch)
  | .leaf atom, gathered => gatherAtom atom gathered
  | .loop body, gathered => .loop (gather body) :: gathered

def gather : List (Tree Atom) → List (Tree Stretch)
  | [] => []
  | tree :: rest => gatherOnto tree (gather rest)

end

mutual

/-- The instructions of a tree that is laid out from index `base` on. -/
def flattenOne (base : Nat) : Tree Stretch → List Instruction
  | .leaf stretch => stretch.instructions
  | .loop body =>
    let inner := flatten (base + 1) body
    .loopStart (some (base + inner.length + 2 : Nat)) :: (inner ++ [.loopEnd base])

def flatten (base : Nat) : List (Tree Stretch) → List Instruction
  | [] => []
  | tree :: rest =>
    let first := flattenOne base tree
    first ++ flatten (base + first.length) rest

end

def compile (trees : List (Tree Atom)) : List Instruction :=
  flatten 0 (gather trees)

end Tree

end TapeLang
