import TapeLang.Source.Token

/-!
The bracket tree of a token sequence. Building it finds the two ways in which brackets can fail to
match: a closing bracket with nothing open, and an opening bracket that is never closed.
-/

namespace TapeLang

inductive Tree (Leaf : Type) where
  | leaf (leaf : Leaf)
  | loop (body : List (Tree Leaf))

inductive BracketFault where
  | unmatchedClosing (offset : Nat)
  | unmatchedOpening (offset : Nat)
  deriving DecidableEq, Repr

namespace Tree

/-- An open loop: the offset of its bracket, and what stands before it at its own level, latest
first. -/
structure Frame where
  offset : Nat
  before : List (Tree Atom)

/-- Builds the tree with the open loops, innermost first, and what has been read of the innermost
body, latest first. -/
def build : List Frame → List (Tree Atom) → List Located → Except BracketFault (List (Tree Atom))
  | [], body, [] => .ok body.reverse
  | frame :: _, _, [] => .error (.unmatchedOpening frame.offset)
  | frames, body, ⟨_, .atom atom⟩ :: rest => build frames (.leaf atom :: body) rest
  | frames, body, ⟨offset, .opening⟩ :: rest => build (⟨offset, body⟩ :: frames) [] rest
  | [], _, ⟨offset, .closing⟩ :: _ => .error (.unmatchedClosing offset)
  | frame :: frames, body, ⟨_, .closing⟩ :: rest =>
    build frames (.loop body.reverse :: frame.before) rest

def ofTokens (tokens : List Located) : Except BracketFault (List (Tree Atom)) :=
  build [] [] tokens

end Tree

end TapeLang
