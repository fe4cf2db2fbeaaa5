import TapeLang.Program.Parse

/-!
Bracket trees and token sequences determine each other. A forest is written out as tokens in reading
order; building succeeds exactly on the written forms, and gives back the forest that was written. So
the forest of a source in normal mode, or of one without markers in any mode, is the one whose written form
is the operators of the source.
-/

namespace TapeLang

def Atom.IsOperator : Atom → Prop
  | .command _ => False
  | .mark => False
  | _ => True

namespace Tree

mutual

theorem trees_induction_cons {motive : List (Tree Leaf) → Prop} (nil : motive [])
    (leaf : ∀ leaf rest, motive rest → motive (.leaf leaf :: rest))
    (loop : ∀ body rest, motive body → motive rest → motive (.loop body :: rest))
    (tree : Tree Leaf) (rest : List (Tree Leaf)) (later : motive rest) : motive (tree :: rest) := by
  cases tree with
  | leaf value => exact leaf value rest later
  | loop body => exact loop body rest (trees_induction nil leaf loop body) later

/-- Induction on forests: on what follows the first tree, and on the body when that is a loop. -/
@[elab_as_elim]
theorem trees_induction {motive : List (Tree Leaf) → Prop} (nil : motive [])
    (leaf : ∀ leaf rest, motive rest → motive (.leaf leaf :: rest))
    (loop : ∀ body rest, motive body → motive rest → motive (.loop body :: rest))
    (trees : List (Tree Leaf)) : motive trees := by
  cases trees with
  | nil => exact nil
  | cons tree rest =>
      exact trees_induction_cons nil leaf loop tree rest (trees_induction nil leaf loop rest)

end

mutual

def tokensOne : Tree Atom → List Token
  | .leaf atom => [.atom atom]
  | .loop body => .opening :: (tokens body ++ [.closing])

def tokens : List (Tree Atom) → List Token
  | [] => []
  | tree :: rest => tokensOne tree ++ tokens rest

end

@[simp] theorem tokens_append (front back : List (Tree Atom)) :
    tokens (front ++ back) = tokens front ++ tokens back := by
  induction front with
  | nil => rfl
  | cons tree rest ih => rw [List.cons_append, tokens, tokens, ih, List.append_assoc]

theorem tokens_reverse_cons (tree : Tree Atom) (body : List (Tree Atom)) :
    tokens (tree :: body).reverse = tokens body.reverse ++ tokensOne tree := by
  rw [List.reverse_cons, tokens_append, tokens, tokens, List.append_nil]

/-- What building has read when it holds the given open loops and the given part of the innermost
body. -/
def readTokens : List Frame → List (Tree Atom) → List Token
  | [], body => tokens body.reverse
  | frame :: frames, body => readTokens frames frame.before ++ .opening :: tokens body.reverse

theorem read_tokens_cons (frames : List Frame) (tree : Tree Atom) (body : List (Tree Atom)) :
    readTokens frames (tree :: body) = readTokens frames body ++ tokensOne tree := by
  cases frames with
  | nil => exact tokens_reverse_cons tree body
  | cons frame frames =>
      simp only [readTokens, tokens_reverse_cons, List.append_assoc, List.cons_append]

/-- Building loses nothing: the tokens of its result are those it had read and those it was given. -/
theorem tokens_of_build {frames : List Frame} {body : List (Tree Atom)} {located : List Located}
    {forest : List (Tree Atom)} (built : build frames body located = .ok forest) :
    tokens forest = readTokens frames body ++ located.map (·.token) := by
  fun_induction build frames body located with
  | case1 body =>
      cases built
      simp [readTokens]
  | case2 => cases built
  | case3 frames body offset atom rest ih =>
      rw [ih built, read_tokens_cons, tokensOne, List.append_assoc]
      rfl
  | case4 frames body offset rest ih =>
      rw [ih built, readTokens, List.append_assoc]
      simp [tokens]
  | case5 => cases built
  | case6 frame frames body offset rest ih =>
      rw [ih built, read_tokens_cons, tokensOne]
      simp [readTokens]

theorem build_tokens (trees : List (Tree Atom)) (frames : List Frame) (body : List (Tree Atom))
    (front back : List Located) (written : front.map (·.token) = tokens trees) :
    build frames body (front ++ back) = build frames (trees.reverse ++ body) back := by
  induction trees using trees_induction generalizing frames body front back with
  | nil =>
      have empty : front = [] := List.map_eq_nil_iff.mp written
      rw [empty]
      rfl
  | leaf atom rest ih =>
      obtain ⟨⟨offset, token⟩, later, rfl, same, laterTokens⟩ := List.map_eq_cons_iff.mp written
      cases same
      rw [List.cons_append, build, ih frames _ later back laterTokens, List.reverse_cons,
        List.append_assoc, List.singleton_append]
  | loop inner rest inside ih =>
      rw [tokens, tokensOne, List.cons_append, List.append_assoc] at written
      obtain ⟨⟨offset, token⟩, tail, rfl, opens, tailTokens⟩ := List.map_eq_cons_iff.mp written
      obtain ⟨innerFront, last, rfl, innerTokens, lastTokens⟩ := List.map_eq_append_iff.mp tailTokens
      obtain ⟨⟨closingOffset, closingToken⟩, later, rfl, closes, laterTokens⟩ :=
        List.map_eq_cons_iff.mp lastTokens
      cases opens
      cases closes
      rw [List.cons_append, List.append_assoc, build, inside _ [] innerFront _ innerTokens,
        List.append_nil, List.cons_append, build, List.reverse_reverse,
        ih frames _ later back laterTokens, List.reverse_cons, List.append_assoc,
        List.singleton_append]

theorem of_tokens_eq_ok_iff (located : List Located) (forest : List (Tree Atom)) :
    ofTokens located = .ok forest ↔ tokens forest = located.map (·.token) := by
  constructor
  · intro built
    exact tokens_of_build built
  · intro written
    have read := build_tokens forest [] [] located [] written.symm
    rw [List.append_nil, List.append_nil] at read
    rw [ofTokens, read, build, List.reverse_reverse]

theorem tokens_injective {first second : List (Tree Atom)} (same : tokens first = tokens second) :
    first = second := by
  have read (forest : List (Tree Atom)) :
      ofTokens ((tokens forest).map (Located.mk 0)) = .ok forest := by
    rw [of_tokens_eq_ok_iff, List.map_map]
    exact (List.map_id _).symm
  have built := read first
  rw [same] at built
  exact Except.ok.inj (built.symm.trans (read second))

end Tree

namespace Token

def ofChar? : Char → Option Token
  | '+' => some (.atom (.counted .increment))
  | '-' => some (.atom (.counted .decrement))
  | '<' => some (.atom (.counted .shiftLeft))
  | '>' => some (.atom (.counted .shiftRight))
  | '.' => some (.atom .output)
  | ',' => some (.atom .input)
  | '[' => some .opening
  | ']' => some .closing
  | _ => none

def operators (source : Bytes) : List Token :=
  source.filterMap fun byte => ofChar? (Char.ofNat byte.toNat)

theorem operators_eq (source : Bytes) : operators source = source.filterMap ofByte? := by
  have each : ∀ code : Fin 256, ofByte? (.ofFin code) = ofChar? (Char.ofNat code) := by
    decide +kernel
  have same : (fun byte : UInt8 => ofChar? (Char.ofNat byte.toNat)) = ofByte? := by
    funext byte
    exact (each byte.toFin).symm
  rw [operators, same]

theorem is_operator_of_operators {source : Bytes} {atom : Atom}
    (written : Token.atom atom ∈ operators source) : atom.IsOperator := by
  rw [operators_eq] at written
  obtain ⟨byte, -, found⟩ := List.mem_filterMap.mp written
  unfold ofByte? at found
  repeat' split at found
  all_goals cases found
  all_goals trivial

theorem scan_plain_tokens (start : Nat) (source : Bytes) :
    (scan .plain start source).map (·.token) = operators source := by
  rw [operators_eq, scan]
  induction source generalizing start with
  | nil => rfl
  | cons byte rest ih =>
      rw [scanFrom]
      by_cases marks : byte = marker
      · subst marks
        exact ih (start + 1)
      · rw [if_neg marks]
        cases operator : ofByte? byte with
        | none => rw [List.filterMap_cons_none operator, ← ih (start + 1)]
        | some token =>
            rw [List.filterMap_cons_some operator, ← ih (start + 1)]
            rfl

theorem operators_append (front back : Bytes) :
    operators (front ++ back) = operators front ++ operators back :=
  List.filterMap_append

theorem scan_from_unmarked (dialect : Dialect) (start : Nat) {byte : UInt8} (plain : byte ≠ marker)
    (rest : Bytes) :
    scanFrom dialect none start (byte :: rest) =
      match ofByte? byte with
      | some token => ⟨start, token⟩ :: scanFrom dialect none (start + 1) rest
      | none => scanFrom dialect none (start + 1) rest := by
  cases dialect <;> exact if_neg plain

theorem scan_unmarked_tokens (dialect : Dialect) (start : Nat) {source : Bytes}
    (unmarked : marker ∉ source) :
    (scan dialect start source).map (·.token) = operators source := by
  rw [operators_eq, scan]
  induction source generalizing start with
  | nil => rfl
  | cons byte rest ih =>
      rw [List.mem_cons, not_or] at unmarked
      rw [scan_from_unmarked dialect start (Ne.symm unmarked.1)]
      cases operator : ofByte? byte with
      | none => rw [List.filterMap_cons_none operator, ← ih (start + 1) unmarked.2]
      | some token =>
          rw [List.filterMap_cons_some operator, ← ih (start + 1) unmarked.2]
          rfl

end Token

/-- A source is accepted exactly when its tokens have a forest, and its program is compiled from
that. -/
theorem parse_eq_ok_iff (source : Bytes) (file : String) (mode : Mode)
    (program : List Instruction) :
    parse source file mode = .ok program ↔
      ∃ forest, Tree.tokens forest = (Token.scan mode.dialect 0 source).map (·.token) ∧
        program = Tree.compile forest := by
  unfold parse compileTokens
  constructor
  · intro accepted
    cases built : Tree.ofTokens (Token.scan mode.dialect 0 source) with
    | error fault =>
        rw [built] at accepted
        cases accepted
    | ok forest =>
        rw [built] at accepted
        cases accepted
        exact ⟨forest, (Tree.of_tokens_eq_ok_iff _ _).mp built, rfl⟩
  · intro built
    rcases built with ⟨forest, written, rfl⟩
    rw [(Tree.of_tokens_eq_ok_iff _ _).mpr written]
    rfl

theorem parse_unmarked_iff {source : Bytes} (unmarked : Token.marker ∉ source) (file : String)
    (mode : Mode) (program : List Instruction) :
    parse source file mode = .ok program ↔
      ∃ forest, Tree.tokens forest = Token.operators source ∧ program = Tree.compile forest := by
  rw [parse_eq_ok_iff, Token.scan_unmarked_tokens _ _ unmarked]

theorem parse_of_operators {source : Bytes} {forest : List (Tree Atom)}
    (written : Tree.tokens forest = Token.operators source) (file : String) :
    parse source file .normal = .ok (Tree.compile forest) := by
  rw [parse_eq_ok_iff]
  refine ⟨forest, ?_, rfl⟩
  rw [written]
  exact (Token.scan_plain_tokens 0 source).symm

/-- The program of a concrete source can be found by evaluation. -/
theorem parse_eq_ok_of_some {source : Bytes} {file : String} {mode : Mode}
    {program : List Instruction} (found : (parse source file mode).toOption = some program) :
    parse source file mode = .ok program := by
  cases result : parse source file mode with
  | ok other =>
      rw [result] at found
      cases found
      rfl
  | error fault =>
      rw [result] at found
      cases found

end TapeLang
