import TapeLang.Proofs.Program.Balance
import TapeLang.Proofs.Program.Stepwise

/-!
What a parse depends on. Tokens and brackets at fault that are found from a cursor on are those of the rest of
the source, moved by the cursor. So a parser that starts anywhere in a source ends, and comes to what parsing
the rest alone comes to; its scanner is left at the end of the source, or behind the closing bracket at
fault.
-/

namespace TapeLang

def Located.moved (distance : Nat) (located : Located) : Located :=
  { located with offset := located.offset + distance }

def BracketFault.moved (distance : Nat) : BracketFault → BracketFault
  | .unmatchedClosing offset => .unmatchedClosing (offset + distance)
  | .unmatchedOpening offset => .unmatchedOpening (offset + distance)

namespace Token

def Payload.moved (distance : Nat) (payload : Payload) : Payload :=
  { payload with start := payload.start + distance }

theorem scan_from_moved (dialect : Dialect) (begun : Option Payload) (offset distance : Nat)
    (source : Bytes) :
    scanFrom dialect (begun.map (.moved distance)) (offset + distance) source =
      (scanFrom dialect begun offset source).map (.moved distance) := by
  induction source generalizing begun offset with
  | nil => cases begun <;> rfl
  | cons byte rest ih =>
      have later (further : Option Payload) := ih further (offset + 1)
      rw [Nat.add_right_comm] at later
      cases begun with
      | some payload =>
          simp only [Option.map_some, scanFrom]
          split
          · exact congrArg (_ :: ·) (later none)
          · exact later (some ⟨payload.start, byte :: payload.reversed⟩)
      | none =>
          by_cases marks : byte = marker
          · subst marks
            cases dialect with
            | plain => exact later none
            | marked => exact congrArg (_ :: ·) (later none)
            | commands => exact later (some ⟨offset, []⟩)
          · rw [Option.map_none, scan_from_unmarked _ _ marks, scan_from_unmarked _ _ marks]
            cases ofByte? byte with
            | none => exact later none
            | some token => exact congrArg (_ :: ·) (later none)

end Token

namespace Tree

def Frame.moved (distance : Nat) (frame : Frame) : Frame :=
  { frame with offset := frame.offset + distance }

theorem build_moved (distance : Nat) (frames : List Frame) (body : List (Tree Atom))
    (tokens : List Located) :
    build (frames.map (.moved distance)) body (tokens.map (.moved distance)) =
      (build frames body tokens).mapError (.moved distance) := by
  fun_induction build frames body tokens with
  | case1 body => rfl
  | case2 frame frames body => rfl
  | case3 frames body offset atom rest ih => simpa only [List.map_cons, Located.moved, build] using ih
  | case4 frames body offset rest ih =>
      simpa only [List.map_cons, Located.moved, Frame.moved, build] using ih
  | case5 body offset rest => rfl
  | case6 frame frames body offset rest ih =>
      simpa only [List.map_cons, Located.moved, Frame.moved, build] using ih

end Tree

namespace Scanner

variable (scanner : Scanner) {mode : Mode}

def restForest (mode : Mode) : Except BracketFault (List (Tree Atom)) :=
  Tree.ofTokens (Token.scan mode.dialect 0 scanner.rest)

theorem of_tokens_left (flag : scanner.marks = (mode == .command)) :
    Tree.ofTokens (Token.scan (Dialect.of scanner.marks mode) scanner.cursor scanner.rest) =
      (scanner.restForest mode).mapError (.moved scanner.cursor) := by
  have moved := Token.scan_from_moved mode.dialect none 0 scanner.cursor scanner.rest
  rw [Option.map_none, Nat.zero_add] at moved
  rw [flag]
  unfold Tree.ofTokens restForest Token.scan
  exact (congrArg (Tree.build [] []) moved).trans (Tree.build_moved scanner.cursor [] [] _)

theorem parse_left (inside : scanner.cursor ≤ scanner.source.length)
    (flag : scanner.marks = (mode == .command)) :
    scanner.parse mode =
      scanner.conclude (Token.scan (Dialect.of scanner.marks mode) scanner.cursor scanner.rest)
        ((scanner.restForest mode).mapError (.moved scanner.cursor)) := by
  unfold parse compileTokens conclude
  dsimp only
  rw [scanner.of_tokens_left flag]
  cases scanner.restForest mode with
  | ok forest => simp only [Except.mapError, Except.map, stopped, lastRead, Nat.max_eq_right inside]
  | error fault =>
      cases fault with
      | unmatchedClosing offset =>
          have behind : scanner.cursor ≤ offset + scanner.cursor + 1 := by omega
          simp only [Except.mapError, Except.map, BracketFault.moved, stopped, lastRead,
            Nat.max_eq_right behind]
      | unmatchedOpening offset =>
          simp only [Except.mapError, Except.map, BracketFault.moved, stopped, lastRead,
            Nat.max_eq_right inside]

/-- The calls of a parser come to its parse, at the latest when every byte was read twice. -/
theorem parsing_run (inside : scanner.cursor ≤ scanner.source.length)
    (flag : scanner.marks = (mode == .command)) {calls : Nat}
    (enough : 2 * scanner.rest.length + 1 ≤ calls) :
    Parsing.run mode calls { scanner } = some (scanner.parse mode) := by
  have expects : Parsing.Expects mode { scanner } (scanner.parse mode) := by
    rw [scanner.parse_left inside flag, ← scanner.of_tokens_left flag]
    exact @Parsing.Expects.fresh mode scanner [] [] _ inside rfl nofun
  refine expects.run ?_
  rw [rest, List.length_drop] at enough
  exact enough

end Scanner

open Brackets (FirstExcess NeverBelow LastAlone)

/-- A parser may start anywhere in its source. It ends, although its scanner also steps back, and comes to
the program of the rest of the source or to a fault of the same kind at the same bracket. Its scanner is then
at the end or, when a closing bracket is at fault, right behind that. -/
theorem parse_loop_ends_with_rest (scanner : Scanner) (mode : Mode) (file : String)
    (inside : scanner.cursor ≤ scanner.source.length) (flag : scanner.marks = (mode == .command)) :
    ∃ outcome : Parsing.Outcome,
      (∀ calls, 2 * scanner.rest.length + 1 ≤ calls →
        Parsing.run mode calls { scanner } = some outcome) ∧
      Reader.parse { scanner, mode } = (outcome.1, { scanner := outcome.2, mode, consumed := true }) ∧
      outcome.2.source = scanner.source ∧
      ((∃ program, parse scanner.rest file mode = .ok program ∧ outcome.1 = .ok program ∧
          outcome.2.cursor = scanner.source.length) ∨
        (∃ index, NeverBelow mode scanner.rest ∧ LastAlone mode scanner.rest index ∧
          parse scanner.rest file mode =
            .error (.unmatchedOpening (.ofOffset file scanner.rest index)) ∧
          outcome.1 =
            .error (.unmatchedOpening (.ofOffset scanner.file scanner.source (index + scanner.cursor : Nat))) ∧
          outcome.2.cursor = scanner.source.length) ∨
        ∃ index, FirstExcess mode scanner.rest index ∧
          parse scanner.rest file mode =
            .error (.unmatchedClosing (.ofOffset file scanner.rest index)) ∧
          outcome.1 =
            .error (.unmatchedClosing (.ofOffset scanner.file scanner.source (index + scanner.cursor : Nat))) ∧
          outcome.2.cursor = index + scanner.cursor + 1) := by
  have diagnosed : Brackets.Diagnosed mode scanner.rest (scanner.restForest mode) :=
    (Brackets.Reads.start mode scanner.rest).diagnosed []
  have apart : parse scanner.rest file mode = ((scanner.restForest mode).map Tree.compile).mapError
      (SyntaxFault.ofBracket file scanner.rest) := rfl
  refine ⟨scanner.parse mode, fun _ enough => scanner.parsing_run inside flag enough, rfl, rfl, ?_⟩
  rw [apart, scanner.parse_left inside flag]
  generalize scanner.restForest mode = forest at diagnosed
  cases diagnosed with
  | balanced forest balanced => exact .inl ⟨Tree.compile forest, rfl, rfl, rfl⟩
  | opening enough last => exact .inr (.inl ⟨_, enough, last, rfl, rfl, rfl⟩)
  | closing first => exact .inr (.inr ⟨_, first, rfl, rfl, rfl⟩)

/-- Read from its fourth byte on, behind a run of operators that is cut in two, a source ends at a closing
bracket behind a payload that holds another. -/
theorem parse_stops_behind_excess_bracket :
    ∃ (scanner : Scanner) (outcome : Parsing.Outcome),
      scanner.source = [91, 43, 43, 43, 43, 32, 43, 35, 93, 59, 45, 93, 46] ∧ scanner.cursor = 3 ∧
      (∀ calls, 21 ≤ calls → Parsing.run .command calls { scanner } = some outcome) ∧
      parse scanner.rest "rest" .command = .error (.unmatchedClosing ⟨"rest", 1, 9⟩) ∧
      outcome.1 = .error (.unmatchedClosing ⟨"whole", 1, 12⟩) ∧ outcome.2.cursor = 12 := by
  let scanner : Scanner :=
    ⟨[91, 43, 43, 43, 43, 32, 43, 35, 93, 59, 45, 93, 46], "whole", true, 3, 0⟩
  obtain ⟨outcome, ends, reads, -, -⟩ :=
    parse_loop_ends_with_rest scanner .command "rest" (by decide) rfl
  have found : outcome = scanner.parse .command := by
    have parsed := congrArg Prod.fst reads
    have left := congrArg (fun read => read.2.scanner) reads
    exact Prod.ext parsed.symm left.symm
  exact ⟨scanner, outcome, rfl, rfl, ends, rfl, by rw [found]; rfl, by rw [found]; rfl⟩

end TapeLang
