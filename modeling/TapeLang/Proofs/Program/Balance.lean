import Mathlib.Data.Nat.Find
import TapeLang.Proofs.Program.Brackets
import TapeLang.Proofs.Source.Location

/-!
Which sources are accepted, and which bracket is blamed for the others. The brackets of a source are
counted byte by byte, without those in payloads. A source is accepted exactly when they balance. The
fault is at the first closing bracket that closes nothing or else, when brackets stay open, at the last
opening bracket that has no partner.
-/

namespace TapeLang.Brackets

def openingByte : UInt8 := 91

def closingByte : UInt8 := 93

/-- The index stands in the payload of a command: there is a marker before it, and no terminator since
then. -/
def inPayload (mode : Mode) (source : Bytes) (index : Nat) : Bool :=
  mode == .command &&
    ((source.take index).reverse.takeWhile (· != Token.terminator)).contains Token.marker

def turn (mode : Mode) (source : Bytes) (index : Nat) : Int :=
  if inPayload mode source index then 0
  else if source[index]? = some openingByte then 1
  else if source[index]? = some closingByte then -1
  else 0

def depth (mode : Mode) (source : Bytes) : Nat → Int
  | 0 => 0
  | count + 1 => depth mode source count + turn mode source count

def NeverBelow (mode : Mode) (source : Bytes) : Prop :=
  ∀ count ≤ source.length, 0 ≤ depth mode source count

structure Balanced (mode : Mode) (source : Bytes) : Prop where
  neverBelow : NeverBelow mode source
  level : depth mode source source.length = 0

instance (mode : Mode) (source : Bytes) : Decidable (NeverBelow mode source) :=
  inferInstanceAs (Decidable (∀ count ≤ source.length, 0 ≤ depth mode source count))

instance (mode : Mode) (source : Bytes) : Decidable (Balanced mode source) :=
  decidable_of_iff (NeverBelow mode source ∧ depth mode source source.length = 0)
    ⟨fun holds => ⟨holds.1, holds.2⟩, fun balanced => ⟨balanced.neverBelow, balanced.level⟩⟩

structure FirstExcess (mode : Mode) (source : Bytes) (index : Nat) : Prop where
  closes : turn mode source index = -1
  below : depth mode source (index + 1) < 0
  before : ∀ count ≤ index, 0 ≤ depth mode source count

/-- The closing bracket is the first behind the opening one to bring the depth back to what it was. -/
structure Partners (mode : Mode) (source : Bytes) (opening closing : Nat) : Prop where
  order : opening < closing
  opens : turn mode source opening = 1
  closes : turn mode source closing = -1
  level : depth mode source (closing + 1) = depth mode source opening
  inside : ∀ count, opening < count → count ≤ closing →
    depth mode source opening < depth mode source count

/-- The opening bracket at the index has no partner, and every one behind it has. -/
structure LastAlone (mode : Mode) (source : Bytes) (index : Nat) : Prop where
  opens : turn mode source index = 1
  alone : ∀ closing, ¬Partners mode source index closing
  last : ∀ later, index < later → turn mode source later = 1 →
    ∃ closing, Partners mode source later closing

section Counting

variable {mode : Mode} {source : Bytes}

theorem turn_past_end {index : Nat} (past : source.length ≤ index) : turn mode source index = 0 := by
  simp [turn, List.getElem?_eq_none past]

theorem lt_length_of_turn {index : Nat} {turned : Int} (turns : turn mode source index = turned)
    (counts : turned ≠ 0) : index < source.length := by
  by_contra past
  exact counts (turns.symm.trans (turn_past_end (Nat.le_of_not_lt past)))

theorem turn_cases (mode : Mode) (source : Bytes) (index : Nat) :
    turn mode source index = 0 ∨ turn mode source index = 1 ∨ turn mode source index = -1 := by
  unfold turn
  split_ifs <;> simp

theorem in_payload_succ {index : Nat} {byte : UInt8} (found : source[index]? = some byte) :
    inPayload mode source (index + 1) =
      if byte = Token.terminator then false
      else if byte = Token.marker then mode == .command
      else inPayload mode source index := by
  have longer : source.take (index + 1) = source.take index ++ [byte] := by
    rw [List.take_add_one, found, Option.toList_some]
  unfold inPayload
  rw [longer, List.reverse_append, List.reverse_singleton, List.singleton_append,
    List.takeWhile_cons]
  by_cases ends : byte = Token.terminator
  · simp [ends]
  · by_cases starts : byte = Token.marker
    · subst starts
      simp [ends]
    · simp [ends, starts, Ne.symm starts]

/-- A bracket that lifts the depth has a partner as soon as the depth is seen again at its level. -/
theorem partner_of_return {opening count : Nat} (opens : turn mode source opening = 1)
    (behind : opening < count) (back : depth mode source count ≤ depth mode source opening) :
    ∃ closing, Partners mode source opening closing := by
  have returns : ∃ count, opening < count ∧ depth mode source count ≤ depth mode source opening :=
    ⟨count, behind, back⟩
  obtain ⟨first, seen⟩ : ∃ first, Nat.find returns = first := ⟨_, rfl⟩
  obtain ⟨after, low⟩ := seen ▸ Nat.find_spec returns
  have above : ∀ earlier, opening < earlier → earlier < first →
      depth mode source opening < depth mode source earlier := by
    intro earlier late early
    by_contra returned
    exact Nat.find_min returns (seen ▸ early) ⟨late, by omega⟩
  obtain ⟨closing, rfl⟩ : ∃ closing, first = closing + 1 := ⟨first - 1, by omega⟩
  have step : depth mode source (closing + 1) =
      depth mode source closing + turn mode source closing := rfl
  have lifted : depth mode source (opening + 1) =
      depth mode source opening + turn mode source opening := rfl
  have order : opening < closing := by
    by_contra reached
    have same : closing = opening := by omega
    rw [same] at low
    omega
  have high := above closing order (Nat.lt_succ_self closing)
  have kinds := turn_cases mode source closing
  refine ⟨closing, order, opens, ?_, ?_, ?_⟩
  · omega
  · omega
  · intro earlier late early
    exact above earlier late (by omega)

end Counting

inductive Pending (mode : Mode) (source : Bytes) : Nat → List Nat → Prop where
  | none {count : Nat} (level : depth mode source count = 0) : Pending mode source count []
  | inner {opening count : Nat} {others : List Nat} (outer : Pending mode source opening others)
      (opens : turn mode source opening = 1) (before : opening < count)
      (level : depth mode source count = depth mode source opening + 1)
      (inside : ∀ earlier, opening < earlier → earlier ≤ count →
        depth mode source opening < depth mode source earlier) :
      Pending mode source count (opening :: others)

namespace Pending

variable {mode : Mode} {source : Bytes} {count opening : Nat} {openings : List Nat}

theorem nonneg (pending : Pending mode source count openings) : 0 ≤ depth mode source count := by
  induction pending with
  | none level => omega
  | inner outer opens before level inside ih => omega

theorem skip (pending : Pending mode source count openings)
    (still : turn mode source count = 0) : Pending mode source (count + 1) openings := by
  have step : depth mode source (count + 1) = depth mode source count + turn mode source count := rfl
  cases pending with
  | none level => exact .none (by omega)
  | inner outer opens before level inside =>
      refine .inner outer opens (by omega) (by omega) ?_
      intro earlier late early
      rcases Nat.lt_or_eq_of_le early with sooner | rfl
      · exact inside earlier late (by omega)
      · omega

theorem push (pending : Pending mode source count openings)
    (opens : turn mode source count = 1) : Pending mode source (count + 1) (count :: openings) := by
  have step : depth mode source (count + 1) = depth mode source count + turn mode source count := rfl
  refine .inner pending opens (Nat.lt_succ_self count) (by omega) ?_
  intro earlier late early
  obtain rfl : earlier = count + 1 := by omega
  omega

theorem pop (pending : Pending mode source count (opening :: openings))
    (closes : turn mode source count = -1) : Pending mode source (count + 1) openings := by
  have step : depth mode source (count + 1) = depth mode source count + turn mode source count := rfl
  cases pending with
  | inner outer opens before level inside =>
      cases outer with
      | none outside => exact .none (by omega)
      | inner further starts sooner outerLevel around =>
          refine .inner further starts (by omega) (by omega) ?_
          intro earlier late early
          rcases Nat.lt_or_ge opening earlier with deep | shallow
          · rcases Nat.lt_or_eq_of_le early with there | rfl
            · have := inside earlier deep (by omega)
              omega
            · omega
          · exact around earlier late shallow

theorem first_excess (pending : Pending mode source count []) (closes : turn mode source count = -1)
    (enough : ∀ earlier ≤ count, 0 ≤ depth mode source earlier) : FirstExcess mode source count := by
  have step : depth mode source (count + 1) = depth mode source count + turn mode source count := rfl
  cases pending with
  | none level => exact ⟨closes, by omega, enough⟩

/-- What is still open at the end was left without a partner, and nothing behind it was. -/
theorem last_alone (pending : Pending mode source source.length (opening :: openings)) :
    LastAlone mode source opening := by
  cases pending with
  | inner outer opens before level inside =>
      refine ⟨opens, ?_, ?_⟩
      · intro closing partners
        have ends : closing < source.length := lt_length_of_turn partners.closes (by decide)
        have above := inside (closing + 1) (by have := partners.order; omega) (by omega)
        have same := partners.level
        omega
      · intro later behind lifts
        have ends : later < source.length := lt_length_of_turn lifts (by decide)
        have above := inside later behind (by omega)
        exact partner_of_return lifts ends (by omega)

end Pending

/-- What the outcome of reading the brackets says about the source. -/
inductive Diagnosed (mode : Mode) (source : Bytes) {Result : Type} :
    Except BracketFault Result → Prop where
  | balanced (result : Result) (balanced : Balanced mode source) : Diagnosed mode source (.ok result)
  | closing {index : Nat} (first : FirstExcess mode source index) :
      Diagnosed mode source (.error (.unmatchedClosing index))
  | opening {index : Nat} (enough : NeverBelow mode source) (last : LastAlone mode source index) :
      Diagnosed mode source (.error (.unmatchedOpening index))

section Reading

variable {mode : Mode} {source : Bytes}

theorem turn_of_payload {index : Nat} (inside : inPayload mode source index = true) :
    turn mode source index = 0 := if_pos inside

theorem turn_of_byte {index : Nat} {byte : UInt8} (outside : inPayload mode source index = false)
    (found : source[index]? = some byte) :
    turn mode source index =
      match Token.ofByte? byte with
      | some .opening => 1
      | some .closing => -1
      | _ => 0 := by
  simp only [turn, outside, found, Option.some.injEq, Token.ofByte?]
  by_cases opens : byte = openingByte
  · subst opens
    rfl
  · by_cases closes : byte = closingByte
    · subst closes
      rfl
    · simp only [openingByte, closingByte] at opens closes
      simp only [openingByte, closingByte, opens, closes, if_false, Bool.false_eq_true]
      split_ifs <;> rfl

structure Reads (mode : Mode) (source : Bytes) (payload : Option Token.Payload) (count : Nat)
    (frames : List Tree.Frame) (rest : Bytes) : Prop where
  left : source.drop count = rest
  size : count + rest.length = source.length
  inside : payload.isSome = inPayload mode source count
  pending : Pending mode source count (frames.map (·.offset))
  enough : ∀ earlier ≤ count, 0 ≤ depth mode source earlier

namespace Reads

variable {payload : Option Token.Payload} {count : Nat} {frames : List Tree.Frame} {rest : Bytes}
  {byte : UInt8}

theorem found (reads : Reads mode source payload count frames (byte :: rest)) :
    source[count]? = some byte := by
  rw [← List.head?_drop, reads.left, List.head?_cons]

theorem next (reads : Reads mode source payload count frames (byte :: rest))
    {further : Option Token.Payload} {others : List Tree.Frame}
    (inside : further.isSome = inPayload mode source (count + 1))
    (pending : Pending mode source (count + 1) (others.map (·.offset))) :
    Reads mode source further (count + 1) others rest where
  left := by rw [← List.tail_drop, reads.left, List.tail_cons]
  size := by
    have := reads.size
    rw [List.length_cons] at this
    omega
  inside := inside
  pending := pending
  enough := by
    intro earlier early
    rcases Nat.lt_or_eq_of_le early with sooner | rfl
    · exact reads.enough earlier (by omega)
    · exact pending.nonneg

theorem diagnosed_at_end (reads : Reads mode source payload count frames [])
    (body : List (Tree Atom)) : Diagnosed mode source (Tree.build frames body []) := by
  obtain rfl : count = source.length := reads.size
  have pending := reads.pending
  cases frames with
  | nil =>
      rw [Tree.build]
      cases pending with
      | none level => exact .balanced _ ⟨reads.enough, level⟩
  | cons frame frames =>
      rw [Tree.build]
      exact .opening reads.enough pending.last_alone

theorem start (mode : Mode) (source : Bytes) : Reads mode source none 0 [] source where
  left := rfl
  size := Nat.zero_add _
  inside := by simp [inPayload]
  pending := .none rfl
  enough := by
    intro earlier early
    rw [Nat.le_zero.mp early]
    exact Int.le_refl 0

theorem terminated {begun : Token.Payload}
    (reads : Reads mode source (some begun) count frames (Token.terminator :: rest)) :
    Reads mode source none (count + 1) frames rest := by
  apply reads.next
  · rw [in_payload_succ reads.found]
    rfl
  · exact reads.pending.skip (turn_of_payload reads.inside.symm)

/-- A payload goes on with every other byte, markers included. -/
theorem continued {begun : Token.Payload}
    (reads : Reads mode source (some begun) count frames (byte :: rest))
    (goes : byte ≠ Token.terminator) (longer : Token.Payload) :
    Reads mode source (some longer) (count + 1) frames rest := by
  have inside : inPayload mode source count = true := reads.inside.symm
  have commands : (mode == .command) = true := (Bool.and_eq_true_iff.mp inside).1
  apply reads.next
  · simp [in_payload_succ reads.found, goes, commands, inside]
  · exact reads.pending.skip (turn_of_payload inside)

theorem marked (reads : Reads mode source none count frames (Token.marker :: rest))
    {begun : Option Token.Payload} (starts : begun.isSome = (mode == .command)) :
    Reads mode source begun (count + 1) frames rest := by
  have turns := turn_of_byte reads.inside.symm reads.found
  apply reads.next
  · rw [in_payload_succ reads.found, starts]
    rfl
  · exact reads.pending.skip turns

theorem unmarked (reads : Reads mode source none count frames (byte :: rest))
    (plain : byte ≠ Token.marker) {others : List Tree.Frame}
    (pending : Pending mode source (count + 1) (others.map (·.offset))) :
    Reads mode source none (count + 1) others rest := by
  have outside : inPayload mode source count = false := reads.inside.symm
  apply reads.next _ pending
  simp [in_payload_succ reads.found, plain, outside]

theorem diagnosed (reads : Reads mode source payload count frames rest) (body : List (Tree Atom)) :
    Diagnosed mode source
      (Tree.build frames body (Token.scanFrom mode.dialect payload count rest)) := by
  induction rest generalizing payload count frames body with
  | nil =>
      cases payload with
      | none => exact reads.diagnosed_at_end body
      | some begun =>
          rw [Token.scanFrom, Token.Payload.token, Tree.build]
          exact reads.diagnosed_at_end _
  | cons byte rest ih =>
      cases payload with
      | some begun =>
          rw [Token.scanFrom]
          split
          case isTrue ends =>
            subst ends
            rw [Token.Payload.token, Tree.build]
            exact ih reads.terminated _
          case isFalse goes => exact ih (reads.continued goes _) body
      | none =>
          by_cases marks : byte = Token.marker
          · subst marks
            cases mode with
            | normal => exact ih (reads.marked rfl) body
            | command => exact ih (reads.marked rfl) body
          · have turns := turn_of_byte reads.inside.symm reads.found
            rw [Token.scan_from_unmarked _ _ marks]
            cases stands : Token.ofByte? byte with
            | none =>
                rw [stands] at turns
                exact ih (reads.unmarked marks (reads.pending.skip turns)) body
            | some token =>
                rw [stands] at turns
                cases token with
                | atom atom =>
                    rw [Tree.build]
                    exact ih (reads.unmarked marks (reads.pending.skip turns)) _
                | opening =>
                    have opened : Reads mode source none (count + 1) (⟨count, body⟩ :: frames) rest :=
                      reads.unmarked marks (reads.pending.push turns)
                    rw [Tree.build]
                    exact ih opened _
                | closing =>
                    cases frames with
                    | nil =>
                        rw [Tree.build]
                        exact .closing (reads.pending.first_excess turns reads.enough)
                    | cons frame frames =>
                        rw [Tree.build]
                        exact ih (reads.unmarked marks (reads.pending.pop turns)) _

end Reads

theorem FirstExcess.lt_length {index : Nat} (first : FirstExcess mode source index) :
    index < source.length := lt_length_of_turn first.closes (by decide)

theorem FirstExcess.not_never_below {index : Nat} (first : FirstExcess mode source index) :
    ¬NeverBelow mode source := by
  intro enough
  have := enough (index + 1) first.lt_length
  have := first.below
  omega

theorem LastAlone.lt_length {index : Nat} (last : LastAlone mode source index) :
    index < source.length := lt_length_of_turn last.opens (by decide)

theorem LastAlone.depth_pos {index : Nat} (last : LastAlone mode source index)
    (enough : NeverBelow mode source) : 0 < depth mode source source.length := by
  by_contra level
  have start := enough index (Nat.le_of_lt last.lt_length)
  obtain ⟨closing, partners⟩ := partner_of_return last.opens last.lt_length (by omega)
  exact last.alone closing partners

end Reading

theorem parse_cases (source : Bytes) (file : String) (mode : Mode) :
    ((∃ program, parse source file mode = .ok program) ∧ Balanced mode source) ∨
      (∃ index, FirstExcess mode source index ∧ parse source file mode =
        .error (.unmatchedClosing (Location.ofOffset file source index))) ∨
      ∃ index, NeverBelow mode source ∧ LastAlone mode source index ∧ parse source file mode =
        .error (.unmatchedOpening (Location.ofOffset file source index)) := by
  have diagnosed := (Reads.start mode source).diagnosed []
  unfold parse compileTokens Tree.ofTokens Token.scan
  generalize Tree.build [] [] (Token.scanFrom mode.dialect none 0 source) = built at diagnosed
  cases diagnosed with
  | balanced forest balanced => exact .inl ⟨⟨Tree.compile forest, rfl⟩, balanced⟩
  | closing first => exact .inr (.inl ⟨_, first, rfl⟩)
  | opening enough last => exact .inr (.inr ⟨_, enough, last, rfl⟩)

theorem balanced_of_accepted {source : Bytes} {file : String} {mode : Mode} {program : List Instruction}
    (accepted : parse source file mode = .ok program) : Balanced mode source := by
  rcases parse_cases source file mode with ⟨-, balanced⟩ | ⟨index, -, refused⟩ | ⟨index, -, -, refused⟩
  · exact balanced
  · cases refused.symm.trans accepted
  · cases refused.symm.trans accepted

theorem not_balanced_of_refused {source : Bytes} {file : String} {mode : Mode} {fault : SyntaxFault}
    (refused : parse source file mode = .error fault) : ¬Balanced mode source := by
  intro balanced
  rcases parse_cases source file mode with ⟨⟨program, accepted⟩, -⟩ | ⟨index, first, -⟩ |
    ⟨index, enough, last, -⟩
  · cases refused.symm.trans accepted
  · exact first.not_never_below balanced.neverBelow
  · exact absurd balanced.level (Int.ne_of_gt (last.depth_pos enough))

/-- A source is accepted exactly when its brackets balance. Otherwise the closing bracket that first
makes the count negative is blamed or, when there is none, the last opening bracket without a partner;
the message gives its line and column. -/
theorem parse_blames_bracket (source : Bytes) (file : String) (mode : Mode) :
    ((∃ program, parse source file mode = .ok program) ↔ Balanced mode source) ∧
      ((∃ count ≤ source.length, depth mode source count < 0) →
        ∃ index location, FirstExcess mode source index ∧ location.Names file source index ∧
          parse source file mode = .error (.unmatchedClosing location) ∧
          (SyntaxFault.unmatchedClosing location).message = "Unmatched ']' at " ++ (file ++ ":" ++
            Text.decimal location.line ++ ":" ++ Text.decimal location.column)) ∧
      (NeverBelow mode source → 0 < depth mode source source.length →
        ∃ index location, LastAlone mode source index ∧ location.Names file source index ∧
          parse source file mode = .error (.unmatchedOpening location) ∧
          (SyntaxFault.unmatchedOpening location).message = "Unmatched '[' at " ++ (file ++ ":" ++
            Text.decimal location.line ++ ":" ++ Text.decimal location.column)) := by
  rcases parse_cases source file mode with ⟨accepted, balanced⟩ | ⟨index, first, refused⟩ |
    ⟨index, enough, last, refused⟩
  · have level := balanced.level
    refine ⟨⟨fun _ => balanced, fun _ => accepted⟩, ?_, ?_⟩
    · rintro ⟨count, inside, below⟩
      have := balanced.neverBelow count inside
      omega
    · intro _ above
      omega
  · have names := Location.names_of_offset file (Nat.le_of_lt first.lt_length)
    refine ⟨⟨?_, ?_⟩, fun _ => ⟨index, _, first, names, refused, rfl⟩, ?_⟩
    · rintro ⟨program, accepted⟩
      rw [refused] at accepted
      cases accepted
    · intro balanced
      exact absurd balanced.neverBelow first.not_never_below
    · intro enough
      exact absurd enough first.not_never_below
  · have names := Location.names_of_offset file (Nat.le_of_lt last.lt_length)
    refine ⟨⟨?_, ?_⟩, ?_, fun _ _ => ⟨index, _, last, names, refused, rfl⟩⟩
    · rintro ⟨program, accepted⟩
      rw [refused] at accepted
      cases accepted
    · intro balanced
      have := last.depth_pos enough
      have := balanced.level
      omega
    · rintro ⟨count, inside, below⟩
      have := enough count inside
      omega

/-- Two brackets stay open, and a payload between them holds a closing one; the second is blamed. -/
theorem last_bracket_blamed_behind_payload :
    ∃ (source : Bytes) (index : Nat), source = [43, 91, 10, 43, 43, 35, 93, 59, 91] ∧
      NeverBelow .command source ∧ depth .command source source.length = 2 ∧
      LastAlone .command source index ∧ Location.Names "a" source index ⟨"a", 2, 6⟩ ∧
      parse source "a" .command = .error (.unmatchedOpening ⟨"a", 2, 6⟩) := by
  have enough : NeverBelow .command [43, 91, 10, 43, 43, 35, 93, 59, 91] := by
    unfold NeverBelow
    decide
  obtain ⟨index, location, last, names, refused, -⟩ :=
    (parse_blames_bracket [43, 91, 10, 43, 43, 35, 93, 59, 91] "a" .command).2.2 enough (by decide)
  have shown : parse [43, 91, 10, 43, 43, 35, 93, 59, 91] "a" .command =
      .error (.unmatchedOpening ⟨"a", 2, 6⟩) := rfl
  cases refused.symm.trans shown
  exact ⟨_, index, rfl, enough, by decide, last, names, shown⟩

end TapeLang.Brackets
