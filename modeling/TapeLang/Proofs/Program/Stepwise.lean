import TapeLang.Proofs.Program.Unfinished

/-!
Parsing call by call. A parser reads its scanner one byte at a time and writes the program as it goes: a run
of equal operators is followed to its end and the byte behind it is put back, a payload is read to its
terminator, and the jump of a loop is filled in when the loop is closed. Although the cursor also moves
backwards, every call brings the end nearer, and what comes out in the end is the parse of what was left of
the source.
-/

namespace TapeLang

/-- What the next byte is read for: to begin an instruction, to go on with equal operators, or to go on with
a payload, whose bytes are kept latest first. -/
inductive Phase where
  | fresh
  | counting (kind : Counted) (count : Nat)
  | payload (reversed : Bytes)

structure OpenLoop where
  start : Nat
  offset : Nat

/-- A parse in progress, with the open loops innermost first. -/
structure Parsing where
  scanner : Scanner
  program : List Instruction := []
  opened : List OpenLoop := []
  phase : Phase := .fresh

namespace Parsing

abbrev Outcome := Except SyntaxFault (List Instruction) × Scanner

def write (parsing : Parsing) (instruction : Instruction) : Parsing :=
  { parsing with program := parsing.program ++ [instruction], phase := .fresh }

def shut (parsing : Parsing) (loop : OpenLoop) (others : List OpenLoop) : Parsing :=
  let program := parsing.program ++ [.loopEnd loop.start]
  { parsing with
    program := program.set loop.start (.loopStart (some program.length))
    opened := others }

def take (mode : Mode) (parsing : Parsing) (byte : UInt8) : Parsing ⊕ Outcome :=
  match Token.ofByte? byte with
  | some (.atom (.counted kind)) => .inl { parsing with phase := .counting kind 1 }
  | some (.atom .output) => .inl (parsing.write .output)
  | some (.atom .input) => .inl (parsing.write .input)
  | some .opening =>
    .inl { parsing.write (.loopStart none) with
      opened := ⟨parsing.program.length, parsing.scanner.tokenStart⟩ :: parsing.opened }
  | some .closing =>
    match parsing.opened with
    | [] => .inr (.error (.unmatchedClosing (parsing.scanner.location none)), parsing.scanner)
    | loop :: others => .inl (parsing.shut loop others)
  | _ =>
    if byte = Token.marker ∧ mode = .command then .inl { parsing with phase := .payload [] }
    else .inl parsing

def finish (parsing : Parsing) : Outcome :=
  match parsing.opened with
  | [] => (.ok parsing.program, parsing.scanner)
  | loop :: _ =>
    (.error (.unmatchedOpening (parsing.scanner.location (some loop.offset))), parsing.scanner)

def advance (mode : Mode) (parsing : Parsing) : Parsing ⊕ Outcome :=
  match parsing.phase with
  | .fresh =>
    match parsing.scanner.next with
    | (none, scanner) => .inr (finish { parsing with scanner })
    | (some byte, scanner) => take mode { parsing with scanner } byte
  | .counting kind count =>
    match parsing.scanner.next with
    | (none, scanner) => .inl (write { parsing with scanner } (.counted kind count))
    | (some byte, scanner) =>
      if Token.ofByte? byte = some (.atom (.counted kind)) then
        .inl { parsing with scanner, phase := .counting kind (count + 1) }
      else .inl (write { parsing with scanner := scanner.back } (.counted kind count))
  | .payload reversed =>
    match parsing.scanner.nextByte with
    | (none, scanner) => .inl (write { parsing with scanner } (.command (Text.decode reversed.reverse)))
    | (some byte, scanner) =>
      if byte = Token.terminator then
        .inl (write { parsing with scanner } (.command (Text.decode reversed.reverse)))
      else .inl { parsing with scanner, phase := .payload (byte :: reversed) }

def run (mode : Mode) : Nat → Parsing → Option Outcome
  | 0, _ => none
  | calls + 1, parsing =>
    match parsing.advance mode with
    | .inl next => run mode calls next
    | .inr outcome => some outcome

/-- More calls than this are never made. A byte can be read twice, when it ends a run of operators. -/
def calls (parsing : Parsing) : Nat :=
  2 * (parsing.scanner.source.length - parsing.scanner.cursor) + 1 +
    match parsing.phase with
    | .fresh => 0
    | _ => 1

end Parsing

namespace Tree

def openLoops : List Frame → List OpenLoop
  | [] => []
  | frame :: frames => ⟨(written frames frame.before).length, frame.offset⟩ :: openLoops frames

end Tree

namespace Token

theorem operator_of_byte {byte : UInt8} {atom : Atom} (written : ofByte? byte = some (.atom atom)) :
    atom.IsOperator := by
  have found : Token.atom atom ∈ operators [byte] := by
    rw [operators_eq, List.filterMap_cons_some written]
    exact List.mem_cons_self
  exact is_operator_of_operators found

theorem scan_from_payload_ne_nil (dialect : Dialect) (payload : Payload) (offset : Nat) (source : Bytes) :
    scanFrom dialect (some payload) offset source ≠ [] := by
  intro empty
  have tokens := scan_from_payload dialect payload offset source
  rw [empty] at tokens
  cases tokens

end Token

namespace Scanner

variable {scanner : Scanner}

theorem scan_skipped (scanner : Scanner) (mode : Mode) (offset : Nat) (rest : Bytes) {skipped : Bytes}
    (comments : ∀ byte ∈ skipped, scanner.isToken byte = false) :
    Token.scanFrom (Dialect.of scanner.marks mode) none offset (skipped ++ rest) =
      Token.scanFrom (Dialect.of scanner.marks mode) none (offset + skipped.length) rest := by
  induction skipped generalizing offset with
  | nil => rfl
  | cons byte skipped ih =>
      have later := ih (offset + 1) fun other found => comments other (List.mem_cons_of_mem byte found)
      have comment := comments byte List.mem_cons_self
      simp only [isToken, Bool.or_eq_false_iff, Bool.and_eq_false_iff, beq_eq_false_iff_ne,
        Option.isSome_eq_false_iff, Option.isNone_iff_eq_none] at comment
      rw [List.cons_append, List.length_cons, Nat.add_comm skipped.length 1, ← Nat.add_assoc, ← later]
      by_cases marks : byte = Token.marker
      · subst marks
        have plain : scanner.marks = false := comment.2.resolve_right fun other => other rfl
        rw [plain]
        cases mode <;> rfl
      · rw [Token.scan_from_unmarked _ _ marks, comment.1]

theorem next_cases (mode : Mode) (inside : scanner.cursor ≤ scanner.source.length) :
    (scanner.next = (none, { scanner with cursor := scanner.source.length }) ∧
        Token.scan (Dialect.of scanner.marks mode) scanner.cursor scanner.rest = []) ∨
      ∃ (start : Nat) (byte : UInt8), scanner.cursor ≤ start ∧ start < scanner.source.length ∧
        scanner.isToken byte = true ∧
        scanner.source.drop start = byte :: scanner.source.drop (start + 1) ∧
        scanner.next = (some byte, { scanner with cursor := start + 1, tokenStart := start }) ∧
        Token.scan (Dialect.of scanner.marks mode) scanner.cursor scanner.rest =
          Token.scanFrom (Dialect.of scanner.marks mode) none start
            (byte :: scanner.source.drop (start + 1)) := by
  let comment : UInt8 → Bool := fun byte => !scanner.isToken byte
  let skipped := scanner.rest.takeWhile comment
  have split : skipped ++ scanner.rest.dropWhile comment = scanner.rest :=
    List.takeWhile_append_dropWhile
  have dropped : scanner.rest.drop skipped.length = scanner.rest.dropWhile comment := by
    rw [← split, List.drop_left]
    rw [split]
  have comments : ∀ byte ∈ skipped, scanner.isToken byte = false := by
    intro byte found
    simpa [comment] using List.all_eq_true.mp List.all_takeWhile byte found
  have scanned (rest : Bytes) := scanner.scan_skipped mode scanner.cursor rest comments
  have size : scanner.rest.length = scanner.source.length - scanner.cursor := List.length_drop
  unfold next
  dsimp only
  rw [dropped, Token.scan]
  cases left : scanner.rest.dropWhile comment with
  | nil =>
      rw [left, List.append_nil] at split
      have whole : skipped.length = scanner.source.length - scanner.cursor := by rw [split, size]
      refine .inl ⟨?_, ?_⟩
      · have last : scanner.cursor + skipped.length = scanner.source.length := by omega
        rw [← last]
      · have read := scanned []
        rw [List.append_nil, split] at read
        rw [read, Token.scanFrom]
  | cons byte later =>
      rw [left] at split
      have width : skipped.length < scanner.rest.length := by
        rw [← split, List.length_append, List.length_cons]
        omega
      have here : scanner.source.drop (scanner.cursor + skipped.length) = byte :: later := by
        rw [← List.drop_drop, ← left, ← dropped]
        rfl
      have behind : later = scanner.source.drop (scanner.cursor + skipped.length + 1) := by
        rw [← List.tail_drop, here, List.tail_cons]
      refine .inr ⟨scanner.cursor + skipped.length, byte, by omega, by omega, ?_, ?_, rfl, ?_⟩
      · have stops := List.head?_dropWhile_not comment scanner.rest
        rw [left] at stops
        simpa [comment] using stops
      · rw [← behind, here]
      · rw [← behind, ← scanned, split]

theorem scan_operator (scanner : Scanner) (mode : Mode) {byte : UInt8} {token : Token}
    (operator : Token.ofByte? byte = some token) {start : Nat} {rest : Bytes} :
    Token.scanFrom (Dialect.of scanner.marks mode) none start (byte :: rest) =
      ⟨start, token⟩ :: Token.scan (Dialect.of scanner.marks mode) (start + 1) rest := by
  have plain : byte ≠ Token.marker := by
    rintro rfl
    cases operator
  rw [Token.scan_from_unmarked _ _ plain, operator]
  rfl

theorem scan_token (scanner : Scanner) (mode : Mode) {byte : UInt8} (handed : scanner.isToken byte = true)
    (start : Nat) (rest : Bytes) :
    (∃ token, Token.ofByte? byte = some token) ∨
      Token.ofByte? byte = none ∧ byte = Token.marker ∧
        ((mode = .command ∧ Dialect.of scanner.marks mode = .commands ∧
            Token.scanFrom (Dialect.of scanner.marks mode) none start (byte :: rest) =
              Token.scanFrom .commands (some ⟨start, []⟩) (start + 1) rest) ∨
          (mode = .normal ∧
            Token.scanFrom (Dialect.of scanner.marks mode) none start (byte :: rest) =
              ⟨start, .atom .mark⟩ :: Token.scan (Dialect.of scanner.marks mode) (start + 1) rest)) := by
  cases operator : Token.ofByte? byte with
  | some token => exact .inl ⟨token, rfl⟩
  | none =>
      simp only [isToken, operator, Option.isSome_none, Bool.false_or, Bool.and_eq_true,
        beq_iff_eq] at handed
      obtain ⟨marks, rfl⟩ := handed
      rw [marks]
      cases mode with
      | command => exact .inr ⟨rfl, rfl, .inl ⟨rfl, rfl, rfl⟩⟩
      | normal => exact .inr ⟨rfl, rfl, .inr ⟨rfl, rfl⟩⟩

theorem scan_begins (scanner : Scanner) (mode : Mode) {byte : UInt8} (handed : scanner.isToken byte = true)
    (start : Nat) (rest : Bytes) :
    ∃ first more, Token.scanFrom (Dialect.of scanner.marks mode) none start (byte :: rest) = first :: more ∧
      ∀ kind, first.token = .atom (.counted kind) → Token.ofByte? byte = some (.atom (.counted kind)) := by
  rcases scanner.scan_token mode handed start rest with
    ⟨token, operator⟩ | ⟨-, -, ⟨-, -, payload⟩ | ⟨-, mark⟩⟩
  · refine ⟨_, _, scanner.scan_operator mode operator, ?_⟩
    rintro kind rfl
    exact operator
  · have tokens := Token.scan_from_payload .commands ⟨start, []⟩ (start + 1) rest
    obtain ⟨first, more, begins, same, -⟩ := List.map_eq_cons_iff.mp tokens
    refine ⟨first, more, payload.trans begins, ?_⟩
    intro kind counted
    cases same.symm.trans counted
  · exact ⟨_, _, mark, nofun⟩

def conclude (scanner : Scanner) (tokens : List Located)
    (built : Except BracketFault (List (Tree Atom))) : Parsing.Outcome :=
  ((built.map Tree.compile).mapError (SyntaxFault.ofBracket scanner.file scanner.source),
    { scanner with
      cursor := stopped scanner.source.length built
      tokenStart := lastRead tokens scanner.tokenStart built })

theorem conclude_cons (scanner : Scanner) (token : Located) (tokens : List Located)
    (built : Except BracketFault (List (Tree Atom))) (cursor : Nat) :
    conclude { scanner with cursor, tokenStart := token.offset } tokens built =
      scanner.conclude (token :: tokens) built := by
  have last : ((tokens.getLast?.map (·.offset)).getD token.offset) =
      (((token :: tokens).getLast?.map (·.offset)).getD scanner.tokenStart) := by
    rw [List.getLast?_cons]
    cases tokens.getLast? <;> rfl
  unfold conclude
  cases built with
  | ok forest => simp only [lastRead, last, stopped]
  | error fault =>
      cases fault with
      | unmatchedClosing offset => rfl
      | unmatchedOpening offset => simp only [lastRead, last, stopped]

theorem conclude_moved (scanner : Scanner) {tokens : List Located} (more : tokens ≠ [])
    (built : Except BracketFault (List (Tree Atom))) (cursor tokenStart : Nat) :
    conclude { scanner with cursor, tokenStart } tokens built = scanner.conclude tokens built := by
  cases tokens with
  | nil => exact absurd rfl more
  | cons token tokens => rw [← conclude_cons _ _ _ _ 0, ← conclude_cons _ _ _ _ 0]

end Scanner

namespace Parsing

open TapeLang.Tree (written openLoops)

/-- The outcome that a parse in progress is bound for: that of building the tokens that are left upon what
has been read. In the middle of equal operators, these are read but not yet written. -/
inductive Expects (mode : Mode) : Parsing → Outcome → Prop where
  | fresh {scanner : Scanner} {frames : List Tree.Frame} {body : List (Tree Atom)}
      {tokens : List Located} (inside : scanner.cursor ≤ scanner.source.length)
      (left : Token.scan (Dialect.of scanner.marks mode) scanner.cursor scanner.rest = tokens)
      (apart : ∀ kind, body.head? = some (.leaf (.counted kind)) →
        ∀ token, tokens.head? = some token → token.token ≠ .atom (.counted kind)) :
      Expects mode ⟨scanner, written frames body, openLoops frames, .fresh⟩
        (scanner.conclude tokens (Tree.build frames body tokens))
  | counting {scanner : Scanner} {frames : List Tree.Frame} {before : List (Tree Atom)}
      {tokens : List Located} {kind : Counted} {count : Nat}
      (inside : scanner.cursor ≤ scanner.source.length)
      (left : Token.scan (Dialect.of scanner.marks mode) scanner.cursor scanner.rest = tokens)
      (positive : 1 ≤ count) (apart : before.head? ≠ some (.leaf (.counted kind))) :
      Expects mode ⟨scanner, written frames before, openLoops frames, .counting kind count⟩
        (scanner.conclude tokens
          (Tree.build frames (List.replicate count (.leaf (.counted kind)) ++ before) tokens))
  | payload {scanner : Scanner} {frames : List Tree.Frame} {body : List (Tree Atom)}
      {tokens : List Located} {reversed : Bytes} (inside : scanner.cursor ≤ scanner.source.length)
      (commands : Dialect.of scanner.marks mode = .commands)
      (left : Token.scanFrom .commands (some ⟨scanner.tokenStart, reversed⟩) scanner.cursor
        scanner.rest = tokens) :
      Expects mode ⟨scanner, written frames body, openLoops frames, .payload reversed⟩
        (scanner.conclude tokens (Tree.build frames body tokens))

structure Nearer (mode : Mode) (parsing : Parsing) (outcome : Outcome) (next : Parsing) : Prop where
  advances : parsing.advance mode = .inl next
  fewer : next.calls < parsing.calls
  expects : next.Expects mode outcome

section Advance

variable {mode : Mode} {scanner : Scanner} {frames : List Tree.Frame} {body : List (Tree Atom)}

theorem finish_expected :
    finish ⟨{ scanner with cursor := scanner.source.length }, written frames body, openLoops frames, .fresh⟩ =
      scanner.conclude [] (Tree.build frames body []) := by
  cases frames with
  | nil => rfl
  | cons frame frames => rfl

theorem expects_behind_atom {start : Nat} (inside : start < scanner.source.length) (atom : Atom)
    (uncounted : ∀ kind, atom ≠ .counted kind) {tokens : List Located}
    (left : Token.scan (Dialect.of scanner.marks mode) (start + 1) (scanner.source.drop (start + 1)) =
      tokens) :
    Expects mode
      ⟨{ scanner with cursor := start + 1, tokenStart := start },
        written frames body ++ Stretch.instructions ⟨atom, 1⟩, openLoops frames, .fresh⟩
      (scanner.conclude (⟨start, .atom atom⟩ :: tokens)
        (Tree.build frames body (⟨start, .atom atom⟩ :: tokens))) := by
  rw [← Tree.written_atom frames body uncounted, ← scanner.conclude_cons _ _ _ (start + 1), Tree.build]
  refine .fresh inside left ?_
  intro kind same
  cases same
  exact absurd rfl (uncounted kind)

/-- A byte that begins an instruction either ends the parse or brings it nearer to its end. -/
theorem take_expected {start : Nat} {byte : UInt8} {tokens : List Located}
    (inside : start < scanner.source.length) (handed : scanner.isToken byte = true)
    (left : Token.scanFrom (Dialect.of scanner.marks mode) none start
      (byte :: scanner.source.drop (start + 1)) = tokens)
    (apart : ∀ kind, body.head? = some (.leaf (.counted kind)) →
      ∀ token, tokens.head? = some token → token.token ≠ .atom (.counted kind)) :
    let read : Parsing := ⟨{ scanner with cursor := start + 1, tokenStart := start }, written frames body,
      openLoops frames, .fresh⟩
    let outcome := scanner.conclude tokens (Tree.build frames body tokens)
    take mode read byte = .inr outcome ∨
      ∃ next, take mode read byte = .inl next ∧ next.scanner = read.scanner ∧ next.Expects mode outcome := by
  intro read outcome
  rcases scanner.scan_token mode handed start (scanner.source.drop (start + 1)) with
    ⟨token, operator⟩ | ⟨none, rfl, payload⟩
  · obtain rfl := left.symm.trans (scanner.scan_operator mode operator)
    unfold take
    rw [operator]
    cases token with
    | atom atom =>
        cases atom with
        | counted kind =>
            refine .inr ⟨_, rfl, rfl, ?_⟩
            dsimp only [outcome]
            rw [← scanner.conclude_cons _ _ _ (start + 1), Tree.build]
            exact .counting inside rfl (Nat.le_refl 1) fun same => apart kind same _ rfl rfl
        | output => exact .inr ⟨_, rfl, rfl, expects_behind_atom inside .output (by simp) rfl⟩
        | input => exact .inr ⟨_, rfl, rfl, expects_behind_atom inside .input (by simp) rfl⟩
        | command payload => exact (Token.operator_of_byte operator).elim
        | mark => exact (Token.operator_of_byte operator).elim
    | opening =>
        refine .inr ⟨_, rfl, rfl, ?_⟩
        dsimp only [outcome]
        rw [← scanner.conclude_cons _ _ _ (start + 1), Tree.build]
        have begun : written (⟨start, body⟩ :: frames) [] = written frames body ++ [.loopStart none] := rfl
        change Expects mode ⟨_, written frames body ++ [.loopStart none],
          openLoops (⟨start, body⟩ :: frames), .fresh⟩ _
        rw [← begun]
        exact .fresh inside rfl (by simp)
    | closing =>
        cases frames with
        | nil => exact .inl rfl
        | cons frame frames =>
            refine .inr ⟨_, rfl, rfl, ?_⟩
            dsimp only [outcome]
            rw [← scanner.conclude_cons _ _ _ (start + 1), Tree.build]
            unfold shut
            dsimp only [read]
            rw [Tree.written_loop]
            exact .fresh inside rfl (by simp)
  -- a marker stands alone: it begins a payload or is written down as a mark
  · unfold take
    rw [none]
    rcases payload with ⟨rfl, commands, scanned⟩ | ⟨rfl, scanned⟩
    · refine .inr ⟨_, rfl, rfl, ?_⟩
      obtain rfl := left.symm.trans scanned
      have more := Token.scan_from_payload_ne_nil .commands ⟨start, []⟩ (start + 1)
        (scanner.source.drop (start + 1))
      dsimp only [outcome]
      rw [← scanner.conclude_moved more _ (start + 1) start]
      exact .payload inside commands rfl
    · refine .inr ⟨_, rfl, rfl, ?_⟩
      obtain rfl := left.symm.trans scanned
      have added := @expects_behind_atom .normal scanner frames body start inside .mark (by simp) _ rfl
      rw [show Stretch.instructions ⟨.mark, 1⟩ = [] from rfl, List.append_nil] at added
      exact added

theorem Expects.advance_fresh {tokens : List Located} (inside : scanner.cursor ≤ scanner.source.length)
    (left : Token.scan (Dialect.of scanner.marks mode) scanner.cursor scanner.rest = tokens)
    (apart : ∀ kind, body.head? = some (.leaf (.counted kind)) →
      ∀ token, tokens.head? = some token → token.token ≠ .atom (.counted kind)) :
    let parsing : Parsing := ⟨scanner, written frames body, openLoops frames, .fresh⟩
    let outcome := scanner.conclude tokens (Tree.build frames body tokens)
    parsing.advance mode = .inr outcome ∨ ∃ next, parsing.Nearer mode outcome next := by
  intro parsing outcome
  rcases scanner.next_cases mode inside with
    ⟨next, none⟩ | ⟨start, byte, behind, within, handed, -, next, scanned⟩
  · obtain rfl := left.symm.trans none
    left
    simp only [advance, parsing, next]
    exact congrArg Sum.inr finish_expected
  · have advances : parsing.advance mode =
        take mode ⟨{ scanner with cursor := start + 1, tokenStart := start }, written frames body,
          openLoops frames, .fresh⟩ byte := by
      simp only [advance, parsing, next]
    rw [advances]
    rcases take_expected within handed (scanned.symm.trans left) apart with
      ended | ⟨following, taken, same, expects⟩
    · exact .inl ended
    · refine .inr ⟨following, advances.trans taken, ?_, expects⟩
      unfold calls
      rw [same]
      dsimp only [parsing]
      cases following.phase <;> dsimp only <;> omega

theorem Expects.advance_counting {tokens : List Located} {kind : Counted} {count : Nat}
    (inside : scanner.cursor ≤ scanner.source.length)
    (left : Token.scan (Dialect.of scanner.marks mode) scanner.cursor scanner.rest = tokens)
    (positive : 1 ≤ count) (apart : body.head? ≠ some (.leaf (.counted kind))) :
    let parsing : Parsing := ⟨scanner, written frames body, openLoops frames, .counting kind count⟩
    let outcome := scanner.conclude tokens
      (Tree.build frames (List.replicate count (.leaf (.counted kind)) ++ body) tokens)
    ∃ next, parsing.Nearer mode outcome next := by
  intro parsing outcome
  have counted := Tree.written_copies frames positive apart
  rcases scanner.next_cases mode inside with
    ⟨next, none⟩ | ⟨start, byte, behind, within, handed, here, next, scanned⟩
  · obtain rfl := left.symm.trans none
    have advances : parsing.advance mode =
        .inl (write { parsing with scanner := { scanner with cursor := scanner.source.length } }
          (.counted kind count)) := by
      simp only [advance, parsing, next]
    refine ⟨_, advances, ?_, ?_⟩
    · simp only [calls, write, parsing]
      omega
    · simp only [write, parsing]
      rw [← counted]
      exact .fresh (Nat.le_refl _) (by simp [Scanner.rest, Token.scan, Token.scanFrom]) (by simp)
  · obtain rfl := scanned.symm.trans left
    by_cases same : Token.ofByte? byte = some (.atom (.counted kind))
    case pos =>
      have advances : parsing.advance mode = .inl { parsing with
          scanner := { scanner with cursor := start + 1, tokenStart := start }
          phase := .counting kind (count + 1) } := by
        simp only [advance, parsing, next, if_pos same]
      refine ⟨_, advances, ?_, ?_⟩
      · simp only [calls, parsing]
        omega
      · dsimp only [outcome, parsing]
        rw [scanner.scan_operator mode same, ← scanner.conclude_cons _ _ _ (start + 1), Tree.build]
        exact .counting within rfl (Nat.le_add_left 1 count) apart
    case neg =>
      -- the byte is put back, so the cursor may stand where it stood before
      have advances : parsing.advance mode =
          .inl (write { parsing with scanner := { scanner with cursor := start, tokenStart := start } }
            (.counted kind count)) := by
        simp only [advance, parsing, next, if_neg same, Scanner.back, Nat.add_sub_cancel]
      refine ⟨_, advances, ?_, ?_⟩
      · simp only [calls, write, parsing]
        omega
      · obtain ⟨token, more, head, other⟩ := scanner.scan_begins mode handed start
          (scanner.source.drop (start + 1))
        dsimp only [outcome, parsing, write]
        rw [← counted, ← scanner.conclude_moved (by rw [head]; exact List.cons_ne_nil _ _) _ start start]
        refine .fresh (Nat.le_of_lt within) (by rw [← here]; rfl) ?_
        intro again found first begins equal
        obtain ⟨rest, rfl⟩ : ∃ rest, count = rest + 1 := ⟨count - 1, by omega⟩
        cases found
        rw [head] at begins
        cases begins
        exact same (other kind equal)

theorem expects_behind_payload {cursor : Nat} (inside : cursor ≤ scanner.source.length)
    (reversed : Bytes) {tokens : List Located}
    (left : Token.scan (Dialect.of scanner.marks mode) cursor (scanner.source.drop cursor) = tokens) :
    Expects mode
      ⟨{ scanner with cursor }, written frames body ++ [.command (Text.decode reversed.reverse)],
        openLoops frames, .fresh⟩
      (scanner.conclude (Token.Payload.token ⟨scanner.tokenStart, reversed⟩ :: tokens)
        (Tree.build frames body (Token.Payload.token ⟨scanner.tokenStart, reversed⟩ :: tokens))) := by
  have uncounted (kind : Counted) : Atom.command reversed.reverse ≠ .counted kind := by simp
  have added := Tree.written_atom frames body uncounted
  rw [← scanner.conclude_cons _ _ _ cursor, Token.Payload.token, Tree.build]
  change Expects mode ⟨{ scanner with cursor }, written frames body ++
    Stretch.instructions ⟨.command reversed.reverse, 1⟩, openLoops frames, .fresh⟩ _
  rw [← added]
  exact .fresh inside left (by simp)

theorem Expects.advance_payload {tokens : List Located} {reversed : Bytes}
    (inside : scanner.cursor ≤ scanner.source.length)
    (commands : Dialect.of scanner.marks mode = .commands)
    (left : Token.scanFrom .commands (some ⟨scanner.tokenStart, reversed⟩) scanner.cursor
      scanner.rest = tokens) :
    let parsing : Parsing := ⟨scanner, written frames body, openLoops frames, .payload reversed⟩
    let outcome := scanner.conclude tokens (Tree.build frames body tokens)
    ∃ next, parsing.Nearer mode outcome next := by
  intro parsing outcome
  subst left
  cases here : scanner.rest with
  | nil =>
      have advances : parsing.advance mode =
          .inl (write parsing (.command (Text.decode reversed.reverse))) := by
        simp only [advance, Scanner.nextByte, parsing, here]
      refine ⟨_, advances, ?_, ?_⟩
      · simp only [calls, write, parsing]
        omega
      · dsimp only [outcome]
        rw [here, Token.scanFrom]
        exact expects_behind_payload inside reversed (by rw [← Scanner.rest, here]; rfl)
  | cons byte rest =>
      have size : (byte :: rest).length = scanner.source.length - scanner.cursor := by
        rw [← here]
        exact List.length_drop
      have more : scanner.cursor + 1 ≤ scanner.source.length := by
        rw [List.length_cons] at size
        omega
      have behind : scanner.source.drop (scanner.cursor + 1) = rest := by
        rw [← List.tail_drop, ← Scanner.rest, here, List.tail_cons]
      by_cases ends : byte = Token.terminator
      case pos =>
        have advances : parsing.advance mode =
            .inl (write { parsing with scanner := { scanner with cursor := scanner.cursor + 1 } }
              (.command (Text.decode reversed.reverse))) := by
          simp only [advance, Scanner.nextByte, parsing, here, if_pos ends]
        refine ⟨_, advances, ?_, ?_⟩
        · simp only [calls, write, parsing]
          omega
        · dsimp only [outcome]
          rw [here, Token.scanFrom, if_pos ends]
          exact expects_behind_payload more reversed (by rw [behind, commands]; rfl)
      case neg =>
        have advances : parsing.advance mode = .inl { parsing with
            scanner := { scanner with cursor := scanner.cursor + 1 }
            phase := .payload (byte :: reversed) } := by
          simp only [advance, Scanner.nextByte, parsing, here, if_neg ends]
        refine ⟨_, advances, ?_, ?_⟩
        · simp only [calls, parsing]
          omega
        · dsimp only [outcome, parsing]
          rw [here, Token.scanFrom, if_neg ends, ← behind]
          exact .payload more commands rfl

end Advance

/-- One call ends the parse with the outcome that it is bound for, or brings it nearer. -/
theorem Expects.advance {mode : Mode} {parsing : Parsing} {outcome : Outcome}
    (expects : parsing.Expects mode outcome) :
    parsing.advance mode = .inr outcome ∨ ∃ next, parsing.Nearer mode outcome next := by
  cases expects with
  | fresh inside left apart => exact advance_fresh inside left apart
  | counting inside left positive apart => exact .inr (advance_counting inside left positive apart)
  | payload inside commands left => exact .inr (advance_payload inside commands left)

/-- So the outcome is reached, and with no more calls than were foreseen. -/
theorem Expects.run {mode : Mode} {parsing : Parsing} {outcome : Outcome}
    (expects : parsing.Expects mode outcome) {calls : Nat} (enough : parsing.calls ≤ calls) :
    parsing.run mode calls = some outcome := by
  induction calls generalizing parsing with
  | zero =>
      unfold Parsing.calls at enough
      omega
  | succ calls ih =>
      rw [Parsing.run]
      rcases expects.advance with ended | ⟨next, nearer⟩
      · rw [ended]
      · rw [nearer.advances]
        exact ih nearer.expects (by have := nearer.fewer; omega)

end Parsing

end TapeLang
