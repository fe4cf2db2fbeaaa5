import TapeLang.Proofs.Program.Balance
import TapeLang.Proofs.Program.Canonical

/-!
Sources one behind the other. When the first does not end in the payload of a command, its tokens are read
as if it stood alone and those of the second follow. So two sources that are accepted are accepted
together, and their program is the second program moved behind the first, with one exception: counted
operators of one kind that meet at the seam are counted together, and what follows stands one place
earlier. A canonical program is known from its text, so it is enough that the programs so joined are
canonical and are written out one behind the other.
-/

namespace TapeLang

namespace Token

theorem scan_from_cons {mode : Mode} {begun : Option Payload}
    (commands : begun.isSome = true → mode = .command) (offset : Nat) (byte : UInt8) :
    ∃ (front : List Located) (next : Option Payload),
      next.isSome = (if byte = terminator then false
        else if byte = marker then mode == .command else begun.isSome) ∧
      ∀ rest, scanFrom mode.dialect begun offset (byte :: rest) =
        front ++ scanFrom mode.dialect next (offset + 1) rest := by
  cases begun with
  | some payload =>
      cases commands rfl
      by_cases ends : byte = terminator
      · refine ⟨[payload.token], none, by simp [ends], ?_⟩
        intro rest
        rw [scanFrom, if_pos ends]
        rfl
      · refine ⟨[], some ⟨payload.start, byte :: payload.reversed⟩, by simp [ends], ?_⟩
        intro rest
        rw [scanFrom, if_neg ends]
        rfl
  | none =>
      by_cases marks : byte = marker
      · subst marks
        cases mode with
        | normal => exact ⟨[], none, rfl, fun rest => rfl⟩
        | command => exact ⟨[], some ⟨offset, []⟩, rfl, fun rest => rfl⟩
      · have outside : (none : Option Payload).isSome = (if byte = terminator then false
            else if byte = marker then mode == .command else (none : Option Payload).isSome) := by
          simp [marks]
        cases operator : ofByte? byte with
        | none =>
            refine ⟨[], none, outside, ?_⟩
            intro rest
            rw [scan_from_unmarked _ _ marks, operator]
            rfl
        | some token =>
            refine ⟨[⟨offset, token⟩], none, outside, ?_⟩
            intro rest
            rw [scan_from_unmarked _ _ marks, operator]
            rfl

/-- What is read of a source does not depend on what follows, and a payload is open behind it just when it
ends inside one. The induction adds the bytes at the end, as the index moves on. -/
theorem scan_from_front (mode : Mode) (offset : Nat) (source : Bytes) :
    ∃ (front : List Located) (begun : Option Payload),
      begun.isSome = Brackets.inPayload mode source source.length ∧
      ∀ rest, scanFrom mode.dialect none offset (source ++ rest) =
        front ++ scanFrom mode.dialect begun (offset + source.length) rest := by
  induction source using List.reverseRecOn with
  | nil => exact ⟨[], none, by simp [Brackets.inPayload], fun rest => rfl⟩
  | append_singleton source byte ih =>
      obtain ⟨front, begun, inside, reads⟩ := ih
      have commands : begun.isSome = true → mode = .command := by
        intro begins
        rw [inside, Brackets.inPayload, Bool.and_eq_true] at begins
        exact eq_of_beq begins.1
      obtain ⟨more, next, goesOn, follows⟩ := scan_from_cons commands (offset + source.length) byte
      refine ⟨front ++ more, next, ?_, ?_⟩
      · have last : (source ++ [byte])[source.length]? = some byte := by simp
        have before : Brackets.inPayload mode (source ++ [byte]) source.length =
            Brackets.inPayload mode source source.length := by simp [Brackets.inPayload]
        rw [goesOn, inside, ← before, List.length_append, List.length_singleton,
          Brackets.in_payload_succ last]
      · intro rest
        rw [List.append_assoc, List.singleton_append, reads, follows, List.append_assoc,
          List.length_append, List.length_singleton, Nat.add_assoc]

theorem scan_append {mode : Mode} {first : Bytes}
    (closed : Brackets.inPayload mode first first.length = false) (second : Bytes) :
    (scan mode.dialect 0 (first ++ second)).map (·.token) =
      (scan mode.dialect 0 first).map (·.token) ++ (scan mode.dialect 0 second).map (·.token) := by
  obtain ⟨front, begun, inside, reads⟩ := scan_from_front mode 0 first
  rw [closed] at inside
  obtain rfl : begun = none := by simpa using inside
  have alone : scan mode.dialect 0 first = front := by
    have read := reads []
    rw [List.append_nil, scanFrom, List.append_nil] at read
    exact read
  rw [alone, scan, reads, List.map_append, scan_from_tokens mode.dialect second rfl (0 + first.length) 0]
  rfl

end Token

theorem parse_append {mode : Mode} {first second : Bytes} {firstFile secondFile : String}
    {front back : List Instruction} (closed : Brackets.inPayload mode first first.length = false)
    (frontParsed : parse first firstFile mode = .ok front)
    (backParsed : parse second secondFile mode = .ok back) (file : String) :
    ∃ program, parse (first ++ second) file mode = .ok program ∧
      unparse program = unparse front ++ unparse back := by
  obtain ⟨forest, written, rfl⟩ := (parse_eq_ok_iff _ _ _ _).mp frontParsed
  obtain ⟨behind, follows, rfl⟩ := (parse_eq_ok_iff _ _ _ _).mp backParsed
  refine ⟨Tree.compile (forest ++ behind), (parse_eq_ok_iff _ _ _ _).mpr ⟨_, ?_, rfl⟩, ?_⟩
  · rw [Tree.tokens_append, written, follows, Token.scan_append closed]
  · rw [unparse_compile, unparse_compile, unparse_compile, Tree.tokens_append, Token.spell_append]

theorem Canonical.eq_of_unparse {first second : List Instruction} (firstCanonical : Canonical first)
    (secondCanonical : Canonical second) (same : unparse first = unparse second) : first = second := by
  have parsed := firstCanonical.parse_unparse ""
  rw [same, secondCanonical.parse_unparse ""] at parsed
  exact (Except.ok.inj parsed).symm

theorem Counted.copies_add (kind : Counted) (count more : Nat) :
    kind.copies (count + more) = kind.copies count ++ kind.copies more := by
  induction count with
  | zero => rw [Nat.zero_add, copies, String.empty_append]
  | succ count ih => rw [Nat.add_right_comm, copies, copies, ih, String.append_assoc]

namespace WellFormed

variable {front back : List Instruction} {kind : Counted} {count : Nat}

/-- No jump leads to a counted operator at the end, so it can be left out. -/
theorem of_counted_last (well : WellFormed (front ++ [.counted kind count])) : WellFormed front := by
  have inWhole {index : Nat} {instruction : Instruction} (found : front[index]? = some instruction) :
      (front ++ [.counted kind count])[index]? = some instruction := by
    obtain ⟨inside, -⟩ := List.getElem?_eq_some_iff.mp found
    rw [List.getElem?_append_left inside, found]
  have inFront {index : Nat} {instruction : Instruction}
      (found : (front ++ [.counted kind count])[index]? = some instruction)
      (other : instruction ≠ .counted kind count) : front[index]? = some instruction := by
    rw [List.getElem?_append] at found
    split at found
    case isTrue => exact found
    case isFalse =>
      rw [List.getElem?_singleton] at found
      split at found
      · exact absurd (Option.some.inj found).symm other
      · cases found
  constructor
  · intro index target found
    obtain ⟨past, rfl, order, -, closes⟩ := well.opening index target (inWhole found)
    have ends := inFront closes (by simp)
    obtain ⟨bound, -⟩ := List.getElem?_eq_some_iff.mp ends
    exact ⟨past, rfl, order, by omega, ends⟩
  · intro index start found
    obtain ⟨first, rfl, earlier, opens⟩ := well.closing index start (inWhole found)
    exact ⟨first, rfl, earlier, inFront opens (by simp)⟩
  · intro outer inner outerPast innerPast outerFound innerFound
    exact well.nested outer inner outerPast innerPast (inWhole outerFound) (inWhole innerFound)
  · intro index other times found
    exact well.counted index other times (inWhole found)
  · intro index text found
    exact well.known index text (inWhole found)

theorem recount (well : WellFormed (.counted kind count :: back)) {other : Nat} (positive : 1 ≤ other) :
    WellFormed (.counted kind other :: back) := by
  have same {first second : Nat} {index : Nat} {instruction : Instruction}
      (found : (Instruction.counted kind first :: back)[index]? = some instruction)
      (uncounted : ∀ times, instruction ≠ .counted kind times) :
      (Instruction.counted kind second :: back)[index]? = some instruction := by
    cases index with
    | zero => exact absurd (Option.some.inj found).symm (uncounted first)
    | succ index => exact found
  constructor
  · intro index target found
    obtain ⟨past, rfl, order, bound, closes⟩ := well.opening index target (same found (by simp))
    exact ⟨past, rfl, order, bound, same closes (by simp)⟩
  · intro index start found
    obtain ⟨first, rfl, earlier, opens⟩ := well.closing index start (same found (by simp))
    exact ⟨first, rfl, earlier, same opens (by simp)⟩
  · intro outer inner outerPast innerPast outerFound innerFound
    exact well.nested outer inner outerPast innerPast (same outerFound (by simp))
      (same innerFound (by simp))
  · intro index which times found
    cases index with
    | zero =>
        cases found
        exact positive
    | succ index => exact well.counted (index + 1) which times found
  · intro index text found
    exact well.known index text (same found (by simp))

end WellFormed

namespace Canonical

variable {front back : List Instruction} {kind : Counted} {count more : Nat}

theorem apart_relocate (offset : Int) (apart : back.IsChain Instruction.Apart) :
    (relocate offset back).IsChain Instruction.Apart := by
  unfold relocate
  rw [List.isChain_map]
  apply apart.imp
  intro first second apart which times other firstCounted secondCounted
  exact apart which times other (Instruction.relocate_eq_counted firstCounted)
    (Instruction.relocate_eq_counted secondCounted)

theorem append (frontCanonical : Canonical front) (backCanonical : Canonical back)
    (apart : ∀ last ∈ front.getLast?, ∀ next ∈ back.head?, last.Apart next) :
    Canonical (front ++ relocate front.length back) where
  toWellFormed := frontCanonical.toWellFormed.append backCanonical.toWellFormed
  apart := by
    refine frontCanonical.apart.append (apart_relocate _ backCanonical.apart) ?_
    intro last ends next begins which times other counted same
    rw [relocate, List.head?_map] at begins
    obtain ⟨before, first, rfl⟩ := Option.map_eq_some_iff.mp begins
    exact apart last ends before first which times other counted (Instruction.relocate_eq_counted same)
  closed := by
    intro text found
    rw [List.mem_append, command_mem_relocate] at found
    exact found.elim (frontCanonical.closed text) (backCanonical.closed text)

theorem merge (frontCanonical : Canonical (front ++ [.counted kind count]))
    (backCanonical : Canonical (.counted kind more :: back)) :
    Canonical (front ++ relocate front.length (.counted kind (count + more) :: back)) := by
  obtain ⟨frontApart, -, ends⟩ := List.isChain_append.mp frontCanonical.apart
  obtain ⟨begins, backApart⟩ := List.isChain_cons.mp backCanonical.apart
  have positive := backCanonical.counted 0 kind more rfl
  have counted : Canonical (.counted kind (count + more) :: back) := by
    refine ⟨backCanonical.toWellFormed.recount (by omega), List.isChain_cons.mpr ⟨?_, backApart⟩, ?_⟩
    · intro next found which times other same
      cases same
      exact begins next found kind more other rfl
    · intro text found
      exact backCanonical.closed text (by simpa using found)
  have before : Canonical front := by
    refine ⟨frontCanonical.toWellFormed.of_counted_last, frontApart, ?_⟩
    intro text found
    exact frontCanonical.closed text (List.mem_append_left _ found)
  apply before.append counted
  intro last found next same which times other lastCounted
  cases same
  intro equal
  cases equal
  exact ends last found (.counted kind count) rfl kind times count lastCounted rfl

end Canonical

/-- Sources that are accepted are accepted one behind the other, unless the first ends in a payload. Their
program is the second one moved behind the first, or, when the first ends and the second begins with a
counted operator of the same kind, the two with these operators counted together. -/
theorem parsing_joins_at_seam {mode : Mode} {first second : Bytes} {firstFile secondFile : String}
    {front back : List Instruction} (frontParsed : parse first firstFile mode = .ok front)
    (backParsed : parse second secondFile mode = .ok back)
    (closed : mode = .command → Brackets.inPayload .command first first.length = false)
    (file : String) :
    (∀ kind count more, front.getLast? = some (.counted kind count) →
        back.head? = some (.counted kind more) →
        parse (first ++ second) file mode =
          .ok (front.dropLast ++
            (relocate (front.length - 1) back).set 0 (.counted kind (count + more)))) ∧
      ((¬∃ kind count more, front.getLast? = some (.counted kind count) ∧
          back.head? = some (.counted kind more)) →
        parse (first ++ second) file mode = .ok (front ++ relocate front.length back)) := by
  have outside : Brackets.inPayload mode first first.length = false := by
    cases mode with
    | normal => rfl
    | command => exact closed rfl
  obtain ⟨program, parsed, written⟩ := parse_append outside frontParsed backParsed file
  have canonical := Canonical.of_parse parsed
  have frontCanonical := Canonical.of_parse frontParsed
  have backCanonical := Canonical.of_parse backParsed
  rw [parsed]
  constructor
  · intro kind count more ends begins
    obtain ⟨before, rfl⟩ := List.getLast?_eq_some_iff.mp ends
    obtain ⟨rest, rfl⟩ := List.head?_eq_some_iff.mp begins
    have place : ((before ++ [Instruction.counted kind count]).length : Int) - 1 = before.length := by
      simp
    rw [List.dropLast_concat, place]
    apply congrArg Except.ok
    -- two canonical programs with one spelling are equal, and the spellings only join
    apply canonical.eq_of_unparse (frontCanonical.merge backCanonical)
    rw [written, unparse_append, unparse_append, unparse_relocate]
    simp [unparse, Instruction.spelling, Counted.copies_add, String.append_assoc]
  · intro apart
    apply congrArg Except.ok
    apply canonical.eq_of_unparse (frontCanonical.append backCanonical ?_)
    · rw [written, unparse_append, unparse_relocate]
    · intro last ends next begins kind count more counted same
      subst counted same
      exact apart ⟨kind, count, more, ends, begins⟩

/-- The increments at the seam are counted together although comments stand between them, and the loop
behind them is found one place earlier. -/
theorem increments_join_at_seam :
    parse (Text.encode "#a+;-+a") "" .command =
        .ok [.command "a+", .counted .decrement 1, .counted .increment 1] ∧
      parse (Text.encode "b++[.]") "" .command =
        .ok [.counted .increment 2, .loopStart (some 4), .output, .loopEnd 1] ∧
      Brackets.inPayload .command (Text.encode "#a+;-+a") 7 = false ∧
      parse (Text.encode "#a+;-+a" ++ Text.encode "b++[.]") "" .command =
        .ok [.command "a+", .counted .decrement 1, .counted .increment 3, .loopStart (some 6), .output,
          .loopEnd 3] := by
  have frontParsed : parse (Text.encode "#a+;-+a") "" .command =
      .ok [.command "a+", .counted .decrement 1, .counted .increment 1] := by
    apply parse_eq_ok_of_some
    decide +kernel
  have backParsed : parse (Text.encode "b++[.]") "" .command =
      .ok [.counted .increment 2, .loopStart (some 4), .output, .loopEnd 1] := by
    apply parse_eq_ok_of_some
    decide +kernel
  have closed : Brackets.inPayload .command (Text.encode "#a+;-+a") 7 = false := by decide +kernel
  have joined := (parsing_joins_at_seam frontParsed backParsed (fun _ => closed) "").1
    .increment 1 2 rfl rfl
  exact ⟨frontParsed, backParsed, closed, joined⟩

end TapeLang
