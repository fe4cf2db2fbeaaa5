import TapeLang.Proofs.Program.Layout
import TapeLang.Proofs.Text.Utf8

/-!
Programs as text. A program is written out operator by operator, without its jumps; a source has a text
too, in which its comments are dropped and the payloads of its commands are read as text. A compiled
program is written out as the tokens it was compiled from, and scanning tokens that were written out gives
the tokens back.
-/

namespace TapeLang

def Counted.copies (kind : Counted) : Nat → String
  | 0 => ""
  | count + 1 => kind.sign ++ kind.copies count

def Instruction.spelling : Instruction → String
  | .counted kind count => kind.copies count
  | .output => "."
  | .input => ","
  | .loopStart _ => "["
  | .loopEnd _ => "]"
  | .command text => "#" ++ text ++ ";"
  | .foreign text => text

def unparse : List Instruction → String
  | [] => ""
  | instruction :: rest => instruction.spelling ++ unparse rest

def operatorCharacters : List Char :=
  ['+', '-', '<', '>', '.', ',', '[', ']']

/-- What is left of a source without its comments: the operators and, where the mode has commands, the
commands, each with its payload up to the terminator, which is added where it is missing. -/
def tokenText (mode : Mode) : Bytes → String
  | [] => ""
  | byte :: rest =>
    if byte = Token.marker ∧ mode = .command then
      "#" ++ Text.decode (rest.takeWhile (· ≠ Token.terminator)) ++ ";" ++
        tokenText mode ((rest.dropWhile (· ≠ Token.terminator)).drop 1)
    else if Char.ofNat byte.toNat ∈ operatorCharacters then
      String.singleton (Char.ofNat byte.toNat) ++ tokenText mode rest
    else tokenText mode rest
  termination_by source => source.length
  decreasing_by
    · have shorter := (List.dropWhile_suffix (· ≠ Token.terminator) (l := rest)).length_le
      simp only [List.length_drop, List.length_cons]
      omega
    · simp
    · simp

namespace Token

def spelling : Token → String
  | .atom (.counted kind) => kind.sign
  | .atom .output => "."
  | .atom .input => ","
  | .atom (.command payload) => "#" ++ Text.decode payload ++ ";"
  | .atom .mark => ""
  | .opening => "["
  | .closing => "]"

def spell : List Token → String
  | [] => ""
  | token :: rest => token.spelling ++ spell rest

@[simp] theorem spell_append (front back : List Token) :
    spell (front ++ back) = spell front ++ spell back := by
  induction front with
  | nil => exact String.empty_append.symm
  | cons token rest ih => rw [List.cons_append, spell, spell, ih, String.append_assoc]

end Token

@[simp] theorem unparse_append (front back : List Instruction) :
    unparse (front ++ back) = unparse front ++ unparse back := by
  induction front with
  | nil => exact String.empty_append.symm
  | cons instruction rest ih => rw [List.cons_append, unparse, unparse, ih, String.append_assoc]

theorem Counted.unmarked_copies (kind : Counted) (count : Nat) : '#' ∉ (kind.copies count).toList := by
  induction count with
  | zero => exact List.not_mem_nil
  | succ count ih =>
      have sign : '#' ∉ kind.sign.toList := by cases kind <;> decide
      rw [copies, String.toList_append, List.mem_append, not_or]
      exact ⟨sign, ih⟩

theorem unmarked_unparse {program : List Instruction} (plain : ∀ text, .command text ∉ program)
    (known : ∀ text, .foreign text ∉ program) : '#' ∉ (unparse program).toList := by
  induction program with
  | nil => exact List.not_mem_nil
  | cons instruction rest ih =>
      have here : '#' ∉ instruction.spelling.toList := by
        cases instruction with
        | counted kind count => exact kind.unmarked_copies count
        | command text => exact absurd List.mem_cons_self (plain text)
        | foreign text => exact absurd List.mem_cons_self (known text)
        | _ => simp [Instruction.spelling]
      rw [unparse, String.toList_append, List.mem_append, not_or]
      refine ⟨here, ih ?_ ?_⟩
      · intro text found
        exact plain text (List.mem_cons_of_mem instruction found)
      · intro text found
        exact known text (List.mem_cons_of_mem instruction found)

theorem unparse_relocate (offset : Int) (program : List Instruction) :
    unparse (relocate offset program) = unparse program := by
  induction program with
  | nil => rfl
  | cons instruction rest ih =>
      have same : (instruction.relocate offset).spelling = instruction.spelling := by
        cases instruction with
        | loopStart target => cases target <;> rfl
        | _ => rfl
      rw [unparse, ← ih, ← same]
      rfl

theorem unparse_flatten (base : Nat) (trees : List (Tree Stretch)) :
    unparse (Tree.flatten base trees) = unparse (Tree.flatten 0 trees) := by
  rw [Tree.flatten_eq_relocate, unparse_relocate]

theorem unparse_flatten_leaf (base : Nat) (stretch : Stretch) (rest : List (Tree Stretch)) :
    unparse (Tree.flatten base (.leaf stretch :: rest)) =
      unparse stretch.instructions ++ unparse (Tree.flatten 0 rest) := by
  rw [Tree.flatten, unparse_append, unparse_flatten (base + _), Tree.flattenOne]

theorem unparse_gather_atom (atom : Atom) (gathered : List (Tree Stretch)) :
    unparse (Tree.flatten 0 (Tree.gatherAtom atom gathered)) =
      (Token.atom atom).spelling ++ unparse (Tree.flatten 0 gathered) := by
  have alone : unparse (Stretch.instructions ⟨atom, 1⟩) = (Token.atom atom).spelling := by
    cases atom with
    | mark => rfl
    | _ => simp [Stretch.instructions, unparse, Instruction.spelling, Token.spelling, Counted.copies]
  fun_cases Tree.gatherAtom atom gathered with
  | case1 kind stretch rest same =>
      rw [unparse_flatten_leaf, unparse_flatten_leaf]
      rcases stretch with ⟨other, count⟩
      cases same
      simp [Stretch.instructions, unparse, Instruction.spelling, Token.spelling, Counted.copies,
        String.append_assoc]
  | case2 kind stretch rest different => rw [unparse_flatten_leaf, alone]
  | case3 atom gathered => rw [unparse_flatten_leaf, alone]

theorem unparse_compile (forest : List (Tree Atom)) :
    unparse (Tree.compile forest) = Token.spell (Tree.tokens forest) := by
  unfold Tree.compile
  induction forest using Tree.trees_induction with
  | nil => rfl
  | leaf atom rest ih =>
      rw [Tree.gather, Tree.gatherOnto, unparse_gather_atom, ih]
      rfl
  | loop body rest inside later =>
      rw [Tree.gather, Tree.gatherOnto, Tree.flatten, unparse_append, unparse_flatten (0 + _), later,
        Tree.flattenOne, unparse, unparse_append, unparse_flatten, inside, Tree.tokens, Tree.tokensOne]
      simp [unparse, Instruction.spelling, Token.spell, Token.spelling, String.append_assoc]

def Atom.Scanned : Atom → Prop
  | .command payload => Token.terminator ∉ payload
  | .mark => False
  | _ => True

def Atom.Legible : Atom → Prop
  | .command payload => Token.terminator ∉ payload ∧ Text.encode (Text.decode payload) = payload
  | .mark => False
  | _ => True

namespace Token

theorem scan_from_tokens (dialect : Dialect) (source : Bytes) {first second : Option Payload}
    (same : first.map (·.reversed) = second.map (·.reversed)) (offset other : Nat) :
    (scanFrom dialect first offset source).map (·.token) =
      (scanFrom dialect second other source).map (·.token) := by
  induction source generalizing first second offset other with
  | nil =>
      cases first <;> cases second <;> simp_all [scanFrom, Payload.token]
  | cons byte rest ih =>
      cases first with
      | some first =>
          cases second with
          | none => cases same
          | some second =>
              have equal : first.reversed = second.reversed := Option.some.inj same
              rw [scanFrom, scanFrom]
              split
              · rw [List.map_cons, List.map_cons, ih rfl (offset + 1) (other + 1)]
                simp only [Payload.token, equal]
              · exact ih (by simp [equal]) _ _
      | none =>
          cases second with
          | some second => cases same
          | none =>
              have later : (scanFrom dialect none (offset + 1) rest).map (·.token) =
                  (scanFrom dialect none (other + 1) rest).map (·.token) := ih rfl _ _
              by_cases marks : byte = marker
              · subst marks
                cases dialect with
                | plain => exact later
                | marked => exact congrArg (Token.atom .mark :: ·) later
                | commands =>
                    have begun : Option.map Payload.reversed (some ⟨offset, []⟩) =
                        Option.map Payload.reversed (some ⟨other, []⟩) := rfl
                    exact ih begun _ _
              · rw [scan_from_unmarked dialect offset marks, scan_from_unmarked dialect other marks]
                cases ofByte? byte with
                | none => exact later
                | some token => exact congrArg (token :: ·) later

/-- A payload runs to the terminator or to the end, and scanning goes on behind it. -/
theorem scan_from_payload (dialect : Dialect) (payload : Payload) (offset : Nat) (source : Bytes) :
    (scanFrom dialect (some payload) offset source).map (·.token) =
      .atom (.command (payload.reversed.reverse ++ source.takeWhile (· ≠ terminator))) ::
        (scan dialect 0 ((source.dropWhile (· ≠ terminator)).drop 1)).map (·.token) := by
  induction source generalizing payload offset with
  | nil => simp [scanFrom, scan, Payload.token]
  | cons byte rest ih =>
      rw [scanFrom]
      by_cases ends : byte = terminator
      · subst ends
        rw [if_pos rfl, List.map_cons, scan_from_tokens dialect rest rfl (offset + 1) 0]
        simp [Payload.token, scan]
      · rw [if_neg ends, ih]
        simp [ends]

theorem of_byte_spelling (byte : UInt8) :
    (ofByte? byte).map spelling =
      if Char.ofNat byte.toNat ∈ operatorCharacters then some (String.singleton (Char.ofNat byte.toNat))
      else none := by
  have each : ∀ code : Fin 256, (ofByte? (.ofFin code)).map spelling =
      if Char.ofNat code ∈ operatorCharacters then some (String.singleton (Char.ofNat code))
      else none := by
    decide +kernel
  exact each byte.toFin

/-- The tokens of a source are its text without the comments. -/
theorem spell_scan (mode : Mode) (offset : Nat) (source : Bytes) :
    spell ((scan mode.dialect offset source).map (·.token)) = tokenText mode source := by
  fun_induction tokenText mode source generalizing offset with
  | case1 => rfl
  | case2 byte rest marks ih =>
      rcases marks with ⟨rfl, rfl⟩
      have begins : scan Mode.command.dialect offset (marker :: rest) =
          scanFrom Mode.command.dialect (some ⟨offset, []⟩) (offset + 1) rest := rfl
      rw [begins, scan_from_payload, spell, ih]
      rfl
  | case3 byte rest unmarked operator ih =>
      have found := of_byte_spelling byte
      rw [if_pos operator] at found
      obtain ⟨token, written, spelled⟩ := Option.map_eq_some_iff.mp found
      have plain : byte ≠ marker := by
        rintro rfl
        cases written
      rw [scan, scan_from_unmarked _ offset plain, written, ← spelled, ← ih (offset + 1)]
      rfl
  | case4 byte rest unmarked comment ih =>
      have none : ofByte? byte = none := by
        have found := of_byte_spelling byte
        rw [if_neg comment] at found
        exact Option.map_eq_none_iff.mp found
      rw [← ih (offset + 1)]
      -- a marker is a comment in normal mode, and in command mode it was not passed over
      by_cases marks : byte = marker
      · subst marks
        cases mode with
        | normal => rfl
        | command => exact absurd ⟨rfl, rfl⟩ unmarked
      · rw [scan, scan_from_unmarked _ offset marks, none]
        rfl

theorem scanned_of_byte {byte : UInt8} {atom : Atom} (written : ofByte? byte = some (.atom atom)) :
    atom.Scanned := by
  have found : Token.atom atom ∈ operators [byte] := by
    rw [operators_eq, List.filterMap_cons_some written]
    exact List.mem_cons_self
  have operator := is_operator_of_operators found
  cases atom with
  | command payload => exact operator.elim
  | _ => exact operator

theorem scanned_of_scan_from {dialect : Dialect} (markless : dialect ≠ .marked) {source : Bytes}
    {begun : Option Payload} (clean : ∀ payload, begun = some payload → terminator ∉ payload.reversed)
    {offset : Nat} {atom : Atom}
    (found : .atom atom ∈ (scanFrom dialect begun offset source).map (·.token)) : atom.Scanned := by
  -- the payload that is still open has no terminator in it; each byte keeps that
  induction source generalizing begun offset with
  | nil =>
      cases begun with
      | none => cases found
      | some payload =>
          have same : atom = .command payload.reversed.reverse := by
            simpa [scanFrom, Payload.token] using found
          rw [same]
          simpa [Atom.Scanned] using clean payload rfl
  | cons byte rest ih =>
      have fresh : ∀ payload, (none : Option Payload) = some payload → terminator ∉ payload.reversed := by
        intro payload none
        cases none
      cases begun with
      | some payload =>
          have before := clean payload rfl
          rw [scanFrom] at found
          by_cases ends : byte = terminator
          · rw [if_pos ends, List.map_cons, List.mem_cons] at found
            rcases found with same | later
            · cases same
              simpa [Atom.Scanned] using before
            · exact ih fresh later
          · rw [if_neg ends] at found
            apply ih _ found
            intro longer same
            cases same
            simp [before, Ne.symm ends]
      | none =>
          by_cases marks : byte = marker
          · subst marks
            cases dialect with
            | plain => exact ih fresh found
            | marked => exact absurd rfl markless
            | commands =>
                apply ih _ found
                intro begins same
                cases same
                exact List.not_mem_nil
          · rw [scan_from_unmarked dialect offset marks] at found
            cases written : ofByte? byte with
            | none =>
                rw [written] at found
                exact ih fresh found
            | some token =>
                rw [written, List.map_cons, List.mem_cons] at found
                rcases found with same | later
                · cases same
                  exact scanned_of_byte written
                · exact ih fresh later

theorem scanned_of_scan (mode : Mode) {offset : Nat} {source : Bytes} {atom : Atom}
    (found : .atom atom ∈ (scan mode.dialect offset source).map (·.token)) : atom.Scanned := by
  apply scanned_of_scan_from _ _ found
  · cases mode <;> decide
  · intro payload none
    cases none

theorem encode_spelling {token : Token} (plain : ∀ payload, token ≠ .atom (.command payload))
    (unmarked : token ≠ .atom .mark) :
    ∃ byte, Text.encode token.spelling = [byte] ∧ byte ≠ marker ∧ ofByte? byte = some token := by
  cases token with
  | opening => exact ⟨91, rfl, by decide, rfl⟩
  | closing => exact ⟨93, rfl, by decide, rfl⟩
  | atom atom =>
      cases atom with
      | counted kind =>
          cases kind with
          | increment => exact ⟨43, rfl, by decide, rfl⟩
          | decrement => exact ⟨45, rfl, by decide, rfl⟩
          | shiftLeft => exact ⟨60, rfl, by decide, rfl⟩
          | shiftRight => exact ⟨62, rfl, by decide, rfl⟩
      | output => exact ⟨46, rfl, by decide, rfl⟩
      | input => exact ⟨44, rfl, by decide, rfl⟩
      | command payload => exact absurd rfl (plain payload)
      | mark => exact absurd rfl unmarked

theorem scan_spelling {token : Token} (legible : ∀ atom, token = .atom atom → atom.Legible)
    (offset : Nat) (rest : Bytes) :
    (scan .commands offset (Text.encode token.spelling ++ rest)).map (·.token) =
      token :: (scan .commands 0 rest).map (·.token) := by
  by_cases command : ∃ payload, token = .atom (.command payload)
  · obtain ⟨payload, rfl⟩ := command
    obtain ⟨closed, faithful⟩ := legible _ rfl
    have inside : ∀ byte ∈ payload, (decide (byte ≠ terminator)) = true := by
      intro byte found
      rw [decide_eq_true_eq]
      rintro rfl
      exact closed found
    have written : Text.encode (spelling (.atom (.command payload))) ++ rest =
        marker :: (payload ++ terminator :: rest) := by
      rw [spelling, Text.encode_append, Text.encode_append, faithful, List.append_assoc, List.append_assoc]
      rfl
    have begins (source : Bytes) : scan .commands offset (marker :: source) =
        scanFrom .commands (some ⟨offset, []⟩) (offset + 1) source := rfl
    rw [written, begins, scan_from_payload, List.takeWhile_append_of_pos inside,
      List.dropWhile_append_of_pos inside]
    simp
  · have plain (payload : Bytes) : token ≠ .atom (.command payload) := by
      intro same
      exact command ⟨payload, same⟩
    obtain ⟨byte, written, unmarked, read⟩ := encode_spelling plain fun same => legible _ same
    rw [written, List.singleton_append, scan, scan_from_unmarked _ offset unmarked, read, List.map_cons,
      scan_from_tokens .commands rest rfl (offset + 1) 0]
    rfl

/-- Tokens that are written out legibly are read again as they were. -/
theorem scan_spell {tokens : List Token} (legible : ∀ atom, .atom atom ∈ tokens → atom.Legible) :
    (scan .commands 0 (Text.encode (spell tokens))).map (·.token) = tokens := by
  induction tokens with
  | nil => rfl
  | cons token rest ih =>
      rw [spell, Text.encode_append, scan_spelling]
      · rw [ih fun atom found => legible atom (List.mem_cons_of_mem token found)]
      · rintro atom rfl
        exact legible atom List.mem_cons_self

end Token

end TapeLang
