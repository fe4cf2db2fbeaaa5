import Mathlib.Data.List.Chain
import TapeLang.Proofs.Program.Growth
import TapeLang.Proofs.Program.Spelling

/-!
Parsing and writing out are inverse. A program is canonical when it is well-formed, equal counted
operators are counted together, and no command holds a terminator. A canonical program is the layout of a
forest, which is found by following its jumps, so it can be written out and parsed again; and what is
parsed from any source is canonical and is written out as the tokens of the source.
-/

namespace TapeLang

def Instruction.Apart (first second : Instruction) : Prop :=
  ∀ kind count other, first = .counted kind count → second ≠ .counted kind other

structure Canonical (program : List Instruction) : Prop extends WellFormed program where
  /-- Neighbours that could be counted together are. -/
  apart : program.IsChain Instruction.Apart
  closed : ∀ text, .command text ∈ program → ';' ∉ text.toList

/-- A part of a program whose brackets have their partners in it. -/
structure Region (program : List Instruction) (base stop : Nat) : Prop where
  opening : ∀ index past : Nat, base ≤ index → index < stop →
    program[index]? = some (.loopStart (some (past : Int))) → past ≤ stop
  closing : ∀ index first : Nat, base ≤ index → index < stop →
    program[index]? = some (.loopEnd (first : Int)) → base ≤ first

namespace Region

variable {program : List Instruction} {base stop past : Nat}

theorem whole (well : WellFormed program) : Region program 0 program.length where
  opening index past _ _ opens := by
    obtain ⟨other, same, -, bound, -⟩ := well.opening index _ opens
    cases same
    exact bound
  closing _ _ _ _ _ := Nat.zero_le _

theorem next (well : WellFormed program) (region : Region program base stop)
    (straight : ∀ target, program[base]? ≠ some (.loopStart target)) : Region program (base + 1) stop where
  opening index past after before opens := region.opening index past (by omega) before opens
  closing index first after before closes := by
    have behind := region.closing index first (by omega) before closes
    obtain ⟨other, same, earlier, opens⟩ := well.closing index _ closes
    cases Int.ofNat.inj same
    have other : first ≠ base := by
      rintro rfl
      exact straight _ opens
    omega

theorem body (well : WellFormed program) (region : Region program base stop)
    (starts : program[base]? = some (.loopStart (some (past : Int)))) (fits : past ≤ stop) :
    Region program (base + 1) (past - 1) where
  opening index inner after before opens := by
    have smaller := well.nested base index past inner starts opens (by omega) (by omega)
    omega
  closing index first after before closes := by
    have behind := region.closing index first (by omega) (by omega) closes
    obtain ⟨other, same, earlier, opens⟩ := well.closing index _ closes
    cases Int.ofNat.inj same
    have other : first ≠ base := by
      rintro rfl
      rw [starts] at opens
      cases opens
      omega
    omega

theorem behind (well : WellFormed program) (region : Region program base stop)
    (starts : program[base]? = some (.loopStart (some (past : Int)))) (longer : base < past) :
    Region program past stop where
  opening index inner after before opens := region.opening index inner (by omega) before opens
  closing index first after before closes := by
    have behind := region.closing index first (by omega) before closes
    obtain ⟨other, same, earlier, opens⟩ := well.closing index _ closes
    cases Int.ofNat.inj same
    rcases Nat.lt_or_ge first past with inside | outside
    · rcases Nat.eq_or_lt_of_le behind with rfl | later
      · rw [starts] at opens
        cases opens
        omega
      · have smaller := well.nested base first past (index + 1) starts opens later inside
        omega
    · exact outside

end Region

namespace Tree

/-- Copies of a counted operator are gathered into one stretch, unless what follows would be counted with
them. -/
theorem gather_copies (kind : Counted) {count : Nat} (positive : 1 ≤ count) {forest : List (Tree Atom)}
    (apart : ∀ stretch rest, gather forest = .leaf stretch :: rest → stretch.atom ≠ .counted kind) :
    gather (List.replicate count (.leaf (.counted kind)) ++ forest) =
      .leaf ⟨.counted kind, count⟩ :: gather forest := by
  induction count with
  | zero => cases positive
  | succ count ih =>
      rw [List.replicate_succ, List.cons_append, gather, gatherOnto]
      rcases Nat.eq_zero_or_pos count with rfl | more
      · rw [List.replicate_zero, List.nil_append]
        generalize gather forest = gathered at apart
        cases gathered with
        | nil => rfl
        | cons tree rest =>
            cases tree with
            | leaf stretch => rw [gatherAtom, if_neg (apart stretch rest rfl)]
            | loop body => rfl
      · rw [ih more, gatherAtom, if_pos rfl]

theorem flatten_gather_alone {atom : Atom} {instruction : Instruction}
    (uncounted : ∀ kind, atom ≠ .counted kind)
    (written : Stretch.instructions ⟨atom, 1⟩ = [instruction]) (base : Nat) (rest : List (Tree Atom)) :
    flatten base (gather (.leaf atom :: rest)) = instruction :: flatten (base + 1) (gather rest) := by
  have alone : gather (.leaf atom :: rest) = .leaf ⟨atom, 1⟩ :: gather rest := by
    cases atom with
    | counted kind => exact absurd rfl (uncounted kind)
    | _ => rfl
  rw [alone, flatten, flattenOne, written]
  rfl

theorem flatten_gather_loop (base : Nat) (body rest : List (Tree Atom)) :
    flatten base (gather (.loop body :: rest)) =
      .loopStart (some (base + (flatten (base + 1) (gather body)).length + 2 : Nat)) ::
        (flatten (base + 1) (gather body) ++ .loopEnd base ::
          flatten (base + (flatten (base + 1) (gather body)).length + 2) (gather rest)) := by
  rw [gather, gatherOnto, flatten, flattenOne]
  simp [Nat.add_assoc]

def Legible (forest : List (Tree Atom)) : Prop :=
  ∀ atom, .atom atom ∈ tokens forest → atom.Legible

namespace Legible

variable {body rest : List (Tree Atom)}

theorem nil : Legible [] := by
  intro atom found
  cases found

theorem leaf {atom : Atom} (legible : atom.Legible) (later : Legible rest) :
    Legible (.leaf atom :: rest) := by
  intro other found
  rw [tokens, tokensOne, List.singleton_append, List.mem_cons] at found
  rcases found with same | behind
  · cases same
    exact legible
  · exact later other behind

theorem copies {atom : Atom} (legible : atom.Legible) (count : Nat) (later : Legible rest) :
    Legible (List.replicate count (.leaf atom) ++ rest) := by
  induction count with
  | zero => exact later
  | succ count ih =>
      rw [List.replicate_succ, List.cons_append]
      exact leaf legible ih

theorem loop (inside : Legible body) (later : Legible rest) : Legible (.loop body :: rest) := by
  intro atom found
  rw [tokens, tokensOne, List.mem_append, List.mem_cons, List.mem_append, List.mem_singleton] at found
  rcases found with (opens | within | closes) | behind
  · cases opens
  · exact inside atom within
  · cases closes
  · exact later atom behind

end Legible

end Tree

section Extract

variable {program : List Instruction} {base middle stop : Nat}

theorem extract_cons {instruction : Instruction} (found : program[base]? = some instruction)
    (before : base < stop) :
    program.extract base stop = instruction :: program.extract (base + 1) stop := by
  obtain ⟨inside, same⟩ := List.getElem?_eq_some_iff.mp found
  have size : stop - base = stop - (base + 1) + 1 := by omega
  rw [List.extract_eq_take_drop, List.extract_eq_take_drop, List.drop_eq_getElem_cons inside, same, size,
    List.take_succ_cons]

theorem extract_append (first : base ≤ middle) (second : middle ≤ stop) :
    program.extract base stop = program.extract base middle ++ program.extract middle stop := by
  have size : stop - base = (middle - base) + (stop - middle) := by omega
  have start : base + (middle - base) = middle := by omega
  simp only [List.extract_eq_take_drop]
  rw [size, List.take_add, List.drop_drop, start]

theorem length_extract (first : base ≤ stop) (fits : stop ≤ program.length) :
    (program.extract base stop).length = stop - base := by
  simp only [List.extract_eq_take_drop, List.length_take, List.length_drop]
  omega

end Extract

/-- The part of a program is the layout of a forest that can be read again from its text. -/
def Laid (program : List Instruction) (base stop : Nat) : Prop :=
  ∃ forest, Tree.flatten base (Tree.gather forest) = program.extract base stop ∧ Tree.Legible forest

namespace Laid

variable {program : List Instruction} {base past stop : Nat}

theorem empty (program : List Instruction) (base : Nat) : Laid program base base :=
  ⟨[], by simp [Tree.gather, Tree.flatten], .nil⟩

theorem alone {atom : Atom} {instruction : Instruction} (uncounted : ∀ kind, atom ≠ .counted kind)
    (legible : atom.Legible) (written : Stretch.instructions ⟨atom, 1⟩ = [instruction])
    (found : program[base]? = some instruction) (before : base < stop)
    (later : Laid program (base + 1) stop) : Laid program base stop := by
  obtain ⟨forest, laid, legibleLater⟩ := later
  refine ⟨.leaf atom :: forest, ?_, .leaf legible legibleLater⟩
  rw [Tree.flatten_gather_alone uncounted written, laid, extract_cons found before]

theorem loop (starts : program[base]? = some (.loopStart (some (past : Int))))
    (closes : program[past - 1]? = some (.loopEnd base)) (long : base + 1 < past) (within : past ≤ stop)
    (fits : stop ≤ program.length) (body : Laid program (base + 1) (past - 1))
    (later : Laid program past stop) : Laid program base stop := by
  obtain ⟨inner, laidInner, legibleInner⟩ := body
  obtain ⟨forest, laid, legible⟩ := later
  refine ⟨.loop inner :: forest, ?_, .loop legibleInner legible⟩
  -- the jump that the layout writes is the one that stands there
  have size : base + (program.extract (base + 1) (past - 1)).length + 2 = past := by
    rw [length_extract (by omega) (by omega)]
    omega
  have next : past - 1 + 1 = past := by omega
  rw [Tree.flatten_gather_loop, laidInner, size, laid, extract_cons starts (by omega),
    extract_append (show base + 1 ≤ past - 1 by omega) (show past - 1 ≤ stop by omega),
    extract_cons closes (by omega), next]

end Laid

namespace Canonical

variable {program : List Instruction}

theorem apart_of_flatten (canonical : Canonical program) {base stop count : Nat} {kind : Counted}
    (found : program[base]? = some (.counted kind count)) {trees : List (Tree Stretch)}
    (laid : Tree.flatten (base + 1) trees = program.extract (base + 1) stop) :
    ∀ stretch rest, trees = .leaf stretch :: rest → stretch.atom ≠ .counted kind := by
  rintro ⟨atom, other⟩ rest rfl same
  cases same
  have next : program[base + 1]? = some (.counted kind other) := by
    have head := congrArg List.head? laid
    simp only [Tree.flatten, Tree.flattenOne, Stretch.instructions, List.singleton_append,
      List.head?_cons, List.extract_eq_take_drop, List.head?_take, List.head?_drop] at head
    split at head
    · cases head
    · exact head.symm
  obtain ⟨inside, here⟩ := List.getElem?_eq_some_iff.mp found
  obtain ⟨nextInside, there⟩ := List.getElem?_eq_some_iff.mp next
  exact List.isChain_iff_getElem.mp canonical.apart base nextInside kind count other here there

theorem laid_counted (canonical : Canonical program) {base stop count : Nat} {kind : Counted}
    (found : program[base]? = some (.counted kind count)) (before : base < stop)
    (later : Laid program (base + 1) stop) : Laid program base stop := by
  obtain ⟨forest, laid, legible⟩ := later
  have positive := canonical.counted base kind count found
  have operator : Atom.Legible (.counted kind) := trivial
  refine ⟨List.replicate count (.leaf (.counted kind)) ++ forest, ?_, .copies operator count legible⟩
  rw [Tree.gather_copies kind positive (canonical.apart_of_flatten found laid), extract_cons found before,
    ← laid]
  rfl

theorem legible_command (canonical : Canonical program) {base : Nat} {text : String}
    (found : program[base]? = some (.command text)) :
    Atom.Legible (.command (Text.encode text)) := by
  have closed := canonical.closed text (List.mem_of_getElem? found)
  exact ⟨Text.not_mem_encode (by decide) closed, congrArg Text.encode (Text.decode_encode text)⟩

/-- A part of a canonical program that holds the partners of its brackets is laid out. The induction is on
the length of the part: an instruction stands in front of the rest, a loop start in front of its body and what
follows its end. -/
theorem laid_of_region (canonical : Canonical program) {base stop : Nat} (bound : base ≤ stop)
    (fits : stop ≤ program.length) (region : Region program base stop) : Laid program base stop := by
  have well := canonical.toWellFormed
  induction size : stop - base using Nat.strongRecOn generalizing base stop with
  | ind size ih =>
      rcases Nat.eq_or_lt_of_le bound with rfl | before
      · exact .empty program base
      · have found : program[base]? = some program[base] := List.getElem?_eq_getElem (by omega)
        generalize program[base] = instruction at found
        have rest (straight : ∀ target, program[base]? ≠ some (.loopStart target)) :
            Laid program (base + 1) stop :=
          ih (stop - (base + 1)) (by omega) (by omega) fits (region.next well straight) rfl
        cases instruction with
        | counted kind count => exact canonical.laid_counted found before (rest (by simp [found]))
        | output =>
            have legible : Atom.Legible .output := trivial
            exact .alone (by simp) legible rfl found before (rest (by simp [found]))
        | input =>
            have legible : Atom.Legible .input := trivial
            exact .alone (by simp) legible rfl found before (rest (by simp [found]))
        | command text =>
            have written : Stretch.instructions ⟨.command (Text.encode text), 1⟩ = [.command text] :=
              congrArg (fun text => [Instruction.command text]) (Text.decode_encode text)
            exact .alone (by simp) (canonical.legible_command found) written found before
              (rest (by simp [found]))
        | loopStart target =>
            obtain ⟨past, rfl, long, -, closes⟩ := canonical.opening base target found
            have within := region.opening base past (Nat.le_refl base) before found
            have body := ih (past - 1 - (base + 1)) (by omega) (by omega) (by omega)
              (region.body well found within) rfl
            have later := ih (stop - past) (by omega) within fits (region.behind well found (by omega)) rfl
            exact .loop found closes long within fits body later
        | loopEnd start =>
            obtain ⟨first, rfl, earlier, -⟩ := canonical.closing base start found
            have behind := region.closing base first (Nat.le_refl base) before found
            omega
        | foreign text => exact absurd found (canonical.known base text)

theorem forest (canonical : Canonical program) :
    ∃ forest, Tree.compile forest = program ∧ Tree.Legible forest := by
  obtain ⟨forest, laid, legible⟩ := canonical.laid_of_region (Nat.zero_le _) (Nat.le_refl _)
    (.whole canonical.toWellFormed)
  refine ⟨forest, ?_, legible⟩
  rw [Tree.compile, laid, List.extract_eq_take_drop]
  simp

theorem parse_unparse (canonical : Canonical program) (file : String) :
    parse (Text.encode (unparse program)) file .command = .ok program := by
  obtain ⟨forest, rfl, legible⟩ := canonical.forest
  rw [parse_eq_ok_iff, unparse_compile]
  exact ⟨forest, (Token.scan_spell legible).symm, rfl⟩

theorem parse_unparse_plain (canonical : Canonical program) (plain : ∀ text, .command text ∉ program)
    (file : String) (mode : Mode) :
    parse (Text.encode (unparse program)) file mode = .ok program := by
  have known : ∀ text, .foreign text ∉ program := by
    intro text found
    obtain ⟨index, inside, here⟩ := List.getElem_of_mem found
    exact canonical.known index text (List.getElem?_eq_some_iff.mpr ⟨inside, here⟩)
  have unmarked : Token.marker ∉ Text.encode (unparse program) :=
    Text.not_mem_encode (by decide) (unmarked_unparse plain known)
  have parsed := canonical.parse_unparse file
  rw [parse_unmarked_iff unmarked] at parsed ⊢
  exact parsed

end Canonical

namespace Tree

theorem flatten_leaf_of_scanned {stretch : Stretch} (scanned : stretch.atom.Scanned) :
    ∃ instruction, (∀ base rest, flatten base (.leaf stretch :: rest) =
        instruction :: flatten (base + 1) rest) ∧
      ∀ kind count, instruction = .counted kind count → stretch.atom = .counted kind := by
  rcases stretch with ⟨atom, count⟩
  cases atom with
  | mark => exact scanned.elim
  | counted kind => exact ⟨_, fun _ _ => rfl, by simp⟩
  | output => exact ⟨_, fun _ _ => rfl, by simp⟩
  | input => exact ⟨_, fun _ _ => rfl, by simp⟩
  | command payload => exact ⟨_, fun _ _ => rfl, by simp⟩

theorem apart_gather_atom {atom : Atom} (scanned : atom.Scanned) {gathered : List (Tree Stretch)}
    (every : Every (Gathered Atom.Scanned) gathered)
    (apart : ∀ base, (flatten base gathered).IsChain Instruction.Apart) (base : Nat) :
    (flatten base (gatherAtom atom gathered)).IsChain Instruction.Apart := by
  fun_cases gatherAtom atom gathered with
  | case1 kind stretch rest same =>
      -- only the count of the first instruction changes, and being apart does not depend on it
      rcases stretch with ⟨_, count⟩
      cases same
      have before : (Instruction.counted kind count :: flatten (base + 1) rest).IsChain
          Instruction.Apart := apart base
      refine List.IsChain.imp_head ?_ before
      intro next kept other _ third equal
      cases equal
      exact kept kind count third rfl
  | case2 kind stretch rest different =>
      cases every with
      | leaf here later =>
          obtain ⟨instruction, laid, counted⟩ := flatten_leaf_of_scanned here.atom
          have behind := apart (base + 1)
          change (Instruction.counted kind 1 :: flatten (base + 1) (.leaf stretch :: rest)).IsChain _
          rw [laid] at behind ⊢
          refine List.isChain_cons_cons.mpr ⟨?_, behind⟩
          intro other count third equal same
          cases equal
          exact different (counted kind third same)
  | case3 atom gathered overlap =>
      let alone : Stretch := ⟨atom, 1⟩
      obtain ⟨instruction, laid, counted⟩ := flatten_leaf_of_scanned (show alone.atom.Scanned from scanned)
      rw [laid]
      refine List.isChain_cons.mpr ⟨?_, apart (base + 1)⟩
      intro next found kind count third equal same
      subst same
      cases gathered with
      | nil => cases found
      | cons tree rest =>
          cases tree with
          | leaf stretch => exact overlap kind stretch rest (counted kind count equal) rfl
          | loop body => cases found

theorem apart_gather {forest : List (Tree Atom)} (scanned : Every Atom.Scanned forest) (base : Nat) :
    (flatten base (gather forest)).IsChain Instruction.Apart := by
  induction scanned generalizing base with
  | nil => exact .nil
  | leaf here later ih => exact apart_gather_atom here (every_gather later) ih base
  | @loop body rest inside later insideApart laterApart =>
      have bracket (target : Option Int) (next : Instruction) :
          (Instruction.loopStart target).Apart next := by
        intro kind count other equal
        cases equal
      rw [flatten_gather_loop]
      refine List.isChain_cons.mpr ⟨fun next _ => bracket _ next, ?_⟩
      refine List.IsChain.append (insideApart _) (List.isChain_cons.mpr ⟨?_, laterApart _⟩) ?_
      · intro next found kind count other equal
        cases equal
      · intro last _ next found kind count other _
        cases found
        exact fun equal => by cases equal

end Tree

namespace Canonical

theorem closed_of_scanned {forest : List (Tree Atom)} (scanned : Tree.Every Atom.Scanned forest)
    (text : String) (found : .command text ∈ Tree.compile forest) : ';' ∉ text.toList := by
  have leaves : Tree.Every (fun stretch : Stretch => ∀ instruction ∈ stretch.instructions,
      ∀ text, instruction = .command text → ';' ∉ text.toList) (Tree.gather forest) := by
    apply Tree.Every.mono _ (Tree.every_gather scanned)
    intro stretch gathered instruction found text same
    have clean := gathered.atom
    rcases stretch with ⟨atom, count⟩
    cases atom with
    | command payload =>
        cases List.mem_singleton.mp found
        cases same
        have plain : Text.Plain Token.terminator := ⟨by decide, by decide⟩
        have absent := (plain.not_mem_decode clean).1
        rw [Text.decode, String.toList_ofList]
        exact absent
    | _ => simp_all [Stretch.instructions]
  exact Tree.forall_mem_flatten (by simp) (by simp) leaves 0 _ found text rfl

theorem of_parse {source : Bytes} {file : String} {mode : Mode} {program : List Instruction}
    (accepted : parse source file mode = .ok program) : Canonical program := by
  obtain ⟨forest, written, rfl⟩ := (parse_eq_ok_iff source file mode program).mp accepted
  have scanned : Tree.Every Atom.Scanned forest := by
    apply Tree.every_of_tokens
    intro atom found
    rw [written] at found
    exact Token.scanned_of_scan mode found
  exact
    { toWellFormed := .compile forest
      apart := Tree.apart_gather scanned 0
      closed := closed_of_scanned scanned }

end Canonical

theorem unparse_of_parse {source : Bytes} {file : String} {mode : Mode} {program : List Instruction}
    (accepted : parse source file mode = .ok program) : unparse program = tokenText mode source := by
  obtain ⟨forest, written, rfl⟩ := (parse_eq_ok_iff source file mode program).mp accepted
  rw [unparse_compile, written, Token.spell_scan]

/-- Parsing gives back every canonical program that was written out, in normal mode too when it has no
commands. Every source that is accepted has a canonical program, which is written out as the tokens of the
source, and parsing these again in the same mode gives the same program. -/
theorem parsing_and_unparsing_inverse :
    (∀ program : List Instruction, Canonical program → ∀ file : String,
      parse (Text.encode (unparse program)) file .command = .ok program ∧
        ((∀ text, .command text ∉ program) →
          parse (Text.encode (unparse program)) file .normal = .ok program)) ∧
      ∀ (source : Bytes) (file : String) (mode : Mode) (program : List Instruction),
        parse source file mode = .ok program →
          Canonical program ∧ unparse program = tokenText mode source ∧
            ∀ again : String, parse (Text.encode (tokenText mode source)) again mode = .ok program := by
  constructor
  · intro program canonical file
    exact ⟨canonical.parse_unparse file, fun plain => canonical.parse_unparse_plain plain file .normal⟩
  · intro source file mode program accepted
    have canonical := Canonical.of_parse accepted
    have text := unparse_of_parse accepted
    refine ⟨canonical, text, ?_⟩
    intro again
    rw [← text]
    cases mode with
    | command => exact canonical.parse_unparse again
    | normal =>
        exact canonical.parse_unparse_plain (command_not_mem_of_parse_normal accepted) again .normal

/-- A comment between two increments is dropped, a byte that is no text is replaced, and the last command is
closed; the increment behind a command stays apart. -/
theorem tokens_of_broken_payload :
    ∃ (source : Bytes) (program : List Instruction),
      source = Text.encode "+a+#b" ++ [255, 59] ++ Text.encode "+[.]#c" ∧
      program = [.counted .increment 2, .command "b\uFFFD", .counted .increment 1, .loopStart (some 6),
        .output, .loopEnd 3, .command "c"] ∧
      parse source "<string>" .command = .ok program ∧ Canonical program ∧
      tokenText .command source = "++#b\uFFFD;+[.]#c;" ∧
      parse (Text.encode "++#b\uFFFD;+[.]#c;") "<string>" .command = .ok program := by
  have accepted : parse (Text.encode "+a+#b" ++ [255, 59] ++ Text.encode "+[.]#c") "<string>" .command =
      .ok [.counted .increment 2, .command "b\uFFFD", .counted .increment 1, .loopStart (some 6),
        .output, .loopEnd 3, .command "c"] := by
    apply parse_eq_ok_of_some
    decide +kernel
  obtain ⟨canonical, text, again⟩ := parsing_and_unparsing_inverse.2 _ _ _ _ accepted
  have written : unparse [.counted .increment 2, .command "b\uFFFD", .counted .increment 1,
      .loopStart (some 6), .output, .loopEnd 3, .command "c"] = "++#b\uFFFD;+[.]#c;" := by
    decide +kernel
  have parsed := again "<string>"
  rw [← text, written] at parsed
  exact ⟨_, _, rfl, rfl, accepted, canonical, text.symm.trans written, parsed⟩

end TapeLang
