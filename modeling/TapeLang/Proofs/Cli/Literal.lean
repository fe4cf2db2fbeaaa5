import TapeLang.Proofs.Cli.FileRun
import TapeLang.Proofs.Machine.ReportChange

/-!
Programs given as literal texts. The name under which a program runs has no influence on how the command
line ends or on what it shows; it is only named in complaints. So a literal text and a file that holds it
come to the same, as long as the text is taken for the program at all: a text that begins with a dash is
first looked at as an option.
-/

namespace TapeLang.Cli

/-- Two outcomes with the same ending and the same output. Unless the program failed, the complaints are
the same too. -/
structure Outcome.Alike (left right : Outcome) : Prop where
  ending : left.ending = right.ending
  output : left.host.output = right.host.output
  complaints : left.ending = .returned 0 → left.host.errorText = right.host.errorText

section Naming

variable {fuel : Nat} {files : FileSystem} {input : Bytes} {invocation : Invocation}

/-- Where the name of a program matters: it stands in the location of a bracket without a partner, or in
the traceback of a machine that differs in nothing else. -/
theorem run_program_named (fuel : Nat) (files : FileSystem) (input : Bytes) (invocation : Invocation)
    (source : Bytes) :
    (∃ bracket, ∀ name, runProgram fuel invocation { source, file := name } input { files } = some
      { host := complain { files }
          ("ParseError: " ++ (SyntaxFault.ofBracket name source bracket).message)
        ending := .returned 1 }) ∨
      ∃ result : Option Ended, ∀ name,
        runProgram fuel invocation { source, file := name } input { files } =
          result.map fun ended =>
            reportRun invocation ((Machine.ReportChange.named (files.shownName name)).ended ended) := by
  let mode : Mode := if invocation.commands then .command else .normal
  cases compiled : compileTokens (Token.scan mode.dialect 0 source) with
  | error bracket =>
      refine .inl ⟨bracket, ?_⟩
      intro name
      apply run_program_refused
      change parse source name mode = _
      rw [parse, compiled]
      rfl
  | ok program =>
      refine .inr ⟨Run.run fuel (.direct {}) (startWorld files "" invocation.verbose program input), ?_⟩
      intro name
      have accepted : parse source name mode = .ok program := by
        rw [parse, compiled]
        rfl
      have builtin : (startWorld files "" invocation.verbose program input).host.services.Builtin :=
        Host.bind_builtins_builtin { files } rfl
      have renamed :=
        (Machine.ReportChange.named_unnoticed (files.shownName name)).run fuel (.direct {}) builtin
      rw [run_program_parsed accepted]
      exact (congrArg (Option.map (reportRun invocation)) renamed).trans (Option.map_map _ _ _)

theorem report_run_named (invocation : Invocation) (ended : Ended) (left right : String) :
    (reportRun invocation ((Machine.ReportChange.named left).ended ended)).Alike
      (reportRun invocation ((Machine.ReportChange.named right).ended ended)) := by
  have fault (name : String) : ((Machine.ReportChange.named name).ended ended).fault = ended.fault := rfl
  unfold reportRun
  rw [fault, fault]
  cases ended.fault with
  | none => exact ⟨rfl, rfl, fun _ => rfl⟩
  | some fault =>
      cases fault with
      | runtime cause =>
          refine ⟨rfl, ?_, nofun⟩
          dsimp only
          cases invocation.tracebackJson <;> rfl
      | badSyntax cause => exact ⟨rfl, rfl, nofun⟩
      | _ => exact ⟨rfl, rfl, nofun⟩

theorem run_program_alike (source : Bytes) (left right : String) :
    Option.Rel Outcome.Alike (runProgram fuel invocation { source, file := left } input { files })
      (runProgram fuel invocation { source, file := right } input { files }) := by
  rcases run_program_named fuel files input invocation source with ⟨bracket, refused⟩ | ⟨result, ran⟩
  · rw [refused, refused]
    exact .some ⟨rfl, rfl, nofun⟩
  · rw [ran, ran]
    cases result with
    | none => exact .none
    | some ended => exact .some (report_run_named invocation ended _ _)

end Naming

theorem run_program_options {left right : Invocation} (commands : left.commands = right.commands)
    (verbose : left.verbose = right.verbose) (json : left.tracebackJson = right.tracebackJson)
    (fuel : Nat) (text : ProgramText) (input : Bytes) (host : Host) :
    runProgram fuel left text input host = runProgram fuel right text input host := by
  have reports : reportRun left = reportRun right := by
    funext ended
    unfold reportRun
    rw [verbose, json]
  unfold runProgram
  rw [commands, verbose, reports]

theorem run_literal {fuel : Nat} {files : FileSystem} {input : Bytes} {text : String}
    {front back : List String} (plain : Word.Plain text)
    (options : ∀ word ∈ front ++ back, word ∈ runSpellings) (program : Option String) :
    run fuel (front ++ "-source" :: text :: back) input files =
      runProgram fuel (Invocation.switched { program } (front ++ back))
        { source := Text.encode text, file := "<string>" } input { files } := by
  have read := read_literal plain (fun word found => options word (List.mem_append_left _ found))
    (fun word found => options word (List.mem_append_right _ found))
  have literal : (Invocation.switched { program := some text } (front ++ ["-source"] ++ back)).literal =
      true := by
    simp [Invocation.switched, literalSpellings]
  have found : programText files
      (Invocation.switched { program := some text } (front ++ ["-source"] ++ back)).literal text =
      .ok { source := Text.encode text, file := "<string>" } := by
    rw [literal]
    rfl
  rw [run_of_program read rfl rfl rfl found]
  apply run_program_options <;> simp [Invocation.switched]

/-- With the literal switch, a text among options is the program just when it is a plain word. A plain word
then comes to what a file comes to that holds the text. -/
theorem plain_text_runs_as_file {files : FileSystem} {text file : String} {front back : List String}
    (named : file.toList.head? ≠ some '-') (holds : files.read file = .ok (Text.encode text))
    (options : ∀ word ∈ front ++ back, word ∈ runSpellings) (fuel : Nat) (input : Bytes) :
    ((∃ invocation, readArguments (front ++ "-source" :: text :: back) = .ok invocation ∧
        invocation.program = some text) ↔ Word.Plain text) ∧
      (Word.Plain text → Option.Rel Outcome.Alike
        (run fuel (front ++ "-source" :: text :: back) input files)
        (run fuel (front ++ file :: back) input files)) := by
  have leading (word : String) (found : word ∈ front) : word ∈ runSpellings :=
    options word (List.mem_append_left _ found)
  have trailing (word : String) (found : word ∈ back) : word ∈ runSpellings :=
    options word (List.mem_append_right _ found)
  refine ⟨literal_read_iff_plain leading trailing, ?_⟩
  intro plain
  rw [run_literal plain options (some file), run_file named holds options]
  exact run_program_alike (Text.encode text) "<string>" file

/-- A text that begins with a dash and has a blank in it, which no option has. -/
theorem spaced_dash_runs_as_file :
    ∃ (files : FileSystem) (left right : Outcome),
      files.read "f" = .ok (Text.encode "- .") ∧ Word.Plain "- ." ∧
      run 9 ["--commands", "-source", "- ."] [] files = some left ∧
      run 9 ["--commands", "f"] [] files = some right ∧ left.Alike right ∧
      left.host.output = [255] := by
  let files : FileSystem := .uniform (.bytes (Text.encode "- ."))
  have short : (Word.candidates "- .".toList).isEmpty = true := by decide +kernel
  have plain : Word.Plain "- ." :=
    .inr (.inr ⟨by decide +kernel, by decide +kernel, List.isEmpty_iff.mp short, .inr (by decide)⟩)
  have shown : (run 9 ["--commands", "-source", "- ."] [] files).map (·.host.output) = some [255] := by
    decide +kernel
  obtain ⟨left, ran, output⟩ := Option.map_eq_some_iff.mp shown
  have alike := (@plain_text_runs_as_file files "- ." "f" ["--commands"] [] (by decide) rfl (by decide)
    9 []).2 plain
  have literal : run 9 (["--commands"] ++ "-source" :: "- ." :: []) [] files = some left := ran
  rw [literal] at alike
  cases right : run 9 (["--commands"] ++ "f" :: []) [] files with
  | none =>
      rw [right] at alike
      cases alike
  | some outcome =>
      rw [right] at alike
      cases alike with
      | some same => exact ⟨files, left, outcome, rfl, plain, ran, right, same, output⟩

/-- The same operators without the blank: the command line refuses the text as an option that it does not
know, while the file runs and writes a byte. -/
theorem dashed_text_refused_where_file_runs :
    ∃ (files : FileSystem) (left right : Outcome),
      files.read "f" = .ok (Text.encode "-.") ∧
      run 9 ["-source", "-."] [] files = some left ∧ left.ending = .left 2 ∧ left.host.output = [] ∧
      run 9 ["f"] [] files = some right ∧ right.ending = .returned 0 ∧ right.host.output = [255] := by
  let files : FileSystem := .uniform (.bytes (Text.encode "-."))
  have refused : (run 9 ["-source", "-."] [] files).map
      (fun outcome => (outcome.ending, outcome.host.output)) = some (.left 2, []) := by
    decide +kernel
  have ran : (run 9 ["f"] [] files).map (fun outcome => (outcome.ending, outcome.host.output)) =
      some (.returned 0, [255]) := by
    decide +kernel
  obtain ⟨left, leaves, leftSeen⟩ := Option.map_eq_some_iff.mp refused
  obtain ⟨right, returns, rightSeen⟩ := Option.map_eq_some_iff.mp ran
  simp only [Prod.mk.injEq] at leftSeen rightSeen
  exact ⟨files, left, right, rfl, leaves, leftSeen.1, leftSeen.2, returns, rightSeen⟩

end TapeLang.Cli
