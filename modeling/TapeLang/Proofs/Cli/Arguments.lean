import TapeLang.Cli.Options

/-!
What a command line is taken for. Words that spell out switches without values may stand before and behind
the program in any order; the program itself has to be a plain word. Which words are plain is decided word by
word: those that begin with no dash always are, and of the others only few.
-/

namespace TapeLang.Cli

def runSpellings : List String := ["--commands", "-verbose", "--verbose", "--traceback-json"]

def literalSpellings : List String := ["-source", "--source"]

def Invocation.switched (invocation : Invocation) (words : List String) : Invocation :=
  { invocation with
    literal := invocation.literal || words.any literalSpellings.contains
    commands := invocation.commands || words.contains "--commands"
    verbose := invocation.verbose || words.any ["-verbose", "--verbose"].contains
    tracebackJson := invocation.tracebackJson || words.contains "--traceback-json" }

theorem Invocation.switched_cons (invocation : Invocation) (word : String) (words : List String) :
    invocation.switched (word :: words) = (invocation.switched [word]).switched words := by
  simp [switched, Bool.or_assoc]

theorem Invocation.switched_append (invocation : Invocation) (front back : List String) :
    invocation.switched (front ++ back) = (invocation.switched front).switched back := by
  simp [switched, Bool.or_assoc]

namespace Word

/-- The word is taken as it is: it begins with no dash, it is a dash, or it is short for no option and has a
blank in it or is a negative number. -/
def Plain (text : String) : Prop :=
  text.toList.head? ≠ some '-' ∨ text = "-" ∨
    Switch.ofSpelling? text = none ∧
      ((splitEquals text.toList).bind fun parts => Switch.ofSpelling? parts.1) = none ∧
      candidates text.toList = [] ∧
      (isNegativeNumber text.toList = true ∨ ' ' ∈ text.toList)

theorem classify_dashed_eq_plain_iff {word : List Char} {text : String} :
    classifyDashed word = .ok (.plain text) ↔
      text = String.ofList word ∧
        ((splitEquals word).bind fun parts => Switch.ofSpelling? parts.1) = none ∧
        candidates word = [] ∧ (isNegativeNumber word = true ∨ ' ' ∈ word) := by
  unfold classifyDashed
  dsimp only
  split
  case h_1 use spelled =>
    have known : ((splitEquals word).bind fun parts => Switch.ofSpelling? parts.1) ≠ none := by
      obtain ⟨parts, divided, named⟩ := Option.bind_eq_some_iff.mp spelled
      obtain ⟨switch, spells, -⟩ := Option.map_eq_some_iff.mp named
      simp [divided, spells]
    simp [known]
  case h_2 unspelled =>
    have unknown : ((splitEquals word).bind fun parts => Switch.ofSpelling? parts.1) = none := by
      rw [Option.bind_eq_none_iff] at unspelled ⊢
      intro parts divided
      exact Option.map_eq_none_iff.mp (unspelled parts divided)
    cases candidates word with
    | cons first rest => cases rest <;> simp
    | nil =>
        dsimp only
        by_cases kept : isNegativeNumber word = true ∨ ' ' ∈ word
        · rw [if_pos (by simpa using kept)]
          simp [unknown, kept, @eq_comm _ text]
        · rw [if_neg (by simpa using kept)]
          simp [kept]

theorem classify_eq_plain_iff {text other : String} :
    classify text = .ok (.plain other) ↔ other = text ∧ Plain text := by
  unfold classify Plain
  split
  case h_1 second rest dashed =>
    have long : text ≠ "-" := by
      rintro rfl
      cases dashed
    rw [dashed]
    cases Switch.ofSpelling? text with
    | some switch => simp [long]
    | none =>
        have same : String.ofList ('-' :: second :: rest) = text := by
          rw [← dashed, String.ofList_toList]
        simp [classify_dashed_eq_plain_iff, same, long]
  case h_2 short =>
    have undashed : text.toList.head? ≠ some '-' ∨ text = "-" := by
      cases letters : text.toList with
      | nil => exact .inl nofun
      | cons first rest =>
          by_cases dash : first = '-'
          · right
            cases rest with
            | nil =>
                apply String.toList_injective
                rw [letters, dash]
                rfl
            | cons second rest => exact absurd (dash ▸ letters) (short second rest)
          · left
            simpa using dash
    rw [← or_assoc, Except.ok.injEq, plain.injEq, @eq_comm _ text]
    exact ⟨fun same => ⟨same, .inl undashed⟩, fun both => both.1⟩

theorem not_plain_divider : ¬Plain "--" := by
  have several : (candidates "--".toList).isEmpty = false := by decide +kernel
  rintro (undashed | dash | ⟨-, -, none, -⟩)
  · exact undashed (by decide)
  · exact absurd dash (by decide)
  · rw [none] at several
    cases several

def spelled (word : String) : Word :=
  .option { switch := (Switch.ofSpelling? word).getD .help, spelling := word, joined := none }

end Word

section Spelled

variable {word text : String} {words front back : List String}

theorem classify_spelled (known : word ∈ literalSpellings ++ runSpellings) :
    word ≠ "--" ∧ Word.classify word = .ok (.spelled word) := by
  simp only [literalSpellings, runSpellings, List.cons_append, List.nil_append, List.mem_cons,
    List.not_mem_nil, or_false] at known
  rcases known with rfl | rfl | rfl | rfl | rfl | rfl
  all_goals exact ⟨by decide, rfl⟩

theorem apply_spelled (known : word ∈ literalSpellings ++ runSpellings) (invocation : Invocation) :
    ∃ switch, Switch.ofSpelling? word = some switch ∧ switch.takesValue = false ∧
      Setting.apply invocation { switch } = .ok (invocation.switched [word]) := by
  simp only [literalSpellings, runSpellings, List.cons_append, List.nil_append, List.mem_cons,
    List.not_mem_nil, or_false] at known
  rcases known with rfl | rfl | rfl | rfl | rfl | rfl
  all_goals exact ⟨_, rfl, rfl, by simp [Setting.apply, Invocation.switched, literalSpellings]⟩

theorem classify_all_spelled (known : ∀ word ∈ words, word ∈ literalSpellings ++ runSpellings)
    (rest : List String) :
    Word.classifyAll (words ++ rest) = (Word.classifyAll rest).map (words.map .spelled ++ ·) := by
  induction words with
  | nil =>
      cases classified : Word.classifyAll rest <;> simp [classified, Except.map]
  | cons word words ih =>
      obtain ⟨whole, option⟩ := classify_spelled (known word List.mem_cons_self)
      rw [List.cons_append, Word.classifyAll, if_neg whole, option,
        ih fun other found => known other (List.mem_cons_of_mem word found)]
      cases Word.classifyAll rest <;> rfl

theorem take_all_spelled (known : ∀ word ∈ words, word ∈ literalSpellings ++ runSpellings)
    (progress : Progress) (afterProgram : Bool) (rest : List Word) :
    progress.takeAll afterProgram (words.map .spelled ++ rest) =
      Progress.takeAll { progress with invocation := progress.invocation.switched words }
        (afterProgram && words.isEmpty) rest := by
  induction words generalizing progress afterProgram with
  | nil => simp [Invocation.switched]
  | cons word words ih =>
      have first : progress.takeAll afterProgram (.spelled word :: (words.map .spelled ++ rest)) =
          Progress.takeAll { progress with invocation := progress.invocation.switched [word] } false
            (words.map .spelled ++ rest) := by
        obtain ⟨switch, spells, bare, applied⟩ :=
          apply_spelled (known word List.mem_cons_self) progress.invocation
        rw [Word.spelled, spells, Option.getD_some]
        conv => lhs; unfold Progress.takeAll
        rw [if_neg (by simp [bare]), applied]
        rfl
      rw [List.map_cons, List.cons_append, first,
        ih fun other found => known other (List.mem_cons_of_mem word found),
        progress.invocation.switched_cons word words]
      simp

/-- A plain word among spellings of switches is the program. -/
theorem read_arguments_of_plain (plain : Word.Plain text)
    (leading : ∀ word ∈ front, word ∈ literalSpellings ++ runSpellings)
    (trailing : ∀ word ∈ back, word ∈ literalSpellings ++ runSpellings) :
    readArguments (front ++ text :: back) =
      .ok (Invocation.switched { program := some text } (front ++ back)) := by
  have kept : Word.classify text = .ok (.plain text) := Word.classify_eq_plain_iff.mpr ⟨rfl, plain⟩
  have whole : text ≠ "--" := by
    rintro rfl
    exact Word.not_plain_divider plain
  have last : Word.classifyAll back = .ok (back.map .spelled) := by
    have classified := classify_all_spelled trailing []
    rw [List.append_nil] at classified
    rw [classified, Word.classifyAll]
    simp [Except.map]
  have words : Word.classifyAll (front ++ text :: back) =
      .ok (front.map .spelled ++ .plain text :: back.map .spelled) := by
    rw [classify_all_spelled leading, Word.classifyAll, if_neg whole, kept, last]
    rfl
  have taken : Progress.takeAll {} false (front.map .spelled ++ .plain text :: back.map .spelled) =
      .ok { invocation := Invocation.switched { program := some text } (front ++ back)
            programTaken := true } := by
    have behind := take_all_spelled trailing
      { invocation := Invocation.switched { program := some text } front, programTaken := true }
      true []
    rw [List.append_nil] at behind
    rw [take_all_spelled leading, Progress.takeAll, Invocation.switched_append]
    exact behind
  unfold readArguments
  rw [words]
  change (Progress.takeAll {} false _ >>= _ : Except EarlyExit Invocation) = _
  rw [taken]
  rfl

end Spelled

theorem Setting.apply_program {invocation next : Invocation} {setting : Setting}
    (applied : apply invocation setting = .ok next) : next.program = invocation.program := by
  unfold apply at applied
  split at applied <;> cases applied <;> rfl

theorem Setting.apply_all_program {invocation next : Invocation} {settings : List Setting}
    (applied : applyAll invocation settings = .ok next) : next.program = invocation.program := by
  induction settings generalizing invocation with
  | nil =>
      cases applied
      rfl
  | cons setting rest ih =>
      rw [applyAll] at applied
      cases first : apply invocation setting with
      | error exit =>
          rw [first] at applied
          cases applied
      | ok middle =>
          rw [first] at applied
          exact (ih applied).trans (apply_program first)

theorem Progress.program_of_take_all {progress final : Progress} {afterProgram : Bool}
    {words : List Word} (taken : progress.takeAll afterProgram words = .ok final) :
    final.invocation.program = progress.invocation.program ∨
      ∃ text, final.invocation.program = some text ∧ .plain text ∈ words := by
  -- one word after the other: only a plain one can set the program, the others leave it as it is
  fun_induction Progress.takeAll progress afterProgram words with
  | case1 progress afterProgram =>
      cases taken
      exact .inl rfl
  | case2 progress afterProgram text rest ih =>
      rcases ih taken with same | ⟨other, program, found⟩
      · unfold takePlain at same
        split at same
        · exact .inl same
        · exact .inr ⟨text, same, List.mem_cons_self⟩
      · exact .inr ⟨other, program, List.mem_cons_of_mem _ found⟩
  | case3 progress afterProgram rest ih =>
      rcases ih taken with same | ⟨other, program, found⟩
      · unfold takeDivider at same
        split at same <;> exact .inl same
      · exact .inr ⟨other, program, List.mem_cons_of_mem _ found⟩
  | case4 progress afterProgram text rest ih =>
      rcases ih taken with same | ⟨other, program, found⟩
      · exact .inl same
      · exact .inr ⟨other, program, List.mem_cons_of_mem _ found⟩
  | case5 progress afterProgram switch spelling text rest oneDash ih =>
      cases joined : (Setting.ofJoined switch oneDash text.toList).mapError EarlyExit.refused with
      | error exit =>
          rw [joined] at taken
          cases taken
      | ok settings =>
          rw [joined] at taken
          cases applied : Setting.applyAll progress.invocation settings with
          | error exit =>
              simp only [bind, Except.bind, applied] at taken
              cases taken
          | ok invocation =>
              simp only [bind, Except.bind, applied] at taken
              rcases ih invocation taken with same | ⟨other, program, found⟩
              · exact .inl (same.trans (Setting.apply_all_program applied))
              · exact .inr ⟨other, program, List.mem_cons_of_mem _ found⟩
  | case6 progress afterProgram switch spelling takes value rest ih =>
      cases applied : Setting.apply progress.invocation { switch, value := some value } with
      | error exit =>
          rw [applied] at taken
          cases taken
      | ok invocation =>
          rw [applied] at taken
          rcases ih invocation taken with same | ⟨other, program, found⟩
          · exact .inl (same.trans (Setting.apply_program applied))
          · exact .inr ⟨other, program, List.mem_cons_of_mem _ (List.mem_cons_of_mem _ found)⟩
  | case7 progress afterProgram switch spelling rest takes none => cases taken
  | case8 progress afterProgram switch spelling rest bare ih =>
      cases applied : Setting.apply progress.invocation { switch } with
      | error exit =>
          rw [applied] at taken
          cases taken
      | ok invocation =>
          rw [applied] at taken
          rcases ih invocation taken with same | ⟨other, program, found⟩
          · exact .inl (same.trans (Setting.apply_program applied))
          · exact .inr ⟨other, program, List.mem_cons_of_mem _ found⟩

/-- A word that is classified as plain is one of the arguments and plain, or stands behind a divider. -/
theorem Word.plain_of_classify_all {arguments : List String} {words : List Word} {text : String}
    (classified : classifyAll arguments = .ok words) (found : .plain text ∈ words) :
    Plain text ∨ ∃ front back, arguments = front ++ "--" :: back ∧ text ∈ back := by
  induction arguments generalizing words with
  | nil =>
      cases classified
      cases found
  | cons first rest ih =>
      rw [classifyAll] at classified
      split at classified
      case isTrue divides =>
        cases classified
        obtain ⟨other, behind, same⟩ : ∃ other ∈ rest, plain other = plain text := by simpa using found
        cases same
        exact .inr ⟨[], rest, by rw [divides]; rfl, behind⟩
      case isFalse whole =>
        cases own : classify first with
        | error fault =>
            rw [own] at classified
            cases classified
        | ok word =>
            cases others : classifyAll rest with
            | error fault =>
                simp only [bind, Except.bind, own, others] at classified
                cases classified
            | ok later =>
                simp only [bind, Except.bind, own, others] at classified
                cases classified
                rcases List.mem_cons.mp found with rfl | behind
                · exact .inl ((classify_eq_plain_iff.mp own).1 ▸ (classify_eq_plain_iff.mp own).2)
                · rcases ih others behind with plain | ⟨front, back, same, last⟩
                  · exact .inl plain
                  · exact .inr ⟨first :: front, back, by rw [same]; rfl, last⟩

theorem read_literal {text : String} {front back : List String} (plain : Word.Plain text)
    (leading : ∀ word ∈ front, word ∈ runSpellings) (trailing : ∀ word ∈ back, word ∈ runSpellings) :
    readArguments (front ++ "-source" :: text :: back) =
      .ok (Invocation.switched { program := some text } (front ++ ["-source"] ++ back)) := by
  have known {words : List String} (options : ∀ word ∈ words, word ∈ runSpellings) :
      ∀ word ∈ words, word ∈ literalSpellings ++ runSpellings :=
    fun word found => List.mem_append_right _ (options word found)
  have before : ∀ word ∈ front ++ ["-source"], word ∈ literalSpellings ++ runSpellings := by
    intro word found
    rcases List.mem_append.mp found with early | same
    · exact known leading word early
    · rw [List.mem_singleton.mp same]
      exact List.mem_cons_self
  have read := read_arguments_of_plain plain before (known trailing)
  rwa [List.append_assoc, List.singleton_append] at read

/-- Only the text itself can be a divider among options that precede and follow it. -/
theorem no_text_behind_divider {text : String} {front back first last : List String}
    (leading : ∀ word ∈ front, word ∈ runSpellings) (trailing : ∀ word ∈ back, word ∈ runSpellings)
    (split : front ++ "-source" :: text :: back = first ++ "--" :: last) : text ∉ last := by
  have absent {words : List String} (options : ∀ word ∈ words, word ∈ runSpellings) :
      words.count "--" = 0 :=
    List.count_eq_zero.mpr fun found => absurd (options _ found) (by decide)
  have counted := congrArg (List.count "--") split
  simp only [List.count_append, List.count_cons, absent leading, absent trailing] at counted
  intro behind
  by_cases divides : text = "--"
  · have again : 0 < last.count "--" := List.count_pos_iff.mpr (divides ▸ behind)
    simp [divides] at counted
    omega
  · simp [divides] at counted

/-- A text that the literal switch precedes is the program just when it is a plain word. -/
theorem literal_read_iff_plain {text : String} {front back : List String}
    (leading : ∀ word ∈ front, word ∈ runSpellings) (trailing : ∀ word ∈ back, word ∈ runSpellings) :
    (∃ invocation, readArguments (front ++ "-source" :: text :: back) = .ok invocation ∧
        invocation.program = some text) ↔ Word.Plain text := by
  constructor
  · rintro ⟨invocation, read, program⟩
    unfold readArguments at read
    cases classified : Word.classifyAll (front ++ "-source" :: text :: back) with
    | error fault =>
        rw [classified] at read
        cases read
    | ok words =>
        rw [classified] at read
        cases taken : Progress.takeAll {} false words with
        | error exit =>
            change (Progress.takeAll {} false words >>= _ : Except EarlyExit Invocation) = _ at read
            rw [taken] at read
            cases read
        | ok progress =>
            have same : progress.invocation = invocation := by
              change (Progress.takeAll {} false words >>= _ : Except EarlyExit Invocation) = _ at read
              rw [taken] at read
              change ite _ _ _ = _ at read
              split at read
              · cases read
              · split at read <;> cases read
                rfl
            rcases Progress.program_of_take_all taken with none | ⟨other, named, found⟩
            · rw [same, program] at none
              cases none
            · rw [same, program] at named
              cases named
              rcases Word.plain_of_classify_all classified found with plain | ⟨first, last, split, behind⟩
              · exact plain
              · exact absurd behind (no_text_behind_divider leading trailing split)
  · intro plain
    exact ⟨_, read_literal plain leading trailing, rfl⟩

end TapeLang.Cli
