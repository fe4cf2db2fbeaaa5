import TapeLang.Proofs.Semantics.Structured

/-!
Running a flat program by an instruction index. Where the layout of a forest stands in a program, the
flat run passes through it exactly as the forest executes: it comes out just behind the layout when the
forest completes, it is starved when the forest is, and it goes on for ever when the forest has no run.
-/

namespace TapeLang

namespace Flat

/-- The effect of the instruction at an index, with the index of the next one. There is none when the
instruction asks for input that has ended, or is not one that operators are compiled to. -/
def step (program : List Instruction) (config : Config) (ip : Nat) : Option (Config × Nat) :=
  match program[ip]? with
  | some (.counted kind count) => some (config.times count kind, ip + 1)
  | some .output => some (config.emit, ip + 1)
  | some .input => config.read.map (·, ip + 1)
  | some (.loopStart (some target)) =>
    some (config, if config.current = 0 then target.toNat else ip + 1)
  | some (.loopEnd start) => some (config, if config.current = 0 then ip + 1 else start.toNat)
  | _ => none

def run (program : List Instruction) : Nat → Config → Nat → Option (Ending × Config)
  | 0, config, ip => if program.length ≤ ip then some (.completed, config) else none
  | fuel + 1, config, ip =>
    if program.length ≤ ip then some (.completed, config)
    else
      match step program config ip with
      | some (after, next) => run program fuel after next
      | none => some (.starved, config)

variable {program : List Instruction} {config : Config} {ip : Nat}

theorem run_past (fuel : Nat) (past : program.length ≤ ip) :
    run program fuel config ip = some (.completed, config) := by
  cases fuel with
  | zero => rw [run, if_pos past]
  | succ fuel => rw [run, if_pos past]

theorem run_succ (fuel : Nat) (inside : ip < program.length) :
    run program (fuel + 1) config ip =
      match step program config ip with
      | some (after, next) => run program fuel after next
      | none => some (.starved, config) := by
  rw [run, if_neg (Nat.not_le_of_lt inside)]

theorem run_inside {fuel : Nat} {result : Ending × Config} (inside : ip < program.length)
    (ran : run program fuel config ip = some result) :
    ∃ rest, fuel = rest + 1 ∧
      (match step program config ip with
        | some (after, next) => run program rest after next
        | none => some (.starved, config)) = some result := by
  cases fuel with
  | zero =>
      rw [run, if_neg (Nat.not_le_of_lt inside)] at ran
      cases ran
  | succ rest =>
      rw [run_succ rest inside] at ran
      exact ⟨rest, rfl, ran⟩

end Flat

def LaidOut (program : List Instruction) (base : Nat) (trees : List (Tree Stretch)) : Prop :=
  ∃ front back, program = front ++ Tree.flatten base trees ++ back ∧ front.length = base

namespace LaidOut

variable {program : List Instruction} {base : Nat} {rest : List (Tree Stretch)}

theorem whole (trees : List (Tree Stretch)) : LaidOut (Tree.flatten 0 trees) 0 trees :=
  ⟨[], [], by simp, rfl⟩

theorem leaf {stretch : Stretch} {instruction : Instruction}
    (laid : LaidOut program base (.leaf stretch :: rest))
    (single : stretch.instructions = [instruction]) :
    program[base]? = some instruction ∧ LaidOut program (base + 1) rest := by
  rcases laid with ⟨front, back, rfl, rfl⟩
  rw [Tree.flatten, Tree.flattenOne, single]
  refine ⟨by simp, front ++ [instruction], back, by simp, by simp⟩

theorem loop {body : List (Tree Stretch)} (laid : LaidOut program base (.loop body :: rest)) :
    program[base]? = some (.loopStart (some ((base + (Tree.flatten 0 body).length + 2 : Nat) : Int))) ∧
      LaidOut program (base + 1) body ∧
      program[base + 1 + (Tree.flatten 0 body).length]? = some (.loopEnd base) ∧
      LaidOut program (base + (Tree.flatten 0 body).length + 2) rest := by
  rcases laid with ⟨front, back, rfl, rfl⟩
  let inner := Tree.flatten (front.length + 1) body
  let opening : Instruction := .loopStart (some ((front.length + inner.length + 2 : Nat) : Int))
  let past := Tree.flatten (front.length + inner.length + 2) rest
  have size : inner.length = (Tree.flatten 0 body).length := Tree.length_flatten _ body
  have stands : Tree.flatten front.length (.loop body :: rest) =
      opening :: (inner ++ .loopEnd front.length :: past) := by
    rw [Tree.flatten, Tree.flattenOne]
    simp [inner, opening, past, Nat.add_assoc]
  have closing : front ++ opening :: (inner ++ .loopEnd front.length :: past) ++ back =
      (front ++ opening :: inner) ++ .loopEnd front.length :: (past ++ back) := by simp
  rw [stands, ← size]
  refine ⟨by simp [opening], ?_, ?_, ?_⟩
  · exact ⟨front ++ [opening], .loopEnd front.length :: (past ++ back), by simp [inner], by simp⟩
  · have length : (front ++ opening :: inner).length = front.length + 1 + inner.length := by
      simp [Nat.add_assoc, Nat.add_comm 1]
    rw [closing, ← length, List.getElem?_append_right (Nat.le_refl _), Nat.sub_self]
    rfl
  · refine ⟨front ++ opening :: (inner ++ [.loopEnd front.length]), back, by simp [past], ?_⟩
    simp [Nat.add_assoc]

end LaidOut

namespace Flat

theorem step_leaf {program : List Instruction} {base : Nat} {stretch : Stretch}
    {rest : List (Tree Stretch)} (laid : LaidOut program base (.leaf stretch :: rest))
    (operator : stretch.atom.IsOperator) (config : Config) :
    base < program.length ∧ step program config base = (config.cover stretch).map (·, base + 1) ∧
      LaidOut program (base + 1) rest := by
  have only : ∃ instruction, stretch.instructions = [instruction] ∧
      ∀ found : program[base]? = some instruction,
        step program config base = (config.cover stretch).map (·, base + 1) := by
    rcases stretch with ⟨atom, count⟩
    cases atom with
    | counted kind => exact ⟨_, rfl, fun found => by simp [step, found, Config.cover]⟩
    | output => exact ⟨_, rfl, fun found => by simp [step, found, Config.cover, Config.act]⟩
    | input => exact ⟨_, rfl, fun found => by simp [step, found, Config.cover, Config.act]⟩
    | command payload => exact operator.elim
    | mark => exact operator.elim
  rcases only with ⟨instruction, single, effect⟩
  obtain ⟨found, later⟩ := laid.leaf single
  exact ⟨(List.getElem?_eq_some_iff.mp found).1, effect found, later⟩

/-- From a configuration at an index, a run of a program comes to an ending: it passes on to another
index, or it is starved. -/
def Leads (program : List Instruction) (config : Config) (ip : Nat) (ending : Ending) (after : Config)
    (past : Nat) : Prop :=
  ∃ cost, ∀ fuel, run program (cost + fuel) config ip =
    match ending with
    | .completed => run program fuel after past
    | .starved => some (.starved, after)

namespace Leads

variable {program : List Instruction} {config middle after : Config} {ip next past : Nat}
  {ending : Ending}

theorem refl (config : Config) (ip : Nat) : Leads program config ip .completed config ip :=
  ⟨0, fun fuel => by rw [Nat.zero_add]⟩

theorem step (inside : ip < program.length) (steps : step program config ip = some (middle, next))
    (leads : Leads program middle next ending after past) :
    Leads program config ip ending after past := by
  rcases leads with ⟨cost, reaches⟩
  refine ⟨cost + 1, fun fuel => ?_⟩
  rw [Nat.add_right_comm, run_succ _ inside, steps]
  exact reaches fuel

theorem starve (inside : ip < program.length) (starved : Flat.step program config ip = none) :
    Leads program config ip .starved config past := by
  refine ⟨1, fun fuel => ?_⟩
  rw [Nat.add_comm, run_succ _ inside, starved]

theorem trans (first : Leads program config ip .completed middle next)
    (second : Leads program middle next ending after past) :
    Leads program config ip ending after past := by
  rcases first with ⟨firstCost, firstReaches⟩
  rcases second with ⟨secondCost, secondReaches⟩
  refine ⟨firstCost + secondCost, fun fuel => ?_⟩
  rw [Nat.add_assoc, firstReaches]
  exact secondReaches fuel

end Leads

section Loop

variable {program : List Instruction} {base : Nat} {body rest : List (Tree Stretch)}

theorem step_opening (laid : LaidOut program base (.loop body :: rest)) (config : Config) :
    base < program.length ∧
      step program config base = some (config,
        if config.current = 0 then base + (Tree.flatten 0 body).length + 2 else base + 1) := by
  rcases laid.loop with ⟨found, -⟩
  exact ⟨(List.getElem?_eq_some_iff.mp found).1, by simp only [step, found, Int.toNat_natCast]⟩

theorem step_closing (laid : LaidOut program base (.loop body :: rest)) (config : Config) :
    base + 1 + (Tree.flatten 0 body).length < program.length ∧
      step program config (base + 1 + (Tree.flatten 0 body).length) = some (config,
        if config.current = 0 then base + (Tree.flatten 0 body).length + 2 else base) := by
  rcases laid.loop with ⟨-, -, found, -⟩
  have behind : base + 1 + (Tree.flatten 0 body).length + 1 =
      base + (Tree.flatten 0 body).length + 2 := by omega
  exact ⟨(List.getElem?_eq_some_iff.mp found).1,
    by simp only [step, found, Int.toNat_natCast, behind]⟩

/-- A loop leads where it executes to, from its opening bracket and from its closing bracket alike. -/
theorem leads_of_loop {past : Nat} (laid : LaidOut program base (.loop body :: rest))
    (bodies : ∀ before ending after, Executes Config.cover body before ending after →
      Leads program before (base + 1) ending after (base + 1 + (Tree.flatten 0 body).length))
    (rests : ∀ before ending after, Executes Config.cover rest before ending after →
      Leads program before (base + (Tree.flatten 0 body).length + 2) ending after past)
    {before after : Config} {ending : Ending}
    (executes : Executes Config.cover (.loop body :: rest) before ending after) :
    Leads program before base ending after past ∧
      Leads program before (base + 1 + (Tree.flatten 0 body).length) ending after past := by
  -- after a round the run stands at the closing bracket, so both starts are followed together
  generalize whole : Tree.loop body :: rest = trees at executes
  induction executes with
  | nil => cases whole
  | leaf => cases whole
  | starve => cases whole
  | @skip _ _ before _ _ zero later =>
      cases whole
      obtain ⟨inside, opens⟩ := step_opening laid before
      obtain ⟨insideToo, closes⟩ := step_closing laid before
      rw [if_pos zero] at opens closes
      exact ⟨.step inside opens (rests _ _ _ later), .step insideToo closes (rests _ _ _ later)⟩
  | @again _ _ before _ _ _ nonzero round _ _ again =>
      cases whole
      obtain ⟨inside, opens⟩ := step_opening laid before
      obtain ⟨insideToo, closes⟩ := step_closing laid before
      rw [if_neg nonzero] at opens closes
      have fromOpening := Leads.step inside opens ((bodies _ _ _ round).trans (again rfl).2)
      exact ⟨fromOpening, .step insideToo closes fromOpening⟩
  | @broken _ _ before after nonzero round =>
      cases whole
      obtain ⟨inside, opens⟩ := step_opening laid before
      obtain ⟨insideToo, closes⟩ := step_closing laid before
      rw [if_neg nonzero] at opens closes
      have fromBody : Leads program before (base + 1) .starved after past := bodies _ _ _ round
      have fromOpening := Leads.step inside opens fromBody
      exact ⟨fromOpening, .step insideToo closes fromOpening⟩

end Loop

theorem length_flatten_leaf {stretch : Stretch} (operator : stretch.atom.IsOperator)
    (rest : List (Tree Stretch)) :
    (Tree.flatten 0 (.leaf stretch :: rest)).length = (Tree.flatten 0 rest).length + 1 := by
  rw [Tree.flatten_cons, List.length_append, length_relocate, Nat.add_comm]
  rcases stretch with ⟨atom, count⟩
  cases atom with
  | command payload => exact operator.elim
  | mark => exact operator.elim
  | _ => rfl

theorem length_flatten_loop (body rest : List (Tree Stretch)) :
    (Tree.flatten 0 (.loop body :: rest)).length =
      (Tree.flatten 0 body).length + 2 + (Tree.flatten 0 rest).length := by
  rw [Tree.flatten_cons, List.length_append, length_relocate, Tree.flatten_one_loop]
  simp

theorem leads_of_executes {program : List Instruction} {trees : List (Tree Stretch)}
    (operators : Tree.Every (·.atom.IsOperator) trees) {base : Nat} (laid : LaidOut program base trees)
    {before after : Config} {ending : Ending}
    (executes : Executes Config.cover trees before ending after) :
    Leads program before base ending after (base + (Tree.flatten 0 trees).length) := by
  induction operators generalizing base before ending after with
  | nil =>
      cases executes
      exact .refl before base
  | @leaf stretch rest here later ih =>
      obtain ⟨inside, steps, following⟩ := step_leaf laid here before
      rw [length_flatten_leaf here, Nat.add_comm _ 1, ← Nat.add_assoc]
      cases executes with
      | leaf acts goesOn =>
          rw [acts] at steps
          exact .step inside steps (ih following goesOn)
      | starve starved =>
          rw [starved] at steps
          exact .starve inside steps
  | @loop body rest inner later insideHolds laterHolds =>
      rcases laid.loop with ⟨-, bodyLaid, -, restLaid⟩
      rw [length_flatten_loop, ← Nat.add_assoc, ← Nat.add_assoc]
      exact (leads_of_loop laid (fun _ _ _ executes => insideHolds bodyLaid executes)
        (fun _ _ _ executes => laterHolds restLaid executes) executes).1

/-- How a run that ends has passed a forest: it has come out behind the layout with fuel to spare, or
it was starved inside. -/
inductive Passes (program : List Instruction) (trees : List (Tree Stretch)) (before : Config)
    (past fuel : Nat) (ending : Ending) (after : Config) : Prop where
  | through {middle : Config} {left : Nat} (less : left ≤ fuel)
      (executes : Executes Config.cover trees before .completed middle)
      (ran : run program left middle past = some (ending, after))
  | starved (starved : ending = .starved) (executes : Executes Config.cover trees before .starved after)

theorem Passes.earlier {program : List Instruction} {trees others : List (Tree Stretch)}
    {before middle after : Config} {past left fuel : Nat} {ending : Ending}
    (passes : Passes program others middle past left ending after) (less : left ≤ fuel)
    (leads : ∀ ending after, Executes Config.cover others middle ending after →
      Executes Config.cover trees before ending after) :
    Passes program trees before past fuel ending after := by
  cases passes with
  | through lessToo executes ran =>
      exact .through (Nat.le_trans lessToo less) (leads _ _ executes) ran
  | starved starved executes => exact .starved starved (leads _ _ executes)

theorem passes_of_run {program : List Instruction} (fuel : Nat) {trees : List (Tree Stretch)}
    (operators : Tree.Every (·.atom.IsOperator) trees) {base : Nat} (laid : LaidOut program base trees)
    {before after : Config} {ending : Ending}
    (ran : run program fuel before base = some (ending, after)) :
    Passes program trees before (base + (Tree.flatten 0 trees).length) fuel ending after := by
  -- Every round of a loop takes a step, so the fuel decides; the forest may stay the same.
  induction fuel using Nat.strongRecOn generalizing trees base before with
  | ind fuel ih =>
      cases operators with
      | nil => exact .through (Nat.le_refl fuel) (.nil before) ran
      | @leaf stretch rest here later =>
          obtain ⟨inside, steps, following⟩ := step_leaf laid here before
          obtain ⟨left, rfl, goesOn⟩ := run_inside inside ran
          rw [length_flatten_leaf here, Nat.add_comm _ 1, ← Nat.add_assoc]
          cases acts : before.cover stretch with
          | none =>
              rw [steps, acts] at goesOn
              cases goesOn
              exact .starved rfl (.starve acts)
          | some middle =>
              rw [steps, acts] at goesOn
              have passes := ih left (Nat.lt_succ_self left) later following goesOn
              exact passes.earlier (Nat.le_succ left) fun _ _ executes => .leaf acts executes
      | @loop body rest inner later =>
          rcases laid.loop with ⟨-, bodyLaid, -, restLaid⟩
          obtain ⟨inside, opens⟩ := step_opening laid before
          obtain ⟨left, rfl, goesOn⟩ := run_inside inside ran
          rw [opens] at goesOn
          rw [length_flatten_loop, ← Nat.add_assoc, ← Nat.add_assoc]
          by_cases zero : before.current = 0
          · rw [if_pos zero] at goesOn
            have passes := ih left (Nat.lt_succ_self left) later restLaid goesOn
            exact passes.earlier (Nat.le_succ left) fun _ _ executes => .skip zero executes
          · rw [if_neg zero] at goesOn
            cases ih left (Nat.lt_succ_self left) inner bodyLaid goesOn with
            | starved starved round => exact .starved starved (.broken zero round)
            | @through middle atEnd less round ranOn =>
                obtain ⟨insideToo, closes⟩ := step_closing laid middle
                obtain ⟨last, rfl, goesBack⟩ := run_inside insideToo ranOn
                rw [closes] at goesBack
                by_cases done : middle.current = 0
                · rw [if_pos done] at goesBack
                  have passes := ih last (by omega) later restLaid goesBack
                  exact passes.earlier (by omega) fun _ _ executes =>
                    .again zero round (.skip done executes)
                · rw [if_neg done] at goesBack
                  have passes := ih last (by omega) (.loop inner later) laid goesBack
                  rw [length_flatten_loop, ← Nat.add_assoc, ← Nat.add_assoc] at passes
                  exact passes.earlier (by omega) fun _ _ executes => .again zero round executes

/-- The flat run of a layout ends exactly as the forest executes. -/
theorem run_flatten_iff {trees : List (Tree Stretch)}
    (operators : Tree.Every (·.atom.IsOperator) trees) (before after : Config) (ending : Ending) :
    (∃ fuel, run (Tree.flatten 0 trees) fuel before 0 = some (ending, after)) ↔
      Executes Config.cover trees before ending after := by
  constructor
  · intro runs
    rcases runs with ⟨fuel, ran⟩
    cases passes_of_run fuel operators (.whole trees) ran with
    | through _ executes rest =>
        rw [run_past _ (by simp)] at rest
        cases rest
        exact executes
    | starved starved executes =>
        rw [starved]
        exact executes
  · intro executes
    obtain ⟨cost, reaches⟩ := leads_of_executes operators (.whole trees) executes
    refine ⟨cost + 0, (reaches 0).trans ?_⟩
    cases ending with
    | completed => exact run_past 0 (by simp)
    | starved => rfl

end Flat

end TapeLang
