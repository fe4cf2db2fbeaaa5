import TapeLang.Proofs.Machine.Failure
import TapeLang.Proofs.Session.Keyboard

/-!
Which steps take typed lines. On a machine with the built-in commands, a step leaves the typed lines alone
unless it executes a read while no byte is pending, and then it takes the first of them. So the lines that a
run takes are each taken by one read, in order.
-/

namespace TapeLang

namespace Source

def lines : Source → List String
  | .typed keyboard => keyboard.lines
  | .queue _ _ => []

def pending : Source → Bytes
  | .typed keyboard => keyboard.pending
  | .queue _ _ => []

/-- A read leaves the lines alone, or takes the first one when nothing is pending. -/
theorem lines_take (source : Source) :
    source.take.2.lines = source.lines ∨
      (source.pending = [] ∧ ∃ line, source.lines = line :: source.take.2.lines) := by
  cases source with
  | queue items after => cases items <;> exact .inl rfl
  | typed keyboard =>
      rcases keyboard.take_cases with
        ⟨byte, rest, pending, taken⟩ | ⟨line, lines, byte, rest, pending, typed, bytes, taken⟩ |
          ⟨pending, typed, taken⟩
      · rw [taken]
        exact .inl rfl
      · rw [taken]
        exact .inr ⟨pending, line, typed⟩
      · rw [taken]
        exact .inl rfl

end Source

/-- A step takes no line, or the first one, which it does when it executes a read while nothing is pending. -/
inductive World.Takes (before : World) : List String → World → Prop where
  | nothing {after : World} (kept : after.source.lines = before.source.lines) : Takes before [] after
  | line {after : World} {line : String}
      (reads : before.machine.fetch before.machine.ip = .ok .input)
      (idle : before.source.pending = [])
      (typed : before.source.lines = line :: after.source.lines) : Takes before [line] after

theorem World.Takes.lines {before after : World} {used : List String} (takes : before.Takes used after) :
    before.source.lines = used ++ after.source.lines := by
  cases takes with
  | nothing kept => exact kept.symm
  | line reads idle typed => exact typed

structure World.Untouched (source : Source) (world : World) : Prop where
  builtin : world.host.services.Builtin
  source : world.source = source

namespace World.Untouched

variable {source : Source} {world : World}

theorem emit (untouched : world.Untouched source) (bytes : Bytes) :
    Run.Yields (Run.emit bytes) world (fun _ after => after.Untouched source)
      fun _ after => after.Untouched source :=
  Run.keeps_emit (fun _ _ still => { still with }) (fun _ _ still => { still with }) bytes world
    untouched

theorem coupling (source : Source) :
    Run.Coupling (fun left right => left = right ∧ left.Untouched source) fun _ => True where
  builtin := by
    rintro left right ⟨rfl, untouched⟩
    exact ⟨untouched.builtin, untouched.builtin⟩
  files := by
    rintro left right ⟨rfl, untouched⟩
    rfl
  tape := by
    rintro left right ⟨rfl, untouched⟩
    rfl
  pointer := by
    rintro left right ⟨rfl, untouched⟩
    rfl
  place := by
    rintro left right ⟨rfl, untouched⟩ tape pointer
    exact ⟨rfl, { untouched with }⟩
  event := by
    rintro left right ⟨rfl, untouched⟩ rule details
    exact ⟨rfl, { untouched with }⟩
  skip := by
    rintro left right ⟨rfl, untouched⟩ path fault
    exact .ok trivial ⟨rfl, { untouched with }⟩
  append := by
    rintro left right ⟨rfl, untouched⟩ fragment
    exact ⟨rfl, { untouched with }⟩
  emit := by
    rintro left right ⟨rfl, untouched⟩ bytes
    exact Run.matched_self (fun _ => trivial) (untouched.emit bytes)
  ordinary _ _ := trivial

theorem exec (untouched : world.Untouched source) {instruction : Instruction} (ip : Int)
    (other : instruction ≠ .input) :
    Run.Yields (Run.exec instruction ip) world (fun _ after => after.Untouched source)
      fun _ after => after.Untouched source := by
  apply Run.yields_of_matched_self
  apply (coupling source).exec ⟨rfl, untouched⟩ instruction ip
  intro reads
  exact absurd reads other

end World.Untouched

namespace Run

theorem yields_input_source (world : World) (ip : Int) :
    Yields (exec .input ip) world
      (fun _ after => after.source = world.source ∨ after.source = world.source.take.2)
      fun _ after => after.source = world.source ∨ after.source = world.source.take.2 := by
  have flushed : Yields flush world (fun _ after => after.source = world.source)
      fun _ after => after.source = world.source := by
    rw [yields_flush]
    refine ⟨fun _ => rfl, ?_⟩
    intro outlet _
    rw [yields_settle]
    exact ⟨fun _ => rfl, fun _ _ => rfl⟩
  have written (byte : UInt8) (source : Source) :
      Keeps (fun world => world.source = source) (writeCell byte) :=
    keeps_machine.bind fun _ => (keeps_lift _ _).bind fun _ => fun _ holds => holds
  rw [exec, yields_bind, yields_read_byte]
  apply flushed.mono
  · intro _ after same
    have taken : after.afterRead.source = world.source.take.2 := congrArg (·.take.2) same
    refine ⟨?_, fun _ _ => .inr taken⟩
    intro byte _
    rw [yields_bind]
    exact (written byte _ _ taken).mono (fun _ _ still => .inr still) fun _ _ still => .inr still
  · intro fault after same
    exact .inl same

theorem yields_step_takes {world : World} (builtin : world.host.services.Builtin) :
    Yields step world (fun _ after => ∃ used, world.Takes used after)
      fun _ after => ∃ used, world.Takes used after := by
  cases fetched : world.machine.fetch world.machine.ip with
  | error fault =>
      rw [step, yields_bind, yields_machine, fetched]
      exact ⟨[], .nothing rfl⟩
  | ok instruction =>
      rw [yields_step fetched]
      by_cases reads : instruction = .input
      case neg =>
        have untouched : World.Untouched world.source
            { world with machine := world.machine.logStep instruction } := ⟨builtin, rfl⟩
        have kept (after : World) (still : after.Untouched world.source) :
            ∃ used, world.Takes used after := ⟨[], .nothing (congrArg Source.lines still.source)⟩
        exact (untouched.exec _ reads).mono (fun _ after still => kept _ { still with })
          fun _ after => kept after
      case pos =>
        have taken (after : World)
            (source : after.source = world.source ∨ after.source = world.source.take.2) :
            ∃ used, world.Takes used after := by
          rcases source with same | same
          · exact ⟨[], .nothing (congrArg Source.lines same)⟩
          · rcases world.source.lines_take with kept | ⟨idle, line, typed⟩
            · exact ⟨[], .nothing (by rw [same, kept])⟩
            · exact ⟨[line], .line (reads ▸ fetched) idle (by rw [same, typed])⟩
        subst reads
        have reading := yields_input_source { world with machine := world.machine.logStep .input }
          world.machine.ip
        apply reading.mono ?_ fun _ after => taken after
        intro next after source
        exact taken { after with machine := { after.machine with ip := next } } source

/-- Steps one after the other, the last of which may fail, with the lines that they take. -/
inductive Consumes : World → List String → World → Prop where
  | done {world : World} : Consumes world [] world
  | failed {world after : World} {fault : Fault} {used : List String}
      (fails : step world = .error fault after) (takes : world.Takes used after) :
      Consumes world used after
  | step {world middle after : World} {used more : List String}
      (stepped : step world = .ok () middle) (takes : world.Takes used middle)
      (rest : Consumes middle more after) : Consumes world (used ++ more) after

theorem Consumes.lines {world after : World} {used : List String}
    (consumes : Consumes world used after) : world.source.lines = used ++ after.source.lines := by
  induction consumes with
  | done => rfl
  | failed fails takes => exact takes.lines
  | step stepped takes rest ih => rw [takes.lines, ih, List.append_assoc]

theorem consumes_of_halted {fuel : Nat} {world executed : World} {failure : Option Fault}
    (halted : world.machine.halted = true) (stops : steps fuel world = stopped failure executed) :
    Consumes world [] executed := by
  rw [steps_of_halted fuel halted] at stops
  cases failure <;> cases stops
  exact .done

/-- A machine that steps until it stops takes the lines that its steps take. -/
theorem consumes_of_steps {fuel : Nat} {world executed : World} {failure : Option Fault}
    (builtin : world.host.services.Builtin) (stops : steps fuel world = stopped failure executed) :
    ∃ used, Consumes world used executed := by
  induction fuel generalizing world with
  | zero =>
      cases halted : world.machine.halted with
      | true => exact ⟨[], consumes_of_halted halted stops⟩
      | false =>
          rw [steps_zero, halted] at stops
          cases failure <;> cases stops
  | succ fuel ih =>
      cases halted : world.machine.halted with
      | true => exact ⟨[], consumes_of_halted halted stops⟩
      | false =>
          have takes := yields_step_takes builtin
          rw [steps_succ_of_running fuel halted, bind_eq] at stops
          cases stepped : step world with
          | ok _ middle =>
              rw [stepped] at stops
              obtain ⟨first, taken⟩ := takes.of_ok stepped
              have later := (advances_step builtin).of_ok stepped
              obtain ⟨rest, consumes⟩ := ih (later.builtin builtin) stops
              exact ⟨first ++ rest, .step stepped taken consumes⟩
          | error fault after =>
              rw [stepped] at stops
              obtain ⟨first, taken⟩ := takes.of_error stepped
              cases failure <;> cases stops
              exact ⟨first, .failed stepped taken⟩

theorem run_consumes {fuel : Nat} {outlet : Outlet} {world : World} {ended : Ended}
    (builtin : world.host.services.Builtin) (ran : run fuel outlet world = some ended) :
    ∃ used executed, Consumes (world.attach outlet) used executed ∧
      ended.world.source = executed.source := by
  cases halted : world.machine.halted with
  | true =>
      rw [run_of_halted fuel outlet halted] at ran
      cases ran
      exact ⟨[], _, .done, rfl⟩
  | false =>
      obtain ⟨failure, executed, stops, rfl⟩ := ending_of_builtin builtin ran halted
      have attached : (world.attach outlet).host.services.Builtin := builtin
      obtain ⟨used, consumes⟩ := consumes_of_steps attached stops
      obtain ⟨_, _, same⟩ := ending_frame outlet failure executed
      exact ⟨used, executed, consumes, by rw [same]⟩

end Run

end TapeLang
