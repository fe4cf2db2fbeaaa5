import TapeLang.Proofs.Machine.Telling

/-!
What a run makes others do, in order. The chronicle of a run is its path through the worlds with every event
that is told and every handler that is called on the way: the start, then each command that can be called
with what is told before and after it, and in the end either the end or the error. Steps that execute
anything else tell nothing, which leaves the notes and the services as they are.
-/

namespace TapeLang

/-- Something that a run makes others do: all listeners of an event were called, or one of them raised
something; a handler returned, or it failed. -/
inductive Moment where
  | told (occasion : Occasion) (arguments : List String)
  | refused (occasion : Occasion) (arguments : List String) (fault : Fault)
  | handled (name : String) (arguments : List String)
  | failed (name : String) (arguments : List String) (fault : Fault)

def Occasion.closing : Option Fault → Occasion
  | none => .programEnd 0
  | some fault => .onError fault

structure World.Dispatches (world : World) (text : String) (spec : CommandSpec) : Prop where
  fetched : world.machine.fetch world.machine.ip = .ok (.command text)
  named : commandName text ≠ ""
  bound : world.host.services.commands.lookup (commandName text) = some spec
  accepted : spec.accepts (commandArguments text).length = true

def World.Unheard (before after : World) : Prop :=
  after.host.notes = before.host.notes ∧ after.host.services = before.host.services

namespace Run

def Tells (occasion : Occasion) (arguments : List String) (before : World) (left : List String)
    (after : World) : Prop :=
  ∃ event, occasion.event? = some event ∧ notify event occasion arguments before = .ok left after ∧
    Calls occasion (after.host.services.listenersOf event) arguments before left after

def Refuses (occasion : Occasion) (arguments : List String) (before : World) (fault : Fault)
    (after : World) : Prop :=
  ∃ event, occasion.event? = some event ∧ notify event occasion arguments before = .error fault after ∧
    Raises occasion after

inductive Serves (name : String) (spec : CommandSpec) (arguments : List String) (before : World) :
    List Moment → Option Fault → World → Prop where
  | served {given left last : List String} {middle next after : World}
      (announced : Tells (.beforeCommand name) arguments before given middle)
      (handled : handle spec given middle = .ok left next)
      (concluded : Tells (.afterCommand name) left next last after) :
      Serves name spec arguments before
        [.told (.beforeCommand name) arguments, .handled name given, .told (.afterCommand name) left]
        none after
  | failed {given : List String} {middle after : World} {fault : Fault}
      (announced : Tells (.beforeCommand name) arguments before given middle)
      (fails : handle spec given middle = .error fault after) :
      Serves name spec arguments before
        [.told (.beforeCommand name) arguments, .failed name given fault] (some fault) after
  | unannounced {after : World} {fault : Fault}
      (refuses : Refuses (.beforeCommand name) arguments before fault after) :
      Serves name spec arguments before [.refused (.beforeCommand name) arguments fault] (some fault)
        after
  | unconcluded {given left : List String} {middle next after : World} {fault : Fault}
      (announced : Tells (.beforeCommand name) arguments before given middle)
      (handled : handle spec given middle = .ok left next)
      (refuses : Refuses (.afterCommand name) left next fault after) :
      Serves name spec arguments before
        [.told (.beforeCommand name) arguments, .handled name given,
          .refused (.afterCommand name) left fault]
        (some fault) after

/-- The steps from a world on, until the machine halts or a step fails. -/
inductive Recounts : World → List Moment → Option Fault → World → Prop where
  | halted {world : World} (halted : world.machine.halted = true) : Recounts world [] none world
  | quiet {world middle after : World} {moments : List Moment} {failure : Option Fault}
      (running : world.machine.halted = false) (idle : ∀ text spec, ¬world.Dispatches text spec)
      (stepped : step world = .ok () middle) (unheard : world.Unheard middle)
      (rest : Recounts middle moments failure after) : Recounts world moments failure after
  | stuck {world after : World} {fault : Fault}
      (running : world.machine.halted = false) (idle : ∀ text spec, ¬world.Dispatches text spec)
      (stepped : step world = .error fault after) (unheard : world.Unheard after) :
      Recounts world [] (some fault) after
  | served {world middle after : World} {text : String} {spec : CommandSpec}
      {first moments : List Moment} {failure : Option Fault}
      (running : world.machine.halted = false) (dispatches : world.Dispatches text spec)
      (serves : Serves (commandName text) spec (commandArguments text)
        { world with machine := world.machine.logStep (.command text) } first none middle)
      (rest : Recounts { middle with machine := { middle.machine with ip := world.machine.ip + 1 } }
        moments failure after) :
      Recounts world (first ++ moments) failure after
  | broken {world after : World} {text : String} {spec : CommandSpec} {first : List Moment}
      {fault : Fault}
      (running : world.machine.halted = false) (dispatches : world.Dispatches text spec)
      (serves : Serves (commandName text) spec (commandArguments text)
        { world with machine := world.machine.logStep (.command text) } first (some fault) after) :
      Recounts world first (some fault) after

/-- The whole run of a machine that has not halted, with its verdict, up to the last flush. -/
inductive Chronicle (outlet : Outlet) (world : World) : List Moment → Option Fault → World → Prop where
  | judged {given left : List String} {started executed last : World} {moments : List Moment}
      {failure : Option Fault}
      (starts : Tells .programStart [] (world.attach outlet) given started)
      (recounts : Recounts started moments failure executed)
      (closes : Tells (.closing failure) [] executed left last) :
      Chronicle outlet world
        (.told .programStart [] :: moments ++ [.told (.closing failure) []])
        (failure.map (reported last.machine)) last
  | unstarted {fault : Fault} {after : World}
      (refuses : Refuses .programStart [] (world.attach outlet) fault after) :
      Chronicle outlet world [.refused .programStart [] fault] (some fault) after
  | unclosed {given : List String} {started executed last : World} {moments : List Moment}
      {failure : Option Fault} {fault : Fault}
      (starts : Tells .programStart [] (world.attach outlet) given started)
      (recounts : Recounts started moments failure executed)
      (refuses : Refuses (.closing failure) [] executed fault last) :
      Chronicle outlet world
        (.told .programStart [] :: moments ++ [.refused (.closing failure) [] fault])
        (some fault) last

section Notify

variable {event : Event} {occasion : Occasion} {arguments left : List String} {before after : World}
  {fault : Fault}

theorem tells_of_notify (named : occasion.event? = some event)
    (notified : notify event occasion arguments before = .ok left after) :
    Tells occasion arguments before left after :=
  ⟨event, named, notified, calls_of_notify notified⟩

theorem refuses_of_notify (named : occasion.event? = some event)
    (failed : notify event occasion arguments before = .error fault after) :
    Refuses occasion arguments before fault after :=
  ⟨event, named, failed, raises_of_notify failed⟩

end Notify

theorem resolve_eq_ok_iff {registry : Registry} {text : String} {ip : Int} {spec : CommandSpec} :
    resolve registry text ip = .ok spec ↔
      commandName text ≠ "" ∧ registry.lookup (commandName text) = some spec ∧
        spec.accepts (commandArguments text).length = true := by
  constructor
  · intro resolved
    rcases resolve_cases registry text with ⟨-, refused⟩ | ⟨other, found, ⟨-, refused⟩ | ⟨accepted, resolves⟩⟩
    · cases (refused ip).symm.trans resolved
    · cases (refused ip).symm.trans resolved
    · cases (resolves ip).symm.trans resolved
      refine ⟨?_, found, accepted⟩
      intro empty
      simp [resolve, empty] at resolved
  · rintro ⟨named, found, accepted⟩
    simp [resolve, named, found, accepted]

theorem yields_command_serves {world : World} {text : String} {ip : Int} {spec : CommandSpec}
    (resolved : resolve world.host.services.commands text ip = .ok spec) :
    Yields (command text ip) world
      (fun _ after => ∃ moments,
        Serves (commandName text) spec (commandArguments text) world moments none after)
      fun fault after => ∃ moments,
        Serves (commandName text) spec (commandArguments text) world moments (some fault) after := by
  rw [command, yields_bind, yields_get, yields_bind, resolved]
  change Yields (_ >>= _) world _ _
  rw [yields_bind]
  unfold Yields
  cases announced : notify .beforeCommand (.beforeCommand (commandName text)) (commandArguments text)
      world with
  | error fault after => exact ⟨_, .unannounced (refuses_of_notify rfl announced)⟩
  | ok given middle =>
      have tells := tells_of_notify rfl announced
      dsimp only
      rw [bind_eq]
      cases handled : handle spec given middle with
      | error fault after => exact ⟨_, .failed tells handled⟩
      | ok left next =>
          dsimp only
          rw [discard_eq]
          cases concluded : notify .afterCommand (.afterCommand (commandName text)) left next with
          | error fault after =>
              exact ⟨_, .unconcluded tells handled (refuses_of_notify rfl concluded)⟩
          | ok last after => exact ⟨_, .served tells handled (tells_of_notify rfl concluded)⟩

theorem keeps_unheard_exec (world : World) (instruction : Instruction) (ip : Int)
    (plain : ∀ text, instruction ≠ .command text) :
    Keeps world.Unheard (exec instruction ip) := by
  have cell : Keeps world.Unheard readCell := keeps_machine.bind fun _ => keeps_lift _ _
  have change (change : Machine → Machine) : Keeps world.Unheard (modifyMachine change) :=
    fun _ holds => holds
  have update (change : UInt8 → UInt8) : Keeps world.Unheard (updateCell change) :=
    keeps_machine.bind fun _ => (keeps_lift _ _).bind fun _ => (keeps_lift _ _).bind fun _ =>
      fun _ holds => holds
  cases instruction with
  | counted kind count =>
      have counted : Keeps world.Unheard (execCounted count kind) := by
        cases kind with
        | increment => exact update _
        | decrement => exact update _
        | shiftLeft => exact fun _ holds => holds
        | shiftRight => exact fun _ holds => holds
      exact counted.bind fun _ => keeps_pure _
  | output =>
      exact cell.bind fun _ =>
        Keeps.bind (keeps_emit (fun _ _ holds => holds) (fun _ _ holds => holds) _) fun _ => keeps_pure _
  | input =>
      have write (byte : UInt8) : Keeps world.Unheard (writeCell byte) :=
        keeps_machine.bind fun _ => (keeps_lift _ _).bind fun _ => fun _ holds => holds
      exact Keeps.bind (keeps_read_byte (fun _ _ holds => holds) fun _ holds => holds) fun byte =>
        (write byte).bind fun _ => keeps_pure _
  | loopStart target =>
      cases target with
      | none => exact keeps_throw _
      | some target => exact cell.bind fun _ => keeps_pure _
  | loopEnd start => exact cell.bind fun _ => keeps_pure _
  | command text => exact absurd rfl (plain text)
  | foreign text => exact keeps_throw _

section Steps

variable {world : World}

theorem yields_step_unheard (idle : ∀ text spec, ¬world.Dispatches text spec) :
    Yields step world (fun _ after => world.Unheard after) fun _ after => world.Unheard after := by
  cases fetched : world.machine.fetch world.machine.ip with
  | error fault =>
      rw [step, yields_bind, yields_machine, fetched]
      exact ⟨rfl, rfl⟩
  | ok instruction =>
      rw [yields_step fetched]
      by_cases commands : ∃ text, instruction = .command text
      case neg =>
        have keeps := keeps_unheard_exec world instruction world.machine.ip
          fun text same => commands ⟨text, same⟩
        exact keeps _ ⟨rfl, rfl⟩
      case pos =>
        obtain ⟨text, rfl⟩ := commands
        rw [exec, yields_bind, command, yields_bind, yields_get, yields_bind, yields_lift]
        refine ⟨?_, fun _ _ => ⟨rfl, rfl⟩⟩
        intro spec resolved
        obtain ⟨named, bound, accepted⟩ := resolve_eq_ok_iff.mp resolved
        exact absurd ⟨fetched, named, bound, accepted⟩ (idle text spec)

theorem yields_step_serves {text : String} {spec : CommandSpec} (dispatches : world.Dispatches text spec) :
    Yields step world
      (fun _ after => ∃ moments middle,
        Serves (commandName text) spec (commandArguments text)
          { world with machine := world.machine.logStep (.command text) } moments none middle ∧
        after = { middle with machine := { middle.machine with ip := world.machine.ip + 1 } })
      fun fault after => ∃ moments,
        Serves (commandName text) spec (commandArguments text)
          { world with machine := world.machine.logStep (.command text) } moments (some fault) after := by
  have resolved : resolve world.host.services.commands text world.machine.ip = .ok spec :=
    resolve_eq_ok_iff.mpr ⟨dispatches.named, dispatches.bound, dispatches.accepted⟩
  rw [yields_step dispatches.fetched, exec]
  apply Yields.bind (@yields_command_serves
    { world with machine := world.machine.logStep (.command text) } text world.machine.ip spec resolved)
  intro _ middle served
  obtain ⟨moments, serves⟩ := served
  exact ⟨moments, middle, serves, rfl⟩

theorem Recounts.behind_step {middle after : World} {moments : List Moment} {failure : Option Fault}
    (rest : Recounts middle moments failure after) (running : world.machine.halted = false)
    (stepped : step world = .ok () middle) : ∃ all, Recounts world all failure after := by
  by_cases dispatched : ∃ text spec, world.Dispatches text spec
  case pos =>
    obtain ⟨text, spec, dispatches⟩ := dispatched
    obtain ⟨first, last, served, rfl⟩ := (yields_step_serves dispatches).of_ok stepped
    exact ⟨first ++ moments, .served running dispatches served rest⟩
  case neg =>
    have idle (text : String) (spec : CommandSpec) : ¬world.Dispatches text spec :=
      fun dispatches => dispatched ⟨text, spec, dispatches⟩
    exact ⟨moments, .quiet running idle stepped ((yields_step_unheard idle).of_ok stepped) rest⟩

theorem recounts_of_failing_step {after : World} {fault : Fault} (running : world.machine.halted = false)
    (stepped : step world = .error fault after) : ∃ moments, Recounts world moments (some fault) after := by
  by_cases dispatched : ∃ text spec, world.Dispatches text spec
  case pos =>
    obtain ⟨text, spec, dispatches⟩ := dispatched
    obtain ⟨first, broken⟩ := (yields_step_serves dispatches).of_error stepped
    exact ⟨first, .broken running dispatches broken⟩
  case neg =>
    have idle (text : String) (spec : CommandSpec) : ¬world.Dispatches text spec :=
      fun dispatches => dispatched ⟨text, spec, dispatches⟩
    exact ⟨[], .stuck running idle stepped ((yields_step_unheard idle).of_error stepped)⟩

theorem recounts_of_halted {fuel : Nat} {failure : Option Fault} {executed : World}
    (halted : world.machine.halted = true) (stops : steps fuel world = stopped failure executed) :
    Recounts world [] failure executed := by
  rw [steps_of_halted fuel halted] at stops
  cases failure with
  | none =>
      cases stops
      exact .halted halted
  | some fault => cases stops

theorem recounts_of_steps {fuel : Nat} {failure : Option Fault} {executed : World}
    (stops : steps fuel world = stopped failure executed) :
    ∃ moments, Recounts world moments failure executed := by
  induction fuel generalizing world with
  | zero =>
      cases halted : world.machine.halted with
      | true => exact ⟨[], recounts_of_halted halted stops⟩
      | false =>
          rw [steps_zero, halted] at stops
          cases failure <;> cases stops
  | succ fuel ih =>
      cases halted : world.machine.halted with
      | true => exact ⟨[], recounts_of_halted halted stops⟩
      | false =>
          rw [steps_succ_of_running fuel halted, bind_eq] at stops
          cases stepped : step world with
          | ok _ middle =>
              rw [stepped] at stops
              obtain ⟨moments, rest⟩ := ih stops
              exact rest.behind_step halted stepped
          | error fault after =>
              rw [stepped] at stops
              cases failure <;> cases stops
              exact recounts_of_failing_step halted stepped

end Steps

theorem judged_of_notify (failure : Option Fault) (world : World) :
    (∃ left last, Tells (.closing failure) [] world left last ∧
        judged failure world = (failure.map (reported last.machine), last)) ∨
      ∃ fault last, Refuses (.closing failure) [] world fault last ∧
        judged failure world = (some fault, last) := by
  unfold judged
  cases failure with
  | none =>
      rw [judge, bind_eq, discard_eq]
      cases notified : notify .programEnd (.programEnd 0) [] world with
      | ok left last => exact .inl ⟨left, last, tells_of_notify rfl notified, rfl⟩
      | error fault last => exact .inr ⟨fault, last, refuses_of_notify rfl notified, rfl⟩
  | some fault =>
      rw [judge, bind_eq, discard_eq]
      cases notified : notify .onError (.onError fault) [] world with
      | ok left last => exact .inl ⟨left, last, tells_of_notify rfl notified, rfl⟩
      | error raised last => exact .inr ⟨raised, last, refuses_of_notify rfl notified, rfl⟩

theorem conclusion_outcome (outlet : Outlet) (verdict : Option Fault) (last : World) :
    (conclusion outlet verdict last).verdict = verdict ∧
      (conclusion outlet verdict last).fault = last.flushFault.or verdict := by
  unfold conclusion
  rw [conclude, bind_eq]
  rcases flush_result last with ⟨passes, after, flushed⟩ | ⟨fault, after, raises, flushed⟩
  · rw [flushed, passes]
    exact ⟨rfl, rfl⟩
  · rw [flushed, raises]
    exact ⟨rfl, rfl⟩

theorem unheard_conclusion (outlet : Outlet) (verdict : Option Fault) (last : World) :
    last.Unheard (conclusion outlet verdict last).world :=
  conclusion_keeps last.Unheard (fun _ _ same => ⟨same.1, same.2⟩) (fun _ same => ⟨same.1, same.2⟩) outlet
    verdict ⟨rfl, rfl⟩

/-- Every run of a machine that has not halted has a chronicle, and nothing but the last flush comes after
it. -/
theorem chronicle_of_run {fuel : Nat} {outlet : Outlet} {world : World} {ended : Ended}
    (running : world.machine.halted = false) (ran : run fuel outlet world = some ended) :
    ∃ moments last, Chronicle outlet world moments ended.verdict last ∧ last.Unheard ended.world ∧
      (ended.fault = last.flushFault.or ended.verdict ∨
        ∃ fault, .refused .programStart [] fault ∈ moments) := by
  cases course_of_run running ran with
  | @refused fault after starts =>
      exact ⟨_, after, .unstarted (refuses_of_notify rfl starts), ⟨rfl, rfl⟩,
        .inr ⟨fault, List.mem_singleton_self _⟩⟩
  | @concluded arguments started executed failure starts stops =>
      have begins := tells_of_notify rfl starts
      obtain ⟨moments, recounts⟩ := recounts_of_steps stops
      rcases judged_of_notify failure executed with
        ⟨left, last, closes, judged⟩ | ⟨fault, last, refuses, judged⟩
      · obtain ⟨verdict, fault⟩ := conclusion_outcome outlet (failure.map (reported last.machine)) last
        rw [judged, verdict]
        exact ⟨_, last, .judged begins recounts closes, unheard_conclusion outlet _ last, .inl fault⟩
      · obtain ⟨verdict, raised⟩ := conclusion_outcome outlet (some fault) last
        rw [judged, verdict]
        exact ⟨_, last, .unclosed begins recounts refuses, unheard_conclusion outlet _ last, .inl raised⟩

end Run

/-- Commands one after the other: each is announced, handled and concluded. One whose handler fails is
announced and not concluded, and nothing follows it. -/
inductive Rounds : List Moment → Option Fault → Prop where
  | done (failure : Option Fault) : Rounds [] failure
  | command {name : String} {arguments given left : List String} {rest : List Moment}
      {failure : Option Fault} (later : Rounds rest failure) :
      Rounds (.told (.beforeCommand name) arguments :: .handled name given ::
        .told (.afterCommand name) left :: rest) failure
  | failed {name : String} {arguments given : List String} {fault : Fault} :
      Rounds [.told (.beforeCommand name) arguments, .failed name given fault] (some fault)

def Moment.Unrefused (moments : List Moment) : Prop :=
  ∀ occasion arguments fault, .refused occasion arguments fault ∉ moments

/-- The listener never raises anything, whenever it is called. -/
def Listener.Calm (listener : Listener) : Prop :=
  ∀ occasion arguments world fault after,
    Run.performAll ⟨listener.owner, occasion⟩ arguments listener.script world ≠ .error fault after

def Action.isNote : Action → Bool
  | .note _ => true
  | _ => false

def Listener.notesOnly (listener : Listener) : Bool := listener.script.all Action.isNote

theorem Listener.Calm.of_notes {listener : Listener} (notes : listener.notesOnly = true) :
    listener.Calm := by
  obtain ⟨event, owner, script⟩ := listener
  intro occasion arguments world fault after
  induction script generalizing world with
  | nil =>
      intro failed
      cases failed
  | cons action rest ih =>
      obtain ⟨first, others⟩ := Bool.and_eq_true_iff.mp notes
      cases action with
      | note tag => exact ih others _
      | _ => cases first

namespace Run

section Refused

variable {occasion : Occasion} {arguments : List String} {fault : Fault} {world after : World}
  {moments : List Moment} {failure : Option Fault}

theorem Raises.later {last : World} (raises : Raises occasion after)
    (later : after.host.services.listeners <+: last.host.services.listeners) : Raises occasion last := by
  obtain ⟨listener, found, raised⟩ := raises
  exact ⟨listener, later.subset found, raised⟩

theorem Serves.raises {name : String} {spec : CommandSpec} {given : List String}
    (serves : Serves name spec given world moments failure after)
    (refused : .refused occasion arguments fault ∈ moments) : Raises occasion after := by
  cases serves with
  | served => simp at refused
  | failed => simp at refused
  | unannounced refuses =>
      obtain ⟨event, -, -, raises⟩ := refuses
      simp only [List.mem_singleton, Moment.refused.injEq] at refused
      rw [refused.1]
      exact raises
  | unconcluded announced handled refuses =>
      obtain ⟨event, -, -, raises⟩ := refuses
      simp only [List.mem_cons, reduceCtorEq, List.not_mem_nil, or_false, false_or,
        Moment.refused.injEq] at refused
      rw [refused.1]
      exact raises

theorem Recounts.raises (recounts : Recounts world moments failure after)
    (refused : .refused occasion arguments fault ∈ moments) : Raises occasion after := by
  induction recounts with
  | halted => cases refused
  | quiet _ _ _ _ _ ih => exact ih refused
  | stuck => cases refused
  | served _ _ serves _ ih =>
      rcases List.mem_append.mp refused with early | late
      · cases serves with
        | served => simp at early
      · exact ih late
  | broken _ _ serves => exact serves.raises refused

theorem Chronicle.raises {outlet : Outlet} {verdict : Option Fault} {last : World}
    (chronicle : Chronicle outlet world moments verdict last)
    (refused : .refused occasion arguments fault ∈ moments) : Raises occasion last := by
  cases chronicle with
  | unstarted refuses =>
      obtain ⟨event, -, -, raises⟩ := refuses
      simp only [List.mem_singleton, Moment.refused.injEq] at refused
      rw [refused.1]
      exact raises
  | judged starts recounts closes =>
      obtain ⟨event, -, told, -⟩ := closes
      simp only [List.cons_append, List.mem_cons, List.mem_append, reduceCtorEq, List.not_mem_nil,
        or_false, false_or] at refused
      have kept := ((primitives_keep_listeners _).notify _ _ _).of_ok (List.prefix_refl _) told
      exact (recounts.raises refused).later kept
  | unclosed starts recounts refuses =>
      obtain ⟨event, -, raised, raises⟩ := refuses
      simp only [List.cons_append, List.mem_cons, List.mem_append, reduceCtorEq, List.not_mem_nil,
        or_false, false_or, Moment.refused.injEq] at refused
      rcases refused with early | last
      · have kept := ((primitives_keep_listeners _).notify _ _ _).of_error (List.prefix_refl _) raised
        exact (recounts.raises early).later kept
      · rw [last.1]
        exact raises

end Refused

end Run

/-- Nobody raises anything in a run at whose end all listeners are calm. -/
theorem Run.Chronicle.unrefused {outlet : Outlet} {world last : World} {moments : List Moment}
    {verdict : Option Fault} (chronicle : Chronicle outlet world moments verdict last)
    (calm : ∀ listener ∈ last.host.services.listeners, listener.Calm) : Moment.Unrefused moments := by
  intro occasion arguments fault refused
  obtain ⟨listener, found, given, before, raised, after, failed⟩ := chronicle.raises refused
  exact calm listener found occasion given before raised after failed

theorem Run.Recounts.rounds {world after : World} {moments : List Moment} {failure : Option Fault}
    (recounts : Recounts world moments failure after) (quiet : Moment.Unrefused moments) :
    Rounds moments failure := by
  induction recounts with
  | halted => exact .done none
  | quiet _ _ _ _ _ ih => exact ih quiet
  | stuck => exact .done _
  | served _ _ serves _ ih =>
      cases serves with
      | served =>
          apply Rounds.command (ih _)
          intro occasion arguments fault found
          exact quiet occasion arguments fault (List.mem_append_right _ found)
  | broken _ _ serves =>
      cases serves with
      | failed => exact .failed
      | unannounced => exact absurd List.mem_cons_self (quiet _ _ _)
      | unconcluded =>
          exact absurd (List.mem_cons_of_mem _ (List.mem_cons_of_mem _ List.mem_cons_self)) (quiet _ _ _)

/-- A run of a machine that has halted does nothing. Any other run has a chronicle. If no listener raises
anything in it, for which it is enough that the listeners are calm, the start is told first, then come the
commands, and in the end either the end is told, just when the program was not found at fault, or the
error. The run completes just when the end was told, unless the end was told and the last flush fails after
that. -/
theorem events_follow_protocol {fuel : Nat} {outlet : Outlet} {world : World} {ended : Ended}
    (ran : Run.run fuel outlet world = some ended) :
    (world.machine.halted = true → ended = { world, outlet, verdict := none, fault := none }) ∧
      (world.machine.halted = false → ∃ moments last,
        Run.Chronicle outlet world moments ended.verdict last ∧ last.Unheard ended.world ∧
        ((∀ listener ∈ ended.world.host.services.listeners, listener.Calm) → Moment.Unrefused moments) ∧
        (Moment.Unrefused moments → ∃ rounds failure, Rounds rounds failure ∧
          moments = .told .programStart [] :: rounds ++ [.told (.closing failure) []] ∧
          (ended.verdict = none ↔ failure = none) ∧
          ((ended.fault = none ↔ failure = none) ↔ (failure = none → last.flushFault = none)))) := by
  constructor
  · intro halted
    rw [Run.run_of_halted fuel outlet halted] at ran
    cases ran
    rfl
  · intro running
    obtain ⟨moments, last, chronicle, unheard, left⟩ := Run.chronicle_of_run running ran
    refine ⟨moments, last, chronicle, unheard, ?_, ?_⟩
    · rw [unheard.2]
      exact chronicle.unrefused
    · intro quiet
      have fault : ended.fault = last.flushFault.or ended.verdict := by
        apply left.resolve_right
        rintro ⟨fault, refused⟩
        exact quiet _ _ _ refused
      rw [fault]
      generalize ended.verdict = verdict at chronicle
      -- a run that was not started or not closed has a refusal among its moments
      cases chronicle with
      | unstarted => exact absurd List.mem_cons_self (quiet _ _ _)
      | unclosed => exact absurd (List.mem_append_right _ List.mem_cons_self) (quiet _ _ _)
      | @judged _ _ _ _ _ rounds failure _ recounts _ =>
          have inner : Moment.Unrefused rounds := fun occasion arguments fault found =>
            quiet occasion arguments fault (List.mem_append_left _ (List.mem_cons_of_mem _ found))
          refine ⟨rounds, failure, recounts.rounds inner, rfl, by simp, ?_⟩
          cases failure with
          | none => simp
          | some fault => simp

def Listener.noting (event : Event) : Listener where
  event
  owner := ""
  script := [.note .null]

def failingHandler : Setup where
  program := [.command "ok", .command "boom", .command "ok"]
  services := {
    commands := ⟨[{ name := "ok", handler := .script [.note .null] },
      { name := "boom", handler := .script [.note .null, .fail (.value (.described "bad"))] }]⟩
    listeners := Listener.noting <$>
      [.programStart, .beforeCommand, .afterCommand, .programEnd, .onError] }

/-- Three commands, of which the second one fails: it is not concluded, and the third one is not reached. -/
theorem failing_handler_is_last :
    ∃ (world : World) (ended : Ended) (moments rounds : List Moment) (last : World) (fault : Fault),
      world.machine.program = #[.command "ok", .command "boom", .command "ok"] ∧
      Run.run 9 (.direct {}) world = some ended ∧
      ended.world.host.notes.toList.map (·.kind) =
        ["program_start", "before_command", "command", "after_command", "before_command", "command",
          "on_error"] ∧
      Run.Chronicle (.direct {}) world moments ended.verdict last ∧ Rounds rounds (some fault) ∧
      moments = .told .programStart [] :: rounds ++ [.told (.onError fault) []] := by
  have shown : (Run.run 9 (.direct {}) failingHandler.world).map (fun ended =>
      (ended.world.host.notes.toList.map (·.kind), ended.verdict.isSome,
        ended.world.host.services.listeners.all Listener.notesOnly)) =
      some (["program_start", "before_command", "command", "after_command", "before_command", "command",
        "on_error"], true, true) := by
    decide +kernel
  obtain ⟨ended, ran, seen⟩ := Option.map_eq_some_iff.mp shown
  simp only [Prod.mk.injEq] at seen
  obtain ⟨kinds, fails, noted⟩ := seen
  have calm (listener : Listener) (found : listener ∈ ended.world.host.services.listeners) :
      listener.Calm :=
    .of_notes (List.all_eq_true.mp noted listener found)
  obtain ⟨moments, last, chronicle, -, unrefused, protocol⟩ := (events_follow_protocol ran).2 rfl
  obtain ⟨rounds, failure, ordered, same, verdict, -⟩ := protocol (unrefused calm)
  cases failure with
  | none =>
      rw [verdict.mpr rfl] at fails
      cases fails
  | some fault => exact ⟨_, ended, moments, rounds, last, fault, rfl, ran, kinds, chronicle, ordered, same⟩

def notedIncrement : Setup where
  program := [.counted .increment 1]
  services := { listeners := Listener.noting <$> [.programStart, .programEnd, .onError] }

/-- The last flush fails after the end was told: the run raises what the flush raised, and no error is
told. -/
theorem failing_flush_follows_end :
    ∃ (world : World) (outlet : Outlet) (ended : Ended),
      Run.run 9 outlet world = some ended ∧
      ended.world.host.notes.toList.map (·.kind) = ["program_start", "program_end"] ∧
      ended.fault = some (.file (.described "gone")) := by
  have shown : (Run.run 9 (.direct (.failingFlush 0)) notedIncrement.world).map (fun ended =>
      (ended.world.host.notes.toList.map (·.kind), ended.fault)) =
      some (["program_start", "program_end"], some (.file (.described "gone"))) := by
    decide +kernel
  obtain ⟨ended, ran, seen⟩ := Option.map_eq_some_iff.mp shown
  simp only [Prod.mk.injEq] at seen
  exact ⟨_, _, ended, ran, seen.1, seen.2⟩

end TapeLang
