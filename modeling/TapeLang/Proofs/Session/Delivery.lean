import Mathlib.Data.List.Chain
import Mathlib.Data.List.Flatten
import TapeLang.Proofs.Machine.Writing
import TapeLang.Proofs.Session.Diagnosis

/-!
What runs deliver, one after another. The history holds the byte of every write call, whether it passed or
was refused, and what was delivered are the bytes of the calls that passed. So the two are the same just
when no call was refused; and a byte that was refused is the first one that the next run writes, which puts
it into the history once more.
-/

namespace TapeLang

structure Writing where
  given : Channel
  left : Channel

namespace Writing

def calls (writing : Writing) : Nat := writing.left.writes - writing.given.writes

def Passes (writing : Writing) : Prop :=
  ∀ call, writing.given.writes ≤ call → call < writing.left.writes → writing.given.writeFault call = none

theorem calls_eq {given left : Channel} {calls : Nat} (after : given.After calls left) :
    (mk given left).calls = calls := by
  simp [Writing.calls, after.writes]

theorem passes_iff (writing : Writing) : writing.Passes ↔ writing.given.Passes writing.calls := by
  unfold calls
  constructor
  · intro passes ahead bound
    exact passes _ (Nat.le_add_right _ _) (by omega)
  · intro passes call reached bound
    have passed := passes (call - writing.given.writes) (by omega)
    rwa [Channel.refusal, Nat.add_sub_cancel' reached] at passed

end Writing

/-- Runs and appends one after another, and the streams of the runs. Every stream may refuse writes. -/
inductive Scene.Runs (start : Scene) : Scene → List Writing → Prop where
  | start : Runs start start []
  | append {scene after : Scene} {writings : List Writing} {source : Bytes} {file : String} {mode : Mode}
      {fuel : Nat} (earlier : Runs start scene writings)
      (performed : (Operation.append source file mode).perform fuel scene = some after) :
      Runs start after writings
  | run {scene after : Scene} {writings : List Writing} {input : Source} {outlet : Outlet} {world : World}
      {fuel : Nat} {ended : Ended} {given left : Channel} (earlier : Runs start scene writings)
      (launched : (Operation.run input outlet).launch scene = some (outlet, world))
      (ran : Run.run fuel outlet world = some ended) (given_eq : outlet.channel? = some given)
      (left_eq : ended.outlet.channel? = some left)
      (performed : (Operation.run input outlet).perform fuel scene = some after) :
      Runs start after (writings ++ [⟨given, left⟩])

theorem Scene.Runs.reaches {start scene : Scene} {writings : List Writing}
    (runs : start.Runs scene writings) : Reaches (fun _ => True) start scene := by
  induction runs with
  | start => exact .refl
  | append _ performed ih => exact .step ih trivial performed
  | run _ _ _ _ _ performed ih => exact .step ih trivial performed

/-- What stays the same between runs: what was written and delivered, and the byte that is due. -/
structure World.Pauses (before after : World) : Prop where
  history : after.machine.history = before.machine.history
  delivered : after.host.delivered = before.host.delivered
  due : ∀ byte, before.Due byte → after.Due byte

namespace World.Pauses

theorem trans {first second third : World} (before : first.Pauses second) (after : second.Pauses third) :
    first.Pauses third where
  history := after.history.trans before.history
  delivered := after.delivered.trans before.delivered
  due byte due := after.due byte (before.due byte due)

theorem of_flushes (world : World) (attached : Option Outlet) {events : List StreamEvent}
    (flushes : ∀ event ∈ events, event = .flushed) :
    world.Pauses (World.record { world with machine := { world.machine with attached } } events) where
  history := rfl
  delivered := World.delivered_flushes _ flushes
  due _ due := due.of_machine rfl rfl

theorem append (world : World) (fragment : List Instruction) :
    world.Pauses { world with machine := world.machine.append fragment } where
  history := rfl
  delivered := rfl
  due := by
    rintro byte ⟨index, instruction, here, found, emits⟩
    refine ⟨index, instruction, here, ?_, ?_⟩
    · have inside := (List.getElem?_eq_some_iff.mp found).1
      rw [Machine.append_program, List.getElem?_append_left inside]
      exact found
    · cases emits with
      | output read => exact .output read
      | clear resolved clears => exact .clear resolved clears

theorem fail (scene : Scene) (report : FailureReport) : scene.world.Pauses (scene.fail report).world :=
  of_flushes scene.world scene.world.machine.attached (FailureReport.discard_events _)

theorem release (report : Option FailureReport) (world : World) :
    world.Pauses (FailureReport.release report world).2 := by
  have closes (outlet : Outlet) : ∀ event ∈ outlet.close, event = .flushed := by
    cases outlet with
    | direct channel => exact nofun
    | tee captured sink => exact Outlet.flush_events _
  have rests : world.Pauses world := ⟨rfl, rfl, fun _ due => due⟩
  unfold FailureReport.release
  split
  · split
    · exact ⟨rfl, rfl, fun _ due => due.of_machine rfl rfl⟩
    · exact of_flushes world none (closes _)
  · exact rests

theorem launch {scene : Scene} {input : Source} {outlet : Outlet} {world : World}
    (launched : (Operation.run input outlet).launch scene = some (outlet, world)) :
    scene.world.Pauses world := by
  cases launched
  have supplied : scene.world.Pauses { scene.world with source := input } :=
    ⟨rfl, rfl, fun _ due => due.of_machine rfl rfl⟩
  exact supplied.trans (release _ _)

theorem resume (scene : Scene) (input : Source) (outlet : Outlet) (report : Option FailureReport)
    (ended : Ended) :
    ended.world.Pauses ((Operation.run input outlet).resume scene report ended).world := by
  unfold Operation.resume
  cases ended.fault with
  | none => exact ⟨rfl, rfl, fun _ due => due⟩
  | some fault => exact fail ⟨{ scene.session with report }, ended.world⟩ { fault }

end World.Pauses

structure Scene.Delivers (start : Scene) (made : List (Writing × Bytes)) (scene : Scene) : Prop where
  calls : ∀ writing ∈ made, writing.2.length = writing.1.calls
  history : scene.world.machine.history.toList =
    start.world.machine.history.toList ++ made.flatMap Prod.snd
  delivered : scene.world.host.delivered =
    start.world.host.delivered ++ made.flatMap fun writing => writing.1.given.passed writing.2
  again : made.IsChain fun earlier later => ¬earlier.1.Passes → later.2.head? = earlier.2.getLast?
  due : ∀ writing, made.getLast? = some writing → ¬writing.1.Passes →
    ∃ byte, writing.2.getLast? = some byte ∧ scene.world.Due byte

namespace Scene.Delivers

variable {start scene after : Scene} {made : List (Writing × Bytes)}

theorem nothing (start : Scene) : start.Delivers [] start where
  calls := nofun
  history := (List.append_nil _).symm
  delivered := (List.append_nil _).symm
  again := .nil
  due := nofun

theorem pause (delivers : start.Delivers made scene) (pauses : scene.world.Pauses after.world) :
    start.Delivers made after where
  calls := delivers.calls
  history := by
    rw [pauses.history]
    exact delivers.history
  delivered := pauses.delivered.trans delivers.delivered
  again := delivers.again
  due writing last refused := by
    obtain ⟨byte, ends, due⟩ := delivers.due writing last refused
    exact ⟨byte, ends, pauses.due byte due⟩

/-- A run adds what it wrote, and begins with the byte that is due. -/
theorem run (delivers : start.Delivers made scene) {world : World} {ended : Ended} {bytes : Bytes}
    {given left : Channel} (launched : scene.world.Pauses world)
    (wrote : ended.Wrote world given bytes) (calls : given.After bytes.length left)
    (resumed : ended.world.Pauses after.world) :
    start.Delivers (made ++ [(⟨given, left⟩, bytes)]) after where
  calls := by
    intro writing found
    rcases List.mem_append.mp found with earlier | latest
    · exact delivers.calls writing earlier
    · rw [List.mem_singleton] at latest
      rw [latest]
      exact (Writing.calls_eq calls).symm
  history := by
    rw [resumed.history, wrote.history, launched.history, delivers.history, List.flatMap_append,
      List.append_assoc]
    simp
  delivered := by
    rw [resumed.delivered, wrote.delivered, launched.delivered, delivers.delivered, List.flatMap_append,
      List.append_assoc]
    simp
  again := by
    apply delivers.again.append (.singleton _)
    intro earlier last later next refused
    cases next
    obtain ⟨byte, ends, due⟩ := delivers.due earlier last refused
    rw [ends]
    exact wrote.first byte (launched.due byte due)
  due := by
    intro writing last refused
    rw [List.getLast?_concat] at last
    cases last
    rcases wrote.ends with passes | ⟨front, byte, fault, rfl, -, -, due⟩
    · rw [Writing.passes_iff, Writing.calls_eq calls] at refused
      exact (refused passes).elim
    · exact ⟨byte, List.getLast?_concat, resumed.due byte due⟩

end Scene.Delivers

theorem Scene.Runs.delivers {start scene : Scene} {writings : List Writing} (fresh : start.Fresh)
    (runs : start.Runs scene writings) :
    ∃ made : List (Writing × Bytes), made.map Prod.fst = writings ∧ start.Delivers made scene := by
  induction runs with
  | start => exact ⟨[], rfl, .nothing start⟩
  | @append scene after writings source file mode fuel earlier performed ih =>
      obtain ⟨made, written, delivers⟩ := ih
      refine ⟨made, written, delivers.pause ?_⟩
      unfold Operation.perform at performed
      cases accepted : parse source file mode with
      | ok fragment =>
          simp only [accepted] at performed
          cases performed
          exact .append scene.world fragment
      | error fault =>
          simp only [accepted] at performed
          cases performed
          exact .fail scene _
  | @run scene after writings input outlet world fuel ended given left earlier launched ran given_eq
      left_eq performed ih =>
      obtain ⟨made, written, delivers⟩ := ih
      have standing := Operation.stands_with_log_launch
        (earlier.reaches.stands_with_log fresh.stands_with_log) launched
      obtain ⟨bytes, wrote⟩ := Run.run_wrote standing.toStandsBehind given_eq ran
      obtain ⟨other, same, calls⟩ := wrote.left
      cases left_eq.symm.trans same
      obtain ⟨report, performs⟩ := Operation.perform_of_launch launched
      rw [performs, ran] at performed
      cases performed
      refine ⟨made ++ [(⟨given, left⟩, bytes)], by rw [List.map_append, written]; rfl, ?_⟩
      exact delivers.run (.launch launched) wrote calls (.resume scene input outlet report ended)

theorem flatMap_eq_iff_of_sublist {parts wholes : α → List β} {items : List α}
    (sublist : ∀ item, (parts item).Sublist (wholes item)) :
    items.flatMap wholes = items.flatMap parts ↔ ∀ item ∈ items, parts item = wholes item := by
  induction items with
  | nil => simp
  | cons item rest ih =>
      rw [List.flatMap_cons, List.flatMap_cons, List.forall_mem_cons, ← ih]
      constructor
      · intro same
        have lengths := congrArg List.length same
        rw [List.length_append, List.length_append] at lengths
        have front := (sublist item).length_le
        have back := (List.Sublist.flatMap_right rest fun item _ => sublist item).length_le
        obtain ⟨first, others⟩ := List.append_inj same (by omega)
        exact ⟨first.symm, others⟩
      · rintro ⟨first, others⟩
        rw [first, others]

theorem Scene.Fresh.history {scene : Scene} (fresh : scene.Fresh) :
    scene.world.machine.history = #[] := by
  obtain ⟨file, verbose, tapeSize, created⟩ := fresh.created
  unfold Machine.create at created
  split at created
  · cases created
  · rw [← Except.ok.inj created]

/-- After any runs and appends, the history is the byte of every write call of the runs in order, and what
was delivered are the bytes of the calls that passed. The two are the same just when no call was refused.
After a run in which one was, the next run writes the last byte again. -/
theorem history_is_delivered_iff_no_write_refused {start scene : Scene} {writings : List Writing}
    (fresh : start.Fresh) (unwritten : start.world.host.delivered = [])
    (runs : start.Runs scene writings) :
    ∃ made : List (Writing × Bytes), made.map Prod.fst = writings ∧
      (∀ writing ∈ made, writing.2.length = writing.1.calls) ∧
      scene.world.machine.history.toList = made.flatMap Prod.snd ∧
      scene.world.host.delivered = (made.flatMap fun writing => writing.1.given.passed writing.2) ∧
      (scene.world.machine.history.toList = scene.world.host.delivered ↔
        ∀ writing ∈ writings, writing.Passes) ∧
      made.IsChain fun earlier later => ¬earlier.1.Passes → later.2.head? = earlier.2.getLast? := by
  obtain ⟨made, written, delivers⟩ := runs.delivers fresh
  have history := delivers.history
  have delivered := delivers.delivered
  rw [fresh.history, List.nil_append] at history
  rw [unwritten, List.nil_append] at delivered
  refine ⟨made, written, delivers.calls, history, delivered, ?_, delivers.again⟩
  rw [history, delivered, flatMap_eq_iff_of_sublist fun writing => writing.1.given.passed_sublist _,
    ← written, List.forall_mem_map]
  apply forall₂_congr
  intro writing found
  rw [Channel.passed_eq_self_iff, Writing.passes_iff, delivers.calls writing found]
  rfl

def oneByte : Setup where
  program := [.counted .increment 1, .output]

/-- A stream would refuse its second byte, but the run on it ends before that; a run on another stream goes
on behind it. The history is what the two streams got. -/
theorem second_byte_goes_to_another_stream :
    ∃ (start scene : Scene) (writings : List Writing), start.Fresh ∧ start.Runs scene writings ∧
      (writings.map fun writing => (writing.calls, writing.given.refusal 1)) =
        [(1, some (.file (.described "full"))), (1, none)] ∧
      scene.world.machine.history.toList = [1, 1] ∧
      scene.world.machine.history.toList = scene.world.host.delivered := by
  let narrow : Channel := .withRoom 1
  let behind : Operation := .append [46] "<string>" .normal
  let again : Operation := .run (.ofBytes []) (.direct {})
  have fresh : oneByte.scene.Fresh := oneByte.fresh rfl (.inr ⟨[43, 46], "", .normal, rfl⟩)
  have shown : ((Run.run 9 (.direct narrow) oneByte.scene.world).bind fun ended =>
      ended.outlet.channel?.bind fun left =>
      ((Operation.run (.ofBytes []) (.direct narrow)).perform 9 oneByte.scene).bind fun first =>
      (behind.perform 0 first).bind fun second =>
      (Run.run 9 (.direct {}) (FailureReport.release second.session.report
        { second.world with source := .ofBytes [] }).2).bind fun later =>
      later.outlet.channel?.bind fun last =>
      (again.perform 9 second).map fun scene =>
        (left.writes, last.writes, scene.world.machine.history.toList)) = some (1, 1, [1, 1]) := by
    decide +kernel
  simp only [Option.bind_eq_some_iff, Option.map_eq_some_iff, Prod.mk.injEq] at shown
  obtain ⟨ended, ran, left, leaves, first, performed, second, appended, later, reran, last, leavesLast,
    scene, reperformed, once, onceMore, history⟩ := shown
  have began : oneByte.scene.Runs first [⟨narrow, left⟩] := .run .start rfl ran rfl leaves performed
  have runs : oneByte.scene.Runs scene [⟨narrow, left⟩, ⟨{}, last⟩] :=
    .run (.append began appended) rfl reran rfl leavesLast reperformed
  obtain ⟨_, -, -, -, -, same, -⟩ := history_is_delivered_iff_no_write_refused fresh rfl runs
  refine ⟨oneByte.scene, scene, _, fresh, runs, ?_, history, same.mpr ?_⟩
  · simp only [List.map_cons, List.map_nil, Writing.calls, once, onceMore]
    rfl
  · intro writing found
    rcases List.mem_pair.mp found with rfl | rfl
    · intro call _ bound
      rw [once, Nat.lt_one_iff] at bound
      rw [bound]
      rfl
    · exact fun _ _ _ => rfl

/-- A stream refuses a byte, and the run is made again with another stream. The byte stands twice in the
history and was delivered once. -/
theorem refused_byte_doubled_in_history :
    ∃ (start first second : Scene) (refusing : Channel), start.Fresh ∧
      (Operation.run (.ofBytes []) (.direct refusing)).perform 9 start = some first ∧
      first.world.machine.history.toList = [1] ∧ first.world.host.delivered = [] ∧
      (Operation.run (.ofBytes []) (.direct {})).perform 9 first = some second ∧
      second.world.machine.history.toList = [1, 1] ∧ second.world.host.delivered = [1] := by
  have fresh : oneByte.scene.Fresh := oneByte.fresh rfl (.inr ⟨[43, 46], "", .normal, rfl⟩)
  have shown : ((Operation.run (.ofBytes []) (.direct (.withRoom 0))).perform 9
      oneByte.scene).map (fun first =>
      (first.world.machine.history.toList, first.world.host.delivered,
        ((Operation.run (.ofBytes []) (.direct {})).perform 9 first).map fun second =>
          (second.world.machine.history.toList, second.world.host.delivered))) =
      some ([1], [], some ([1, 1], [1])) := by
    decide +kernel
  obtain ⟨first, performed, seen⟩ := Option.map_eq_some_iff.mp shown
  simp only [Prod.mk.injEq] at seen
  obtain ⟨history, delivered, again⟩ := seen
  obtain ⟨second, repeated, seen⟩ := Option.map_eq_some_iff.mp again
  simp only [Prod.mk.injEq] at seen
  exact ⟨_, first, second, _, fresh, performed, history, delivered, repeated, seen⟩

end TapeLang
