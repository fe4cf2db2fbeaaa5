import TapeLang.Proofs.Machine.Coupling
import TapeLang.Proofs.Semantics.Refinement

/-!
Programs one after another. Forests that follow one another execute one after another; a layout that
stands at the end of a program is run as its forest executes, and a run of a compiled forest can be found
from how the forest executes.
-/

namespace TapeLang

namespace Executes

variable {act : Config → Leaf → Option Config} {front back : List (Tree Leaf)}
  {before middle after : Config} {ending : Ending}

theorem append (first : Executes act front before .completed middle)
    (second : Executes act back middle ending after) :
    Executes act (front ++ back) before ending after := by
  generalize done : Ending.completed = stage at first
  induction first with
  | nil => exact second
  | leaf acts _ ih => exact .leaf acts (ih second done)
  | starve => cases done
  | skip zero _ ih => exact .skip zero (ih second done)
  | again nonzero inside _ _ ih => exact .again nonzero inside (ih second done)
  | broken => cases done

theorem append_of_starved (first : Executes act front before .starved after) :
    Executes act (front ++ back) before .starved after := by
  generalize done : Ending.starved = stage at first
  induction first with
  | nil => cases done
  | leaf acts _ ih => exact .leaf acts (ih done)
  | starve starved => exact .starve starved
  | skip zero _ ih => exact .skip zero (ih done)
  | again nonzero inside _ _ ih => exact .again nonzero inside (ih done)
  | broken nonzero inside => exact .broken nonzero inside

end Executes

/-- A flat run that starts at the layout at the end of a program does what the forest does. -/
theorem Flat.executes_of_run_behind {front : List Instruction} {trees : List (Tree Stretch)}
    (operators : Tree.Every (·.atom.IsOperator) trees) {fuel : Nat} {before after : Config}
    {ending : Ending}
    (ran : run (front ++ Tree.flatten front.length trees) fuel before front.length =
      some (ending, after)) :
    Executes Config.cover trees before ending after := by
  have laid : LaidOut (front ++ Tree.flatten front.length trees) front.length trees :=
    ⟨front, [], (List.append_nil _).symm, rfl⟩
  cases passes_of_run fuel operators laid ran with
  | through _ executes rest =>
      rw [run_past _ (by simp)] at rest
      cases rest
      exact executes
  | starved starved executes =>
      rw [starved]
      exact executes

theorem operators_of_tokens {source : Bytes} {forest : List (Tree Atom)}
    (written : Tree.tokens forest = Token.operators source) :
    Tree.Every (·.atom.IsOperator) (Tree.gather forest) := by
  have operators : Tree.Every Atom.IsOperator forest := by
    apply Tree.every_of_tokens
    intro atom found
    rw [written] at found
    exact Token.is_operator_of_operators found
  exact Tree.Every.mono (fun _ gathered => gathered.atom) (Tree.every_gather operators)

namespace Run

variable {earlier : Bytes} {program : List Instruction} {world : World} {config : Config} {ip : Nat}

theorem ending_tracks (outlet : Outlet) (failure : Option Fault)
    (tracks : world.Tracks earlier program config ip) :
    ((ending outlet failure world).world.attach (ending outlet failure world).outlet).Tracks earlier
      program config ip := by
  have flushes := yields_flush_tracks tracks
  unfold ending
  cases result : flush world with
  | error fault after => exact (flushes.of_error result).elim
  | ok value after =>
      have still := flushes.of_ok result
      rcases still.attached with ⟨channel, attached, steady⟩
      dsimp only
      rw [attached]
      exact { still with attached := ⟨channel, rfl, steady⟩ }

theorem run_tracks {fuel : Nat} {channel : Channel} {ended : Ended}
    (tracks : (world.attach (.direct channel)).Tracks earlier program config ip)
    (well : WellFormed program) (plain : ∀ text, .command text ∉ program)
    (ran : run fuel (.direct channel) world = some ended) :
    ∃ outcome final place, Flat.run program fuel config ip = some (outcome, final) ∧
      ended.Ends outcome ∧ (ended.world.attach ended.outlet).Tracks earlier program final place := by
  obtain ⟨outcome, final, flat, ends, -⟩ := flat_run_of_run tracks well plain ran
  refine ⟨outcome, final, ?_⟩
  have halted : world.machine.halted = decide (program.length ≤ ip) := tracks.halted_eq
  by_cases past : program.length ≤ ip
  · rw [Flat.run_past fuel past] at flat
    rw [decide_eq_true past] at halted
    cases flat
    cases (run_of_halted fuel (.direct channel) halted).symm.trans ran
    exact ⟨ip, Flat.run_past fuel past, ends, tracks⟩
  · have builtin : world.host.services.Builtin := tracks.builtin
    have stepped := yields_steps_tracks fuel tracks well plain
    rw [decide_eq_false past] at halted
    rw [run_of_running fuel (.direct channel) builtin halted] at ran
    cases result : steps fuel (world.attach (.direct channel)) with
    | ok finished after =>
        rw [result] at ran
        cases finished with
        | false => cases ran
        | true =>
            cases ran
            obtain ⟨other, place, same, still⟩ := stepped.of_ok result
            cases flat.symm.trans same
            exact ⟨place, flat, ends, ending_tracks _ _ still⟩
    | error fault after =>
        rw [result] at ran
        cases ran
        obtain ⟨other, place, same, -, still⟩ := stepped.of_error result
        cases flat.symm.trans same
        exact ⟨place, flat, ends, ending_tracks _ _ still⟩

end Run

theorem run_of_executes {source : Bytes} {forest : List (Tree Atom)}
    (written : Tree.tokens forest = Token.operators source) {size : Nat} (positive : 1 ≤ size)
    {name : String} {verbose : Bool} {machine : Machine}
    (created : Machine.create (Tree.compile forest) name verbose size = .ok machine) {host : Host}
    (builtin : host.services.Builtin) {channel : Channel} (steady : channel.Steady) {input : Bytes}
    {ending : Ending} {final : Config}
    (executes : Executes Config.act forest (.initial size positive input) ending final) :
    ∃ fuel ended, Run.run fuel (.direct channel) ⟨machine, .ofBytes input, host⟩ = some ended ∧
      ended.Ends ending ∧ ended.world.Shows host.output final := by
  have accepted := parse_of_operators written name
  have tracks := Machine.create_tracks positive created builtin steady input
  rw [← executes_gather, ← Flat.run_flatten_iff (operators_of_tokens written)] at executes
  obtain ⟨fuel, flat⟩ := executes
  have shown := Run.run_shows fuel tracks (.of_parse accepted)
    (command_not_mem_of_parse_normal accepted)
  rw [show Flat.run (Tree.compile forest) fuel _ 0 = _ from flat] at shown
  exact ⟨fuel, shown⟩

end TapeLang
