import TapeLang.Machine.Run

/-!
Reasoning about activities. `Yields` says what an activity comes to from one world, and is computed
along its parts; `Matched` compares the results of two activities, and is carried from the parts of the
two to the whole. Later proofs use the rules here and do not open the monad.
-/

namespace TapeLang.Run

theorem bind_eq {State : Type} (first : EStateM Fault State α) (next : α → EStateM Fault State β)
    (start : State) :
    (first >>= next) start =
      match first start with
      | .ok value middle => next value middle
      | .error fault middle => .error fault middle := by
  change EStateM.bind first next start = _
  unfold EStateM.bind
  cases first start <;> rfl

theorem discard_eq (activity : Run α) (world : World) :
    (discard activity : Run Unit) world =
      match activity world with
      | .ok _ after => .ok () after
      | .error fault after => .error fault after := by
  change EStateM.map _ activity world = _
  unfold EStateM.map
  cases activity world <;> rfl

/-- What an activity comes to from a world: `done` holds of its value and the world it leaves when it
succeeds, `failed` of its fault and that world when it fails. -/
def Yields (activity : Run α) (world : World) (done : α → World → Prop)
    (failed : Fault → World → Prop) : Prop :=
  match activity world with
  | .ok value after => done value after
  | .error fault after => failed fault after

section Yields

variable {done : α → World → Prop} {failed : Fault → World → Prop} {world : World}

theorem Yields.mono {activity : Run α} {done' : α → World → Prop} {failed' : Fault → World → Prop}
    (yields : Yields activity world done failed)
    (onDone : ∀ value after, done value after → done' value after)
    (onFailed : ∀ fault after, failed fault after → failed' fault after) :
    Yields activity world done' failed' := by
  unfold Yields at yields ⊢
  cases result : activity world with
  | ok value after =>
      rw [result] at yields
      exact onDone value after yields
  | error fault after =>
      rw [result] at yields
      exact onFailed fault after yields

theorem Yields.and {activity : Run α} {done' : α → World → Prop} {failed' : Fault → World → Prop}
    (first : Yields activity world done failed) (second : Yields activity world done' failed') :
    Yields activity world (fun value after => done value after ∧ done' value after) failed := by
  unfold Yields at *
  cases result : activity world with
  | ok value after =>
      rw [result] at first second
      exact ⟨first, second⟩
  | error fault after =>
      rw [result] at first
      exact first

theorem Yields.both {activity : Run α} {done' : α → World → Prop} {failed' : Fault → World → Prop}
    (first : Yields activity world done failed) (second : Yields activity world done' failed') :
    Yields activity world (fun value after => done value after ∧ done' value after)
      fun fault after => failed fault after ∧ failed' fault after := by
  unfold Yields at *
  cases result : activity world with
  | ok value after =>
      rw [result] at first second
      exact ⟨first, second⟩
  | error fault after =>
      rw [result] at first second
      exact ⟨first, second⟩

theorem Yields.of_ok {activity : Run α} {value : α} {after : World}
    (yields : Yields activity world done failed) (result : activity world = .ok value after) :
    done value after := by
  unfold Yields at yields
  rw [result] at yields
  exact yields

theorem Yields.of_error {activity : Run α} {fault : Fault} {after : World}
    (yields : Yields activity world done failed) (result : activity world = .error fault after) :
    failed fault after := by
  unfold Yields at yields
  rw [result] at yields
  exact yields

@[simp] theorem yields_bind (first : Run β) (next : β → Run α) :
    Yields (first >>= next) world done failed ↔
      Yields first world (fun value middle => Yields (next value) middle done failed) failed := by
  unfold Yields
  rw [bind_eq]
  cases first world <;> rfl

theorem Yields.bind {first : Run β} {next : β → Run α} {between : β → World → Prop}
    (yields : Yields first world between failed)
    (rest : ∀ value middle, between value middle → Yields (next value) middle done failed) :
    Yields (first >>= next) world done failed := by
  rw [yields_bind]
  apply yields.mono rest
  intro fault after same
  exact same

theorem Yields.bind_sure {first : Run β} {next : β → Run α} {between : β → World → Prop}
    (yields : Yields first world between fun _ _ => False)
    (rest : ∀ value middle, between value middle → Yields (next value) middle done failed) :
    Yields (first >>= next) world done failed := by
  rw [yields_bind]
  apply yields.mono rest
  intro fault after never
  exact never.elim

@[simp] theorem yields_lift (kind : Cause → Fault) (value : Except Cause α) :
    Yields (lift kind value) world done failed ↔
      (∀ result, value = .ok result → done result world) ∧
        ∀ cause, value = .error cause → failed (kind cause) world := by
  cases value with
  | ok result =>
      constructor
      · intro holds
        exact ⟨fun other same => Except.ok.inj same ▸ holds, by simp⟩
      · intro holds
        exact holds.1 result rfl
  | error cause =>
      constructor
      · intro holds
        exact ⟨by simp, fun other same => Except.error.inj same ▸ holds⟩
      · intro holds
        exact holds.2 cause rfl

@[simp] theorem yields_get {done : World → World → Prop} :
    Yields (get : Run World) world done failed ↔ done world world := Iff.rfl

@[simp] theorem yields_machine {done : Machine → World → Prop} :
    Yields machine world done failed ↔ done world.machine world := Iff.rfl

variable {done : Unit → World → Prop}

@[simp] theorem yields_modify_machine (change : Machine → Machine) :
    Yields (modifyMachine change) world done failed ↔
      done () { world with machine := change world.machine } := Iff.rfl

end Yields

/-- Two results correspond: both are values or both are faults, related as given, and the worlds that
were left are related too. -/
inductive Matched (values : α → β → Prop) (faults : Fault → Fault → Prop)
    (worlds : World → World → Prop) :
    EStateM.Result Fault World α → EStateM.Result Fault World β → Prop where
  | ok {leftValue : α} {rightValue : β} {left right : World}
      (value : values leftValue rightValue) (world : worlds left right) :
      Matched values faults worlds (.ok leftValue left) (.ok rightValue right)
  | error {leftFault rightFault : Fault} {left right : World}
      (fault : faults leftFault rightFault) (world : worlds left right) :
      Matched values faults worlds (.error leftFault left) (.error rightFault right)

section Matched

variable {faults : Fault → Fault → Prop} {worlds : World → World → Prop} {left right : World}

/-- Activities correspond when their first parts do and what follows corresponds from there. -/
theorem Matched.bind {values : α → β → Prop} {others : γ → δ → Prop} {first : Run α}
    {second : Run β} {next : α → Run γ} {following : β → Run δ}
    (parts : Matched values faults worlds (first left) (second right))
    (rest : ∀ leftValue rightValue leftAfter rightAfter, values leftValue rightValue →
      worlds leftAfter rightAfter →
      Matched others faults worlds (next leftValue leftAfter) (following rightValue rightAfter)) :
    Matched others faults worlds ((first >>= next) left) ((second >>= following) right) := by
  rw [bind_eq, bind_eq]
  generalize first left = leftResult at parts
  generalize second right = rightResult at parts
  cases parts with
  | ok value world => exact rest _ _ _ _ value world
  | error fault world => exact .error fault world

theorem Matched.mono {values : α → β → Prop} {faults' : Fault → Fault → Prop}
    {worlds' : World → World → Prop} {leftResult : EStateM.Result Fault World α}
    {rightResult : EStateM.Result Fault World β}
    (results : Matched values faults worlds leftResult rightResult)
    (onFaults : ∀ left right, faults left right → faults' left right)
    (onWorlds : ∀ left right, worlds left right → worlds' left right) :
    Matched values faults' worlds' leftResult rightResult := by
  cases results with
  | ok value world => exact .ok value (onWorlds _ _ world)
  | error fault world => exact .error (onFaults _ _ fault) (onWorlds _ _ world)

theorem matched_modify_machine {leftChange rightChange : Machine → Machine}
    (related : worlds { left with machine := leftChange left.machine }
      { right with machine := rightChange right.machine }) :
    Matched (fun _ _ => True) faults worlds (modifyMachine leftChange left)
      (modifyMachine rightChange right) :=
  .ok trivial related

theorem matched_lift (kind : Cause → Fault) (value : Except Cause α) (related : worlds left right)
    (fault : ∀ cause, value = .error cause → faults (kind cause) (kind cause)) :
    Matched (fun leftValue rightValue => leftValue = rightValue ∧ value = .ok leftValue) faults
      worlds (lift kind value left) (lift kind value right) := by
  cases value with
  | ok result => exact .ok ⟨rfl, rfl⟩ related
  | error cause => exact .error (fault cause rfl) related

end Matched

end TapeLang.Run
