import TapeLang.Proofs.Machine.Outcome

/-!
How an event reaches its listeners. Listeners are only ever added behind the others, and no script can add
more of them than it spells out, so the bound of a delivery is never reached. A delivery in which nobody
raises anything therefore calls each listener of the event once, in the order of registration, those
included that were registered while it went on.
-/

namespace TapeLang

namespace Run

theorem delivery_bound_cons (listener : Listener) (rest : List Listener) :
    deliveryBound (listener :: rest) =
      scriptListenerCount listener.script + 1 + deliveryBound rest := rfl

theorem delivery_bound_append (front back : List Listener) :
    deliveryBound (front ++ back) = deliveryBound front + deliveryBound back := by
  induction front with
  | nil => exact (Nat.zero_add _).symm
  | cons listener rest ih =>
      rw [List.cons_append, delivery_bound_cons, delivery_bound_cons, ih]
      omega

theorem delivery_bound_filter_le (keep : Listener → Bool) (listeners : List Listener) :
    deliveryBound (listeners.filter keep) ≤ deliveryBound listeners := by
  induction listeners with
  | nil => exact Nat.le_refl _
  | cons listener rest ih =>
      rw [List.filter_cons, delivery_bound_cons]
      split
      · rw [delivery_bound_cons]
        omega
      · omega

end Run

/-- The second services have the listeners of the first and some behind them, of so much weight at most. -/
def Services.Adds (before : Services) (weight : Nat) (after : Services) : Prop :=
  ∃ added, after.listeners = before.listeners ++ added ∧ Run.deliveryBound added ≤ weight

namespace Services

theorem Adds.of_eq {before after : Services} (same : after = before) (weight : Nat) :
    before.Adds weight after :=
  ⟨[], by rw [same, List.append_nil], Nat.zero_le _⟩

theorem Adds.trans {before middle after : Services} {first second : Nat} (early : before.Adds first middle)
    (late : middle.Adds second after) : before.Adds (first + second) after := by
  obtain ⟨some, middleSame, someWeight⟩ := early
  obtain ⟨more, afterSame, moreWeight⟩ := late
  refine ⟨some ++ more, by rw [afterSame, middleSame, List.append_assoc], ?_⟩
  rw [Run.delivery_bound_append]
  omega

theorem register_adds {before after : Services} {owner : String} {registration : Registration}
    (registered : before.register owner registration = .ok after) :
    before.Adds registration.listenerCount after := by
  cases registration with
  | command name minArgs maxArgs doc script =>
      dsimp only [register] at registered
      generalize before.commands.add _ false = added at registered
      cases added with
      | error fault => cases registered
      | ok commands =>
          cases registered
          exact ⟨[], (List.append_nil _).symm, Nat.zero_le _⟩
  | listener event script =>
      dsimp only [register] at registered
      split at registered
      · cases registered
        refine ⟨_, rfl, ?_⟩
        rw [Registration.listenerCount]
        exact Nat.le_refl _
      · cases registered
  | fail fault => cases registered

theorem Adds.listeners_of {before after : Services} {weight : Nat} (adds : before.Adds weight after)
    (event : Event) :
    ∃ added, after.listenersOf event = before.listenersOf event ++ added ∧
      Run.deliveryBound added ≤ weight := by
  obtain ⟨added, same, bound⟩ := adds
  refine ⟨added.filter (·.event == event), ?_, Nat.le_trans (Run.delivery_bound_filter_le _ added) bound⟩
  rw [listenersOf, same, List.filter_append]
  rfl

end Services

namespace Run

theorem services_emit (bytes : Bytes) (world : World) :
    (left (emit bytes) world).host.services = world.host.services := by
  have keeps : Keeps (fun after => after.host.services = world.host.services) (emit bytes) :=
    keeps_emit (fun _ _ same => same) (fun _ _ same => same) bytes
  exact yields_left.mp (keeps world rfl)

end Run

namespace Scripting

variable {owner : String} {before after : World}

theorem Effect.adds {weight : Nat} (effect : Effect owner before weight after) :
    before.host.services.Adds weight after.host.services := by
  cases effect with
  | nothing => exact .of_eq rfl 0
  | noted note => exact .of_eq rfl 0
  | changed same => exact .of_eq rfl 0
  | emitted bytes => exact .of_eq (Run.services_emit bytes before) 0
  | registered registers => exact Services.register_adds registers

theorem Effects.adds {bound : Nat} (effects : Effects owner bound before after) :
    before.host.services.Adds bound after.host.services := by
  induction effects with
  | none bound world => exact .of_eq rfl bound
  | more _ last ih => exact ih.trans last.adds

end Scripting

namespace Run

inductive Calls (occasion : Occasion) :
    List Listener → List String → World → List String → World → Prop where
  | done (arguments : List String) (world : World) :
      Calls occasion [] arguments world arguments world
  | call {listener : Listener} {rest : List Listener} {arguments given left : List String}
      {world middle after : World}
      (heard : performAll ⟨listener.owner, occasion⟩ arguments listener.script world = .ok given middle)
      (later : Calls occasion rest given middle left after) :
      Calls occasion (listener :: rest) arguments world left after

section Delivery

variable {event : Event} {occasion : Occasion} {bound number : Nat} {arguments left : List String}
  {world after : World}

theorem deliver_from_of_none (last : (world.host.services.listenersOf event)[number]? = none) :
    deliverFrom event occasion (bound + 1) number arguments world = .ok arguments world := by
  have looked : (get : Run World) world = .ok world world := rfl
  rw [deliverFrom, bind_eq, looked]
  dsimp only
  rw [last]
  rfl

theorem deliver_from_of_some {listener : Listener}
    (next : (world.host.services.listenersOf event)[number]? = some listener) :
    deliverFrom event occasion (bound + 1) number arguments world =
      (performAll ⟨listener.owner, occasion⟩ arguments listener.script >>=
        deliverFrom event occasion bound (number + 1) : Run (List String)) world := by
  have looked : (get : Run World) world = .ok world world := rfl
  rw [deliverFrom, bind_eq, looked]
  dsimp only
  rw [next]

theorem listener_kept {listener : Listener}
    (later : world.host.services.listeners <+: after.host.services.listeners)
    (next : (world.host.services.listenersOf event)[number]? = some listener) :
    (after.host.services.listenersOf event)[number]? = some listener := by
  obtain ⟨inside, -⟩ := List.getElem?_eq_some_iff.mp next
  have leads : world.host.services.listenersOf event <+: after.host.services.listenersOf event :=
    later.filter _
  rw [← next, List.prefix_iff_getElem?.mp leads number inside, List.getElem?_eq_getElem inside]

theorem drop_eq_cons {listeners : List Listener} {listener : Listener}
    (next : listeners[number]? = some listener) :
    listeners.drop number = listener :: listeners.drop (number + 1) := by
  obtain ⟨inside, same⟩ := List.getElem?_eq_some_iff.mp next
  rw [List.drop_eq_getElem_cons inside, same]

/-- The bound outlasts the listeners that are still to be called. -/
theorem calls_of_deliver_from
    (enough : deliveryBound ((world.host.services.listenersOf event).drop number) ≤ bound)
    (delivered : deliverFrom event occasion bound number arguments world = .ok left after) :
    Calls occasion ((after.host.services.listenersOf event).drop number) arguments world left after := by
  induction bound generalizing number arguments world with
  | zero =>
      cases next : (world.host.services.listenersOf event)[number]? with
      | none =>
          cases delivered
          rw [List.drop_eq_nil_of_le (List.getElem?_eq_none_iff.mp next)]
          exact .done _ _
      | some listener =>
          rw [drop_eq_cons next, delivery_bound_cons] at enough
          omega
  | succ bound ih =>
      cases next : (world.host.services.listenersOf event)[number]? with
      | none =>
          rw [deliver_from_of_none next] at delivered
          cases delivered
          rw [List.drop_eq_nil_of_le (List.getElem?_eq_none_iff.mp next)]
          exact .done _ _
      | some listener =>
          have kept := listener_kept
            (((primitives_keep_listeners world.host.services.listeners).deliver_from _ _ _ _ _).of_ok
              (List.prefix_refl _) delivered) next
          rw [deliver_from_of_some next, bind_eq] at delivered
          cases heard : performAll ⟨listener.owner, occasion⟩ arguments listener.script world with
          | error fault failed =>
              rw [heard] at delivered
              cases delivered
          | ok given middle =>
              rw [heard] at delivered
              -- what the listener registers stands behind the others and weighs no more than its script
              obtain ⟨added, same, weight⟩ :=
                ((yields_perform_all _ arguments _ world).of_ok heard).adds.listeners_of event
              rw [drop_eq_cons kept]
              apply Calls.call heard (ih ?_ delivered)
              have inside : number + 1 ≤ (world.host.services.listenersOf event).length :=
                (List.getElem?_eq_some_iff.mp next).1
              rw [drop_eq_cons next, delivery_bound_cons] at enough
              rw [same, List.drop_append_of_le_length inside, delivery_bound_append]
              omega

theorem calls_of_notify (notified : notify event occasion arguments world = .ok left after) :
    Calls occasion (after.host.services.listenersOf event) arguments world left after := by
  unfold notify at notified
  cases delivered : deliver event occasion arguments world with
  | error fault failed =>
      rw [delivered] at notified
      cases notified
  | ok given last =>
      rw [delivered] at notified
      cases notified
      apply @calls_of_deliver_from event occasion _ 0 arguments left world after (Nat.le_refl _)
      exact delivered

def Raises (occasion : Occasion) (after : World) : Prop :=
  ∃ listener ∈ after.host.services.listeners, ∃ given before raised last,
    performAll ⟨listener.owner, occasion⟩ given listener.script before = .error raised last

theorem raises_of_deliver_from {fault : Fault}
    (failed : deliverFrom event occasion bound number arguments world = .error fault after) :
    Raises occasion after := by
  induction bound generalizing number arguments world with
  | zero => cases failed
  | succ bound ih =>
      cases next : (world.host.services.listenersOf event)[number]? with
      | none =>
          rw [deliver_from_of_none next] at failed
          cases failed
      | some listener =>
          have kept := listener_kept
            (((primitives_keep_listeners world.host.services.listeners).deliver_from _ _ _ _ _).of_error
              (List.prefix_refl _) failed) next
          rw [deliver_from_of_some next, bind_eq] at failed
          cases heard : performAll ⟨listener.owner, occasion⟩ arguments listener.script world with
          | ok given middle =>
              rw [heard] at failed
              exact ih failed
          | error raised stopped =>
              have found := List.mem_filter.mp (List.mem_of_getElem? kept)
              exact ⟨listener, found.1, arguments, world, raised, stopped, heard⟩

theorem raises_of_notify {fault : Fault}
    (failed : notify event occasion arguments world = .error fault after) : Raises occasion after := by
  unfold notify at failed
  cases delivered : deliver event occasion arguments world with
  | ok given last =>
      rw [delivered] at failed
      cases failed
  | error raised stopped =>
      rw [delivered] at failed
      cases failed
      exact raises_of_deliver_from delivered

end Delivery

end Run

end TapeLang
