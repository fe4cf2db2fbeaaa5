import TapeLang.Stream.Outlet
import TapeLang.Stream.Source

/-!
Calls on streams. A flush never writes. A steady outlet never fails and stays steady; a regular source
brings bytes, ends, or fails as a file does, and stays regular. The faults that a stream can raise are
fixed from the start. Outlets that are abreast take the same writes in the same way, however often each
is flushed in between.
-/

namespace TapeLang

namespace Channel

def failingFlush (number : Nat) : Channel where
  flushFault call := if call = number then some (.file (.described "gone")) else none

def withRoom (room : Nat) : Channel where
  writeFault call := if call < room then none else some (.file (.described "full"))

structure Steady (channel : Channel) : Prop where
  write : ∀ call, channel.writeFault call = none
  flush : ∀ call, channel.flushFault call = none

theorem flush_events (channel : Channel) : ∀ event ∈ channel.flush.events, event = .flushed := by
  intro event found
  unfold flush at found
  cases raised : channel.flushFault channel.flushes with
  | none =>
      simp only [raised, List.mem_singleton] at found
      exact found
  | some fault =>
      simp only [raised] at found
      cases found

theorem Steady.write_eq {channel : Channel} (steady : channel.Steady) (bytes : Bytes) :
    channel.write bytes =
      { stream := { channel with writes := channel.writes + 1 }, events := [.wrote bytes] } := by
  unfold Channel.write
  rw [steady.write]

theorem Steady.flush_eq {channel : Channel} (steady : channel.Steady) :
    channel.flush =
      { stream := { channel with flushes := channel.flushes + 1 }, events := [.flushed] } := by
  unfold Channel.flush
  rw [steady.flush]

def Raises (channel : Channel) (fault : Fault) : Prop :=
  ∃ call, channel.writeFault call = some fault ∨ channel.flushFault call = some fault

theorem raises_of_write {channel : Channel} {bytes : Bytes} {fault : Fault} :
    ((channel.write bytes).fault = some fault → channel.Raises fault) ∧
      ((channel.write bytes).stream.Raises fault → channel.Raises fault) := by
  unfold write
  cases raised : channel.writeFault channel.writes with
  | none => exact ⟨by simp, id⟩
  | some other => exact ⟨fun same => ⟨_, .inl (raised.trans same)⟩, id⟩

theorem raises_of_flush {channel : Channel} {fault : Fault} :
    (channel.flush.fault = some fault → channel.Raises fault) ∧
      (channel.flush.stream.Raises fault → channel.Raises fault) := by
  unfold flush
  cases raised : channel.flushFault channel.flushes with
  | none => exact ⟨by simp, id⟩
  | some other => exact ⟨fun same => ⟨_, .inr (raised.trans same)⟩, id⟩

end Channel

namespace Outlet

/-- No call on the outlet fails. A tee needs a sink that can be flushed. -/
def Steady : Outlet → Prop
  | .direct channel => channel.Steady
  | .tee _ none => True
  | .tee _ (some sink) => sink.Steady ∧ sink.canFlush = true

theorem flush_events (outlet : Outlet) : ∀ event ∈ outlet.flush.events, event = .flushed := by
  fun_cases flush outlet with
  | case1 channel able called => exact channel.flush_events
  | case2 channel unable => simp
  | case3 captured => simp
  | case4 captured sink able called => exact sink.flush_events
  | case5 captured sink unable => simp

theorem Steady.write {outlet : Outlet} (steady : outlet.Steady) (bytes : Bytes) :
    (outlet.write bytes).fault = none ∧ (outlet.write bytes).stream.Steady := by
  fun_cases Outlet.write outlet bytes with
  | case1 channel called =>
      have calm : channel.Steady := steady
      dsimp only [called]
      rw [calm.write_eq]
      exact ⟨rfl, calm.write, calm.flush⟩
  | case2 captured => exact ⟨rfl, trivial⟩
  | case3 captured sink called =>
      dsimp only [called]
      rw [Channel.Steady.write_eq steady.1]
      exact ⟨rfl, ⟨steady.1.write, steady.1.flush⟩, steady.2⟩

theorem Steady.flush {outlet : Outlet} (steady : outlet.Steady) :
    outlet.flush.fault = none ∧ outlet.flush.stream.Steady := by
  fun_cases Outlet.flush outlet with
  | case1 channel able called =>
      have calm : channel.Steady := steady
      dsimp only [called]
      rw [calm.flush_eq]
      exact ⟨rfl, calm.write, calm.flush⟩
  | case2 channel unable => exact ⟨rfl, steady⟩
  | case3 captured => exact ⟨rfl, trivial⟩
  | case4 captured sink able called =>
      dsimp only [called]
      rw [Channel.Steady.flush_eq steady.1]
      exact ⟨rfl, ⟨steady.1.write, steady.1.flush⟩, steady.2⟩
  | case5 captured sink unable => exact absurd steady.2 unable

theorem tee_write (captured : Array UInt8) (sink : Option Channel) (bytes : Bytes) :
    ∃ after, ((tee captured sink).write bytes).stream =
      .tee (captured ++ bytes.toArray) after := by
  cases sink with
  | none => exact ⟨none, rfl⟩
  | some sink => exact ⟨_, rfl⟩

theorem tee_flush (captured : Array UInt8) (sink : Option Channel) :
    ∃ after, (tee captured sink).flush.stream = .tee captured after := by
  cases sink with
  | none => exact ⟨none, rfl⟩
  | some sink =>
      rw [flush]
      split
      · exact ⟨_, rfl⟩
      · exact ⟨_, rfl⟩

theorem direct_flush (channel : Channel) :
    ∃ after, (direct channel).flush.stream = .direct after := by
  rw [flush]
  split
  · exact ⟨_, rfl⟩
  · exact ⟨channel, rfl⟩

def Raises : Outlet → Fault → Prop
  | .direct channel, fault => channel.Raises fault
  | .tee _ none, _ => False
  | .tee _ (some sink), fault => sink.Raises fault ∨ (sink.canFlush = false ∧ fault = .cannotFlush)

theorem raises_of_write {outlet : Outlet} {bytes : Bytes} {fault : Fault} :
    ((outlet.write bytes).fault = some fault → outlet.Raises fault) ∧
      ((outlet.write bytes).stream.Raises fault → outlet.Raises fault) := by
  fun_cases Outlet.write outlet bytes with
  | case1 channel called => exact Channel.raises_of_write
  | case2 captured => exact ⟨by simp, id⟩
  | case3 captured sink called =>
      constructor
      · intro raised
        exact .inl (Channel.raises_of_write.1 raised)
      · intro raises
        rcases raises with raised | ⟨unable, rfl⟩
        · exact .inl (Channel.raises_of_write.2 raised)
        · dsimp only [called, Channel.write] at unable
          split at unable <;> exact .inr ⟨unable, rfl⟩

theorem raises_of_flush {outlet : Outlet} {fault : Fault} :
    (outlet.flush.fault = some fault → outlet.Raises fault) ∧
      (outlet.flush.stream.Raises fault → outlet.Raises fault) := by
  fun_cases Outlet.flush outlet with
  | case1 channel able called => exact Channel.raises_of_flush
  | case2 channel unable => exact ⟨by simp, id⟩
  | case3 captured => exact ⟨by simp, id⟩
  | case4 captured sink able called =>
      constructor
      · intro raised
        exact .inl (Channel.raises_of_flush.1 raised)
      · intro raises
        rcases raises with raised | ⟨unable, -⟩
        · exact .inl (Channel.raises_of_flush.2 raised)
        · dsimp only [called, Channel.flush] at unable
          split at unable <;> simp_all
  | case5 captured sink unable =>
      constructor
      · intro raised
        cases raised
        exact .inr ⟨by simpa using unable, rfl⟩
      · exact id

def channel? : Outlet → Option Channel
  | .direct channel => some channel
  | .tee _ sink => sink

def writeFault (outlet : Outlet) (ahead : Nat) : Option Fault :=
  outlet.channel?.bind fun channel => channel.writeFault (channel.writes + ahead)

def Flushable : Outlet → Prop
  | .direct channel => channel.canFlush = true → ∀ call, channel.flushFault call = none
  | .tee _ none => True
  | .tee _ (some sink) => sink.canFlush = true ∧ ∀ call, sink.flushFault call = none

/-- Writing to the one goes as writing to the other, now and later, and flushing neither fails. -/
structure Abreast (left right : Outlet) : Prop where
  passes : left.channel?.isSome = right.channel?.isSome
  writeFault : ∀ ahead, left.writeFault ahead = right.writeFault ahead
  leftFlushable : left.Flushable
  rightFlushable : right.Flushable

end Outlet

namespace Channel

theorem write_called (channel : Channel) (bytes : Bytes) :
    (channel.write bytes).fault = channel.writeFault channel.writes ∧
      (channel.write bytes).events =
        (if (channel.writeFault channel.writes).isNone then [.wrote bytes] else []) ∧
      (channel.write bytes).stream = { channel with writes := channel.writes + 1 } := by
  unfold write
  cases raised : channel.writeFault channel.writes with
  | none => exact ⟨rfl, rfl, rfl⟩
  | some fault => exact ⟨rfl, rfl, rfl⟩

theorem flush_called {channel : Channel} (able : ∀ call, channel.flushFault call = none) :
    channel.flush.fault = none ∧
      channel.flush.stream = { channel with flushes := channel.flushes + 1 } := by
  unfold flush
  rw [able]
  exact ⟨rfl, rfl⟩

end Channel

namespace Outlet

/-- A write raises what comes next, shows up outside unless it fails, and leaves what comes after. -/
theorem write_called (outlet : Outlet) (bytes : Bytes) :
    (outlet.write bytes).fault = outlet.writeFault 0 ∧
      (outlet.write bytes).events =
        (if outlet.channel?.isSome ∧ (outlet.writeFault 0).isNone then [.wrote bytes] else []) ∧
      (outlet.write bytes).stream.channel?.isSome = outlet.channel?.isSome ∧
      (∀ ahead, (outlet.write bytes).stream.writeFault ahead = outlet.writeFault (ahead + 1)) ∧
      (outlet.Flushable → (outlet.write bytes).stream.Flushable) := by
  fun_cases Outlet.write outlet bytes with
  | case1 channel called =>
      obtain ⟨fault, events, stream⟩ := channel.write_called bytes
      refine ⟨fault, by simpa [channel?, writeFault] using events, rfl, ?_, ?_⟩
      · intro ahead
        simp only [called, stream, writeFault, channel?, Option.bind_some]
        rw [Nat.add_assoc, Nat.add_comm 1]
      · intro flushable
        simp only [called, stream]
        exact flushable
  | case2 captured => exact ⟨rfl, rfl, rfl, fun _ => rfl, id⟩
  | case3 captured sink called =>
      obtain ⟨fault, events, stream⟩ := sink.write_called bytes
      refine ⟨fault, by simpa [channel?, writeFault] using events, rfl, ?_, ?_⟩
      · intro ahead
        simp only [called, stream, writeFault, channel?, Option.bind_some]
        rw [Nat.add_assoc, Nat.add_comm 1]
      · intro flushable
        simp only [called, stream]
        exact flushable

theorem flush_called {outlet : Outlet} (flushable : outlet.Flushable) :
    outlet.flush.fault = none ∧ outlet.flush.stream.Flushable ∧
      outlet.flush.stream.channel?.isSome = outlet.channel?.isSome ∧
      ∀ ahead, outlet.flush.stream.writeFault ahead = outlet.writeFault ahead := by
  fun_cases Outlet.flush outlet with
  | case1 channel able called =>
      obtain ⟨fault, stream⟩ := Channel.flush_called (flushable able)
      dsimp only [called]
      rw [stream]
      exact ⟨fault, flushable, rfl, fun _ => rfl⟩
  | case2 channel unable => exact ⟨rfl, flushable, rfl, fun _ => rfl⟩
  | case3 captured => exact ⟨rfl, flushable, rfl, fun _ => rfl⟩
  | case4 captured sink able called =>
      obtain ⟨fault, stream⟩ := Channel.flush_called flushable.2
      dsimp only [called]
      rw [stream]
      exact ⟨fault, flushable, rfl, fun _ => rfl⟩
  | case5 captured sink unable => exact absurd flushable.1 unable

namespace Abreast

variable {left right : Outlet}

theorem trans {third : Outlet} (first : left.Abreast right) (second : right.Abreast third) :
    left.Abreast third where
  passes := first.passes.trans second.passes
  writeFault ahead := (first.writeFault ahead).trans (second.writeFault ahead)
  leftFlushable := first.leftFlushable
  rightFlushable := second.rightFlushable

theorem write (abreast : left.Abreast right) (bytes : Bytes) :
    (left.write bytes).fault = (right.write bytes).fault ∧
      (left.write bytes).events = (right.write bytes).events ∧
      (left.write bytes).stream.Abreast (right.write bytes).stream := by
  obtain ⟨leftFault, leftEvents, leftPasses, leftLater, leftStill⟩ := left.write_called bytes
  obtain ⟨rightFault, rightEvents, rightPasses, rightLater, rightStill⟩ := right.write_called bytes
  refine ⟨?_, ?_, ?_, ?_, leftStill abreast.leftFlushable, rightStill abreast.rightFlushable⟩
  · rw [leftFault, rightFault, abreast.writeFault]
  · rw [leftEvents, rightEvents, abreast.writeFault, abreast.passes]
  · rw [leftPasses, rightPasses, abreast.passes]
  · intro ahead
    rw [leftLater, rightLater, abreast.writeFault]

theorem flush (abreast : left.Abreast right) :
    left.flush.stream.Abreast right ∧ left.Abreast right.flush.stream := by
  obtain ⟨-, leftStill, leftPasses, leftLater⟩ := flush_called abreast.leftFlushable
  obtain ⟨-, rightStill, rightPasses, rightLater⟩ := flush_called abreast.rightFlushable
  constructor
  · exact ⟨leftPasses.trans abreast.passes, fun ahead => (leftLater ahead).trans (abreast.writeFault ahead),
      leftStill, abreast.rightFlushable⟩
  · exact ⟨abreast.passes.trans rightPasses.symm,
      fun ahead => (abreast.writeFault ahead).trans (rightLater ahead).symm, abreast.leftFlushable,
      rightStill⟩

end Abreast

end Outlet

inductive Delivery.Regular : Delivery → Prop where
  | byte (byte : UInt8) : Regular (.byte byte)
  | nothing : Regular .nothing
  | failure (fault : FileFault) : Regular (.failure (.file fault))

namespace Source

/-- The source brings regular deliveries only. A keyboard brings bytes or ends. -/
def Regular : Source → Prop
  | .queue items after => (∀ item ∈ items, item.Regular) ∧ after.Regular
  | .typed _ => True

theorem Regular.take {source : Source} (regular : source.Regular) :
    source.take.1.Regular ∧ source.take.2.Regular := by
  fun_cases Source.take source with
  | case1 item items after =>
      rcases regular with ⟨each, last⟩
      exact ⟨each item List.mem_cons_self, fun other found => each other (List.mem_cons_of_mem item found),
        last⟩
  | case2 after => exact ⟨regular.2, regular⟩
  | case3 keyboard byte bytes rest taken => exact ⟨.byte byte, trivial⟩
  | case4 keyboard rest taken => exact ⟨.nothing, trivial⟩

theorem of_bytes_injective {left right : Bytes} (same : ofBytes left = .ofBytes right) :
    left = right := by
  rw [ofBytes, ofBytes, queue.injEq] at same
  exact (List.map_inj_right fun _ _ => Delivery.byte.inj).mp same.1

theorem regular_of_bytes (input : Bytes) : (ofBytes input).Regular := by
  refine ⟨?_, .nothing⟩
  intro item found
  obtain ⟨byte, -, rfl⟩ := List.mem_map.mp found
  exact .byte byte

def Raises : Source → Fault → Prop
  | .queue items after, fault => .failure fault ∈ items ∨ after = .failure fault
  | .typed _, _ => False

theorem raises_of_take {source : Source} {fault : Fault} :
    (source.take.1 = .failure fault → source.Raises fault) ∧
      (source.take.2.Raises fault → source.Raises fault) := by
  fun_cases Source.take source with
  | case1 item items after =>
      constructor
      · intro failed
        have brought : item = .failure fault := failed
        rw [brought]
        exact .inl List.mem_cons_self
      · intro raises
        rcases raises with found | last
        · exact .inl (List.mem_cons_of_mem item found)
        · exact .inr last
  | case2 after => exact ⟨.inr, id⟩
  | case3 keyboard byte bytes rest taken => exact ⟨by simp, id⟩
  | case4 keyboard rest taken => exact ⟨by simp, id⟩

end Source

end TapeLang
