import Mathlib.Data.List.Induction
import TapeLang.Proofs.Semantics.Structured

/-!
An unbounded strip of cells, all zero at first, with a head that can go right without end. A deed is
something that is done to it. The window on a strip is its front as far as the head has been, or as far as
there were cells at first; doing a deed and looking through the window can be exchanged.
-/

namespace TapeLang

inductive Deed where
  | counted (kind : Counted) (count : Nat)
  | put (byte : UInt8)
  | clear
  deriving DecidableEq

/-- Cells without end, the place of the head, and the farthest place where the head has been. -/
structure Strip where
  cell : Nat → UInt8
  head : Nat
  reach : Nat
  head_le : head ≤ reach
  blank_beyond : ∀ place, reach < place → cell place = 0

namespace Strip

def blank : Strip where
  cell := fun _ => 0
  head := 0
  reach := 0
  head_le := Nat.le_refl 0
  blank_beyond := fun _ _ => rfl

def put (strip : Strip) (byte : UInt8) : Strip :=
  { strip with
    cell := fun place => if place = strip.head then byte else strip.cell place
    blank_beyond := by
      intro place standing
      have elsewhere : place ≠ strip.head := by
        have := strip.head_le
        omega
      rw [if_neg elsewhere]
      exact strip.blank_beyond place standing }

def clear (strip : Strip) : Strip :=
  { strip with cell := fun _ => 0, blank_beyond := fun _ _ => rfl }

def move (strip : Strip) (place : Nat) : Strip :=
  { strip with
    head := place
    reach := max strip.reach place
    head_le := Nat.le_max_right _ _
    blank_beyond := by
      intro other standing
      exact strip.blank_beyond other (by omega) }

/-- The left end stops the head; nothing stops it on the right. -/
def perform (strip : Strip) : Deed → Strip
  | .counted .increment count => strip.put (strip.cell strip.head + UInt8.ofNat count)
  | .counted .decrement count => strip.put (strip.cell strip.head - UInt8.ofNat count)
  | .counted .shiftLeft count => strip.move (strip.head - count)
  | .counted .shiftRight count => strip.move (strip.head + count)
  | .put byte => strip.put byte
  | .clear => strip.clear

def after (strip : Strip) (deeds : List Deed) : Strip := deeds.foldl perform strip

theorem after_append (strip : Strip) (first second : List Deed) :
    strip.after (first ++ second) = (strip.after first).after second :=
  List.foldl_append

theorem reach_perform (strip : Strip) (deed : Deed) :
    (strip.perform deed).reach = max strip.reach (strip.perform deed).head := by
  have kept : strip.reach = max strip.reach strip.head := (Nat.max_eq_left strip.head_le).symm
  cases deed with
  | counted kind count =>
      cases kind with
      | increment => exact kept
      | decrement => exact kept
      | shiftLeft => rfl
      | shiftRight => rfl
  | put byte => exact kept
  | clear => exact kept

/-- The farthest place of the head is the largest among all its places on the way. -/
theorem reach_largest (deeds : List Deed) :
    (∀ earlier, earlier <+: deeds → (blank.after earlier).head ≤ (blank.after deeds).reach) ∧
      ∃ earlier, earlier <+: deeds ∧ (blank.after earlier).head = (blank.after deeds).reach := by
  induction deeds using List.reverseRecOn with
  | nil =>
      constructor
      · intro earlier front
        rw [List.prefix_nil.mp front]
        exact Nat.le_refl 0
      · exact ⟨[], List.prefix_rfl, rfl⟩
  | append_singleton deeds deed ih =>
      obtain ⟨bound, attained, front, equal⟩ := ih
      have grown : (blank.after (deeds ++ [deed])).reach =
          max (blank.after deeds).reach (blank.after (deeds ++ [deed])).head := by
        rw [after_append]
        exact reach_perform _ deed
      constructor
      · intro earlier early
        rcases List.prefix_concat_iff.mp early with rfl | before
        · exact (blank.after _).head_le
        · have := bound earlier before
          omega
      · rcases Nat.le_total (blank.after (deeds ++ [deed])).head (blank.after deeds).reach with
          short | far
        · exact ⟨attained, front.trans (List.prefix_append _ _), by omega⟩
        · exact ⟨deeds ++ [deed], List.prefix_rfl, by omega⟩

def front (strip : Strip) (size : Nat) : List UInt8 := (List.range size).map strip.cell

@[simp] theorem length_front (strip : Strip) (size : Nat) : (strip.front size).length = size := by
  simp [front]

theorem front_put (strip : Strip) (byte : UInt8) (size : Nat) :
    (strip.put byte).front size = (strip.front size).set strip.head byte := by
  apply List.ext_getElem
  · simp
  · intro place _ _
    simp [front, put, List.getElem_set, eq_comm]

theorem front_clear (strip : Strip) (size : Nat) : strip.clear.front size = List.replicate size 0 := by
  simp [front, clear, List.map_const']

/-- Where the head has never been there are only zeros. -/
theorem front_add (strip : Strip) {size : Nat} (standing : strip.reach < size) (more : Nat) :
    strip.front (size + more) = strip.front size ++ List.replicate more 0 := by
  apply List.ext_getElem
  · simp
  · intro place _ _
    rw [List.getElem_append]
    split
    case isTrue => simp [front]
    case isFalse outside =>
      rw [length_front] at outside
      simpa [front] using strip.blank_beyond place (by omega)

def shown (strip : Strip) (initial : Nat) : Nat := max initial (strip.reach + 1)

theorem reach_lt_shown (strip : Strip) (initial : Nat) : strip.reach < strip.shown initial :=
  Nat.lt_of_lt_of_le (Nat.lt_succ_self _) (Nat.le_max_right _ _)

theorem head_lt_shown (strip : Strip) (initial : Nat) : strip.head < strip.shown initial :=
  Nat.lt_of_le_of_lt strip.head_le (strip.reach_lt_shown initial)

def window (strip : Strip) (initial : Nat) : Config where
  cells := strip.front (strip.shown initial)
  pointer := strip.head
  input := []
  output := []
  inside := by
    rw [length_front]
    exact strip.head_lt_shown initial

def ofConfig (config : Config) : Strip where
  cell := fun place => config.cells.getD place 0
  head := config.pointer
  reach := config.cells.length - 1
  head_le := Nat.le_sub_one_of_lt config.inside
  blank_beyond := by
    intro place standing
    have outside : config.cells.length ≤ place := by
      have := config.inside
      omega
    rw [List.getD_eq_getElem?_getD, List.getElem?_eq_none outside]
    rfl

theorem front_of_config (config : Config) :
    (ofConfig config).front ((ofConfig config).shown config.cells.length) = config.cells := by
  have size : (ofConfig config).shown config.cells.length = config.cells.length := by
    have := config.inside
    simp only [ofConfig, shown]
    omega
  rw [size]
  apply List.ext_getElem
  · simp
  · intro place _ inside
    simp [front, ofConfig, List.getD_eq_getElem?_getD, inside]

theorem window_blank {initial : Nat} (positive : 1 ≤ initial) :
    blank.window initial = .initial initial positive [] := by
  have size : blank.shown initial = initial := Nat.max_eq_left positive
  apply Config.ext
  · change blank.front (blank.shown initial) = List.replicate initial 0
    rw [size]
    exact front_clear blank initial
  · rfl
  · rfl
  · rfl

theorem window_put (strip : Strip) (byte : UInt8) (initial : Nat) :
    (strip.put byte).window initial = (strip.window initial).put byte :=
  Config.ext (strip.front_put byte _) rfl rfl rfl

theorem window_current (strip : Strip) (initial : Nat) :
    (strip.window initial).current = strip.cell strip.head := by
  simp [Config.current, window, front, List.getD_eq_getElem?_getD, strip.head_lt_shown initial]

theorem window_times (strip : Strip) (count : Nat) (kind : Counted) (initial : Nat) :
    (strip.perform (.counted kind count)).window initial = (strip.window initial).times count kind := by
  cases kind with
  | increment =>
      rw [Config.times, window_current]
      exact strip.window_put _ initial
  | decrement =>
      rw [Config.times, window_current]
      exact strip.window_put _ initial
  | shiftLeft =>
      have same : (strip.move (strip.head - count)).shown initial = strip.shown initial := by
        have := strip.head_le
        simp only [move, shown]
        omega
      apply Config.ext
      · change strip.front ((strip.move (strip.head - count)).shown initial) = strip.front _
        rw [same]
      · rfl
      · rfl
      · rfl
  | shiftRight =>
      -- the window becomes wider by just the cells that the head goes beyond it
      have wider : (strip.move (strip.head + count)).shown initial =
          strip.shown initial + (strip.head + count + 1 - strip.shown initial) := by
        simp only [move, shown]
        omega
      apply Config.ext
      · change strip.front ((strip.move (strip.head + count)).shown initial) =
          strip.front (strip.shown initial) ++
            List.replicate (strip.head + count + 1 - (strip.front (strip.shown initial)).length) 0
        rw [wider, strip.front_add (strip.reach_lt_shown initial), length_front]
      · rfl
      · rfl
      · rfl

end Strip

end TapeLang
