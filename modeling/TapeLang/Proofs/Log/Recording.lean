import TapeLang.Proofs.Machine.Failure

/-!
What a log keeps of what is recorded in it. The kept entries are the latest of those that were there and
those that were added, and the numbers of entries, which every run gives in order, tell which are which.
-/

namespace TapeLang

structure LogEntry.Reports (entry : LogEntry Cell) (report : StepLog.Report Cell) : Prop where
  ip : entry.ip = report.ip
  instruction : entry.instruction = report.instruction
  pointer : entry.pointer = report.pointer
  tape : entry.tape = report.tape

namespace StepLog

def entriesFor (log : StepLog Cell) : List (Report Cell) → List (LogEntry Cell)
  | [] => []
  | report :: rest => log.entryFor report :: (log.record report).entriesFor rest

/-- The number of each stored entry tells how many were recorded after it. -/
def Numbered (log : StepLog Cell) : Prop :=
  ∀ (index : Nat) (entry : LogEntry Cell), log.stored[index]? = some entry →
    entry.step = log.next - 1 - index

theorem numbered_seed : Machine.seedLog.Numbered := by
  intro index entry found
  cases index with
  | zero =>
      cases found
      rfl
  | succ index => cases found

/-- What is stored after recording are the new entry and those from before, but for some of the oldest. -/
theorem stored_record (log : StepLog Cell) (report : Report Cell) :
    ∃ count, (log.record report).stored = (log.entryFor report :: log.stored).take count ∧
      log.limit ≤ count := by
  unfold record push
  cases log.slack with
  | zero => exact ⟨log.limit, rfl, Nat.le_refl _⟩
  | succ slack =>
      refine ⟨max log.limit (log.entryFor report :: log.stored).length, ?_, Nat.le_max_left _ _⟩
      exact (List.take_of_length_le (Nat.le_max_right _ _)).symm

theorem Numbered.record {log : StepLog Cell} (numbered : log.Numbered) (report : Report Cell) :
    (log.record report).Numbered := by
  obtain ⟨count, stored, -⟩ := log.stored_record report
  intro index entry found
  rw [stored, List.getElem?_take] at found
  split at found
  case isFalse => cases found
  case isTrue =>
    cases index with
    | zero =>
        cases found
        change log.next = log.next + 1 - 1 - 0
        omega
    | succ index =>
        have earlier := numbered index entry found
        rw [earlier]
        change _ = log.next + 1 - 1 - _
        omega

theorem take_stored_record_all (log : StepLog Cell) (reports : List (Report Cell)) :
    (log.recordAll reports).stored.take log.limit =
      ((log.entriesFor reports).reverse ++ log.stored).take log.limit := by
  induction reports generalizing log with
  | nil => rfl
  | cons report rest ih =>
      have later := ih (log.record report)
      rw [limit_record] at later
      obtain ⟨count, stored, enough⟩ := log.stored_record report
      change ((log.record report).recordAll rest).stored.take log.limit = _
      rw [later, stored, entriesFor, List.reverse_cons, List.append_assoc, List.take_append,
        List.take_append, List.take_take, Nat.min_eq_left]
      · rfl
      · omega

theorem limit_record_all (log : StepLog Cell) (reports : List (Report Cell)) :
    (log.recordAll reports).limit = log.limit := by
  induction reports generalizing log with
  | nil => rfl
  | cons report rest ih => exact (ih (log.record report)).trans (log.limit_record report)

theorem get_entries_for {log : StepLog Cell} {reports : List (Report Cell)} {index : Nat}
    {entry : LogEntry Cell} (found : (log.entriesFor reports)[index]? = some entry) :
    entry.step = log.next + index ∧ ∃ report, reports[index]? = some report ∧ entry.Reports report := by
  induction reports generalizing log index with
  | nil => cases found
  | cons report rest ih =>
      cases index with
      | zero =>
          cases found
          exact ⟨(Int.add_zero log.next).symm, report, rfl, rfl, rfl, rfl, rfl⟩
      | succ index =>
          obtain ⟨number, reported⟩ := ih found
          refine ⟨?_, reported⟩
          rw [number]
          change log.next + 1 + (index : Int) = log.next + ((index + 1 : Nat) : Int)
          omega

theorem next_record_all (log : StepLog Cell) (reports : List (Report Cell)) :
    (log.recordAll reports).next = log.next + reports.length := by
  induction reports generalizing log with
  | nil => exact (Int.add_zero log.next).symm
  | cons report rest ih =>
      refine (ih (log.record report)).trans ?_
      change log.next + 1 + (rest.length : Int) = log.next + ((rest.length + 1 : Nat) : Int)
      omega

/-- Kept entries that follow one another, of which the first was added, stand for reports that follow one
another. -/
theorem consecutive_reports {log : StepLog Cell} (numbered : log.Numbered)
    {reports : List (Report Cell)} {index : Nat} {entry next : LogEntry Cell}
    (found : (log.recordAll reports).entries[index]? = some entry)
    (follows : (log.recordAll reports).entries[index + 1]? = some next)
    (added : log.next ≤ entry.step) :
    ∃ (place : Nat) (report following : Report Cell), entry.step = log.next + place ∧
      reports[place]? = some report ∧ reports[place + 1]? = some following ∧
      entry.Reports report ∧ next.Reports following := by
  unfold entries at found follows
  rw [limit_record_all, take_stored_record_all] at found follows
  generalize size : (((log.entriesFor reports).reverse ++ log.stored).take log.limit).length = kept at *
  have bound : index + 1 < kept := by
    have inside := (List.getElem?_eq_some_iff.mp follows).1
    rwa [List.length_reverse, size] at inside
  -- counted from the latest entry, the second of the two stands in front of the first
  obtain ⟨back, rfl⟩ : ∃ back, kept = back + 1 + index + 1 := ⟨kept - index - 2, by omega⟩
  rw [List.getElem?_reverse (by omega), size] at found follows
  rw [show back + 1 + index + 1 - 1 - index = back + 1 by omega] at found
  rw [show back + 1 + index + 1 - 1 - (index + 1) = back by omega] at follows
  have within : back + 1 < log.limit := by
    have most := List.length_take_le log.limit ((log.entriesFor reports).reverse ++ log.stored)
    omega
  rw [List.getElem?_take_of_lt within] at found
  rw [List.getElem?_take_of_lt (by omega)] at follows
  have new : back + 1 < (log.entriesFor reports).reverse.length := by
    apply Decidable.byContradiction
    intro old
    rw [List.getElem?_append_right (by omega)] at found
    have earlier := numbered _ entry found
    omega
  rw [List.getElem?_append_left new, List.getElem?_reverse (by simpa using new)] at found
  rw [List.getElem?_append_left (by omega), List.getElem?_reverse (by simp at new; omega)] at follows
  rw [List.length_reverse] at new
  obtain ⟨number, report, reported, entryReports⟩ := get_entries_for found
  obtain ⟨-, following, reportedNext, nextReports⟩ := get_entries_for follows
  refine ⟨_, report, following, number, reported, ?_, entryReports, nextReports⟩
  rw [show (log.entriesFor reports).length - 1 - (back + 1) + 1 =
    (log.entriesFor reports).length - 1 - back by omega]
  exact reportedNext

theorem last_reports {log : StepLog Cell} (kept : 0 < log.limit) (reports : List (Report Cell))
    {report : Report Cell} {place : Int} (here : report.ip = some place) :
    ∃ entry, (log.recordAll (reports ++ [report])).last? = some entry ∧
      entry.step = log.next + reports.length ∧ entry.Reports report := by
  have still : 0 < (log.recordAll reports).limit := by
    rw [limit_record_all]
    exact kept
  rw [record_all_append]
  exact ⟨_, ((log.recordAll reports).record_ends_at still here).last, log.next_record_all reports,
    rfl, rfl, rfl, rfl⟩

end StepLog

structure World.Numbers (world : World) : Prop where
  builtin : world.host.services.Builtin
  numbered : world.machine.log.Numbered

namespace World.Numbers

variable {world : World}

theorem log_report (numbers : world.Numbers) (report : StepLog.Report UInt8) :
    Numbers { world with machine := world.machine.logReport report } :=
  { numbers with numbered := numbers.numbered.record report }

theorem emit (bytes : Bytes) : Run.Keeps World.Numbers (Run.emit bytes) :=
  Run.keeps_emit (fun _ _ numbers => { numbers with }) (fun _ _ numbers => { numbers with }) bytes

theorem readByte : Run.Keeps World.Numbers Run.readByte :=
  Run.keeps_read_byte (fun _ _ numbers => { numbers with }) fun _ numbers => { numbers with }

theorem stepping : Run.Stepping (fun left right => left = right ∧ left.Numbers) fun _ => True where
  builtin := by
    rintro left right ⟨rfl, numbers⟩
    exact ⟨numbers.builtin, numbers.builtin⟩
  files := by
    rintro left right ⟨rfl, numbers⟩
    rfl
  tape := by
    rintro left right ⟨rfl, numbers⟩
    rfl
  pointer := by
    rintro left right ⟨rfl, numbers⟩
    rfl
  place := by
    rintro left right ⟨rfl, numbers⟩ tape pointer
    exact ⟨rfl, { numbers with }⟩
  event := by
    rintro left right ⟨rfl, numbers⟩ rule details
    exact ⟨rfl, numbers.log_report _⟩
  skip := by
    rintro left right ⟨rfl, numbers⟩ path fault
    exact .ok trivial ⟨rfl, { numbers.log_report _ with }⟩
  append := by
    rintro left right ⟨rfl, numbers⟩ fragment
    exact ⟨rfl, { numbers with }⟩
  emit := by
    rintro left right ⟨rfl, numbers⟩ bytes
    exact Run.matched_self (fun _ => trivial) (emit bytes left numbers)
  ordinary _ _ := trivial
  program := by
    rintro left right ⟨rfl, numbers⟩
    rfl
  ip := by
    rintro left right ⟨rfl, numbers⟩
    rfl
  logStep := by
    rintro left right ⟨rfl, numbers⟩ instruction
    exact ⟨rfl, numbers.log_report _⟩
  goTo := by
    rintro left right ⟨rfl, numbers⟩ ip
    exact ⟨rfl, { numbers with }⟩

theorem step (numbers : world.Numbers) :
    Run.Yields Run.step world (fun _ after => after.Numbers) fun _ after => after.Numbers := by
  apply Run.yields_of_matched_self
  apply stepping.step ⟨rfl, numbers⟩
  intro _
  exact Run.matched_self (fun _ => rfl) (readByte _ (numbers.log_report _))

theorem run (numbers : world.Numbers) (standing : world.StandsBehind []) {fuel : Nat} {outlet : Outlet}
    {ended : Ended} (ran : Run.run fuel outlet world = some ended) : ended.world.Numbers :=
  standing.run_keep (fun _ _ still => { still with }) (fun still _ _ => still.step) numbers ran

end World.Numbers

end TapeLang
