import TapeLang.Proofs.Log.Recording

/-!
The chain of entries. Each record is linked to the state before it and to its own, whether the entry before it
is still kept or not, and no two states have the same name, however many there are. Of the chain that was
recorded, the log keeps the end.
-/

namespace TapeLang

namespace Json

variable {name other : String} (value : Json) (members : List (String × Json))

theorem lookup_assign : lookup name (assign name value members) = some value := by
  induction members with
  | nil => exact if_pos rfl
  | cons member rest ih =>
      rw [assign]
      split
      case isTrue same => exact if_pos same
      case isFalse apart => exact (if_neg apart).trans ih

theorem lookup_assign_other (apart : name ≠ other) :
    lookup other (assign name value members) = lookup other members := by
  induction members with
  | nil => exact if_neg apart
  | cons member rest ih =>
      rw [assign]
      split
      case isTrue same =>
        rw [lookup, lookup, if_neg fun equal => apart (same.symm.trans equal),
          if_neg fun equal => apart (same.symm.trans equal)]
      case isFalse => rw [lookup, lookup, ih]

end Json

theorem to_list_state_id (number : Nat) :
    ∃ zeros, (stateId number).toList = 's' :: '_' :: (List.replicate zeros '0' ++ Nat.toDigits 10 number) := by
  have written : stateId number = "s_" ++ Text.padLeft 6 (String.ofList (Nat.toDigits 10 number)) := rfl
  refine ⟨6 - (Nat.toDigits 10 number).length, ?_⟩
  simp [written, Text.padLeft]

/-- Names of states differ also when the number has outgrown its width. -/
theorem state_id_injective {first second : Nat} (same : stateId first = stateId second) :
    first = second := by
  have read (number : Nat) : Nat.ofDigitChars 10 ((stateId number).toList.drop 2) 0 = number := by
    obtain ⟨zeros, written⟩ := to_list_state_id number
    rw [written, List.drop_succ_cons, List.drop_succ_cons, List.drop_zero, Nat.ofDigitChars_append,
      Nat.ofDigitChars_replicate_zero, Nat.mul_zero, Nat.ofDigitChars_ten_toDigits]
  rw [← read first, same, read second]

theorem LogEntry.has_rule_iff (entry : LogEntry Cell) (rule : String) :
    entry.hasRule rule = true ↔ Json.lookup "rule" entry.record = some (.str rule) := by
  unfold hasRule
  split
  case h_1 name found => simp [found]
  case h_2 absent =>
    simp only [Bool.false_eq_true, false_iff]
    intro found
    exact absent rule found

namespace StepLog

/-- Entries that were made for reports, one after the other: each says what was reported and is linked to
its own state and to the one before it, and the first to the seed. -/
structure Chain (reports : List (Report Cell)) (made : List (LogEntry Cell)) : Prop where
  size : made.length = reports.length
  reported : ∀ (index : Nat) (entry : LogEntry Cell), made[index]? = some entry →
    entry.step = index ∧ ∃ report, reports[index]? = some report ∧ entry.Reports report ∧
      ∀ name, name ≠ "from_state_id" → name ≠ "to_state_id" →
        Json.lookup name entry.record = Json.lookup name report.record
  leads : ∀ entry ∈ made, Json.lookup "to_state_id" entry.record = some (.str entry.stateId)
  begins : ∀ entry, made[0]? = some entry →
    Json.lookup "from_state_id" entry.record = some (.str "seed")
  follows : ∀ (index : Nat) (entry next : LogEntry Cell), made[index]? = some entry →
    made[index + 1]? = some next → Json.lookup "from_state_id" next.record = some (.str entry.stateId)
  distinct : (made.map LogEntry.stateId).Nodup

/-- The log keeps the end of what was made, numbered one after the other up to the latest entry, and finds in
it just the entries of a rule, in order. -/
structure KeepsEnd (limit : Nat) (made : List (LogEntry Cell)) (log : StepLog Cell) : Prop where
  suffix : log.entries <:+ made
  size : log.entries.length = min limit made.length
  next : log.next = made.length
  numbers : ∀ (index : Nat) (entry : LogEntry Cell), log.entries[index]? = some entry →
    entry.step = log.next - log.entries.length + index
  found : ∀ rule, ∃ named : LogEntry Cell → Bool, log.find rule = log.entries.filter named ∧
    ∀ entry, named entry = true ↔ Json.lookup "rule" entry.record = some (.str rule)

section Link

variable {record : List (String × Json)} {before after : String}

theorem lookup_link_after : Json.lookup "to_state_id" (link record before after) = some (.str after) :=
  Json.lookup_assign _ _

theorem lookup_link_before (unlinked : Json.lookup "from_state_id" record = none) :
    Json.lookup "from_state_id" (link record before after) = some (.str before) := by
  unfold link
  rw [unlinked]
  exact (Json.lookup_assign_other _ _ (by decide)).trans (Json.lookup_assign _ _)

theorem lookup_link_other {name : String} (source : name ≠ "from_state_id")
    (target : name ≠ "to_state_id") :
    Json.lookup name (link record before after) = Json.lookup name record := by
  unfold link
  rw [Json.lookup_assign_other _ _ (Ne.symm target)]
  split
  · rfl
  · exact Json.lookup_assign_other _ _ (Ne.symm source)

end Link

variable {log : StepLog Cell} {reports : List (Report Cell)}

theorem length_entries_for (log : StepLog Cell) (reports : List (Report Cell)) :
    (log.entriesFor reports).length = reports.length := by
  induction reports generalizing log with
  | nil => rfl
  | cons report rest ih => exact congrArg (· + 1) (ih (log.record report))

/-- An entry is what the log adds when the reports before it are in. -/
theorem entries_for_get {index : Nat} {entry : LogEntry Cell}
    (found : (log.entriesFor reports)[index]? = some entry) :
    ∃ report, reports[index]? = some report ∧
      entry = (log.recordAll (reports.take index)).entryFor report := by
  induction reports generalizing log index with
  | nil => cases found
  | cons report rest ih =>
      cases index with
      | zero =>
          cases found
          exact ⟨report, rfl, rfl⟩
      | succ index => exact ih found

theorem last_id_record_all (log : StepLog Cell) (reports : List (Report Cell)) (report : Report Cell) :
    (log.recordAll (reports ++ [report])).lastId = stateId (log.next + reports.length) := by
  rw [record_all_append, ← next_record_all]
  rfl

variable (limit : Nat)

theorem chain_of_reports
    (unlinked : ∀ report ∈ reports, Json.lookup "from_state_id" report.record = none) :
    Chain reports (entriesFor { limit } reports) := by
  have numbered {index : Nat} {entry : LogEntry Cell}
      (found : (entriesFor { limit } reports)[index]? = some entry) : entry.step = index :=
    (get_entries_for found).1.trans (Int.zero_add _)
  have source {index : Nat} {entry : LogEntry Cell}
      (found : (entriesFor { limit } reports)[index]? = some entry) :
      Json.lookup "from_state_id" entry.record =
        some (.str (recordAll { limit } (reports.take index)).lastId) := by
    obtain ⟨report, given, rfl⟩ := entries_for_get found
    exact lookup_link_before (unlinked report (List.mem_of_getElem? given))
  refine ⟨length_entries_for _ _, ?_, ?_, ?_, ?_, ?_⟩
  · intro index entry found
    obtain ⟨report, given, rfl⟩ := entries_for_get found
    refine ⟨numbered found, report, given, ⟨rfl, rfl, rfl, rfl⟩, ?_⟩
    intro name apart other
    exact lookup_link_other apart other
  · intro entry made
    obtain ⟨index, found⟩ := List.mem_iff_getElem?.mp made
    obtain ⟨report, -, rfl⟩ := entries_for_get found
    exact lookup_link_after
  · intro entry found
    exact source found
  · intro index entry next found following
    obtain ⟨report, given, -⟩ := entries_for_get found
    have front : reports.take (index + 1) = reports.take index ++ [report] := by
      rw [List.take_add_one, given, Option.toList_some]
    have width : (reports.take index).length = index := by
      have inside := (List.getElem?_eq_some_iff.mp given).1
      rw [List.length_take]
      omega
    rw [source following, front, last_id_record_all, width, LogEntry.stateId, numbered found]
    exact congrArg (fun number => some (Json.str (stateId number))) (Int.zero_add _)
  · rw [List.nodup_iff_pairwise_ne, List.pairwise_iff_getElem]
    intro first second within inside before same
    rw [List.getElem_map, List.getElem_map, LogEntry.stateId, LogEntry.stateId,
      numbered (List.getElem?_eq_getElem _), numbered (List.getElem?_eq_getElem _)] at same
    have equal := state_id_injective same
    omega

theorem entries_record_all (reports : List (Report Cell)) :
    (recordAll { limit } reports).entries =
      (entriesFor { limit } reports).drop (reports.length - limit) := by
  have stored := take_stored_record_all { limit } reports
  rw [List.append_nil, List.take_reverse, length_entries_for] at stored
  unfold entries
  rw [limit_record_all, stored, List.reverse_reverse]

theorem keeps_end_record_all (reports : List (Report Cell)) :
    KeepsEnd limit (entriesFor { limit } reports) (recordAll { limit } reports) := by
  have kept := entries_record_all limit reports
  have made := length_entries_for { limit } reports
  have next : (recordAll { limit } reports).next = reports.length :=
    (next_record_all { limit } reports).trans (Int.zero_add _)
  have size : (recordAll { limit } reports).entries.length = min limit reports.length := by
    rw [kept, List.length_drop, made]
    omega
  refine ⟨?_, ?_, ?_, ?_, ?_⟩
  · rw [kept]
    exact List.drop_suffix _ _
  · rw [size, made]
  · rw [next, made]
  · intro index entry found
    rw [kept, List.getElem?_drop] at found
    have number : entry.step = 0 + ((reports.length - limit + index : Nat) : Int) :=
      (get_entries_for found).1
    rw [number, next, size]
    omega
  · intro rule
    exact ⟨(·.hasRule rule), rfl, fun entry => entry.has_rule_iff rule⟩

end StepLog

end TapeLang
