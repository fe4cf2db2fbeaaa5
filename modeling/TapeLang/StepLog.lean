import TapeLang.Text.Json

/-!
The step log: a bounded history of what a machine did. Steps are numbered without end; each entry
names the state it came from and the state it leads to, and only the latest entries are kept.
-/

namespace TapeLang

structure LogEntry (Cell : Type) where
  step : Int
  ip : Option Int
  instruction : Option String
  pointer : Int
  tape : Option (List Cell)
  record : List (String × Json)

def stateId (step : Int) : String :=
  "s_" ++ Text.decimalFilled 6 step

namespace LogEntry

def stateId (entry : LogEntry Cell) : String := TapeLang.stateId entry.step

def hasRule (entry : LogEntry Cell) (rule : String) : Bool :=
  match Json.lookup "rule" entry.record with
  | some (.str name) => name == rule
  | _ => false

end LogEntry

/-- The log keeps the latest `limit` entries. They are stored latest first, with older ones behind
them that are dropped now and then, each time the room for `slack` more entries is used up. -/
structure StepLog (Cell : Type) where
  limit : Nat
  stored : List (LogEntry Cell) := []
  slack : Nat := limit
  next : Int := 0
  lastId : String := "seed"

namespace StepLog

def entries (log : StepLog Cell) : List (LogEntry Cell) :=
  (log.stored.take log.limit).reverse

def last? (log : StepLog Cell) : Option (LogEntry Cell) :=
  (log.stored.take log.limit).head?

def find (log : StepLog Cell) (rule : String) : List (LogEntry Cell) :=
  log.entries.filter (·.hasRule rule)

def recent (log : StepLog Cell) (count : Nat) : List (LogEntry Cell) :=
  ((log.stored.take log.limit).take count).reverse

/-- Links a record to the states before and after its step. -/
def link (record : List (String × Json)) (before after : String) : List (String × Json) :=
  let linked :=
    match Json.lookup "from_state_id" record with
    | some _ => record
    | none => Json.assign "from_state_id" (.str before) record
  Json.assign "to_state_id" (.str after) linked

/-- What a caller says about a step; the log adds the number and the links. -/
structure Report (Cell : Type) where
  ip : Option Int := none
  instruction : Option String := none
  pointer : Int := 0
  tape : Option (List Cell) := none
  record : List (String × Json) := []

def entryFor (log : StepLog Cell) (report : Report Cell) : LogEntry Cell where
  step := log.next
  ip := report.ip
  instruction := report.instruction
  pointer := report.pointer
  tape := report.tape
  record := link report.record log.lastId (stateId log.next)

def push (log : StepLog Cell) (entry : LogEntry Cell) : StepLog Cell :=
  match log.slack with
  | 0 => { log with stored := (entry :: log.stored).take log.limit, slack := log.limit }
  | slack + 1 => { log with stored := entry :: log.stored, slack }

def record (log : StepLog Cell) (report : Report Cell) : StepLog Cell :=
  { log.push (log.entryFor report) with next := log.next + 1, lastId := stateId log.next }

/-- A new entry stands last, and the oldest falls out when the log is full. Older entries that are
still stored do not show. -/
theorem entries_push (log : StepLog Cell) (entry : LogEntry Cell) :
    (log.push entry).entries = ((entry :: log.entries.reverse).take log.limit).reverse := by
  unfold push entries
  cases bound : log.limit with
  | zero => split <;> simp_all
  | succ limit => split <;> simp_all [List.take_take]

/-- Forgets the entries; the numbering goes on. -/
def clear (log : StepLog Cell) : StepLog Cell :=
  { log with stored := [], slack := log.limit }

end StepLog

end TapeLang
