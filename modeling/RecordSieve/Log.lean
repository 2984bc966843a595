import RecordSieve.Evaluation

/-!
# The log

What the library does is recorded in a log, entry by entry: operator dispatches at the finest
level, summaries of scans and the fate of deferred deliveries above it, and errors that are
reported nowhere else at the top. A computation that logs gives back its result with its entries.
-/

namespace RecordSieve

/-- The record that stopped a scan, and why. -/
structure ScanError where
  /-- The position of the record. -/
  index : Nat
  /-- What went wrong with it. -/
  cause : MatchError
  deriving DecidableEq, Repr

/-- The text of an error. -/
def ScanError.message (e : ScanError) : String :=
  "scan failed at record " ++ toString e.index ++ ": " ++ e.cause.message

/-- The levels of the log, the most urgent first. -/
inductive LogLevel where
  /-- Errors. -/
  | warn
  /-- Summaries. -/
  | debug
  /-- Single steps. -/
  | trace
  deriving DecidableEq, Repr

namespace LogLevel

/-- The place of a level among the levels. -/
def rank : LogLevel → Nat
  | warn => 0
  | debug => 1
  | trace => 2

/-- The name of a level. -/
def name : LogLevel → String
  | warn => "WARN"
  | debug => "DEBUG"
  | trace => "TRACE"

end LogLevel

/-- An entry of the log. -/
inductive LogEntry where
  /-- An operator was applied. -/
  | dispatched (d : Dispatch)
  /-- A scan of all records came to its end. -/
  | scanned (records hits : Nat)
  /-- A search was given up. -/
  | findFailed (e : ScanError)
  /-- The outcome of a search is kept for later. -/
  | deferring
  /-- An outcome was delivered because its delivery was given up. -/
  | deliveredOnDrop
  deriving DecidableEq, Repr

namespace LogEntry

/-- The level of an entry. -/
def level : LogEntry → LogLevel
  | dispatched _ => .trace
  | scanned _ _ => .debug
  | findFailed _ => .warn
  | deferring => .debug
  | deliveredOnDrop => .debug

/-- The text of an item, where `describe` gives the text of a value. -/
def itemText (describe : Value → String) : Option Value → String
  | none => "None"
  | some v => "Some(" ++ describe v ++ ")"

/-- The text of an entry. A dispatch shows its item as a whole; `describe` gives the text of a
value. -/
def message (describe : Value → String) : LogEntry → String
  | dispatched d => d.op.key ++ " against " ++ itemText describe d.item
  | scanned records hits =>
    "scanned " ++ toString records ++ " records, " ++ toString hits ++ " matched"
  | findFailed e => "find failed: " ++ e.message
  | deferring => "deferring find callback"
  | deliveredOnDrop => "deferred find dropped before completion, delivered on drop"

end LogEntry

/-- The entries of a log up to a level. -/
def logUpTo (level : LogLevel) (log : List LogEntry) : List LogEntry :=
  log.filter fun entry => entry.level.rank ≤ level.rank

/-- A result, and what was logged on the way to it. -/
structure Logged (α : Type) where
  /-- The result. -/
  result : α
  /-- The log. -/
  log : List LogEntry

namespace Logged

variable {α β : Type}

/-- Changes the result and keeps the log. -/
def map (f : α → β) (x : Logged α) : Logged β := ⟨f x.result, x.log⟩

/-- Adds entries in front. -/
def after (log : List LogEntry) (x : Logged α) : Logged α := ⟨x.result, log ++ x.log⟩

/-- Adds entries at the end. -/
def before (x : Logged α) (log : List LogEntry) : Logged α := ⟨x.result, x.log ++ log⟩

@[simp] theorem result_map (f : α → β) (x : Logged α) : (x.map f).result = f x.result := rfl

@[simp] theorem log_map (f : α → β) (x : Logged α) : (x.map f).log = x.log := rfl

@[simp] theorem result_after (log : List LogEntry) (x : Logged α) :
    (x.after log).result = x.result := rfl

@[simp] theorem log_after (log : List LogEntry) (x : Logged α) :
    (x.after log).log = log ++ x.log := rfl

@[simp] theorem result_before (log : List LogEntry) (x : Logged α) :
    (x.before log).result = x.result := rfl

@[simp] theorem log_before (log : List LogEntry) (x : Logged α) :
    (x.before log).log = x.log ++ log := rfl

end Logged

/-- The log of an evaluation. -/
def Evaluation.log (e : Evaluation) : List LogEntry := e.dispatches.map .dispatched

/-- An evaluation as a verdict with a log. -/
def Evaluation.logged (e : Evaluation) : Logged Verdict := ⟨e.verdict, e.log⟩

end RecordSieve
