/-
**The debug log of sources.**

Sources are written by hand and often break, so every stage leaves records of what it did for which
source.  A log keeps the latest records, up to its capacity.

Main definitions:

* `ChapterAssembly.Record` — a message about a source, with its severity;
* `ChapterAssembly.Log` — the latest records, the oldest first.

Main results:

* `Log.length_records_le` — a log never holds more than its capacity.
-/

import ChapterAssembly.Notes.Event

set_option relaxedAutoImplicit false
set_option autoImplicit false

namespace ChapterAssembly

/-- How grave a record is. -/
inductive Severity where
  | debug
  | info
  | warn
  | error
deriving Repr, DecidableEq, BEq

namespace Severity

/-- The name of a severity. -/
def name : Severity → String
  | debug => "Debug"
  | info => "Info"
  | warn => "Warn"
  | error => "Error"

/-- Severities from the slightest to the gravest. -/
def rank : Severity → Nat
  | debug => 0
  | info => 1
  | warn => 2
  | error => 3

/-- The level of the event that tells of a record. -/
def level : Severity → Level
  | debug => .debug
  | info => .info
  | warn => .warn
  | error => .error

/-- The graver of two severities. -/
def max (a b : Severity) : Severity := if a.rank ≤ b.rank then b else a

end Severity

/-- A message about a source. -/
structure Record where
  source : Text
  severity : Severity
  message : Text
deriving Repr, DecidableEq

/-- A record told as an event. -/
def Record.event (r : Record) : Event :=
  ⟨r.severity.level, String.ofList r.message, [("source", r.source)]⟩

/-- The latest records, the oldest first. -/
structure Log where
  capacity : Nat
  records : List Record := []
  length_records_le : records.length ≤ capacity := by simp
  capacity_pos : 0 < capacity

namespace Log

theorem max_one_pos (n : Nat) : 0 < Nat.max n 1 := Nat.le_max_right n 1

theorem length_nil_le (n : Nat) : ([] : List Record).length ≤ Nat.max n 1 := Nat.zero_le _

/-- An empty log; it can hold one record at least. -/
def ofCapacity (n : Nat) : Log where
  capacity := Nat.max n 1
  length_records_le := length_nil_le n
  capacity_pos := max_one_pos n

/-- The capacity of a log for which none is given. -/
def standardCapacity : Nat := 512

/-- A record joins the log; a full log loses its oldest one. -/
def add (l : Log) (r : Record) : Log where
  capacity := l.capacity
  records := (if l.records.length = l.capacity then l.records.drop 1 else l.records) ++ [r]
  length_records_le := by
    have := l.length_records_le
    have := l.capacity_pos
    split <;> simp <;> omega
  capacity_pos := l.capacity_pos

/-- Records join the log one after another. -/
def addAll (l : Log) (rs : List Record) : Log := rs.foldl add l

/-- The records about one source. -/
def recordsFor (l : Log) (source : Text) : List Record :=
  l.records.filter fun r => r.source == source

/-- The gravest severity among the records. -/
def gravest? (l : Log) : Option Severity :=
  l.records.foldl (fun best r => some ((best.map (·.max r.severity)).getD r.severity)) none

end Log

end ChapterAssembly
