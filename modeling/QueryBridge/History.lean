import QueryBridge.Direction
import QueryBridge.Calendar

/-!
# The history

The history is the log of finished attempts in the order in which they finished.
Nothing is reordered, merged or dropped, except that clearing empties the log.
-/

set_option autoImplicit false

namespace QueryBridge

/-- One finished attempt. -/
structure HistoryEntry where
  direction : Direction
  input : String
  output : String
  createdAt : Instant
  deriving DecidableEq, Repr

/-- The log of finished attempts, the latest one last. -/
structure History where
  entries : List HistoryEntry := []
  deriving DecidableEq, Repr

namespace History

/-- The log with one more entry. -/
def append (log : History) (entry : HistoryEntry) : History :=
  ⟨log.entries ++ [entry]⟩

/-- The empty log. -/
def clear (_ : History) : History :=
  ⟨[]⟩

/-- The entry at an index counted from zero. -/
def get? (log : History) (index : Nat) : Option HistoryEntry :=
  log.entries[index]?

/-- The latest entry. -/
def last? (log : History) : Option HistoryEntry :=
  log.entries.getLast?

/-- The number of entries. -/
def length (log : History) : Nat :=
  log.entries.length

/-- Whether the log has no entry. -/
def isEmpty (log : History) : Bool :=
  log.entries.isEmpty

@[simp] theorem entries_append (log : History) (entry : HistoryEntry) :
    (log.append entry).entries = log.entries ++ [entry] := rfl

@[simp] theorem entries_clear (log : History) : log.clear.entries = [] := rfl

@[simp] theorem length_append (log : History) (entry : HistoryEntry) :
    (log.append entry).length = log.length + 1 := by
  simp [length]

end History

end QueryBridge
