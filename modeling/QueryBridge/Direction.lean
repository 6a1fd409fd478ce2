/-!
# Directions

A query goes from SQL to MongoDB or back. Each direction has its own words: the
path and the fields of the service, and the labels that the user sees.
-/

set_option autoImplicit false

namespace QueryBridge

/-- Which way a query goes. -/
inductive Direction where
  /-- SQL in, MongoDB shell command out. -/
  | sqlToMongo
  /-- MongoDB shell command in, SQL out. -/
  | mongoToSql
  deriving DecidableEq, Repr, Inhabited

namespace Direction

/-- The directions in the order in which they are shown. -/
def all : List Direction := [.sqlToMongo, .mongoToSql]

/-- Last segment of the path at which the service answers. -/
def endpointPath : Direction → String
  | .sqlToMongo => "translate"
  | .mongoToSql => "reverse"

/-- Field of a request that holds the query. -/
def requestField : Direction → String
  | .sqlToMongo => "sql"
  | .mongoToSql => "mongo"

/-- Field of a reply that holds the converted query. -/
def responseField : Direction → String
  | .sqlToMongo => "mongo_command"
  | .mongoToSql => "sql"

/-- Name of the direction. -/
def label : Direction → String
  | .sqlToMongo => "SQL → MongoDB"
  | .mongoToSql => "MongoDB → SQL"

/-- Name of the direction in the history. -/
def historyLabel : Direction → String
  | .sqlToMongo => "SQL to MongoDB"
  | .mongoToSql => "MongoDB to SQL"

/-- Short name shown in the prompt. -/
def tag : Direction → String
  | .sqlToMongo => "sql"
  | .mongoToSql => "mongo"

/-- The other direction. -/
def toggled : Direction → Direction
  | .sqlToMongo => .mongoToSql
  | .mongoToSql => .sqlToMongo

theorem ne_toggled (d : Direction) : d ≠ d.toggled := by
  cases d <;> exact Direction.noConfusion

/-- The direction that the flag for reversing asks for. -/
def ofReverse (reverse : Bool) : Direction :=
  if reverse then .mongoToSql else .sqlToMongo

end Direction

/-- One value for each direction. -/
structure PerDirection (α : Type) where
  sqlToMongo : α
  mongoToSql : α
  deriving DecidableEq, Repr

namespace PerDirection

variable {α : Type}

/-- The same value for both directions. -/
def both (value : α) : PerDirection α :=
  ⟨value, value⟩

/-- The value of a direction. -/
def get (slots : PerDirection α) : Direction → α
  | .sqlToMongo => slots.sqlToMongo
  | .mongoToSql => slots.mongoToSql

/-- The same values but for one direction. -/
def set (slots : PerDirection α) (d : Direction) (value : α) : PerDirection α :=
  match d with
  | .sqlToMongo => { slots with sqlToMongo := value }
  | .mongoToSql => { slots with mongoToSql := value }

@[simp] theorem get_both (value : α) (d : Direction) : (both value).get d = value := by
  cases d <;> rfl

@[simp] theorem get_set_self (slots : PerDirection α) (d : Direction) (value : α) :
    (slots.set d value).get d = value := by
  cases d <;> rfl

theorem get_set (slots : PerDirection α) (d e : Direction) (value : α) :
    (slots.set d value).get e = if e = d then value else slots.get e := by
  cases d <;> cases e <;> rfl

/-- Values of different directions may be set in either order. -/
theorem set_comm (slots : PerDirection α) {d e : Direction} (h : d ≠ e) (first second : α) :
    (slots.set d first).set e second = (slots.set e second).set d first := by
  cases d <;> cases e <;> first | rfl | exact absurd rfl h

end PerDirection

end QueryBridge
