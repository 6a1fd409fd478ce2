/-!
# TOML documents

A document is a table of keys. A table remembers how it came about, because that
decides what may still be added to it: a table under a header of its own may not be
declared again, a table that only stands in the path of a header may, a table made
by a dotted key grows by dotted keys only, and an inline table is closed.
-/

set_option autoImplicit false

namespace QueryBridge.Toml

/-- How a table came about. -/
inductive Origin where
  /-- It is the document, or has a header. -/
  | declared
  /-- It stands in the path of a header. -/
  | implied
  /-- It stands in the path of a dotted key. -/
  | dotted
  deriving DecidableEq, Repr

/-- What stands behind a key. -/
inductive Node where
  | text (s : String)
  | integer (n : Int)
  /-- A float; the flag tells that it is past the doubles. -/
  | float (overflows : Bool)
  | boolean (b : Bool)
  /-- A date, a time, or both. -/
  | moment
  | array (items : List Node)
  | inlineTable (members : List (String × Node))
  | table (origin : Origin) (members : List (String × Node))
  /-- The tables under one double header, the last of them apart. -/
  | tables (earlier : List (List (String × Node))) (last : List (String × Node))
  deriving Repr

/-- The keys of a table and what stands behind them, in the order of their appearance. -/
abbrev Members := List (String × Node)

namespace Members

/-- What stands behind a key. -/
def get? (key : String) (members : Members) : Option Node :=
  members.lookup key

/-- The members with another node behind a key that is there. -/
def replace (key : String) (node : Node) (members : Members) : Members :=
  members.map fun (name, old) => if name = key then (name, node) else (name, old)

/-- The members with one more at the end. -/
def add (key : String) (node : Node) (members : Members) : Members :=
  members ++ [(key, node)]

/-- Changes the table at a path, of whose origin and members `change` makes new members. The tables
that the path lacks are made, with origin `fresh`. A dotted path goes through tables only that no
header declared; any path goes on in the last of several tables under one header, and none through
a value. -/
def alter (fresh : Origin) (change : Origin → Members → Option Members) (origin : Origin) :
    List String → Members → Option Members
  | [], members => change origin members
  | key :: path, members =>
    match members.get? key with
    | none =>
      (alter fresh change fresh path []).map fun inner => members.add key (.table fresh inner)
    | some (.table inside inner) =>
      if fresh = .dotted && inside = .declared then none
      else (alter fresh change inside path inner).map fun after =>
        members.replace key (.table inside after)
    | some (.tables earlier last) =>
      (alter fresh change .declared path last).map fun after =>
        members.replace key (.tables earlier after)
    | some _ => none

/-- Adds a value under a key that is not there yet. A table made by dotted keys takes values of
dotted keys only, and the others take none. -/
def bind (path : List String) (key : String) (value : Node) (origin : Origin) (members : Members) :
    Option Members :=
  if (origin == .dotted) == path.isEmpty then none
  else if (members.get? key).isSome then none
  else some (members.add key value)

/-- Declares the table of a header. -/
def declare (key : String) (members : Members) : Option Members :=
  match members.get? key with
  | none => some (members.add key (.table .declared []))
  | some (.table .implied inner) => some (members.replace key (.table .declared inner))
  | some _ => none

/-- Begins one more table under a double header. -/
def begin (key : String) (members : Members) : Option Members :=
  match members.get? key with
  | none => some (members.add key (.tables [] []))
  | some (.tables earlier last) => some (members.replace key (.tables (earlier ++ [last]) []))
  | some _ => none

end Members

/-- A dotted name: the keys in front and the last one. -/
structure Name where
  path : List String
  key : String
  deriving DecidableEq, Repr

/-- All keys of a name. -/
def Name.keys (name : Name) : List String :=
  name.path ++ [name.key]

/-- A line that says something. -/
inductive Statement where
  | value (name : Name) (node : Node)
  | header (name : Name)
  | doubleHeader (name : Name)
  deriving Repr

/-- A table under a path of headers, and the path that values go to. -/
structure Draft where
  members : Members := []
  current : List String := []
  deriving Repr

namespace Draft

/-- The draft after one statement. -/
def add (draft : Draft) : Statement → Option Draft
  | .value name node =>
    (draft.members.alter .implied
      (fun origin inner =>
        Members.alter .dotted (Members.bind name.path name.key node) origin name.path inner)
      .declared draft.current).map fun after => { draft with members := after }
  | .header name =>
    (draft.members.alter .implied (fun _ inner => Members.declare name.key inner)
      .declared name.path).map fun after => ⟨after, name.keys⟩
  | .doubleHeader name =>
    (draft.members.alter .implied (fun _ inner => Members.begin name.key inner)
      .declared name.path).map fun after => ⟨after, name.keys⟩

/-- The draft after statements, the first one first. -/
def addAll (draft : Draft) (statements : List Statement) : Option Draft :=
  statements.foldlM add draft

end Draft

/-- The table that statements describe. -/
def tableOf? (statements : List Statement) : Option Members :=
  (({} : Draft).addAll statements).map Draft.members

/-- The members of an inline table. -/
def inlineOf? (entries : List (Name × Node)) : Option Members :=
  entries.foldlM (fun members (name, node) =>
    Members.alter .dotted (Members.bind name.path name.key node) .declared name.path members) []

end QueryBridge.Toml
