import QueryBridge.Prompt

/-!
# Typing a line

A prompt collects the characters that are typed until a key ends it: Enter hands the
line over, two other keys back out. What is typed stays in the line until then.
-/

set_option autoImplicit false

namespace QueryBridge.Terminal

/-- What a key does. -/
inductive Key where
  | enter
  | erase
  | leave (failure : PromptFailure)
  | insert (c : Char)
  | ignored
  deriving DecidableEq, Repr

/-- The key that sends a character. -/
def Key.ofChar (c : Char) : Key :=
  if c = '\r' then .enter
  else if c = '\x7f' || c = '\x08' then .erase
  else if c = '\x03' then .leave .interrupted
  else if c = '\x1b' then .leave .canceled
  else if c.toNat < 0x20 then .ignored
  else .insert c

/-- The line typed so far, backwards. -/
abbrev Typed := List Char

/-- The line that is handed over. -/
def Typed.line (typed : Typed) : String :=
  String.ofList typed.reverse

/-- What a prompt gives. -/
abbrev Answer := Except PromptFailure String

/-- One key: the line typed afterwards, and the answer of the prompt if the key ends it. -/
def press (typed : Typed) : Key → Typed × Option Answer
  | .enter => (typed, some (.ok typed.line))
  | .erase => (typed.drop 1, none)
  | .leave failure => (typed, some (.error failure))
  | .insert c => (c :: typed, none)
  | .ignored => (typed, none)

/-- What happens at a terminal. -/
inductive Gesture where
  | key (key : Key)
  /-- The user waits until all requests in flight are answered. -/
  | pause
  deriving DecidableEq, Repr

/-- The gestures that type a text. -/
def gesturesOf (s : List Char) : List Gesture :=
  s.map fun c => .key (.ofChar c)

end QueryBridge.Terminal
