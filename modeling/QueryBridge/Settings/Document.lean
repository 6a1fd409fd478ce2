import QueryBridge.Settings.Basic
import QueryBridge.Toml.Reader
import QueryBridge.Toml.Writer

/-!
# Settings as a TOML document

The settings are the keys of the table `qtr`. Other keys are passed over, but the
numbers behind them must still be numbers that a program can hold. An array in place
of the table gives the settings by position.
-/

set_option autoImplicit false

namespace QueryBridge.Settings

open QueryBridge.Toml

/-- The key of the settings in a document. -/
def sectionKey : String := "qtr"

/-- The key of the endpoint. -/
def endpointKey : String := "endpoint"

/-- The key of the time limit. -/
def timeoutKey : String := "timeout_secs"

/-! ## Reading -/

/-- Whether an integer has at most 128 bits. -/
def isWide (n : Int) : Bool :=
  -(Nat.pow 2 127 : Int) ≤ n && n < (Nat.pow 2 128 : Int)

mutual

/-- Whether all numbers of a node can be held. -/
def isSound : Node → Bool
  | .integer n => isWide n
  | .float overflows => !overflows
  | .array items => areSound items
  | .inlineTable members => areSoundMembers members
  | .table _ members => areSoundMembers members
  | .tables earlier last => areSoundTables earlier && areSoundMembers last
  | .text _ | .boolean _ | .moment => true

/-- Whether all numbers of nodes can be held. -/
def areSound : List Node → Bool
  | [] => true
  | node :: rest => isSound node && areSound rest

/-- Whether all numbers of members can be held. -/
def areSoundMembers : List (String × Node) → Bool
  | [] => true
  | (_, node) :: rest => isSound node && areSoundMembers rest

/-- Whether all numbers of tables can be held. -/
def areSoundTables : List (List (String × Node)) → Bool
  | [] => true
  | members :: rest => areSoundMembers members && areSoundTables rest

end

/-- The text of a node. -/
def textOf? : Node → Option String
  | .text s => some s
  | _ => none

/-- The unsigned 64-bit integer of a node. -/
def wordOf? : Node → Option Nat
  | .integer n => if 0 ≤ n && n ≤ Text.maxWord then some n.toNat else none
  | _ => none

/-- What a node gives where there is one. -/
def optional? {α : Type} (read : Node → Option α) : Option Node → Option (Option α)
  | none => some none
  | some node => (read node).map some

/-- Whether the members but for some keys can be passed over. -/
def othersAreSound (keys : List String) (members : Members) : Bool :=
  members.all fun (key, node) => keys.contains key || isSound node

/-- The settings that members give. -/
def ofMembers? (members : Members) : Option Settings :=
  if othersAreSound [endpointKey, timeoutKey] members then
    (optional? textOf? (members.get? endpointKey)).bind fun endpoint =>
      (optional? wordOf? (members.get? timeoutKey)).map fun timeout => ⟨endpoint, timeout⟩
  else none

/-- The settings that items give by position. -/
def ofItems? (items : List Node) : Option Settings :=
  (optional? textOf? items[0]?).bind fun endpoint =>
    (optional? wordOf? items[1]?).map fun timeout => ⟨endpoint, timeout⟩

/-- The settings that the node behind their key gives. -/
def ofNode? : Node → Option Settings
  | .table _ members | .inlineTable members => ofMembers? members
  | .array items => ofItems? items
  | .moment => some {}
  | _ => none

/-- The settings of a document. -/
def ofDocument? (document : Members) : Option Settings :=
  if othersAreSound [sectionKey] document then
    match document.get? sectionKey with
    | none => some {}
    | some node => ofNode? node
  else none

/-- The settings that a text gives. -/
def parse? (s : List Char) : Option Settings :=
  (Toml.parse? s).bind ofDocument?

/-! ## Writing -/

/-- The line of a key and its value. -/
def line (key : String) (value : List Char) : List Char :=
  key.toList ++ [' ', '=', ' '] ++ value ++ ['\n']

/-- The text of settings. -/
def write (settings : Settings) : List Char :=
  ['['] ++ sectionKey.toList ++ [']', '\n'] ++
    settings.endpoint.elim [] (fun endpoint => line endpointKey (writeString endpoint.toList)) ++
    settings.timeoutSecs.elim [] (fun secs => line timeoutKey (Text.decimal secs))

end QueryBridge.Settings
