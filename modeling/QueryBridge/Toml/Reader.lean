import QueryBridge.Toml.Node
import QueryBridge.Toml.Quoted
import QueryBridge.Toml.Scalar

/-!
# Reading TOML

A text is a list of statements, each on lines of its own: a value under a name, a
header, or a double header. Between the parts of an array or an inline table there
may be gaps of blanks, comments and line ends. Arrays and inline tables nest at most
eighty deep. Every reader gives a value and what stands behind it, or nothing.
-/

set_option autoImplicit false

namespace QueryBridge.Toml

/-- A character of a key without quotes. -/
def isBare (c : Char) : Bool :=
  c.isAlphanum || c = '_' || c = '-'

/-- A key, with quotes or without. -/
def readKey (s : List Char) : Reading String :=
  match s with
  | '\x22' :: _ | '\x27' :: _ => (readShort s).map fun (text, rest) => (String.ofList text, rest)
  | _ =>
    if (s.takeWhile isBare).isEmpty then none
    else some (String.ofList (s.takeWhile isBare), s.dropWhile isBare)

/-- The keys of a name, with points between them, and what stands behind the blanks after it. The
fuel bounds the number of keys. -/
def readKeys : Nat → List Char → Reading (List String)
  | 0, _ => none
  | fuel + 1, s =>
    (readKey (s.dropWhile isBlank)).bind fun (key, rest) =>
      match rest.dropWhile isBlank with
      | '.' :: rest => (readKeys fuel rest).map fun (keys, rest) => (key :: keys, rest)
      | rest => some ([key], rest)

/-- A name, and what stands behind the blanks after it. -/
def readName (s : List Char) : Reading Name :=
  (readKeys s.length s).bind fun (keys, rest) =>
    keys.getLast?.map fun key => (⟨keys.dropLast, key⟩, rest)

/-- What stands behind a gap of blanks, comments and line ends. A comment holds no control character
but tabs. The flag tells that a comment has begun. -/
def skipGap : Bool → List Char → Option (List Char)
  | _, [] => some []
  | true, c :: rest =>
    if c = '\n' then skipGap false rest
    else if isPlain c then skipGap true rest
    else if c = '\r' && rest.head? = some '\n' then skipGap false rest
    else none
  | false, c :: rest =>
    if isBlank c || c = '\n' || (c = '\r' && rest.head? = some '\n') then skipGap false rest
    else if c = '#' then skipGap true rest
    else some (c :: rest)

/-- What stands behind the end of a line: blanks, a comment, and a line end or nothing. -/
def endLine (s : List Char) : Option (List Char) :=
  let behind :=
    match s.dropWhile isBlank with
    | '#' :: rest => rest.dropWhile isPlain
    | rest => rest
  match behind with
  | [] => some []
  | '\n' :: rest => some rest
  | '\r' :: '\n' :: rest => some rest
  | _ => none

mutual

/-- A value, which may nest `depth` deep. -/
def readValue : Nat → Nat → List Char → Reading Node
  | 0, _, _ => none
  | fuel + 1, depth, s =>
    match s, depth with
    | '[' :: _, 0 | '\x7b' :: _, 0 => none
    | '[' :: rest, depth + 1 =>
      (skipGap false rest).bind fun rest =>
        (readItems fuel depth rest).map fun (items, rest) => (.array items, rest)
    | '\x7b' :: rest, depth + 1 =>
      (skipGap false rest).bind fun rest =>
        (readEntries fuel depth rest).bind fun (entries, rest) =>
          (inlineOf? entries).map fun members => (.inlineTable members, rest)
    | '\x22' :: _, _ | '\x27' :: _, _ =>
      (readString s).map fun (text, rest) => (.text (String.ofList text), rest)
    | _, _ => Scalar.read s

/-- The items of an array, and what stands behind its bracket. A comma may stand behind the last. -/
def readItems : Nat → Nat → List Char → Reading (List Node)
  | 0, _, _ => none
  | _ + 1, _, ']' :: rest => some ([], rest)
  | fuel + 1, depth, s =>
    (readValue fuel depth s).bind fun (item, rest) =>
      (skipGap false rest).bind fun rest =>
        match rest with
        | ',' :: rest =>
          (skipGap false rest).bind fun rest =>
            (readItems fuel depth rest).map fun (items, rest) => (item :: items, rest)
        | ']' :: rest => some ([item], rest)
        | _ => none

/-- The entries of an inline table, and what stands behind its brace. A comma may stand behind the
last. -/
def readEntries : Nat → Nat → List Char → Reading (List (Name × Node))
  | 0, _, _ => none
  | _ + 1, _, '\x7d' :: rest => some ([], rest)
  | fuel + 1, depth, s =>
    (readName s).bind fun (name, rest) =>
      match rest with
      | '=' :: rest =>
        (readValue fuel depth (rest.dropWhile isBlank)).bind fun (node, rest) =>
          (skipGap false rest).bind fun rest =>
            match rest with
            | ',' :: rest =>
              (skipGap false rest).bind fun rest =>
                (readEntries fuel depth rest).map fun (entries, rest) =>
                  ((name, node) :: entries, rest)
            | '\x7d' :: rest => some ([(name, node)], rest)
            | _ => none
      | _ => none

end

/-- How deep arrays and inline tables nest at most. -/
def maxDepth : Nat := 80

/-- A statement that begins with a bracket or a key. -/
def readStatement (s : List Char) : Reading Statement :=
  match s with
  | '[' :: '[' :: rest =>
    (readName rest).bind fun (name, rest) =>
      match rest with
      | ']' :: ']' :: rest => some (.doubleHeader name, rest)
      | _ => none
  | '[' :: rest =>
    (readName rest).bind fun (name, rest) =>
      match rest with
      | ']' :: rest => some (.header name, rest)
      | _ => none
  | s =>
    (readName s).bind fun (name, rest) =>
      match rest with
      | '=' :: rest =>
        (readValue (2 * rest.length + 2) maxDepth (rest.dropWhile isBlank)).map
          fun (node, rest) => (.value name node, rest)
      | _ => none

/-- All statements of a text. The fuel bounds their number. -/
def readStatements : Nat → List Char → Option (List Statement)
  | 0, _ => none
  | fuel + 1, s =>
    (skipGap false s).bind fun s =>
      if s.isEmpty then some []
      else
        (readStatement s).bind fun (statement, rest) =>
          (endLine rest).bind fun rest =>
            (readStatements fuel rest).map (statement :: ·)

/-- A text without the mark of its byte order. -/
def dropMark : List Char → List Char
  | '\uFEFF' :: rest => rest
  | s => s

/-- The table that a text describes, or nothing if it is no TOML document. -/
def parse? (s : List Char) : Option Members :=
  let text := dropMark s
  (readStatements (text.length + 1) text).bind tableOf?

end QueryBridge.Toml
