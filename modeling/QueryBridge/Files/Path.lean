import QueryBridge.Text.Space

/-!
# Paths

A path keeps the text that it was given as, and messages show that text. Its parts
stand between slashes; empty parts and points count for nothing, but for a point in
front. The last name, the path above it and the joining of paths are read off the
text from behind.
-/

set_option autoImplicit false

namespace QueryBridge.Files

/-- A path, as text. -/
structure Path where
  text : List Char
  deriving DecidableEq, Repr

namespace Path

/-- The path with a text. -/
def ofString (s : String) : Path := ⟨s.toList⟩

/-- The text of a path. -/
def toString (path : Path) : String := String.ofList path.text

/-- Whether a path begins at the root. -/
def isAbsolute (path : Path) : Bool :=
  path.text.head? = some '/'

/-- What stands in front of the parts: the slash of the root, or a point that is a part of its
own. -/
def front (path : Path) : List Char :=
  match path.text with
  | '/' :: _ => ['/']
  | ['.'] => ['.']
  | '.' :: '/' :: _ => ['.']
  | _ => []

/-- What stands behind the front, backwards. -/
def reversedBody (path : Path) : List Char :=
  (path.text.drop path.front.length).reverse

/-- A backwards body without the empty parts and points at its end, of whose last part a point may
stand in front. -/
def trimParts : List Char → List Char
  | [] => []
  | ['.'] => []
  | '/' :: rest => trimParts rest
  | '.' :: '/' :: rest => trimParts rest
  | body => body

/-- The last part of the body of a path, backwards, and what stands in front of it. -/
def lastPart (path : Path) : List Char × List Char :=
  let body := trimParts path.reversedBody
  (body.takeWhile (· ≠ '/'), (body.dropWhile (· ≠ '/')).drop 1)

/-- The last name of a path, which two points are not. -/
def name? (path : Path) : Option (List Char) :=
  let part := path.lastPart.1.reverse
  if part = [] || part = ['.', '.'] then none else some part

/-- The path above, unless the path is empty or the root. -/
def parent? (path : Path) : Option Path :=
  if path.lastPart.1 ≠ [] then
    some ⟨path.front ++ (trimParts path.lastPart.2).reverse⟩
  else if path.front = ['.'] then some ⟨[]⟩
  else none

/-- A path below another. An absolute path stays what it is. -/
def join (path below : Path) : Path :=
  if below.isAbsolute then below
  else if path.text = [] || path.text.getLast? = some '/' then ⟨path.text ++ below.text⟩
  else ⟨path.text ++ '/' :: below.text⟩

/-- Whether a path is a single dash, which stands for standard input. -/
def isDash (path : Path) : Bool :=
  path.front = [] && trimParts path.reversedBody = ['-']

/-- The pieces between slashes by which a path is looked up. -/
def pieces (path : Path) : List (List Char) :=
  Text.splitAll (· = '/') path.text

end Path

end QueryBridge.Files
