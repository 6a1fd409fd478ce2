import QueryBridge.Files.Tree
import QueryBridge.Report

/-!
# The query of a one-shot run

A query comes from a file or from standard input. It is taken as it is: up to one
mebibyte of well-formed UTF-8. Of a longer source only as much is read as it takes to
see that it is too long.
-/

set_option autoImplicit false

namespace QueryBridge.QueryInput

open QueryBridge.Files

/-- The number of octets that a query may have. -/
def maxOctets : Nat := 1024 * 1024

/-- The complaint about a query that is too long. -/
def tooLong (origin : String) : String :=
  "Error: Input from " ++ origin ++ " exceeds maximum allowed size (1 MB).\n\n" ++
    "Queries are sent to the translation service in a single request."

/-- The complaint about a query that is not UTF-8. -/
def notUtf8 (origin : String) (fault : Text.Utf8.Fault) : Report :=
  ⟨"Input from " ++ origin ++ " is not valid UTF-8", [fault.message]⟩

/-- The octets that are read of a source. One more than a query may have gives a longer source
away. -/
def portion (octets : List UInt8) : List UInt8 :=
  octets.take (maxOctets + 1)

/-- The query that octets spell. The length is checked first. -/
def ofOctets (origin : String) (octets : List UInt8) : Fallible String :=
  let portion := portion octets
  if maxOctets < portion.length then .error ⟨tooLong origin, []⟩
  else
    match Text.Utf8.decode portion with
    | .ok text => .ok (String.ofList text)
    | .error fault => .error (notUtf8 origin fault)

/-- The query in the file at a path. A directory can be opened and not read. -/
def ofFile (tree : Tree) (path : Path) : Fallible String :=
  match tree.find path with
  | .error fault => .error ⟨"Failed to open file: " ++ path.toString, [fault.message]⟩
  | .ok .directory =>
    .error ⟨"Failed to read from " ++ path.toString, [Fault.isDirectory.message]⟩
  | .ok (.file octets) => ofOctets path.toString octets

/-- The query of a run: from the file at a path, or from standard input if there is no path or it is
a dash. -/
def read (tree : Tree) (standardInput : List UInt8) (path : Option Path) : Fallible String :=
  match path with
  | none => ofOctets "stdin" standardInput
  | some path => if path.isDash then ofOctets "stdin" standardInput else ofFile tree path

end QueryBridge.QueryInput
