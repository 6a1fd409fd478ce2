import QueryBridge.Files.Tree
import QueryBridge.Report

/-!
# Replacing a file in one step

New contents go to a temporary file beside the target, which is then moved over it.
Until the move has succeeded the target is what it was. A temporary file that cannot
be moved stays where it is.
-/

set_option autoImplicit false

namespace QueryBridge.Files

/-- The directory of the temporary file. -/
def workPlace (path : Path) : Path :=
  path.parent?.getD (.ofString ".")

/-- The temporary file for a target. -/
def temporary (path : Path) : Path :=
  (workPlace path).join ⟨'.' :: path.name?.getD [] ++ ['.', 't', 'm', 'p']⟩

/-- The tree at the end of an operation, and how it went. -/
abbrev Done := Tree × Fallible Unit

/-- The complaint about a temporary file that cannot be written. -/
def notStaged (path : Path) (cause : String) : Report :=
  ⟨"Failed to write " ++ (temporary path).toString, [cause]⟩

/-- The complaint about a target that cannot be replaced. -/
def notCommitted (path : Path) (cause : String) : Report :=
  ⟨"Failed to replace " ++ path.toString, [cause]⟩

/-- The first step: the contents go to the temporary file. -/
def stage (tree : Tree) (path : Path) (octets : List UInt8) : Done :=
  match tree.write (temporary path) octets with
  | .error fault => (tree, .error (notStaged path fault.message))
  | .ok after => (after, .ok ())

/-- The second step: the temporary file takes the place of the target. -/
def commit (tree : Tree) (path : Path) : Done :=
  match tree.move (temporary path) path with
  | .error fault => (tree, .error (notCommitted path fault.message))
  | .ok after => (after, .ok ())

/-- Replaces the contents of a file. -/
def replace (tree : Tree) (path : Path) (octets : List UInt8) : Done :=
  match stage tree path octets with
  | (staged, .error report) => (staged, .error report)
  | (staged, .ok ()) => commit staged path

end QueryBridge.Files
