/-
  MaterialSearch.Entry.Download
  ────────────────────────────────
  **FILES PUT INTO A FOLDER.**

  A downloaded file is put at a path below a folder.  The path is made
  plain first: repeated slashes and dots that stand for the folder itself
  are left out, while a slash at the end stays and asks for a folder.
  Nothing but the folder exists yet, so a path through another folder, or
  one that ends in a folder, cannot be written.

  Main definitions:
    * `plainPath`     — a path without empty and dot parts
    * `Placed`        — a file in the folder
    * `place`         — contents written to a path
    * `RemoteFile.download`
-/
import MaterialSearch.Entry.Resource

namespace MaterialSearch

open Text

/-! ## §1. Paths. -/

/-- The parts of a path that count: no empty part, and no dot. -/
def pathParts (target : String) : List String :=
  (splitAt '/' target).filter fun part => part ≠ "" ∧ part ≠ "."

/-- A path without the parts that do not count. -/
def plainPath (target : String) : String :=
  "/".intercalate (pathParts target)
    ++ (if target.toList.getLast? = some '/' then "/" else "")

/-- The length of a name that a folder can hold, in bytes. -/
def maxNameBytes : Nat := 255

/-- Whether a file can be written at a path in an empty folder: the path
names no folder, and leads through none but those above the folder. -/
def isWritable (target : String) : Bool :=
  !target.toList.contains '\x00' && target.toList.getLast? ≠ some '/' &&
    match (pathParts target).reverse with
    | [] => false
    | name :: above =>
        name ≠ ".." && decide (name.utf8ByteSize ≤ maxNameBytes)
          && above.all (fun part => part = "..")

/-! ## §2. Writing. -/

/-- A file in the folder. -/
structure Placed where
  /-- The path below the folder. -/
  path : String
  contents : String
  deriving Repr, DecidableEq

/-- Contents written to a path in an empty folder. -/
def place (target contents : String) : Except ResourceError Placed :=
  if isWritable target then .ok ⟨plainPath target, contents⟩
  else .error (.notWritten target)

/-- **A file requested and written to a path.** -/
def RemoteFile.download (f : RemoteFile) (target : String) (t : Transport)
    (log : RequestLog) : Except ResourceError Placed × RequestLog :=
  match f.fetch t log with
  | (.ok contents, log) => (place target contents, log)
  | (.error e, log) => (.error e, log)

/-! ## §3. Examples. -/

example : plainPath "./a//b" = "a/b" := by decide
example : isWritable "CONTCAR" = true ∧ isWritable "no/such/dir" = false := by decide
example : isWritable "" = false ∧ isWritable "." = false := by decide

end MaterialSearch
