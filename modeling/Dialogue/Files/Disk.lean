import Dialogue.Ranged

/-!
# Files

Files as the library asks for them: the entries of a directory and the bytes of a file, each under
a path. A disk is what the answers would be. Paths and names are texts; a directory with a name in
it that is no text is out of scope.
-/

namespace Dialogue

/-- Why a file or directory cannot be used. -/
inductive Reason where
  | notFound
  | notDirectory
  | isDirectory
  /-- The bytes of the file are no text. -/
  | notText
  | other (message : String)
  deriving DecidableEq

def Reason.message : Reason → String
  | .notFound => "No such file or directory (os error 2)"
  | .notDirectory => "Not a directory (os error 20)"
  | .isDirectory => "Is a directory (os error 21)"
  | .notText => "stream did not contain valid UTF-8"
  | .other message => message

structure Disk where
  /-- The names in a directory, in any order, and whether they are those of files. -/
  list : String → Except Reason (List (String × Bool))
  read : String → Except Reason ByteArray

/-- The text of a file. -/
def Disk.readText (disk : Disk) (path : String) : Except Reason String := do
  match String.fromUTF8? (← disk.read path) with
  | some s => return s
  | none => throw .notText

end Dialogue
