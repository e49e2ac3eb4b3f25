import Dialogue.Content.Format
import Dialogue.Files.Snapshot

/-!
# Loading content and profiles

Content and profiles from files.
-/

namespace Dialogue
open Json

/-- Why content cannot be loaded. -/
inductive ContentError where
  | unreadable (path : String) (reason : Reason)
  | invalid (path : String) (fault : Fault)

/-- Why a profile cannot be loaded or saved. -/
inductive ProfileError where
  | inaccessible (path : String) (reason : Reason)
  | invalid (fault : Fault)

/-- What a text that is not JSON is called. -/
def Json.Flaw.message : Flaw → String
  | .malformed => "the text is not JSON"
  | .truncated => "the text ends too early"

def Json.Fault.message : Fault → String
  | .flaw f => f.message
  | .mismatch m => m.message

def ContentError.message : ContentError → String
  | .unreadable path reason => "cannot read " ++ path ++ ": " ++ reason.message
  | .invalid path fault => "invalid content in " ++ path ++ ": " ++ fault.message

def ProfileError.message : ProfileError → String
  | .inaccessible path reason => "cannot access profile " ++ path ++ ": " ++ reason.message
  | .invalid fault => "invalid profile: " ++ fault.message

/-- The path of a name in a directory. A name that is a path from the root stays what it is. -/
def joinPath (directory name : String) : String :=
  if name.toList.head? == some '/' then name
  else if directory.isEmpty || directory.toList.getLast? == some '/' then directory ++ name
  else directory ++ "/" ++ name

/-- Whether a name is that of a content file: something, a point, and `json`. -/
def isContentName (name : String) : Bool :=
  let cs := name.toList
  5 < cs.length && ".json".toList.isSuffixOf cs

namespace Disk

def loadContent (disk : Disk) (path : String) : Except ContentError Content := do
  let text ← (disk.readText path).mapError (.unreadable path)
  (Content.ofText text).mapError (.invalid path)

/-- The content files of a directory with their paths, in the order of their names. -/
def loadDirectory (disk : Disk) (path : String) :
    Except ContentError (List (String × Content)) := do
  let found ← (disk.list path).mapError (.unreadable path)
  let names : NameSet :=
    Sorted.ofList ((found.filter fun e => e.2 && isContentName e.1).map Prod.fst)
  names.toList.mapM fun name => do
    let file := joinPath path name
    return (file, ← disk.loadContent file)

def loadProfile (disk : Disk) (path : String) : Except ProfileError Profile := do
  let text ← (disk.readText path).mapError (.inaccessible path)
  (Profile.ofText text).mapError .invalid

end Disk

/-- Writes the text of a profile to a file of a snapshot. -/
def Snapshot.saveProfile (files : Snapshot) (path : String) (p : Profile) :
    Except ProfileError Snapshot :=
  (files.write path p.toText).mapError (.inaccessible path)

end Dialogue
