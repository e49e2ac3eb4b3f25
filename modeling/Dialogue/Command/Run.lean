import Dialogue.Command.Arguments
import Dialogue.Command.Grid
import Dialogue.Command.Paint
import Dialogue.Files.Load
import Dialogue.Report
import Dialogue.Terminal

/-!
# Tasks of the command line

What the program does for each request: the text it writes, and the file it leaves.
-/

namespace Dialogue.Command

/-- Why a task fails. -/
inductive Failure where
  | content (e : ContentError)
  | noContent (directory : String)
  | noTree (id : String)
  | profile (e : ProfileError)
  | broken (errors : Nat)

/-- A number of things, which are more than one unless counted so. -/
def counted (n : Nat) (noun : String) : String :=
  toString n ++ " " ++ noun ++ (if n = 1 then "" else "s")

def Failure.message : Failure → String
  | .content e => e.message
  | .noContent directory => "no .json content files in " ++ directory
  | .noTree id => "no dialogue tree named '" ++ id ++ "'"
  | .profile e => e.message
  | .broken errors => counted errors "error" ++ " in dialogue content"

/-- A session with all content of a directory. -/
def openSession (disk : Disk) (directory : String) (config : Config) : Except Failure Session := do
  let files ← (disk.loadDirectory directory).mapError .content
  if files.isEmpty then throw (.noContent directory)
  return files.foldl (fun s file => s.install file.2) { config }

/-- The lines of a list of trees. -/
def listLines (l : Library) : List String :=
  if l.trees.isEmpty then ["  No dialogue trees found."]
  else
    grid ["Id", "Name", "Root", "Nodes"]
      (l.trees.map fun t =>
        [t.id, if t.name.isEmpty then "—" else t.name, t.root, toString t.nodes.size]) ++
      ["", "  " ++ toString l.size ++ " trees"]

/-- The lines that tell of what a report found. -/
def reportLines (colors : Bool) (r : Report) : List String :=
  let error := "  " ++ styled colors (colorCode .red) "error:" ++ " "
  let warning := "  " ++ styled colors (colorCode .yellow) "warning:" ++ " "
  r.missingRoots.map (fun tree => error ++ "tree '" ++ tree ++ "' has no root node") ++
  r.dangling.map (fun d =>
    error ++ d.tree ++ "/" ++ d.node ++ " leads to missing node '" ++ d.target ++ "'") ++
  r.collisions.map (fun c =>
    warning ++ "node '" ++ c.node ++ "' is defined by " ++ ", ".intercalate c.trees) ++
  r.ignoredEffects.map fun i =>
    warning ++ i.tree ++ "/" ++ i.node ++ " has effects but is not an end node; they never run"

/-- The line after a check that found nothing broken. -/
def passedLine (l : Library) (r : Report) : String :=
  "  All checks passed: " ++ toString l.size ++ " trees, " ++ counted r.warningCount "warning"

/-- What an act writes. -/
def actText (colors : Bool) : Act → String
  | .line text color => styled colors (colorCode color) text ++ "\n"
  | .prompt => "Your choice: "
  | .pause _ => ""

/-- The line after a dialogue. -/
def closingLine (colors : Bool) : Result → String
  | .completed n => "  " ++ styled colors bold "Dialogue complete" ++ " at '" ++ n.id ++ "'."
  | .aborted => "  " ++ styled colors dimmed "You walk away without a word."

/-- A tree about to be played. -/
structure Ready where
  session : Session
  tree : String
  profile : Profile

/-- Loads what it takes to play a tree. -/
def prepare (disk : Disk) (tree directory : String) (profile : Option String) (scope : Scope)
    (pacing : Bool) : Except Failure Ready := do
  let config : Config := { pacing := if pacing then {} else .disabled, scope }
  let session ← openSession disk directory config
  if (session.library.lookup tree).isNone then throw (.noTree tree)
  match profile with
  | none => return ⟨session, tree, {}⟩
  | some path => return ⟨session, tree, ← (disk.loadProfile path).mapError .profile⟩

/-- Plays the tree at a terminal where some bytes are typed, if that takes no more than `fuel`
visits to nodes. -/
def Ready.playAt (r : Ready) (fuel : Nat) (bytes : List UInt8) : Option Performance :=
  r.session.startAt fuel r.tree r.profile bytes

/-- Lines of output. -/
def unlines (lines : List String) : String := String.join (lines.map (· ++ "\n"))

/-- What a task writes, and why it fails, if it does. -/
structure Reply where
  stdout : String
  failure : Option Failure

/-- The reply to a request for the trees of a directory. -/
def listReply (disk : Disk) (directory : String) : Reply :=
  match openSession disk directory {} with
  | .error e => ⟨"", some e⟩
  | .ok s => ⟨unlines (listLines s.library), none⟩

/-- The reply to a request for a check. It fails if something broken was found. -/
def checkReply (disk : Disk) (colors : Bool) (directory : String) (scope : Scope) : Reply :=
  match openSession disk directory { scope } with
  | .error e => ⟨"", some e⟩
  | .ok s =>
    let report := Report.check s.library scope
    let lines := reportLines colors report
    if report.errorCount = 0 then ⟨unlines (lines ++ [passedLine s.library report]), none⟩
    else ⟨unlines lines, some (.broken report.errorCount)⟩

/-- The line after a profile has been saved. -/
def savedLine (path : String) : String := "  Profile saved to " ++ path

/-- The end of the reply to a play whose profile was to be saved. -/
def saveReply {α : Type} (path : String) : Except ProfileError α → Reply
  | .ok _ => ⟨savedLine path ++ "\n", none⟩
  | .error e => ⟨"", some (.profile e)⟩

/-- What a task leaves. -/
structure Outcome where
  stdout : String
  failure : Option Failure
  files : Snapshot

/-- The status that the program exits with. -/
def Outcome.code (o : Outcome) : Nat := if o.failure.isSome then 1 else 0

/-- What a task leaves that touches no files. -/
def Reply.leaving (r : Reply) (files : Snapshot) : Outcome := ⟨r.stdout, r.failure, files⟩

/-- Saves the profile after a dialogue. -/
def savePerformance (files : Snapshot) (colors : Bool) (p : Performance) (save : Option String) :
    Outcome :=
  let text := String.join (p.acts.map (actText colors)) ++ closingLine colors p.result ++ "\n"
  match save with
  | none => ⟨text, none, files⟩
  | some path =>
    let saved := files.saveProfile path p.profile
    let reply := saveReply path saved
    ⟨text ++ reply.stdout, reply.failure, saved.toOption.getD files⟩

/-- Plays a tree from files and bytes of input. -/
def runPlay (files : Snapshot) (stdin : List UInt8) (fuel : Nat) (colors : Bool)
    (tree directory : String) (profile save : Option String) (scope : Scope) (pacing : Bool) :
    Option Outcome :=
  match prepare files.disk tree directory profile scope pacing with
  | .error e => some ⟨"", some e, files⟩
  | .ok ready =>
    (ready.playAt fuel stdin).map fun p => savePerformance files colors p save

def runList (files : Snapshot) (directory : String) : Outcome :=
  (listReply files.disk directory).leaving files

def runCheck (files : Snapshot) (colors : Bool) (directory : String) (scope : Scope) : Outcome :=
  (checkReply files.disk colors directory scope).leaving files

end Dialogue.Command
