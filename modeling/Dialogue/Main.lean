import Dialogue.Command.Run

/-!
# The command line program

The command line program: it fetches what a task needs from the disk, writes what the task says,
and asks for input where the task asks for it.
-/

namespace Dialogue.Command

/-- The reason behind a failure of the operating system. -/
def reasonOf : IO.Error → Reason
  | .noFileOrDirectory .. => .notFound
  | .inappropriateType _ 20 _ => .notDirectory
  | .inappropriateType _ 21 _ => .isDirectory
  | e => .other (toString e)

/-- What comes of an action that may fail. -/
def attempt {α : Type} (action : IO α) : IO (Except Reason α) := do
  try return .ok (← action)
  catch e => return .error (reasonOf e)

/-- The names in a directory, and whether they are those of files. -/
def listDirectory (path : String) : IO (List (String × Bool)) := do
  let here : IO.FS.DirEntry := ⟨path, "."⟩
  (← here.root.readDir).toList.mapM fun entry => do
    return (entry.fileName, !(← entry.path.isDir))

def readBytes (path : String) : IO ByteArray := IO.FS.readBinFile path

/-- The answers of the disk for a directory and for some files outside of it. -/
def fetchDisk (directory : String) (files : List String) : IO Disk := do
  let listing ← attempt (listDirectory directory)
  let names := match listing with
    | .ok found => (found.map Prod.fst).filter isContentName
    | .error _ => []
  let contents ← (names.map (joinPath directory) ++ files).mapM fun path => do
    return (path, ← attempt (readBytes path))
  return {
    list := fun _ => listing
    read := fun path => (contents.lookup path).getD (.error .notFound) }

/-- Ends the program after a failure. -/
def fail (f : Failure) : IO UInt32 := do
  IO.eprintln ("error: " ++ f.message)
  return 1

/-- Ends the program with a reply. -/
def answer (r : Reply) : IO UInt32 := do
  IO.print r.stdout
  match r.failure with
  | none => return 0
  | some f => fail f

/-- Far more visits than a dialogue takes that comes to an end. -/
def patience : Nat := 1000000000000

/-- Does what an act says. -/
def perform (colors : Bool) (act : Act) : IO Unit := do
  IO.print (actText colors act)
  (← IO.getStdout).flush
  match act with
  | .pause d => IO.sleep (min d.millis 4294967295).toUInt32
  | _ => return

/-- The bytes that are typed up to a line feed or to the end of the input. -/
partial def readLine (stdin : IO.FS.Stream) (line : List UInt8) : IO (List UInt8) := do
  match (← stdin.read 1).toList with
  | [] => return line
  | b :: _ => if b = 10 then return line ++ [b] else readLine stdin (line ++ [b])

/-- Plays a tree at the terminal, and goes on with one more line each time that one is missing.
Since a dialogue does the same on the same lines, only the acts after the first `shown` are new. A
line that is no text leaves the dialogue as it is. -/
partial def converse (ready : Ready) (colors : Bool) (bytes : List UInt8) (shown : Nat) :
    IO Performance := do
  let some p := ready.playAt patience bytes | throw (IO.userError "the dialogue does not end")
  (p.acts.drop shown).forM (perform colors)
  if !p.closed then return p
  match ← attempt (do readLine (← IO.getStdin) []) with
  | .ok [] | .error _ => return p
  | .ok line =>
    if (String.fromUTF8? ⟨line.toArray⟩).isNone then return p
    else converse ready colors (bytes ++ line) p.acts.length

def play (colors : Bool) (tree directory : String) (profile save : Option String) (scope : Scope)
    (pacing : Bool) : IO UInt32 := do
  let disk ← fetchDisk directory profile.toList
  match prepare disk tree directory profile scope pacing with
  | .error e => fail e
  | .ok ready =>
    let p ← converse ready colors [] 0
    IO.println (closingLine colors p.result)
    match save with
    | none => return 0
    | some path =>
      let saved ← attempt (IO.FS.writeFile path p.profile.toText)
      answer (saveReply path (saved.mapError (ProfileError.inaccessible path)))

def list (directory : String) : IO UInt32 := do
  answer (listReply (← fetchDisk directory []) directory)

def check (colors : Bool) (directory : String) (scope : Scope) : IO UInt32 := do
  answer (checkReply (← fetchDisk directory []) colors directory scope)

def helpText : String :=
  "Play and check branching dialogue content.\n\n" ++
  "  play <TREE> [-d DIR] [-p PROFILE] [-s SAVE] [--no-pacing] [--scope global|tree]\n" ++
  "  list [-d DIR]\n" ++
  "  check [-d DIR] [--scope global|tree]"

/-- Whether to write in color: on a terminal, unless told otherwise. -/
def wantsColors : IO Bool := do
  if (← IO.getEnv "NO_COLOR").isSome then return false
  if (← IO.getEnv "CLICOLOR_FORCE").isSome then return true
  (← IO.getStdout).isTty

end Dialogue.Command

open Dialogue.Command in
def main (args : List String) : IO UInt32 := do
  let colors ← wantsColors
  match Request.ofArguments args with
  | .play tree directory profile save scope pacing =>
    play colors tree directory profile save scope pacing
  | .list directory => list directory
  | .check directory scope => check colors directory scope
  | .version task =>
    IO.println (versionText task)
    return 0
  | .help =>
    IO.println helpText
    return 0
  | .mistake =>
    IO.eprintln helpText
    return 2
