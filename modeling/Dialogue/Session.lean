import Dialogue.Traversal

/-!
# Sessions

Sessions: a library played over and over, with listeners to what happens, and a memory of the
dialogues that ended and of the choices that were picked.
-/

namespace Dialogue

/-- Something that happened in a session. -/
inductive Event where
  | choiceMade (node : String) (position : Nat) (text : String)
  | completed (tree : String) (completed : Bool)
  deriving DecidableEq

/-- A dialogue that is over. -/
structure Finished where
  tree : String
  completed : Bool
  endNode : Option String
  deriving DecidableEq

structure History where
  /-- Oldest first. -/
  finished : List Finished := []
  /-- The positions of picked choices, with their nodes. -/
  marks : List (String × Nat) := []
  deriving DecidableEq, Inhabited

namespace History

def record (h : History) (f : Finished) : History := { h with finished := h.finished ++ [f] }

/-- Remembers a picked choice. -/
def mark (h : History) (node : String) (position : Nat) : History :=
  { h with marks := (node, position) :: h.marks.filter (· ≠ (node, position)) }

/-- Whether a dialogue of a tree is over, however it came out. -/
def hasSeen (h : History) (tree : String) : Bool := h.finished.any (·.tree == tree)

def hasCompleted (h : History) (tree : String) : Bool :=
  h.finished.any fun f => f.tree == tree && f.completed

def hasSelected (h : History) (node : String) (position : Nat) : Bool :=
  h.marks.contains (node, position)

end History

/-- Someone who is told of every event, with the events heard so far. -/
structure Listener where
  name : String
  heard : List Event := []
  deriving DecidableEq

structure Config where
  pacing : Pacing := {}
  scope : Scope := .global
  /-- The colors of speakers, by name in small letters. -/
  speakers : Table Color := {}

/-- Gives a speaker a color, whatever the case of the name. -/
def Config.withSpeaker (c : Config) (speaker : String) (color : Color) : Config :=
  { c with speakers := c.speakers.set (Text.lowercase speaker) color }

structure Session where
  library : Library := .empty
  config : Config := {}
  history : History := {}
  listeners : List Listener := []
  /-- The events that have not been taken out yet. -/
  buffer : List Event := []

/-- Why a dialogue does not go as its content says. -/
inductive Warning where
  | treeNotFound
  | rootNotFound
  | danglingReference
  deriving DecidableEq

def Warning.message : Warning → String
  | .treeNotFound => "dialogue tree not found"
  | .rootNotFound => "dialogue root not found"
  | .danglingReference => "dangling node reference, ending in place"

/-- What came of playing a tree. -/
structure Performance where
  session : Session
  profile : Profile
  result : Result
  acts : List Act
  unread : List String
  events : List Event
  warning : Option Warning
  /-- Whether the dialogue ended for want of input. -/
  closed : Bool

namespace Session

def register (s : Session) (t : Tree) : Session := { s with library := s.library.register t }

/-- Registers the trees of a content file and takes on its colors. -/
def install (s : Session) (c : Content) : Session :=
  let config := c.speakers.toList.foldl (fun config e => config.withSpeaker e.1 e.2) s.config
  { s with library := c.trees.foldl Library.register s.library, config }

def subscribe (s : Session) (name : String) : Session :=
  { s with listeners := s.listeners ++ [{ name }] }

/-- Tells of an event. -/
def emit (s : Session) (e : Event) : Session :=
  { s with
    listeners := s.listeners.map fun l => { l with heard := l.heard ++ [e] }
    buffer := s.buffer ++ [e] }

/-- Takes out the events that have not been taken out yet. -/
def drain (s : Session) : List Event × Session := (s.buffer, { s with buffer := [] })

def reset (s : Session) : Session := { s with history := {} }

def stage (s : Session) (tree : String) : Stage where
  library := s.library
  scope := s.config.scope
  pacing := s.config.pacing
  speakers := s.config.speakers
  tree

/-- The event of a picked choice. -/
def pickEvent (pick : String × Nat × Choice) : Event :=
  .choiceMade pick.1 pick.2.1 pick.2.2.text

/-- The session after a run of a tree. -/
def afterRun (s : Session) (tree : String) (r : Run) : Session :=
  let s := r.picks.foldl (fun s pick =>
    ({ s with history := s.history.mark pick.1 pick.2.1 }).emit (pickEvent pick)) s
  let s := { s with
    history := s.history.record
      ⟨tree, r.result.isCompleted, r.result.endNode?.map Node.id⟩ }
  s.emit (.completed tree r.result.isCompleted)

/-- A tree that cannot be entered leaves everything as it was. -/
def refuse (s : Session) (p : Profile) (inputs : List String) (w : Warning) : Performance :=
  ⟨s, p, .aborted, [], inputs, [], some w, false⟩

/-- What comes of a run of a tree. -/
def performance (s : Session) (tree : String) (r : Run) : Performance where
  session := s.afterRun tree r
  profile := r.profile
  result := r.result
  acts := r.acts
  unread := r.unread
  events := r.picks.map pickEvent ++ [.completed tree r.result.isCompleted]
  warning := if r.dangling then some .danglingReference else none
  closed := r.closed

/-- Plays a tree, if that takes no more than `fuel` visits to nodes. -/
def start (s : Session) (fuel : Nat) (tree : String) (p : Profile) (inputs : List String) :
    Option Performance :=
  match s.library.lookup tree with
  | none => some (s.refuse p inputs .treeNotFound)
  | some t =>
    match t.rootNode? with
    | none => some (s.refuse p inputs .rootNotFound)
    | some root => ((s.stage tree).run fuel root p inputs).map (s.performance tree)

end Session

end Dialogue
