import Dialogue.Ranged
import Dialogue.Sorted

/-!
# The story

The story so far: flags, recorded choices, chapter, cycle, artifacts and events.
-/

namespace Dialogue

/-- Something that happened in the world. -/
structure StoryEvent where
  name : String := ""
  detail : String := ""
  deriving DecidableEq, Inhabited

structure Story where
  flags : NameSet := {}
  /-- The outcomes of choices. -/
  choices : Table String := {}
  chapter : Count := 0
  /-- How often the story has begun anew. -/
  cycle : Count := 0
  artifacts : NameSet := {}
  /-- Oldest first. -/
  events : List StoryEvent := []
  deriving DecidableEq, Inhabited

namespace Story

def hasFlag (s : Story) (flag : String) : Bool := s.flags.contains flag

def hasMadeChoice (s : Story) (choice : String) : Bool := s.choices.contains choice

def outcome? (s : Story) (choice : String) : Option String := s.choices.get? choice

def hasArtifact (s : Story) (artifact : String) : Bool := s.artifacts.contains artifact

def setFlag (s : Story) (flag : String) : Story := { s with flags := s.flags.insert flag }

def clearFlag (s : Story) (flag : String) : Story := { s with flags := s.flags.erase flag }

def recordChoice (s : Story) (choice outcome : String) : Story :=
  { s with choices := s.choices.set choice outcome }

/-- Goes on to a chapter, never back. -/
def advanceChapter (s : Story) (chapter : Count) : Story :=
  { s with chapter := max s.chapter chapter }

def collectArtifact (s : Story) (artifact : String) : Story :=
  { s with artifacts := s.artifacts.insert artifact }

def addEvent (s : Story) (event detail : String) : Story :=
  { s with events := s.events ++ [⟨event, detail⟩] }

end Story

end Dialogue
