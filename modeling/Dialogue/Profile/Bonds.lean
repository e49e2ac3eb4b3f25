import Dialogue.Ranged
import Dialogue.Sorted

/-!
# Companions, grief and betrayals

Ties to others: the companions who travel with the player, the grief over those who fell, and the
betrayals that are brewing.
-/

namespace Dialogue

/-- Someone who has been recruited. -/
structure Companion where
  alive : Bool := true
  /-- Whether the companion travels with the player now. -/
  active : Bool := true
  loyalty : Amount := 50
  trust : Amount := 50
  romance : Amount := 0
  /-- Why loyalty changed, oldest reason first. -/
  history : List String := []
  deriving DecidableEq, Inhabited

namespace Companion

/-- The highest loyalty and trust. -/
def maxBond : Amount := 100

/-- The highest level of romance. -/
def maxRomance : Amount := 10

def adjustLoyalty (c : Companion) (amount : Amount) (reason : String) : Companion :=
  { c with
    loyalty := (c.loyalty.plus amount.val).between 0 maxBond
    history := c.history ++ [reason] }

def adjustTrust (c : Companion) (amount : Amount) : Companion :=
  { c with trust := (c.trust.plus amount.val).between 0 maxBond }

/-- Deepens the romance by one level. -/
def deepenRomance (c : Companion) : Companion :=
  { c with romance := min (c.romance.plus 1) maxRomance }

def die (c : Companion) : Companion := { c with alive := false, active := false }

end Companion

/-- All companions ever recruited. -/
structure Companions where
  roster : Table Companion := {}
  deriving DecidableEq, Inhabited

namespace Companions

def get? (c : Companions) (name : String) : Option Companion := c.roster.get? name

def isRecruited (c : Companions) (name : String) : Bool := c.roster.contains name

def isAlive (c : Companions) (name : String) : Bool := (c.get? name).any (·.alive)

/-- Whether anyone travels with the player. -/
def anyActive (c : Companions) : Bool := c.roster.values.any fun c => c.alive && c.active

/-- Recruits a companion; who is on the roster stays as they are. -/
def recruit (c : Companions) (name : String) : Companions :=
  if c.isRecruited name then c else { roster := c.roster.set name {} }

/-- Changes a companion, if recruited. -/
def modify (c : Companions) (name : String) (f : Companion → Companion) : Companions :=
  { roster := c.roster.modify name f }

end Companions

/-- The stages of grief, in order. -/
inductive GriefStage where
  | denial
  | anger
  | bargaining
  | depression
  | acceptance
  deriving DecidableEq

def GriefStage.title : GriefStage → String
  | .denial => "Denial"
  | .anger => "Anger"
  | .bargaining => "Bargaining"
  | .depression => "Depression"
  | .acceptance => "Acceptance"

structure Grief where
  /-- None when the player does not grieve. -/
  stage : Option GriefStage := none
  /-- Whether grief has ever come to acceptance. -/
  completedCycle : Bool := false
  deriving DecidableEq, Inhabited

/-- How close others are to betraying the player. -/
structure Betrayals where
  points : Table Amount := {}
  betrayed : NameSet := {}
  /-- Why points changed, oldest reason first. -/
  log : List String := []
  deriving DecidableEq, Inhabited

namespace Betrayals

/-- The points at which a betrayal is pending. -/
def pendingPoints : Amount := 100

def hasBetrayed (b : Betrayals) (npc : String) : Bool := b.betrayed.contains npc

def isPending (b : Betrayals) (npc : String) : Bool :=
  !b.hasBetrayed npc && (b.points.get? npc).any (pendingPoints ≤ ·)

def pointsOf (b : Betrayals) (npc : String) : Amount := (b.points.get? npc).getD 0

/-- Adds points, which do not sink below zero. -/
def add (b : Betrayals) (npc : String) (amount : Amount) (reason : String) : Betrayals :=
  { b with
    points := b.points.set npc (max ((b.pointsOf npc).plus amount.val) 0)
    log := b.log ++ [npc ++ " +" ++ toString amount ++ ": " ++ reason] }

/-- Takes points away, down to zero. -/
def reduce (b : Betrayals) (npc : String) (amount : Amount) (reason : String) : Betrayals :=
  { b with
    points := b.points.set npc (max ((b.pointsOf npc).minus amount.val) 0)
    log := b.log ++ [npc ++ " -" ++ toString amount ++ ": " ++ reason] }

end Betrayals

end Dialogue
