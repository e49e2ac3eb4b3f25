import Dialogue.Ranged
import Dialogue.Sorted

/-!
# Awakening, memory and the stranger

What the player comes to understand: awakening, lost memories, and the stranger.
-/

namespace Dialogue

structure Awakening where
  points : Amount := 0
  /-- The points of every insight, oldest first. -/
  insights : List Amount := []
  fragments : NameSet := {}
  moments : NameSet := {}
  deriving DecidableEq, Inhabited

namespace Awakening

/-- The points that make a level. -/
def pointsPerLevel : Int := 10

def maxLevel : Amount := 7

/-- The full levels in the points, between zero and the highest. -/
def level (a : Awakening) : Amount :=
  (Ranged.clamp (a.points.val.tdiv pointsPerLevel) : Amount).between 0 maxLevel

def gainInsight (a : Awakening) (points : Amount) : Awakening :=
  { a with points := a.points.plus points.val, insights := a.insights ++ [points] }

def collectFragment (a : Awakening) (fragment : String) : Awakening :=
  { a with fragments := a.fragments.insert fragment }

def experience (a : Awakening) (moment : String) : Awakening :=
  { a with moments := a.moments.insert moment }

end Awakening

structure Memory where
  recovered : NameSet := {}
  /-- How many memories there are to recover. -/
  total : Size := 10
  deriving DecidableEq, Inhabited

namespace Memory

/-- The recovered part in whole percent; all of nothing counts as everything. -/
def recoveryPercent (m : Memory) : Amount :=
  if m.total.val = 0 then 100
  else
    let hundredfold : Size := Ranged.clamp (m.recovered.size * 100)
    Ranged.clamp (min (hundredfold.val / m.total.val) 100)

def truthRevealed (m : Memory) : Bool := m.total.val ≤ m.recovered.size

def reveal (m : Memory) (memory : String) : Memory :=
  { m with recovered := m.recovered.insert memory }

end Memory

/-- The stranger who keeps coming back. -/
structure Stranger where
  receptivity : Amount := 0
  encounters : Count := 0
  knowsTruth : Bool := false
  deriving DecidableEq, Inhabited

/-- How open the player has been, from closed at -100 to open at 100. -/
def Stranger.openness (s : Stranger) : Amount := s.receptivity.between (Ranged.clamp (-100)) 100

end Dialogue
