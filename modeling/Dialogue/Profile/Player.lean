import Dialogue.Ranged

/-!
# The player

The player: names, attributes, purse, health, alignment and belongings.
-/

namespace Dialogue

/-- The two sides of a player's alignment. -/
inductive Alignment where
  | chivalry
  | darkness
  deriving DecidableEq

def Alignment.title : Alignment → String
  | .chivalry => "Chivalry"
  | .darkness => "Darkness"

structure Player where
  name : String := "Wanderer"
  realName : String := "Wanderer"
  level : Amount := 1
  className : String := "Warrior"
  race : String := "Human"
  gold : Amount := 0
  experience : Amount := 0
  hp : Amount := 100
  maxHp : Amount := 100
  chivalry : Amount := 0
  darkness : Amount := 0
  chivalryDeeds : Count := 0
  darknessDeeds : Count := 0
  /-- In the order received. -/
  inventory : List String := []
  deriving DecidableEq, Inhabited

namespace Player

/-- A new player, who goes by the real name. -/
def named (name : String) : Player := { name, realName := name }

def alignment (p : Player) : Alignment → Amount
  | .chivalry => p.chivalry
  | .darkness => p.darkness

def deeds (p : Player) : Alignment → Count
  | .chivalry => p.chivalryDeeds
  | .darkness => p.darknessDeeds

/-- Chivalry less darkness. -/
def netAlignment (p : Player) : Amount := p.chivalry.minus p.darkness.val

def hasItem (p : Player) (item : String) : Bool := p.inventory.contains item

def adjustAlignment (p : Player) (amount : Amount) : Alignment → Player
  | .chivalry => { p with chivalry := p.chivalry.plus amount.val }
  | .darkness => { p with darkness := p.darkness.plus amount.val }

def recordDeed (p : Player) : Alignment → Player
  | .chivalry => { p with chivalryDeeds := p.chivalryDeeds.plus 1 }
  | .darkness => { p with darknessDeeds := p.darknessDeeds.plus 1 }

def adjustGold (p : Player) (amount : Amount) : Player :=
  { p with gold := p.gold.plus amount.val }

def adjustExperience (p : Player) (amount : Amount) : Player :=
  { p with experience := p.experience.plus amount.val }

/-- Adds hit points, which stay between zero and the maximum. -/
def adjustHp (p : Player) (amount : Amount) : Player :=
  { p with hp := (p.hp.plus amount.val).between 0 (max p.maxHp 0) }

def give (p : Player) (item : String) : Player :=
  { p with inventory := p.inventory ++ [item] }

end Player

end Dialogue
