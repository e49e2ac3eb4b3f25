import Dialogue.Profile.Basic

/-!
# Placeholders

Placeholders in displayed lines, such as the player's name between braces. They are filled in one
after another, each throughout the line as the ones before it have left it.
-/

namespace Dialogue

inductive Placeholder where
  | playerName
  | realName
  | level
  | className
  | race
  | gold
  | chivalry
  | darkness
  | cycle
  | chapter
  deriving DecidableEq

namespace Placeholder

/-- The order in which placeholders are filled in. -/
def inOrder : List Placeholder :=
  [playerName, realName, level, className, race, gold, chivalry, darkness, cycle, chapter]

def name : Placeholder → String
  | .playerName => "PlayerName"
  | .realName => "RealName"
  | .level => "Level"
  | .className => "Class"
  | .race => "Race"
  | .gold => "Gold"
  | .chivalry => "Chivalry"
  | .darkness => "Darkness"
  | .cycle => "Cycle"
  | .chapter => "Chapter"

/-- The placeholder as it stands in a line. -/
def token (x : Placeholder) : List Char := '\x7b' :: x.name.toList ++ ['\x7d']

/-- What a profile puts in the place of the placeholder. -/
def value (p : Profile) : Placeholder → String
  | .playerName => p.player.name
  | .realName => p.player.realName
  | .level => toString p.player.level
  | .className => p.player.className
  | .race => p.player.race
  | .gold => toString p.player.gold
  | .chivalry => toString p.player.chivalry
  | .darkness => toString p.player.darkness
  | .cycle => toString p.story.cycle
  | .chapter => toString p.story.chapter

end Placeholder

/-- Puts `value` for each occurrence of `token` from left to right, after `skip` characters that an
occurrence has covered. -/
def replaceFrom (token value : List Char) : (skip : Nat) → List Char → List Char
  | _, [] => []
  | skip + 1, _ :: cs => replaceFrom token value skip cs
  | 0, c :: cs =>
    if token.isPrefixOf (c :: cs) then value ++ replaceFrom token value (token.length - 1) cs
    else c :: replaceFrom token value 0 cs

/-- The line with a profile's values in it. -/
def interpolate (p : Profile) (line : String) : String :=
  String.ofList <| Placeholder.inOrder.foldl
    (fun cs x => replaceFrom x.token (x.value p).toList 0 cs) line.toList

end Dialogue
