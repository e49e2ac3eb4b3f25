import Dialogue.Ranged

/-!
# Pacing

Pacing: how long to wait while a dialogue is shown. Nothing but the waiting depends on it.
-/

namespace Dialogue

/-- A span of time in nanoseconds, at most 2 ^ 64 seconds less one nanosecond. -/
abbrev Duration := Ranged 0 18446744073709551615999999999

instance : Bounds 0 18446744073709551615999999999 := ⟨by decide⟩

instance (n : Nat) : OfNat Duration n := ⟨Ranged.clamp n⟩

namespace Duration

def ofMillis (n : Nat) : Duration := Ranged.clamp (n * 1000000)

def ofParts (seconds nanos : Nat) : Duration := Ranged.clamp (seconds * 1000000000 + nanos)

def seconds (d : Duration) : Nat := d.val.toNat / 1000000000

/-- The nanoseconds beyond full seconds. -/
def nanos (d : Duration) : Nat := d.val.toNat % 1000000000

def millis (d : Duration) : Nat := d.val.toNat / 1000000

end Duration

structure Pacing where
  enabled : Bool := true
  perChar : Duration := Duration.ofMillis 50
  /-- Longer lines take no more time than lines of this length. -/
  maxChars : Size := 80
  /-- Before going on to a successor. -/
  transition : Duration := Duration.ofMillis 1500
  /-- After a choice taken without asking. -/
  autoSelect : Duration := Duration.ofMillis 1000
  deriving DecidableEq

namespace Pacing

/-- No waiting at all. -/
def disabled : Pacing := { enabled := false }

/-- How long a line of some length takes. -/
def lineDelay (pacing : Pacing) (length : Nat) : Duration :=
  let chars : Count := Ranged.clamp (min length pacing.maxChars.val)
  Ranged.clamp (pacing.perChar.val * chars.val)

/-- The waiting that is asked for: none when pacing is off or the time is nothing. -/
def wait (pacing : Pacing) (d : Duration) : Option Duration :=
  if pacing.enabled && d.val ≠ 0 then some d else none

end Pacing

end Dialogue
