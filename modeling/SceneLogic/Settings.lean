import SceneLogic.Number.Binary

/-!
# Settings

The settings of a director. A frame threshold is never negative and a step bound never zero:
whatever is put in, the readings `threshold` and `stepBound` keep to that.
-/

namespace SceneLogic

/-- The settings as they were given. -/
structure Settings where
  frameThreshold : Float := 2
  maxSteps : Nat := 64
  logFailures : Bool := true
  debugEvents : Bool := false
  groundTags : List String := ["Wall"]

namespace Settings

/-- The time between two updates, in milliseconds, from which on they are in different frames. -/
def threshold (s : Settings) : Float :=
  Number.maximum s.frameThreshold 0

/-- The number of nodes that a module passes at most in one update. -/
def stepBound (s : Settings) : Nat :=
  max s.maxSteps 1

/-- Sets the frame threshold; a negative one counts as zero. -/
def setThreshold (s : Settings) (ms : Float) : Settings :=
  { s with frameThreshold := Number.maximum ms 0 }

/-- Sets the step bound; zero counts as one. -/
def setStepBound (s : Settings) (steps : Nat) : Settings :=
  { s with maxSteps := max steps 1 }

/-- A change of settings: what is not given stays. -/
structure Change where
  frameThreshold : Option Float := none
  maxSteps : Option Nat := none
  logFailures : Option Bool := none
  debugEvents : Option Bool := none
  groundTags : Option (List String) := none

/-- Makes a change. -/
def update (s : Settings) (c : Change) : Settings :=
  let s := (c.frameThreshold.map s.setThreshold).getD s
  let s := (c.maxSteps.map s.setStepBound).getD s
  { s with
    logFailures := c.logFailures.getD s.logFailures
    debugEvents := c.debugEvents.getD s.debugEvents
    groundTags := c.groundTags.getD s.groundTags }

end Settings

end SceneLogic
