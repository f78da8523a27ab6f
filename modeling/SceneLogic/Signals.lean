import SceneLogic.Dict

/-!
# Pending signals and scene flags

A signal that was sent waits in a queue until some listener consumes it, and each one is
consumed at most once. A scene flag that was never set is down.
-/

namespace SceneLogic

/-- The signals that wait, oldest first. -/
structure PendingSignals where
  pending : List String := []
deriving DecidableEq

namespace PendingSignals

/-- Sends a signal. -/
def push (q : PendingSignals) (signal : String) : PendingSignals :=
  ⟨q.pending ++ [signal]⟩

/-- The signal waits. -/
def has (q : PendingSignals) (signal : String) : Bool :=
  q.pending.contains signal

/-- The number of signals that wait. -/
def size (q : PendingSignals) : Nat :=
  q.pending.length

/-- Takes the oldest signal of the name out of the queue, if one waits. -/
def consume (q : PendingSignals) (signal : String) : Bool × PendingSignals :=
  if q.has signal then (true, ⟨q.pending.erase signal⟩) else (false, q)

end PendingSignals

/-- The flags of a scene. -/
structure SceneFlags where
  flags : Dict String Bool := []
deriving DecidableEq

namespace SceneFlags

/-- Raises or lowers a flag. -/
def set (f : SceneFlags) (name : String) (value : Bool) : SceneFlags :=
  ⟨Dict.insert f.flags name value⟩

/-- Whether a flag is up. -/
def get (f : SceneFlags) (name : String) : Bool :=
  (Dict.get? f.flags name).getD false

/-- No flag is up. -/
def clear : SceneFlags := {}

end SceneFlags

end SceneLogic
