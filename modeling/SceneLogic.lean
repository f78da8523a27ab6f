import SceneLogic.Action.Basic
import SceneLogic.Action.Combat
import SceneLogic.Action.Control
import SceneLogic.Action.Movement
import SceneLogic.Action.Presentation
import SceneLogic.Action.Staging
import SceneLogic.Conditions
import SceneLogic.Defaults
import SceneLogic.Definitions
import SceneLogic.Definitions.Folder
import SceneLogic.Definitions.Install
import SceneLogic.Dict
import SceneLogic.Director
import SceneLogic.Entity
import SceneLogic.Error
import SceneLogic.Frame
import SceneLogic.Host
import SceneLogic.Machine
import SceneLogic.Modifier
import SceneLogic.Module.Cycle
import SceneLogic.Module.Graph
import SceneLogic.Module.Instance
import SceneLogic.Module.Library
import SceneLogic.Module.Lookup
import SceneLogic.Module.Pool
import SceneLogic.Module.Run
import SceneLogic.Module.Start
import SceneLogic.Names
import SceneLogic.Number.Binary
import SceneLogic.Number.Reading
import SceneLogic.Number.Shortest
import SceneLogic.Point
import SceneLogic.Reaction
import SceneLogic.Ron.Document
import SceneLogic.Ron.Numeral
import SceneLogic.Ron.Quoted
import SceneLogic.Ron.Reader
import SceneLogic.Ron.Record
import SceneLogic.Ron.Scan
import SceneLogic.Ron.Skip
import SceneLogic.Rule
import SceneLogic.Script
import SceneLogic.Senses
import SceneLogic.Settings
import SceneLogic.Setup
import SceneLogic.Signals
import SceneLogic.Store
import SceneLogic.Summary
import SceneLogic.Text.Blank
import SceneLogic.Text.Identifier
import SceneLogic.Value
import SceneLogic.Value.Decidable
import SceneLogic.Value.Equality
import SceneLogic.Value.Reading
import SceneLogic.World
import SceneLogic.Proofs.Conduct
import SceneLogic.Proofs.Module.Calls
import SceneLogic.Proofs.Module.History
import SceneLogic.Proofs.Module.Sorting
import SceneLogic.Proofs.Module.Reporting
import SceneLogic.Proofs.Module.Acyclic
import SceneLogic.Proofs.Module.Trail
import SceneLogic.Proofs.Module.Onward
import SceneLogic.Proofs.Module.Progress
import SceneLogic.Proofs.Module.Carrying
import SceneLogic.Proofs.Module.Course
import SceneLogic.Proofs.Module.Termination
import SceneLogic.Proofs.Module.Faults
import SceneLogic.Proofs.Module.Refusal
import SceneLogic.Proofs.Module.Apart
import SceneLogic.Proofs.Module.Tandem
import SceneLogic.Proofs.Module.Commuting
import SceneLogic.Proofs.Module.Replaying
import SceneLogic.Proofs.Director.Granting
import SceneLogic.Proofs.Director.Routing
import SceneLogic.Proofs.Director.Repeats
import SceneLogic.Proofs.Director.Termination
import SceneLogic.Proofs.Director.Declared
import SceneLogic.Proofs.Director.Meetings
import SceneLogic.Proofs.Director.Absorption
import SceneLogic.Proofs.Module.Removal
import SceneLogic.Proofs.Module.Addressing
import SceneLogic.Proofs.Director.Liveness
import SceneLogic.Proofs.Director.Shutdown
import SceneLogic.Proofs.Director.Forgetting
import SceneLogic.Proofs.Director.Touching
import SceneLogic.Proofs.Module.Inheriting
import SceneLogic.Proofs.Blows
import SceneLogic.Proofs.Failing
import SceneLogic.Proofs.Director.Claiming
import SceneLogic.Proofs.Director.Starting
import SceneLogic.Proofs.Fencing
import SceneLogic.Proofs.Director.Answering
import SceneLogic.Proofs.Announcing
import SceneLogic.Proofs.Director.Enacting
import SceneLogic.Proofs.Director.Mourning
import SceneLogic.Proofs.Blindness
import SceneLogic.Proofs.Defaults.Blindness
import SceneLogic.Proofs.Director.Blindness
import SceneLogic.Proofs.Director.Editing
import SceneLogic.Proofs.Module.Slicing
import SceneLogic.Proofs.Depicting
import SceneLogic.Proofs.Chronicle
import SceneLogic.Proofs.Delivery
import SceneLogic.Proofs.Director.Turns
import SceneLogic.Proofs.Director.Updating
import SceneLogic.Proofs.Pictures
import SceneLogic.Proofs.Agreeing
import SceneLogic.Proofs.Loading
import SceneLogic.Proofs.Consuming
import SceneLogic.Proofs.Module.Idling
import SceneLogic.Proofs.Module.Rounds
import SceneLogic.Proofs.Module.Timing
import SceneLogic.Proofs.Module.Assigning
import SceneLogic.Proofs.Number.Doubles
import SceneLogic.Proofs.Number.Rounding
import SceneLogic.Proofs.Number.Squares
import SceneLogic.Proofs.Steering
import SceneLogic.Proofs.Module.Arriving
import SceneLogic.Proofs.Module.Recalling
import SceneLogic.Proofs.Module.Remembering
import SceneLogic.Proofs.Number.Comparing
import SceneLogic.Proofs.Variables
import SceneLogic.Proofs.Striking
import SceneLogic.Proofs.Number.Monotone
import SceneLogic.Proofs.Thresholds
import SceneLogic.Proofs.Spawning
import SceneLogic.Proofs.Director.Filtering
import SceneLogic.Proofs.Dict
import SceneLogic.Proofs.Number.Equality
import SceneLogic.Proofs.Number.Significant
import SceneLogic.Proofs.Number.Magnitudes
import SceneLogic.Proofs.Number.Integers
import SceneLogic.Proofs.Number.Numerals
import SceneLogic.Proofs.Number.NaN
import SceneLogic.Proofs.Values.Nesting
import SceneLogic.Proofs.Values.Symmetry
import SceneLogic.Proofs.Values.Switching
import SceneLogic.Proofs.Values.Containment
import SceneLogic.Proofs.Arithmetic
import SceneLogic.Proofs.Number.Ordering
import SceneLogic.Proofs.Number.Patterns
import SceneLogic.Proofs.Nearest
import SceneLogic.Proofs.Typing
import SceneLogic.Proofs.Values.Ordering
import SceneLogic.Proofs.Module.Starting
import SceneLogic.Proofs.Module.Feeding
