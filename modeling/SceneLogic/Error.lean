/-!
# Causes of failure

Actions and conditions fail with a `Failure`; starting a module fails with a `ModuleFailure`, and
asking the director to start one with a `StartFailure`. A failure of a lower layer is carried
along with its cause. The wording of each is in `message`, and `code` is a short word for its
kind.
-/

namespace SceneLogic

/-- Why an action, a condition or an event handler failed. -/
inductive Failure where
  | wrongType (expected actual : String)
  | unknownEntity (id : String)
  | missingParameter (name : String)
  | invalidParameter (name reason : String)
  | unavailable (collaborator : String)
  | action (reason : String)
  | condition (reason : String)
  | handler (reason : String)
deriving DecidableEq, Repr

/-- The wording of a failure. -/
def Failure.message : Failure → String
  | .wrongType expected actual => "Type error: expected " ++ expected ++ ", got " ++ actual
  | .unknownEntity id => "Entity not found: " ++ id
  | .missingParameter name => "Missing parameter: " ++ name
  | .invalidParameter name reason => "Invalid parameter " ++ name ++ ": " ++ reason
  | .unavailable collaborator => "Collaborator unavailable: " ++ collaborator
  | .action reason => "Action failed: " ++ reason
  | .condition reason => "Condition failed: " ++ reason
  | .handler reason => "Event handler failed: " ++ reason

/-- The code of a failure. -/
def Failure.code : Failure → String
  | .wrongType .. => "TypeError"
  | .unknownEntity _ => "EntityNotFound"
  | .missingParameter _ => "MissingParam"
  | .invalidParameter .. => "InvalidParam"
  | .unavailable _ => "Unavailable"
  | .action _ => "ActionFailed"
  | .condition _ => "ConditionFailed"
  | .handler _ => "HandlerFailed"

/-- Why a module did not start. -/
inductive ModuleFailure where
  | missingEntry (moduleId entry : String)
  | unknownModule (moduleId : String)
  | core (cause : Failure)
deriving DecidableEq, Repr

/-- The wording of a module's failure. -/
def ModuleFailure.message : ModuleFailure → String
  | .missingEntry moduleId entry => "Module " ++ moduleId ++ " has no Entry node at " ++ entry
  | .unknownModule moduleId => "Unknown module: " ++ moduleId
  | .core cause => "Core error: " ++ cause.message

/-- The code of a module's failure. -/
def ModuleFailure.code : ModuleFailure → String
  | .missingEntry .. => "MissingEntry"
  | .unknownModule _ => "UnknownModule"
  | .core _ => "Core"

/-- Why the director did not start a module. -/
inductive StartFailure where
  | unknownEntity (id : String)
  | flow (cause : ModuleFailure)
deriving DecidableEq, Repr

/-- The wording of a refused start. -/
def StartFailure.message : StartFailure → String
  | .unknownEntity id => "Entity not found: " ++ id
  | .flow cause => "Flow error: " ++ cause.message

/-- The code of a refused start. -/
def StartFailure.code : StartFailure → String
  | .unknownEntity _ => "EntityNotFound"
  | .flow _ => "Flow"

/-- Why a definition text was not taken over. -/
inductive LoadFailure where
  /-- The text is no well-formed definition. -/
  | malformed
  /-- The file or the directory could not be read. -/
  | unreadable
  /-- A module of this name is already defined. -/
  | duplicateModule (id : String)
  /-- An entity of this name is already defined. -/
  | duplicateEntity (id : String)
deriving DecidableEq, Repr

/-- The wording of a clash of names; the other causes have no wording of their own. -/
def LoadFailure.message? : LoadFailure → Option String
  | .malformed => none
  | .unreadable => none
  | .duplicateModule id => some ("Duplicate definition: module " ++ id)
  | .duplicateEntity id => some ("Duplicate definition: entity " ++ id)

/-- The code of a text that was not taken over. -/
def LoadFailure.code : LoadFailure → String
  | .malformed => "Ron"
  | .unreadable => "Io"
  | .duplicateModule _ => "DuplicateDefinition"
  | .duplicateEntity _ => "DuplicateDefinition"

end SceneLogic
