import HookKeeper.Api.Error

/-!
# Failures of the operator

A failure is permanent when only an edit of the inputs can mend it: the log
level, a template, or content that cannot be hashed.  Everything else is
retried.
-/

namespace HookKeeper

/-- The templates that objects are rendered from. -/
inductive Asset where
  | deployment
  | registration
  deriving DecidableEq, Repr

/-- The name of a template in messages. -/
def Asset.name : Asset → String
  | .deployment => "deployment"
  | .registration => "webhook configuration"

/-- Why content cannot be hashed. -/
inductive HashFault where
  /-- A key of a map is not a text. -/
  | keyNotText
  deriving DecidableEq, Repr

def HashFault.message : HashFault → String
  | .keyNotText => "key must be a string"

/-- Why the status of the operator resource was not written. -/
inductive StatusFault where
  | notRead (name : String) (cause : ApiError)
  | notFound (name : String)
  | notWritten (name : String) (cause : ApiError)
  | described (reason : String)
  deriving DecidableEq, Repr

def StatusFault.message : StatusFault → String
  | .notRead name cause => "failed to read " ++ name ++ ": " ++ cause.message
  | .notFound name => "operator resource " ++ name ++ " not found"
  | .notWritten name cause =>
      "failed to write status of " ++ name ++ ": " ++ cause.message
  | .described reason => reason

/-- Why a step of the operator failed. -/
inductive OperatorError where
  | cluster (cause : ApiError)
  | invalidLogLevel (value : String)
  | templateDecode (asset : Asset) (fault : DecodeFault)
  | contentHash (fault : HashFault)
  | apply (kind name : String) (cause : ApiError)
  | statusUpdate (fault : StatusFault)
  deriving DecidableEq, Repr

namespace OperatorError

open HookKeeper.Text

/-- The text of a failure. -/
def message : OperatorError → String
  | .cluster cause => "Kubernetes API error: " ++ cause.message
  | .invalidLogLevel value =>
      "logLevel " ++ quoted value ++ " is not a valid log level"
  | .templateDecode asset fault =>
      "Failed to decode " ++ asset.name ++ " template: " ++ fault.message
  | .contentHash fault => "Failed to compute spec hash: " ++ fault.message
  | .apply kind name cause =>
      "Failed to apply " ++ kind ++ " " ++ name ++ ": " ++ cause.message
  | .statusUpdate fault => "Failed to update operator status: " ++ fault.message

/-- Whether a failure lasts until somebody edits the inputs. -/
def isPermanent : OperatorError → Bool
  | .invalidLogLevel _ | .templateDecode _ _ | .contentHash _ => true
  | .cluster _ | .apply _ _ _ | .statusUpdate _ => false

end OperatorError

end HookKeeper
