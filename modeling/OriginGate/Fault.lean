import OriginGate.Http

/-!
Failures that do not come from the client: of the tenant directory, of the policy store, of the
transport behind the gate, and of settings that are refused before they take effect.
-/

namespace OriginGate

/-- A failed call on the tenant directory. -/
inductive DirectoryFault where
  /-- The store of users behind the directory failed. -/
  | userStore (message : String)
  /-- Anything else went wrong. -/
  | runtime (message : String)
  deriving DecidableEq

/-- What a directory fault says. -/
def DirectoryFault.message : DirectoryFault → String
  | userStore message => "user store error: " ++ message
  | runtime message => message

/-- A failed look-up in the policy store. -/
structure PolicyFault where
  /-- The store's own account of the failure. -/
  cause : String
  deriving DecidableEq

/-- What a policy fault says. -/
def PolicyFault.message (fault : PolicyFault) : String :=
  "CORS management service error: " ++ fault.cause

/-- A failure of the transport behind the gate. The gate passes it on as it is and does not look at
its kind, so a kind is any name that the transport has for one. -/
structure TransportError where
  kind : String
  /-- The transport's own account of the failure. -/
  message : String
  deriving DecidableEq

/-- A setting that is refused. -/
inductive SettingError where
  /-- The status for policy faults is none by which a server reports a failure of its own. -/
  | faultStatus (status : Status)
  /-- A supported method is no token. -/
  | invalidMethod (name : String)
  /-- A supported or exposed header's name is no token. -/
  | invalidHeader (name : String)
  /-- The life of a preflight's answer is below -1. -/
  | invalidMaxAge (seconds : Int)
  deriving DecidableEq

/-- What a refused setting is told. -/
def SettingError.message : SettingError → String
  | faultStatus status => "management error status must be a 5xx code, got " ++ toString status
  | invalidMethod name => "`" ++ name ++ "` is not a valid HTTP method token"
  | invalidHeader name => "`" ++ name ++ "` is not a valid HTTP header name"
  | invalidMaxAge seconds => "max age must be -1 or greater, got " ++ toString seconds

end OriginGate
