import OriginGate.Http

/-!
Why a client is turned away: refusals of the cross-origin protocol, told in a line of plain text,
and rejections of its tenant, told in a JSON document. Each has a status and a message, and
`TenantRejection.eq_of_message_eq` says that the message of a rejection tells its cause.
-/

namespace OriginGate

/-- Why a request is refused under the cross-origin protocol. -/
inductive Refusal where
  /-- The policy does not admit the origin. -/
  | originDenied
  /-- The policy does not admit the method. -/
  | unsupportedMethod
  /-- The policy does not admit a request header. -/
  | unsupportedHeader
  /-- An actual request is malformed. -/
  | invalidActual
  /-- A preflight is malformed. -/
  | invalidPreflight
  /-- A preflight does not say which method it is for. -/
  | missingRequestMethod
  /-- The policy admits requests of the cross-origin protocol alone. -/
  | genericDenied
  /-- A reason with a status and message of its own. -/
  | custom (status : Status) (message : String)
  deriving DecidableEq

namespace Refusal

/-- The status of the response that tells a refusal. -/
def status : Refusal → Status
  | originDenied => 403
  | unsupportedMethod => 405
  | unsupportedHeader => 403
  | invalidActual => 400
  | invalidPreflight => 400
  | missingRequestMethod => 400
  | genericDenied => 403
  | custom status _ => status

/-- What a refusal says. -/
def message : Refusal → String
  | originDenied => "CORS origin denied"
  | unsupportedMethod => "Unsupported HTTP method"
  | unsupportedHeader => "Unsupported HTTP request header"
  | invalidActual => "Invalid simple/actual CORS request"
  | invalidPreflight => "Invalid preflight CORS request"
  | missingRequestMethod =>
    "Invalid preflight CORS request: Missing Access-Control-Request-Method header"
  | genericDenied => "Generic HTTP requests not allowed"
  | custom _ message => message

end Refusal

/-- Why a request's tenant is not served. Both causes keep the domain that was asked for. -/
inductive TenantRejection where
  /-- There is no such tenant, or it is not active. -/
  | inactive (domain : String)
  /-- Whether there is such a tenant could not be found out. -/
  | lookupFailed (domain : String)
  deriving DecidableEq

namespace TenantRejection

/-- The domain that was asked for. -/
def domain : TenantRejection → String
  | inactive domain | lookupFailed domain => domain

/-- A tenant that is not served does not exist for the client; a failed look-up is the server's
fault. -/
def status : TenantRejection → Status
  | inactive _ => Status.notFound
  | lookupFailed _ => Status.serverError

/-- What a rejection says. -/
def message : TenantRejection → String
  | inactive domain => "invalid tenant domain : " ++ domain
  | lookupFailed domain => "Error occurred while validating tenant domain: " ++ domain

private theorem toList_message (rejection : TenantRejection) :
    rejection.message.toList =
      (match rejection with
        | inactive _ => "invalid tenant domain : ".toList
        | lookupFailed _ => "Error occurred while validating tenant domain: ".toList) ++
      rejection.domain.toList := by
  cases rejection <;> exact String.toList_append

private theorem head?_inactive : "invalid tenant domain : ".toList.head? = some 'i' := by
  decide +kernel

private theorem head?_lookupFailed :
    "Error occurred while validating tenant domain: ".toList.head? = some 'E' := by
  decide +kernel

/-- The message of a rejection tells its cause and its domain. -/
theorem eq_of_message_eq {a b : TenantRejection} (same : a.message = b.message) : a = b := by
  have lists := congrArg String.toList same
  rw [toList_message, toList_message] at lists
  have heads := congrArg List.head? lists
  cases a <;> cases b <;>
    simp only [List.head?_append, head?_inactive, head?_lookupFailed, Option.some_or] at heads
  · exact congrArg inactive (String.toList_inj.mp (List.append_cancel_left lists))
  · exact absurd heads (by decide)
  · exact absurd heads (by decide)
  · exact congrArg lookupFailed (String.toList_inj.mp (List.append_cancel_left lists))

end TenantRejection

end OriginGate
