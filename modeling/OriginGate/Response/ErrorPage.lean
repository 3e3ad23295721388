import OriginGate.Refusal
import OriginGate.Response.Basic
import OriginGate.Text.JsonObject

/-!
What a client that is turned away gets to read. A refusal replaces the body by one line of plain
text; a tenant's rejection adds a JSON document to it. Headers set before stay in both cases.
-/

namespace OriginGate

open Text

/-- What every refusal's line starts with. -/
def refusalMark : String := "CORS Valve: "

/-- The line of text that tells a refusal. -/
def Refusal.line (refusal : Refusal) : String :=
  refusalMark ++ refusal.message ++ "\n"

/-- The members of a rejection's document. The message is given twice, once as the description. -/
def TenantRejection.members (rejection : TenantRejection) : JsonObject :=
  [("code", .number rejection.status), ("message", .string rejection.message),
    ("description", .string rejection.message)]

/-- The JSON document that tells a rejection. -/
def TenantRejection.document (rejection : TenantRejection) : String :=
  String.ofList rejection.members.render

namespace Response

/-- Writes a refusal: its status, and its line as the whole body, in plain text. The encoding is
left as it was. -/
def refuse (response : Response) (refusal : Refusal) : Response :=
  { response with
    status := some refusal.status
    contentType := some MediaType.plainText
    body := refusal.line }

/-- Writes a tenant's rejection: its status, and its document behind whatever the body held. -/
def rejectTenant (response : Response) (rejection : TenantRejection) : Response :=
  { response with
    status := some rejection.status
    contentType := some MediaType.json
    encoding := some MediaType.utf8
    body := response.body ++ rejection.document }

end Response

end OriginGate
