import OriginGate.Http
import OriginGate.Table.Basic
import OriginGate.Text.Fold

/-!
A response while it is being put together: a status, a content type, an encoding, headers and a
body that grows. Nothing leaves until the gate is done with it.
-/

namespace OriginGate

/-- Response headers. Names that differ in ASCII case are one header. -/
abbrev Headers := Table Text.fold String

/-- A response that is still being written. -/
structure Response where
  /-- The status, once one is set. -/
  status : Option Status := none
  /-- The media type of the body, once one is set. -/
  contentType : Option String := none
  /-- The name of the body's character encoding, once one is set. -/
  encoding : Option String := none
  headers : Headers := ∅
  body : String := ""
  deriving DecidableEq

namespace Response

instance : EmptyCollection Response := ⟨{}⟩

/-- The value of the `Content-Type` header: the media type, and the encoding if one is set. An
encoding alone makes no header. -/
def contentTypeHeader (response : Response) : Option String :=
  response.contentType.map fun contentType =>
    match response.encoding with
    | some encoding => contentType ++ ";charset=" ++ encoding
    | none => contentType

/-- Whether the response has anything to show: a status, a body or a header. -/
def isWritten (response : Response) : Bool :=
  response.status.isSome || response.body != "" || !response.headers.isEmpty

/-- The value of a header. -/
def header? (response : Response) (name : String) : Option String :=
  response.headers.get? name

/-- Sets a header; the first spelling of its name stays. -/
def setHeader (response : Response) (name value : String) : Response :=
  { response with headers := response.headers.insert name value }

/-- Adds text at the end of the body. -/
def write (response : Response) (text : String) : Response :=
  { response with body := response.body ++ text }

/-- Discards the body. Status and headers stay. -/
def clearBody (response : Response) : Response :=
  { response with body := "" }

/-- Two responses are equivalent when they differ at most in the order of their headers. -/
structure Equiv (a b : Response) : Prop where
  status : a.status = b.status
  contentType : a.contentType = b.contentType
  encoding : a.encoding = b.encoding
  headers : a.headers.Equiv b.headers
  body : a.body = b.body

instance (a b : Response) : Decidable (a.Equiv b) :=
  decidable_of_iff
    (a.status = b.status ∧ a.contentType = b.contentType ∧ a.encoding = b.encoding ∧
      a.headers.Equiv b.headers ∧ a.body = b.body)
    ⟨fun ⟨status, contentType, encoding, headers, body⟩ =>
      ⟨status, contentType, encoding, headers, body⟩,
     fun ⟨status, contentType, encoding, headers, body⟩ =>
      ⟨status, contentType, encoding, headers, body⟩⟩

end Response

end OriginGate
