/-!
The words of HTTP that the gate and its collaborators share: header names, methods, media types
and statuses.
-/

namespace OriginGate

/-- A status code as a number; the codes that applications set are not restricted to known ones. -/
abbrev Status := Nat

namespace Status

/-- The resource, or here the tenant, does not exist. -/
def notFound : Status := 404

/-- The server failed. -/
def serverError : Status := 500

/-- The statuses by which a server reports a failure of its own. -/
def IsServerError (status : Status) : Prop :=
  500 ≤ status ∧ status ≤ 599

instance (status : Status) : Decidable status.IsServerError :=
  inferInstanceAs (Decidable (_ ∧ _))

end Status

namespace HeaderName

/-- The response header that names the origin a response may be shared with. -/
def allowOrigin : String := "Access-Control-Allow-Origin"

/-- The request header that names the origin a request comes from. -/
def origin : String := "Origin"

/-- The response header that lists the request headers a response depends on. -/
def vary : String := "Vary"

end HeaderName

namespace Method

def get : String := "GET"

def head : String := "HEAD"

def options : String := "OPTIONS"

def post : String := "POST"

end Method

namespace MediaType

/-- Media type of a message meant for people. -/
def plainText : String := "text/plain"

/-- Media type of a JSON document. -/
def json : String := "application/json"

/-- Name of the character encoding of JSON documents. -/
def utf8 : String := "UTF-8"

end MediaType

end OriginGate
