import OriginGate.Table.Basic

/-!
A request as the gate sees it. Header fields are present or absent; a field that is present with
an empty value is present all the same.
-/

namespace OriginGate

/-- Notes attached to a request on its way, in the order in which they were first made. -/
abbrev Attributes := ExactTable String

/-- A request, with the tenant that the host resolved for it. -/
structure Request where
  /-- The method as sent; case is kept. -/
  method : String
  /-- The scheme of the address the request was sent to. -/
  scheme : String := "https"
  /-- The `Host` header. -/
  host : Option String := none
  /-- The `Origin` header. -/
  origin : Option String := none
  /-- The `Access-Control-Request-Method` header. -/
  requestMethod : Option String := none
  /-- The `Access-Control-Request-Headers` header. -/
  requestHeaders : Option String := none
  /-- The domain of the tenant the request is for. -/
  tenant : Option String := none
  /-- Notes made so far. -/
  attributes : Attributes := ∅
  deriving DecidableEq

namespace Request

/-- The value of an attribute. -/
def attribute? (request : Request) (name : String) : Option String :=
  request.attributes.get? name

/-- Sets an attribute; one that is there already keeps its place. -/
def setAttribute (request : Request) (name value : String) : Request :=
  { request with attributes := request.attributes.insert name value }

/-- Sets attributes one after another. -/
def setAttributes (request : Request) (items : List (String × String)) : Request :=
  { request with attributes := request.attributes.insertAll items }

/-- The tenant to serve: an empty domain is no domain. -/
def servedTenant (request : Request) : Option String :=
  request.tenant.filter (· ≠ "")

end Request

end OriginGate
