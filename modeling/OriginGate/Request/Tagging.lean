import OriginGate.Request.Kind

/-!
Tagging tells later handlers, by attributes, what the gate found out about a request. The standard
tagger says whether the protocol applies, and, where it does, which origin asked and for what.
-/

namespace OriginGate

namespace AttributeName

/-- Whether the request is one of the cross-origin protocol: `true` or `false`. -/
def isCrossOrigin : String := "cors.isCorsRequest"

/-- The origin the request comes from. -/
def origin : String := "cors.request.origin"

/-- The label of the request's kind. -/
def kind : String := "cors.request.type"

/-- The headers that a preflight asks leave for. -/
def headers : String := "cors.request.headers"

end AttributeName

/-- A way to note on a request what kind it is. -/
abbrev Tagger := Request → Kind → Request

/-- The attributes that the standard tagger sets, in order. A header that is absent is noted as
empty. -/
def tagsOf (request : Request) (kind : Kind) : List (String × String) :=
  let flag := (AttributeName.isCrossOrigin, if kind.isCrossOrigin then "true" else "false")
  let origin := (AttributeName.origin, request.origin.getD "")
  let label := (AttributeName.kind, kind.label)
  match kind with
  | .actual => [flag, origin, label]
  | .preflight => [flag, origin, label, (AttributeName.headers, request.requestHeaders.getD "")]
  | .other => [flag]

namespace Tagger

/-- Sets the attributes of the cross-origin protocol. Attributes set earlier that this kind has no
use for stay as they are. -/
def standard : Tagger := fun request kind =>
  request.setAttributes (tagsOf request kind)

/-- Notes the label of the kind under one attribute of the caller's choice. -/
def labelled (name : String) : Tagger := fun request kind =>
  request.setAttribute name kind.label

end Tagger

end OriginGate
