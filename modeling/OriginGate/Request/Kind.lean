import OriginGate.Http
import OriginGate.Request.Basic
import OriginGate.Text.Fold
import OriginGate.Text.Substring

/-!
The kind of a request in the cross-origin protocol. A preflight asks leave for a request to come,
an actual request carries an origin, and everything else is other. A rule may count requests from
the origin they are sent to as other; `Request.isOwnOrigin_iff` says which these are.
-/

namespace OriginGate

/-- What a request is to the cross-origin protocol. -/
inductive Kind where
  /-- A request that carries an origin and is no preflight. -/
  | actual
  /-- An OPTIONS request that announces the method of the request to come. -/
  | preflight
  /-- Any other request, cross-origin or not. -/
  | other
  deriving DecidableEq

namespace Kind

/-- The name of a kind in attributes and log events. -/
def label : Kind → String
  | actual => "actual"
  | preflight => "preflight"
  | other => "other"

/-- Whether the cross-origin protocol applies. -/
def isCrossOrigin : Kind → Bool
  | actual | preflight => true
  | other => false

theorem eq_label_iff {kind : Kind} {name : String} :
    name = kind.label ↔
      (kind, name) ∈ [(actual, "actual"), (preflight, "preflight"), (other, "other")] := by
  cases kind <;> simp [label]

end Kind

/-- How requests are sorted into kinds. -/
structure KindRule where
  /-- Whether a request whose origin is `scheme://host` of its own address counts as other. -/
  exemptOwnOrigin : Bool := false
  deriving DecidableEq

/-- What stands behind `scheme://` in an origin that begins so. -/
def authority? (scheme origin : String) : Option (List Char) :=
  (Text.behind? scheme.toList origin.toList).bind (Text.behind? "://".toList)

namespace Request

/-- Whether the request announces the method of another request: its method is OPTIONS up to
ASCII case, and the announcing header is present. -/
def isPreflight (request : Request) : Bool :=
  Text.sameName request.method Method.options && request.requestMethod.isSome

/-- Whether an origin is that of the address the request was sent to. -/
def isOwnOrigin (request : Request) (origin : String) : Bool :=
  match request.host with
  | none => false
  | some host => authority? request.scheme origin == some host.toList

end Request

namespace KindRule

/-- The kind of a request under a rule. -/
def kindOf (rule : KindRule) (request : Request) : Kind :=
  if request.isPreflight then .preflight
  else match request.origin with
    | none => .other
    | some origin =>
      if rule.exemptOwnOrigin && request.isOwnOrigin origin then .other else .actual

end KindRule

/-- The kind of a request under the rule without exemption. -/
def Request.kind (request : Request) : Kind :=
  ({} : KindRule).kindOf request

/-- The text behind `scheme://` is what completes it to the origin. -/
theorem authority?_eq_some_iff {scheme origin : String} {rest : List Char} :
    authority? scheme origin = some rest ↔
      origin.toList = scheme.toList ++ "://".toList ++ rest := by
  rw [authority?, Option.bind_eq_some_iff]
  simp only [Text.behind?_eq_some_iff]
  constructor
  · rintro ⟨middle, whole, rfl⟩
    rw [whole, List.append_assoc]
  · intro whole
    exact ⟨_, by rw [whole, List.append_assoc], rfl⟩

/-- An origin is a request's own exactly when it is spelled `scheme://host`. -/
theorem Request.isOwnOrigin_iff {request : Request} {origin : String} :
    request.isOwnOrigin origin = true ↔
      ∃ host, request.host = some host ∧ origin = request.scheme ++ "://" ++ host := by
  cases present : request.host with
  | none => simp [isOwnOrigin, present]
  | some host =>
    simp only [isOwnOrigin, present, beq_iff_eq, authority?_eq_some_iff, Option.some.injEq,
      exists_eq_left']
    rw [← String.toList_inj, String.toList_append, String.toList_append]

end OriginGate
