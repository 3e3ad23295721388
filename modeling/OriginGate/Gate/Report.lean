import OriginGate.Gate.Services
import OriginGate.Tenant.Check

/-!
What can be told about one request's way through a gate: how it ended, what it left behind, which
calls the gate made and what was logged.
-/

namespace OriginGate

/-- How a request's way through a gate ends. -/
inductive Outcome where
  /-- The chain behind the gate has it. -/
  | forwarded
  /-- The preflight stage answered it. -/
  | handled
  /-- The tenant's policy does not serve requests outside the protocol. -/
  | denied
  /-- It was answered with an error. -/
  | errored
  /-- The policy store failed, and nothing was written. -/
  | dropped
  deriving DecidableEq

/-- A call that a gate makes, with what it hands over. -/
inductive Call where
  | directory (call : DirectoryCall)
  | policy (tenant : Option String)
  /-- The tagger, with the kind of the request. -/
  | tagger (kind : Kind)
  /-- The stage for a kind of request. -/
  | stage (kind : Kind) (attributes : Attributes) (policy : Policy)
  | next (attributes : Attributes)
  deriving DecidableEq

namespace Call

/-- The question to the directory, if the call is one. -/
def directory? : Call → Option DirectoryCall
  | directory call => some call
  | _ => none

/-- The tenant that the policy store was asked for, if the call is such a question. -/
def policy? : Call → Option (Option String)
  | policy tenant => some tenant
  | _ => none

/-- The stage called and what it was handed, if the call is one of a stage. -/
def stage? : Call → Option (Kind × Attributes × Policy)
  | stage kind attributes inForce => some (kind, attributes, inForce)
  | _ => none

/-- The attributes handed to the chain behind the gate, if the call is one of it. -/
def next? : Call → Option Attributes
  | next attributes => some attributes
  | _ => none

end Call

/-- The account of one request's way through a gate. -/
structure Report where
  /-- How it ended; a failure is the transport's own. -/
  result : Except TransportError Outcome
  response : Response
  /-- The request's attributes at the end. -/
  attributes : Attributes
  /-- The calls made, in order. -/
  calls : List Call := []
  /-- What was logged, in order. -/
  events : List Event := []

namespace Report

/-- A report with calls and events that came before. -/
def after (report : Report) (calls : List Call) (events : List Event) : Report :=
  { report with calls := calls ++ report.calls, events := events ++ report.events }

/-- The report of a request that is refused: the refusal is written and logged. -/
def refusing (request : Request) (response : Response) (outcome : Outcome) (refusal : Refusal) :
    Report where
  result := .ok outcome
  response := response.refuse refusal
  attributes := request.attributes
  events := [.refused refusal]

/-- The report of a request that the chain behind the gate gets. -/
def forwarding (request : Request) (response : Response) (next : Chain) : Report :=
  let delivery := next request response
  { result :=
      match delivery.failure with
      | some failure => .error failure
      | none => .ok .forwarded
    response := delivery.response
    attributes := request.attributes
    calls := [.next request.attributes]
    events := delivery.written.map .refused }

/-- The directory calls of a report, in order. -/
def directoryCalls (report : Report) : List DirectoryCall :=
  report.calls.filterMap Call.directory?

/-- The tenants that the policy store was asked for, in order. -/
def policyLookups (report : Report) : List (Option String) :=
  report.calls.filterMap Call.policy?

/-- The stages that were called, each with what it was handed, in order. -/
def stageCalls (report : Report) : List (Kind × Attributes × Policy) :=
  report.calls.filterMap Call.stage?

/-- The attributes that the chain behind the gate was handed, once for each call. -/
def nextCalls (report : Report) : List Attributes :=
  report.calls.filterMap Call.next?

end Report

end OriginGate
