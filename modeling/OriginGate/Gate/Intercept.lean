import OriginGate.Gate.Options
import OriginGate.Gate.Report

/-!
A gate stands between a host and the handlers behind it. It serves a request only if its tenant is
active, gets the tenant's policy, and then goes by the kind of the request: an actual request is
negotiated and forwarded, a preflight is answered here, and any other request is forwarded if the
policy serves such requests.
-/

namespace OriginGate

/-- A gate whose options were accepted. -/
structure Gate where
  options : Gate.Options
  services : Services
  /-- Nothing is wrong with the options. -/
  accepted : options.fault? = none

namespace Gate

/-- Builds a gate, unless something is wrong with the options. -/
def build (options : Options) (services : Services) : Except SettingError Gate :=
  match accepted : options.fault? with
  | none => .ok { options, services, accepted }
  | some fault => .error fault

/-- Building gives the gate with the given options and services whenever there is one. -/
theorem build_eq_ok_iff {options : Options} {services : Services} {gate : Gate} :
    build options services = .ok gate ↔ gate.options = options ∧ gate.services = services := by
  unfold build
  split
  · rename_i accepted
    constructor
    · rintro ⟨⟩
      exact ⟨rfl, rfl⟩
    · obtain ⟨own, held, valid⟩ := gate
      rintro ⟨rfl, rfl⟩
      rfl
  · rename_i fault refused
    constructor
    · rintro ⟨⟩
    · rintro ⟨rfl, -⟩
      exact absurd (gate.accepted.symm.trans refused) (by simp)

/-- What a client is told when the policy store fails. The failure's own text stays inside. -/
def policyUnavailable : String := "Error occurred while retrieving CORS configuration"

/-- Answers a request for which the policy store failed, as the options have it. -/
def answerPolicyFault (gate : Gate) (request : Request) (response : Response) : Report :=
  match gate.options.onPolicyFault with
  | .silence => { result := .ok .dropped, response, attributes := request.attributes }
  | .refuse status => .refusing request response .errored (.custom status policyUnavailable)

/-- Calls a stage. If it refuses, the refusal is written over what it left in the response;
otherwise its response goes on. -/
def negotiate (stage : Stage) (kind : Kind) (policy : Policy) (request : Request)
    (response : Response) (goOn : Response → Report) : Report :=
  let negotiation := stage request policy response
  let report : Report :=
    match negotiation.refusal with
    | some refusal => .refusing request negotiation.response .errored refusal
    | none => goOn negotiation.response
  report.after [.stage kind request.attributes policy] (negotiation.written.map .refused)

/-- Handles a request by its kind under a policy. -/
def dispatch (gate : Gate) (kind : Kind) (policy : Policy) (request : Request)
    (response : Response) (next : Chain) : Report :=
  match kind with
  | .actual =>
    negotiate gate.services.stages.actual .actual policy request response fun response =>
      .forwarding request response next
  | .preflight =>
    negotiate gate.services.stages.preflight .preflight policy request response fun response =>
      { result := .ok .handled, response, attributes := request.attributes }
  | .other =>
    if policy.allowGeneric then .forwarding request response next
    else .refusing request response .denied .genericDenied

/-- The request as stages and chain see it: tagged, if its tenant's policy wants that. -/
def tagged (gate : Gate) (kind : Kind) (policy : Policy) (request : Request) : Request :=
  if policy.tagRequests then gate.services.tagger request kind else request

/-- The calls that tagging takes. -/
def taggerCalls (kind : Kind) (policy : Policy) : List Call :=
  if policy.tagRequests then [.tagger kind] else []

/-- Looks up the policy of a tenant that passed its check and handles the request under it. The
kind is that of the request as it came, before tagging. -/
def serve (gate : Gate) (tenant : Option String) (request : Request) (response : Response)
    (next : Chain) : Report :=
  match gate.services.policies tenant with
  | .error fault =>
    (gate.answerPolicyFault request response).after [.policy tenant] [.policyFailed fault]
  | .ok policy =>
    let kind := gate.options.kindRule.kindOf request
    (gate.dispatch kind policy (gate.tagged kind policy request) response next).after
      (.policy tenant :: taggerCalls kind policy) [.dispatching kind tenant]

/-- Takes one request through the gate. -/
def intercept (gate : Gate) (request : Request) (response : Response) (next : Chain) : Report :=
  let tenant := request.servedTenant
  let check := gate.services.directory.check tenant
  let report : Report :=
    match check.verdict with
    | .error rejection =>
      { result := .ok .errored
        response := check.screen response
        attributes := request.attributes
        events := [.tenantRejected rejection] }
    | .ok () => gate.serve tenant request response next
  report.after (check.calls.map .directory) check.events

end Gate

end OriginGate
