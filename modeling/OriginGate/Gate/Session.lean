import OriginGate.Gate.Intercept

/-!
Runs of a gate whose surroundings change: policies are inserted, the policy store goes down and
comes back, the directory and the stages are replaced. Requests are taken through the gate one
after another, and a request may go on with what the one before it left.
-/

namespace OriginGate.Gate.Session

/-- What a run starts from. -/
structure Setup where
  /-- The policy of tenants without one of their own. -/
  fallback : Policy := {}
  /-- Policies of tenants, to be inserted in order. -/
  policies : List (String × Policy) := []
  options : Options := {}
  directory : Directory
  /-- Why the policy store is down, if it is. -/
  outage : Option String := none
  tagger : Tagger := Tagger.standard
  stages : Stages := {}

/-- What one request leaves for the next. -/
structure Remains where
  response : Response := ∅
  attributes : Attributes := ∅

/-- What a run carries from one step to the next. -/
structure State where
  options : Gate.Options
  accepted : options.fault? = none
  /-- The policies in force. -/
  store : PolicyStore
  directory : Directory
  /-- Why the policy store is down, if it is. -/
  outage : Option String
  tagger : Tagger
  stages : Stages
  /-- What the latest request left; nothing before the first. -/
  remains : Remains := {}

/-- Starts a run, unless the fallback, one of the policies or the options are refused; the first
that is refused is told. -/
def start (setup : Setup) : Except SettingError State :=
  match (PolicyStore.ofFallback setup.fallback).bind (·.insertAll setup.policies) with
  | .error fault => .error fault
  | .ok store =>
    match accepted : setup.options.fault? with
    | some fault => .error fault
    | none =>
      .ok
        { options := setup.options, accepted, store, directory := setup.directory,
          outage := setup.outage, tagger := setup.tagger, stages := setup.stages }

/-- One request, and what it goes on with. -/
structure Visit where
  request : Request
  next : Chain
  /-- Edits made to the response before the gate sees it. -/
  before : List Edit := []
  /-- Whether it goes on with the response that the latest request left. -/
  keepResponse : Bool := false
  /-- Whether it goes on with the attributes that the latest request left. -/
  keepAttributes : Bool := false

/-- One step of a run. -/
inductive Action where
  /-- Takes a request through the gate. -/
  | intercept (visit : Visit)
  /-- Gives a tenant a policy. -/
  | insertPolicy (tenant : String) (policy : Policy)
  | replaceDirectory (directory : Directory)
  /-- Takes the policy store down, or brings it back. -/
  | setOutage (cause : Option String)
  | replaceStages (stages : Stages)
  | readOptions

/-- The answer of a step. -/
inductive Answer where
  /-- The account of a request's way. -/
  | reported (report : Report)
  /-- What came of an insertion, and the tenants with policies of their own after it. -/
  | inserted (result : Except SettingError Unit) (tenants : List String)
  | done
  | options (options : Options)

namespace State

/-- The answer of the policy store as it stands: while it is down, every look-up fails. -/
def lookupPolicy (state : State) (tenant : Option String) : Except PolicyFault Policy :=
  match state.outage with
  | some cause => .error { cause }
  | none => .ok (state.store.lookup tenant)

/-- The gate as it stands. -/
def gate (state : State) : Gate where
  options := state.options
  services :=
    { directory := state.directory
      policies := state.lookupPolicy
      tagger := state.tagger
      stages := state.stages }
  accepted := state.accepted

/-- The request of a visit, with the attributes it goes on with. -/
def requestOf (state : State) (visit : Visit) : Request :=
  if visit.keepAttributes then { visit.request with attributes := state.remains.attributes }
  else visit.request

/-- The response of a visit when the gate first sees it. -/
def responseOf (state : State) (visit : Visit) : Response :=
  (if visit.keepResponse then state.remains.response else ∅).applyAll visit.before

/-- Takes the request of a visit through the gate. -/
def visit (state : State) (visit : Visit) : Report :=
  state.gate.intercept (state.requestOf visit) (state.responseOf visit) visit.next

end State

/-- One step: the answer, and what the run carries on. -/
def step (state : State) : Action → Answer × State
  | .intercept visit =>
    let report := state.visit visit
    (.reported report,
     { state with
       remains := { response := report.response, attributes := report.attributes } })
  | .insertPolicy tenant policy =>
    let inserted := state.store.tryInsert tenant policy
    (.inserted inserted.2 inserted.1.tenants, { state with store := inserted.1 })
  | .replaceDirectory directory => (.done, { state with directory })
  | .setOutage outage => (.done, { state with outage })
  | .replaceStages stages => (.done, { state with stages })
  | .readOptions => (.options state.options, state)

/-- The answers of a run, one for each step. -/
def run (state : State) : List Action → List Answer
  | [] => []
  | action :: actions => (step state action).1 :: run (step state action).2 actions

end OriginGate.Gate.Session
