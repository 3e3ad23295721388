import OriginGate.Response.Edit
import OriginGate.Tenant.Check

/-!
Runs of tenant checks over one directory, which may be replaced on the way, and one response that
lives through the run.
-/

namespace OriginGate.Tenant.Session

/-- What a run carries from one step to the next. -/
structure State where
  directory : Directory
  /-- The response that rejections and edits are written into. -/
  response : Response := ∅

/-- One step of a run. -/
inductive Action where
  /-- Checks a tenant and leaves the response alone. -/
  | check (tenant : Option String)
  /-- Checks a tenant and writes its rejection, if it is rejected. -/
  | screen (tenant : Option String)
  | replaceDirectory (directory : Directory)
  | edit (edit : Edit)

/-- What a step found out. -/
inductive Finding where
  /-- The verdict of a check. -/
  | checked (verdict : Except TenantRejection Unit)
  /-- The verdict of a check whose rejection was written. -/
  | screened (verdict : Except TenantRejection Unit)
  | replaced
  | edited (answer : Option String)

/-- The answer of a step. -/
structure Answer where
  /-- What the step found out. -/
  finding : Finding
  response : Response
  /-- The calls made on the directory in the step. -/
  calls : List DirectoryCall := []
  events : List Event := []

/-- One step: the answer, and what the run carries on. -/
def step (state : State) : Action → Answer × State
  | .check tenant =>
    let check := state.directory.check tenant
    ({ finding := .checked check.verdict, response := state.response, calls := check.calls,
       events := check.events },
     state)
  | .screen tenant =>
    let check := state.directory.check tenant
    let response := check.screen state.response
    ({ finding := .screened check.verdict, response, calls := check.calls,
       events := check.events },
     { state with response })
  | .replaceDirectory directory =>
    ({ finding := .replaced, response := state.response }, { state with directory })
  | .edit edit =>
    let response := state.response.apply edit
    ({ finding := .edited (edit.answer state.response), response, events := Edit.events [edit] },
     { state with response })

/-- The answers of a run, one for each step. -/
def run (state : State) : List Action → List Answer
  | [] => []
  | action :: actions => (step state action).1 :: run (step state action).2 actions

end OriginGate.Tenant.Session
