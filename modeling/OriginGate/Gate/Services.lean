import OriginGate.Policy.Store
import OriginGate.Request.Tagging
import OriginGate.Response.Edit
import OriginGate.Tenant.Directory

/-!
What a gate works with: the tenant directory, the policy store, a tagger, the two stages that
negotiate headers, and the chain of handlers behind the gate. Stages and chains may write refusals
of their own into the response; these are logged like the gate's.
-/

namespace OriginGate

/-- What came of a stage. -/
structure Negotiation where
  /-- The response as the stage left it. -/
  response : Response
  /-- The refusals that the stage wrote into the response itself. -/
  written : List Refusal := []
  /-- Why the stage refuses the request, if it does. -/
  refusal : Option Refusal := none

/-- A stage negotiates headers for a request under a policy. -/
abbrev Stage := Request → Policy → Response → Negotiation

/-- What came of the chain behind the gate. -/
structure Delivery where
  /-- The response as the chain left it. -/
  response : Response
  /-- The refusals that the chain wrote into the response itself. -/
  written : List Refusal := []
  /-- How the transport failed, if it did. -/
  failure : Option TransportError := none

/-- The chain of handlers behind the gate. -/
abbrev Chain := Request → Response → Delivery

/-- A stage that makes given edits to the response and then refuses the request or lets it go. -/
def Stage.ofEdits (edits : List Edit) (refusal : Option Refusal) : Stage :=
  fun _ _ response =>
    { response := response.applyAll edits, written := Edit.refusals edits, refusal }

/-- A chain that makes given edits to the response and then fails or not. -/
def Chain.ofEdits (edits : List Edit) (failure : Option TransportError) : Chain :=
  fun _ response =>
    { response := response.applyAll edits, written := Edit.refusals edits, failure }

/-- The stages of a gate. -/
structure Stages where
  actual : Stage := Stage.ofEdits [] none
  preflight : Stage := Stage.ofEdits [] none

/-- What a gate works with, the chain behind it apart. -/
structure Services where
  directory : Directory
  /-- The policy for a tenant, or for requests without one. -/
  policies : Option String → Except PolicyFault Policy
  tagger : Tagger := Tagger.standard
  stages : Stages := {}

end OriginGate
