import OriginGate.Gate.Session
import OriginGate.Proofs.CallOrder
import OriginGate.Proofs.Clearance
import OriginGate.Proofs.Discretion
import OriginGate.Proofs.EditRuns
import OriginGate.Proofs.ErrorRendering
import OriginGate.Proofs.FinalResponse
import OriginGate.Proofs.Forwarding
import OriginGate.Proofs.HeaderHistory
import OriginGate.Proofs.HeaderOrder
import OriginGate.Proofs.LoggedEvents
import OriginGate.Proofs.OwnOrigin
import OriginGate.Proofs.PolicyFaults
import OriginGate.Proofs.PolicyHistory
import OriginGate.Proofs.PolicyIsolation
import OriginGate.Proofs.PriorBody
import OriginGate.Proofs.RequestKinds
import OriginGate.Proofs.SessionRuns
import OriginGate.Proofs.TagRuns
import OriginGate.Proofs.Tags
import OriginGate.Proofs.TenantRuns
import OriginGate.Proofs.VisitTraces
import OriginGate.Table.Search
import OriginGate.Tenant.Session
import OriginGate.Text.Case
