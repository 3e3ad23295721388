import OriginGate.Proofs.FinalResponse

/-! What the log of one request tells. One entry says what was settled about the request: that its
tenant was rejected, that the policy store failed, or that the request went on to its handling. A
failure of the directory is logged before that, and refusals after it: those that the stage wrote,
then the gate's own, and, if the gate has none, those that the chain behind it wrote. -/
namespace OriginGate

/-! ## Entries of a log -/

/-- An event as it stands in a log. -/
structure LogEntry where
  level : Level
  message : String
  fields : List (String × FieldValue)
  deriving DecidableEq

/-- The entry of an event. -/
def Event.entry (event : Event) : LogEntry where
  level := event.level
  message := event.message
  fields := event.fields

/-- What was logged about a request, in order. -/
def Report.log (report : Report) : List LogEntry :=
  report.events.map Event.entry

namespace LogEntry

/-- A question to the directory failed. -/
def directoryFailure (domain error : String) : LogEntry where
  level := .debug
  message := "Error occurred while validating tenant domain"
  fields := [("tenant_domain", .text domain), ("error", .text error)]

/-- A request was rejected for its tenant. -/
def rejection (domain : String) (status : Status) : LogEntry where
  level := .debug
  message := "request rejected by tenant validation"
  fields := [("tenant_domain", .text domain), ("status", .number status)]

/-- The policy store failed. -/
def policyFailure (error : String) : LogEntry where
  level := .error
  message := "CORS management service error when intercepting an HTTP request"
  fields := [("error", .text error)]

/-- A request went on to its handling, for a tenant or for none. -/
def dispatch (label : String) (tenant : Option String) : LogEntry where
  level := .trace
  message := "dispatching request"
  fields := [("request_type", .text label), ("tenant_domain", .optional tenant)]

/-- A refusal was written. -/
def refusal (status : Status) (error : String) : LogEntry where
  level := .debug
  message := "CORS valve error when intercepting an HTTP request"
  fields := [("status", .number status), ("error", .text error)]

/-- Whether an entry says what was settled about a request. -/
def settles (entry : LogEntry) : Bool :=
  ["request rejected by tenant validation",
    "CORS management service error when intercepting an HTTP request",
    "dispatching request"].contains entry.message

theorem settles_rejection (domain : String) (status : Status) :
    (rejection domain status).settles = true := by
  simp [settles, rejection]

theorem settles_policyFailure (error : String) : (policyFailure error).settles = true := by
  simp [settles, policyFailure]

theorem settles_dispatch (label : String) (tenant : Option String) :
    (dispatch label tenant).settles = true := by
  simp [settles, dispatch]

/-- Whether an entry is that of a refusal. -/
def isRefusal (entry : LogEntry) : Bool :=
  entry.message == "CORS valve error when intercepting an HTTP request"

end LogEntry

namespace Event
variable {event : Event}

/-- Whether an event says what was settled about a request. -/
def settles : Event → Bool
  | tenantRejected _ | policyFailed _ | dispatching .. => true
  | directoryFailed .. | refused _ => false

theorem settles_entry (event : Event) : event.entry.settles = event.settles := by
  cases event <;> simp [entry, message, LogEntry.settles, settles]

/-- Whether an event is a refusal. -/
def isRefusal : Event → Bool
  | refused _ => true
  | _ => false

theorem isRefusal_entry (event : Event) : event.entry.isRefusal = event.isRefusal := by
  cases event <;> simp [entry, message, LogEntry.isRefusal, isRefusal]

theorem entry_eq_directoryFailure_iff {domain error : String} :
    event.entry = .directoryFailure domain error ↔
      ∃ fault, event = .directoryFailed domain fault ∧ error = fault.message := by
  cases event <;>
    simp [entry, level, message, fields, LogEntry.directoryFailure, eq_comm]

theorem entry_eq_rejection_iff {domain : String} {status : Status} :
    event.entry = .rejection domain status ↔
      ∃ rejection, event = .tenantRejected rejection ∧ domain = rejection.domain ∧
        status = rejection.status := by
  cases event <;> simp [entry, level, message, fields, LogEntry.rejection, eq_comm]

theorem entry_eq_policyFailure_iff {error : String} :
    event.entry = .policyFailure error ↔
      ∃ fault, event = .policyFailed fault ∧ error = fault.message := by
  cases event <;> simp [entry, level, message, fields, LogEntry.policyFailure, eq_comm]

theorem entry_eq_dispatch_iff {label : String} {tenant : Option String} :
    event.entry = .dispatch label tenant ↔
      ∃ kind, event = .dispatching kind tenant ∧ label = kind.label := by
  cases event <;> simp [entry, level, message, fields, LogEntry.dispatch, eq_comm, and_comm]

end Event

namespace Gate
variable {gate : Gate} {request : Request} {response : Response} {next : Chain}

/-! ## The events of one request -/

/-- The event that says what was settled about a request. -/
def settlement (gate : Gate) (request : Request) : Event :=
  match gate.clearance request with
  | .rejected rejection => .tenantRejected rejection
  | .unavailable fault => .policyFailed fault
  | .granted _ => .dispatching (gate.kindOf request) request.servedTenant

theorem settlement_eq_tenantRejected_iff {rejection : TenantRejection} :
    gate.settlement request = .tenantRejected rejection ↔
      gate.clearance request = .rejected rejection := by
  rw [settlement]
  cases gate.clearance request <;> simp

theorem settlement_eq_policyFailed_iff {fault : PolicyFault} :
    gate.settlement request = .policyFailed fault ↔
      gate.clearance request = .unavailable fault := by
  rw [settlement]
  cases gate.clearance request <;> simp

theorem settlement_eq_dispatching_iff {kind : Kind} {tenant : Option String} :
    gate.settlement request = .dispatching kind tenant ↔
      (∃ policy, gate.clearance request = .granted policy) ∧ kind = gate.kindOf request ∧
        tenant = request.servedTenant := by
  rw [settlement]
  cases gate.clearance request <;> simp [eq_comm]

/-- The refusals that the stage for a request wrote itself. -/
def stageRefusals (gate : Gate) (request : Request) (response : Response) : List Refusal :=
  match gate.clearance request with
  | .granted policy => (gate.ruling policy request response).written
  | _ => []

/-- The refusal that the gate writes, if it writes one. -/
def ownRefusal? (gate : Gate) (request : Request) (response : Response) : Option Refusal :=
  match gate.clearance request, gate.options.onPolicyFault with
  | .granted policy, _ => (gate.ruling policy request response).refusal
  | .unavailable _, .refuse status => some (.custom status policyUnavailable)
  | _, _ => none

/-- The refusals that the chain behind the gate wrote itself, if it got the request. -/
def chainRefusals (gate : Gate) (request : Request) (response : Response) (next : Chain) :
    List Refusal :=
  match gate.clearance request with
  | .granted policy =>
    if (gate.ruling policy request response).refusal = none ∧ gate.kindOf request ≠ .preflight then
      (gate.delivery policy request response next).written
    else []
  | _ => []

/-- The refusals of a request's log, in the order in which they were written. -/
def loggedRefusals (gate : Gate) (request : Request) (response : Response) (next : Chain) :
    List Refusal :=
  gate.stageRefusals request response ++ (gate.ownRefusal? request response).toList ++
    gate.chainRefusals request response next

/-- What the directory failed at comes first, then what was settled, then the refusals. -/
theorem events_intercept (gate : Gate) (request : Request) (response : Response) (next : Chain) :
    (gate.intercept request response next).events =
      (gate.services.directory.check request.servedTenant).events ++
        gate.settlement request :: (gate.loggedRefusals request response next).map .refused := by
  have quiet : gate.services.directory.Serves request.tenant →
      (gate.services.directory.check request.servedTenant).events = [] :=
    fun served => Directory.check_events_of_serves (Directory.serves_servedTenant.mpr served)
  unfold settlement loggedRefusals stageRefusals ownRefusal? chainRefusals
  cases gate.way request response with
  | rejected rejection rejected =>
    rw [intercept_rejected rejected]
    simp [rejected]
  | dropped fault unavailable silent =>
    rw [intercept_dropped unavailable silent, quiet (clearance_eq_unavailable_iff.mp unavailable).1]
    simp [unavailable, silent]
  | unavailable fault status unavailable told =>
    rw [intercept_unavailable unavailable told,
      quiet (clearance_eq_unavailable_iff.mp unavailable).1]
    simp [unavailable, told]
  | refused policy refusal granted refused =>
    rw [intercept_refused granted refused, quiet (clearance_eq_granted_iff.mp granted).served]
    simp [granted, refused, handlingEvents]
  | answered policy granted accepted preflight =>
    rw [intercept_answered granted accepted preflight,
      quiet (clearance_eq_granted_iff.mp granted).served]
    simp [granted, accepted, preflight, handlingEvents]
  | forwarded policy granted accepted through =>
    rw [intercept_forwarded granted accepted through,
      quiet (clearance_eq_granted_iff.mp granted).served]
    simp [granted, accepted, through, handlingEvents]

/-- A refusal of the gate's own has one of the causes for which a request is refused. -/
theorem ownRefusal?_eq_some_iff {refusal : Refusal} :
    gate.ownRefusal? request response = some refusal ↔
      ∃ outcome, gate.RefusedFor request response refusal outcome := by
  constructor
  · intro own
    unfold ownRefusal? at own
    split at own
    · rename_i policy granted
      exact ⟨_, refusedFor_of_ruling (clearance_eq_granted_iff.mp granted) own⟩
    · rename_i fault status unavailable told
      obtain ⟨served, failed⟩ := clearance_eq_unavailable_iff.mp unavailable
      cases own
      exact ⟨_, .unavailable served failed told⟩
    · cases own
  · rintro ⟨outcome, cause⟩
    cases cause with
    | unavailable served failed told =>
      simp [ownRefusal?, clearance_eq_unavailable_iff.mpr ⟨served, failed⟩, told]
    | stage force kind refused =>
      simp [ownRefusal?, clearance_eq_granted_iff.mpr force, refused]
    | generic force kind closed =>
      simp [ownRefusal?, clearance_eq_granted_iff.mpr force, ruling_of_other kind, closed]

/-- A request that the gate refuses does not get to the chain behind it. -/
theorem chainRefusals_of_own {refusal : Refusal}
    (own : gate.ownRefusal? request response = some refusal) (next : Chain) :
    gate.chainRefusals request response next = [] := by
  unfold ownRefusal? at own
  unfold chainRefusals
  split at own
  · rename_i policy granted
    simp [granted, own]
  · rename_i fault status unavailable told
    simp [unavailable]
  · cases own

theorem stageRefusals_of_uncalled
    (uncalled : (gate.intercept request response next).stageCalls = []) :
    gate.stageRefusals request response = [] := by
  unfold stageRefusals
  split
  · rename_i policy granted
    have other : gate.kindOf request = .other := by
      simpa [stageCalls_of_inForce (clearance_eq_granted_iff.mp granted)] using uncalled
    rw [ruling_of_other other]
  · rfl

theorem chainRefusals_of_uncalled
    (uncalled : (gate.intercept request response next).nextCalls = []) :
    gate.chainRefusals request response next = [] := by
  unfold chainRefusals
  split
  · rename_i policy granted
    refine if_neg fun ⟨accepted, through⟩ => ?_
    have approved := approved_iff_ruling.mpr ⟨granted, accepted, through⟩
    rw [nextCalls_of_approved approved next] at uncalled
    cases uncalled
  · rfl

/-! ## The log of one request -/

theorem mem_log_iff {entry : LogEntry} :
    entry ∈ (gate.intercept request response next).log ↔
      ∃ event ∈ (gate.intercept request response next).events, event.entry = entry :=
  List.mem_map

theorem settles_settlement (gate : Gate) (request : Request) :
    (gate.settlement request).settles = true := by
  unfold settlement
  split <;> rfl

private theorem filter_log {keep : LogEntry → Bool} {kept : Event → Bool}
    (same : ∀ event : Event, keep event.entry = kept event) (report : Report) :
    report.log.filter keep = (report.events.filter kept).map Event.entry := by
  have composed : keep ∘ Event.entry = kept := funext same
  rw [Report.log, List.filter_map, composed]

private theorem filter_check_events {kept : Event → Bool} {directory : Directory}
    {tenant : Option String}
    (other : ∀ domain fault, kept (.directoryFailed domain fault) = false) :
    (directory.check tenant).events.filter kept = [] := by
  refine List.filter_eq_nil_iff.mpr fun event member => ?_
  obtain ⟨domain, fault, -, -, -, rfl⟩ := Directory.mem_check_events_iff.mp member
  simp [other]

/-- One entry of a log says what was settled. -/
theorem filter_settles_log (gate : Gate) (request : Request) (response : Response) (next : Chain) :
    (gate.intercept request response next).log.filter LogEntry.settles =
      [(gate.settlement request).entry] := by
  have late : ((gate.loggedRefusals request response next).map Event.refused).filter
      Event.settles = [] := by
    simp [List.filter_map, Function.comp_def, Event.settles]
  rw [filter_log Event.settles_entry, events_intercept, List.filter_append,
    filter_check_events fun _ _ => rfl,
    List.filter_cons_of_pos (gate.settles_settlement request), late]
  rfl

/-- The refusals in a log are those that stage, gate and chain wrote. -/
theorem filter_isRefusal_log (gate : Gate) (request : Request) (response : Response)
    (next : Chain) :
    (gate.intercept request response next).log.filter LogEntry.isRefusal =
      (gate.loggedRefusals request response next).map fun refusal =>
        .refusal refusal.status refusal.message := by
  have settled : ¬(gate.settlement request).isRefusal = true := by
    unfold settlement
    split <;> simp [Event.isRefusal]
  have late : ((gate.loggedRefusals request response next).map Event.refused).filter
      Event.isRefusal = (gate.loggedRefusals request response next).map Event.refused := by
    simp [List.filter_map, Function.comp_def, Event.isRefusal]
  rw [filter_log Event.isRefusal_entry, events_intercept, List.filter_append,
    filter_check_events fun _ _ => rfl, List.filter_cons_of_neg settled, late, List.nil_append,
    List.map_map]
  rfl

/-- An entry that says what was settled is in the log exactly if it says what was. -/
theorem mem_log_iff_of_settles {entry : LogEntry} (settles : entry.settles = true) :
    entry ∈ (gate.intercept request response next).log ↔
      (gate.settlement request).entry = entry := by
  have kept : entry ∈ (gate.intercept request response next).log.filter LogEntry.settles ↔
      entry ∈ (gate.intercept request response next).log ∧ entry.settles = true :=
    List.mem_filter
  rw [filter_settles_log, List.mem_singleton] at kept
  exact ⟨fun logged => (kept.mpr ⟨logged, settles⟩).symm, fun same => (kept.mp same.symm).1⟩

theorem rejection_mem_log_iff {domain : String} {status : Status} :
    .rejection domain status ∈ (gate.intercept request response next).log ↔
      ¬gate.services.directory.Serves request.tenant ∧ request.tenant = some domain ∧
        (gate.intercept request response next).response.status = some status := by
  have told : ∀ rejection, gate.clearance request = .rejected rejection →
      request.tenant = some rejection.domain ∧
        (gate.intercept request response next).response.status = some rejection.status := by
    intro rejection rejected
    have asked := Directory.domain_of_verdict (clearance_eq_rejected_iff.mp rejected)
    rw [intercept_rejected rejected]
    exact ⟨(Request.servedTenant_eq_some_iff.mp asked).1, rfl⟩
  rw [← rejected_iff_not_serves, mem_log_iff_of_settles (LogEntry.settles_rejection _ _),
    Event.entry_eq_rejection_iff]
  simp only [settlement_eq_tenantRejected_iff]
  constructor
  · rintro ⟨rejection, rejected, rfl, rfl⟩
    exact ⟨⟨rejection, rejected⟩, told rejection rejected⟩
  · rintro ⟨⟨rejection, rejected⟩, tenant, left⟩
    obtain ⟨asked, written⟩ := told rejection rejected
    exact ⟨rejection, rejected, Option.some.inj (tenant.symm.trans asked),
      Option.some.inj (left.symm.trans written)⟩

theorem policyFailure_mem_log_iff {error : String} :
    .policyFailure error ∈ (gate.intercept request response next).log ↔
      gate.services.directory.Serves request.tenant ∧
        ∃ fault, gate.services.policies request.servedTenant = .error fault ∧
          error = fault.message := by
  rw [mem_log_iff_of_settles (LogEntry.settles_policyFailure _), Event.entry_eq_policyFailure_iff]
  simp only [settlement_eq_policyFailed_iff, clearance_eq_unavailable_iff]
  exact ⟨fun ⟨fault, ⟨served, failed⟩, said⟩ => ⟨served, fault, failed, said⟩,
    fun ⟨served, fault, failed, said⟩ => ⟨fault, ⟨served, failed⟩, said⟩⟩

theorem dispatch_mem_log_iff {label : String} {tenant : Option String} :
    .dispatch label tenant ∈ (gate.intercept request response next).log ↔
      (∃ policy, gate.InForce request policy) ∧ label = (gate.kindOf request).label ∧
        tenant = request.servedTenant := by
  rw [mem_log_iff_of_settles (LogEntry.settles_dispatch _ _), Event.entry_eq_dispatch_iff]
  simp only [settlement_eq_dispatching_iff, clearance_eq_granted_iff]
  constructor
  · rintro ⟨kind, ⟨forced, rfl, asked⟩, said⟩
    exact ⟨forced, said, asked⟩
  · rintro ⟨forced, said, asked⟩
    exact ⟨_, ⟨forced, rfl, asked⟩, said⟩

theorem directoryFailure_mem_log_iff {domain error : String} :
    .directoryFailure domain error ∈ (gate.intercept request response next).log ↔
      request.servedTenant = some domain ∧
        ∃ fault, gate.services.directory.FailsAt domain fault ∧ error = fault.message := by
  constructor
  · intro logged
    obtain ⟨event, member, entry⟩ := mem_log_iff.mp logged
    obtain ⟨fault, rfl, rfl⟩ := Event.entry_eq_directoryFailure_iff.mp entry
    rw [events_intercept, List.mem_append, List.mem_cons, Directory.mem_check_events_iff] at member
    rcases member with ⟨asked, found, tenant, -, failed, same⟩ | settled | late
    · cases same
      exact ⟨tenant, fault, failed, rfl⟩
    · have settles := gate.settles_settlement request
      rw [← settled] at settles
      cases settles
    · simp at late
  · rintro ⟨tenant, fault, failed, rfl⟩
    have named : domain ≠ "" := (Request.servedTenant_eq_some_iff.mp tenant).2
    refine mem_log_iff.mpr ⟨.directoryFailed domain fault, ?_, rfl⟩
    rw [events_intercept, List.mem_append, Directory.mem_check_events_iff]
    exact .inl ⟨domain, fault, tenant, named, failed, rfl⟩

/-- A failure of the directory is logged, and right after it the rejection that comes of it. -/
theorem log_of_failsAt {domain : String} {fault : DirectoryFault}
    (tenant : request.servedTenant = some domain)
    (failed : gate.services.directory.FailsAt domain fault) (response : Response) (next : Chain) :
    (gate.intercept request response next).log =
      [.directoryFailure domain fault.message,
        .rejection domain (fault.rejection domain).status] := by
  have named : domain ≠ "" := (Request.servedTenant_eq_some_iff.mp tenant).2
  have rejected : gate.clearance request = .rejected (fault.rejection domain) := by
    rw [clearance_eq_rejected_iff, tenant, Directory.verdict_of_failsAt named failed]
  rw [intercept_rejected rejected, tenant, Report.log,
    Directory.check_events_of_failsAt named failed]
  simp [Event.entry, Event.level, Event.message, Event.fields, LogEntry.directoryFailure,
    LogEntry.rejection]

/-- A tenant that is switched off is rejected without a failure before it. -/
theorem log_of_inactive {domain : String} {id : TenantId}
    (tenant : request.servedTenant = some domain)
    (found : gate.services.directory.tenantId domain = .ok id)
    (inactive : gate.services.directory.isActive id = .ok false) (response : Response)
    (next : Chain) :
    (gate.intercept request response next).log = [.rejection domain Status.notFound] := by
  have named : domain ≠ "" := (Request.servedTenant_eq_some_iff.mp tenant).2
  have known := Directory.standing_eq_known_iff.mpr ⟨found, inactive⟩
  have check := Directory.check_some gate.services.directory named
  rw [known] at check
  have rejected : gate.clearance request = .rejected (.inactive domain) := by
    rw [clearance_eq_rejected_iff, tenant, check]
    rfl
  rw [intercept_rejected rejected, tenant, check]
  rfl

/-- A refusal of the gate's own is the last entry, and the response that is left tells it. -/
theorem log_of_own {refusal : Refusal}
    (own : gate.ownRefusal? request response = some refusal) (next : Chain) :
    (gate.intercept request response next).log.getLast? =
        some (.refusal refusal.status refusal.message) ∧
      (gate.intercept request response next).response.status = some refusal.status ∧
      (gate.intercept request response next).response.body =
        "CORS Valve: " ++ refusal.message ++ "\n" := by
  obtain ⟨outcome, cause⟩ := ownRefusal?_eq_some_iff.mp own
  obtain ⟨-, -, left⟩ := report_of_refusedFor cause next
  have events : (gate.intercept request response next).events =
      ((gate.services.directory.check request.servedTenant).events ++
        gate.settlement request :: (gate.stageRefusals request response).map .refused) ++
        [.refused refusal] := by
    rw [events_intercept, loggedRefusals, own, chainRefusals_of_own own]
    simp
  refine ⟨?_, by rw [left]; rfl, by rw [left]; rfl⟩
  rw [Report.log, List.getLast?_map, events, List.getLast?_concat]
  rfl

/-- The log of a request tells which way the request took. Exactly one entry says what was settled
about it: that it was rejected for its tenant, with the domain and the status that the response is
left with; that the policy store failed for a tenant that is served; or that it went on to its
handling under a policy, with the label of its kind and the tenant that is served, where an empty
domain is none. A failure of the directory is logged right before the rejection that comes of it,
and a tenant that is switched off is rejected without one. The refusals logged are those that the
stage wrote, the gate's own and those that the chain behind the gate wrote. The gate has one of its
own exactly if it refuses the request, and then this is the last entry and the response tells it. -/
theorem log_tells_the_way (gate : Gate) (request : Request) (response : Response) (next : Chain) :
    let report := gate.intercept request response next
    let directory := gate.services.directory
    let policies := gate.services.policies
    (report.log.filter LogEntry.settles).length = 1 ∧
    (∀ domain status, .rejection domain status ∈ report.log ↔
      ¬directory.Serves request.tenant ∧ request.tenant = some domain ∧
        report.response.status = some status) ∧
    (∀ error, .policyFailure error ∈ report.log ↔
      directory.Serves request.tenant ∧ ∃ fault, policies request.servedTenant = .error fault ∧
        error = "CORS management service error: " ++ fault.cause) ∧
    (∀ label tenant, .dispatch label tenant ∈ report.log ↔
      (directory.Serves request.tenant ∧ ∃ policy, policies request.servedTenant = .ok policy) ∧
        (gate.kindOf request, label) ∈
          [(.actual, "actual"), (.preflight, "preflight"), (.other, "other")] ∧
        tenant = request.servedTenant) ∧
    (request.servedTenant = none ↔ request.tenant = none ∨ request.tenant = some "") ∧
    (∀ domain, request.servedTenant = some domain ↔
      request.tenant = some domain ∧ domain ≠ "") ∧
    (∀ domain error, .directoryFailure domain error ∈ report.log ↔
      request.servedTenant = some domain ∧
        (directory.FailsAt domain (.runtime error) ∨
          ∃ cause, directory.FailsAt domain (.userStore cause) ∧
            error = "user store error: " ++ cause)) ∧
    (∀ domain fault, request.servedTenant = some domain → directory.FailsAt domain fault →
      report.log = [.directoryFailure domain fault.message,
        .rejection domain (fault.rejection domain).status]) ∧
    (∀ domain id, request.servedTenant = some domain → directory.tenantId domain = .ok id →
      directory.isActive id = .ok false → report.log = [.rejection domain 404]) ∧
    (report.stageCalls = [] → gate.stageRefusals request response = []) ∧
    (report.nextCalls = [] → gate.chainRefusals request response next = []) ∧
    ∃ own : Option Refusal,
      (∀ refusal, own = some refusal ↔
        ∃ outcome, gate.RefusedFor request response refusal outcome) ∧
      (report.log.filter LogEntry.isRefusal =
        (gate.stageRefusals request response ++ own.toList ++
          gate.chainRefusals request response next).map fun refusal =>
            .refusal refusal.status refusal.message) ∧
      ∀ refusal, own = some refusal →
        report.log.getLast? = some (.refusal refusal.status refusal.message) ∧
        report.response.status = some refusal.status ∧
        report.response.body = "CORS Valve: " ++ refusal.message ++ "\n" := by
  dsimp only
  refine ⟨by rw [filter_settles_log]; rfl, ?_, ?_, ?_, Request.servedTenant_eq_none_iff,
    fun domain => Request.servedTenant_eq_some_iff, ?_, ?_, ?_, stageRefusals_of_uncalled,
    chainRefusals_of_uncalled, gate.ownRefusal? request response, ?_,
    filter_isRefusal_log gate request response next, ?_⟩
  · exact fun domain status => rejection_mem_log_iff
  · exact fun error => policyFailure_mem_log_iff
  · intro label tenant
    rw [dispatch_mem_log_iff, Kind.eq_label_iff]
    simp only [inForce_iff, exists_and_left]
  · intro domain error
    rw [directoryFailure_mem_log_iff, Directory.failsAt_message_iff]
  · exact fun domain fault tenant failed => log_of_failsAt tenant failed response next
  · exact fun domain id tenant found inactive => log_of_inactive tenant found inactive response next
  · exact fun refusal => ownRefusal?_eq_some_iff
  · exact fun refusal own => log_of_own own next

/-- A gate with one tenant that is switched off, one that the user store fails on, and one with a
quotation mark in its domain, which is the only one that the policy store has a policy for. -/
def troubledGate : Gate where
  options := { onPolicyFault := .refuse 503 }
  services :=
    { directory := .ofRegistrations
        [{ domain := "off.example", id := .ok 7, active := .ok false },
          { domain := "lost.example", id := .ok 8,
            active := .error (.userStore "realm not loaded") },
          { domain := "a\"b", id := .ok 9 }]
      policies := fun tenant =>
        if tenant = some "a\"b" then .ok {} else .error { cause := "timeout" } }
  accepted := by decide

/-- At such a gate the log of the first tenant's request is its rejection, that of the second's
tells the failure first, that of the third's has its domain as it is, and the log of a request
without a tenant ends with the gate's refusal. -/
theorem log_tells_the_way_at_troubledGate :
    (troubledGate.intercept { method := Method.get, tenant := some "off.example" } ∅
        (Chain.ofEdits [] none)).log = [.rejection "off.example" 404] ∧
    (troubledGate.intercept { method := Method.get, tenant := some "lost.example" } ∅
        (Chain.ofEdits [] none)).log =
      [.directoryFailure "lost.example" "user store error: realm not loaded",
        .rejection "lost.example" 404] ∧
    .dispatch "other" (some "a\"b") ∈
      (troubledGate.intercept { method := Method.get, tenant := some "a\"b" } ∅
        (Chain.ofEdits [] none)).log ∧
    (troubledGate.intercept { method := Method.get } ∅ (Chain.ofEdits [] none)).log.getLast? =
      some (.refusal 503 "Error occurred while retrieving CORS configuration") := by
  obtain ⟨-, -, -, -, -, -, -, -, off, -⟩ := log_tells_the_way troubledGate
    { method := Method.get, tenant := some "off.example" } ∅ (Chain.ofEdits [] none)
  obtain ⟨-, -, -, -, -, -, -, lost, -⟩ := log_tells_the_way troubledGate
    { method := Method.get, tenant := some "lost.example" } ∅ (Chain.ofEdits [] none)
  obtain ⟨-, -, -, quoted, -⟩ := log_tells_the_way troubledGate
    { method := Method.get, tenant := some "a\"b" } ∅ (Chain.ofEdits [] none)
  obtain ⟨-, -, -, -, -, -, -, -, -, -, -, own, causes, -, last⟩ := log_tells_the_way troubledGate
    { method := Method.get } ∅ (Chain.ofEdits [] none)
  have failed : troubledGate.services.directory.FailsAt "lost.example"
      (.userStore "realm not loaded") := .activity rfl rfl
  have refused : own = some (.custom 503 policyUnavailable) :=
    (causes _).mpr ⟨.errored, .unavailable (.inl rfl) rfl rfl⟩
  have served : troubledGate.services.directory.Serves (some "a\"b") :=
    .inr (.inr ⟨_, 9, rfl, rfl, rfl⟩)
  exact ⟨off "off.example" 7 rfl rfl rfl, lost "lost.example" _ rfl failed,
    (quoted "other" _).mpr ⟨⟨served, {}, rfl⟩, by decide, rfl⟩, (last _ refused).1⟩

end Gate
end OriginGate
