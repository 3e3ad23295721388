import OriginGate.Proofs.UnknownDomains
import OriginGate.Request.Basic
import OriginGate.Tenant.Check

/-! What a directory's answers about a domain come to. A tenant is served exactly if its check
passes, and a check that does not pass names the domain that was asked for. Of a failure only the
words that mean that there is no such tenant count. -/
namespace OriginGate

/-! ## Tenants that are served -/

/-- A tenant is served if there is none to ask for, or if the directory has a number for its domain
and calls the tenant with this number active. -/
def Directory.Serves (directory : Directory) (tenant : Option String) : Prop :=
  tenant = none ∨ tenant = some "" ∨
    ∃ domain id, tenant = some domain ∧ directory.tenantId domain = .ok id ∧
      directory.isActive id = .ok true

/-- The questions put to a directory about a tenant: its number, and, once that is known, whether
the tenant with this very number is active. -/
def Directory.questions (directory : Directory) : Option String → List DirectoryCall
  | none => []
  | some domain => .tenantId domain :: (directory.tenantId domain).toOption.toList.map .isActive

theorem Request.servedTenant_ne_empty (request : Request) : request.servedTenant ≠ some "" := by
  intro named
  have kept := (Option.filter_eq_some_iff.mp named).2
  simp at kept

theorem Request.servedTenant_eq_some_iff {request : Request} {domain : String} :
    request.servedTenant = some domain ↔ request.tenant = some domain ∧ domain ≠ "" := by
  simp [servedTenant, Option.filter_eq_some_iff]

theorem Request.servedTenant_eq_none_iff {request : Request} :
    request.servedTenant = none ↔ request.tenant = none ∨ request.tenant = some "" := by
  cases given : request.tenant <;> simp [servedTenant, given, Option.filter_eq_none_iff]

theorem Directory.serves_servedTenant {directory : Directory} {request : Request} :
    directory.Serves request.servedTenant ↔ directory.Serves request.tenant := by
  cases given : request.tenant with
  | none => simp [Request.servedTenant, given, Serves]
  | some domain =>
    by_cases named : domain = ""
    · simp [Request.servedTenant, given, Serves, named]
    · have kept := Request.servedTenant_eq_some_iff.mpr ⟨given, named⟩
      rw [kept]

/-- The standing of a domain lets a request pass exactly if the tenant is known to be active. -/
theorem Standing.verdict_eq_ok_iff {standing : Standing} {domain : String} :
    standing.verdict domain = .ok () ↔ ∃ id, standing = .known id true := by
  cases standing with
  | noId fault => simp [verdict]
  | noActivity id fault => simp [verdict]
  | known id active => cases active <;> simp [verdict]

theorem Directory.standing_eq_known_iff {directory : Directory} {domain : String} {id : TenantId}
    {active : Bool} : directory.standing domain = .known id active ↔
      directory.tenantId domain = .ok id ∧ directory.isActive id = .ok active := by
  cases number : directory.tenantId domain with
  | error fault => simp [standing, number]
  | ok found =>
    cases activity : directory.isActive found with
    | error fault =>
      simp only [standing, number, activity, reduceCtorEq, Except.ok.injEq, false_iff]
      rintro ⟨rfl, told⟩
      simp [activity] at told
    | ok told =>
      simp only [standing, number, activity, Standing.known.injEq, Except.ok.injEq]
      constructor
      · rintro ⟨rfl, rfl⟩
        exact ⟨rfl, activity⟩
      · rintro ⟨rfl, said⟩
        exact ⟨rfl, Except.ok.inj (activity.symm.trans said)⟩

/-- A check passes exactly the tenants that are served. -/
theorem Directory.check_verdict_eq_ok_iff {directory : Directory} {tenant : Option String} :
    (directory.check tenant).verdict = .ok () ↔ directory.Serves tenant := by
  cases tenant with
  | none => simp [Serves]
  | some domain =>
    by_cases named : domain = ""
    · simp [named, Serves]
    · rw [check_some directory named]
      simp [Standing.verdict_eq_ok_iff, standing_eq_known_iff, Serves, named]

theorem Standing.domain_of_verdict {standing : Standing} {domain : String}
    {rejection : TenantRejection} (rejected : standing.verdict domain = .error rejection) :
    rejection.domain = domain := by
  cases standing with
  | noId fault =>
    cases rejected
    exact fault.domain_rejection domain
  | noActivity id fault =>
    cases rejected
    exact fault.domain_rejection domain
  | known id active =>
    cases active <;> cases rejected
    rfl

/-- A rejection names the tenant that was asked for. -/
theorem Directory.domain_of_verdict {directory : Directory} {tenant : Option String}
    {rejection : TenantRejection} (rejected : (directory.check tenant).verdict = .error rejection) :
    tenant = some rejection.domain := by
  cases tenant with
  | none => cases rejected
  | some domain =>
    by_cases named : domain = ""
    · subst named
      cases rejected
    · rw [check_some directory named] at rejected
      rw [Standing.domain_of_verdict rejected]

theorem Directory.check_calls (directory : Directory) {tenant : Option String}
    (named : tenant ≠ some "") : (directory.check tenant).calls = directory.questions tenant := by
  cases tenant with
  | none => rfl
  | some domain =>
    have filled : domain ≠ "" := fun empty => named (congrArg some empty)
    rw [check_some directory filled]
    cases number : directory.tenantId domain with
    | error fault => simp [standing, number, Standing.calls, questions, Except.toOption]
    | ok id =>
      cases activity : directory.isActive id <;>
        simp [standing, number, activity, Standing.calls, questions, Except.toOption]

/-- A check that passes has had all its answers, and logs nothing. -/
theorem Directory.check_events_of_serves {directory : Directory} {tenant : Option String}
    (served : directory.Serves tenant) : (directory.check tenant).events = [] := by
  have passed := check_verdict_eq_ok_iff.mpr served
  cases tenant with
  | none => rfl
  | some domain =>
    by_cases named : domain = ""
    · simp [named]
    · rw [check_some directory named] at passed ⊢
      obtain ⟨id, known⟩ := Standing.verdict_eq_ok_iff.mp passed
      simp [known, Standing.events, Standing.fault?]

/-! ## What a directory does not serve -/

namespace Directory
variable {directory other : Directory} {domain : String}

/-- One of the two questions about a domain fails. -/
inductive FailsAt (directory : Directory) (domain : String) : DirectoryFault → Prop where
  | number {fault : DirectoryFault} (failed : directory.tenantId domain = .error fault) :
      FailsAt directory domain fault
  | activity {id : TenantId} {fault : DirectoryFault} (found : directory.tenantId domain = .ok id)
      (failed : directory.isActive id = .error fault) : FailsAt directory domain fault

/-- Failures of the user store are told as such; any other failure speaks for itself. -/
theorem failsAt_message_iff {error : String} :
    (∃ fault, directory.FailsAt domain fault ∧ error = fault.message) ↔
      directory.FailsAt domain (.runtime error) ∨
        ∃ cause, directory.FailsAt domain (.userStore cause) ∧
          error = "user store error: " ++ cause := by
  constructor
  · rintro ⟨fault, failed, rfl⟩
    cases fault with
    | userStore cause => exact .inr ⟨cause, failed, rfl⟩
    | runtime error => exact .inl failed
  · rintro (failed | ⟨cause, failed, rfl⟩)
    · exact ⟨_, failed, rfl⟩
    · exact ⟨_, failed, rfl⟩

theorem calls_of_unnumbered {fault : DirectoryFault} (named : domain ≠ "")
    (failed : directory.tenantId domain = .error fault) :
    (directory.check (some domain)).calls = [.tenantId domain] := by
  rw [check_calls directory (by simp [named]), questions, failed]
  rfl

theorem calls_of_numbered {id : TenantId} (named : domain ≠ "")
    (found : directory.tenantId domain = .ok id) :
    (directory.check (some domain)).calls = [.tenantId domain, .isActive id] := by
  rw [check_calls directory (by simp [named]), questions, found]
  rfl

/-- There is no tenant to serve under a domain: it is switched off, or a question fails in a way
that means that it is unknown. -/
inductive Lacks (directory : Directory) (domain : String) : Prop where
  | disabled {id : TenantId} (found : directory.tenantId domain = .ok id)
      (inactive : directory.isActive id = .ok false)
  | unknown {fault : DirectoryFault} (failed : directory.FailsAt domain fault)
      (unknown : fault.MeansUnknown)

/-- The failure of a standing is the one of the question that failed. -/
theorem fault?_standing_eq_some_iff {fault : DirectoryFault} :
    (directory.standing domain).fault? = some fault ↔ directory.FailsAt domain fault := by
  constructor
  · intro kept
    cases number : directory.tenantId domain with
    | error found =>
      simp only [standing, number, Standing.fault?, Option.some.injEq] at kept
      exact .number (kept ▸ number)
    | ok id =>
      cases activity : directory.isActive id with
      | error found =>
        simp only [standing, number, activity, Standing.fault?, Option.some.injEq] at kept
        exact .activity number (kept ▸ activity)
      | ok active => simp [standing, number, activity, Standing.fault?] at kept
  · intro failed
    cases failed with
    | number failed => simp [standing, failed, Standing.fault?]
    | activity found failed => simp [standing, found, failed, Standing.fault?]

/-- A check logs the failure of a question, and nothing else. -/
theorem mem_check_events_iff {tenant : Option String} {event : Event} :
    event ∈ (directory.check tenant).events ↔
      ∃ domain fault, tenant = some domain ∧ domain ≠ "" ∧ directory.FailsAt domain fault ∧
        event = .directoryFailed domain fault := by
  cases tenant with
  | none => simp
  | some domain =>
    by_cases named : domain = ""
    · simp [named]
    · rw [check_some directory named]
      simp only [Standing.events, List.mem_map, Option.mem_toList,
        fault?_standing_eq_some_iff]
      constructor
      · rintro ⟨fault, failed, rfl⟩
        exact ⟨domain, fault, rfl, named, failed, rfl⟩
      · rintro ⟨asked, fault, ⟨⟩, -, failed, rfl⟩
        exact ⟨fault, failed, rfl⟩

theorem check_events_of_failsAt {fault : DirectoryFault} (named : domain ≠ "")
    (failed : directory.FailsAt domain fault) :
    (directory.check (some domain)).events = [.directoryFailed domain fault] := by
  rw [check_some directory named, Standing.events, fault?_standing_eq_some_iff.mpr failed]
  rfl

theorem verdict_of_failsAt {fault : DirectoryFault} (named : domain ≠ "")
    (failed : directory.FailsAt domain fault) :
    (directory.check (some domain)).verdict = .error (fault.rejection domain) := by
  rw [check_some directory named]
  cases failed with
  | number failed => simp [standing, failed, Standing.verdict]
  | activity found failed => simp [standing, found, failed, Standing.verdict]

theorem verdict_of_lacks (named : domain ≠ "") (lacks : directory.Lacks domain) :
    (directory.check (some domain)).verdict = .error (.inactive domain) := by
  cases lacks with
  | disabled found inactive =>
    rw [check_some directory named]
    simp [standing, found, inactive, Standing.verdict]
  | unknown failed unknown =>
    rw [verdict_of_failsAt named failed, DirectoryFault.rejection_of_meansUnknown unknown]

/-- A directory that is read off a list lacks every domain that is not on it. -/
theorem lacks_of_unregistered {registrations : List Registration}
    (unregistered : ∀ registration ∈ registrations, registration.domain ≠ domain) :
    (ofRegistrations registrations).Lacks domain := by
  have unfound : registrations.find? (·.domain = domain) = none := by
    simpa using unregistered
  have failed : (ofRegistrations registrations).FailsAt domain
      (.runtime (unknownDomainMark ++ " " ++ domain)) := by
    refine .number ?_
    simp [ofRegistrations, lookupId, unfound]
  refine .unknown failed ⟨"", " " ++ domain, ?_⟩
  rw [String.empty_append, String.append_assoc]

end Directory

end OriginGate
