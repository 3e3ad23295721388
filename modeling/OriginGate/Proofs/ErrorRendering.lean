import OriginGate.Proofs.FinalResponse
import OriginGate.Text.JsonGrammar

/-! What a client that is turned away can read off its response. The document that tells a tenant's
rejection is well formed and gives the status and the message back, and a line of plain text gives
back the message of a refusal. Whoever writes the words, two failures that leave the same response
are therefore alike. -/
namespace OriginGate
open Text

/-! ## The document -/

namespace TenantRejection

theorem read_document (rejection : TenantRejection) :
    JsonObject.read rejection.document.toList = some (rejection.members, []) := by
  have written := JsonObject.read_render rejection.members []
  rw [List.append_nil] at written
  rwa [document, String.toList_ofList]

theorem isObject_document (rejection : TenantRejection) :
    JsonGrammar.IsObject rejection.document.toList := by
  obtain ⟨front, split, object⟩ := JsonGrammar.isObject_of_read rejection.read_document
  rwa [split, List.append_nil]

theorem le_of_mem_document {rejection : TenantRejection} {c : Char}
    (mem : c ∈ rejection.document.toList) : 0x20 ≤ c.toNat := by
  rw [document, String.toList_ofList] at mem
  exact JsonObject.le_of_mem_render mem

/-- The document of a rejection tells its cause and its domain. -/
theorem document_inj {a b : TenantRejection} : a.document = b.document ↔ a = b := by
  constructor
  · intro same
    have read := a.read_document
    rw [same, b.read_document] at read
    simp only [members, Option.some.injEq, Prod.mk.injEq, List.cons.injEq,
      JsonScalar.string.injEq, true_and, and_true] at read
    exact (eq_of_message_eq read.2.1).symm
  · exact congrArg document

end TenantRejection

/-- A rejection adds one text to the body, and this text is a JSON object of three members in
compact form. Read back, it gives the status that the response now has, and the message twice,
character by character, whatever the domain is made of. It is a single line. -/
theorem Response.rejectTenant_appends_document (rejection : TenantRejection)
    (response : Response) :
    ∃ text : String,
      (∀ added, (response.rejectTenant rejection).body = response.body ++ added ↔ added = text) ∧
      JsonGrammar.IsObject text.toList ∧
      JsonObject.read text.toList =
        some ([("code", .number rejection.status), ("message", .string rejection.message),
          ("description", .string rejection.message)], []) ∧
      (response.rejectTenant rejection).status = some rejection.status ∧
      ∀ c ∈ text.toList, 0x20 ≤ c.toNat := by
  refine ⟨rejection.document, ?_, rejection.isObject_document, rejection.read_document, rfl,
    fun c => TenantRejection.le_of_mem_document⟩
  intro added
  rw [rejectTenant, String.append_right_inj]
  exact eq_comm

example : (TenantRejection.inactive "a\"\\\n").document =
    "\x7b\"code\":404,\"message\":\"invalid tenant domain : a\\\"\\\\\\n\"," ++
      "\"description\":\"invalid tenant domain : a\\\"\\\\\\n\"\x7d" := by
  decide +kernel

/-! ## Failures told apart -/

theorem Refusal.line_eq_iff {a b : Refusal} : a.line = b.line ↔ a.message = b.message := by
  rw [line, line, String.append_left_inj, String.append_right_inj]

/-- Why a request is turned away. -/
inductive Failure where
  | tenant (rejection : TenantRejection)
  | protocol (refusal : Refusal)

namespace Failure

/-- Failures are alike if they are rejections of one kind for one domain, or refusals with the same
status and the same message. -/
inductive Alike : Failure → Failure → Prop where
  | tenant (rejection : TenantRejection) : Alike (.tenant rejection) (.tenant rejection)
  | protocol {a b : Refusal} (status : a.status = b.status) (message : a.message = b.message) :
      Alike (.protocol a) (.protocol b)

/-- Writes a failure into a response, or over it. -/
def render (response : Response) : Failure → Response
  | tenant rejection => response.rejectTenant rejection
  | protocol refusal => response.refuse refusal

end Failure

/-- What a client goes by when it is turned away. -/
structure Reading where
  status : Option Status
  contentType : Option String
  body : String

def Response.reading (response : Response) : Reading where
  status := response.status
  contentType := response.contentType
  body := response.body

/-- Failures rendered into one response that read the same are alike. The media type tells
rejections from refusals, and what the body held before stands in front of every document. -/
theorem Failure.reading_render_eq_iff {a b : Failure} {given : Response} :
    (a.render given).reading = (b.render given).reading ↔ a.Alike b := by
  constructor
  · intro same
    have status := congrArg Reading.status same
    have contentType := congrArg Reading.contentType same
    have body := congrArg Reading.body same
    have kinds : MediaType.json ≠ MediaType.plainText := by decide
    cases a with
    | tenant first =>
      cases b with
      | tenant second =>
        have documents := (String.append_right_inj given.body).mp body
        rw [TenantRejection.document_inj.mp documents]
        exact .tenant second
      | protocol second => exact absurd (Option.some.inj contentType) kinds
    | protocol first =>
      cases b with
      | tenant second => exact absurd (Option.some.inj contentType).symm kinds
      | protocol second => exact .protocol (Option.some.inj status) (Refusal.line_eq_iff.mp body)
  · intro alike
    cases alike with
    | tenant rejection => rfl
    | @protocol first second status message =>
      have lines := Refusal.line_eq_iff.mpr message
      simp only [render, Response.refuse, Response.reading, status, lines]

namespace Gate
variable {gate : Gate} {request : Request} {given : Response} {failure : Failure}

/-- A request fails for its tenant, or with a refusal that has a cause. -/
inductive FailsWith (gate : Gate) (request : Request) (given : Response) : Failure → Prop where
  | tenant {rejection : TenantRejection} (named : request.tenant = some rejection.domain)
      (rejected : (gate.services.directory.check request.servedTenant).verdict =
        .error rejection) : FailsWith gate request given (.tenant rejection)
  | protocol {refusal : Refusal} {outcome : Outcome}
      (cause : gate.RefusedFor request given refusal outcome) :
      FailsWith gate request given (.protocol refusal)

theorem exists_failsWith {next : Chain} {outcome : Outcome}
    (turned : outcome = .errored ∨ outcome = .denied)
    (result : (gate.intercept request given next).result = .ok outcome) :
    ∃ failure, gate.FailsWith request given failure := by
  by_cases served : gate.services.directory.Serves request.tenant
  · have caused : outcome = .denied ∨
        outcome = .errored ∧ gate.services.directory.Serves request.tenant :=
      turned.symm.imp_right fun errored => ⟨errored, served⟩
    obtain ⟨refusal, cause⟩ := exists_refusedFor result caused
    exact ⟨_, .protocol cause⟩
  · obtain ⟨rejection, rejected, -⟩ := report_of_not_served served given next
    have named := Directory.domain_of_verdict rejected
    exact ⟨_, .tenant (Request.servedTenant_eq_some_iff.mp named).1 rejected⟩

/-- A failure is the last thing written. Only a document goes by what stood there before, and then
no stage was called. -/
theorem reading_of_failsWith (fails : gate.FailsWith request given failure) (next : Chain) :
    (gate.intercept request given next).response.reading = (failure.render given).reading := by
  cases fails with
  | tenant named rejected =>
    rw [intercept_rejected (clearance_eq_rejected_iff.mpr rejected)]
    rfl
  | protocol cause =>
    rw [(report_of_refusedFor cause next).2.2]
    rfl

/-- Two requests that are turned away and leave the same status, media type and body failed alike,
whatever gates they came to and whoever chose the words: both for tenants of one domain that are
rejected in one way, or both with refusals of the same status and message. -/
theorem failures_stay_distinguishable {gate other : Gate} {request again : Request}
    {given : Response} {next after : Chain} {outcome outcomeToo : Outcome}
    (turned : outcome = .errored ∨ outcome = .denied)
    (turnedToo : outcomeToo = .errored ∨ outcomeToo = .denied)
    (result : (gate.intercept request given next).result = .ok outcome)
    (resultToo : (other.intercept again given after).result = .ok outcomeToo) :
    (∃ failure, gate.FailsWith request given failure) ∧
    (∃ failure, other.FailsWith again given failure) ∧
    ∀ failure failureToo, gate.FailsWith request given failure →
      other.FailsWith again given failureToo →
      ((gate.intercept request given next).response.reading =
        (other.intercept again given after).response.reading ↔ failure.Alike failureToo) := by
  refine ⟨exists_failsWith turned result, exists_failsWith turnedToo resultToo, ?_⟩
  intro failure failureToo fails failsToo
  rw [reading_of_failsWith fails next, reading_of_failsWith failsToo after]
  exact Failure.reading_render_eq_iff

/-- A generic request that the policy keeps out reads as one that a stage turns away in the same
words. -/
theorem failures_stay_distinguishable_across_outcomes :
    let words := "Generic HTTP requests not allowed"
    let closed : Gate := { plainGate with
      services := { plainGate.services with policies := fun _ => .ok { allowGeneric := false } } }
    let staged : Gate := { plainGate with
      services := { plainGate.services with
        stages := { actual := Stage.ofEdits [] (some (.custom 403 words)) } } }
    let next := Chain.ofEdits [] none
    (closed.intercept { method := Method.get } ∅ next).response.reading =
      (staged.intercept { method := Method.get, origin := some "https://b.example" } ∅
        next).response.reading := by
  intro words closed staged next
  have denied : closed.RefusedFor { method := Method.get } ∅ .genericDenied .denied :=
    .generic ⟨.inl rfl, rfl⟩ rfl rfl
  have errored : staged.RefusedFor { method := Method.get, origin := some "https://b.example" } ∅
      (.custom 403 words) .errored :=
    .stage ⟨.inl rfl, rfl⟩ nofun rfl
  obtain ⟨-, -, alike⟩ := failures_stay_distinguishable (.inr rfl) (.inl rfl)
    (report_of_refusedFor denied next).1 (report_of_refusedFor errored next).1
  exact (alike _ _ (.protocol denied) (.protocol errored)).mpr (.protocol rfl rfl)

end Gate
end OriginGate
