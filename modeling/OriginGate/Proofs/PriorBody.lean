import OriginGate.Proofs.Discretion
import OriginGate.Proofs.ErrorRendering

/-! What becomes of a body that was begun when its request is turned away. A refusal takes the place
of all that was written, so the page it leaves is the same whatever stood there. A tenant's
rejection is put behind it: what stood there stays in front of the document, and a request that is
rejected once more is told once more. -/
namespace OriginGate

/-- A stage is steady if its verdict does not go by the response it finds. -/
def Stage.Steady (stage : Stage) : Prop :=
  ∀ request policy response other,
    (stage request policy response).refusal = (stage request policy other).refusal

structure Stages.Steady (stages : Stages) : Prop where
  actual : stages.actual.Steady
  preflight : stages.preflight.Steady

theorem Stage.steady_ofEdits (edits : List Edit) (refusal : Option Refusal) :
    (Stage.ofEdits edits refusal).Steady :=
  fun _ _ _ _ => rfl

theorem TenantRejection.document_ne_empty (rejection : TenantRejection) :
    rejection.document ≠ "" := by
  intro empty
  have object := rejection.isObject_document
  rw [empty, String.toList_empty] at object
  cases object

/-! ## One failure in two responses -/

namespace Failure
variable {failure : Failure} {given other : Response}

/-- Whether a failure is told in place of the body or behind it. -/
def Replaces : Failure → Prop
  | tenant _ => False
  | protocol _ => True

/-- What was written before shows in the body alone, and only of a failure told behind it. -/
theorem body_render_eq_iff :
    (failure.render other).body = (failure.render given).body ↔
      failure.Replaces ∨ other.body = given.body := by
  cases failure with
  | tenant rejection =>
    simp only [render, Response.rejectTenant, String.append_left_inj, Replaces, false_or]
  | protocol refusal => simp only [render, Response.refuse, Replaces, true_or]

theorem status_render (failure : Failure) (given other : Response) :
    (failure.render other).status = (failure.render given).status := by
  cases failure <;> rfl

theorem contentType_render (failure : Failure) (given other : Response) :
    (failure.render other).contentType = (failure.render given).contentType := by
  cases failure <;> rfl

end Failure

namespace Gate
variable {gate : Gate} {request : Request} {given : Response} {next : Chain} {outcome : Outcome}

/-! ## One request, two responses -/

theorem refusal_ruling_of_steady (steady : gate.services.stages.Steady) (policy : Policy)
    (request : Request) (given other : Response) :
    (gate.ruling policy request other).refusal = (gate.ruling policy request given).refusal := by
  cases kind : gate.kindOf request with
  | actual =>
    rw [ruling_of_actual kind, ruling_of_actual kind]
    exact steady.actual _ _ _ _
  | preflight =>
    rw [ruling_of_preflight kind, ruling_of_preflight kind]
    exact steady.preflight _ _ _ _
  | other => rw [ruling_of_other kind, ruling_of_other kind]

theorem refusedFor_of_steady {refusal : Refusal} (steady : gate.services.stages.Steady)
    (cause : gate.RefusedFor request given refusal outcome) (other : Response) :
    gate.RefusedFor request other refusal outcome := by
  cases cause with
  | unavailable served failed told => exact .unavailable served failed told
  | stage force kind refused =>
    exact .stage force kind ((refusal_ruling_of_steady steady _ _ _ _).trans refused)
  | generic force kind closed => exact .generic force kind closed

/-- What a request fails with does not go by what was written before. -/
theorem failsWith_of_steady {failure : Failure} (steady : gate.services.stages.Steady)
    (fails : gate.FailsWith request given failure) (other : Response) :
    gate.FailsWith request other failure := by
  cases fails with
  | tenant named rejected => exact .tenant named rejected
  | protocol cause => exact .protocol (refusedFor_of_steady steady cause other)

theorem result_of_failsWith_of_steady {failure : Failure} (steady : gate.services.stages.Steady)
    (fails : gate.FailsWith request given failure) (other : Response) (next after : Chain) :
    (gate.intercept request other after).result = (gate.intercept request given next).result := by
  cases fails with
  | tenant named rejected =>
    have settled := clearance_eq_rejected_iff.mpr rejected
    rw [intercept_rejected settled, intercept_rejected settled]
  | protocol cause =>
    have again := refusedFor_of_steady steady cause other
    rw [(report_of_refusedFor again after).1, (report_of_refusedFor cause next).1]

/-- A failure is told behind the body exactly if it is the tenant's. -/
theorem replaces_iff_serves {failure : Failure} (fails : gate.FailsWith request given failure) :
    failure.Replaces ↔ gate.services.directory.Serves request.tenant := by
  cases fails with
  | tenant named rejected =>
    have settled := clearance_eq_rejected_iff.mpr rejected
    exact iff_of_false id (rejected_iff_not_serves.mp ⟨_, settled⟩)
  | protocol cause =>
    refine iff_of_true trivial ?_
    cases cause with
    | unavailable served => exact served
    | stage force => exact force.served
    | generic force => exact force.served

/-- A request that is turned away is turned away whatever was written before, with the same status
and the same media type. Its page has the same body, too, exactly if its tenant is served or the
same body stood there before: so for a tenant that is served the page is complete, and rendering it
once more changes nothing. The document that rejects a tenant is the whole body only of a response
whose body was empty, and it stands twice in one that is rejected twice. -/
theorem error_page_is_complete_iff_served (steady : gate.services.stages.Steady)
    (turned : outcome = .errored ∨ outcome = .denied)
    (result : (gate.intercept request given next).result = .ok outcome) :
    let left := (gate.intercept request given next).response
    (∀ other after,
      let page := (gate.intercept request other after).response
      (gate.intercept request other after).result = .ok outcome ∧
      page.status = left.status ∧ page.contentType = left.contentType ∧
      (page.body = left.body ↔
        gate.services.directory.Serves request.tenant ∨ other.body = given.body)) ∧
    (∀ after, (gate.intercept request left after).response.body = left.body ↔
      gate.services.directory.Serves request.tenant) ∧
    (¬gate.services.directory.Serves request.tenant → ∃ rejection,
      (gate.services.directory.check request.servedTenant).verdict = .error rejection ∧
      ∀ other after,
        let page := (gate.intercept request other after).response
        page.body = other.body ++ rejection.document ∧
        (page.body = rejection.document ↔ other.body = "") ∧
        (gate.intercept request page after).response.body = page.body ++ rejection.document) := by
  dsimp only
  obtain ⟨failure, fails⟩ := exists_failsWith turned result
  have page : ∀ other after, (gate.intercept request other after).response.reading =
      (failure.render other).reading := fun other after =>
    reading_of_failsWith (failsWith_of_steady steady fails other) after
  have bodies : ∀ other after, (gate.intercept request other after).response.body =
      (gate.intercept request given next).response.body ↔
        gate.services.directory.Serves request.tenant ∨ other.body = given.body := by
    intro other after
    have read := congrArg Reading.body (page other after)
    have readToo := congrArg Reading.body (page given next)
    rw [← replaces_iff_serves fails, ← Failure.body_render_eq_iff]
    exact Eq.congr read readToo
  refine ⟨?_, ?_, ?_⟩
  · intro other after
    have status := congrArg Reading.status (page other after)
    have contentType := congrArg Reading.contentType (page other after)
    have turnedToo := (result_of_failsWith_of_steady steady fails other next after).trans result
    refine ⟨turnedToo, ?_, ?_, bodies other after⟩
    · exact status.trans ((failure.status_render given other).trans
        (congrArg Reading.status (page given next)).symm)
    · exact contentType.trans ((failure.contentType_render given other).trans
        (congrArg Reading.contentType (page given next)).symm)
  · intro after
    rw [bodies]
    refine ⟨fun same => same.elim id fun kept => ?_, .inl⟩
    apply Classical.byContradiction
    intro unserved
    -- With the document behind it the body would be longer.
    obtain ⟨rejection, -, -, -, response⟩ := report_of_not_served unserved given next
    rw [response] at kept
    have nothing : given.body ++ rejection.document = given.body ++ "" :=
      kept.trans String.append_empty.symm
    exact rejection.document_ne_empty ((String.append_right_inj _).mp nothing)
  · intro unserved
    obtain ⟨rejection, verdict, -⟩ := report_of_not_served unserved given next
    have told : ∀ other after, (gate.intercept request other after).response.body =
        other.body ++ rejection.document := by
      intro other after
      rw [intercept_rejected (clearance_eq_rejected_iff.mpr verdict)]
      rfl
    refine ⟨rejection, verdict, fun other after => ⟨told other after, ?_, told _ after⟩⟩
    have alone : other.body ++ rejection.document = "" ++ rejection.document ↔ other.body = "" :=
      String.append_left_inj _
    rwa [String.empty_append, ← told other after] at alone

/-- A gate whose directory knows no tenant. -/
def strangersOnly : Gate :=
  plainGate.backedBy (.ofRegistrations []) plainGate.services.policies

/-- The document that rejects a tenant is put behind a begun page, which is then no JSON, and behind
itself if the request is repeated. -/
theorem rejection_page_keeps_what_was_written :
    let request : Request := { method := Method.get, tenant := some "acme" }
    let begun : Response := Response.write ∅ "<p>"
    let next := Chain.ofEdits [] none
    let page := (strangersOnly.intercept request ∅ next).response
    strangersOnly.services.stages.Steady ∧
    (strangersOnly.intercept request ∅ next).result = .ok .errored ∧
    (strangersOnly.intercept request begun next).result = .ok .errored ∧
    (strangersOnly.intercept request begun next).response.body ≠ page.body ∧
    Text.JsonObject.read (strangersOnly.intercept request begun next).response.body.toList = none ∧
    (strangersOnly.intercept request page next).response.body ≠ page.body :=
  ⟨⟨Stage.steady_ofEdits _ _, Stage.steady_ofEdits _ _⟩, rfl, rfl, by decide +kernel,
    by decide +kernel, by decide +kernel⟩

/-- A generic request that the policy keeps out leaves one page, whatever was written before and
however often it is repeated. -/
theorem error_page_is_complete_for_generic_request :
    let closed := plainGate.backedBy plainGate.services.directory
      fun _ => .ok { allowGeneric := false }
    let request : Request := { method := Method.get, tenant := some "acme" }
    let next := Chain.ofEdits [] none
    let page := (closed.intercept request ∅ next).response
    (closed.intercept request begun next).response.body = page.body ∧
      (closed.intercept request page next).response.body = page.body := by
  intro closed request next page
  have steady : closed.services.stages.Steady :=
    ⟨Stage.steady_ofEdits _ _, Stage.steady_ofEdits _ _⟩
  have served : closed.services.directory.Serves request.tenant :=
    .inr (.inr ⟨"acme", 7, rfl, rfl, rfl⟩)
  have denied : closed.RefusedFor request ∅ .genericDenied .denied :=
    .generic ⟨served, rfl⟩ (by decide) rfl
  obtain ⟨others, again, -⟩ :=
    error_page_is_complete_iff_served steady (.inr rfl) (report_of_refusedFor denied next).1
  obtain ⟨-, -, -, same⟩ := others begun next
  exact ⟨same.mpr (.inl served), (again next).mpr served⟩

end Gate
end OriginGate
