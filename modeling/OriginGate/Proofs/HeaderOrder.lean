import OriginGate.Proofs.CallOrder
import OriginGate.Table.Lemmas

/-! Equal responses may hold their headers in different orders. Nobody who works on a response edit
by edit can tell: whatever is asked for is found in both or in neither, and every edit leaves equal
responses again. So the order in which headers were set has no part in what a gate does. -/
namespace OriginGate

/-! ## One edit and many -/

namespace Response
variable {a b c : Response}

theorem Equiv.refl (response : Response) : response.Equiv response :=
  ⟨rfl, rfl, rfl, Table.Equiv.refl _, rfl⟩

theorem Equiv.symm (same : a.Equiv b) : b.Equiv a :=
  ⟨same.status.symm, same.contentType.symm, same.encoding.symm, Table.Equiv.symm same.headers,
    same.body.symm⟩

theorem Equiv.trans (first : a.Equiv b) (second : b.Equiv c) : a.Equiv c :=
  ⟨first.status.trans second.status, first.contentType.trans second.contentType,
    first.encoding.trans second.encoding, Table.Equiv.trans first.headers second.headers,
    first.body.trans second.body⟩

/-- What can be asked of two responses, short of listing their headers, is answered alike. -/
structure ReadsAlike (a b : Response) : Prop where
  contentTypeHeader : a.contentTypeHeader = b.contentTypeHeader
  isWritten : a.isWritten = b.isWritten
  body : a.body = b.body
  header : ∀ name, a.header? name = b.header? name

theorem Equiv.readsAlike (same : a.Equiv b) : a.ReadsAlike b where
  contentTypeHeader := by rw [contentTypeHeader, contentTypeHeader, same.contentType, same.encoding]
  isWritten := by
    rw [isWritten, isWritten, same.status, same.body, Table.Equiv.isEmpty_eq same.headers]
  body := same.body
  header := Table.Equiv.get?_eq same.headers

theorem Equiv.answer_eq (same : a.Equiv b) (edit : Edit) : edit.answer a = edit.answer b := by
  cases edit with
  | readHeader name => exact same.readsAlike.header name
  | _ => rfl

/-- Every edit leaves equal responses equal. -/
theorem Equiv.apply (same : a.Equiv b) (edit : Edit) : (a.apply edit).Equiv (b.apply edit) := by
  cases edit with
  | status status => exact { same with status := rfl }
  | contentType value => exact { same with contentType := rfl }
  | encoding name => exact { same with encoding := rfl }
  | header name value => exact { same with headers := Table.Equiv.insert same.headers name value }
  | readHeader name => exact same
  | write text => exact { same with body := congrArg (· ++ text) same.body }
  | clearBody => exact { same with body := rfl }
  | refuse refusal => exact { same with status := rfl, contentType := rfl, body := rfl }
  | rejectTenant rejection =>
    exact { headers := same.headers, status := rfl, contentType := rfl, encoding := rfl,
            body := congrArg (· ++ rejection.document) same.body }

theorem Equiv.applyAll (same : a.Equiv b) (edits : List Edit) :
    (a.applyAll edits).Equiv (b.applyAll edits) := by
  induction edits generalizing a b with
  | nil => exact same
  | cons edit edits ih => exact ih (same.apply edit)

/-- The answers of a list of edits, made one after another. -/
def answers (response : Response) : List Edit → List (Option String)
  | [] => []
  | edit :: edits => edit.answer response :: (response.apply edit).answers edits

theorem Equiv.answers_eq (same : a.Equiv b) (edits : List Edit) :
    a.answers edits = b.answers edits := by
  induction edits generalizing a b with
  | nil => rfl
  | cons edit edits ih => rw [answers, answers, same.answer_eq edit, ih (same.apply edit)]

end Response

/-! ## Handlers that work by edits -/

/-- What a handler does to a response, edit by edit. What it does next may go by what an edit
answered. -/
inductive Script (β : Type) where
  | done (result : β)
  | make (edit : Edit) (next : Option String → Script β)

/-- What came of a script. -/
structure Performance (β : Type) where
  response : Response
  /-- The refusals written on the way, in order. -/
  written : List Refusal
  result : β

structure Performance.Equiv {β : Type} (a b : Performance β) : Prop where
  response : a.response.Equiv b.response
  written : a.written = b.written
  result : a.result = b.result

namespace Script
variable {β : Type}

def perform : Script β → Response → Performance β
  | .done result, response => { response, written := [], result }
  | .make edit next, response =>
    let later := (next (edit.answer response)).perform (response.apply edit)
    { later with written := edit.refusal?.toList ++ later.written }

/-- The script that makes given edits, whatever they answer. -/
def ofEdits (edits : List Edit) (result : β) : Script β :=
  edits.foldr (fun edit script => .make edit fun _ => script) (.done result)

theorem perform_ofEdits (edits : List Edit) (result : β) (response : Response) :
    (ofEdits edits result).perform response =
      { response := response.applyAll edits, written := Edit.refusals edits, result } := by
  induction edits generalizing response with
  | nil => rfl
  | cons edit edits ih =>
    have later : (ofEdits (edit :: edits) result).perform response =
        { (ofEdits edits result).perform (response.apply edit) with
          written := edit.refusal?.toList ++
            ((ofEdits edits result).perform (response.apply edit)).written } := rfl
    rw [later, ih, Edit.refusals, Edit.refusals, List.filterMap_cons]
    cases edit.refusal? <;> rfl

/-- A script takes one course on equal responses. -/
theorem perform_equiv (script : Script β) {a b : Response} (same : a.Equiv b) :
    (script.perform a).Equiv (script.perform b) := by
  induction script generalizing a b with
  | done result => exact ⟨same, rfl, rfl⟩
  | make edit next ih =>
    have later := ih (edit.answer a) (same.apply edit)
    rw [perform, perform, ← same.answer_eq edit]
    exact { later with written := congrArg (edit.refusal?.toList ++ ·) later.written }

end Script

/-- The stage that performs a script, chosen by the request and the policy. -/
def Stage.ofScript (script : Request → Policy → Script (Option Refusal)) : Stage :=
  fun request policy response =>
    let performance := (script request policy).perform response
    { response := performance.response, written := performance.written,
      refusal := performance.result }

/-- The chain that performs a script, chosen by the request. -/
def Chain.ofScript (script : Request → Script (Option TransportError)) : Chain :=
  fun request response =>
    let performance := (script request).perform response
    { response := performance.response, written := performance.written,
      failure := performance.result }

/-- A stage works by edits if it is that of some script. -/
def Stage.WorksByEdits (stage : Stage) : Prop :=
  ∃ script, stage = Stage.ofScript script

structure Stages.WorkByEdits (stages : Stages) : Prop where
  actual : stages.actual.WorksByEdits
  preflight : stages.preflight.WorksByEdits

def Chain.WorksByEdits (next : Chain) : Prop :=
  ∃ script, next = Chain.ofScript script

theorem Stage.worksByEdits_ofEdits (edits : List Edit) (refusal : Option Refusal) :
    (Stage.ofEdits edits refusal).WorksByEdits := by
  refine ⟨fun _ _ => .ofEdits edits refusal, ?_⟩
  funext request policy response
  rw [Stage.ofScript, Script.perform_ofEdits]
  rfl

theorem Chain.worksByEdits_ofEdits (edits : List Edit) (failure : Option TransportError) :
    (Chain.ofEdits edits failure).WorksByEdits := by
  refine ⟨fun _ => .ofEdits edits failure, ?_⟩
  funext request response
  rw [Chain.ofScript, Script.perform_ofEdits]
  rfl

structure Negotiation.Equiv (a b : Negotiation) : Prop where
  response : a.response.Equiv b.response
  written : a.written = b.written
  refusal : a.refusal = b.refusal

structure Delivery.Equiv (a b : Delivery) : Prop where
  response : a.response.Equiv b.response
  written : a.written = b.written
  failure : a.failure = b.failure

theorem Stage.WorksByEdits.equiv {stage : Stage} (byEdits : stage.WorksByEdits) (request : Request)
    (policy : Policy) {a b : Response} (same : a.Equiv b) :
    (stage request policy a).Equiv (stage request policy b) := by
  obtain ⟨script, rfl⟩ := byEdits
  have performed := (script request policy).perform_equiv same
  exact ⟨performed.response, performed.written, performed.result⟩

theorem Chain.WorksByEdits.equiv {next : Chain} (byEdits : next.WorksByEdits) (request : Request)
    {a b : Response} (same : a.Equiv b) : (next request a).Equiv (next request b) := by
  obtain ⟨script, rfl⟩ := byEdits
  have performed := (script request).perform_equiv same
  exact ⟨performed.response, performed.written, performed.result⟩

/-! ## Through a gate -/

/-- Two reports differ at most in the order of the headers they end with. -/
structure Report.Equiv (a b : Report) : Prop where
  result : a.result = b.result
  response : a.response.Equiv b.response
  attributes : a.attributes = b.attributes
  calls : a.calls = b.calls
  events : a.events = b.events

namespace Gate
variable {gate : Gate} {next : Chain} {a b : Response}

theorem ruling_equiv (byEdits : gate.services.stages.WorkByEdits) (policy : Policy)
    (request : Request) (same : a.Equiv b) :
    (gate.ruling policy request a).Equiv (gate.ruling policy request b) := by
  cases kind : gate.kindOf request with
  | actual =>
    rw [ruling_of_actual kind, ruling_of_actual kind]
    exact byEdits.actual.equiv _ _ same
  | preflight =>
    rw [ruling_of_preflight kind, ruling_of_preflight kind]
    exact byEdits.preflight.equiv _ _ same
  | other =>
    rw [ruling_of_other kind, ruling_of_other kind]
    exact ⟨same, rfl, rfl⟩

/-- A gate between handlers that work by edits reports alike on equal responses. -/
theorem intercept_equiv (byEdits : gate.services.stages.WorkByEdits)
    (nextByEdits : next.WorksByEdits) (request : Request) (same : a.Equiv b) :
    (gate.intercept request a next).Equiv (gate.intercept request b next) := by
  have ruled := fun policy => ruling_equiv byEdits policy request same
  have events : ∀ policy,
      gate.handlingEvents policy request a = gate.handlingEvents policy request b := by
    intro policy
    rw [handlingEvents, handlingEvents, (ruled policy).written]
  cases gate.way request a with
  | rejected rejection rejected =>
    rw [intercept_rejected rejected, intercept_rejected rejected]
    exact ⟨rfl, same.apply (.rejectTenant rejection), rfl, rfl, rfl⟩
  | dropped fault unavailable silent =>
    rw [intercept_dropped unavailable silent, intercept_dropped unavailable silent]
    exact ⟨rfl, same, rfl, rfl, rfl⟩
  | unavailable fault status unavailable told =>
    rw [intercept_unavailable unavailable told, intercept_unavailable unavailable told]
    exact ⟨rfl, same.apply (.refuse (.custom status policyUnavailable)), rfl, rfl, rfl⟩
  | refused policy refusal granted refused =>
    rw [intercept_refused granted refused,
      intercept_refused granted ((ruled policy).refusal.symm.trans refused)]
    exact ⟨rfl, (ruled policy).response.apply (.refuse refusal), rfl, rfl,
      congrArg (· ++ [.refused refusal]) (events policy)⟩
  | answered policy granted accepted preflight =>
    rw [intercept_answered granted accepted preflight,
      intercept_answered granted ((ruled policy).refusal.symm.trans accepted) preflight]
    exact ⟨rfl, (ruled policy).response, rfl, rfl, events policy⟩
  | forwarded policy granted accepted through =>
    have delivered : (gate.delivery policy request a next).Equiv
        (gate.delivery policy request b next) := nextByEdits.equiv _ (ruled policy).response
    rw [intercept_forwarded granted accepted through,
      intercept_forwarded granted ((ruled policy).refusal.symm.trans accepted) through]
    refine ⟨?_, delivered.response, rfl, rfl, ?_⟩
    · rw [Delivery.result, Delivery.result, delivered.failure]
    · rw [events policy, delivered.written]

end Gate

/-- Equality of responses is an equivalence that nothing done to a response can break or make show.
From two equal responses every list of edits gets the same answers and leaves equal responses, from
which the same is read; and a gate between handlers that work by edits ends a request in the same
way, with the same attributes, calls and log events, and leaves equal responses. -/
theorem Response.order_of_headers_never_shows :
    Equivalence Response.Equiv ∧
    (∀ a b : Response, a.Equiv b → ∀ edits, a.answers edits = b.answers edits ∧
      (a.applyAll edits).Equiv (b.applyAll edits) ∧
      (a.applyAll edits).ReadsAlike (b.applyAll edits)) ∧
    (∀ (gate : Gate) (next : Chain) (request : Request) (a b : Response),
      gate.services.stages.WorkByEdits → next.WorksByEdits → a.Equiv b →
      (gate.intercept request a next).Equiv (gate.intercept request b next)) := by
  refine ⟨⟨Equiv.refl, Equiv.symm, Equiv.trans⟩, ?_, ?_⟩
  · intro a b same edits
    have left := same.applyAll edits
    exact ⟨same.answers_eq edits, left, left.readsAlike⟩
  · intro gate next request a b stages chain same
    exact Gate.intercept_equiv stages chain request same

/-- Two responses with the same two headers, set in either order, and a stage that lets only those
requests go whose response has a `Vary` header already. -/
theorem Response.order_of_headers_never_shows_at_plainGate :
    let a : Response := applyAll ∅ [.header "Vary" "Origin", .header "X-Trace" "1"]
    let b : Response := applyAll ∅ [.header "X-Trace" "1", .header "Vary" "Origin"]
    let edits : List Edit := [.header "vary" "Accept", .readHeader "VARY"]
    let varying := Stage.ofScript fun _ _ => .make (.readHeader "vary") fun found =>
      .done (if found.isSome then none else some .invalidActual)
    let gate : Gate := { Gate.plainGate with
      services := { Gate.plainGate.services with stages := { actual := varying } } }
    let request : Request := { method := Method.get, origin := some "https://b.example" }
    let next := Chain.ofEdits [.write "served"] none
    a.Equiv b ∧ a ≠ b ∧ a.answers edits = b.answers edits ∧
      (gate.intercept request a next).Equiv (gate.intercept request b next) := by
  intro a b edits varying gate request next
  obtain ⟨-, edited, through⟩ := order_of_headers_never_shows
  have same : a.Equiv b := by decide
  have stages : gate.services.stages.WorkByEdits :=
    ⟨⟨_, rfl⟩, Stage.worksByEdits_ofEdits _ _⟩
  exact ⟨same, by decide, (edited a b same edits).1,
    through gate next request a b stages (Chain.worksByEdits_ofEdits _ _) same⟩

end OriginGate
