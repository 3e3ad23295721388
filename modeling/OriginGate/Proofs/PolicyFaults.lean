import OriginGate.Policy.Basic

/-! What a policy is refused for. Its methods come first, then the names of its header fields, then its
age, and of a list of names the first that is no token. Nothing else of a policy counts. -/
namespace OriginGate.Policy
variable {policy : Policy} {names : List String} {name : String}

/-- A name is the first of a list that is no token. -/
def FirstBad (names : List String) (name : String) : Prop :=
  ∃ before after, names = before ++ name :: after ∧ (∀ good ∈ before, Text.IsToken good) ∧
    ¬Text.IsToken name

theorem firstBadName?_eq_some_iff : firstBadName? names = some name ↔ FirstBad names name := by
  rw [firstBadName?, List.find?_eq_some_iff_append, Bool.not_eq_true', ← Bool.not_eq_true,
    Text.isToken_iff]
  constructor
  · rintro ⟨bad, before, after, shape, good⟩
    refine ⟨before, after, shape, fun earlier member => ?_, bad⟩
    exact Text.isToken_iff.mp (by simpa using good earlier member)
  · rintro ⟨before, after, shape, good, bad⟩
    refine ⟨bad, before, after, shape, fun earlier member => ?_⟩
    simpa using Text.isToken_iff.mpr (good earlier member)

/-- The first fault of a policy, in the order in which faults are told. -/
inductive FirstFault (policy : Policy) : SettingError → Prop where
  | method {name : String} (first : FirstBad policy.methods name) :
      FirstFault policy (.invalidMethod name)
  | header {name : String} (methods : ∀ name ∈ policy.methods, Text.IsToken name)
      (first : FirstBad (policy.requestHeaders ++ policy.exposedHeaders) name) :
      FirstFault policy (.invalidHeader name)
  | maxAge (methods : ∀ name ∈ policy.methods, Text.IsToken name)
      (headers : ∀ name ∈ policy.requestHeaders ++ policy.exposedHeaders, Text.IsToken name)
      (low : policy.maxAge < -1) : FirstFault policy (.invalidMaxAge policy.maxAge)

/-- The fault found is the first one. -/
theorem fault?_eq_some_iff {fault : SettingError} :
    policy.fault? = some fault ↔ policy.FirstFault fault := by
  constructor
  · intro found
    rw [fault?] at found
    cases methods : firstBadName? policy.methods with
    | some name =>
      rw [methods] at found
      cases found
      exact .method (firstBadName?_eq_some_iff.mp methods)
    | none =>
      have goodMethods := firstBadName?_eq_none_iff.mp methods
      rw [methods] at found
      cases headers : firstBadName? policy.headerNames with
      | some name =>
        rw [headers] at found
        cases found
        exact .header goodMethods (firstBadName?_eq_some_iff.mp headers)
      | none =>
        have goodHeaders := firstBadName?_eq_none_iff.mp headers
        rw [headers] at found
        obtain ⟨low, same⟩ := Option.ite_none_right_eq_some.mp found
        cases same
        exact .maxAge goodMethods goodHeaders low
  · intro first
    cases first with
    | method first => rw [fault?, firstBadName?_eq_some_iff.mpr first]
    | header methods first =>
      rw [fault?, firstBadName?_eq_none_iff.mpr methods, headerNames,
        firstBadName?_eq_some_iff.mpr first]
    | maxAge methods headers low =>
      rw [fault?, firstBadName?_eq_none_iff.mpr methods, headerNames,
        firstBadName?_eq_none_iff.mpr headers]
      exact if_pos low

theorem validate_eq_error_iff {fault : SettingError} :
    policy.validate = .error fault ↔ policy.FirstFault fault := by
  rw [← fault?_eq_some_iff, validate]
  cases policy.fault? <;> simp

theorem validate_congr {other : Policy} (methods : other.methods = policy.methods)
    (requestHeaders : other.requestHeaders = policy.requestHeaders)
    (exposedHeaders : other.exposedHeaders = policy.exposedHeaders)
    (maxAge : other.maxAge = policy.maxAge) : other.validate = policy.validate := by
  rw [validate, validate, fault?, fault?, headerNames, headerNames, methods, requestHeaders,
    exposedHeaders, maxAge]

/-- A policy is accepted exactly if its methods and the names of its header fields are tokens and its
age is at least -1. Otherwise it is refused for the first method that is no token; if there is none,
for the first of its header names, those of requests before those of responses; and if there is none
either, for its age. Whether a text is a token is tested on its bytes, and told by its characters:
one outside ASCII disqualifies it wherever it stands. The other fields of a policy never matter. -/
theorem first_fault_is_told (policy : Policy) :
    (policy.validate = .ok () ↔
      (∀ name ∈ policy.methods, Text.IsToken name) ∧
      (∀ name ∈ policy.requestHeaders, Text.IsToken name) ∧
      (∀ name ∈ policy.exposedHeaders, Text.IsToken name) ∧ -1 ≤ policy.maxAge) ∧
    (∀ name, policy.validate = .error (.invalidMethod name) ↔ FirstBad policy.methods name) ∧
    (∀ name, policy.validate = .error (.invalidHeader name) ↔
      (∀ method ∈ policy.methods, Text.IsToken method) ∧
        FirstBad (policy.requestHeaders ++ policy.exposedHeaders) name) ∧
    (∀ seconds, policy.validate = .error (.invalidMaxAge seconds) ↔
      (∀ method ∈ policy.methods, Text.IsToken method) ∧
        (∀ name ∈ policy.requestHeaders ++ policy.exposedHeaders, Text.IsToken name) ∧
        seconds = policy.maxAge ∧ seconds < -1) ∧
    (∀ status, policy.validate ≠ .error (.faultStatus status)) ∧
    (∀ text, (!text.isEmpty && text.toUTF8.data.toList.all Text.isTokenByte) = true ↔
      Text.IsToken text) ∧
    (∀ text, Text.IsToken text → ∀ c ∈ text.toList, c.toNat < 128) ∧
    ∀ other : Policy, other.methods = policy.methods →
      other.requestHeaders = policy.requestHeaders →
      other.exposedHeaders = policy.exposedHeaders → other.maxAge = policy.maxAge →
      other.validate = policy.validate := by
  simp only [validate_eq_error_iff, ne_eq]
  refine ⟨?_, ?_, ?_, ?_, ?_, fun text => Text.isToken_iff, ?_, fun other => validate_congr⟩
  · rw [validate_eq_ok_iff, Valid, headerNames, List.forall_mem_append, and_assoc]
  · exact fun name => ⟨fun | .method first => first, .method⟩
  · exact fun name => ⟨fun | .header methods first => ⟨methods, first⟩,
      fun ⟨methods, first⟩ => .header methods first⟩
  · intro seconds
    constructor
    · rintro (_ | _ | ⟨methods, headers, low⟩)
      exact ⟨methods, headers, rfl, low⟩
    · rintro ⟨methods, headers, rfl, low⟩
      exact .maxAge methods headers low
  · rintro status ⟨⟩
  · exact fun text token c member => Text.lt_of_isTokenChar (token.2 c member)

/-- Of two bad header names and a bad age the first name is told, whatever origins are allowed. -/
theorem first_fault_is_told_of_bad_header :
    let policy : Policy :=
      { requestHeaders := ["X-Trace"], exposedHeaders := ["naïve", ""], maxAge := -2 }
    policy.validate = .error (.invalidHeader "naïve") ∧
      ({ policy with allowedOrigins := ["a b"] } : Policy).validate = policy.validate ∧
      ∀ c ∈ "X-Trace".toList, c.toNat < 128 := by
  intro policy
  obtain ⟨-, -, header, -, -, -, ascii, others⟩ := first_fault_is_told policy
  have token : Text.IsToken "X-Trace" := by decide +kernel
  have first : FirstBad (policy.requestHeaders ++ policy.exposedHeaders) "naïve" :=
    ⟨["X-Trace"], [""], rfl, by simpa using token, by decide +kernel⟩
  exact ⟨(header "naïve").mpr ⟨by decide +kernel, first⟩, others _ rfl rfl rfl rfl,
    ascii "X-Trace" token⟩

end OriginGate.Policy
