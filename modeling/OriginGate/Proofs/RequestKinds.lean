import OriginGate.Request.Kind
import OriginGate.Text.Case

/-! What decides the kind of a request. A preflight is told by its method and by the presence of one
header, a request from its own address by one equation between texts, and whatever else a request
says has no part in its kind. -/
namespace OriginGate
variable {rule : KindRule} {request other : Request}

/-- A request announces another one if its method is OPTIONS, but for case, and the header that names
the method to come is there, with whatever value. -/
structure Request.Announces (request : Request) : Prop where
  method : Text.SameButCase request.method "OPTIONS"
  announced : request.requestMethod ≠ none

/-- The origin of a request is the address that the request was sent to. -/
def Request.NamesOwnAddress (request : Request) : Prop :=
  ∃ host, request.host = some host ∧ request.origin = some (request.scheme ++ "://" ++ host)

theorem Request.isPreflight_iff : request.isPreflight = true ↔ request.Announces := by
  rw [isPreflight, Bool.and_eq_true, Text.sameName_iff, Text.fold_eq_fold_iff,
    Option.isSome_iff_ne_none]
  exact ⟨fun both => ⟨both.1, both.2⟩, fun announces => ⟨announces.method, announces.announced⟩⟩

/-- Looking for an own origin in parts comes to one equation. -/
theorem Request.namesOwnAddress_iff :
    request.NamesOwnAddress ↔
      ∃ origin, request.origin = some origin ∧ request.isOwnOrigin origin = true := by
  simp only [Request.isOwnOrigin_iff, NamesOwnAddress]
  constructor
  · rintro ⟨host, named, sent⟩
    exact ⟨_, sent, host, named, rfl⟩
  · rintro ⟨origin, sent, host, named, rfl⟩
    exact ⟨host, named, sent⟩

namespace KindRule

theorem kindOf_eq_preflight_iff : rule.kindOf request = .preflight ↔ request.Announces := by
  rw [← Request.isPreflight_iff, kindOf]
  constructor
  · intro sorted
    by_contra unannounced
    rw [if_neg unannounced] at sorted
    split at sorted
    · cases sorted
    · split at sorted <;> cases sorted
  · exact fun announced => if_pos announced

theorem kindOf_eq_other_iff :
    rule.kindOf request = .other ↔
      ¬request.Announces ∧
        (request.origin = none ∨ rule.exemptOwnOrigin = true ∧ request.NamesOwnAddress) := by
  rw [← Request.isPreflight_iff, Request.namesOwnAddress_iff, kindOf]
  by_cases announced : request.isPreflight = true
  · simp [announced]
  · cases sent : request.origin with
    | none => simp [announced]
    | some origin => simp [announced]

theorem kindOf_eq_actual_iff :
    rule.kindOf request = .actual ↔
      ¬request.Announces ∧ request.origin ≠ none ∧
        ¬(rule.exemptOwnOrigin = true ∧ request.NamesOwnAddress) := by
  have neither : rule.kindOf request = .actual ↔
      rule.kindOf request ≠ .preflight ∧ rule.kindOf request ≠ .other := by
    cases rule.kindOf request <;> simp
  rw [neither, Ne, Ne, kindOf_eq_preflight_iff, kindOf_eq_other_iff]
  tauto

/-- All that counts of a request is its method, but for case, whether the announcing header is there,
the origin, and, where own origins are exempt, the address. -/
theorem kindOf_congr (method : Text.SameButCase other.method request.method)
    (announced : other.requestMethod.isSome = request.requestMethod.isSome)
    (origin : other.origin = request.origin)
    (address : rule.exemptOwnOrigin = true →
      other.scheme = request.scheme ∧ other.host = request.host) :
    rule.kindOf other = rule.kindOf request := by
  have preflight : other.isPreflight = request.isPreflight := by
    rw [Request.isPreflight, Request.isPreflight, Text.sameName, Text.sameName,
      Text.fold_eq_fold_iff.mpr method, announced]
  rw [kindOf, kindOf, preflight, origin]
  cases exempt : rule.exemptOwnOrigin with
  | false => simp only [Bool.false_and]
  | true =>
    obtain ⟨scheme, host⟩ := address exempt
    have own : other.isOwnOrigin = request.isOwnOrigin := by
      funext origin
      rw [Request.isOwnOrigin, Request.isOwnOrigin, scheme, host]
    rw [own]

/-- The exemption of own origins makes requests other that would be actual, and changes no more. -/
theorem kindOf_exempt_eq_or (request : Request) :
    ({ exemptOwnOrigin := true } : KindRule).kindOf request = request.kind ∨
      request.kind = .actual ∧ ({ exemptOwnOrigin := true } : KindRule).kindOf request = .other := by
  cases kind : request.kind with
  | preflight => exact .inl (kindOf_eq_preflight_iff.mpr (kindOf_eq_preflight_iff.mp kind))
  | other =>
    obtain ⟨unannounced, without | ⟨exempt, -⟩⟩ := kindOf_eq_other_iff.mp kind
    · exact .inl (kindOf_eq_other_iff.mpr ⟨unannounced, .inl without⟩)
    · cases exempt
  | actual =>
    obtain ⟨unannounced, sent, -⟩ := kindOf_eq_actual_iff.mp kind
    by_cases own : request.NamesOwnAddress
    · exact .inr ⟨rfl, kindOf_eq_other_iff.mpr ⟨unannounced, .inr ⟨rfl, own⟩⟩⟩
    · exact .inl (kindOf_eq_actual_iff.mpr ⟨unannounced, sent, fun exempt => own exempt.2⟩)

/-- A request is a preflight exactly if its method is OPTIONS, but for the case of its letters, all of
them in ASCII, and the header that names the method to come is there. Any other request is other
exactly if it has no origin, or if own origins are exempt and its origin is spelled `scheme://host`
of its own address; the rest are actual. So nothing else of a request counts, of the header that
names the method no more than that it is there, and the address only where own origins are exempt.
Their exemption makes none but actual requests other. -/
theorem kinds_are_decided_by_method_and_origin (rule : KindRule) (request : Request) :
    (rule.kindOf request = .preflight ↔
      Text.SameButCase request.method "OPTIONS" ∧ request.requestMethod ≠ none) ∧
    (rule.kindOf request = .preflight → ∀ letter ∈ request.method.toList, letter.toNat < 128) ∧
    (rule.kindOf request = .other ↔ rule.kindOf request ≠ .preflight ∧
      (request.origin = none ∨ rule.exemptOwnOrigin = true ∧ ∃ host, request.host = some host ∧
        request.origin = some (request.scheme ++ "://" ++ host))) ∧
    (rule.kindOf request = .actual ↔ rule.kindOf request ≠ .preflight ∧
      ∃ origin, request.origin = some origin ∧
        (rule.exemptOwnOrigin = true → ∀ host, request.host = some host →
          origin ≠ request.scheme ++ "://" ++ host)) ∧
    (∀ other : Request, Text.SameButCase other.method request.method →
      other.requestMethod.isSome = request.requestMethod.isSome → other.origin = request.origin →
      (rule.exemptOwnOrigin = true → other.scheme = request.scheme ∧ other.host = request.host) →
      rule.kindOf other = rule.kindOf request) ∧
    (({ exemptOwnOrigin := true } : KindRule).kindOf request ≠
        ({ exemptOwnOrigin := false } : KindRule).kindOf request →
      ({ exemptOwnOrigin := false } : KindRule).kindOf request = .actual ∧
        ({ exemptOwnOrigin := true } : KindRule).kindOf request = .other) ∧
    request.kind = ({ exemptOwnOrigin := false } : KindRule).kindOf request := by
  refine ⟨?_, ?_, ?_, ?_, ?_, ?_, rfl⟩
  · rw [kindOf_eq_preflight_iff]
    exact ⟨fun announces => ⟨announces.method, announces.announced⟩, fun both => ⟨both.1, both.2⟩⟩
  · intro preflight
    exact (kindOf_eq_preflight_iff.mp preflight).method.ascii (by simp)
  · rw [Ne, kindOf_eq_preflight_iff]
    exact kindOf_eq_other_iff
  · rw [Ne, kindOf_eq_preflight_iff, kindOf_eq_actual_iff]
    cases sent : request.origin with
    | none => simp
    | some origin => simp [Request.NamesOwnAddress, sent, not_and]
  · exact fun other method announced origin address => kindOf_congr method announced origin address
  · exact fun differs => (kindOf_exempt_eq_or request).resolve_left differs

/-- The header that names the method may be empty, and neither the letters' case nor the address has a
part in a preflight; a host may be spelled with a scheme of its own. -/
theorem kinds_are_decided_by_method_and_origin_of_options :
    ({} : KindRule).kindOf
        { method := "oPTIONs", scheme := "", requestMethod := some "", tenant := some "a.example" } =
      ({} : KindRule).kindOf { method := "OPTIONS", requestMethod := some "PUT" } ∧
    ({ exemptOwnOrigin := true } : KindRule).kindOf
        { method := "GET", host := some "a://b", origin := some "https://a://b" } = .other := by
  obtain ⟨-, -, -, -, alike, -, -⟩ := kinds_are_decided_by_method_and_origin {}
    { method := "OPTIONS", requestMethod := some "PUT" }
  obtain ⟨-, -, -, -, -, exempted, -⟩ := kinds_are_decided_by_method_and_origin {}
    { method := "GET", host := some "a://b", origin := some "https://a://b" }
  refine ⟨alike _ (by decide +kernel) rfl rfl (by simp), (exempted ?_).2⟩
  decide +kernel

end KindRule
end OriginGate
