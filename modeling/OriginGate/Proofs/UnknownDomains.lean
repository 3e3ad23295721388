import OriginGate.Tenant.Directory

/-! Which failures of a directory say that a domain is unknown. A failing user store always does. Of any
other failure it counts alone whether the mark stands somewhere in its message, spelled exactly so: a
message with the mark is not blank, and more text around it takes the mark out of none. -/
namespace OriginGate
variable {message : String}

/-! ## The mark in a message -/

/-- A message with the mark holds more than white space. -/
theorem exists_visible_of_mark (before after : String) :
    ∃ c ∈ (before ++ unknownDomainMark ++ after).toList, Text.isBlankChar c = false := by
  refine ⟨'I', ?_, by decide⟩
  simp [unknownDomainMark]

theorem not_isBlank_of_mark (before after : String) :
    Text.isBlank (before ++ unknownDomainMark ++ after) = false := by
  obtain ⟨c, member, visible⟩ := exists_visible_of_mark before after
  rw [← Bool.not_eq_true, Text.isBlank_iff]
  intro blank
  rw [blank c member] at visible
  cases visible

/-- Whether a message is blank has no part in what it says. -/
theorem saysUnknownDomain_eq (message : String) :
    saysUnknownDomain message = Text.isSubstring unknownDomainMark message := by
  rw [saysUnknownDomain]
  cases marked : Text.isSubstring unknownDomainMark message with
  | false => exact Bool.and_false _
  | true =>
    obtain ⟨before, after, rfl⟩ := Text.isSubstring_iff.mp marked
    rw [not_isBlank_of_mark]
    rfl

/-- A message says that a domain is unknown exactly if the mark stands somewhere in it. -/
theorem saysUnknownDomain_iff :
    saysUnknownDomain message = true ↔
      ∃ before after, message = before ++ unknownDomainMark ++ after := by
  rw [saysUnknownDomain_eq, Text.isSubstring_iff]

/-! ## What a failure is told as -/

namespace DirectoryFault
variable {fault : DirectoryFault} {domain : String}

/-- A failure that means that there is no such tenant: any of the user store, and any other whose
message has the mark somewhere. -/
def MeansUnknown : DirectoryFault → Prop
  | userStore _ => True
  | runtime message => ∃ before after, message = before ++ unknownDomainMark ++ after

theorem rejection_of_meansUnknown (unknown : fault.MeansUnknown) (domain : String) :
    fault.rejection domain = .inactive domain := by
  cases fault with
  | userStore message => rfl
  | runtime message => simp [rejection, saysUnknownDomain_iff.mpr unknown]

theorem rejection_of_not_meansUnknown (other : ¬fault.MeansUnknown) (domain : String) :
    fault.rejection domain = .lookupFailed domain := by
  cases fault with
  | userStore message => exact absurd trivial other
  | runtime message =>
    have unsaid : saysUnknownDomain message = false :=
      Bool.eq_false_iff.mpr fun said => other (saysUnknownDomain_iff.mp said)
    simp [rejection, unsaid]

theorem rejection_eq_inactive_iff : fault.rejection domain = .inactive domain ↔ fault.MeansUnknown := by
  by_cases unknown : fault.MeansUnknown
  · exact iff_of_true (rejection_of_meansUnknown unknown domain) unknown
  · rw [rejection_of_not_meansUnknown unknown]
    exact iff_of_false (by simp) unknown

theorem rejection_eq_lookupFailed_iff :
    fault.rejection domain = .lookupFailed domain ↔ ¬fault.MeansUnknown := by
  by_cases unknown : fault.MeansUnknown
  · rw [rejection_of_meansUnknown unknown]
    exact iff_of_false (by simp) (not_not_intro unknown)
  · exact iff_of_true (rejection_of_not_meansUnknown unknown domain) unknown

/-- A failure that means that a domain is unknown means so with more text around its message. -/
theorem MeansUnknown.surrounded (unknown : (runtime message).MeansUnknown) (front back : String) :
    (runtime (front ++ message ++ back)).MeansUnknown := by
  obtain ⟨before, after, rfl⟩ := unknown
  exact ⟨front ++ before, after ++ back, by simp only [String.append_assoc]⟩

/-- Every failure is told with the domain asked for, as one of two rejections. A failing user store
is told as an inactive tenant whatever it says. Any other failure is told so exactly if its message
holds the mark, with whatever stands before and behind it, and as a failed look-up otherwise. The
message may as well be searched without a look for white space, since with the mark in it there is
always a visible character; and no text put around a message takes an inactive tenant back. -/
theorem rejection_goes_by_mark (domain : String) :
    (∀ fault : DirectoryFault, (fault.rejection domain).domain = domain) ∧
    (∀ message, (userStore message).rejection domain = .inactive domain) ∧
    (∀ message, (runtime message).rejection domain = .inactive domain ↔
      ∃ before after, message = before ++ "Invalid tenant domain" ++ after) ∧
    (∀ message, (runtime message).rejection domain = .lookupFailed domain ↔
      ¬∃ before after, message = before ++ "Invalid tenant domain" ++ after) ∧
    (TenantRejection.inactive domain).status = 404 ∧
    (TenantRejection.lookupFailed domain).status = 500 ∧
    (∀ message, (runtime message).rejection domain =
      if Text.isSubstring "Invalid tenant domain" message then .inactive domain
      else .lookupFailed domain) ∧
    (∀ before after : String,
      Text.trim (before ++ "Invalid tenant domain" ++ after).toList ≠ [] ∧
        ∃ c ∈ (before ++ "Invalid tenant domain" ++ after).toList, Text.isBlankChar c = false) ∧
    ∀ message front back, (runtime message).rejection domain = .inactive domain →
      (runtime (front ++ message ++ back)).rejection domain = .inactive domain := by
  refine ⟨fun fault => fault.domain_rejection domain, fun message => rfl,
    fun message => rejection_eq_inactive_iff, fun message => rejection_eq_lookupFailed_iff, rfl, rfl,
    ?_, ?_, ?_⟩
  · intro message
    rw [rejection, saysUnknownDomain_eq]
    rfl
  · intro before after
    refine ⟨?_, exists_visible_of_mark before after⟩
    rw [Ne, ← List.isEmpty_iff, Bool.not_eq_true]
    exact not_isBlank_of_mark before after
  · intro message front back told
    exact rejection_of_meansUnknown ((rejection_eq_inactive_iff.mp told).surrounded front back) domain

/-- The mark is found behind a beginning of itself and with text around it, but not in small letters. -/
theorem rejection_goes_by_mark_behind_its_beginning :
    let message := "Invalid tenant Invalid tenant domain"
    (runtime message).rejection "a.example" = .inactive "a.example" ∧
      (runtime ("cause: " ++ message ++ "!")).rejection "a.example" = .inactive "a.example" ∧
      (runtime "invalid tenant domain").rejection "a.example" = .lookupFailed "a.example" := by
  intro message
  obtain ⟨-, -, -, -, -, -, told, -, surrounded⟩ := rejection_goes_by_mark "a.example"
  have inactive : (runtime message).rejection "a.example" = .inactive "a.example" :=
    (told message).trans (if_pos (by decide +kernel))
  refine ⟨inactive, surrounded message "cause: " "!" inactive, ?_⟩
  exact (told "invalid tenant domain").trans (if_neg (by decide +kernel))

end DirectoryFault
end OriginGate
