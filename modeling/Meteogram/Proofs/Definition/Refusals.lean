import Meteogram.Proofs.Definition.Outputs

/-!
# Definitions that are refused

Whatever the words of definitions are, reading them gives outputs, or logs an error and
gives none, or a number in them cannot be read and a fault leaves the reading
(`parse_answers_or_refuses`). The numbers that have this effect are panels made of
digits that are no decimal ones, and infinite numbers in the place of whole ones
(`IsUnreadable`); that there are such texts is `unreadable_numbers_stop_reading`.
-/

set_option autoImplicit false

namespace Meteogram.Definition

open Text

variable {site : Site} {text : String}

/-- The number of values that statistics of a site average is read, if it is absent or a
whole number. -/
theorem not_isPeriodFault {standard : Int} (period : HasStandardPeriod site.settings standard)
    (fault : Fault) : ¬ IsPeriodFault site fault := by
  obtain ⟨value, number, found, whole, -⟩ := period
  rintro (missing | ⟨other, found', stopped⟩)
  · rw [found] at missing
    cases missing
  · obtain rfl := Except.ok.inj (found.symm.trans found')
    rw [whole] at stopped
    cases stopped

/-- Definitions are read, or they are refused with an error in the log as the last
message, or a number in them stops the reading. -/
theorem parse_answers_or_refuses {standard : Int} (period : HasStandardPeriod site.settings standard) :
    (∃ outputs, (parse site text).outcome = .ok (some outputs)) ∨
      ((parse site text).outcome = .ok none ∧
        ∃ flaw : Flaw, (parse site text).log.getLast? = some ⟨.error, flaw.message⟩) ∨
      ∃ fault, (parse site text).outcome = .error fault ∧ IsUnreadable (words text) fault := by
  have ends : Ends { rest := words text } (takeOutputs site) _ _ :=
    ends_takeOutputs (List.suffix_refl (words text))
  rw [Ends] at ends
  rw [parse]
  cases taken : takeOutputs site { rest := words text } with
  | ok outputs last => exact .inl ⟨outputs, rfl⟩
  | error stop last =>
    rw [taken] at ends
    cases stop with
    | flaw flaw => exact .inr (.inl ⟨rfl, flaw, List.getLast?_concat⟩)
    | fault fault =>
      refine .inr (.inr ⟨fault, rfl, ?_⟩)
      exact Or.resolve_right ends (not_isPeriodFault period fault)

/-! ## Texts that stop the reading -/

/-- A panel whose number is written with a digit that is not a decimal one. -/
def raisedPanelText : String :=
  "Chart A Title T ConnectsTo ² Plot Temperature EndChart"

/-- A zoom without an end. -/
def endlessZoomText : String :=
  "Chart A Title T Zoom inf Plot Temperature EndChart"

theorem outcome_raisedPanelText : (parse plainSite raisedPanelText).outcome = .error .invalidValue := by
  decide

theorem outcome_endlessZoomText : (parse plainSite endlessZoomText).outcome = .error .outOfRange := by
  decide

/-- Both texts stop the reading with a fault. -/
theorem unreadable_numbers_stop_reading :
    (parse plainSite raisedPanelText).outcome = .error .invalidValue ∧
      (parse plainSite endlessZoomText).outcome = .error .outOfRange :=
  ⟨outcome_raisedPanelText, outcome_endlessZoomText⟩

/-- What stops the reading of the first text is a number in it. -/
theorem raisedPanelText_isUnreadable :
    HasStandardPeriod plainSite.settings 5 ∧ IsUnreadable (words raisedPanelText) .invalidValue := by
  have period : HasStandardPeriod plainSite.settings 5 := hasStandardPeriod_plain
  have outcome := outcome_raisedPanelText
  refine ⟨period, ?_⟩
  rcases @parse_answers_or_refuses plainSite raisedPanelText _ period with
    ⟨outputs, read⟩ | ⟨refused, -⟩ | ⟨fault, stopped, unreadable⟩
  · rw [read] at outcome
    cases outcome
  · rw [refused] at outcome
    cases outcome
  · obtain rfl : fault = .invalidValue := Except.error.inj (stopped.symm.trans outcome)
    exact unreadable

end Meteogram.Definition
