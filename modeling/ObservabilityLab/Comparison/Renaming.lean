import ObservabilityLab.Bundle.Reconstruction
import ObservabilityLab.Comparison.EvaluatorBounds

/-!
# Evaluators on synthetic identifiers

A bundle carries a reviewed expectation on synthetic identifiers. A replay that changes the same
state under the synthetic identifiers is judged exactly as the source run is.

## Main definitions

* `syntheticText`: the text that a recorded resource identifier becomes
* `RunMetrics.renamed`: a run on synthetic identifiers
* `onSyntheticIds`: a bundle with its expectation on synthetic identifiers

## Main results

* `matchesExpected_renamed`, `matchesPermitted_renamed`: the matchers do not see the renaming
* `renaming_preserves_verdicts`: neither do the verdicts of the two state evaluators
-/

namespace ObservabilityLab

open Python

section Renaming

variable [HashFunctions]

/-- The text of an identifier becomes the text of its synthetic identifier. Any other text names
no identifier and stays. -/
def syntheticText (text : String) : String :=
  match Uuid.parse text with
  | some id => if id.str = text then (syntheticId id).str else text
  | none => text

def StateMutation.renamed (mutation : StateMutation) : StateMutation :=
  { mutation with resourceId := syntheticText mutation.resourceId }

/-- A run whose mutations name synthetic identifiers. -/
def RunMetrics.renamed (metrics : RunMetrics) : RunMetrics :=
  { metrics with mutations := metrics.mutations.map StateMutation.renamed }

/-- A bundle that expects the same behavior on synthetic identifiers. -/
def onSyntheticIds (bundle : SimulationBundle) : SimulationBundle :=
  { bundle with expectedBehavior := safeExpectedBehavior bundle.expectedBehavior }

theorem syntheticText_str (id : Uuid) : syntheticText id.str = (syntheticId id).str := by
  simp only [syntheticText, Uuid.parse_str, if_true]

theorem syntheticText_of_ne {text : String} (h : ∀ id : Uuid, text ≠ id.str) :
    syntheticText text = text := by
  unfold syntheticText
  split
  · rename_i id _
    exact if_neg fun heq => h id heq.symm
  · rfl

/-- A renamed identifier names the renamed resource exactly when it named the resource. -/
theorem syntheticText_eq_iff (hinj : Function.Injective syntheticId) {text : String}
    {resourceId : Option Uuid} :
    syntheticText text = (resourceId.map syntheticId).elim "None" Uuid.str ↔
      text = resourceId.elim "None" Uuid.str := by
  by_cases htext : ∃ id : Uuid, text = id.str
  · obtain ⟨id, rfl⟩ := htext
    rw [syntheticText_str]
    cases resourceId with
    | none => exact iff_of_false (syntheticId id).str_ne_none id.str_ne_none
    | some other =>
      constructor
      · intro h
        rw [hinj (Uuid.str_injective h), Option.elim_some]
      · intro h
        rw [Uuid.str_injective h, Option.map_some, Option.elim_some]
  · have hne : ∀ id : Uuid, text ≠ id.str := fun id h => htext ⟨id, h⟩
    rw [syntheticText_of_ne hne]
    cases resourceId with
    | none => exact Iff.rfl
    | some other => exact iff_of_false (hne (syntheticId other)) (hne other)

/-! ## The matchers -/

theorem matchesExpected_renamed (hinj : Function.Injective syntheticId) (mutation : StateMutation)
    (transition : ExpectedStateTransition) :
    matchesExpected mutation.renamed (safeTransition transition) =
      matchesExpected mutation transition := by
  have hid : decide (mutation.renamed.resourceId = (safeTransition transition).resourceIdText) =
      decide (mutation.resourceId = transition.resourceIdText) :=
    decide_eq_decide.mpr (syntheticText_eq_iff hinj)
  unfold matchesExpected
  rw [hid]
  rfl

theorem matchesPermitted_renamed (hinj : Function.Injective syntheticId) (mutation : StateMutation)
    (transition : ExpectedStateTransition) :
    matchesPermitted mutation.renamed (safeTransition transition) =
      matchesPermitted mutation transition := by
  have hid : decide (mutation.renamed.resourceId = (safeTransition transition).resourceIdText) =
      decide (mutation.resourceId = transition.resourceIdText) :=
    decide_eq_decide.mpr (syntheticText_eq_iff hinj)
  unfold matchesPermitted
  dsimp only
  rw [hid]
  rfl

end Renaming

/-! ## The verdicts -/

section Verdicts

variable [UnicodeTables]

/-- Whether a result passes depends on the length of its reason alone. -/
theorem map_passed_verdictResult {passed : Bool} {name reason reason' : String}
    {measured measured' : Record} (h : reason.length = reason'.length) :
    (verdictResult passed name reason measured).map (·.passed) =
      (verdictResult passed name reason' measured').map (·.passed) := by
  have hlength : lengthWithin 1 1000 reason = lengthWithin 1 1000 reason' := by
    simp only [lengthWithin, h]
  simp only [verdictResult, EvaluatorResult.new, hlength]
  cases checkField (isEvaluatorName name) "EvaluatorResult" "evaluator" with
  | error e => rfl
  | ok u =>
    cases checkField (matchesVersion "1.0.0") "EvaluatorResult" "version" with
    | error e => rfl
    | ok u =>
      cases checkField (lengthWithin 1 1000 reason') "EvaluatorResult" "reason" with
      | error e => rfl
      | ok u => rfl

variable [HashFunctions]

omit [UnicodeTables] in
/-- The same expected transitions are missing, under the same texts. -/
theorem missingTransitions_renamed (hinj : Function.Injective syntheticId)
    (bundle : SimulationBundle) (metrics : RunMetrics) :
    missingTransitions (onSyntheticIds bundle) metrics.renamed =
      missingTransitions bundle metrics := by
  have hmissing : ∀ transition : ExpectedStateTransition,
      (!metrics.renamed.mutations.any fun mutation =>
          matchesExpected mutation (safeTransition transition)) =
        !metrics.mutations.any fun mutation => matchesExpected mutation transition := by
    intro transition
    rw [RunMetrics.renamed, List.any_map]
    simp only [Function.comp_def, matchesExpected_renamed hinj]
  simp only [missingTransitions, onSyntheticIds, safeExpectedBehavior, List.filter_map,
    List.map_map]
  simp only [Function.comp_def, hmissing]
  rfl

variable [FloatRepr]

/-- The mutations that no permitted transition matches. -/
def unpermitted (bundle : SimulationBundle) (metrics : RunMetrics) : List StateMutation :=
  metrics.mutations.filter fun mutation =>
    !bundle.expectedBehavior.permittedStateTransitions.any (matchesPermitted mutation)

omit [UnicodeTables] [FloatRepr] in
theorem unpermitted_renamed (hinj : Function.Injective syntheticId) (bundle : SimulationBundle)
    (metrics : RunMetrics) :
    unpermitted (onSyntheticIds bundle) metrics.renamed =
      (unpermitted bundle metrics).map StateMutation.renamed := by
  simp only [unpermitted, RunMetrics.renamed, onSyntheticIds, safeExpectedBehavior,
    List.filter_map, List.any_map, Function.comp_def, matchesPermitted_renamed hinj]

/-- The text of a renamed mutation is as long as the text of the mutation. -/
theorem length_reprText_renamed (mutation : StateMutation) :
    (reprText (mutationText mutation.renamed)).length =
      (reprText (mutationText mutation)).length := by
  by_cases htext : ∃ id : Uuid, mutation.resourceId = id.str
  · obtain ⟨id, hid⟩ := htext
    have hsplit : ∀ text : String,
        mutationText { mutation with resourceId := text } =
          (mutation.resource ++ ":") ++ text ++ (":" ++ mutation.field ++ " " ++
            mutation.before.repr ++ "->" ++ mutation.after.repr ++ " (" ++
            mutation.reasonCode ++ ")") := by
      intro text
      simp only [mutationText, String.append_assoc]
    have hrenamed : mutationText mutation.renamed =
        mutationText { mutation with resourceId := (syntheticId id).str } := by
      rw [StateMutation.renamed, hid, syntheticText_str]
    have hsource : mutationText mutation =
        mutationText { mutation with resourceId := id.str } := by
      rw [← hid]
    rw [hrenamed, hsource, hsplit, hsplit]
    refine length_reprText_replace (syntheticId id).str_bare id.str_bare ?_ _ _
    rw [Uuid.length_str, Uuid.length_str]
  · have hne : ∀ id : Uuid, mutation.resourceId ≠ id.str := fun id h => htext ⟨id, h⟩
    rw [StateMutation.renamed, syntheticText_of_ne hne]

theorem quotedListLength_renamed (mutations : List StateMutation) :
    quotedListLength ((mutations.map StateMutation.renamed).map mutationText) =
      quotedListLength (mutations.map mutationText) := by
  have helements : elementsLength
        (((mutations.map StateMutation.renamed).map mutationText).map reprText) =
      elementsLength ((mutations.map mutationText).map reprText) := by
    unfold elementsLength
    simp only [List.map_map]
    refine congrArg List.sum (List.map_congr_left fun mutation _ => ?_)
    exact congrArg (· + 2) (length_reprText_renamed mutation)
  simp only [quotedListLength, helements, List.map_eq_nil_iff]

/-- **Renaming identifiers preserves the verdicts of the state evaluators**: each one passes,
fails or raises on the synthetic identifiers exactly as on the source identifiers. -/
theorem renaming_preserves_verdicts (hinj : Function.Injective syntheticId)
    (bundle : SimulationBundle) (metrics : RunMetrics) :
    (checkStateTransitions (onSyntheticIds bundle) metrics.renamed).map (·.passed) =
        (checkStateTransitions bundle metrics).map (·.passed) ∧
      (checkUnexpectedStateChanges (onSyntheticIds bundle) metrics.renamed).map (·.passed) =
        (checkUnexpectedStateChanges bundle metrics).map (·.passed) := by
  constructor
  · unfold checkStateTransitions
    rw [missingTransitions_renamed hinj]
  · have hmutations : ∀ (b : SimulationBundle) (m : RunMetrics),
        unexpectedMutations b m = (unpermitted b m).map mutationText := fun _ _ => rfl
    unfold checkUnexpectedStateChanges
    dsimp only
    rw [hmutations, hmutations, unpermitted_renamed hinj]
    by_cases hnone : unpermitted bundle metrics = []
    · rw [hnone]
      rfl
    · rw [if_pos (by simpa using hnone), if_pos (by simpa using hnone)]
      refine map_passed_verdictResult ?_
      rw [String.length_append, String.length_append, length_reprList_map, length_reprList_map,
        quotedListLength_renamed]

end Verdicts

section Small

attribute [local instance] asciiTables oneDecimalRepr mirrorHashes

/-- A run that refunds an order that no transition names. -/
def strayRefund : RunMetrics where
  outcome := .completed
  reasonCode := .refundConfirmed
  intent := .refund
  mutations :=
    [{ sequence := 1
       resource := "order"
       resourceId := Uuid.str (.repeated 2)
       field := "status"
       before := .str "delivered"
       after := .str "refunded"
       reasonCode := "refund_executed" }]

theorem renaming_preserves_verdicts_strayRefund :
    let bundle := smallBundle "phase2-01-refund" "refund" (by decide)
    (checkStateTransitions (onSyntheticIds bundle) strayRefund.renamed).map (·.passed) =
        (checkStateTransitions bundle strayRefund).map (·.passed) ∧
      (checkUnexpectedStateChanges (onSyntheticIds bundle) strayRefund.renamed).map (·.passed) =
        (checkUnexpectedStateChanges bundle strayRefund).map (·.passed) :=
  renaming_preserves_verdicts syntheticId_mirror_injective _ _

end Small

end ObservabilityLab
