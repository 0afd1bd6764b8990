import ObservabilityLab.Evidence.Import
import ObservabilityLab.Regression.Schemas

/-!
# Source families

A trace is known by its platform, its project and its own identifier. The evidence id is made from
a text of the three, and the family of a regression case is such a text, so that two traces are told
apart exactly when their texts differ.

## Main definitions

* `sourceFamily`: the family that keeps the cases of one trace in one split
* `TraceSourceRef.identity`: what a trace is known by
* `pieces`: the pieces of some texts between separators

## Main results

* `joined_eq_iff`: joined texts agree exactly when their pieces do
* `source_identities_iff`: when two sources are told apart
-/

namespace ObservabilityLab

open Python

/-! ## Joined texts -/

/-- The texts of a list with a separator between them. -/
def joined (separator : Char) (first second third : String) : String :=
  first ++ separator.toString ++ second ++ separator.toString ++ third

/-- The pieces of three texts between separators. -/
def pieces (separator : Char) (first second third : String) : List (List Char) :=
  first.toList.splitOn separator ++ second.toList.splitOn separator ++
    third.toList.splitOn separator

section Joined

variable {separator : Char} {first second third first' second' third' : String}

theorem splitOn_joined : (joined separator first second third).toList.splitOn separator =
    pieces separator first second third := by
  have htext : (joined separator first second third).toList =
      first.toList ++ separator :: (second.toList ++ separator :: third.toList) := by
    simp [joined]
  rw [htext, List.splitOn_append_cons_self, List.splitOn_append_cons_self, pieces,
    List.append_assoc]

/-- The pieces of a text give it back. -/
theorem intercalate_splitOn_toList (separator : Char) (text : String) :
    [separator].intercalate (text.toList.splitOn separator) = text.toList :=
  List.intercalate_splitOn separator

/-- **Joined texts agree exactly when their pieces do.** -/
theorem joined_eq_iff : joined separator first second third =
      joined separator first' second' third' ↔
    pieces separator first second third = pieces separator first' second' third' := by
  constructor
  · intro h
    rw [← splitOn_joined, h, splitOn_joined]
  · intro h
    apply String.toList_inj.mp
    rw [← intercalate_splitOn_toList separator (joined separator first second third),
      splitOn_joined, h, ← splitOn_joined, intercalate_splitOn_toList]

end Joined

/-! ## Sources -/

/-- `text or default` -/
def textOr (text : Option String) (default : String) : String :=
  match text with
  | some given => if given = "" then default else given
  | none => default

/-- `source_family(case)` -/
def sourceFamily (case : RegressionCase) : String :=
  match case.evidenceRef with
  | none => "designed:" ++ case.caseId.str
  | some source =>
    source.platform ++ ":" ++ textOr source.project "-" ++ ":" ++ source.traceId

namespace TraceSourceRef

variable (source : TraceSourceRef)

/-- What a trace is known by: its platform, its project, and its own identifier. -/
def identity : String × Option String × String :=
  (source.platform, source.project, source.traceId)

/-- The text that the evidence id of a trace is made from. -/
def evidenceText : String := joined '|' source.platform (textOr source.project "") source.traceId

/-- The pieces of the evidence text: those of the platform, the project and the identifier. -/
def evidencePieces : List (List Char) :=
  pieces '|' source.platform (textOr source.project "") source.traceId

/-- The pieces of the family. -/
def familyPieces : List (List Char) :=
  pieces ':' source.platform (textOr source.project "-") source.traceId

theorem stableEvidenceId_eq [HashFunctions] :
    stableEvidenceId source = HashFunctions.uuid5 evidenceNamespace source.evidenceText := by
  have hproject : source.project.getD "" = textOr source.project "" := by
    cases source.project with
    | none => rfl
    | some project =>
      rw [textOr]
      split_ifs with h
      · exact h
      · rfl
  rw [stableEvidenceId, hproject]
  rfl

theorem sourceFamily_eq {case : RegressionCase} (h : case.evidenceRef = some source) :
    sourceFamily case = joined ':' source.platform (textOr source.project "-") source.traceId := by
  rw [sourceFamily, h]
  rfl

end TraceSourceRef

section Sources

variable [HashFunctions]

/-- **When two sources are told apart.** Evidence ids, where the hash tells their texts apart, and
families tell two sources apart unless the pieces of their platforms, projects and identifiers are
the same in the same order. -/
theorem source_identities_iff :
    (∀ a b : TraceSourceRef,
      Set.InjOn (HashFunctions.uuid5 evidenceNamespace) {a.evidenceText, b.evidenceText} →
      ((a.identity ≠ b.identity → stableEvidenceId a ≠ stableEvidenceId b) ↔
        (a.identity = b.identity ∨ a.evidencePieces ≠ b.evidencePieces))) ∧
    (∀ (case case' : RegressionCase) (a b : TraceSourceRef),
      case.evidenceRef = some a → case'.evidenceRef = some b →
      ((a.identity ≠ b.identity → sourceFamily case ≠ sourceFamily case') ↔
        (a.identity = b.identity ∨ a.familyPieces ≠ b.familyPieces))) := by
  constructor
  · intro a b hinj
    have hid : stableEvidenceId a = stableEvidenceId b ↔ a.evidencePieces = b.evidencePieces := by
      rw [a.stableEvidenceId_eq, b.stableEvidenceId_eq,
        hinj.eq_iff (Set.mem_insert _ _) (Set.mem_insert_of_mem _ (Set.mem_singleton _))]
      exact joined_eq_iff
    rw [Ne, Ne, Ne, hid]
    exact imp_iff_not_or.trans (or_congr_left not_not)
  · intro case case' a b ha hb
    have hfamily : sourceFamily case = sourceFamily case' ↔ a.familyPieces = b.familyPieces := by
      rw [a.sourceFamily_eq ha, b.sourceFamily_eq hb]
      exact joined_eq_iff
    rw [Ne, Ne, Ne, hfamily]
    exact imp_iff_not_or.trans (or_congr_left not_not)

end Sources

/-! ## An empty project -/

section Examples

attribute [local instance] constantHashes

/-- A trace of a project. -/
def sourceOf (project : Option String) : TraceSourceRef where
  platform := "langsmith"
  project := project
  traceId := "trace-1"

/-- A bundle of a trace. -/
def bundleOf (source : TraceSourceRef) : SimulationBundle :=
  { smallBundle "phase2-02-status" "status" (by decide) with
    evidenceRef := some source
    contentHash := some (.repeated 0) }

/-- A case of a trace. -/
def caseOf (source : TraceSourceRef) : RegressionCase where
  caseId := .repeated 2
  caseVersion := 1
  sourceType := .incident
  scenarioId := (bundleOf source).scenario.scenarioId
  bundle := bundleOf source
  bundleContentHash := .repeated 0
  evidenceRef := (bundleOf source).evidenceRef
  evidenceContentHash := (bundleOf source).evidenceContentHash
  configurationVersions := (bundleOf source).configurationVersions
  createdAt := ⟨"2026-02-01T00:00:00+00:00", rfl⟩
  versionPositive := Nat.one_pos
  hashMatches := rfl
  evidenceRefMatches := rfl
  evidenceHashMatches := rfl
  versionsMatch := rfl
  scenarioMatches := rfl

/-- **A trace without a project and one with an empty project** are taken for the same. -/
theorem same_identities_emptyProject :
    (sourceOf none).identity ≠ (sourceOf (some "")).identity ∧
      stableEvidenceId (sourceOf none) = stableEvidenceId (sourceOf (some "")) ∧
      sourceFamily (caseOf (sourceOf none)) = sourceFamily (caseOf (sourceOf (some ""))) := by
  refine ⟨by decide, ?_, rfl⟩
  rw [TraceSourceRef.stableEvidenceId_eq, TraceSourceRef.stableEvidenceId_eq]
  rfl

end Examples

section Projects

/-- Identifiers that tell one project from the others. -/
@[reducible] def projectHashes : HashFunctions where
  jsonSha256 _ := .repeated 0
  uuid5 _ name := .repeated (if name = "langsmith|alpha|trace-1" then 1 else 0)

attribute [local instance] projectHashes

/-- `source_identities_iff` on two projects. -/
theorem source_identities_iff_projects :
    stableEvidenceId (sourceOf (some "alpha")) ≠ stableEvidenceId (sourceOf (some "beta")) ∧
      sourceFamily (caseOf (sourceOf (some "alpha"))) ≠
        sourceFamily (caseOf (sourceOf (some "beta"))) := by
  have hdiffer : (sourceOf (some "alpha")).identity ≠ (sourceOf (some "beta")).identity := by
    decide
  constructor
  · refine (source_identities_iff.1 _ _ ?_).mpr (Or.inr (by decide +kernel)) hdiffer
    rw [Set.injOn_pair]
    intro hsame
    exact absurd hsame (by decide +kernel)
  · exact (source_identities_iff.2 _ _ _ _ rfl rfl).mpr (Or.inr (by decide +kernel)) hdiffer

end Projects

end ObservabilityLab
