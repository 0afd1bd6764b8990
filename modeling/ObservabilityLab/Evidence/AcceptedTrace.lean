import ObservabilityLab.Evidence.TypedErrors
import ObservabilityLab.Library.ParentForest

/-!
# What an accepted trace is

The events of an accepted trace are those of the runs in their order, with what the allowlist keeps
of their attributes, and every key and error text that is not kept is recorded. The events are a
tree whose parents come first, unless a run names itself as its parent.

## Main definitions

* `EventOf`: the event of a run, with the keys that were dropped
* `WellFormedTrace`: a trace whose events are those of the runs and a tree, parents first

## Main results

* `toEvent_eq_ok`, `checkEvents_eq_ok`: what one run becomes, and what the validator checks
* `normalizeRuns_wellFormed_iff`: an accepted trace is well formed when no run is its own parent
-/

namespace ObservabilityLab

open Python

/-! ## One run -/

/-- **The event of a run**: its own identifiers and times, and the allowlisted ones of its
attributes; what is not kept is among the dropped keys. -/
structure EventOf (dropped : List String) (run : SourceRun) (event : TraceEvent) : Prop where
  eventId : event.eventId = run.runId
  name : event.name = run.name
  parentId : event.parentId = run.parentId
  startTime : event.startTime = run.startTime
  endTime : event.endTime = run.endTime
  errorCode : event.errorCode = run.error.filter isStableCode
  attributes : ∀ entry ∈ event.attributes,
    entry.1 ∈ traceAttributeAllowlist ∧ (entry.1, entry.2.toPy) ∈ run.attributes
  droppedKeys : ∀ entry ∈ run.attributes, entry.1 ∉ event.attributes.map (·.1) → entry.1 ∈ dropped
  droppedError : ∀ error ∈ run.error, isStableCode error = false → "error" ∈ dropped

theorem EventOf.mono {dropped others : List String} {run : SourceRun} {event : TraceEvent}
    (h : EventOf dropped run event) (hsubset : dropped ⊆ others) : EventOf others run event :=
  { h with
    droppedKeys := fun entry hentry hkept => hsubset (h.droppedKeys entry hentry hkept)
    droppedError := fun error herror hcode => hsubset (h.droppedError error herror hcode) }

theorem toPy_of_keptScalar {value : PyValue} {scalar : Scalar}
    (h : keptScalar value = some scalar) :
    scalar.toPy = value := by
  have hof := (Option.filter_eq_some_iff.mp h).1
  cases value <;> simp_all [Scalar.ofPy] <;> subst hof <;> rfl

section Trace

variable [UnicodeTables]

/-- What is kept of the attributes of a run, and what is dropped. -/
theorem allowlistedAttributes_eq_ok {runId : String} {attributes : Record} {clean : Attributes}
    {dropped : List String} (h : allowlistedAttributes runId attributes = .ok (clean, dropped)) :
    (∀ entry ∈ clean, entry.1 ∈ traceAttributeAllowlist ∧ (entry.1, entry.2.toPy) ∈ attributes) ∧
      ∀ entry ∈ attributes, entry.1 ∉ clean.map (·.1) → entry.1 ∈ dropped := by
  induction attributes generalizing clean dropped with
  | nil =>
    obtain ⟨rfl, rfl⟩ := Prod.mk.inj (Except.ok.inj h)
    exact ⟨fun _ hentry => absurd hentry List.not_mem_nil,
      fun _ hentry => absurd hentry List.not_mem_nil⟩
  | cons entry attributes ih =>
    obtain ⟨key, value⟩ := entry
    unfold allowlistedAttributes at h
    by_cases hallowed : key ∈ traceAttributeAllowlist
    · rw [if_pos hallowed] at h
      obtain ⟨⟨kept, rest⟩, hrest, h⟩ := bind_eq_ok.mp h
      obtain ⟨hkept, hdropped⟩ := ih hrest
      -- a value that is no scalar is dropped even under an allowed key
      cases hscalar : keptScalar value with
      | some scalar =>
        simp only [hscalar] at h
        obtain ⟨rfl, rfl⟩ := Prod.mk.inj (Except.ok.inj h)
        constructor
        · rw [List.forall_mem_cons]
          refine ⟨⟨hallowed, ?_⟩, ?_⟩
          · rw [toPy_of_keptScalar hscalar]
            exact List.mem_cons_self
          · intro entry hentry
            exact ⟨(hkept entry hentry).1, List.mem_cons_of_mem _ (hkept entry hentry).2⟩
        · rw [List.forall_mem_cons]
          refine ⟨fun hnot => absurd List.mem_cons_self hnot, ?_⟩
          intro entry hentry hnot
          exact hdropped entry hentry fun hmem => hnot (List.mem_cons_of_mem _ hmem)
      | none =>
        simp only [hscalar] at h
        obtain ⟨rfl, rfl⟩ := Prod.mk.inj (Except.ok.inj h)
        constructor
        · intro entry hentry
          exact ⟨(hkept entry hentry).1, List.mem_cons_of_mem _ (hkept entry hentry).2⟩
        · rw [List.forall_mem_cons]
          refine ⟨fun _ => List.mem_cons_self, ?_⟩
          intro entry hentry hnot
          exact List.mem_cons_of_mem _ (hdropped entry hentry hnot)
    · rw [if_neg hallowed] at h
      obtain ⟨-, h⟩ := check_bind_eq_ok.mp h
      obtain ⟨⟨kept, rest⟩, hrest, h⟩ := bind_eq_ok.mp h
      obtain ⟨hkept, hdropped⟩ := ih hrest
      obtain ⟨rfl, rfl⟩ := Prod.mk.inj (Except.ok.inj h)
      constructor
      · intro entry hentry
        exact ⟨(hkept entry hentry).1, List.mem_cons_of_mem _ (hkept entry hentry).2⟩
      · rw [List.forall_mem_cons]
        refine ⟨fun _ => List.mem_cons_self, ?_⟩
        intro entry hentry hnot
        exact List.mem_cons_of_mem _ (hdropped entry hentry hnot)

omit [UnicodeTables] in
theorem sanitizeError_eq (error : Option String) :
    (sanitizeError error).1 = error.filter isStableCode ∧
      ∀ text ∈ error, isStableCode text = false → "error" ∈ (sanitizeError error).2 := by
  cases error with
  | none => exact ⟨rfl, fun _ h => absurd h (Option.not_mem_none _)⟩
  | some text =>
    unfold sanitizeError
    dsimp only
    by_cases hcode : isStableCode text = true
    · rw [if_pos hcode]
      refine ⟨(Option.filter_some_pos hcode).symm, ?_⟩
      intro other hother hunstable
      obtain rfl := Option.some.inj hother
      rw [hcode] at hunstable
      cases hunstable
    · rw [if_neg hcode]
      rw [Bool.not_eq_true] at hcode
      exact ⟨(Option.filter_some_neg hcode).symm, fun _ _ _ => List.mem_cons_self⟩

/-- **What one run becomes.** -/
theorem toEvent_eq_ok {run : SourceRun} {event : TraceEvent} {dropped : List String}
    (h : toEvent run = .ok (event, dropped)) : EventOf dropped run event := by
  unfold toEvent at h
  obtain ⟨⟨attributes, droppedKeys⟩, hattributes, h⟩ := bind_eq_ok.mp h
  obtain ⟨duration, -, h⟩ := bind_eq_ok.mp h
  obtain ⟨hcode, hdroppedError⟩ := sanitizeError_eq run.error
  obtain ⟨event', hnew, h⟩ := bind_eq_ok.mp h
  obtain ⟨rfl, rfl⟩ := Prod.mk.inj (Except.ok.inj h)
  obtain ⟨hkept, hdropped⟩ := allowlistedAttributes_eq_ok hattributes
  unfold TraceEvent.new at hnew
  split_ifs at hnew
  obtain rfl := Except.ok.inj hnew
  refine ⟨rfl, rfl, rfl, rfl, rfl, hcode, hkept, ?_, ?_⟩
  · intro entry hentry hnot
    exact List.mem_append_left _ (hdropped entry hentry hnot)
  · intro error herror hunstable
    exact List.mem_append_right _ (hdroppedError error herror hunstable)

/-! ## The validator -/

/-- The parent of an event among the events, which does not start after it. -/
def ParentOf (parent event : TraceEvent) : Prop :=
  event.parentId = some parent.eventId ∧ isBefore event.startTime parent.startTime = .ok false

omit [UnicodeTables] in
/-- The check of the parent of an event. -/
theorem parentCheck_eq_ok {seen : List TraceEvent} {event : TraceEvent} {isRoot : Bool}
    {unknown early : String → PyError}
    (h : (match event.parentId with
      | none => pure true
      | some parentId =>
        match (event :: seen).find? fun other => other.eventId = parentId with
        | none => .error (unknown parentId)
        | some parent => do
          let startsEarly ← isBefore event.startTime parent.startTime
          raiseIf startsEarly (early parentId)
          return false : Raises Bool) = .ok isRoot) :
    isRoot = event.parentId.isNone ∧
      (event.parentId = none ∨ ∃ parent ∈ event :: seen, ParentOf parent event) := by
  cases hparent : event.parentId with
  | none =>
    rw [hparent] at h
    exact ⟨(Except.ok.inj h).symm, Or.inl rfl⟩
  | some parentId =>
    rw [hparent] at h
    dsimp only at h
    cases hfind : (event :: seen).find? (·.eventId = parentId) with
    | none =>
      rw [hfind] at h
      cases h
    | some parent =>
      rw [hfind] at h
      obtain ⟨startsEarly, hearly, h⟩ := bind_eq_ok.mp h
      obtain ⟨hnot, h⟩ := check_bind_eq_ok.mp h
      rw [raiseIf_eq_ok] at hnot
      subst hnot
      refine ⟨(Except.ok.inj h).symm, Or.inr ⟨parent, List.mem_of_find?_eq_some hfind, ?_, hearly⟩⟩
      rw [hparent, of_decide_eq_true (List.find?_some hfind :)]

theorem checkEvent_eq_ok {seen : List TraceEvent} {event : TraceEvent} {isRoot : Bool}
    (h : checkEvent seen event = .ok isRoot) :
    isRoot = event.parentId.isNone ∧
      (event.parentId = none ∨ ∃ parent ∈ event :: seen, ParentOf parent event) := by
  unfold checkEvent at h
  obtain ⟨-, h⟩ := check_bind_eq_ok.mp h
  dsimp only at h
  split at h
  all_goals
    obtain ⟨endsEarly, -, h⟩ := bind_eq_ok.mp h
    obtain ⟨-, h⟩ := check_bind_eq_ok.mp h
    obtain ⟨-, h⟩ := check_bind_eq_ok.mp h
    exact parentCheck_eq_ok h

/-- **What the validator checks**: it counts the roots, and every other event has a parent that is
itself or comes before it. -/
theorem checkEvents_eq_ok {seen events : List TraceEvent} {roots : ℕ}
    (h : checkEvents seen events = .ok roots) :
    roots = events.countP (·.parentId.isNone) ∧
      ∀ before event after, events = before ++ event :: after →
        event.parentId = none ∨ ∃ parent, (parent = event ∨ parent ∈ before ∨ parent ∈ seen) ∧
          ParentOf parent event := by
  induction events generalizing seen roots with
  | nil =>
    obtain rfl := Except.ok.inj h
    refine ⟨rfl, ?_⟩
    intro before event after hsplit
    exact absurd hsplit.symm (List.append_ne_nil_of_right_ne_nil _ (List.cons_ne_nil _ _))
  | cons first events ih =>
    unfold checkEvents at h
    obtain ⟨isRoot, hfirst, h⟩ := bind_eq_ok.mp h
    obtain ⟨rest, hevents, h⟩ := bind_eq_ok.mp h
    obtain rfl := Except.ok.inj h
    obtain ⟨rfl, hparent⟩ := checkEvent_eq_ok hfirst
    obtain ⟨rfl, hparents⟩ := ih hevents
    constructor
    · rw [List.countP_cons]
      cases first.parentId.isNone <;> rfl
    · intro before event after hsplit
      rcases List.cons_eq_append_iff.mp hsplit with ⟨rfl, hcons⟩ | ⟨before, rfl, hrest⟩
      · obtain ⟨rfl, -⟩ := List.cons.inj hcons
        rcases hparent with hnone | ⟨parent, hmem, hof⟩
        · exact Or.inl hnone
        · rcases List.mem_cons.mp hmem with rfl | hmem
          · exact Or.inr ⟨parent, Or.inl rfl, hof⟩
          · exact Or.inr ⟨parent, Or.inr (Or.inr hmem), hof⟩
      · rcases hparents before event after hrest with hnone | ⟨parent, hmem, hof⟩
        · exact Or.inl hnone
        · refine Or.inr ⟨parent, ?_, hof⟩
          rcases hmem with rfl | hmem | hmem
          · exact Or.inl rfl
          · exact Or.inr (Or.inl (List.mem_cons_of_mem _ hmem))
          · rcases List.mem_cons.mp hmem with rfl | hmem
            · exact Or.inr (Or.inl List.mem_cons_self)
            · exact Or.inr (Or.inr hmem)

/-! ## Accepted traces -/

section Events

omit [UnicodeTables]

variable {dropped : List String} {runs : List SourceRun} {events : List TraceEvent}

theorem eventIds_eq (h : List.Forall₂ (EventOf dropped) runs events) :
    events.map (·.eventId) = runs.map (·.runId) := by
  induction h with
  | nil => rfl
  | cons hhead _ ih => rw [List.map_cons, List.map_cons, hhead.eventId, ih]

/-- Every event is that of a run. -/
theorem exists_run_of_mem (h : List.Forall₂ (EventOf dropped) runs events) {event : TraceEvent}
    (hevent : event ∈ events) : ∃ run ∈ runs, EventOf dropped run event := by
  induction h with
  | nil => exact absurd hevent List.not_mem_nil
  | cons hhead _ ih =>
    rcases List.mem_cons.mp hevent with rfl | hevent
    · exact ⟨_, List.mem_cons_self, hhead⟩
    · obtain ⟨run, hrun, hof⟩ := ih hevent
      exact ⟨run, List.mem_cons_of_mem _ hrun, hof⟩

/-- Every run has an event. -/
theorem exists_event_of_mem (h : List.Forall₂ (EventOf dropped) runs events) {run : SourceRun}
    (hrun : run ∈ runs) : ∃ event ∈ events, EventOf dropped run event := by
  induction h with
  | nil => exact absurd hrun List.not_mem_nil
  | cons hhead _ ih =>
    rcases List.mem_cons.mp hrun with rfl | hrun
    · exact ⟨_, List.mem_cons_self, hhead⟩
    · obtain ⟨event, hevent, hof⟩ := ih hrun
      exact ⟨event, List.mem_cons_of_mem _ hevent, hof⟩

end Events

/-- **A well-formed trace of the runs.** -/
structure WellFormedTrace (runs : List SourceRun) (trace : NormalizedTrace) : Prop where
  events : List.Forall₂ (EventOf trace.redaction.droppedKeys) runs trace.events
  insensitive : ∀ run ∈ runs, ¬ run.HasSensitiveKey
  oneRoot : trace.events.countP (·.parentId.isNone) = 1
  parentsFirst : ParentsFirst
    (fun event : TraceEvent => event.parentId = none) ParentOf trace.events
  reachesRoot : ∀ event ∈ trace.events, ∃ root ∈ trace.events, root.parentId = none ∧
    Relation.ReflTransGen ParentOf root event

variable [NumberTexts] [HashFunctions] [ValidationTexts]

omit [UnicodeTables] [NumberTexts] [HashFunctions] in
theorem guarded_eq_ok {α : Type} {x : Raises α} {a : α} (h : guarded x = .ok a) : x = .ok a := by
  cases x with
  | ok b => exact h
  | error error => cases h

omit [NumberTexts] [HashFunctions] [ValidationTexts] in
theorem NormalizedTrace.eq_of_new {fields : TraceFields} {trace : NormalizedTrace}
    (h : NormalizedTrace.new fields = .ok trace) : trace.toTraceFields = fields := by
  unfold NormalizedTrace.new at h
  split at h
  · obtain rfl := Except.ok.inj h
    rfl
  · cases h

omit [ValidationTexts] in
/-- The events of a trace that is built, and the keys that it says were dropped. -/
theorem buildEvidence_eq_ok {events : List TraceEvent} {first root : SourceRun}
    {droppedKeys : List String} {args : NormalizeArguments} {trace : NormalizedTrace}
    (h : buildEvidence events first root droppedKeys args = .ok trace) :
    trace.events = events ∧ trace.redaction.droppedKeys = uniqueKeys droppedKeys := by
  unfold buildEvidence at h
  obtain ⟨event, -, h⟩ := bind_eq_ok.mp h
  obtain ⟨outcome, -, h⟩ := bind_eq_ok.mp h
  obtain ⟨source, -, h⟩ := bind_eq_ok.mp h
  obtain ⟨model, -, h⟩ := bind_eq_ok.mp h
  obtain ⟨retryCount, -, h⟩ := bind_eq_ok.mp h
  obtain ⟨policyDecisions, -, h⟩ := bind_eq_ok.mp h
  obtain ⟨timing, -, h⟩ := bind_eq_ok.mp h
  obtain ⟨tokens, -, h⟩ := bind_eq_ok.mp h
  obtain ⟨dependencyCalls, -, h⟩ := bind_eq_ok.mp h
  have hfields := NormalizedTrace.eq_of_new h
  rw [hfields]
  exact ⟨rfl, rfl⟩

omit [NumberTexts] [HashFunctions] [ValidationTexts] in
theorem NormalizedTrace.checkEvents (trace : NormalizedTrace) :
    checkEvents [] trace.events = .ok 1 := by
  have hchecked := trace.checked
  simp only [TraceFields.check, TraceFields.validateEventTree, check_bind_eq_ok] at hchecked
  obtain ⟨-, -, -, -, -, -, -, h⟩ := hchecked
  obtain ⟨roots, hroots, h⟩ := bind_eq_ok.mp h
  rw [raiseIf_eq_ok, decide_eq_false_iff_not, not_not] at h
  rw [hroots, h]

variable {runs : List SourceRun} {args : NormalizeArguments} {trace : NormalizedTrace}

/-- **An accepted trace has the events of the runs**, which passed the checks of their structure. -/
theorem normalizeRuns_eq_ok (h : normalizeRuns runs args = .ok trace) :
    WellStructured runs ∧ (∀ run ∈ runs, ¬ run.HasSensitiveKey) ∧
      List.Forall₂ (EventOf trace.redaction.droppedKeys) runs trace.events := by
  unfold normalizeRuns at h
  obtain ⟨hchecks, h⟩ := check_bind_eq_ok.mp h
  obtain ⟨entries, hentries, h⟩ := bind_eq_ok.mp h
  refine ⟨checkRuns_eq_ok.mp hchecks, ?_, ?_⟩
  · intro run hrun hsensitive
    obtain ⟨index, hindex⟩ := List.mem_iff_getElem?.mp hrun
    obtain ⟨entry, -, hentry⟩ := getElem?_of_mapM hentries hindex
    rcases toEvent_cases run with ⟨-, error, herror, -⟩ | ⟨hnone, -⟩ | ⟨hnone, -⟩
    · rw [hentry] at herror
      cases herror
    · exact hnone hsensitive
    · exact hnone hsensitive
  · split at h
    · obtain ⟨hevents, hdropped⟩ := buildEvidence_eq_ok (guarded_eq_ok h)
      obtain ⟨hlength, hzip⟩ := List.forall₂_iff_zip.mp (forall₂_of_mapM hentries)
      rw [hevents, List.forall₂_map_right_iff]
      refine List.forall₂_iff_zip.mpr ⟨hlength, fun {run entry} hmem => ?_⟩
      apply (toEvent_eq_ok (hzip hmem)).mono
      intro key hkey
      rw [hdropped, mem_uniqueKeys]
      exact List.mem_flatten.mpr
        ⟨entry.2, List.mem_map_of_mem (List.of_mem_zip hmem).2, hkey⟩
    · cases h

/-- **Without a run that is its own parent, an accepted trace is well formed.** -/
theorem wellFormed_of_noSelfParent (h : normalizeRuns runs args = .ok trace)
    (hself : ∀ run ∈ runs, run.parentId ≠ some run.runId) : WellFormedTrace runs trace := by
  obtain ⟨-, hinsensitive, hevents⟩ := normalizeRuns_eq_ok h
  obtain ⟨hroots, hparents⟩ := checkEvents_eq_ok trace.checkEvents
  have hfirst : ParentsFirst (fun event : TraceEvent => event.parentId = none) ParentOf
      trace.events := by
    intro before event after hsplit
    rcases hparents before event after hsplit with hnone | ⟨parent, rfl | hbefore | hseen, hof⟩
    · exact Or.inl hnone
    · obtain ⟨run, hrun, hevent⟩ := exists_run_of_mem hevents
        (hsplit ▸ List.mem_append_right _ List.mem_cons_self)
      refine absurd ?_ (hself run hrun)
      rw [← hevent.parentId, ← hevent.eventId]
      exact hof.1
    · exact Or.inr ⟨parent, hbefore, hof⟩
    · exact absurd hseen List.not_mem_nil
  refine ⟨hevents, hinsensitive, hroots.symm, hfirst, ?_⟩
  intro event hevent
  exact hfirst.reaches_root hevent

/-- **A well-formed trace has no run that is its own parent.** -/
theorem noSelfParent_of_wellFormed (h : normalizeRuns runs args = .ok trace)
    (hwell : WellFormedTrace runs trace) : ∀ run ∈ runs, run.parentId ≠ some run.runId := by
  intro run hrun hself
  obtain ⟨event, hevent, hof⟩ := exists_event_of_mem hwell.events hrun
  obtain ⟨before, after, hsplit⟩ := List.append_of_mem hevent
  have hparent : event.parentId = some event.eventId := by rw [hof.parentId, hof.eventId, hself]
  rcases hwell.parentsFirst before event after hsplit with hnone | ⟨parent, hbefore, hparentOf⟩
  · rw [hparent] at hnone
    cases hnone
  · -- The parent comes before the event and has its identifier.
    have hsame : parent.eventId = event.eventId :=
      Option.some.inj (hparentOf.1.symm.trans hparent)
    have hnodup : (trace.events.map (·.eventId)).Nodup := by
      rw [eventIds_eq hwell.events]
      exact (normalizeRuns_eq_ok h).1.distinct
    rw [hsplit, List.map_append, List.map_cons] at hnodup
    exact (List.nodup_append.mp hnodup).2.2 _ (List.mem_map_of_mem hbefore) _ List.mem_cons_self
      hsame

/-- **An accepted trace is well formed exactly when no run names itself as its parent.** -/
theorem normalizeRuns_wellFormed_iff (runs : List SourceRun) (args : NormalizeArguments)
    (trace : NormalizedTrace) (h : normalizeRuns runs args = .ok trace) :
    WellFormedTrace runs trace ↔ ∀ run ∈ runs, run.parentId ≠ some run.runId :=
  ⟨noSelfParent_of_wellFormed h, wellFormed_of_noSelfParent h⟩

end Trace

/-! ## A run that is its own parent -/

section Examples

attribute [local instance] asciiTables plainNumbers constantHashes plainTexts

/-- The root of a completed trace. -/
def rootRunExample : SourceRun where
  runId := "run-1"
  name := "support_agent.turn"
  parentId := none
  startTime := .epoch
  endTime := none
  attributes := [("support.outcome", .str "completed"), ("support.reason.code", .str "ok")]

/-- A run that names itself as its parent. -/
def selfParentExample : SourceRun where
  runId := "run-2"
  name := "support_agent.answer"
  parentId := some "run-2"
  startTime := .epoch
  endTime := none
  attributes := []

def langsmithExample : NormalizeArguments where
  platform := "langsmith"
  project := none

theorem isOk_selfParentExample :
    (normalizeRuns [rootRunExample, selfParentExample] langsmithExample).isOk = true := by
  decide +kernel

/-- A run that is its own parent is accepted, and no root is reached from it. -/
theorem not_wellFormed_selfParentExample :
    ∃ trace, normalizeRuns [rootRunExample, selfParentExample] langsmithExample = .ok trace ∧
      ¬ WellFormedTrace [rootRunExample, selfParentExample] trace := by
  cases h : normalizeRuns [rootRunExample, selfParentExample] langsmithExample with
  | error error =>
    have hok := isOk_selfParentExample
    rw [h] at hok
    cases hok
  | ok trace =>
    refine ⟨trace, rfl, fun hwell => ?_⟩
    exact noSelfParent_of_wellFormed h hwell selfParentExample (by simp) rfl

/-- A run of the turn, within another one. -/
def childRunExample (runId name parentId : String) : SourceRun where
  runId := runId
  name := name
  parentId := some parentId
  startTime := .epoch
  endTime := none
  attributes := []

/-- A turn with a routing step and an answer that calls two tools. -/
def turnExample : List SourceRun :=
  [rootRunExample,
    childRunExample "run-2" "support_agent.routing" "run-1",
    childRunExample "run-3" "support_agent.answer" "run-1",
    childRunExample "run-4" "support_agent.tool.get_order_status" "run-3",
    childRunExample "run-5" "support_agent.tool.get_policy" "run-3"]

/-- The turn is accepted as a well-formed trace. -/
theorem wellFormed_turnExample :
    ∃ trace, normalizeRuns turnExample langsmithExample = .ok trace ∧
      WellFormedTrace turnExample trace := by
  have hparents : ∀ run ∈ turnExample, run.parentId ≠ some run.runId := by decide
  cases h : normalizeRuns turnExample langsmithExample with
  | error error =>
    have hok : (normalizeRuns turnExample langsmithExample).isOk = true := by decide +kernel
    rw [h] at hok
    cases hok
  | ok trace => exact ⟨trace, rfl, (normalizeRuns_wellFormed_iff _ _ trace h).mpr hparents⟩

end Examples

end ObservabilityLab
