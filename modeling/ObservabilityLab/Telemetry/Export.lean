import ObservabilityLab.Evidence.AcceptedTrace
import ObservabilityLab.Evidence.LangSmith
import ObservabilityLab.Telemetry.Listener
import Mathlib.Data.List.AList

/-!
# Exported spans

With tracing enabled every span has a mirror in OpenTelemetry, which is exported when the span
ends. Each attribute is mirrored twice, under its own name and under the name that LangSmith
indexes, so that imported runs keep the same evidence. A span of OpenTelemetry keeps a limited
number of attributes, and the allowlist fills exactly the default one.

A program may end a span before its block does. What it records of the span after that is heard by
the listener, but not exported.

## Main definitions

* `SpanSdk.Keeps`: what OpenTelemetry keeps of a span, up to a limit
* `Mirrored`: a span and its mirror
* `MirroredWithin`, `OrderedWithin`: what holds of the exported spans while some blocks are open
* `KeptBy`, `ReadBack`: a run of LangSmith that keeps an exported span, and its event
* `SpanEvidence`: an exported span that mirrors a span, and is imported as that span
* `boundedSdk`: spans whose oldest attribute gives way when they are full

## Main results

* `TrackedWithin.enter`, `TrackedWithin.act`, `TrackedWithin.leave`: the parts of a program
* `tracked_run`, `ordered_run`: what holds of the exported spans after a program
* `evidence_run`: what is exported of a program is imported with the same evidence
-/

namespace ObservabilityLab

open Python Scopes

/-! ## The mirror -/

/-- The names that an exported span may have. -/
def exportedNames : List String :=
  traceAttributeAllowlist ++ traceAttributeAllowlist.map metadataName

/-- An OpenTelemetry that keeps the last value of every attribute, as long as a span has at most a
limited number of them, and the last error status. -/
structure SpanSdk.Keeps {Exported : Type} (sdk : SpanSdk Exported) (limit : ℕ) : Prop where
  name_start : ∀ parent id name, sdk.name (sdk.start parent id name) = name
  name_setAttribute : ∀ span key value, sdk.name (sdk.setAttribute span key value) = sdk.name span
  name_setStatus : ∀ span code, sdk.name (sdk.setStatus span code) = sdk.name span
  value_start : ∀ parent id name key, sdk.value (sdk.start parent id name) key = none
  value_setAttribute : ∀ span key value (names : List String), names.length ≤ limit → key ≠ "" →
    key ∈ names → (∀ other, (sdk.value span other).isSome → other ∈ names) →
      ∀ other, sdk.value (sdk.setAttribute span key value) other =
        if other = key then some value else sdk.value span other
  value_setStatus : ∀ span code key, sdk.value (sdk.setStatus span code) key = sdk.value span key
  errorStatus_start : ∀ parent id name, sdk.errorStatus (sdk.start parent id name) = none
  errorStatus_setAttribute : ∀ span key value,
    sdk.errorStatus (sdk.setAttribute span key value) = sdk.errorStatus span
  errorStatus_setStatus : ∀ span code, sdk.errorStatus (sdk.setStatus span code) = some code

/-- A span and its mirror: the same name and error, and every attribute under its two names. -/
structure Mirrored {Exported : Type} (sdk : SpanSdk Exported) (span : RecorderSpan)
    (exported : Exported) : Prop where
  name : sdk.name exported = span.name
  errorStatus : sdk.errorStatus exported = span.errorCode
  value : ∀ key ∈ traceAttributeAllowlist, sdk.value exported key = span.attributes.lookup key
  metadata : ∀ key ∈ traceAttributeAllowlist,
    sdk.value exported (metadataName key) = span.attributes.lookup key
  only : ∀ key, (sdk.value exported key).isSome → key ∈ exportedNames

theorem metadataName_injective : Function.Injective metadataName := by
  intro key other h
  exact (String.append_right_inj _).mp h

theorem prefix_metadataName (key : String) :
    "langsmith.metadata.".toList <+: (metadataName key).toList := by
  have happend : (metadataName key).toList = "langsmith.metadata.".toList ++ key.toList :=
    String.toList_append
  exact ⟨_, happend.symm⟩

theorem ofList_drop_append (front back : String) :
    String.ofList ((front ++ back).toList.drop front.length) = back := by
  rw [String.toList_append, ← String.length_toList, List.drop_left, String.ofList_toList]

/-- The name that LangSmith indexes is read as the name of the attribute. -/
theorem translateKey_metadataName (key : String) : translateKey (metadataName key) = key := by
  unfold translateKey
  dsimp only
  rw [if_pos (List.isPrefixOf_iff_prefix.mpr (prefix_metadataName key))]
  exact ofList_drop_append _ key

/-- The name of an attribute is read as itself. -/
theorem translateKey_of_mem {key : String} (h : key ∈ traceAttributeAllowlist) :
    translateKey key = key := by
  have hall : (traceAttributeAllowlist.all fun name => translateKey name = name) = true := by
    decide +kernel
  exact of_decide_eq_true (List.all_eq_true.mp hall key h)

/-- No allowlisted name is one that LangSmith indexes. -/
theorem metadataName_notMem (key : String) : metadataName key ∉ traceAttributeAllowlist := by
  intro hmem
  have hsame : key = metadataName key :=
    (translateKey_metadataName key).symm.trans (translateKey_of_mem hmem)
  have hlength : (metadataName key).length = "langsmith.metadata.".length + key.length :=
    String.length_append _ _
  have hprefix : 0 < "langsmith.metadata.".length := by
    decide +kernel
  have hequal : key.length = (metadataName key).length := congrArg String.length hsame
  omega

theorem ne_empty_of_mem_allowlist {key : String} (h : key ∈ traceAttributeAllowlist) :
    key ≠ "" := by
  rintro rfl
  have hnone : (traceAttributeAllowlist.any fun name => name = "") = false := rfl
  exact List.any_eq_false.mp hnone _ h (decide_eq_true rfl)

theorem metadataName_ne_empty (key : String) : metadataName key ≠ "" := by
  intro hempty
  have hprefix := prefix_metadataName key
  rw [hempty, String.toList_empty, List.prefix_nil] at hprefix
  cases hprefix

theorem length_exportedNames : exportedNames.length = 128 := by
  have hallowed : traceAttributeAllowlist.length = 64 := rfl
  rw [exportedNames, List.length_append, List.length_map, hallowed]

theorem mem_exportedNames {key : String} (h : key ∈ traceAttributeAllowlist) :
    key ∈ exportedNames ∧ metadataName key ∈ exportedNames :=
  ⟨List.mem_append_left _ h, List.mem_append_right _ (List.mem_map_of_mem h)⟩

section Mirror

variable {Exported : Type} {sdk : SpanSdk Exported} {limit : ℕ} {span : RecorderSpan}
  {exported : Exported}

theorem mirrored_start (h : sdk.Keeps limit) (parent : SpanContext) (id : ℕ) (name : String) :
    Mirrored sdk { name := name } (sdk.start parent id name) where
  name := h.name_start parent id name
  errorStatus := h.errorStatus_start parent id name
  value key _ := h.value_start parent id name key
  metadata key _ := h.value_start parent id name (metadataName key)
  only key hsome := by
    rw [h.value_start] at hsome
    cases hsome

/-- The mirror of one attribute. -/
theorem Mirrored.setAttribute (h : Mirrored sdk span exported) (hsdk : sdk.Keeps limit)
    (hlimit : 128 ≤ limit) {key : String} (hkey : key ∈ traceAttributeAllowlist) (clean : Scalar) :
    Mirrored sdk (span.update [(key, clean)]) (sdk.mirror exported [(key, clean)]) := by
  have hnames : exportedNames.length ≤ limit := length_exportedNames.trans_le hlimit
  obtain ⟨hplain, hmetadata⟩ := mem_exportedNames hkey
  -- the first of the two writes keeps the names within bounds, so that the second one fits too
  have hfirst := hsdk.value_setAttribute exported key clean exportedNames hnames
    (ne_empty_of_mem_allowlist hkey) hplain h.only
  have honly : ∀ other, (sdk.value (sdk.setAttribute exported key clean) other).isSome →
      other ∈ exportedNames := by
    intro other hsome
    rw [hfirst] at hsome
    split_ifs at hsome with heq
    · exact heq ▸ hplain
    · exact h.only other hsome
  have hsecond := hsdk.value_setAttribute _ (metadataName key) clean exportedNames hnames
    (metadataName_ne_empty key) hmetadata honly
  have hlookup (other : String) : (span.update [(key, clean)]).attributes.lookup other =
      if other = key then some clean else span.attributes.lookup other :=
    Dictionary.lookup_alter
  refine ⟨?_, ?_, fun other hother => ?_, fun other hother => ?_, fun other hsome => ?_⟩
  · exact (hsdk.name_setAttribute ..).trans ((hsdk.name_setAttribute ..).trans h.name)
  · exact (hsdk.errorStatus_setAttribute ..).trans
      ((hsdk.errorStatus_setAttribute ..).trans h.errorStatus)
  -- neither write overwrites what the other one is read under
  · have hne : other ≠ metadataName key := fun heq => metadataName_notMem key (heq ▸ hother)
    refine (hsecond other).trans ?_
    rw [if_neg hne, hfirst, hlookup, h.value other hother]
  · have hne : metadataName other ≠ key := fun heq => metadataName_notMem other (heq ▸ hkey)
    refine (hsecond (metadataName other)).trans ?_
    rw [hfirst, if_neg hne, hlookup, h.metadata other hother]
    simp only [metadataName_injective.eq_iff]
  · have hvalue : (if other = metadataName key then some clean
        else sdk.value (sdk.setAttribute exported key clean) other).isSome := by
      rw [← hsecond other]
      exact hsome
    split_ifs at hvalue with heq
    · exact heq ▸ hmetadata
    · exact honly other hvalue

/-- **The mirror of some attributes.** -/
theorem Mirrored.update (h : Mirrored sdk span exported) (hsdk : sdk.Keeps limit)
    (hlimit : 128 ≤ limit) {sanitized : Attributes}
    (hallowed : ∀ entry ∈ sanitized, entry.1 ∈ traceAttributeAllowlist) :
    Mirrored sdk (span.update sanitized) (sdk.mirror exported sanitized) := by
  -- each attribute is mirrored before the next, and the span is updated in the same order
  induction sanitized generalizing span exported with
  | nil => exact h
  | cons entry sanitized ih =>
    exact ih (h.setAttribute hsdk hlimit (hallowed entry List.mem_cons_self) entry.2)
      fun other hother => hallowed other (List.mem_cons_of_mem _ hother)

theorem Mirrored.setError (h : Mirrored sdk span exported) (hsdk : sdk.Keeps limit)
    (reasonCode : String) :
    Mirrored sdk (span.setError reasonCode) (sdk.setStatus exported reasonCode) where
  name := (hsdk.name_setStatus ..).trans h.name
  errorStatus := hsdk.errorStatus_setStatus ..
  value key hkey := (hsdk.value_setStatus ..).trans (h.value key hkey)
  metadata key hkey := (hsdk.value_setStatus ..).trans (h.metadata key hkey)
  only key hsome := by
    rw [hsdk.value_setStatus] at hsome
    exact h.only key hsome

end Mirror

/-! ## The exported spans -/

/-- What the listener hears at the ends of the spans. -/
def RecorderState.endings {Exported : Type} (state : RecorderState Exported) : List Heard :=
  state.heard.filter (·.ended)

/-- An ended span mirrors an earlier state of the recorder's span, which the listener hears at the
end of its block, if the block has ended. -/
structure EndedWithin {Exported : Type} (sdk : SpanSdk Exported) (forbidden : List String)
    (scopes : List ℕ) (state : RecorderState Exported) (ended : EndedSpan Exported) : Prop where
  known : ended.id < state.spans.length
  earlier : ∃ span : RecorderSpan, span.Clean forbidden ∧ Mirrored sdk span ended.span ∧
    span.Grows (state.span ended.id) ∧
      (ended.id ∈ scopes ∨ ∃ heard ∈ state.endings, heard.id = ended.id ∧ span.Grows heard.span)

/-- What holds of the spans of OpenTelemetry while some blocks are open: each is the mirror of the
recorder's span until it ends, once, at the end of its block at the latest. -/
structure MirroredWithin {Exported : Type} (sdk : SpanSdk Exported) (forbidden : List String)
    (scopes : List ℕ) (state : RecorderState Exported) : Prop where
  length : state.mirrored.length = state.spans.length
  live : ∀ id exported, state.mirrored[id]? = some exported → id ∉ state.ended →
    Mirrored sdk (state.span id) exported
  pending : ∀ id < state.spans.length, id ∉ state.ended → id ∈ scopes
  once : state.ended.Nodup
  ended : ∀ ended ∈ state.exported, EndedWithin sdk forbidden scopes state ended

namespace RecorderState

variable {Exported : Type} {state : RecorderState Exported} {id other : ℕ}

theorem mem_ended : id ∈ state.ended ↔ ∃ ended ∈ state.exported, ended.id = id := List.mem_map

/-- A change of one span leaves the others. -/
theorem span_modify {f : RecorderSpan → RecorderSpan} {after : RecorderState Exported}
    (hspans : after.spans = state.spans.modify id f) (hother : other < state.spans.length) :
    after.span other = if id = other then f (state.span other) else state.span other := by
  rw [span, span, hspans, List.getD_eq_getElem?_getD, List.getD_eq_getElem?_getD,
    List.getElem?_modify, List.getElem?_eq_getElem hother]
  change (if id = other then f _ else _) = _
  split_ifs <;> rfl

theorem span_append {new : RecorderSpan} {after : RecorderState Exported}
    (hspans : after.spans = state.spans ++ [new]) (hother : other < state.spans.length) :
    after.span other = state.span other := by
  rw [span, span, hspans, List.getD_eq_getElem?_getD, List.getD_eq_getElem?_getD,
    List.getElem?_append_left hother]

theorem span_new {new : RecorderSpan} {after : RecorderState Exported}
    (hspans : after.spans = state.spans ++ [new]) : after.span state.spans.length = new := by
  rw [span, hspans, List.getD_eq_getElem?_getD, List.getElem?_concat_length, Option.getD_some]

/-- A change of a span of OpenTelemetry is one of a span that has not ended. -/
theorem mirror_cases {f : Exported → Exported} {exported : Exported}
    (h : (state.mirror f id)[other]? = some exported) (hother : other ∉ state.ended) :
    ∃ before, state.mirrored[other]? = some before ∧
      exported = if id = other then f before else before := by
  unfold mirror at h
  split_ifs at h with hended
  · have hne : id ≠ other := fun heq => hother (heq ▸ hended)
    exact ⟨exported, h, (if_neg hne).symm⟩
  · rw [List.getElem?_modify] at h
    obtain ⟨before, hbefore, rfl⟩ := Option.map_eq_some_iff.mp h
    exact ⟨before, hbefore, by split_ifs <;> rfl⟩

theorem length_mirror (f : Exported → Exported) (id : ℕ) :
    (state.mirror f id).length = state.mirrored.length := by
  unfold mirror
  split_ifs
  · rfl
  · exact List.length_modify ..

end RecorderState

section Exports

variable {Exported : Type} {sdk : SpanSdk Exported} {limit : ℕ} {recorder : TraceRecorder Exported}
  {forbidden : List String} {scopes : List ℕ} {state after : RecorderState Exported} {id : ℕ}

/-- The number of an ended span is in use. -/
theorem MirroredWithin.lt_of_ended (h : MirroredWithin sdk forbidden scopes state)
    (hid : id ∈ state.ended) : id < state.spans.length := by
  obtain ⟨ended, hended, rfl⟩ := RecorderState.mem_ended.mp hid
  exact (h.ended ended hended).known

/-- A change of a span that loses nothing, and the same change of its mirror. -/
theorem MirroredWithin.modify (h : MirroredWithin sdk forbidden scopes state)
    {f : RecorderSpan → RecorderSpan} {g : Exported → Exported}
    (hmap : ∀ span exported, Mirrored sdk span exported → Mirrored sdk (f span) (g exported))
    (hgrows : ∀ span : RecorderSpan, span.Grows (f span))
    (hspans : after.spans = state.spans.modify id f)
    (hmirrored : after.mirrored = state.mirror g id) (hheard : after.heard = state.heard)
    (hexported : after.exported = state.exported) : MirroredWithin sdk forbidden scopes after := by
  have hlength : after.spans.length = state.spans.length := by
    rw [hspans, List.length_modify]
  have hended : after.ended = state.ended := by
    rw [RecorderState.ended, RecorderState.ended, hexported]
  refine ⟨?_, fun other exported hother hopen => ?_, fun other hother hopen => ?_, ?_,
    fun ended hmem => ?_⟩
  · rw [hmirrored, RecorderState.length_mirror, hlength, h.length]
  · rw [hmirrored] at hother
    rw [hended] at hopen
    obtain ⟨before, hbefore, rfl⟩ := RecorderState.mirror_cases hother hopen
    have hlt : other < state.spans.length :=
      h.length ▸ (List.getElem?_eq_some_iff.mp hbefore).1
    have hlive := h.live other before hbefore hopen
    rw [RecorderState.span_modify hspans hlt]
    split_ifs
    · exact hmap _ _ hlive
    · exact hlive
  · rw [hended] at hopen
    exact h.pending other (hlength ▸ hother) hopen
  · rw [hended]
    exact h.once
  · rw [hexported] at hmem
    obtain ⟨hknown, span, hclean, hspan, hlater, hheardAt⟩ := h.ended ended hmem
    refine ⟨hlength ▸ hknown, span, hclean, hspan, ?_, ?_⟩
    · rw [RecorderState.span_modify hspans hknown]
      split_ifs
      · exact hlater.trans (hgrows _)
      · exact hlater
    · rw [RecorderState.endings, hheard]
      exact hheardAt

theorem MirroredWithin.setAttribute (h : MirroredWithin sdk forbidden scopes state)
    (htracer : recorder.tracer = some sdk) (hsdk : sdk.Keeps limit) (hlimit : 128 ≤ limit) (id : ℕ)
    (name : String) (value : PyValue) :
    MirroredWithin sdk forbidden scopes (recorder.setAttribute id name value state).2 := by
  unfold TraceRecorder.setAttribute
  rw [htracer]
  refine h.modify ?_ (fun span => span.grows_update _) rfl rfl rfl rfl
  intro span exported hspan
  apply hspan.update hsdk hlimit
  intro entry hentry
  exact (sanitizeAttributes_clean _ _ entry hentry).allowed

theorem MirroredWithin.setError (h : MirroredWithin sdk forbidden scopes state)
    (htracer : recorder.tracer = some sdk) (hsdk : sdk.Keeps limit) (id : ℕ) (reasonCode : String) :
    MirroredWithin sdk forbidden scopes (recorder.setError id reasonCode state) := by
  unfold TraceRecorder.setError
  rw [htracer]
  refine h.modify (f := (·.setError reasonCode)) ?_ (fun _ => ⟨rfl, fun _ h => h⟩) rfl rfl rfl rfl
  intro span exported hspan
  exact hspan.setError hsdk reasonCode

/-- A new span is mirrored, and its block is open. -/
theorem MirroredWithin.start (h : MirroredWithin sdk forbidden scopes state)
    (htracer : recorder.tracer = some sdk) (hsdk : sdk.Keeps limit) (name : String) :
    MirroredWithin sdk forbidden (state.spans.length :: scopes) (recorder.start name state) := by
  have hspans : (recorder.start name state).spans = state.spans ++ [{ name := name }] := rfl
  have hmirrored : (recorder.start name state).mirrored =
      state.mirrored ++ [sdk.start (state.current sdk) state.spans.length name] := by
    unfold TraceRecorder.start
    rw [htracer]
    rfl
  refine ⟨?_, fun other exported hother hopen => ?_, fun other hother hopen => ?_, h.once,
    fun ended hmem => ?_⟩
  · rw [hspans, hmirrored, List.length_append, List.length_append, h.length]
    rfl
  -- the mirror of an old span, or of the new one
  · rw [hmirrored] at hother
    rcases Nat.lt_or_ge other state.mirrored.length with hold | hnew
    · rw [List.getElem?_append_left hold] at hother
      rw [RecorderState.span_append hspans (h.length ▸ hold)]
      exact h.live other exported hother hopen
    · have hlt := (List.getElem?_eq_some_iff.mp hother).1
      rw [List.length_append, List.length_singleton] at hlt
      obtain rfl : other = state.mirrored.length := by omega
      rw [List.getElem?_concat_length] at hother
      obtain rfl := Option.some.inj hother
      rw [h.length, RecorderState.span_new hspans]
      exact mirrored_start hsdk _ _ name
  · rw [hspans, List.length_append] at hother
    rcases Nat.lt_succ_iff_lt_or_eq.mp hother with hold | rfl
    · exact List.mem_cons_of_mem _ (h.pending other hold hopen)
    · exact List.mem_cons_self
  · obtain ⟨hknown, span, hclean, hspan, hlater, hheardAt⟩ := h.ended ended hmem
    refine ⟨?_, span, hclean, hspan, ?_, hheardAt.imp_left (List.mem_cons_of_mem _)⟩
    · rw [hspans, List.length_append]
      exact Nat.lt_add_right _ hknown
    · rwa [RecorderState.span_append hspans hknown]

/-- What the listener hears takes nothing from what it has heard. -/
theorem MirroredWithin.hear (h : MirroredWithin sdk forbidden scopes state)
    (hspans : after.spans = state.spans) (hmirrored : after.mirrored = state.mirrored)
    (hexported : after.exported = state.exported) (hheard : state.heard ⊆ after.heard) :
    MirroredWithin sdk forbidden scopes after := by
  have hended : after.ended = state.ended := by
    rw [RecorderState.ended, RecorderState.ended, hexported]
  have hspan (other : ℕ) : after.span other = state.span other := by
    rw [RecorderState.span, RecorderState.span, hspans]
  refine ⟨?_, fun other exported hother hopen => ?_, fun other hother hopen => ?_, ?_,
    fun ended hmem => ?_⟩
  · rw [hmirrored, hspans, h.length]
  · rw [hspan]
    exact h.live other exported (hmirrored ▸ hother) (hended ▸ hopen)
  · exact h.pending other (hspans ▸ hother) (hended ▸ hopen)
  · exact hended ▸ h.once
  · rw [hexported] at hmem
    obtain ⟨hknown, span, hclean, hmirror, hlater, hheardAt⟩ := h.ended ended hmem
    refine ⟨hspans ▸ hknown, span, hclean, hmirror, (hspan _).symm ▸ hlater,
      hheardAt.imp_right ?_⟩
    rintro ⟨heard, hmem, hsame⟩
    obtain ⟨hmem, hend⟩ := List.mem_filter.mp hmem
    exact ⟨heard, List.mem_filter.mpr ⟨hheard hmem, hend⟩, hsame⟩

/-- The end of a span of OpenTelemetry: it is not one that is live, or it is exported. -/
theorem endSpan_cases (htracer : recorder.tracer = some sdk) (id : ℕ)
    (state : RecorderState Exported) :
    recorder.endSpan id state = state ∧ (id ∈ state.ended ∨ state.mirrored[id]? = none) ∨
      ∃ exported, id ∉ state.ended ∧ state.mirrored[id]? = some exported ∧
        recorder.endSpan id state =
          { state with exported := state.exported ++ [⟨id, exported⟩] } := by
  unfold TraceRecorder.endSpan
  rw [htracer]
  dsimp only
  split_ifs with hended
  · exact Or.inl ⟨rfl, Or.inl hended⟩
  · cases hmirror : state.mirrored[id]? with
    | none =>
      rw [Option.map_none, Option.toList_none, List.append_nil]
      exact Or.inl ⟨rfl, Or.inr rfl⟩
    | some exported => exact Or.inr ⟨exported, hended, rfl, rfl⟩

/-- **A span of OpenTelemetry ends once**, as the mirror of the recorder's span. -/
theorem MirroredWithin.endSpan (h : MirroredWithin sdk recorder.forbidden scopes state)
    (hsound : state.Sound recorder.forbidden) (htracer : recorder.tracer = some sdk) (id : ℕ) :
    MirroredWithin sdk recorder.forbidden scopes (recorder.endSpan id state) := by
  -- OpenTelemetry ignores the second end of a span
  obtain ⟨hsame, -⟩ | ⟨exported, hopen, hmirror, hends⟩ := endSpan_cases htracer id state
  · rwa [hsame]
  rw [hends]
  have hid : id < state.spans.length := h.length ▸ (List.getElem?_eq_some_iff.mp hmirror).1
  have hended : ({ state with exported := state.exported ++ [⟨id, exported⟩] } :
      RecorderState Exported).ended = state.ended ++ [id] :=
    List.map_append
  refine ⟨h.length, fun other mirror hother hlive => ?_, fun other hother hlive => ?_, ?_,
    fun ended hmem => ?_⟩
  · rw [hended, List.mem_append] at hlive
    exact h.live other mirror hother (mt Or.inl hlive)
  · rw [hended, List.mem_append] at hlive
    exact h.pending other hother (mt Or.inl hlive)
  · rw [hended, ← List.concat_eq_append]
    exact h.once.concat hopen
  · rcases List.mem_append.mp hmem with hold | hnew
    · obtain ⟨hknown, hearlier⟩ := h.ended ended hold
      exact ⟨hknown, hearlier⟩
    · rw [List.mem_singleton.mp hnew]
      -- a span that was live has an open block, whose listener has not heard it end yet
      exact ⟨hid, state.span id, hsound.spans _ (RecorderState.span_mem hid),
        h.live id exported hmirror hopen, .refl _, Or.inl (h.pending id hid hopen)⟩

/-- A block is left when its span has ended and the listener has heard it end. -/
theorem MirroredWithin.close (h : MirroredWithin sdk forbidden (id :: scopes) state)
    (hended : id ∈ state.ended) (hheard : ⟨id, state.span id, true⟩ ∈ state.endings) :
    MirroredWithin sdk forbidden scopes state := by
  refine ⟨h.length, h.live, fun other hother hopen => ?_, h.once, fun ended hmem => ?_⟩
  · rcases List.mem_cons.mp (h.pending other hother hopen) with rfl | hscope
    · exact absurd hended hopen
    · exact hscope
  -- a span that ended in the block is heard as it was, or with more attributes
  · obtain ⟨hknown, span, hclean, hspan, hlater, hscope | hheardAt⟩ := h.ended ended hmem
    · rcases List.mem_cons.mp hscope with heq | hscope
      · rw [heq] at hlater
        exact ⟨hknown, span, hclean, hspan, heq ▸ hlater,
          Or.inr ⟨_, hheard, heq.symm, hlater⟩⟩
      · exact ⟨hknown, span, hclean, hspan, hlater, Or.inl hscope⟩
    · exact ⟨hknown, span, hclean, hspan, hlater, Or.inr hheardAt⟩

/-- The state is sound, and the spans of OpenTelemetry mirror it. -/
def TrackedWithin (sdk : SpanSdk Exported) (recorder : TraceRecorder Exported) (scopes : List ℕ)
    (state : RecorderState Exported) : Prop :=
  SoundWithin recorder scopes state ∧ MirroredWithin sdk recorder.forbidden scopes state

theorem TrackedWithin.enter (h : TrackedWithin sdk recorder scopes state)
    (htracer : recorder.tracer = some sdk) (hsdk : sdk.Keeps limit) (hlimit : 128 ≤ limit)
    (arguments : SpanArguments) :
    TrackedWithin sdk recorder ((recorder.enter arguments state).1 :: scopes)
      (recorder.enter arguments state).2 := by
  have hstarted := h.2.start htracer hsdk arguments.name
  -- the initial attributes are written before the listener hears that the span has started
  have hinitial := TraceRecorder.applyInitialAttributes_keeps
    (P := MirroredWithin sdk recorder.forbidden (state.spans.length :: scopes))
    (fun name value _ h => h.setAttribute htracer hsdk hlimit state.spans.length name value)
    arguments.attributes hstarted
  exact ⟨h.1.enter arguments, hinitial.hear rfl rfl rfl (List.subset_append_left _ _)⟩

theorem TrackedWithin.act (h : TrackedWithin sdk recorder scopes state)
    (htracer : recorder.tracer = some sdk) (hsdk : sdk.Keeps limit) (hlimit : 128 ≤ limit)
    (action : SpanAction) : TrackedWithin sdk recorder scopes (recorder.act action state).2 := by
  refine ⟨h.1.act action, ?_⟩
  cases action with
  | setAttribute id name value => exact h.2.setAttribute htracer hsdk hlimit id name value
  | setError id reasonCode => exact h.2.setError htracer hsdk id reasonCode
  | endSpan id => exact h.2.endSpan h.1.1 htracer id
  | read id => exact h.2
  | spanContext id => exact h.2
  | enabled => exact h.2
  | currentTraceId => exact h.2

theorem TrackedWithin.leave (h : TrackedWithin sdk recorder (id :: scopes) state)
    (htracer : recorder.tracer = some sdk) :
    TrackedWithin sdk recorder scopes (recorder.leave id state) := by
  refine ⟨h.1.leave, ?_⟩
  have hid : id < state.spans.length := h.1.2 id List.mem_cons_self
  have hsound : (state.left id).Sound recorder.forbidden := (h.1.1.notify hid true).congr rfl rfl
  have hleft : MirroredWithin sdk recorder.forbidden (id :: scopes) (state.left id) :=
    h.2.hear rfl rfl rfl (List.subset_append_left _ _)
  obtain ⟨hspans, hheard⟩ := recorder.endSpan_frame id (state.left id)
  refine (hleft.endSpan hsound htracer id).close ?_ ?_
  · obtain ⟨hsame, hended | hnone⟩ | ⟨exported, -, -, hends⟩ :=
      endSpan_cases htracer id (state.left id)
    · rwa [hsame]
    · have hlt : id < state.mirrored.length := h.2.length ▸ hid
      cases (List.getElem?_eq_getElem hlt).symm.trans hnone
    · rw [hends, RecorderState.mem_ended]
      exact ⟨_, List.mem_append_right _ List.mem_cons_self, rfl⟩
  -- the listener has heard the span as it is now
  · rw [RecorderState.endings, hheard, RecorderState.span, hspans]
    exact List.mem_filter.mpr ⟨List.mem_append_right _ List.mem_cons_self, rfl⟩

/-- The ended spans are, in order, those that the listener heard end, and no open block is among
them. -/
structure OrderedWithin (sdk : SpanSdk Exported) (scopes : List ℕ)
    (state : RecorderState Exported) : Prop where
  exported : List.Forall₂
    (fun heard ended => heard.id = ended.id ∧ Mirrored sdk heard.span ended.span)
    state.endings state.exported
  opened : ∀ id ∈ scopes, id ∉ state.ended
  scopes : scopes.Nodup

/-- A new block is open, and its span has not ended. -/
theorem OrderedWithin.enter (h : OrderedWithin sdk scopes state)
    (htracked : TrackedWithin sdk recorder scopes state) (arguments : SpanArguments) :
    OrderedWithin sdk ((recorder.enter arguments state).1 :: scopes)
      (recorder.enter arguments state).2 := by
  have hexported : (recorder.enter arguments state).2.exported = state.exported :=
    TraceRecorder.applyInitialAttributes_keeps (P := fun after => after.exported = state.exported)
      (fun _ _ _ hsame => hsame) arguments.attributes rfl
  have hended : (recorder.enter arguments state).2.ended = state.ended := by
    rw [RecorderState.ended, RecorderState.ended, hexported]
  have hendings : (recorder.enter arguments state).2.endings = state.endings := by
    change (_ ++ [_]).filter _ = _
    rw [List.filter_append, (TraceRecorder.applyInitialAttributes_frame _ _ _).2]
    exact List.append_nil _
  refine ⟨?_, fun id hid => ?_, ?_⟩
  · rw [hexported, hendings]
    exact h.exported
  · rw [hended]
    rcases List.mem_cons.mp hid with rfl | hid
    · exact fun hmem => (htracked.2.lt_of_ended hmem).false
    · exact h.opened id hid
  · exact List.nodup_cons.mpr ⟨fun hmem => (htracked.1.2 _ hmem).false, h.scopes⟩

theorem OrderedWithin.act (h : OrderedWithin sdk scopes state) {action : SpanAction}
    (haction : ¬ action.EndsSpan) : OrderedWithin sdk scopes (recorder.act action state).2 := by
  cases action with
  | endSpan id => exact absurd trivial haction
  | setAttribute id name value => exact ⟨h.exported, h.opened, h.scopes⟩
  | setError id reasonCode => exact ⟨h.exported, h.opened, h.scopes⟩
  | read id => exact h
  | spanContext id => exact h
  | enabled => exact h
  | currentTraceId => exact h

/-- The span of a block ends as the listener hears it end. -/
theorem OrderedWithin.leave (h : OrderedWithin sdk (id :: scopes) state)
    (htracked : TrackedWithin sdk recorder (id :: scopes) state)
    (htracer : recorder.tracer = some sdk) :
    OrderedWithin sdk scopes (recorder.leave id state) := by
  have hid : id < state.mirrored.length :=
    htracked.2.length ▸ htracked.1.2 id List.mem_cons_self
  have hopen : id ∉ state.ended := h.opened id List.mem_cons_self
  obtain ⟨hnew, hscopes⟩ := List.nodup_cons.mp h.scopes
  -- no program action ended the span, so that leaving the block does
  obtain ⟨-, hended | hnone⟩ | ⟨exported, -, hmirror, hends⟩ :=
    endSpan_cases htracer id (state.left id)
  · exact absurd hended hopen
  · cases (List.getElem?_eq_getElem hid).symm.trans hnone
  · have hended : (recorder.leave id state).ended = state.ended ++ [id] := by
      rw [TraceRecorder.leave, hends]
      exact List.map_append
    rw [TraceRecorder.leave] at hended ⊢
    refine ⟨?_, fun other hother => ?_, hscopes⟩
    · rw [hends]
      change List.Forall₂ _ ((state.heard ++ [_]).filter _) (state.exported ++ [_])
      rw [List.filter_append]
      exact List.rel_append h.exported
        (List.Forall₂.cons ⟨rfl, htracked.2.live id exported hmirror hopen⟩ List.Forall₂.nil)
    · rw [hended, List.mem_append, List.mem_singleton]
      rintro (hmem | rfl)
      · exact h.opened other (List.mem_cons_of_mem _ hother) hmem
      · exact hnew hother

/-- Nothing has happened yet. -/
theorem tracked_empty : TrackedWithin sdk recorder [] {} := by
  refine ⟨soundWithin_empty recorder, rfl, fun _ _ hnone => ?_, fun _ hlt => ?_, List.nodup_nil,
    fun _ hmem => ?_⟩
  · cases hnone
  · exact absurd hlt (Nat.not_lt_zero _)
  · cases hmem

/-- After a program, the spans of OpenTelemetry mirror what it recorded. -/
theorem tracked_run {α : Type} (htracer : recorder.tracer = some sdk) (hsdk : sdk.Keeps limit)
    (hlimit : 128 ≤ limit) (program : TracedProgram α) :
    TrackedWithin sdk recorder [] (program.run recorder.handler {}).2 := by
  refine ScopedProgram.run_invariant (P := TrackedWithin sdk recorder) ?_ ?_ ?_ program.acts_true
    tracked_empty
  · exact fun arguments scopes state h => h.enter htracer hsdk hlimit arguments
  · exact fun action scopes state _ h => h.act htracer hsdk hlimit action
  · exact fun id scopes state h => h.leave htracer

/-- After a program that ends no span by itself, they have ended in the order of their blocks. -/
theorem ordered_run {α : Type} (htracer : recorder.tracer = some sdk) (hsdk : sdk.Keeps limit)
    (hlimit : 128 ≤ limit) {program : TracedProgram α}
    (hacts : program.Acts fun action => ¬ action.EndsSpan) :
    OrderedWithin sdk [] (program.run recorder.handler {}).2 := by
  have hrun : TrackedWithin sdk recorder [] (program.run recorder.handler {}).2 ∧
      OrderedWithin sdk [] (program.run recorder.handler {}).2 := by
    -- the order needs the mirrors, so that the two are carried together
    refine ScopedProgram.run_invariant (P := fun scopes state =>
      TrackedWithin sdk recorder scopes state ∧ OrderedWithin sdk scopes state) ?_ ?_ ?_ hacts ?_
    · exact fun arguments scopes state h =>
        ⟨h.1.enter htracer hsdk hlimit arguments, h.2.enter h.1 arguments⟩
    · exact fun action scopes state haction h =>
        ⟨h.1.act htracer hsdk hlimit action, h.2.act haction⟩
    · exact fun id scopes state h => ⟨h.1.leave htracer, h.2.leave h.1 htracer⟩
    · exact ⟨tracked_empty, List.Forall₂.nil, fun id hid => absurd hid List.not_mem_nil,
        List.nodup_nil⟩
  exact hrun.2

end Exports

/-! ## The import -/

/-- The entries of the metadata of a run of LangSmith, at both places. -/
def metadataEntries (run : Record) : Record :=
  entriesOf (fieldOf run "metadata" .none) ++
    entriesOf (fieldOf (entriesOf (fieldOf run "extra" .none)) "metadata" .none)

/-- A run of LangSmith that keeps an exported span: its name, its error, and the attributes under
the names that LangSmith indexes, with or without its prefix. The run may have other metadata, as
long as it does not give one of the attributes another value. -/
structure KeptBy {Exported : Type} (sdk : SpanSdk Exported) (exported : Exported) (run : Record) :
    Prop where
  name : fieldOf run "name" .none = .str (sdk.name exported)
  error : nonEmptyText (fieldOf run "error" .none) = sdk.errorStatus exported
  kept : ∀ key value, sdk.value exported (metadataName key) = some value →
    key ∈ (metadataEntries run).map (·.1) ∨ metadataName key ∈ (metadataEntries run).map (·.1)
  agree : ∀ entry ∈ metadataEntries run, ∀ value,
    sdk.value exported (metadataName (translateKey entry.1)) = some value → entry.2 = value.toPy

/-- An event with the evidence of a span. -/
structure ReadBack (span : RecorderSpan) (event : TraceEvent) : Prop where
  name : event.name = span.name
  kind : event.kind = inferEventKind span.name
  errorCode : event.errorCode = span.errorCode.filter isStableCode
  attributes : ∀ entry ∈ span.attributes, event.get entry.1 = some entry.2

theorem setItem_eq_alter (record : Record) (key : String) (value : PyValue) :
    setItem record key value = Dictionary.alter record key fun _ => value := by
  have hkey : record.any (·.1 = key) = true ↔ key ∈ record.map (·.1) := by
    simp
  unfold setItem Dictionary.alter
  by_cases h : key ∈ record.map (·.1)
  · rw [if_pos h, if_pos (hkey.mpr h)]
  · rw [if_neg h, if_neg (mt hkey.mp h)]

theorem updateRecord_eq (record entries : Record) :
    updateRecord record entries =
      Dictionary.altersFrom record (entries.map fun entry => (entry.1, fun _ => entry.2)) := by
  rw [updateRecord, Dictionary.altersFrom, List.foldl_map]
  simp only [setItem_eq_alter]

/-- The metadata of a run, where the nested entries replace the others. -/
def mergedMetadata (run : Record) : Record :=
  updateRecord (updateRecord [] (entriesOf (fieldOf run "metadata" .none)))
    (entriesOf (fieldOf (entriesOf (fieldOf run "extra" .none)) "metadata" .none))

theorem mem_metadataEntries {run : Record} :
    ∀ entry ∈ mergedMetadata run, entry ∈ metadataEntries run := by
  have hnone : ∀ entry ∈ ([] : Record), (entry.1, entry.2) ∈ metadataEntries run :=
    fun entry hentry => absurd hentry List.not_mem_nil
  rw [mergedMetadata, updateRecord_eq, updateRecord_eq]
  apply Dictionary.forall_mem_altersFrom (P := fun key value => (key, value) ∈ metadataEntries run)
  · apply Dictionary.forall_mem_altersFrom (P := fun key value =>
      (key, value) ∈ metadataEntries run) hnone
    intro update hupdate _ _
    obtain ⟨entry, hentry, rfl⟩ := List.mem_map.mp hupdate
    exact List.mem_append_left _ hentry
  · intro update hupdate _ _
    obtain ⟨entry, hentry, rfl⟩ := List.mem_map.mp hupdate
    exact List.mem_append_right _ hentry

theorem mem_keys_mergedMetadata {run : Record} {key : String}
    (h : key ∈ (metadataEntries run).map (·.1)) : key ∈ (mergedMetadata run).map (·.1) := by
  rw [metadataEntries, List.map_append, List.mem_append] at h
  rw [mergedMetadata, updateRecord_eq, updateRecord_eq, Dictionary.mem_keys_altersFrom,
    Dictionary.mem_keys_altersFrom, List.map_map, List.map_map]
  exact h.imp_left Or.inr

section Import

variable {Exported : Type} {sdk : SpanSdk Exported} {exported : Exported} {span : RecorderSpan}
  {run : Record}

/-- The metadata of a run that keeps a span has the attributes of the span. -/
theorem lookup_metadataOf (h : KeptBy sdk exported run) {key : String}
    (hkey : key ∈ traceAttributeAllowlist) {value : Scalar}
    (hvalue : sdk.value exported (metadataName key) = some value) :
    (metadataOf run).lookup key = some value.toPy := by
  change (updateRecord [] ((mergedMetadata run).map fun entry =>
    (translateKey entry.1, entry.2))).lookup key = _
  -- several entries may be read as one attribute, and all of them have its value
  rw [updateRecord_eq, List.map_map]
  apply Dictionary.lookup_agreeing (l := mergedMetadata run) (k := key)
    (v := value.toPy)
  · rcases h.kept key value hvalue with hplain | hindexed
    · obtain ⟨entry, hentry, hname⟩ := List.mem_map.mp (mem_keys_mergedMetadata hplain)
      refine ⟨entry, hentry, ?_⟩
      change translateKey entry.1 = key
      rw [hname, translateKey_of_mem hkey]
    · obtain ⟨entry, hentry, hname⟩ := List.mem_map.mp (mem_keys_mergedMetadata hindexed)
      refine ⟨entry, hentry, ?_⟩
      change translateKey entry.1 = key
      rw [hname, translateKey_metadataName]
  · intro entry hentry hname
    apply h.agree entry (mem_metadataEntries entry hentry) value
    rw [show translateKey entry.1 = key from hname]
    exact hvalue

/-- A recorded value is kept by the import. -/
theorem keptScalar_toPy {forbidden : List String} {value : Scalar} (h : IsClean forbidden value) :
    keptScalar value.toPy = some value := by
  cases value with
  | str text =>
    rw [keptScalar]
    exact Option.filter_eq_some_iff.mpr ⟨rfl, by simpa using h.1⟩
  | bool b => rfl
  | int n => rfl
  | float x => rfl

/-- The allowlisted attributes of a record have its allowlisted values. -/
theorem lookup_allowlistedAttributes [UnicodeTables] {runId key : String} {record : Record}
    {value : Scalar} {clean : Attributes} {dropped : List String}
    (h : allowlistedAttributes runId record = .ok (clean, dropped))
    (hkey : key ∈ traceAttributeAllowlist) (hlookup : record.lookup key = some value.toPy)
    (hkept : keptScalar value.toPy = some value) : clean.lookup key = some value := by
  induction record generalizing clean dropped with
  | nil => cases hlookup
  | cons entry record ih =>
    obtain ⟨first, untyped⟩ := entry
    rw [allowlistedAttributes] at h
    by_cases hsame : key = first
    · subst hsame
      rw [List.lookup_cons_self] at hlookup
      rw [if_pos hkey, Option.some.inj hlookup, hkept] at h
      obtain ⟨⟨rest, droppedRest⟩, -, h⟩ := bind_eq_ok.mp h
      obtain ⟨rfl, -⟩ := Prod.mk.inj (Except.ok.inj h)
      exact List.lookup_cons_self
    · have hne : (key == first) = false := beq_false_of_ne hsame
      rw [List.lookup_cons, hne] at hlookup
      split_ifs at h
      -- another allowlisted name comes first, with a value that is kept or dropped
      · obtain ⟨⟨rest, droppedRest⟩, hrest, h⟩ := bind_eq_ok.mp h
        have hfound := ih hrest hlookup
        cases hscalar : keptScalar untyped with
        | some scalar =>
          simp only [hscalar] at h
          obtain ⟨rfl, -⟩ := Prod.mk.inj (Except.ok.inj h)
          rw [List.lookup_cons, hne]
          exact hfound
        | none =>
          simp only [hscalar] at h
          obtain ⟨rfl, -⟩ := Prod.mk.inj (Except.ok.inj h)
          exact hfound
      -- a name that is not allowlisted is dropped, as long as it is not a sensitive one
      · obtain ⟨-, h⟩ := check_bind_eq_ok.mp h
        obtain ⟨⟨rest, droppedRest⟩, hrest, h⟩ := bind_eq_ok.mp h
        obtain ⟨rfl, -⟩ := Prod.mk.inj (Except.ok.inj h)
        exact ih hrest hlookup

variable [UnicodeTables]

theorem attributes_toEvent {source : SourceRun} {event : TraceEvent} {dropped : List String}
    (h : toEvent source = .ok (event, dropped)) :
    (∃ rest, allowlistedAttributes source.runId source.attributes = .ok (event.attributes, rest)) ∧
      event.kind = inferEventKind source.name := by
  unfold toEvent at h
  obtain ⟨⟨attributes, rest⟩, hattributes, h⟩ := bind_eq_ok.mp h
  obtain ⟨duration, -, h⟩ := bind_eq_ok.mp h
  obtain ⟨built, hnew, h⟩ := bind_eq_ok.mp h
  obtain ⟨rfl, -⟩ := Prod.mk.inj (Except.ok.inj h)
  unfold TraceEvent.new at hnew
  split_ifs at hnew
  obtain rfl := Except.ok.inj hnew
  exact ⟨⟨rest, hattributes⟩, rfl⟩

variable [DateTimeTexts]

omit [UnicodeTables] in
theorem fields_sourceRun {source : SourceRun} (h : sourceRunFromLangsmith run = .ok source) :
    source.attributes = metadataOf run ∧ source.error = nonEmptyText (fieldOf run "error" .none) ∧
      nonEmptyText (fieldOf run "name" .none) = some source.name := by
  unfold sourceRunFromLangsmith at h
  obtain ⟨runId, -, h⟩ := bind_eq_ok.mp h
  obtain ⟨name, hname, h⟩ := bind_eq_ok.mp h
  obtain ⟨startText, -, h⟩ := bind_eq_ok.mp h
  obtain ⟨startTime, -, h⟩ := bind_eq_ok.mp h
  have hfields : source.attributes = metadataOf run ∧
      source.error = nonEmptyText (fieldOf run "error" .none) ∧ source.name = name := by
    -- the times do not bear on the other fields
    dsimp only at h
    split at h
    · obtain ⟨endTime, -, h⟩ := bind_eq_ok.mp h
      obtain rfl := Except.ok.inj h
      exact ⟨rfl, rfl, rfl⟩
    · obtain ⟨endTime, -, h⟩ := bind_eq_ok.mp h
      obtain rfl := Except.ok.inj h
      exact ⟨rfl, rfl, rfl⟩
  refine ⟨hfields.1, hfields.2.1, ?_⟩
  rw [hfields.2.2]
  cases htext : nonEmptyText (fieldOf run "name" .none) with
  | none =>
    rw [htext] at hname
    cases hname
  | some text =>
    rw [htext] at hname
    exact congrArg some (Except.ok.inj hname)

/-- **A run that keeps an exported span is imported as that span.** -/
theorem readBack_of_keptBy {forbidden : List String} (hclean : span.Clean forbidden)
    (hmirrored : Mirrored sdk span exported) (h : KeptBy sdk exported run) {source : SourceRun}
    (hsource : sourceRunFromLangsmith run = .ok source) {event : TraceEvent} {dropped : List String}
    (hevent : toEvent source = .ok (event, dropped)) : ReadBack span event := by
  obtain ⟨hmetadata, herror, hname⟩ := fields_sourceRun hsource
  obtain ⟨⟨rest, hattributes⟩, hkind⟩ := attributes_toEvent hevent
  have hof := toEvent_eq_ok hevent
  have hspan : source.name = span.name := by
    rw [h.name, hmirrored.name] at hname
    exact (Option.some.inj (Option.filter_eq_some_iff.mp hname).1).symm
  refine ⟨hof.name.trans hspan, ?_, ?_, fun entry hentry => ?_⟩
  · rw [hkind, hspan]
  · rw [hof.errorCode, herror, h.error, hmirrored.errorStatus]
  · have hallowed := hclean.attributes entry hentry
    have hlookup : span.attributes.lookup entry.1 = some entry.2 :=
      Dictionary.lookup_of_mem hclean.keys hentry
    rw [hmetadata] at hattributes
    refine lookup_allowlistedAttributes hattributes hallowed.allowed ?_
      (keptScalar_toPy hallowed.clean)
    apply lookup_metadataOf h hallowed.allowed
    rw [hmirrored.metadata entry.1 hallowed.allowed, hlookup]

/-- Every run of LangSmith that keeps the exported span is imported with its evidence. -/
def ImportedAs (sdk : SpanSdk Exported) (span : RecorderSpan) (exported : Exported) : Prop :=
  ∀ run source event dropped, KeptBy sdk exported run → sourceRunFromLangsmith run = .ok source →
    toEvent source = .ok (event, dropped) → ReadBack span event

/-- A span of OpenTelemetry with the evidence of a span of the recorder: it has just what that span
has, and so has whatever it is imported as. -/
structure SpanEvidence (sdk : SpanSdk Exported) (span : RecorderSpan) (exported : Exported) :
    Prop where
  mirrored : Mirrored sdk span exported
  imported : ImportedAs sdk span exported

/-- **What is exported of a program**: every span once, with the evidence that it had when it ended,
all of which the listener hears at the end of its block. If the program leaves the ends of its spans
to their blocks, the exported spans are those that the listener hears end, in that order. -/
structure EvidenceExported {α : Type} (sdk : SpanSdk Exported) (recorder : TraceRecorder Exported)
    (program : TracedProgram α) : Prop where
  once : (program.run recorder.handler {}).2.ended.Perm
    (List.range (program.run recorder.handler {}).2.spans.length)
  evidence : ∀ ended ∈ (program.run recorder.handler {}).2.exported,
    ∃ heard ∈ (program.run recorder.handler {}).2.endings, heard.id = ended.id ∧
      ∃ span : RecorderSpan, span.Grows heard.span ∧ SpanEvidence sdk span ended.span
  ordered : (program.Acts fun action => ¬ action.EndsSpan) →
    List.Forall₂ (fun heard ended => heard.id = ended.id ∧ SpanEvidence sdk heard.span ended.span)
      (program.run recorder.handler {}).2.endings (program.run recorder.handler {}).2.exported

/-- A clean span and its mirror have one evidence. -/
theorem evidence_of_mirrored {forbidden : List String} (hclean : span.Clean forbidden)
    (hmirrored : Mirrored sdk span exported) : SpanEvidence sdk span exported := by
  refine ⟨hmirrored, ?_⟩
  intro run source event dropped hkept hsource hevent
  exact readBack_of_keptBy hclean hmirrored hkept hsource hevent

end Import

/-! ## A bounded span -/

/-- A span with at most 128 attributes, each name once, the newest first. -/
structure BoundedSpan where
  name : String
  context : SpanContext
  attributes : AList fun _ : String => Scalar := ∅
  errorStatus : Option String := none

namespace BoundedSpan

/-- The newest attributes but one, at most 127 of them. -/
def others (span : BoundedSpan) (key : String) : AList fun _ : String => Scalar where
  entries := (span.attributes.erase key).entries.take 127
  nodupKeys := (span.attributes.erase key).nodupKeys.sublist (List.take_sublist _ _)

/-- A new attribute makes the oldest one give way when the span is full. -/
def setAttribute (span : BoundedSpan) (key : String) (value : Scalar) : BoundedSpan :=
  if key = "" then span
  else { span with attributes := (span.others key).insert key value }

/-- Nothing gives way as long as the names fit. -/
theorem others_of_length_le {span : BoundedSpan} {key : String} {names : List String}
    (hlength : names.length ≤ 128) (hkey : key ∈ names)
    (hnames : ∀ other, (span.attributes.lookup other).isSome → other ∈ names) :
    span.others key = span.attributes.erase key := by
  have hnotMem : key ∉ (span.attributes.erase key).keys := by
    intro hmem
    exact (AList.mem_erase.mp (AList.mem_keys.mpr hmem)).1 rfl
  -- the other names and the new one are distinct names among the given ones
  have hnodup : (key :: (span.attributes.erase key).keys).Nodup :=
    List.nodup_cons.mpr ⟨hnotMem, AList.keys_nodup _⟩
  have hsubset : key :: (span.attributes.erase key).keys ⊆ names := by
    intro other hother
    rcases List.mem_cons.mp hother with rfl | hother
    · exact hkey
    · exact hnames other (AList.lookup_isSome.mpr (AList.mem_erase.mp hother).2)
  have hfits : (span.attributes.erase key).entries.length ≤ 127 := by
    have hall := (hnodup.subperm hsubset).length_le
    rw [List.length_cons, AList.keys, List.keys, List.length_map] at hall
    omega
  exact AList.ext (List.take_of_length_le hfits)

end BoundedSpan

/-- A span outside of any other starts a trace, and a span within another one is of its trace. -/
def boundedSdk : SpanSdk BoundedSpan where
  ambient := ⟨0, 0⟩
  start parent id name :=
    { name := name
      context := ⟨if parent.traceId = 0 then id + 1 else parent.traceId, id + 1⟩ }
  context := BoundedSpan.context
  setAttribute := BoundedSpan.setAttribute
  setStatus span code := { span with errorStatus := some code }
  name := BoundedSpan.name
  value span key := span.attributes.lookup key
  errorStatus := BoundedSpan.errorStatus

theorem boundedSdk_keeps : boundedSdk.Keeps 128 where
  name_start _ _ _ := rfl
  name_setAttribute span key value := by
    change (span.setAttribute key value).name = span.name
    unfold BoundedSpan.setAttribute
    split_ifs <;> rfl
  name_setStatus _ _ := rfl
  value_start parent id name key := by
    change AList.lookup key (∅ : AList fun _ : String => Scalar) = none
    exact AList.lookup_empty key
  value_setAttribute span key value names hlength hne hkey hnames other := by
    have hkept := BoundedSpan.others_of_length_le hlength hkey hnames
    change (span.setAttribute key value).attributes.lookup other =
      if other = key then some value else span.attributes.lookup other
    rw [BoundedSpan.setAttribute, if_neg hne, hkept]
    split_ifs with heq
    · rw [heq, AList.lookup_insert]
    · rw [AList.lookup_insert_ne heq, AList.lookup_erase_ne heq]
  value_setStatus _ _ _ := rfl
  errorStatus_start _ _ _ := rfl
  errorStatus_setAttribute span key value := by
    change (span.setAttribute key value).errorStatus = span.errorStatus
    unfold BoundedSpan.setAttribute
    split_ifs <;> rfl
  errorStatus_setStatus _ _ := rfl

section Examples

attribute [local instance] asciiTables epochTexts

/-- A turn with a call of a tool that fails, whose error escapes the turn. -/
def failedToolTurn : TracedProgram Unit :=
  .within { name := "support_agent.turn" }
    (fun _ => .within
      { name := "tool.lookup_order", attributes := some [("tool.name", .str "lookup_order")] }
      (fun id => .act (.setError id "dependency_timeout") fun _ =>
        .done (.error (.other "TimeoutError" "The order lookup timed out")))
      .done)
    .done

/-- The span of the call, as a run of LangSmith. -/
def failedToolRecord : Record :=
  [("id", .str "run-1"), ("name", .str "tool.lookup_order"),
    ("start_time", .str "1970-01-01T00:00:00+00:00"), ("error", .str "dependency_timeout"),
    ("metadata", .dict [("tool.name", .str "lookup_order"), ("ls_method", .str "traceable")])]

/-- The recorder with tracing enabled. -/
def tracingRecorder : TraceRecorder BoundedSpan where
  tracer := some boundedSdk

/-- The span that is exported of the call. -/
def failedToolSpan : BoundedSpan where
  name := "tool.lookup_order"
  context := ⟨1, 2⟩
  attributes := (AList.singleton "tool.name" (.str "lookup_order")).insert
    "langsmith.metadata.tool.name" (.str "lookup_order")
  errorStatus := some "dependency_timeout"

theorem exported_failedToolTurn :
    (failedToolTurn.run tracingRecorder.handler {}).2.exported =
      [⟨1, failedToolSpan⟩, ⟨0, { name := "support_agent.turn", context := ⟨1, 1⟩ }⟩] := by
  rfl

/-- The span has one attribute under a name that LangSmith indexes. -/
theorem lookup_failedToolSpan {key : String} {value : Scalar}
    (h : boundedSdk.value failedToolSpan (metadataName key) = some value) :
    key = "tool.name" ∧ value = .str "lookup_order" := by
  change failedToolSpan.attributes.lookup (metadataName key) = some value at h
  by_cases hname : metadataName key = "langsmith.metadata.tool.name"
  · rw [hname, failedToolSpan, AList.lookup_insert] at h
    exact ⟨metadataName_injective hname, (Option.some.inj h).symm⟩
  · rw [failedToolSpan, AList.lookup_insert_ne hname] at h
    have hmem := AList.lookup_isSome.mp (Option.isSome_of_eq_some h)
    have heq : metadataName key = "tool.name" := List.mem_singleton.mp hmem
    have hallowed : "tool.name" ∈ traceAttributeAllowlist := by decide +kernel
    exact absurd (heq ▸ hallowed) (metadataName_notMem key)

theorem keptBy_failedToolSpan : KeptBy boundedSdk failedToolSpan failedToolRecord where
  name := rfl
  error := by decide +kernel
  kept key value h := by
    rw [(lookup_failedToolSpan h).1]
    exact Or.inl List.mem_cons_self
  agree entry hentry value h := by
    obtain ⟨hkey, rfl⟩ := lookup_failedToolSpan h
    rcases List.mem_cons.mp hentry with rfl | hentry
    · rfl
    · obtain rfl := List.mem_singleton.mp hentry
      have hother : translateKey "ls_method" ≠ "tool.name" := by decide +kernel
      exact absurd hkey hother

theorem imported_failedToolRecord :
    ∃ source, sourceRunFromLangsmith failedToolRecord = .ok source ∧ (toEvent source).isOk := by
  refine ⟨_, rfl, ?_⟩
  rfl

end Examples
end ObservabilityLab
