import ObservabilityLab.Telemetry.Recorder

/-!
# What a listener hears

Whatever program uses the recorder, with exceptions that escape any number of its spans, the
listener hears every span start once and end once, nested, and every attribute that it hears may be
recorded. Tracing makes no difference to the listener, nor to a program but for what the program
itself makes of the tracing that it asks about.

## Main definitions

* `RecorderState.Sound`: what holds of the spans and of what was heard
* `SpansHeard`: what the listener hears of a program

## Main results

* `TraceRecorder.marks`: the recorder numbers the spans, and the listener hears them as markers
* `SoundWithin.enter`, `SoundWithin.act`, `SoundWithin.leave`: the parts of a program
* `TraceRecorder.run_disabled`: the difference that tracing makes to a program
* `spansHeard_run`: what the listener hears, for every program and every recorder
-/

namespace ObservabilityLab

open Python Scopes

/-- The calls of the listener, as the openings and closings of spans. -/
def Heard.marker (heard : Heard) : Marker :=
  if heard.ended then .closed heard.id else .opened heard.id

namespace TraceRecorder

variable {Exported : Type} {recorder : TraceRecorder Exported} {state : RecorderState Exported}

/-- What every assignment of an attribute preserves, the initial attributes preserve. -/
theorem applyInitialAttributes_keeps {P : RecorderState Exported → Prop} {id : ℕ}
    (hset : ∀ name value state, P state →
      P (recorder.setAttribute id name value state).2)
    (attributes : Option Record) (h : P state) :
    P (recorder.applyInitialAttributes id attributes state) := by
  cases attributes with
  | none => exact h
  | some attributes =>
    -- the induction is on the sanitized attributes, from any state that has the property
    change P (List.foldl _ state _)
    induction sanitizeAttributes recorder.forbidden attributes generalizing state with
    | nil => exact h
    | cons entry entries ih => exact ih (hset _ _ _ h)

/-- The initial attributes change only spans. -/
theorem applyInitialAttributes_frame (id : ℕ) (attributes : Option Record)
    (state : RecorderState Exported) :
    (recorder.applyInitialAttributes id attributes state).spans.length =
        state.spans.length ∧
      (recorder.applyInitialAttributes id attributes state).heard = state.heard := by
  refine applyInitialAttributes_keeps (P := fun after =>
    after.spans.length = state.spans.length ∧ after.heard = state.heard) ?_ attributes
    ⟨rfl, rfl⟩
  rintro name value after ⟨hlength, hheard⟩
  exact ⟨(List.length_modify ..).trans hlength, hheard⟩

/-- The end of a span of OpenTelemetry changes neither the recorder's spans nor what was heard. -/
theorem endSpan_frame (id : ℕ) (state : RecorderState Exported) :
    (recorder.endSpan id state).spans = state.spans ∧
      (recorder.endSpan id state).heard = state.heard := by
  unfold endSpan
  split
  · split <;> exact ⟨rfl, rfl⟩
  · exact ⟨rfl, rfl⟩

/-- **The recorder numbers the spans**, and the listener hears them start and end. -/
theorem marks : recorder.handler.Marks (fun state => state.heard.map Heard.marker)
    fun state => state.spans.length where
  enter_id _ _ := rfl
  enter_count arguments state := by
    refine (applyInitialAttributes_frame _ _ _).1.trans ?_
    exact List.length_append
  enter_markers arguments state := by
    change (_ ++ [_]).map Heard.marker = _
    rw [List.map_append, (applyInitialAttributes_frame _ _ _).2]
    rfl
  act_count action state := by
    cases action with
    | setAttribute id name value => exact List.length_modify ..
    | setError id reasonCode => exact List.length_modify ..
    | endSpan id => exact congrArg List.length (endSpan_frame id state).1
    | read id => rfl
    | spanContext id => rfl
    | enabled => rfl
    | currentTraceId => rfl
  act_markers action state := by
    cases action with
    | endSpan id => exact congrArg (List.map Heard.marker) (endSpan_frame id state).2
    | _ => rfl
  leave_count id state := congrArg List.length (endSpan_frame id _).1
  leave_markers id state := by
    change (recorder.endSpan id _).heard.map Heard.marker = _
    rw [(endSpan_frame id _).2]
    exact List.map_append

end TraceRecorder

/-! ## The spans -/

namespace RecorderState

variable {Exported : Type} {state after : RecorderState Exported} {forbidden : List String}

/-- What holds of the spans and of what was heard of them: everything may be recorded, and a span
is heard later with all that it was heard with before. -/
structure Sound (forbidden : List String) (state : RecorderState Exported) : Prop where
  spans : ∀ span ∈ state.spans, span.Clean forbidden
  heard : ∀ heard ∈ state.heard, heard.span.Clean forbidden
  known : ∀ heard ∈ state.heard, heard.id < state.spans.length ∧
    heard.span.Grows (state.span heard.id)
  ordered : state.heard.Pairwise fun earlier later =>
    earlier.id = later.id → earlier.span.Grows later.span

theorem clean_new (forbidden : List String) (name : String) :
    ({ name := name } : RecorderSpan).Clean forbidden :=
  ⟨fun _ hentry => absurd hentry List.not_mem_nil, List.nodup_nil⟩

/-- A span of a number in use is one of the spans. -/
theorem span_mem {id : ℕ} (h : id < state.spans.length) : state.span id ∈ state.spans := by
  rw [span, List.getD_eq_getElem?_getD, List.getElem?_eq_getElem h]
  exact List.getElem_mem h

/-- Only the spans and what was heard of them matter. -/
theorem Sound.congr (h : state.Sound forbidden) (hspans : after.spans = state.spans)
    (hheard : after.heard = state.heard) : after.Sound forbidden := by
  refine ⟨?_, ?_, fun heard hmem => ?_, ?_⟩
  · rw [hspans]
    exact h.spans
  · rw [hheard]
    exact h.heard
  · rw [hheard] at hmem
    rw [span, hspans]
    exact h.known heard hmem
  · rw [hheard]
    exact h.ordered

/-- A new span comes after the others. -/
theorem Sound.start (h : state.Sound forbidden) {name : String}
    (hspans : after.spans = state.spans ++ [{ name := name }])
    (hheard : after.heard = state.heard) : after.Sound forbidden := by
  refine ⟨fun span hspan => ?_, ?_, fun heard hmem => ?_, ?_⟩
  · rw [hspans] at hspan
    rcases List.mem_append.mp hspan with hold | hnew
    · exact h.spans span hold
    · rw [List.mem_singleton.mp hnew]
      exact clean_new forbidden name
  · rw [hheard]
    exact h.heard
  · rw [hheard] at hmem
    obtain ⟨hid, hgrows⟩ := h.known heard hmem
    rw [span, hspans, List.getD_eq_getElem?_getD, List.getElem?_append_left hid,
      ← List.getD_eq_getElem?_getD, List.length_append]
    exact ⟨Nat.lt_add_right _ hid, hgrows⟩
  · rw [hheard]
    exact h.ordered

/-- A change of a span that loses nothing. -/
theorem Sound.modify (h : state.Sound forbidden) {id : ℕ} {f : RecorderSpan → RecorderSpan}
    (hclean : ∀ span : RecorderSpan, span.Clean forbidden → (f span).Clean forbidden)
    (hgrows : ∀ span : RecorderSpan, span.Grows (f span))
    (hspans : after.spans = state.spans.modify id f) (hheard : after.heard = state.heard) :
    after.Sound forbidden := by
  refine ⟨fun span hspan => ?_, ?_, fun heard hmem => ?_, ?_⟩
  -- a span of the new list is an old span, changed or not
  · rw [hspans] at hspan
    obtain ⟨i, hi⟩ := List.mem_iff_getElem?.mp hspan
    rw [List.getElem?_modify] at hi
    obtain ⟨old, hold, rfl⟩ := Option.map_eq_some_iff.mp hi
    have hmem : old ∈ state.spans := List.mem_of_getElem? hold
    split_ifs
    · exact hclean old (h.spans old hmem)
    · exact h.spans old hmem
  · rw [hheard]
    exact h.heard
  · rw [hheard] at hmem
    obtain ⟨hid, hknown⟩ := h.known heard hmem
    rw [span, List.getD_eq_getElem?_getD, List.getElem?_eq_getElem hid] at hknown
    refine ⟨by rwa [hspans, List.length_modify], ?_⟩
    rw [span, hspans, List.getD_eq_getElem?_getD, List.getElem?_modify,
      List.getElem?_eq_getElem hid]
    -- what was heard before is still contained in the span, even if it is the changed one
    change heard.span.Grows (if id = heard.id then f _ else _)
    split_ifs
    · exact hknown.trans (hgrows _)
    · exact hknown
  · rw [hheard]
    exact h.ordered

/-- The listener hears a span. -/
theorem Sound.notify (h : state.Sound forbidden) {id : ℕ} (hid : id < state.spans.length)
    (ended : Bool) : (state.notify id ended).Sound forbidden := by
  refine ⟨h.spans, fun heard hmem => ?_, fun heard hmem => ?_, ?_⟩
  · rcases List.mem_append.mp hmem with hold | hnew
    · exact h.heard heard hold
    · rw [List.mem_singleton.mp hnew]
      exact h.spans _ (span_mem hid)
  · rcases List.mem_append.mp hmem with hold | hnew
    · exact h.known heard hold
    · rw [List.mem_singleton.mp hnew]
      exact ⟨hid, .refl _⟩
  · refine List.pairwise_append.mpr ⟨h.ordered, List.pairwise_singleton _ _, ?_⟩
    -- the span heard now contains whatever was heard of it before
    intro earlier hearlier later hlater heq
    rw [List.mem_singleton.mp hlater] at heq ⊢
    rw [← show earlier.id = id from heq]
    exact (h.known earlier hearlier).2

end RecorderState

/-! ## The parts of a program -/

namespace TraceRecorder

variable {Exported : Type} {recorder : TraceRecorder Exported} {state : RecorderState Exported}

theorem setAttribute_sound (h : state.Sound recorder.forbidden) (id : ℕ) (name : String)
    (value : PyValue) :
    (recorder.setAttribute id name value state).2.Sound recorder.forbidden :=
  h.modify (fun _ hspan => hspan.update (sanitizeAttributes_clean _ _))
    (fun span => span.grows_update _) rfl rfl

theorem setError_sound (h : state.Sound recorder.forbidden) (id : ℕ) (reasonCode : String) :
    (recorder.setError id reasonCode state).Sound recorder.forbidden :=
  h.modify (f := (·.setError reasonCode)) (fun _ hspan => ⟨hspan.attributes, hspan.keys⟩)
    (fun _ => ⟨rfl, fun _ h => h⟩) rfl rfl

/-- **Entering a span** keeps the state sound. -/
theorem enter_sound (h : state.Sound recorder.forbidden) (arguments : SpanArguments) :
    (recorder.enter arguments state).2.Sound recorder.forbidden := by
  have hstarted : (recorder.start arguments.name state).Sound recorder.forbidden :=
    h.start rfl rfl
  have hinitial := applyInitialAttributes_keeps
    (P := fun state => state.Sound recorder.forbidden)
    (fun name value _ h => setAttribute_sound h state.spans.length name value)
    arguments.attributes hstarted
  apply hinitial.notify
  rw [(applyInitialAttributes_frame _ _ _).1]
  exact List.length_append ▸ Nat.lt_succ_self _

theorem endSpan_sound (h : state.Sound recorder.forbidden) (id : ℕ) :
    (recorder.endSpan id state).Sound recorder.forbidden := by
  obtain ⟨hspans, hheard⟩ := recorder.endSpan_frame id state
  exact h.congr hspans hheard

theorem act_sound (h : state.Sound recorder.forbidden) (action : SpanAction) :
    (recorder.act action state).2.Sound recorder.forbidden := by
  cases action with
  | setAttribute id name value => exact setAttribute_sound h id name value
  | setError id reasonCode => exact setError_sound h id reasonCode
  | endSpan id => exact endSpan_sound h id
  | read id => exact h
  | spanContext id => exact h
  | enabled => exact h
  | currentTraceId => exact h

theorem leave_sound (h : state.Sound recorder.forbidden) {id : ℕ} (hid : id < state.spans.length) :
    (recorder.leave id state).Sound recorder.forbidden := by
  have hleft : (state.left id).Sound recorder.forbidden := (h.notify hid true).congr rfl rfl
  exact endSpan_sound hleft id

/-! ## Without a tracer -/

/-- The recorder with tracing disabled. -/
def disabled (recorder : TraceRecorder Exported) : TraceRecorder Exported :=
  { recorder with tracer := none }

/-- Two states with the same spans, of which the same was heard. -/
def Agree (state other : RecorderState Exported) : Prop :=
  state.spans = other.spans ∧ state.heard = other.heard

variable {other : RecorderState Exported}

theorem Agree.refl (state : RecorderState Exported) : Agree state state := ⟨rfl, rfl⟩

theorem endSpan_agree (h : Agree state other) (id : ℕ) :
    Agree (recorder.endSpan id state) (recorder.disabled.endSpan id other) :=
  ⟨(recorder.endSpan_frame id state).1.trans h.1, (recorder.endSpan_frame id state).2.trans h.2⟩

theorem setAttribute_agree (h : Agree state other) (id : ℕ) (name : String) (value : PyValue) :
    Agree (recorder.setAttribute id name value state).2
      (recorder.disabled.setAttribute id name value other).2 :=
  ⟨congrArg (fun spans : List RecorderSpan => spans.modify id _) h.1, h.2⟩

theorem applyInitialAttributes_agree (h : Agree state other) (id : ℕ)
    (attributes : Option Record) :
    Agree (recorder.applyInitialAttributes id attributes state)
      (recorder.disabled.applyInitialAttributes id attributes other) := by
  cases attributes with
  | none => exact h
  | some attributes =>
    change Agree (List.foldl _ state (sanitizeAttributes recorder.forbidden attributes))
      (List.foldl _ other (sanitizeAttributes recorder.forbidden attributes))
    induction sanitizeAttributes recorder.forbidden attributes generalizing state other with
    | nil => exact h
    | cons entry entries ih => exact ih (setAttribute_agree h id entry.1 entry.2.toPy)

theorem notify_agree (h : Agree state other) (id : ℕ) (ended : Bool) :
    Agree (state.notify id ended) (other.notify id ended) := by
  obtain ⟨hspans, hheard⟩ := h
  refine ⟨hspans, ?_⟩
  rw [RecorderState.notify, RecorderState.notify, RecorderState.span, RecorderState.span, hspans,
    hheard]

/-- **The difference that tracing makes to a program** is in its result only, and only in what the
program makes of the tracing that it asks about. -/
theorem run_disabled {α : Type} (recorder : TraceRecorder Exported) {program : TracedProgram α}
    {related : Except PyError α → Except PyError α → Prop}
    (halike : program.Alike SpanAction.AsksTracing related program) :
    related (program.run recorder.handler {}).1 (program.run recorder.disabled.handler {}).1 ∧
      Agree (program.run recorder.handler {}).2 (program.run recorder.disabled.handler {}).2 := by
  refine ScopedProgram.run_related (R := Agree) ?_ ?_ ?_ halike (Agree.refl _)
  · rintro arguments state other h
    -- the same number of spans gives the new span the same number
    have hlength := congrArg List.length h.1
    have hstarted : Agree (recorder.start arguments.name state)
        (recorder.disabled.start arguments.name other) :=
      ⟨congrArg (· ++ _) h.1, h.2⟩
    refine ⟨hlength, ?_⟩
    change Agree (RecorderState.notify _ state.spans.length _) (RecorderState.notify _ _ _)
    rw [hlength]
    exact notify_agree (applyInitialAttributes_agree hstarted _ _) _ _
  · rintro action state other h
    cases action with
    | setAttribute id name value => exact ⟨fun _ => rfl, setAttribute_agree h id name value⟩
    | setError id reasonCode =>
      exact ⟨fun _ => rfl, congrArg (fun spans : List RecorderSpan => spans.modify id _) h.1, h.2⟩
    | endSpan id => exact ⟨fun _ => rfl, endSpan_agree h id⟩
    | read id =>
      refine ⟨fun _ => ?_, h⟩
      change state.span id = other.span id
      rw [RecorderState.span, RecorderState.span, h.1]
    -- what is asked about the tracing is answered differently, but changes nothing
    | spanContext id => exact ⟨fun hfree => absurd trivial hfree, h⟩
    | enabled => exact ⟨fun hfree => absurd trivial hfree, h⟩
    | currentTraceId => exact ⟨fun hfree => absurd trivial hfree, h⟩
  · rintro id state other h
    have hleft : Agree (state.left id) (other.left id) := notify_agree h id true
    exact endSpan_agree hleft id

end TraceRecorder

/-! ## Every program -/

/-- **What the listener hears of a program**: every span once when it starts and once when it ends,
in its number's turn and nested, although exceptions may escape; only what may be recorded; and a
span as it ends with every attribute that it had when it started. Of a program that does not ask
about the tracing it hears the same without tracing, and the result is the same; so it is if the
program does ask, but records alike whatever it is told, up to what it returns of that. -/
structure SpansHeard {Exported α : Type} (recorder : TraceRecorder Exported)
    (program : TracedProgram α) : Prop where
  unasked : (program.Acts fun action => ¬ action.AsksTracing) →
    (program.run recorder.handler {}).1 = (program.run recorder.disabled.handler {}).1 ∧
      (program.run recorder.handler {}).2.heard =
        (program.run recorder.disabled.handler {}).2.heard
  asked : ∀ related, program.Alike SpanAction.AsksTracing related program →
    related (program.run recorder.handler {}).1 (program.run recorder.disabled.handler {}).1 ∧
      (program.run recorder.handler {}).2.heard =
        (program.run recorder.disabled.handler {}).2.heard
  nested : WellNested ((program.run recorder.handler {}).2.heard.map Heard.marker)
  started : Marker.opens ((program.run recorder.handler {}).2.heard.map Heard.marker) =
    List.range (program.run recorder.handler {}).2.spans.length
  ended : (Marker.closes ((program.run recorder.handler {}).2.heard.map Heard.marker)).Perm
    (List.range (program.run recorder.handler {}).2.spans.length)
  clean : ∀ heard ∈ (program.run recorder.handler {}).2.heard,
    heard.span.Clean recorder.forbidden
  grows : (program.run recorder.handler {}).2.heard.Pairwise fun earlier later =>
    earlier.id = later.id → earlier.span.Grows later.span

/-- The state is sound, and the open spans are known. -/
def SoundWithin {Exported : Type} (recorder : TraceRecorder Exported) (scopes : List ℕ)
    (state : RecorderState Exported) : Prop :=
  state.Sound recorder.forbidden ∧ ∀ id ∈ scopes, id < state.spans.length

namespace SoundWithin

variable {Exported : Type} {recorder : TraceRecorder Exported} {scopes : List ℕ}
  {state : RecorderState Exported}

theorem enter (h : SoundWithin recorder scopes state) (arguments : SpanArguments) :
    SoundWithin recorder ((recorder.enter arguments state).1 :: scopes)
      (recorder.enter arguments state).2 := by
  have hcount : (recorder.enter arguments state).2.spans.length = state.spans.length + 1 :=
    recorder.marks.enter_count arguments state
  refine ⟨TraceRecorder.enter_sound h.1 arguments, fun id hid => ?_⟩
  rw [hcount]
  rcases List.mem_cons.mp hid with rfl | hid
  · exact Nat.lt_succ_self _
  · exact Nat.lt_succ_of_lt (h.2 id hid)

theorem act (h : SoundWithin recorder scopes state) (action : SpanAction) :
    SoundWithin recorder scopes (recorder.act action state).2 := by
  have hcount : (recorder.act action state).2.spans.length = state.spans.length :=
    recorder.marks.act_count action state
  refine ⟨TraceRecorder.act_sound h.1 action, fun id hid => ?_⟩
  rw [hcount]
  exact h.2 id hid

theorem leave {id : ℕ} (h : SoundWithin recorder (id :: scopes) state) :
    SoundWithin recorder scopes (recorder.leave id state) := by
  have hcount : (recorder.leave id state).spans.length = state.spans.length :=
    recorder.marks.leave_count id state
  refine ⟨TraceRecorder.leave_sound h.1 (h.2 id List.mem_cons_self), fun other hother => ?_⟩
  rw [hcount]
  exact h.2 other (List.mem_cons_of_mem _ hother)

end SoundWithin

/-- Nothing has happened yet. -/
theorem soundWithin_empty {Exported : Type} (recorder : TraceRecorder Exported) :
    SoundWithin recorder [] {} := by
  refine ⟨⟨?_, ?_, ?_, List.Pairwise.nil⟩, fun id hid => absurd hid List.not_mem_nil⟩
  · exact fun span hspan => absurd hspan List.not_mem_nil
  · exact fun heard hheard => absurd hheard List.not_mem_nil
  · exact fun heard hheard => absurd hheard List.not_mem_nil

/-- After a program the state is sound. -/
theorem sound_run {Exported α : Type} (recorder : TraceRecorder Exported)
    (program : TracedProgram α) :
    (program.run recorder.handler {}).2.Sound recorder.forbidden := by
  have hrun : SoundWithin recorder [] (program.run recorder.handler {}).2 := by
    refine ScopedProgram.run_invariant (P := SoundWithin recorder) ?_ ?_ ?_ program.acts_true
      (soundWithin_empty recorder)
    · exact fun arguments scopes state h => h.enter arguments
    · exact fun action scopes state _ h => h.act action
    · exact fun id scopes state h => h.leave
  exact hrun.1

/-- **The listener hears every program**, whatever it records and however it ends. -/
theorem spansHeard_run {Exported α : Type} (recorder : TraceRecorder Exported)
    (program : TracedProgram α) : SpansHeard recorder program := by
  -- three views of one run: without a tracer, as markers, and span by span
  have hasked : ∀ related, program.Alike SpanAction.AsksTracing related program →
      related (program.run recorder.handler {}).1 (program.run recorder.disabled.handler {}).1 ∧
        (program.run recorder.handler {}).2.heard =
          (program.run recorder.disabled.handler {}).2.heard := by
    intro related halike
    obtain ⟨hresult, -, hheard⟩ := recorder.run_disabled halike
    exact ⟨hresult, hheard⟩
  obtain ⟨added, n, hadded, hnested, hcount, hopens⟩ := program.marks_run recorder.marks {}
  have hsound := sound_run recorder program
  have hmarkers : (program.run recorder.handler {}).2.heard.map Heard.marker = added := hadded
  have hn : (program.run recorder.handler {}).2.spans.length = n := hcount.trans (Nat.zero_add n)
  have hrange : Marker.opens added = List.range n := hopens.trans List.range_eq_range'.symm
  refine ⟨fun hacts => hasked Eq hacts.alike, hasked, ?_, ?_, ?_, hsound.heard, hsound.ordered⟩
  · rw [hmarkers]
    exact hnested
  · rw [hmarkers, hn]
    exact hrange
  · rw [hmarkers, hn, ← hrange]
    exact hnested.perm.symm

/-- A turn that puts its trace id into the response records alike without one. -/
example :
    let turn : TracedProgram (Option String) := .within { name := "support_agent.turn" }
      (fun _ => .act .currentTraceId fun traceId => .done (.ok traceId)) .done
    turn.Alike SpanAction.AsksTracing (fun result result' => result.isOk = result'.isOk) turn :=
  .within (fun _ => .act fun _ _ _ => .done rfl) fun _ _ hended => .done hended

end ObservabilityLab
