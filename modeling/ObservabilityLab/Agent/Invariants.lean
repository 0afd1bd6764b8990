import ObservabilityLab.Agent.Turn
import ObservabilityLab.Simulation.Faults

/-!
# What a turn keeps of its world

A turn reaches its world only through the calls of its repository, and its tools handle no error of
a boundary that rejects an access. So what every call of the repository keeps, the tools and the run
of any model keep, and what a rejecting call leaves behind arrives with its error.

## Main definitions

* `Raised`: what holds when an error is raised, by whether the boundary rejected an access
* `Kept`: what every call of a repository keeps

## Main results

* `Kept.confirmRefund`, `Kept.escalate`, `Kept.runTool`: each tool keeps it
* `Kept.runAnswer`: the run of any model keeps it
-/

namespace ObservabilityLab

open Python Raising

section Kept

variable {World : Type}

/-- What holds when an error is raised: `violated`, when the boundary rejected an access. -/
def Raised (kept : World → List TraceSpan → Prop)
    (violated : PyError → World → List TraceSpan → Prop) (e : PyError) :
    World → List TraceSpan → Prop :=
  if isUnexpectedAccess e = true then violated e else kept

/-- A property of the world and the ended spans, during a turn. -/
def During (P : World → List TraceSpan → Prop) (turn : Turn World) : Prop :=
  P turn.world turn.telemetry.ended

/-- **What every call of a repository keeps.** Further spans do not falsify it. -/
structure Kept (repository : SupportRepository (Action World)) (customerId : Uuid)
    (kept : World → List TraceSpan → Prop)
    (violated : PyError → World → List TraceSpan → Prop) : Prop where
  mono : ∀ world spans more, kept world spans → kept world (spans ++ more)
  monoViolated : ∀ e world spans more, violated e world spans → violated e world (spans ++ more)
  getOrder : ∀ orderId spans, Triple (kept · spans) (repository.getOrder orderId)
    (fun _ => (kept · spans)) fun e => (Raised kept violated e · spans)
  refundOrderIfDelivered : ∀ orderId spans,
    Triple (kept · spans) (repository.refundOrderIfDelivered orderId customerId)
      (fun _ => (kept · spans)) fun e => (Raised kept violated e · spans)
  createTicket : ∀ ticket spans, ticket.customerId = customerId → ticket.orderId = none →
    Triple (kept · spans) (repository.createTicket ticket)
      (fun _ => (kept · spans)) fun e => (Raised kept violated e · spans)
  getPolicy : ∀ slug version spans, Triple (kept · spans) (repository.getPolicy slug version)
    (fun _ => (kept · spans)) fun e => (Raised kept violated e · spans)

variable {kept : World → List TraceSpan → Prop}
  {violated : PyError → World → List TraceSpan → Prop}

theorem raised_of_not_violation {e : PyError} (h : isUnexpectedAccess e = false) :
    Raised kept violated e = kept := by
  rw [Raised, if_neg (Bool.eq_false_iff.mp h)]

/-- An error of the application is raised as the application leaves the world. -/
theorem throw_triple {α : Type} {P : World → Prop} {Q : α → World → Prop} {e : PyError}
    {spans : List TraceSpan} (h : isUnexpectedAccess e = false)
    (hkept : ∀ world, P world → kept world spans) :
    Triple P (throw e : Action World α) Q fun e => (Raised kept violated e · spans) := by
  refine triple_throw fun world hP => ?_
  rw [raised_of_not_violation h]
  exact hkept world hP

namespace Kept

variable {repository : SupportRepository (Action World)} {customerId : Uuid}

/-! ## The support services -/

theorem serviceGetOrder (h : Kept repository customerId kept violated) (orderId actorId : Uuid)
    (spans : List TraceSpan) :
    Triple (kept · spans) (ObservabilityLab.getOrder repository orderId actorId)
      (fun _ => (kept · spans)) fun e => (Raised kept violated e · spans) := by
  refine triple_bind (h.getOrder orderId spans) fun found => ?_
  cases found with
  | none => exact throw_triple rfl fun _ hP => hP
  | some order =>
    dsimp only
    split
    · exact throw_triple rfl fun _ hP => hP
    · exact triple_pure fun _ hP => hP

theorem serviceGetLatestPolicy (h : Kept repository customerId kept violated) (slug : String)
    (spans : List TraceSpan) :
    Triple (kept · spans) (getLatestPolicy repository slug)
      (fun _ => (kept · spans)) fun e => (Raised kept violated e · spans) := by
  refine triple_bind (h.getPolicy slug none spans) fun found => ?_
  cases found with
  | none => exact throw_triple rfl fun _ hP => hP
  | some policy => exact triple_pure fun _ hP => hP

theorem serviceRequestRefund (h : Kept repository customerId kept violated) (orderId : Uuid)
    (spans : List TraceSpan) :
    Triple (kept · spans) (requestRefund repository ⟨customerId, orderId⟩)
      (fun _ => (kept · spans)) fun e => (Raised kept violated e · spans) := by
  refine triple_bind (h.serviceGetOrder orderId customerId spans) fun order => ?_
  split
  · exact throw_triple rfl fun _ hP => hP
  · refine triple_bind (h.refundOrderIfDelivered orderId spans) fun saved => ?_
    cases saved with
    | some saved => exact triple_pure fun _ hP => hP
    | none =>
      refine triple_bind (h.getOrder orderId spans) fun found => ?_
      cases found with
      | none => exact throw_triple rfl fun _ hP => hP
      | some current =>
        dsimp only
        split
        · exact throw_triple rfl fun _ hP => hP
        · exact throw_triple rfl fun _ hP => hP

/-! ## The tools of the service -/

theorem during_stable (h : Kept repository customerId kept violated) : Stable (During kept) := by
  rintro turn telemetry ⟨more, hmore⟩ hP
  unfold During
  rw [← hmore]
  exact h.mono _ _ more hP

theorem raised_stable (h : Kept repository customerId kept violated) (e : PyError) :
    Stable (During (Raised kept violated e)) := by
  rintro turn telemetry ⟨more, hmore⟩ hP
  unfold During Raised at *
  rw [← hmore]
  split_ifs at hP ⊢
  · exact h.monoViolated e _ _ more hP
  · exact h.mono _ _ more hP

end Kept

theorem during_onWorld {α : Type} {x : Action World α}
    (hx : ∀ spans, Triple (kept · spans) x (fun _ => (kept · spans))
      fun e => (Raised kept violated e · spans)) :
    Triple (During kept) (onWorld x) (fun _ => During kept)
      fun e => During (Raised kept violated e) :=
  triple_zoom fun turn hP => triple_mono (hx turn.telemetry.ended) (by rintro _ rfl; exact hP)
    (fun _ _ hQ => hQ) fun _ _ hE => hE

theorem during_updateService {f : ServiceState → ServiceState} {P : World → List TraceSpan → Prop}
    {E : PyError → Turn World → Prop} :
    Triple (During P) (updateService f) (fun _ => During P) E :=
  triple_modify fun _ hP => hP

/-- An error of the application, during a turn. -/
theorem during_throw {α : Type} {Q : α → Turn World → Prop} {e : PyError}
    (h : isUnexpectedAccess e = false) :
    Triple (During kept) (throw e : Action (Turn World) α) Q
      fun e => During (Raised kept violated e) := by
  refine triple_throw fun turn hP => ?_
  rw [raised_of_not_violation h]
  exact hP

namespace Kept

variable {service : SupportAgentService World}

theorem databaseCall {α : Type} (h : Kept service.repository service.customerId kept violated)
    {x : Action World α}
    (hx : ∀ spans, Triple (kept · spans) x (fun _ => (kept · spans))
      fun e => (Raised kept violated e · spans)) :
    Triple (During kept) (SupportAgentService.databaseCall x) (fun _ => During kept)
      fun e => During (Raised kept violated e) :=
  span_triple h.during_stable (fun _ => h.during_stable) h.raised_stable (during_onWorld hx)

theorem getOrderStatus (h : Kept service.repository service.customerId kept violated)
    (orderId : Uuid) :
    Triple (During kept) (service.getOrderStatus orderId) (fun _ => During kept)
      fun e => During (Raised kept violated e) :=
  triple_bind (h.databaseCall (h.serviceGetOrder orderId service.customerId)) fun _ =>
    triple_bind during_updateService fun _ => triple_pure fun _ hP => hP

theorem getPolicyTool (h : Kept service.repository service.customerId kept violated)
    (slug : String) :
    Triple (During kept) (service.getPolicy slug) (fun _ => During kept)
      fun e => During (Raised kept violated e) := by
  refine span_triple h.during_stable (fun _ => h.during_stable) h.raised_stable ?_
  refine triple_bind (h.databaseCall (h.serviceGetLatestPolicy slug)) fun _ => ?_
  refine triple_bind (setAttribute_triple h.during_stable) fun _ => ?_
  exact triple_bind during_updateService fun _ => triple_pure fun _ hP => hP

theorem proposeEligible (h : Kept service.repository service.customerId kept violated)
    (orderId : Uuid) :
    Triple (During kept) (service.proposeEligible orderId) (fun _ => During kept)
      fun e => During (Raised kept violated e) := by
  refine triple_bind (h.getOrderStatus orderId) fun order => ?_
  split
  · refine triple_bind (span_pure_triple h.during_stable) fun _ => ?_
    exact triple_bind during_updateService fun _ => during_throw rfl
  · refine triple_bind (span_pure_triple h.during_stable) fun _ => ?_
    refine triple_bind (Q := fun _ => During kept) (triple_get fun _ hP => hP) fun _ => ?_
    refine triple_bind during_updateService fun _ => ?_
    refine triple_bind (span_pure_triple h.during_stable) fun _ => ?_
    exact triple_bind during_updateService fun _ => triple_pure fun _ hP => hP

theorem proposeRefund (h : Kept service.repository service.customerId kept violated)
    (orderId : Uuid) :
    Triple (During kept) (service.proposeRefund orderId) (fun _ => During kept)
      fun e => During (Raised kept violated e) := by
  refine triple_attempt_bind (h.proposeEligible orderId) (fun proposal => ?_) fun e => ?_
  · exact triple_pure fun _ hP => hP
  · exact triple_bind during_updateService fun _ => triple_throw fun _ hP => hP

theorem confirmRefund (h : Kept service.repository service.customerId kept violated)
    (orderId : Uuid) :
    Triple (During kept) (service.confirmRefund orderId) (fun _ => During kept)
      fun e => During (Raised kept violated e) := by
  refine triple_bind (Q := fun _ => During kept) (triple_get fun _ hP => hP) fun turn => ?_
  split
  · refine triple_bind (span_pure_triple h.during_stable) fun _ => ?_
    exact triple_bind during_updateService fun _ => during_throw rfl
  · refine triple_bind (span_triple h.during_stable (fun _ => h.during_stable) h.raised_stable
      (h.databaseCall (h.serviceRequestRefund orderId))) fun _ => ?_
    exact triple_bind during_updateService fun _ => triple_pure fun _ hP => hP

theorem escalate (h : Kept service.repository service.customerId kept violated)
    (subject : String) :
    Triple (During kept) (service.escalate subject) (fun _ => During kept)
      fun e => During (Raised kept violated e) := by
  refine span_triple h.during_stable (fun _ => h.during_stable) h.raised_stable ?_
  by_cases hsubject : lengthWithin 1 300 subject = true
  · simp only [CreateTicketCommand.new, dif_pos hsubject]
    refine triple_bind (triple_pure (Q := fun command turn =>
      command = { actorId := service.customerId, subject := subject, validSubject := hsubject } ∧
        During kept turn) fun _ hP => ⟨rfl, hP⟩) fun command => ?_
    refine triple_of_eq ?_
    rintro turn ⟨hcommand, hP⟩
    rw [hcommand]
    refine triple_bind (triple_mono (during_onWorld fun spans => h.createTicket _ spans rfl rfl)
      (by rintro _ rfl; exact hP) (fun _ _ hQ => hQ) fun _ _ hE => hE) fun ticket => ?_
    exact triple_bind during_updateService fun _ => triple_pure fun _ hP => hP
  · simp only [CreateTicketCommand.new, dif_neg hsubject]
    exact triple_bind (during_throw (Q := fun _ _ => False) rfl) fun _ _ hP => hP.elim

/-! ## The tool functions and the model -/

theorem transientFailure (h : Kept service.repository service.customerId kept violated) :
    Triple (During kept) transientFailure (fun _ => During kept)
      fun e => During (Raised kept violated e) := by
  refine triple_bind (Q := fun _ => During kept) (triple_modify fun _ hP => hP) fun _ => ?_
  refine triple_bind (span_triple h.during_stable (fun _ => h.during_stable) h.raised_stable
    (setError_triple h.during_stable)) fun _ => ?_
  exact triple_bind (setAttribute_triple h.during_stable) fun _ => triple_pure fun _ hP => hP

/-- A tool function handles only errors of the application. -/
theorem toolFunction (h : Kept service.repository service.customerId kept violated) {α : Type}
    {name : String} {refusals : List Refusal} {retries : Bool} {call : Action (Turn World) α}
    {reply : α → String} (hrefusals : ∀ r ∈ refusals, isUnexpectedAccess r.error = false)
    (hcall : Triple (During kept) call (fun _ => During kept)
      fun e => During (Raised kept violated e)) :
    Triple (During kept) (toolFunction name refusals retries call reply) (fun _ => During kept)
      fun e => During (Raised kept violated e) := by
  refine span_triple h.during_stable (fun _ => h.during_stable) h.raised_stable ?_
  refine triple_attempt_bind hcall (fun a => ?_) fun e => ?_
  · exact triple_bind during_updateService fun _ => triple_pure fun _ hP => hP
  · have hhandled : isUnexpectedAccess e = false → ∀ turn,
        During (Raised kept violated e) turn → During kept turn := by
      intro hfalse turn hP
      rwa [raised_of_not_violation hfalse] at hP
    cases hrefusal : refusals.find? (·.error = e) with
    | some refusal =>
      have hmem := List.mem_of_find?_eq_some hrefusal
      have herror : refusal.error = e := by simpa using List.find?_some hrefusal
      simp only [hrefusal]
      refine triple_mono (P := During kept) ?_ (hhandled (herror ▸ hrefusals refusal hmem))
        (fun _ _ hQ => hQ) fun _ _ hE => hE
      refine triple_bind (setAttribute_triple h.during_stable) fun _ => ?_
      exact triple_bind (setError_triple h.during_stable) fun _ => triple_pure fun _ hP => hP
    | none =>
      simp only [hrefusal]
      split
      · rename_i hretry
        have htransient : isUnexpectedAccess e = false := by
          cases e with
          | other name message => rfl
          | _ => simp [isTransient] at hretry
        exact triple_mono h.transientFailure (hhandled htransient) (fun _ _ hQ => hQ)
          fun _ _ hE => hE
      · exact triple_throw fun _ hP => hP

/-- **Each tool function keeps what the repository keeps.** -/
theorem runTool (h : Kept service.repository service.customerId kept violated)
    (call : ToolCall) :
    Triple (During kept) (runTool service call) (fun _ => During kept)
      fun e => During (Raised kept violated e) := by
  cases call with
  | getOrderStatus orderId =>
    refine h.toolFunction ?_ (h.getOrderStatus orderId)
    simp only [List.forall_mem_cons]
    exact ⟨rfl, rfl, List.forall_mem_nil _⟩
  | getPolicy slug =>
    refine h.toolFunction ?_ (h.getPolicyTool slug)
    simp only [List.forall_mem_cons]
    exact ⟨rfl, List.forall_mem_nil _⟩
  | proposeRefund orderId =>
    refine h.toolFunction ?_ (h.proposeRefund orderId)
    simp only [List.forall_mem_cons]
    exact ⟨rfl, rfl, rfl, List.forall_mem_nil _⟩
  | confirmRefund orderId =>
    refine h.toolFunction ?_ (h.confirmRefund orderId)
    simp only [List.forall_mem_cons]
    exact ⟨rfl, rfl, rfl, List.forall_mem_nil _⟩
  | escalate subject => exact h.toolFunction (List.forall_mem_nil _) (h.escalate _)

/-- **The run of any model keeps what the repository keeps**, by induction on its strategy. -/
theorem runAnswer (h : Kept service.repository service.customerId kept violated)
    (tools : List String) (model : AnswerModel) :
    Triple (During kept) (runAnswer service tools model) (fun _ => During kept)
      fun e => During (Raised kept violated e) := by
  induction model with
  | draft draft => exact triple_pure fun _ hP => hP
  | fails name message => exact during_throw rfl
  | calls call next ih =>
    refine triple_bind (Q := fun _ => During kept) ?_ fun reply => ih reply
    unfold answerCall
    split
    · exact h.runTool call
    · exact triple_pure fun _ hP => hP

end Kept

/-! ## The spans of a turn -/

/-- No call of a repository ends a span. -/
theorem spans_kept (repository : SupportRepository (Action World)) (customerId : Uuid)
    (older : List TraceSpan) :
    Kept repository customerId (fun _ spans => older <+: spans) fun _ _ spans =>
      older <+: spans := by
  have hcall : ∀ {α : Type} (x : Action World α) (spans : List TraceSpan),
      Triple (fun _ => older <+: spans) x (fun _ _ => older <+: spans) fun e world =>
        Raised (fun _ spans => older <+: spans)
          (fun _ _ spans => older <+: spans) e world spans := by
    intro α x spans
    refine triple_of_runs (fun _ _ _ h _ => h) fun _ e _ h _ => ?_
    rw [Raised, ite_self]
    exact h
  exact
    { mono := fun _ _ _ h => h.trans (List.prefix_append _ _)
      monoViolated := fun _ _ _ _ h => h.trans (List.prefix_append _ _)
      getOrder := fun _ => hcall _
      refundOrderIfDelivered := fun _ => hcall _
      createTicket := fun _ spans _ _ => hcall _ spans
      getPolicy := fun _ _ => hcall _ }

variable (service : SupportAgentService World) (older : List TraceSpan)

/-- A tool function leaves the ended spans as they are, and only adds to them. -/
theorem runTool_spans (call : ToolCall) :
    Keeps (fun turn : Turn World => older <+: turn.telemetry.ended) (runTool service call) :=
  triple_mono ((spans_kept service.repository service.customerId older).runTool call)
    (fun _ h => h) (fun _ _ h => h) fun e turn h => by rwa [During, Raised, ite_self] at h

theorem confirmRefund_spans (orderId : Uuid) :
    Keeps (fun turn : Turn World => older <+: turn.telemetry.ended)
      (service.confirmRefund orderId) :=
  triple_mono ((spans_kept service.repository service.customerId older).confirmRefund orderId)
    (fun _ h => h) (fun _ _ h => h) fun e turn h => by rwa [During, Raised, ite_self] at h

end Kept

end ObservabilityLab
