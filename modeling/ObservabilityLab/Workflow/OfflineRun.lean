import ObservabilityLab.Workflow.DecidedRuns
import ObservabilityLab.Workflow.Offline

/-!
# The offline workflow answers

A workflow with the default dependencies, on a repository whose reads and writes succeed, returns a
response exactly if the stored text fits where it goes: the text of the policy into an answer, and
its version into the proposal of a refund. Every other request is answered, escalated, or waits for
its confirmation.

## Main definitions

* `Answerable`: the stored text fits where the route of the request takes it
* `Ends`, `Continues`: whether a run from a node returns, and how a node decides that

## Main results

* `ends_route`: the run of a request
* `start_returns_iff`: a start returns a response exactly if the request is answerable
-/

namespace ObservabilityLab.Workflow

open Python Raising

variable {World Id : Type}

/-! ## What the default dependencies answer -/

/-- An order, after the ownership check. -/
def Contents.order (contents : Contents) (orderId actorId : Uuid) : Raises OrderRead :=
  match contents.orders orderId with
  | none => .error orderNotFound
  | some order => if order.customerId ≠ actorId then .error forbidden else .ok order

/-- The newest version of a policy document. -/
def Contents.policy (contents : Contents) (slug : String) : Raises PolicyDocumentRead :=
  match contents.policies slug with
  | none => .error policyNotFound
  | some policy => .ok policy

/-- A route refers to an order of the actor. -/
def Contents.RefersTo (contents : Contents) (actorId : Uuid) (route : RoutingDecision)
    (order : OrderRead) : Prop :=
  ∃ orderId, route.orderId = some orderId ∧ contents.orders orderId = some order ∧
    order.customerId = actorId

theorem Contents.RefersTo.eq {contents : Contents} {actorId : Uuid} {route : RoutingDecision}
    {order order' : OrderRead} (h : contents.RefersTo actorId route order)
    (h' : contents.RefersTo actorId route order') : order = order' := by
  obtain ⟨orderId, horderId, horder, -⟩ := h
  obtain ⟨orderId', horderId', horder', -⟩ := h'
  rw [horderId] at horderId'
  obtain rfl := Option.some.inj horderId'
  rw [horder] at horder'
  exact Option.some.inj horder'

/-- **The stored text fits** where the route of a request takes it: the text of the policy into an
answer, and its version into the proposal of a refund. -/
def Answerable [UnicodeTables] (contents : Contents) (request : WorkflowRequest) : Prop :=
  ∀ route policy, RuleRouter.route request.message = .ok route →
    contents.policies policySlug = some policy →
      (route.intent = .policy → lengthWithin 1 4000 policy.content = true) ∧
      ∀ order, route.intent = .refund → contents.RefersTo request.actorId route order →
        order.status ∈ refundableOrderStatuses → lengthWithin 1 50 policy.version = true

/-- The subject of an escalation passes its check. -/
theorem lengthWithin_escalationSubject (reason : EscalationReason) {requestId : String}
    (h : lengthWithin 1 200 requestId = true) :
    lengthWithin 1 300 (escalationSubject reason requestId) = true := by
  obtain ⟨-, hreason⟩ := length_reason reason
  obtain ⟨-, hrequest⟩ := Bool.and_eq_true_iff.mp h
  have hrequest : requestId.length ≤ 200 := of_decide_eq_true hrequest
  have hlength : (escalationSubject reason requestId).length =
      21 + reason.value.length + 3 + requestId.length + 1 := by
    unfold escalationSubject
    rw [String.length_append, String.length_append, String.length_append, String.length_append]
    rfl
  refine Bool.and_eq_true_iff.mpr ⟨decide_eq_true ?_, decide_eq_true ?_⟩
  · rw [hlength]
    omega
  · rw [hlength]
    omega

section Answers

variable [UnicodeTables] {repository : SupportRepository (Action World)} {actorId : Uuid}
  {requestId : String} {contents : Contents} {ready : World → Prop}

theorem answers_of_triple {call : Dependency} {A : Except PyError call.Answer → Prop}
    (h : ∀ proposalId now, Triple ready (defaultCall repository proposalId now call)
      (fun answer world => A (.ok answer) ∧ ready world)
      fun e world => A (.error e) ∧ ready world) :
    (defaultDependencies repository).Answers ready call A := by
  rintro world _ _ hready ⟨proposalId, now, rfl, rfl⟩
  have hcall := h proposalId now
  cases hrun : (defaultCall repository proposalId now call).run world with
  | ok answer world' => exact hcall.ok hready hrun
  | error e world' => exact hcall.error hready hrun

/-- A call that touches no repository. -/
theorem answers_pure {call : Dependency} {A : Except PyError call.Answer → Prop}
    (h : ∀ proposalId now, ∃ answer, A answer ∧
      defaultCall repository proposalId now call = MonadExcept.ofExcept answer) :
    (defaultDependencies repository).Answers ready call A := by
  refine answers_of_triple fun proposalId now => ?_
  obtain ⟨answer, hA, hcall⟩ := h proposalId now
  rw [hcall]
  refine triple_ofExcept ?_ ?_
  · rintro a s rfl hready
    exact ⟨hA, hready⟩
  · rintro e s rfl hready
    exact ⟨hA, hready⟩

theorem answers_getOrder (hsucceeds : Succeeds repository actorId requestId contents ready)
    (orderId actorId' : Uuid) :
    (defaultDependencies repository).Answers ready (.getOrder orderId actorId')
      (· = contents.order orderId actorId') := by
  refine answers_of_triple fun _ _ => ?_
  refine triple_bind (hsucceeds.getOrder orderId).of_returns fun found => ?_
  unfold Contents.order
  cases found with
  | none =>
    refine triple_throw ?_
    rintro world ⟨hfound, hready⟩
    rw [← hfound]
    exact ⟨rfl, hready⟩
  | some order =>
    dsimp only
    split
    · rename_i howner
      refine triple_throw ?_
      rintro world ⟨hfound, hready⟩
      rw [← hfound]
      exact ⟨(if_pos howner).symm, hready⟩
    · rename_i howner
      refine triple_pure ?_
      rintro world ⟨hfound, hready⟩
      rw [← hfound]
      exact ⟨(if_neg howner).symm, hready⟩

theorem answers_getPolicy (hsucceeds : Succeeds repository actorId requestId contents ready) :
    (defaultDependencies repository).Answers ready (.getPolicy policySlug)
      (· = contents.policy policySlug) := by
  refine answers_of_triple fun _ _ => ?_
  refine triple_bind hsucceeds.getPolicy.of_returns fun found => ?_
  unfold Contents.policy
  cases found with
  | none =>
    refine triple_throw ?_
    rintro world ⟨hfound, hready⟩
    rw [← hfound]
    exact ⟨rfl, hready⟩
  | some policy =>
    refine triple_pure ?_
    rintro world ⟨hfound, hready⟩
    rw [← hfound]
    exact ⟨rfl, hready⟩

/-- Every escalation of the actor gets its ticket. -/
theorem answers_escalate (hsucceeds : Succeeds repository actorId requestId contents ready)
    (reason : EscalationReason) (h : lengthWithin 1 200 requestId = true) :
    (defaultDependencies repository).Answers ready (.escalate actorId reason requestId)
      (∃ ticket, · = .ok ticket) := by
  refine answers_of_triple fun _ _ => ?_
  have hsubject := lengthWithin_escalationSubject reason h
  have hcommand : CreateTicketCommand.new actorId (escalationSubject reason requestId) =
      .ok { actorId := actorId, subject := escalationSubject reason requestId,
            validSubject := hsubject } := dif_pos hsubject
  unfold defaultCall SupportServiceEscalator.escalate
  dsimp only
  rw [hcommand]
  exact triple_mono (hsucceeds.createTicket _ reason rfl rfl rfl) (fun _ h => h)
    (fun ticket _ h => ⟨⟨ticket, rfl⟩, h⟩) fun _ _ h => h.elim

end Answers

/-! ## Runs from a node -/

section Runs

variable [ValidationTexts]

/-- A run from a node returns exactly if the request is answered, and then has a checkpoint. -/
def Ends (env : Environment World) (i : Id) (I : World → Prop) (w : String) (steps : ℕ)
    (node : Node) (state : SupportState) (answered : Prop) : Prop :=
  ∀ (s : Shared World Id) final s', I s.world →
    Program.Runs (Performs env i) s (runGraph w none steps node state) final s' →
      ((∃ interrupted, final = .ok interrupted) ↔ answered) ∧
        (answered → (s'.checkpoints w).isSome = true)

/-- How the result of a node decides whether the request is answered. -/
inductive Continues (env : Environment World) (i : Id) (I : World → Prop) (w : String) (steps : ℕ)
    (node : Node) (answered : Prop) : Except PyError NodeResult → Prop where
  | raised {e : PyError} (h : ¬ answered) : Continues env i I w steps node answered (.error e)
  | interrupted (h : answered) : Continues env i I w steps node answered (.ok .interrupt)
  | finished {state : SupportState} (hnext : afterNode state node = .ok none) (h : answered) :
      Continues env i I w steps node answered (.ok (.update state))
  | next {state : SupportState} {next : Node} (hnext : afterNode state node = .ok (some next))
      (h : Ends env i I w steps next state answered) :
      Continues env i I w steps node answered (.ok (.update state))

variable {env : Environment World} {i : Id} {I : World → Prop} {w : String} {steps : ℕ}
  {node : Node} {state state' : SupportState} {answered : Prop}

/-- **One step of a run.** -/
theorem ends_of_task
    (htask : ∀ (s : Shared World Id) result s', I s.world →
      Program.Runs (Performs env i) s (runTask w none node state) result s' →
        I s'.world ∧ Continues env i I w steps node answered result) :
    Ends env i I w (steps + 1) node state answered := by
  intro s final s' hworld hruns
  rcases runs_runGraph_succ hruns with ⟨e, hnode, rfl⟩ | ⟨result, between, hnode, hrest⟩
  · obtain ⟨-, hcontinues⟩ := htask s _ _ hworld hnode
    cases hcontinues with
    | raised h => exact ⟨iff_of_false (by rintro ⟨_, ⟨⟩⟩) h, fun h' => absurd h' h⟩
  · obtain ⟨hworld', hcontinues⟩ := htask s _ _ hworld hnode
    cases hcontinues with
    | interrupted h =>
      obtain ⟨rfl, rfl⟩ := hrest
      refine ⟨iff_of_true ⟨true, rfl⟩ h, fun _ => ?_⟩
      rw [checkpoints_stored]
      rfl
    | finished hnext h =>
      rcases hrest with ⟨e, herror, -⟩ | ⟨next, hnext', hruns⟩
      · rw [hnext] at herror
        cases herror
      · rw [hnext] at hnext'
        obtain rfl := Except.ok.inj hnext'
        obtain ⟨rfl, rfl⟩ := Program.runs_done_iff.mp hruns
        refine ⟨iff_of_true ⟨false, rfl⟩ h, fun _ => ?_⟩
        rw [checkpoints_stored]
        rfl
    | @next state' next hnext h =>
      rcases hrest with ⟨e, herror, -⟩ | ⟨next', hnext', hruns⟩
      · rw [hnext] at herror
        cases herror
      · rw [hnext] at hnext'
        obtain rfl := Except.ok.inj hnext'
        exact h (between.stored i w (some node) ⟨state', some next, false⟩) _ _ hworld' hruns

/-- A node with the retry policy. -/
theorem ends_retried (runId : String) (call : Dependency) {A : Except PyError call.Answer → Prop}
    (delta : ℕ → Except PyError call.Answer → Raises SupportState) (hretries : node.retries = true)
    (hnode : runNode w none node state = (do
      let attempt ← invoke (.nextAttempt runId node)
      let answer ← ask w call
      return .update (← .done (delta attempt answer))))
    (hticket : ∀ answer, call.tickets answer = 0) (hanswers : env.Answers I call A)
    (h : ∀ attempt answer, A answer →
      Continues env i I w steps node answered ((delta attempt answer).map .update)) :
    Ends env i I w (steps + 1) node state answered := by
  refine ends_of_task fun s result s' hworld hruns => ?_
  obtain ⟨attempt, answer, hA, hI, rfl, -, -⟩ :=
    runs_runTask_retried runId call delta hretries hnode hticket hanswers hworld hruns
  exact ⟨hI, h attempt answer hA⟩

/-- A node without the retry policy. -/
theorem ends_once (call : Dependency) {A : Except PyError call.Answer → Prop}
    (delta : Except PyError call.Answer → Raises SupportState) (hretries : node.retries = false)
    (hnode : runNode w none node state = (do
      let answer ← ask w call
      return .update (← .done (delta answer))))
    (hanswers : env.Answers I call A)
    (h : ∀ answer, A answer →
      Continues env i I w steps node answered ((delta answer).map .update)) :
    Ends env i I w (steps + 1) node state answered := by
  refine ends_of_task fun s result s' hworld hruns => ?_
  obtain ⟨answer, hA, hI, rfl, -⟩ :=
    runs_runTask_once call delta hretries hnode hanswers hworld hruns
  exact ⟨hI, h answer hA⟩

/-- A node that calls nothing. -/
theorem ends_done (result : NodeResult) (hnode : runNode w none node state = .done (.ok result))
    (h : Continues env i I w steps node answered (.ok result)) :
    Ends env i I w (steps + 1) node state answered := by
  refine ends_of_task fun s result' s' hworld hruns => ?_
  obtain ⟨rfl, hworld', -⟩ := runs_runTask_done hnode nofun hruns
  exact ⟨by rwa [hworld'], h⟩

/-- A run that waits for its confirmation. -/
theorem ends_confirmation (hproposal : state.proposedAction.isSome = true) (h : answered) :
    Ends env i I w (steps + 1) .confirmation state answered := by
  obtain ⟨proposal, hproposal⟩ := Option.isSome_iff_exists.mp hproposal
  refine ends_done .interrupt ?_ (.interrupted h)
  unfold runNode confirmationNode
  dsimp only
  rw [hproposal]
  rfl

end Runs

/-! ## Runs with the default dependencies -/

section Offline

variable [ValidationTexts] [UnicodeTables] {repository : SupportRepository (Action World)}
  {request : WorkflowRequest} {contents : Contents} {ready : World → Prop} {i : Id} {w : String}
  {steps : ℕ} {node : Node} {state state' : SupportState} {route : RoutingDecision}
  {answered : Prop}

/-- Every escalation is answered. -/
theorem ends_escalate
    (hsucceeds : Succeeds repository request.actorId request.requestId contents ready)
    (hrequest : state.request = request) (h : answered) :
    Ends (defaultDependencies repository) i ready w (steps + 1) .escalate state answered := by
  obtain rfl := hrequest
  refine ends_once (.escalate state.request.actorId
      (state.escalation.elim .requestedByRoute (·.reason)) state.request.requestId)
    (ticketDelta state (state.escalation.elim .requestedByRoute (·.reason))) rfl
    (by simp only [runNode, escalationNode, Program.bind_assoc])
    (answers_escalate hsucceeds _ state.request.validRequestId) ?_
  rintro _ ⟨ticket, rfl⟩
  obtain ⟨state', hdelta, -⟩ := responds_ticketDelta state
    (state.escalation.elim .requestedByRoute (·.reason)) ticket
  rw [hdelta]
  exact .finished rfl h

/-- A node that escalates goes on with the escalation. -/
theorem Escalates.continues (hescalates : Escalates state state')
    (hsucceeds : Succeeds repository request.actorId request.requestId contents ready)
    (hrequest : state.request = request)
    (hnext : state'.escalation.isSome = true → afterNode state' node = .ok (some .escalate))
    (h : answered) :
    Continues (defaultDependencies repository) i ready w (steps + 1) node answered
      (.ok (.update state')) :=
  .next (hnext hescalates.escalation)
    (ends_escalate hsucceeds (hescalates.request.trans hrequest) h)

/-- A node that escalates an error that it refuses. -/
theorem continues_refused {attempt : ℕ} {transient refusal : PyError → Bool}
    {exhausted denied : EscalationReason} {e : PyError}
    (hsucceeds : Succeeds repository request.actorId request.requestId contents ready)
    (hrequest : state.request = request) (htransient : transient e = false)
    (hrefusal : refusal e = true) (hname : lengthWithin 1 100 (className e) = true)
    (hnext : ∀ state' : SupportState, state'.escalation.isSome = true →
      afterNode state' node = .ok (some .escalate)) (h : answered) :
    Continues (defaultDependencies repository) i ready w (steps + 1) node answered
      ((recover state node attempt transient refusal exhausted denied e).map .update) := by
  obtain ⟨state', hdelta, hescalates⟩ := escalates_escalated state node denied hname
  unfold recover
  rw [if_neg (by rw [htransient]; exact Bool.false_ne_true), if_pos hrefusal, hdelta]
  exact hescalates.continues hsucceeds hrequest (hnext state') h

/-- An answer returns exactly if its text fits. -/
theorem ends_respond (hroute : state.route = some route) (hescalation : state.escalation = none)
    (h : answered ↔
      lengthWithin 1 4000 (TemplateResponseGenerator.generate route state.evidence) = true) :
    Ends (defaultDependencies repository) i ready w (steps + 1) .respond state answered := by
  refine ends_retried state.runId
    (.generate state.request.message route state.evidence state.proposedAction)
    (responseDelta state route) rfl (by
      unfold runNode responseNode
      simp only [requireRoute_eq_ok hroute, Program.done_ok_bind, Program.bind_assoc])
    (fun _ => rfl)
    (answers_pure (A := (· = .ok (TemplateResponseGenerator.generate route state.evidence)))
      fun _ _ => ⟨_, rfl, rfl⟩) ?_
  rintro attempt _ rfl
  by_cases hmessage :
      lengthWithin 1 4000 (TemplateResponseGenerator.generate route state.evidence) = true
  · obtain ⟨state', hdelta, hresponds⟩ := responds_responseDelta state route attempt hmessage
    rw [hdelta]
    refine .finished ?_ (h.mpr hmessage)
    unfold afterNode afterResponse
    dsimp only
    rw [hresponds.escalation, hescalation]
    rfl
  · unfold responseDelta SupportResponse.new
    dsimp only
    rw [dif_neg hmessage]
    exact .raised (mt h.mp hmessage)

omit [ValidationTexts] [UnicodeTables] in
theorem afterProposal_of_escalation {state : SupportState} (h : state.escalation.isSome = true) :
    afterNode state .proposeRefund = .ok (some .escalate) := by
  unfold afterNode afterProposal
  dsimp only
  rw [if_pos h]

/-- The proposal of a refund returns exactly if the version of the policy fits. -/
theorem ends_proposal {order : OrderRead}
    (hsucceeds : Succeeds repository request.actorId request.requestId contents ready)
    (hrequest : state.request = request) (horder : state.evidence.order = some order)
    (howner : order.customerId = request.actorId) (hescalation : state.escalation = none)
    (h : answered ↔ (order.status ∈ refundableOrderStatuses →
      lengthWithin 1 50 (state.evidence.policy.elim "unknown" (·.version)) = true)) :
    Ends (defaultDependencies repository) i ready w (steps + 2) .proposeRefund state answered := by
  have hanswers : (defaultDependencies repository).Answers ready
      (.propose state.request.actorId state.request.requestId order state.evidence.policy)
      fun answer => ∃ proposalId now, answer = SupportServiceRefundProposer.propose proposalId now
        state.request.actorId state.request.requestId order state.evidence.policy :=
    answers_pure fun proposalId now => ⟨_, ⟨proposalId, now, rfl⟩, rfl⟩
  refine ends_once
    (.propose state.request.actorId state.request.requestId order state.evidence.policy)
    (proposalDelta state) rfl (by
      unfold runNode proposalNode
      simp only [horder, Program.bind_assoc]) hanswers ?_
  rintro _ ⟨proposalId, now, rfl⟩
  unfold SupportServiceRefundProposer.propose
  rw [if_neg (not_not.mpr (howner.trans (congrArg WorkflowRequest.actorId hrequest.symm)))]
  by_cases hstatus : order.status ∈ refundableOrderStatuses
  · rw [if_neg (not_not.mpr hstatus)]
    by_cases hversion :
        lengthWithin 1 50 (state.evidence.policy.elim "unknown" (·.version)) = true
    · rw [dif_pos hversion]
      refine .next ?_ (ends_confirmation rfl (h.mpr fun _ => hversion))
      unfold afterNode afterProposal
      dsimp only
      rw [hescalation]
      rfl
    · rw [dif_neg hversion]
      exact .raised fun hanswered => hversion (h.mp hanswered hstatus)
  · have hrefusal : isRefusal invalidTransition = true := by decide +kernel
    obtain ⟨state', hdelta, hescalates⟩ := escalates_escalated state .proposeRefund
      .refundActionUnsafe (e := invalidTransition) (by decide +kernel)
    rw [if_pos hstatus]
    unfold proposalDelta
    dsimp only
    rw [if_pos hrefusal, hdelta]
    exact hescalates.continues hsucceeds hrequest afterProposal_of_escalation
      (h.mpr fun hrefundable => absurd hrefundable hstatus)

/-- What a node that read evidence leaves as it is. -/
structure Onward (state state' : SupportState) : Prop where
  request : state'.request = state.request
  route : state'.route = state.route
  escalation : state'.escalation = state.escalation

/-- The policy, and the node behind it. -/
theorem ends_policy
    (hsucceeds : Succeeds repository request.actorId request.requestId contents ready)
    (hrequest : state.request = request) (hroute : state.route = some route)
    (hslug : route.policySlug = some policySlug) (hescalation : state.escalation = none)
    (hnone : contents.policies policySlug = none → answered)
    (hsome : ∀ policy state', contents.policies policySlug = some policy → Onward state state' →
      state'.evidence = ⟨state.evidence.order, some policy⟩ →
        Ends (defaultDependencies repository) i ready w (steps + 1)
          (if route.intent = .refund then .proposeRefund else .respond) state' answered) :
    Ends (defaultDependencies repository) i ready w (steps + 2) .retrievePolicy state answered := by
  refine ends_retried state.runId (.getPolicy policySlug) (policyDelta state) rfl (by
      unfold runNode policyNode
      simp only [requireRoute_eq_ok hroute, Program.done_ok_bind, hslug, Program.bind_assoc])
    (fun _ => rfl) (answers_getPolicy hsucceeds) ?_
  rintro attempt _ rfl
  unfold Contents.policy
  cases hpolicy : contents.policies policySlug with
  | none =>
    exact continues_refused hsucceeds hrequest (by decide +kernel) (by decide +kernel)
      (by decide +kernel) (fun _ => afterEvidence_of_escalation) (hnone hpolicy)
  | some policy =>
    exact .next (afterEvidence_of_route hescalation hroute)
      (hsome policy _ hpolicy ⟨rfl, rfl, rfl⟩ rfl)

omit [ValidationTexts] [UnicodeTables] in
/-- The edge behind an order. -/
theorem afterEvidence_of_order {state : SupportState} (hescalation : state.escalation = none)
    (hroute : state.route = some route) (hpolicy : state.evidence.policy = none) :
    afterEvidence state =
      .ok (some (if route.intent = .refund then .retrievePolicy else .respond)) := by
  rw [afterEvidence_of_route hescalation hroute, hpolicy]
  rfl

/-- The order, and the node behind it. -/
theorem ends_order
    (hsucceeds : Succeeds repository request.actorId request.requestId contents ready)
    (hrequest : state.request = request) (hroute : state.route = some route)
    (hescalation : state.escalation = none) (hpolicy : state.evidence.policy = none)
    (hdenied : (∀ order, ¬ contents.RefersTo request.actorId route order) → answered)
    (hallowed : ∀ order state', contents.RefersTo request.actorId route order →
      Onward state state' → state'.evidence = ⟨some order, none⟩ →
        Ends (defaultDependencies repository) i ready w (steps + 1)
          (if route.intent = .refund then .retrievePolicy else .respond) state' answered) :
    Ends (defaultDependencies repository) i ready w (steps + 2) .retrieveOrder state answered := by
  -- a message without a reference, an unknown order and a foreign one all escalate
  cases horder : route.orderId with
  | none =>
    obtain ⟨state', hdelta, hescalates⟩ := escalates_delta state .missingOrderReference
    refine ends_done (.update state') ?_ (hescalates.continues hsucceeds hrequest
      afterEvidence_of_escalation (hdenied ?_))
    · unfold runNode orderNode
      rw [requireRoute_eq_ok hroute, Program.done_ok_bind, horder, hdelta]
      rfl
    · rintro order ⟨orderId, horderId, -⟩
      rw [horder] at horderId
      cases horderId
  | some orderId =>
    refine ends_retried state.runId (.getOrder orderId state.request.actorId) (orderDelta state)
      rfl (by
        unfold runNode orderNode
        simp only [requireRoute_eq_ok hroute, Program.done_ok_bind, horder, Program.bind_assoc])
      (fun _ => rfl) (answers_getOrder hsucceeds orderId state.request.actorId) ?_
    rintro attempt _ rfl
    unfold Contents.order
    cases hstored : contents.orders orderId with
    | none =>
      refine continues_refused hsucceeds hrequest (by decide +kernel) (by decide +kernel)
        (by decide +kernel) (fun _ => afterEvidence_of_escalation) (hdenied ?_)
      rintro order ⟨orderId', horderId, hfound, -⟩
      rw [horder] at horderId
      obtain rfl := Option.some.inj horderId
      rw [hstored] at hfound
      cases hfound
    | some order =>
      dsimp only
      by_cases howner : order.customerId = state.request.actorId
      · rw [if_neg (not_not.mpr howner)]
        refine .next (afterEvidence_of_order hescalation hroute hpolicy)
          (hallowed order _ ⟨orderId, horder, hstored, by rw [howner, hrequest]⟩ ⟨rfl, rfl, rfl⟩ ?_)
        rw [← hpolicy]
      · rw [if_pos howner]
        refine continues_refused hsucceeds hrequest (by decide +kernel) (by decide +kernel)
          (by decide +kernel) (fun _ => afterEvidence_of_escalation) (hdenied ?_)
        rintro order' ⟨orderId', horderId, hfound, howner'⟩
        rw [horder] at horderId
        obtain rfl := Option.some.inj horderId
        rw [hstored] at hfound
        obtain rfl := Option.some.inj hfound
        exact howner (by rw [howner', hrequest])

/-- **The run of a request** returns exactly if the request is answerable. -/
theorem ends_route
    (hsucceeds : Succeeds repository request.actorId request.requestId contents ready)
    (hrequest : state.request = request) (hescalation : state.escalation = none)
    (hevidence : state.evidence = {}) :
    Ends (defaultDependencies repository) i ready w (steps + 5) .route state
      (Answerable contents request) := by
  obtain ⟨route, hroute, hslug⟩ := exists_route state.request.message
  -- the claim about every route is one about the route that the rules choose
  have hanswerable : Answerable contents request ↔
      ∀ policy, contents.policies policySlug = some policy →
        (route.intent = .policy → lengthWithin 1 4000 policy.content = true) ∧
        ∀ order, route.intent = .refund → contents.RefersTo request.actorId route order →
          order.status ∈ refundableOrderStatuses → lengthWithin 1 50 policy.version = true := by
    rw [hrequest] at hroute
    constructor
    · exact fun h policy hpolicy => h route policy hroute hpolicy
    · intro h route' policy hroute' hpolicy
      rw [hroute] at hroute'
      obtain rfl := Except.ok.inj hroute'
      exact h policy hpolicy
  have hother : route.intent ≠ .policy → route.intent ≠ .refund → Answerable contents request :=
    fun hpolicy hrefund => hanswerable.mpr fun _ _ =>
      ⟨fun h => absurd h hpolicy, fun _ h => absurd h hrefund⟩
  have hunknown : contents.policies policySlug = none → Answerable contents request := by
    intro hnone
    refine hanswerable.mpr fun policy hpolicy => ?_
    rw [hnone] at hpolicy
    cases hpolicy
  have hanswers : (defaultDependencies repository).Answers ready (.route state.request.message)
      (· = RuleRouter.route state.request.message) :=
    answers_pure fun _ _ => ⟨_, rfl, rfl⟩
  refine ends_retried state.runId (.route state.request.message) (routeDelta state) rfl
    (by simp only [runNode, routeNode, Program.bind_assoc]) (fun _ => rfl) hanswers ?_
  rintro attempt _ rfl
  rw [hroute]
  have hpolicyless : state.evidence.policy = none := by rw [hevidence]
  refine .next (afterRoute_of_route hescalation rfl) ?_
  -- one path of the graph for each intent
  cases hintent : route.intent with
  | escalate =>
    exact ends_escalate hsucceeds hrequest
      (hother (by rw [hintent]; decide) (by rw [hintent]; decide))
  | orderStatus =>
    have hanswered := hother (by rw [hintent]; decide) (by rw [hintent]; decide)
    refine ends_order hsucceeds hrequest rfl hescalation hpolicyless (fun _ => hanswered) ?_
    intro order state' hrefers honward hevidence'
    rw [if_neg (by rw [hintent]; decide)]
    exact ends_respond honward.route (honward.escalation.trans hescalation)
      (iff_of_true hanswered (lengthWithin_generate hintent (by rw [hevidence'])))
  | policy =>
    refine ends_policy hsucceeds hrequest rfl (hslug (Or.inl hintent)) hescalation hunknown ?_
    intro policy state' hpolicy honward hevidence'
    rw [if_neg (by rw [hintent]; decide)]
    refine ends_respond honward.route (honward.escalation.trans hescalation) ?_
    rw [generate_policy hintent (by rw [hevidence']), hanswerable]
    constructor
    · exact fun h => (h policy hpolicy).1 hintent
    · intro hfits policy' hpolicy'
      rw [hpolicy] at hpolicy'
      obtain rfl := Option.some.inj hpolicy'
      refine ⟨fun _ => hfits, fun _ h => ?_⟩
      rw [hintent] at h
      cases h
  | refund =>
    have hnot : route.intent ≠ .policy := by
      rw [hintent]
      decide
    -- a refund reads the order, then the policy, and then proposes
    refine ends_order hsucceeds hrequest rfl hescalation hpolicyless ?_ ?_
    · exact fun hdenied => hanswerable.mpr fun policy _ =>
        ⟨fun h => absurd h hnot, fun order _ hrefers => absurd hrefers (hdenied order)⟩
    · intro order state' hrefers honward hevidence'
      rw [if_pos hintent]
      have hescalation' := honward.escalation.trans hescalation
      refine ends_policy hsucceeds (honward.request.trans hrequest) honward.route
        (hslug (Or.inr hintent)) hescalation' hunknown ?_
      intro policy state'' hpolicy honward' hevidence''
      rw [if_pos hintent]
      obtain ⟨-, -, -, howner⟩ := id hrefers
      refine ends_proposal hsucceeds (honward'.request.trans (honward.request.trans hrequest))
        (by rw [hevidence'', hevidence']) howner (honward'.escalation.trans hescalation') ?_
      rw [hevidence'', hanswerable]
      constructor
      · exact fun h hstatus => (h policy hpolicy).2 order hintent hrefers hstatus
      · intro hfits policy' hpolicy'
        rw [hpolicy] at hpolicy'
        obtain rfl := Option.some.inj hpolicy'
        refine ⟨fun h => absurd h hnot, fun order' _ hrefers' hstatus => ?_⟩
        obtain rfl := hrefers.eq hrefers'
        exact hfits hstatus

end Offline

/-! ## Every start -/

section Start

theorem live_respond (workflowId : String) (interrupted : Bool) :
    (respond workflowId interrupted).Along Op.Live fun _ => True := by
  refine live_bind (live_invoke trivial) fun snapshot => ?_
  cases snapshot with
  | none => exact live_done _
  | some snapshot => exact live_done _

variable [ValidationTexts]

/-- A start ends, where every call to a dependency is answered and any identifier may be drawn. -/
theorem exists_runs_start {env : Environment World} (hdraws : ∀ drawn u, env.draws drawn u)
    (hanswering : env.Answering) (ttl : ℤ) (request : WorkflowRequest) (i : Id)
    (s : Shared World Id) :
    ∃ result s', Program.Runs (Performs env i) s (start ttl request) result s' := by
  have hstart : ∀ s : Shared World Id, ∃ result s', Program.Runs (Performs env i) s
      (do
        let interrupted ← runGraph (Uuid.repeated 1).str none recursionLimit .route
          (initialState request (Uuid.repeated 1).str (Uuid.repeated 2).str
            (expiry request .epoch ttl))
        respond (Uuid.repeated 1).str interrupted) result s' :=
    Program.exists_runs (live_bind (live_runGraph ..) fun _ => live_respond ..)
      fun s op hlive => exists_performs hanswering i s hlive
  obtain ⟨result, s', hruns⟩ := hstart _
  exact ⟨result, s', .bind (.perform (.uuid4 (u := .repeated 1) (hdraws _ _)))
    (.bind (.perform (.uuid4 (u := .repeated 2) (hdraws _ _)))
      (.bind (.perform (.clock .epoch)) (.bind (.perform (.put ..)) hruns)))⟩

variable [UnicodeTables] {repository : SupportRepository (Action World)}
  {request : WorkflowRequest} {contents : Contents} {ready : World → Prop} {i : Id} {ttl : ℤ}
  {s s' : Shared World Id} {result : Except PyError WorkflowResponse}

omit [ValidationTexts] in
theorem answering_defaultDependencies (repository : SupportRepository (Action World)) :
    (defaultDependencies repository).Answering :=
  fun _ _ => ⟨_, _, .repeated 1, .epoch, rfl, rfl⟩

theorem returns_start
    (hsucceeds : Succeeds repository request.actorId request.requestId contents ready)
    (hready : ready s.world)
    (hruns : Program.Runs (Performs (defaultDependencies repository) i) s (start ttl request) result
      s') : (∃ response, result = .ok response) ↔ Answerable contents request := by
  rcases Program.runs_bind_iff.mp hruns with ⟨workflowId, s₁, hdraw, hruns⟩ | ⟨e, hdraw, -⟩
  swap
  · cases Program.runs_perform_iff.mp hdraw
  rcases Program.runs_bind_iff.mp hruns with ⟨runId, s₂, hdraw', hruns⟩ | ⟨e, hdraw', -⟩
  swap
  · cases Program.runs_perform_iff.mp hdraw'
  rcases Program.runs_bind_iff.mp hruns with ⟨now, s₃, hclock, hruns⟩ | ⟨e, hclock, -⟩
  swap
  · cases Program.runs_perform_iff.mp hclock
  rcases Program.runs_bind_iff.mp hruns with ⟨_, s₄, hput, hruns⟩ | ⟨e, hput, -⟩
  swap
  · cases Program.runs_perform_iff.mp hput
  -- the statements before the graph do not touch the database
  have hworld : s₄.world = s.world := by
    cases Program.runs_perform_iff.mp hdraw
    cases Program.runs_perform_iff.mp hdraw'
    cases Program.runs_perform_iff.mp hclock
    cases Program.runs_perform_iff.mp hput
    rfl
  have hends : Ends (defaultDependencies repository) i ready workflowId.str recursionLimit .route
      (initialState request workflowId.str runId.str (expiry request now ttl))
      (Answerable contents (request.until (expiry request now ttl))) :=
    ends_route hsucceeds rfl rfl rfl
  rcases Program.runs_bind_iff.mp hruns with ⟨interrupted, s₅, hgraph, hruns⟩ | ⟨e, hgraph, rfl⟩
  · obtain ⟨hreturns, hstored⟩ := hends s₄ _ _ (by rwa [hworld]) hgraph
    have hanswered := hreturns.mp ⟨interrupted, rfl⟩
    refine iff_of_true ?_ hanswered
    obtain ⟨checkpoint, hcheckpoint⟩ := Option.isSome_iff_exists.mp (hstored hanswered)
    rcases Program.runs_bind_iff.mp hruns with ⟨snapshot, s₆, hload, hruns⟩ | ⟨e, hload, -⟩
    · cases Program.runs_perform_iff.mp hload with
      | getState =>
        rw [hcheckpoint] at hruns
        obtain ⟨rfl, -⟩ := Program.runs_done_iff.mp hruns
        exact ⟨_, rfl⟩
    · cases Program.runs_perform_iff.mp hload
  · obtain ⟨hreturns, -⟩ := hends s₄ _ _ (by rwa [hworld]) hgraph
    refine iff_of_false (by rintro ⟨_, ⟨⟩⟩) fun hanswered => ?_
    obtain ⟨interrupted, h⟩ := hreturns.mpr hanswered
    cases h

end Start

/-- **A start returns a response exactly if the stored text fits.** On a repository whose reads and
writes succeed, whatever it holds, every start ends, and it returns a response exactly if the
request is answerable. -/
theorem start_returns_iff {World Id : Type} [ValidationTexts] [UnicodeTables]
    {repository : SupportRepository (Action World)} {request : WorkflowRequest}
    {contents : Contents} {ready : World → Prop}
    (hsucceeds : Succeeds repository request.actorId request.requestId contents ready) (ttl : ℤ)
    (i : Id) (s : Shared World Id) (hready : ready s.world) :
    (∃ result s', Program.Runs (Performs (defaultDependencies repository) i) s (start ttl request)
      result s') ∧
    ∀ result s', Program.Runs (Performs (defaultDependencies repository) i) s (start ttl request)
      result s' → ((∃ response, result = .ok response) ↔ Answerable contents request) := by
  constructor
  · exact exists_runs_start (fun _ _ => trivial) (answering_defaultDependencies repository) ttl
      request i s
  · intro result s' hruns
    exact returns_start hsucceeds hready hruns

section Sample

attribute [local instance] asciiTables plainTexts constantIds codePointOrder

def policyQuestion : WorkflowRequest where
  actorId := .repeated 1
  requestId := "question"
  message := "How many days do I have?"
  validRequestId := by decide +kernel
  validMessage := by decide +kernel

def policyDocument (content : String) : PolicyDocumentRead where
  id := .repeated 4
  slug := policySlug
  version := "2026-07-30"
  title := "Returns"
  content := content
  contentHash := ""

theorem nodup_noOrders : (([] : List OrderRead).map (·.id)).Nodup := List.nodup_nil

theorem owned_noOrders :
    ∀ order ∈ ([] : List OrderRead), order.customerId ∈ [Uuid.repeated 1] := List.forall_mem_nil _

/-- The rows of one customer and one policy document. -/
def policyTables (content : String) : SupportTables where
  customers := [.repeated 1]
  orders := []
  policies := [policyDocument content]
  ordersUnique := nodup_noOrders
  ordersOwned := owned_noOrders

theorem policies_policyTables (content : String) :
    (storedContents (policyTables content)).policies policySlug =
      some (policyDocument content) := by
  have hfilter : (policyTables content).policies.filter (·.slug = policySlug) =
      [policyDocument content] :=
    List.filter_cons_of_pos (decide_eq_true rfl)
  unfold storedContents
  dsimp only
  rw [hfilter]
  rfl

theorem route_policyQuestion :
    ∃ route, RuleRouter.route policyQuestion.message = .ok route ∧ route.intent = .policy := by
  have hreference : orderReference policyQuestion.message = .ok none := by decide +kernel
  have hrefund : mentions ["refund", "money back", "cancel"]
      (String.ofList (UnicodeTables.lower policyQuestion.message.toList)) = false := by
    decide +kernel
  have hpolicy : mentions ["policy", "return", "eligible", "days"]
      (String.ofList (UnicodeTables.lower policyQuestion.message.toList)) = true := by
    decide +kernel
  unfold RuleRouter.route
  rw [hreference]
  dsimp only
  rw [hrefund, hpolicy]
  exact ⟨_, rfl, rfl⟩

theorem answerable_policyQuestion (content : String) :
    Answerable (storedContents (policyTables content)) policyQuestion ↔
      lengthWithin 1 4000 content = true := by
  constructor
  · intro h
    obtain ⟨route, hroute, hintent⟩ := route_policyQuestion
    exact (h route _ hroute (policies_policyTables content)).1 hintent
  · intro h route policy _ hpolicy
    rw [policies_policyTables] at hpolicy
    obtain rfl := Option.some.inj hpolicy
    have hversion : lengthWithin 1 50 (policyDocument content).version = true := by
      change lengthWithin 1 50 "2026-07-30" = true
      decide +kernel
    exact ⟨fun _ => h, fun _ _ _ _ => hversion⟩

theorem succeeds_policyTables (content : String) :
    Succeeds sqlAlchemySupportRepository policyQuestion.actorId policyQuestion.requestId
      (storedContents (policyTables content)) fun session =>
        storedContents session.tables = storedContents (policyTables content) ∧
          session.Serving policyQuestion.actorId :=
  sqlAlchemySupportRepository_succeeds _ (by decide +kernel) _

theorem ready_policyTables (content : String) :
    storedContents (SupportSession.begin (policyTables content)).tables =
        storedContents (policyTables content) ∧
      (SupportSession.begin (policyTables content)).Serving policyQuestion.actorId :=
  ⟨rfl, rfl, List.mem_singleton_self _⟩

/-- A policy of some characters. -/
def policyText (n : ℕ) : String := String.ofList (List.replicate n 'a')

theorem length_policyText (n : ℕ) : (policyText n).length = n := by
  rw [policyText, String.length_ofList, List.length_replicate]

/-- A question about a policy of 4001 characters raises. -/
theorem start_raises_longPolicy : ∃ result s',
    Program.Runs (Performs (defaultDependencies sqlAlchemySupportRepository) ())
      { world := SupportSession.begin (policyTables (policyText 4001)) } (start 1 policyQuestion)
      result s' ∧
    ¬ ∃ response, result = .ok response := by
  obtain ⟨result, s', hruns⟩ := exists_runs_start (fun _ _ => trivial)
    (answering_defaultDependencies sqlAlchemySupportRepository) 1 policyQuestion ()
    { world := SupportSession.begin (policyTables (policyText 4001)) }
  refine ⟨result, s', hruns, fun hreturns => ?_⟩
  have hfits := (answerable_policyQuestion _).mp
    ((returns_start (succeeds_policyTables _) (ready_policyTables _) hruns).mp hreturns)
  unfold lengthWithin at hfits
  rw [length_policyText] at hfits
  exact absurd hfits (by decide)

/-- A question about a short policy is answered. -/
theorem start_returns_shortPolicy : ∃ result s',
    Program.Runs (Performs (defaultDependencies sqlAlchemySupportRepository) ())
      { world := SupportSession.begin (policyTables "Thirty days.") } (start 1 policyQuestion)
      result s' ∧
    ∃ response, result = .ok response := by
  obtain ⟨⟨result, s', hruns⟩, hreturns⟩ := start_returns_iff
    (succeeds_policyTables "Thirty days.") 1 ()
    { world := SupportSession.begin (policyTables "Thirty days.") }
    (ready_policyTables "Thirty days.")
  refine ⟨result, s', hruns, (hreturns result s' hruns).mpr ?_⟩
  exact (answerable_policyQuestion "Thirty days.").mpr (by decide +kernel)

end Sample

end ObservabilityLab.Workflow
