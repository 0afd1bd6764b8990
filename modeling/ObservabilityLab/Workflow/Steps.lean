import ObservabilityLab.Workflow.Tasks

/-!
# The steps of a run

Where every dependency answers validly, or raises an error that its node handles, every node of the
support graph comes to an update, and the run goes on with a node that it did not come to before.

## Main definitions

* `Dependency.Handles`: a valid answer, or an error that the node handles
* `Node.rank`: the order in which a run comes to the nodes
* `Ready`: what a run knows when it comes to a node
* `Over`: what a run that ends knows
* `Stepped`: a node that came to an update, with which the run goes on

## Main results

* `stepped_route`, `stepped_order`, `stepped_policy`, `stepped_proposal`, `stepped_confirmation`,
  `stepped_execute`, `stepped_reject`, `stepped_respond`, `stepped_escalate`: the steps
-/

namespace ObservabilityLab.Workflow

open Python

variable {World Id : Type}

/-- A valid answer of a dependency, or an error that its node handles; the escalator succeeds. -/
def Dependency.Handles : (call : Dependency) → Except PyError call.Answer → Prop
  | .generate .., .ok message => lengthWithin 1 4000 message = true
  | _, .ok _ => True
  | .route _, .error e => isTransientModel e = true ∨ isUnsafe e = true
  | .getOrder .., .error e => isTransientRetrieval e = true ∨ isRefusal e = true
  | .getPolicy _, .error e => isTransientRetrieval e = true ∨ isPolicyRefusal e = true
  | .generate .., .error e => isTransientModel e = true ∨ isUnsafe e = true
  | .propose .., .error e => isRefusal e = true
  | .execute .., .error e => isRefusal e = true
  | .escalate .., .error _ => False

/-! ## What a run knows -/

/-- The order in which a run comes to the nodes. -/
def Node.rank : Node → ℕ
  | route => 0
  | retrieveOrder => 1
  | retrievePolicy => 2
  | proposeRefund => 3
  | confirmation => 4
  | executeRefund => 5
  | reject => 5
  | respond => 5
  | escalate => 6

namespace SupportState

variable (state : SupportState)

/-- The state has a route whose intent has a property. -/
def Routed (p : RouteIntent → Prop) : Prop := ∃ route, state.route = some route ∧ p route.intent

/-- The refund was decided. -/
def Decided (d : ConfirmationDecision) : Prop :=
  ∃ confirmation, state.confirmation = some confirmation ∧ confirmation.decision = d

end SupportState

/-- What a run knows of the state when it comes to a node. -/
structure Ready (node : Node) (state : SupportState) : Prop where
  response : state.response = none
  escalation : node ≠ .escalate → state.escalation = none
  order : node = .retrieveOrder →
    state.Routed fun intent => intent = .orderStatus ∨ intent = .refund
  policy : node = .retrievePolicy →
    state.Routed fun intent => intent = .policy ∨ intent = .refund
  refund : node = .proposeRefund ∨ node = .confirmation ∨ node = .executeRefund ∨ node = .reject →
    state.Routed (· = .refund)
  proposal : node = .confirmation ∨ node = .executeRefund → state.proposedAction.isSome = true
  awaiting : node = .confirmation → state.status = .awaitingConfirmation
  confirmed : node = .executeRefund → state.Decided .confirm
  respond : node = .respond → state.Routed (· ≠ .refund)

/-- What a run that ends knows: the state has a response; it is escalated if a ticket was created,
completed or rejected if not; and a refund is not completed unless it was confirmed. -/
structure Over (state : SupportState) (tickets : ℕ) : Prop where
  response : state.response.isSome = true
  escalated : state.status = .escalated ↔ tickets = 1
  unescalated : state.status = .completed ∨ state.status = .rejected → tickets = 0
  unconfirmed : state.Routed (· = .refund) → ¬ state.Decided .confirm → state.status ≠ .completed

/-- A node came to an update, with which the run ends, or goes on with a later node. -/
def Stepped (node : Node) (state : SupportState) (tickets : ℕ) : Prop :=
  ∃ next, afterNode state node = .ok next ∧
    next.elim (Over state tickets) fun next =>
      Ready next state ∧ node.rank < next.rank ∧ tickets = 0

/-! ## Errors that a node handles -/

theorem lengthWithin_className {e : PyError}
    (h : isTransientModel e = true ∨ isTransientRetrieval e = true ∨ isRefusal e = true ∨
      isPolicyRefusal e = true) : lengthWithin 1 100 (className e) = true := by
  have hunsafe : isUnsafe e = true → lengthWithin 1 100 (className e) = true := by
    intro h
    rw [of_decide_eq_true h]
    decide +kernel
  rcases h with h | h | h | h
  · rw [of_decide_eq_true h]
    decide +kernel
  · rw [of_decide_eq_true h]
    decide +kernel
  · simp only [isRefusal, Bool.or_eq_true, decide_eq_true_eq] at h
    rcases h with ((rfl | rfl) | rfl) | h
    · decide +kernel
    · decide +kernel
    · decide +kernel
    · exact hunsafe h
  · simp only [isPolicyRefusal, Bool.or_eq_true, decide_eq_true_eq] at h
    rcases h with rfl | h
    · decide +kernel
    · exact hunsafe h

variable [ValidationTexts] {state : SupportState}

/-- The update of a node that escalates. -/
structure Escalates (state state' : SupportState) : Prop where
  request : state'.request = state.request
  response : state'.response = state.response
  escalation : state'.escalation.isSome = true

theorem escalates_delta (state : SupportState) (reason : EscalationReason) :
    ∃ state', escalationDelta state reason = .ok state' ∧ Escalates state state' :=
  ⟨_, rfl, rfl, rfl, rfl⟩

theorem escalates_escalated (state : SupportState) (node : Node) (reason : EscalationReason)
    {e : PyError} (h : lengthWithin 1 100 (className e) = true) :
    ∃ state', escalated state node reason e = .ok state' ∧ Escalates state state' := by
  obtain ⟨errors, herrors⟩ := exists_errorDelta h
  refine ⟨{ state with
    escalation := some { reason := reason }
    status := .escalating
    transcript := state.transition node "escalated" ["escalation", "errors"]
    errors := errors }, ?_, rfl, rfl, rfl⟩
  unfold escalated escalationDelta
  dsimp only
  rw [herrors]
  rfl

/-- The last attempt of a node with the retry policy escalates an error that the node handles. -/
theorem escalates_recover {node : Node} {attempt : ℕ} {transient refusal : PyError → Bool}
    {exhausted denied : EscalationReason} {e : PyError}
    (hhandled : transient e = true ∨ refusal e = true)
    (hname : lengthWithin 1 100 (className e) = true)
    (hretried : transient e = true → isRetried e = true)
    (hlast : ∀ e', recover state node attempt transient refusal exhausted denied e = .error e' →
      isRetried e' = true → 2 ≤ attempt) :
    ∃ state', recover state node attempt transient refusal exhausted denied e = .ok state' ∧
      Escalates state state' := by
  unfold recover at hlast ⊢
  by_cases htransient : transient e = true
  · rw [if_pos htransient] at hlast ⊢
    have hattempt : ¬ attempt < maxNodeAttempts := by
      intro h
      have := hlast e (if_pos h) (hretried htransient)
      unfold maxNodeAttempts at h
      omega
    rw [if_neg hattempt]
    exact escalates_escalated state node _ hname
  · rw [if_neg htransient, if_pos (hhandled.resolve_left htransient)]
    exact escalates_escalated state node _ hname

omit [ValidationTexts] in
/-- A node that escalated is followed by the escalation. -/
theorem Escalates.stepped {state' : SupportState} {node : Node} (h : Escalates state state')
    (hresponse : state.response = none) (hrank : node.rank < 6)
    (hnext : afterNode state' node = .ok (some .escalate)) : Stepped node state' 0 :=
  ⟨_, hnext, ⟨h.response.trans hresponse, fun h => absurd rfl h, nofun, nofun, nofun, nofun, nofun,
    nofun, nofun⟩, hrank, rfl⟩

/-! ## Steps -/

variable {env : Environment World} {I : World → Prop} {i : Id} {w : String}
  {s s' : Shared World Id} {resume : Option ResumeDecision} {result : Except PyError NodeResult}

/-- A node that the run steps over. -/
def StepsTo (w : String) (I : World → Prop) (node : Node) (s s' : Shared World Id)
    (result : Except PyError NodeResult) (tickets : ℕ) : Prop :=
  ∃ state', result = .ok (.update state') ∧ I s'.world ∧ Tasked w node s s' tickets ∧
    Stepped node state' tickets

omit [ValidationTexts] in
theorem afterRoute_of_escalation {state : SupportState} (h : state.escalation.isSome = true) :
    afterRoute state = .ok (some .escalate) := by
  unfold afterRoute
  rw [if_pos h]
  rfl

omit [ValidationTexts] in
/-- The edge behind the route, without an escalation. -/
theorem afterRoute_of_route {state : SupportState} {route : RoutingDecision}
    (hescalation : state.escalation = none) (hroute : state.route = some route) :
    afterRoute state = .ok (some (match route.intent with
      | .orderStatus => .retrieveOrder
      | .policy => .retrievePolicy
      | .refund => .retrieveOrder
      | .escalate => .escalate)) := by
  unfold afterRoute SupportState.requireRoute
  rw [if_neg (by rw [hescalation]; exact Bool.false_ne_true), hroute]
  obtain ⟨intent, confidence, orderId, policySlug, hconfidence⟩ := route
  cases intent with
  | _ => rfl

omit [ValidationTexts] in
/-- The edge behind the evidence, without an escalation. -/
theorem afterEvidence_of_route {state : SupportState} {route : RoutingDecision}
    (hescalation : state.escalation = none) (hroute : state.route = some route) :
    afterEvidence state = .ok (some (if route.intent = .refund then
      if state.evidence.policy.isNone then .retrievePolicy else .proposeRefund else .respond)) := by
  unfold afterEvidence SupportState.requireRoute
  rw [if_neg (by rw [hescalation]; exact Bool.false_ne_true), hroute]
  obtain ⟨intent, confidence, orderId, policySlug, hconfidence⟩ := route
  cases intent with
  | _ => rfl

omit [ValidationTexts] in
theorem afterEvidence_of_escalation {state : SupportState} (h : state.escalation.isSome = true) :
    afterEvidence state = .ok (some .escalate) := by
  unfold afterEvidence
  rw [if_pos h]
  rfl

theorem stepped_route (hready : Ready .route state)
    (hanswers : env.Answers I (.route state.request.message)
      (Dependency.Handles (.route state.request.message))) (hworld : I s.world)
    (hruns : Program.Runs (Performs env i) s (runTask w resume .route state) result s') :
    StepsTo w I .route s s' result 0 := by
  obtain ⟨attempt, answer, hhandles, hI, rfl, hlast, htasked⟩ :=
    runs_runTask_retried state.runId (.route state.request.message) (routeDelta state) rfl
      (by simp only [runNode, routeNode, Program.bind_assoc]) (fun _ => rfl) hanswers hworld hruns
  have hescalation : state.escalation = none := hready.escalation nofun
  cases answer with
  | ok route =>
    refine ⟨_, rfl, hI, htasked, ?_⟩
    refine ⟨_, afterRoute_of_route hescalation rfl, ?_⟩
    cases hintent : route.intent with
    | refund =>
      exact ⟨⟨hready.response, fun _ => hescalation, fun _ => ⟨route, rfl, Or.inr hintent⟩,
        nofun, nofun, nofun, nofun, nofun, nofun⟩, by decide, rfl⟩
    | orderStatus =>
      exact ⟨⟨hready.response, fun _ => hescalation, fun _ => ⟨route, rfl, Or.inl hintent⟩,
        nofun, nofun, nofun, nofun, nofun, nofun⟩, by decide, rfl⟩
    | policy =>
      exact ⟨⟨hready.response, fun _ => hescalation, nofun,
        fun _ => ⟨route, rfl, Or.inl hintent⟩, nofun, nofun, nofun, nofun, nofun⟩, by decide, rfl⟩
    | escalate =>
      exact ⟨⟨hready.response, fun _ => hescalation, nofun, nofun, nofun, nofun, nofun, nofun,
        nofun⟩, by decide, rfl⟩
  | error e =>
    have hname : lengthWithin 1 100 (className e) = true := by
      apply lengthWithin_className
      rcases hhandles with h | h
      · exact Or.inl h
      · refine Or.inr (Or.inr (Or.inl ?_))
        unfold isRefusal
        rw [h, Bool.or_true]
    obtain ⟨state', hdelta, hescalates⟩ := escalates_recover hhandles hname
      (fun h => by unfold isRetried; rw [h, Bool.true_or]) hlast
    exact ⟨state', congrArg (Except.map NodeResult.update) hdelta, hI, htasked,
      hescalates.stepped hready.response (by decide)
        (afterRoute_of_escalation hescalates.escalation)⟩

omit [ValidationTexts] in
/-- The evidence of a node leads to the next one. -/
theorem stepped_evidence {node : Node} {state' : SupportState} {route : RoutingDecision}
    (hnode : node = .retrieveOrder ∨ node = .retrievePolicy) (hresponse : state'.response = none)
    (hescalation : state'.escalation = none) (hroute : state'.route = some route)
    (hpolicy : node = .retrievePolicy → state'.evidence.policy.isNone = false) :
    Stepped node state' 0 := by
  have hnext : afterNode state' node = afterEvidence state' := by
    rcases hnode with rfl | rfl
    · rfl
    · rfl
  refine ⟨_, hnext.trans (afterEvidence_of_route hescalation hroute), ?_⟩
  have hrank : node.rank ≤ 2 := by
    rcases hnode with rfl | rfl
    · decide
    · decide
  by_cases hintent : route.intent = .refund
  · rw [if_pos hintent]
    by_cases hnone : state'.evidence.policy.isNone = true
    · rw [if_pos hnone]
      refine ⟨⟨hresponse, fun _ => hescalation, nofun, fun _ => ⟨route, hroute, Or.inr hintent⟩,
        nofun, nofun, nofun, nofun, nofun⟩, ?_, rfl⟩
      rcases hnode with rfl | rfl
      · decide
      · rw [hpolicy rfl] at hnone
        cases hnone
    · rw [if_neg hnone]
      exact ⟨⟨hresponse, fun _ => hescalation, nofun, nofun, fun _ => ⟨route, hroute, hintent⟩,
        nofun, nofun, nofun, nofun⟩, Nat.lt_succ_of_le hrank, rfl⟩
  · rw [if_neg hintent]
    exact ⟨⟨hresponse, fun _ => hescalation, nofun, nofun, nofun, nofun, nofun, nofun,
      fun _ => ⟨route, hroute, hintent⟩⟩, Nat.lt_of_le_of_lt hrank (by decide), rfl⟩

/-- A node that escalates for want of a reference or of evidence. -/
theorem stepped_missing {node : Node} (reason : EscalationReason)
    (hresponse : state.response = none) (hrank : node.rank < 6)
    (hnext : ∀ state' : SupportState, state'.escalation.isSome = true →
      afterNode state' node = .ok (some .escalate)) (hworld : I s.world)
    (hnode : runNode w resume node state = (do
      return .update (← .done (escalationDelta state reason))))
    (hruns : Program.Runs (Performs env i) s (runTask w resume node state) result s') :
    StepsTo w I node s s' result 0 := by
  obtain ⟨state', hdelta, hescalates⟩ := escalates_delta state reason
  rw [hdelta] at hnode
  obtain ⟨rfl, hworld', htasked⟩ := runs_runTask_done hnode nofun hruns
  exact ⟨state', rfl, by rwa [hworld'], htasked,
    hescalates.stepped hresponse hrank (hnext state' hescalates.escalation)⟩

theorem stepped_order (hready : Ready .retrieveOrder state)
    (hanswers : ∀ call : Dependency, env.Answers I call call.Handles) (hworld : I s.world)
    (hruns : Program.Runs (Performs env i) s (runTask w resume .retrieveOrder state) result s') :
    StepsTo w I .retrieveOrder s s' result 0 := by
  obtain ⟨route, hroute, -⟩ := hready.order rfl
  have hrequire : state.requireRoute = .ok route := by
    unfold SupportState.requireRoute
    rw [hroute]
  cases horder : route.orderId with
  | none =>
    refine stepped_missing .missingOrderReference hready.response (by decide)
      (fun _ => afterEvidence_of_escalation) hworld ?_ hruns
    unfold runNode orderNode
    rw [hrequire, Program.done_ok_bind, horder]
  | some orderId =>
    obtain ⟨attempt, answer, hhandles, hI, rfl, hlast, htasked⟩ :=
      runs_runTask_retried state.runId (.getOrder orderId state.request.actorId) (orderDelta state)
        rfl (by
          unfold runNode orderNode
          simp only [hrequire, Program.done_ok_bind, horder, Program.bind_assoc])
        (fun _ => rfl) (hanswers _) hworld hruns
    cases answer with
    | ok order =>
      exact ⟨_, rfl, hI, htasked, stepped_evidence (Or.inl rfl) hready.response
        (hready.escalation nofun) hroute nofun⟩
    | error e =>
      have hname : lengthWithin 1 100 (className e) = true := lengthWithin_className
        (hhandles.elim (fun h => Or.inr (Or.inl h)) fun h => Or.inr (Or.inr (Or.inl h)))
      obtain ⟨state', hdelta, hescalates⟩ := escalates_recover hhandles hname
        (fun h => by unfold isRetried; rw [h, Bool.or_true]) hlast
      exact ⟨state', congrArg (Except.map NodeResult.update) hdelta, hI, htasked,
        hescalates.stepped hready.response (by decide)
          (afterEvidence_of_escalation hescalates.escalation)⟩

theorem stepped_policy (hready : Ready .retrievePolicy state)
    (hanswers : ∀ call : Dependency, env.Answers I call call.Handles) (hworld : I s.world)
    (hruns : Program.Runs (Performs env i) s (runTask w resume .retrievePolicy state) result s') :
    StepsTo w I .retrievePolicy s s' result 0 := by
  obtain ⟨route, hroute, -⟩ := hready.policy rfl
  have hrequire : state.requireRoute = .ok route := by
    unfold SupportState.requireRoute
    rw [hroute]
  cases hslug : route.policySlug with
  | none =>
    refine stepped_missing .missingPolicyReference hready.response (by decide)
      (fun _ => afterEvidence_of_escalation) hworld ?_ hruns
    unfold runNode policyNode
    rw [hrequire, Program.done_ok_bind, hslug]
  | some slug =>
    obtain ⟨attempt, answer, hhandles, hI, rfl, hlast, htasked⟩ :=
      runs_runTask_retried state.runId (.getPolicy slug) (policyDelta state) rfl (by
          unfold runNode policyNode
          simp only [hrequire, Program.done_ok_bind, hslug, Program.bind_assoc])
        (fun _ => rfl) (hanswers _) hworld hruns
    cases answer with
    | ok policy =>
      exact ⟨_, rfl, hI, htasked, stepped_evidence (Or.inr rfl) hready.response
        (hready.escalation nofun) hroute fun _ => rfl⟩
    | error e =>
      have hname : lengthWithin 1 100 (className e) = true := lengthWithin_className
        (hhandles.elim (fun h => Or.inr (Or.inl h)) fun h => Or.inr (Or.inr (Or.inr h)))
      obtain ⟨state', hdelta, hescalates⟩ := escalates_recover hhandles hname
        (fun h => by unfold isRetried; rw [h, Bool.or_true]) hlast
      exact ⟨state', congrArg (Except.map NodeResult.update) hdelta, hI, htasked,
        hescalates.stepped hready.response (by decide)
          (afterEvidence_of_escalation hescalates.escalation)⟩

theorem stepped_proposal (hready : Ready .proposeRefund state)
    (hanswers : ∀ call : Dependency, env.Answers I call call.Handles) (hworld : I s.world)
    (hruns : Program.Runs (Performs env i) s (runTask w resume .proposeRefund state) result s') :
    StepsTo w I .proposeRefund s s' result 0 := by
  have hescalate : ∀ state' : SupportState, state'.escalation.isSome = true →
      afterNode state' .proposeRefund = .ok (some .escalate) := by
    intro state' h
    unfold afterNode afterProposal
    dsimp only
    rw [if_pos h]
  -- without an order the node escalates; a refusal of the service escalates as well
  cases horder : state.evidence.order with
  | none =>
    refine stepped_missing .missingOrderEvidence hready.response (by decide) hescalate
      hworld ?_ hruns
    unfold runNode proposalNode
    rw [horder]
  | some order =>
    obtain ⟨answer, hhandles, hI, rfl, htasked⟩ := runs_runTask_once
      (.propose state.request.actorId state.request.requestId order state.evidence.policy)
      (proposalDelta state) rfl (by
        unfold runNode proposalNode
        simp only [horder, Program.bind_assoc]) (hanswers _) hworld hruns
    cases answer with
    | ok proposal =>
      have hescalation : state.escalation = none := hready.escalation nofun
      refine ⟨_, rfl, hI, htasked, some .confirmation, ?_, ?_, by decide, rfl⟩
      · unfold afterNode afterProposal
        dsimp only
        rw [hescalation]
        rfl
      · exact ⟨hready.response, fun _ => hescalation, nofun, nofun,
          fun _ => hready.refund (Or.inl rfl), fun _ => rfl, fun _ => rfl, nofun, nofun⟩
    | error e =>
      have hrefusal : isRefusal e = true := hhandles
      obtain ⟨state', hdelta, hescalates⟩ := escalates_escalated state .proposeRefund
        .refundActionUnsafe (lengthWithin_className (Or.inr (Or.inr (Or.inl hrefusal))))
      refine ⟨state', ?_, hI, htasked,
        hescalates.stepped hready.response (by decide) (hescalate state' hescalates.escalation)⟩
      unfold proposalDelta
      dsimp only
      rw [if_pos hrefusal, hdelta]
      rfl

/-! ## The last steps -/

/-- A run without a resume command waits for its confirmation. -/
theorem interrupted_confirmation (hready : Ready .confirmation state) (hworld : I s.world)
    (hruns : Program.Runs (Performs env i) s (runTask w none .confirmation state) result s') :
    result = .ok .interrupt ∧ I s'.world ∧ Tasked w .confirmation s s' 0 := by
  obtain ⟨proposal, hproposal⟩ := Option.isSome_iff_exists.mp (hready.proposal (Or.inl rfl))
  have hnode : runNode w none .confirmation state = .done (.ok .interrupt) := by
    unfold runNode confirmationNode
    dsimp only
    rw [hproposal]
    rfl
  obtain ⟨rfl, hworld', htasked⟩ := runs_runTask_done hnode nofun hruns
  exact ⟨rfl, by rwa [hworld'], htasked⟩

/-- A decision, by the actor and under the request of the workflow. -/
structure ResumeDecision.Matches (decision : ResumeDecision) (state : SupportState)
    (d : ConfirmationDecision) : Prop where
  actorId : decision.actorId = state.request.actorId.str
  requestId : decision.requestId = state.request.requestId
  decision : decision.decision = d.value
  decided : d ≠ .pending

omit [ValidationTexts] in
theorem runs_now {answer : Except PyError DateTime}
    (hruns : Program.Runs (Performs env i) s (invoke .now) answer s') :
    s'.world = s.world ∧ s'.checkpoints = s.checkpoints ∧ Passed w s s' 0 0 0 ∧
      ∃ time, answer = .ok time := by
  have hperforms := Program.runs_perform_iff.mp hruns
  have hpassed : Passed w s s' 0 0 0 := hperforms.passed
    { attempts := fun _ => rfl, completions := fun _ => rfl, tickets := rfl }
  cases hperforms with
  | now time => exact ⟨rfl, rfl, hpassed, time, rfl⟩

/-- The confirmation takes a decision. -/
theorem stepped_confirmation {decision : ResumeDecision} {d : ConfirmationDecision}
    (hready : Ready .confirmation state) (hmatches : decision.Matches state d) (hworld : I s.world)
    (hruns : Program.Runs (Performs env i) s (runTask w (some decision) .confirmation state) result
      s') : StepsTo w I .confirmation s s' result 0 := by
  obtain ⟨proposal, hproposal⟩ := Option.isSome_iff_exists.mp (hready.proposal (Or.inl rfl))
  have hescalation : state.escalation = none := hready.escalation nofun
  rw [runTask_confirmation w hproposal hmatches.actorId hmatches.requestId hmatches.decision
    hmatches.decided] at hruns
  rcases Program.runs_bind_iff.mp hruns with ⟨_, s₁, htask, hruns⟩ | ⟨e, htask, -⟩
  · obtain ⟨-, hworld₁, hcheckpoints₁, -, hpassed₁⟩ := runs_task htask
    rcases Program.runs_bind_iff.mp hruns with ⟨decidedAt, s₂, hnow, hruns⟩ | ⟨e, hnow, -⟩
    · obtain ⟨hworld₂, hcheckpoints₂, hpassed₂, -⟩ := runs_now (w := w) hnow
      obtain ⟨rfl, rfl⟩ := Program.runs_done_iff.mp hruns
      refine ⟨_, rfl, by rwa [hworld₂, hworld₁],
        ⟨hcheckpoints₂.trans hcheckpoints₁, 1, le_rfl, hpassed₁.trans hpassed₂⟩, _, rfl, ?_⟩
      have hrefund := hready.refund (Or.inr (Or.inl rfl))
      have hproposed := hready.proposal (Or.inl rfl)
      by_cases hconfirm : d = .confirm
      · rw [if_pos hconfirm]
        exact ⟨⟨hready.response, fun _ => hescalation, nofun, nofun, fun _ => hrefund,
          fun _ => hproposed, nofun, fun _ => ⟨_, rfl, hconfirm⟩, nofun⟩, by decide, rfl⟩
      · rw [if_neg hconfirm]
        exact ⟨⟨hready.response, fun _ => hescalation, nofun, nofun, fun _ => hrefund,
          nofun, nofun, nofun, nofun⟩, by decide, rfl⟩
    · obtain ⟨-, -, -, time, h⟩ := runs_now (w := w) hnow
      cases h
  · cases (runs_task htask).1

omit [ValidationTexts] in
/-- `SupportResponse(...)` with a message that passes its check -/
theorem SupportResponse.new_eq_ok {intent : RouteIntent} {outcome : SupportOutcome}
    {reasonCode : ReasonCode} {message : String} {context : AnswerContext}
    (h : lengthWithin 1 4000 message = true) :
    SupportResponse.new intent outcome reasonCode message context =
      .ok ⟨intent, outcome, reasonCode, message, context, h⟩ :=
  dif_pos h

omit [ValidationTexts] in
theorem requireRoute_eq_ok {state : SupportState} {route : RoutingDecision}
    (h : state.route = some route) : state.requireRoute = .ok route := by
  unfold SupportState.requireRoute
  rw [h]

/-- The update of a node that responds. -/
structure Responds (state state' : SupportState) (status : WorkflowStatus) : Prop where
  response : state'.response.isSome = true
  status : state'.status = status
  escalation : state'.escalation = state.escalation
  route : state'.route = state.route
  confirmation : state'.confirmation = state.confirmation

theorem responds_executionDelta {route : RoutingDecision} (order : OrderRead)
    (hroute : state.route = some route) :
    ∃ state', executionDelta state (.ok order) = .ok state' ∧ Responds state state' .completed := by
  have hmessage : lengthWithin 1 4000
      "Your refund was confirmed and the order is now marked as refunded." = true := by
    decide +kernel
  unfold executionDelta
  dsimp only
  simp only [requireRoute_eq_ok hroute, SupportResponse.new_eq_ok hmessage]
  exact ⟨_, rfl, rfl, rfl, rfl, rfl, rfl⟩

omit [ValidationTexts] in
theorem responds_rejectionDelta (state : SupportState) (route : RoutingDecision) :
    ∃ state', rejectionDelta state route = .ok state' ∧ Responds state state' .rejected := by
  have hmessage : lengthWithin 1 4000
      "No refund was made because the proposed action was rejected." = true := by
    decide +kernel
  unfold rejectionDelta
  rw [SupportResponse.new_eq_ok hmessage]
  exact ⟨_, rfl, rfl, rfl, rfl, rfl, rfl⟩

theorem responds_responseDelta (state : SupportState) (route : RoutingDecision) (attempt : ℕ)
    {message : String} (hmessage : lengthWithin 1 4000 message = true) :
    ∃ state', responseDelta state route attempt (.ok message) = .ok state' ∧
      Responds state state' .completed := by
  unfold responseDelta
  dsimp only
  rw [SupportResponse.new_eq_ok hmessage]
  exact ⟨_, rfl, rfl, rfl, rfl, rfl, rfl⟩

omit [ValidationTexts] in
theorem responds_ticketDelta (state : SupportState) (reason : EscalationReason)
    (ticket : TicketRead) :
    ∃ state', ticketDelta state reason (.ok ticket) = .ok state' ∧
      state'.response.isSome = true ∧ state'.status = .escalated := by
  have hmessage : lengthWithin 1 4000 "I have handed this request to a human support agent." =
      true := by
    decide +kernel
  unfold ticketDelta
  dsimp only
  rw [SupportResponse.new_eq_ok hmessage]
  exact ⟨_, rfl, rfl, rfl⟩

omit [ValidationTexts] in
/-- A run ends with a response that is no escalation. -/
theorem Responds.over {state' : SupportState} {status : WorkflowStatus}
    (h : Responds state state' status) (hstatus : status ≠ .escalated)
    (hunconfirmed : state.Routed (· = .refund) → ¬ state.Decided .confirm →
      status ≠ .completed) : Over state' 0 where
  response := h.response
  escalated := iff_of_false (by rw [h.status]; exact hstatus) (by decide)
  unescalated _ := rfl
  unconfirmed hrefund hdecided := by
    rw [h.status]
    apply hunconfirmed
    · unfold SupportState.Routed at hrefund ⊢
      rwa [h.route] at hrefund
    · unfold SupportState.Decided at hdecided ⊢
      rwa [h.confirmation] at hdecided

theorem stepped_execute (hready : Ready .executeRefund state)
    (hanswers : ∀ call : Dependency, env.Answers I call call.Handles) (hworld : I s.world)
    (hruns : Program.Runs (Performs env i) s (runTask w resume .executeRefund state) result s') :
    StepsTo w I .executeRefund s s' result 0 := by
  obtain ⟨proposal, hproposal⟩ := Option.isSome_iff_exists.mp (hready.proposal (Or.inr rfl))
  obtain ⟨confirmation, hconfirmation, hconfirm⟩ := hready.confirmed rfl
  obtain ⟨route, hroute, -⟩ := hready.refund (Or.inr (Or.inr (Or.inl rfl)))
  obtain ⟨answer, hhandles, hI, rfl, htasked⟩ := runs_runTask_once
    (.execute confirmation.actorId proposal.orderId) (executionDelta state) rfl (by
      unfold runNode executeNode
      simp only [hproposal, hconfirmation, hconfirm, ne_eq, not_true_eq_false, if_false,
        Program.bind_assoc]) (hanswers _) hworld hruns
  cases answer with
  | ok order =>
    obtain ⟨state', hdelta, hresponds⟩ := responds_executionDelta order hroute
    refine ⟨state', congrArg (Except.map NodeResult.update) hdelta, hI, htasked, none, ?_,
      hresponds.over nofun fun _ hunconfirmed =>
        absurd ⟨confirmation, hconfirmation, hconfirm⟩ hunconfirmed⟩
    unfold afterNode afterExecution
    dsimp only
    rw [hresponds.escalation, hready.escalation nofun]
    rfl
  | error e =>
    have hrefusal : isRefusal e = true := hhandles
    obtain ⟨state', hdelta, hescalates⟩ := escalates_escalated state .executeRefund
      .refundExecutionUnsafe (lengthWithin_className (Or.inr (Or.inr (Or.inl hrefusal))))
    refine ⟨state', ?_, hI, htasked, hescalates.stepped hready.response (by decide) ?_⟩
    · unfold executionDelta
      dsimp only
      rw [if_pos hrefusal, hdelta]
      rfl
    · unfold afterNode afterExecution
      dsimp only
      rw [if_pos hescalates.escalation]

theorem stepped_reject (hready : Ready .reject state) (hworld : I s.world)
    (hruns : Program.Runs (Performs env i) s (runTask w resume .reject state) result s') :
    StepsTo w I .reject s s' result 0 := by
  obtain ⟨route, hroute, -⟩ := hready.refund (Or.inr (Or.inr (Or.inr rfl)))
  obtain ⟨state', hdelta, hresponds⟩ := responds_rejectionDelta state route
  have hnode : runNode w resume .reject state = .done (.ok (.update state')) := by
    unfold runNode rejectionNode
    dsimp only
    rw [requireRoute_eq_ok hroute, Program.done_ok_bind, hdelta]
    rfl
  obtain ⟨rfl, hworld', htasked⟩ := runs_runTask_done hnode nofun hruns
  exact ⟨state', rfl, by rwa [hworld'], htasked, none, rfl, hresponds.over nofun fun _ _ => nofun⟩

theorem stepped_respond (hready : Ready .respond state)
    (hanswers : ∀ call : Dependency, env.Answers I call call.Handles) (hworld : I s.world)
    (hruns : Program.Runs (Performs env i) s (runTask w resume .respond state) result s') :
    StepsTo w I .respond s s' result 0 := by
  obtain ⟨route, hroute, hintent⟩ := hready.respond rfl
  obtain ⟨attempt, answer, hhandles, hI, rfl, hlast, htasked⟩ :=
    runs_runTask_retried state.runId
      (.generate state.request.message route state.evidence state.proposedAction)
      (responseDelta state route) rfl (by
        unfold runNode responseNode
        simp only [requireRoute_eq_ok hroute, Program.done_ok_bind, Program.bind_assoc])
      (fun _ => rfl) (hanswers _) hworld hruns
  cases answer with
  | ok message =>
    obtain ⟨state', hdelta, hresponds⟩ :=
      responds_responseDelta state route attempt hhandles
    refine ⟨state', congrArg (Except.map NodeResult.update) hdelta, hI, htasked, none, ?_,
      hresponds.over nofun ?_⟩
    · unfold afterNode afterResponse
      dsimp only
      rw [hresponds.escalation, hready.escalation nofun]
      rfl
    · rintro ⟨route', hroute', hrefund⟩
      rw [hroute, Option.some.injEq] at hroute'
      rw [← hroute'] at hrefund
      exact absurd hrefund hintent
  | error e =>
    have hname : lengthWithin 1 100 (className e) = true := by
      apply lengthWithin_className
      rcases hhandles with h | h
      · exact Or.inl h
      · refine Or.inr (Or.inr (Or.inl ?_))
        unfold isRefusal
        rw [h, Bool.or_true]
    obtain ⟨state', hdelta, hescalates⟩ := escalates_recover hhandles hname
      (fun h => by unfold isRetried; rw [h, Bool.true_or]) hlast
    refine ⟨state', congrArg (Except.map NodeResult.update) hdelta, hI, htasked,
      hescalates.stepped hready.response (by decide) ?_⟩
    unfold afterNode afterResponse
    dsimp only
    rw [if_pos hescalates.escalation]

theorem stepped_escalate (hanswers : ∀ call : Dependency, env.Answers I call call.Handles)
    (hworld : I s.world)
    (hruns : Program.Runs (Performs env i) s (runTask w resume .escalate state) result s') :
    StepsTo w I .escalate s s' result 1 := by
  obtain ⟨answer, hhandles, hI, rfl, htasked⟩ := runs_runTask_once
    (.escalate state.request.actorId (state.escalation.elim .requestedByRoute (·.reason))
      state.request.requestId)
    (ticketDelta state (state.escalation.elim .requestedByRoute (·.reason))) rfl (by
      simp only [runNode, escalationNode, Program.bind_assoc]) (hanswers _) hworld hruns
  cases answer with
  | ok ticket =>
    obtain ⟨state', hdelta, hresponse, hstatus⟩ := responds_ticketDelta state
      (state.escalation.elim .requestedByRoute (·.reason)) ticket
    refine ⟨state', congrArg (Except.map NodeResult.update) hdelta, hI, htasked, none, rfl,
      hresponse, iff_of_true hstatus rfl, ?_, ?_⟩
    · rw [hstatus]
      rintro (h | h)
      · cases h
      · cases h
    · intro _ _
      rw [hstatus]
      exact nofun
  | error e => exact hhandles.elim

end ObservabilityLab.Workflow
