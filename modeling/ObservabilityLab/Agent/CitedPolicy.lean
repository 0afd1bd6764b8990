import ObservabilityLab.Agent.Invariants
import ObservabilityLab.Retrieval.Search

/-!
# Cited policy answers

An agent with a policy retriever searches for the message of the turn when the model asks for the
policy, and resolves the citations of a policy answer against the hits of the last search. An answer
that cites nothing, or something else, is blocked.

## Main definitions

* `buildCitedPolicyAnswer`: the citations of an answer, resolved against hits
* `Searching`: the world of a turn, and the hits that the service keeps beside it
* `RetrievingAgent`, `RetrievingAgent.handle`: the agent with its retriever, and one turn
* `QuotesIngested`: a response whose citations quote ingested documents

## Main results

* `buildCitedPolicyAnswer_eq_ok`: every citation of an answer is a hit, with its text and version
* `handle_citing`: what every hit of the retriever has, every citation of a turn has
* `handle_quotesIngested`: every citation of a turn quotes an ingested document
-/

namespace ObservabilityLab

open Python Raising

/-! ## Cited answers -/

/-- The evidence of one citation. -/
structure PolicyCitation where
  citationId : String
  text : String
  documentVersion : String
  citationIdNonempty : citationId ≠ ""
  textNonempty : text ≠ ""
  documentVersionNonempty : documentVersion ≠ ""

/-- `PolicyCitation(...)` -/
def PolicyCitation.new (citationId text documentVersion : String) : Raises PolicyCitation :=
  if hid : citationId = "" then .error (.validation "PolicyCitation" "citation_id")
  else if htext : text = "" then .error (.validation "PolicyCitation" "text")
  else if hversion : documentVersion = "" then
    .error (.validation "PolicyCitation" "document_version")
  else .ok ⟨citationId, text, documentVersion, hid, htext, hversion⟩

/-- A policy answer whose citations resolve to hits. -/
structure CitedPolicyAnswer where
  message : String
  citations : List PolicyCitation
  messageLength : lengthWithin 1 4000 message = true
  citationsNonempty : citations ≠ []

/-- `CitedPolicyAnswer(...)` -/
def CitedPolicyAnswer.new (message : String) (citations : List PolicyCitation) :
    Raises CitedPolicyAnswer :=
  if hmessage : ¬ lengthWithin 1 4000 message = true then
    .error (.validation "CitedPolicyAnswer" "message")
  else if hcitations : citations = [] then .error (.validation "CitedPolicyAnswer" "citations")
  else .ok ⟨message, citations, not_not.mp hmessage, hcitations⟩

/-- The codes of `RetrievalError`s. -/
def retrievalCodes : List String :=
  ["embedding_dimension_mismatch", "embedding_provider_unavailable", "hallucinated_citation"]

/-- The code of a `RetrievalError`. -/
def retrievalCode : PyError → Option String
  | .domain code _ _ => if code ∈ retrievalCodes then some code else none
  | _ => none

/-- `isinstance(error, HallucinatedCitation)` -/
def isHallucinated (error : PyError) : Bool := retrievalCode error = some "hallucinated_citation"

/-- `by_id.get(citation_id)`, where a later hit replaces an earlier one with its identifier. -/
def citedHit (hits : List RetrievalHit) (citationId : String) : Option RetrievalHit :=
  hits.reverse.find? (·.chunkId.str = citationId)

section Answers

variable [UnicodeTables]

/-- `HallucinatedCitation(citation_id)` -/
def hallucinatedCitation (citationId : String) : PyError :=
  .domain "hallucinated_citation"
    ("The citation " ++ reprText citationId ++ " was not returned by retrieval")
    unprocessableEntity

/-- One citation, resolved against hits. -/
def citationOf (hits : List RetrievalHit) (citationId : String) : Raises PolicyCitation :=
  match citedHit hits citationId with
  | none => .error (hallucinatedCitation citationId)
  | some hit => PolicyCitation.new citationId hit.text hit.documentVersion

/-- `build_cited_policy_answer(message, citation_ids, hits)` -/
def buildCitedPolicyAnswer (message : String) (citationIds : List String)
    (hits : List RetrievalHit) : Raises CitedPolicyAnswer := do
  let citations ← citationIds.mapM (citationOf hits)
  raiseIf citations.isEmpty (hallucinatedCitation "missing")
  CitedPolicyAnswer.new message citations

/-- **A citation is a hit**, with its text and its version. -/
def Cites (hits : List RetrievalHit) (citation : PolicyCitation) : Prop :=
  ∃ hit ∈ hits, citation.citationId = hit.chunkId.str ∧ citation.text = hit.text ∧
    citation.documentVersion = hit.documentVersion

theorem citationOf_eq_ok {hits : List RetrievalHit} {citationId : String}
    {citation : PolicyCitation} (h : citationOf hits citationId = .ok citation) :
    citation.citationId = citationId ∧ Cites hits citation := by
  unfold citationOf at h
  cases hfind : citedHit hits citationId with
  | none =>
    rw [hfind] at h
    cases h
  | some hit =>
    rw [hfind] at h
    have hmem := List.mem_reverse.mp (List.mem_of_find?_eq_some hfind)
    have hid := List.find?_some hfind
    rw [decide_eq_true_eq] at hid
    dsimp only at h
    unfold PolicyCitation.new at h
    split_ifs at h
    rw [← Except.ok.inj h]
    exact ⟨rfl, hit, hmem, hid.symm, rfl, rfl⟩

/-- **Every citation of an answer is a hit**, in the order in which the model cited them. -/
theorem buildCitedPolicyAnswer_eq_ok {message : String} {citationIds : List String}
    {hits : List RetrievalHit} {answer : CitedPolicyAnswer}
    (h : buildCitedPolicyAnswer message citationIds hits = .ok answer) :
    answer.citations.map (·.citationId) = citationIds ∧
      ∀ citation ∈ answer.citations, Cites hits citation := by
  obtain ⟨citations, hcitations, h⟩ := bind_eq_ok.mp h
  obtain ⟨-, h⟩ := check_bind_eq_ok.mp h
  have heq : answer.citations = citations := by
    unfold CitedPolicyAnswer.new at h
    split_ifs at h
    rw [← Except.ok.inj h]
  rw [heq]
  constructor
  · have hids := (forall₂_of_mapM hcitations).imp fun _ _ h => (citationOf_eq_ok h).1.symm
    rw [← map_eq_map_of_forall₂ (f := id) hids, List.map_id]
  · intro citation hcitation
    obtain ⟨citationId, -, hcitation⟩ := exists_of_mem_mapM hcitations hcitation
    exact (citationOf_eq_ok hcitation).2

end Answers

/-! ## The agent with a retriever -/

/-- The final answer of the model, with the identifiers that it cites. -/
structure CitedDraft extends AnswerDraft where
  message : String
  citations : List String := []
  messageLength : lengthWithin 1 4000 message = true

/-- A strategy of an answer model that cites. -/
inductive CitingModel where
  | draft (draft : CitedDraft)
  | fails (name message : String)
  | calls (call : ToolCall) (next : ToolReply → CitingModel)

/-- What the hosted model does in one turn; `none` is a routing that fails. -/
structure CitingScript where
  routing : Option RoutingDecision
  answer : CitingModel

/-- A response with the citations of its context. -/
structure CitedResponse extends SupportResponse where
  citations : List PolicyCitation := []

/-- The world of a turn. The hits that the service keeps of its last search stand beside it. -/
structure Searching (World : Type) where
  world : World
  lastPolicyHits : List RetrievalHit := []

section Beside

variable {World α : Type}

/-- A call on the world. -/
def beside (x : Action World α) : Action (Searching World) α :=
  zoom Searching.world (fun world searching => { searching with world := world }) x

/-- The repository of a world. -/
def SupportRepository.beside (repository : SupportRepository (Action World)) :
    SupportRepository (Action (Searching World)) where
  getOrder orderId := ObservabilityLab.beside (repository.getOrder orderId)
  saveOrder order := ObservabilityLab.beside (repository.saveOrder order)
  refundOrderIfDelivered orderId actorId :=
    ObservabilityLab.beside (repository.refundOrderIfDelivered orderId actorId)
  createTicket ticket := ObservabilityLab.beside (repository.createTicket ticket)
  getTicket ticketId := ObservabilityLab.beside (repository.getTicket ticketId)
  getPolicy slug version := ObservabilityLab.beside (repository.getPolicy slug version)

end Beside

/-- The reference agent with its policy retriever. -/
structure RetrievingAgent (World : Type) where
  agent : PydanticAISupportAgent World
  policyRetriever : Option (Retriever World) := none

namespace RetrievingAgent

variable {World : Type} (agent : RetrievingAgent World) (request : SupportRequest)

/-- The service of a turn. -/
def service : SupportAgentService (Searching World) where
  repository := agent.agent.repository.beside
  customerId := request.customerId
  refundConfirmed := request.refundConfirmed
  proposalIds := agent.agent.proposalIds

/-- `self.last_policy_hits = await self._policy_retriever.search(self._request_message)` -/
def searchPolicy (retriever : Retriever World) : Action (Turn (Searching World)) Unit := do
  let hits ← onWorld (beside (retriever.search request.message 5))
  modify fun turn => { turn with world := { turn.world with lastPolicyHits := hits } }

/-- The policy and, with a retriever, the evidence for the message of the turn. -/
def getPolicy (slug : String) : Action (Turn (Searching World)) PolicyDocumentRead :=
  span "support_agent.retrieval.policy" do
    let policy ← SupportAgentService.databaseCall
      (getLatestPolicy (agent.service request).repository slug)
    setAttribute "retrieval.policy.version" (.str policy.version)
    updateService ({ · with
      retrievedPolicyVersion := some policy.version, lastPolicy := some policy })
    match agent.policyRetriever with
    | none => return policy
    | some retriever => do
      searchPolicy request retriever
      return policy

/-- What the model gets to read: the hits, or without a retriever the whole policy. -/
def policyReply (policy : PolicyDocumentRead) (hits : List RetrievalHit) : String :=
  "POLICY VERSION " ++ policy.version ++ "\n" ++
    if agent.policyRetriever.isSome then
      "\n".intercalate (hits.map fun hit => "[" ++ hit.chunkId.str ++ "] " ++ hit.text)
    else policy.content

/-- `_get_policy(ctx, slug)` -/
def policyTool (slug : String) : Action (Turn (Searching World)) ToolReply :=
  span "support_agent.tool.get_policy" do
    match ← attempt (agent.getPolicy request slug) with
    | .ok policy => do
      updateService fun state => { state with toolCalls := state.toolCalls ++ ["get_policy"] }
      let turn ← get
      return .text (agent.policyReply policy turn.world.lastPolicyHits)
    | .error e =>
      if e = policyNotFound then do
        setAttribute "tool.error.code" (.str ReasonCode.toolError.value)
        setError .toolError
        return .text "POLICY_NOT_FOUND: no policy document is available; escalate."
      else match retrievalCode e with
        | some code => do
          setAttribute "tool.error.code" (.str code)
          updateTelemetry (·.onSpan (·.setError code))
          return .text
            "POLICY_RETRIEVAL_UNAVAILABLE: policy evidence could not be verified; escalate."
        | none => throw e

/-- The tool functions; `get_policy` searches, and the others are those of every agent. -/
def runTool : ToolCall → Action (Turn (Searching World)) ToolReply
  | .getPolicy slug => agent.policyTool request slug
  | call => ObservabilityLab.runTool (agent.service request) call

/-- One tool call of the model. A call of a tool that is not registered has no effect. -/
def answerCall (tools : List String) (call : ToolCall) :
    Action (Turn (Searching World)) ToolReply :=
  if call.name ∈ tools then agent.runTool request call
  else pure (.retry ("Unknown tool name: " ++ call.name))

/-- `agent.run(...)` -/
def runAnswer (tools : List String) : CitingModel → Action (Turn (Searching World)) CitedDraft
  | .draft draft => return draft
  | .fails name message => throw (.other name message)
  | .calls call next => do
    let reply ← agent.answerCall request tools call
    runAnswer tools (next reply)

section Response

variable [UnicodeTables]

/-- `_assemble(...)`: the response, and whether a policy answer was grounded. -/
def assemble (routing : RoutingDecision) (draft : CitedDraft) (turn : Turn (Searching World)) :
    Raises (CitedResponse × Option Bool) :=
  if draft.intent = .policy ∧ agent.policyRetriever.isSome = true ∧
      isGrounded agent.agent.answerInstructionsVersion turn.service = true then
    match buildCitedPolicyAnswer draft.message draft.citations turn.world.lastPolicyHits with
    | .ok cited => .ok (⟨⟨.policy, .completed, .policyAnswer⟩, cited.citations⟩, some true)
    | .error error =>
      if isHallucinated error then
        .ok (⟨⟨.policy, .blocked, .policyAnswerUngrounded⟩, []⟩, some false)
      else .error error
  else
    let (response, grounded) := ObservabilityLab.assemble agent.agent.answerInstructionsVersion
      routing draft.toAnswerDraft turn.service turn.retryCount
    .ok (⟨response, []⟩, grounded)

/-- The response after the model answered, with the automatic confirmation before it. -/
def respond (routing : RoutingDecision) (draft : CitedDraft) :
    Action (Turn (Searching World)) (CitedResponse × Option Bool) := do
  let state := (← get).service
  match confirmationDue routing request.refundConfirmed state with
  | some orderId => do
    let _ ← (agent.service request).confirmRefund orderId
  | none => pure ()
  let turn ← get
  MonadExcept.ofExcept (agent.assemble routing draft turn)

/-- `_answer(...)` -/
def answer (routing : RoutingDecision) (model : CitingModel) :
    Action (Turn (Searching World)) (CitedResponse × Option Bool) := do
  match ← attempt (span "support_agent.answer"
    (agent.runAnswer request (agent.agent.tools routing.intent) model)) with
  | .error _ => return (⟨failedResponse, []⟩, none)
  | .ok draft => agent.respond request routing draft

/-- A turn after its routing. -/
def act (routing : Option RoutingDecision) (model : CitingModel) :
    Action (Turn (Searching World)) (CitedResponse × Option Bool) :=
  match routing with
  | none => return (⟨failedResponse, []⟩, none)
  | some routing =>
    match (planTurn routing).action with
    | .escalate => do
      let response ← escalateTurn (agent.service request) (planTurn routing).reasonCode
      return (⟨response, []⟩, none)
    | .answer => agent.answer request routing model

/-- `handle(request)`: one complete turn, on a new service. -/
def handle (script : CitingScript) : Action (Turn (Searching World)) CitedResponse := do
  modify fun turn =>
    { turn with service := {}, retryCount := 0, world := { turn.world with lastPolicyHits := [] } }
  span "support_agent.turn" do
    span "support_agent.routing" (pure ())
    let (response, grounded) ← agent.act request script.routing script.answer
    if let some grounded := grounded then
      setAttribute "support.policy.grounded" (.bool grounded)
    return response

end Response

end RetrievingAgent

/-! ## What a turn keeps of its hits -/

section Kept

variable {World : Type} {P : RetrievalHit → Prop}

/-- The hits that the service keeps have a property. -/
def HitsHave (P : RetrievalHit → Prop) (turn : Turn (Searching World)) : Prop :=
  ∀ hit ∈ turn.world.lastPolicyHits, P hit

/-- The searches of a retriever return hits with a property. -/
def Retriever.Finds (P : RetrievalHit → Prop) (retriever : Retriever World) : Prop :=
  ∀ query limit, Triple (fun _ => True) (retriever.search query limit)
    (fun hits _ => ∀ hit ∈ hits, P hit) fun _ _ => True

/-- **No call of the world's repository changes the hits.** -/
theorem kept_beside (repository : SupportRepository (Action World)) (customerId : Uuid)
    (P : RetrievalHit → Prop) :
    Kept repository.beside customerId (fun searching _ => ∀ hit ∈ searching.lastPolicyHits, P hit)
      fun _ searching _ => ∀ hit ∈ searching.lastPolicyHits, P hit := by
  have hcall : ∀ {α : Type} (x : Action World α) (spans : List TraceSpan),
      Triple (fun searching => ∀ hit ∈ searching.lastPolicyHits, P hit) (beside x)
        (fun _ searching => ∀ hit ∈ searching.lastPolicyHits, P hit) fun e searching =>
          Raised (fun searching _ => ∀ hit ∈ searching.lastPolicyHits, P hit)
            (fun _ searching _ => ∀ hit ∈ searching.lastPolicyHits, P hit) e searching spans := by
    intro α x spans
    refine triple_zoom fun searching h => ?_
    refine triple_of_runs (fun _ _ _ _ _ => h) fun _ e _ _ _ => ?_
    rw [Raised, ite_self]
    exact h
  exact
    { mono := fun _ _ _ h => h
      monoViolated := fun _ _ _ _ h => h
      getOrder := fun _ => hcall _
      refundOrderIfDelivered := fun _ => hcall _
      createTicket := fun _ spans _ _ => hcall _ spans
      getPolicy := fun _ _ => hcall _ }

namespace RetrievingAgent

variable {agent : RetrievingAgent World} {request : SupportRequest}

/-- No call of the service's repository changes the hits. -/
theorem service_kept (agent : RetrievingAgent World) (request : SupportRequest)
    (P : RetrievalHit → Prop) :
    Kept (agent.service request).repository (agent.service request).customerId
      (fun searching _ => ∀ hit ∈ searching.lastPolicyHits, P hit)
      fun _ searching _ => ∀ hit ∈ searching.lastPolicyHits, P hit :=
  kept_beside agent.agent.repository request.customerId P

/-- What a computation keeps of the world, it keeps of the hits. -/
theorem keeps_of_kept {α : Type} {x : Action (Turn (Searching World)) α}
    (h : Triple (During fun searching _ => ∀ hit ∈ searching.lastPolicyHits, P hit) x
      (fun _ => During fun searching _ => ∀ hit ∈ searching.lastPolicyHits, P hit) fun e =>
        During (Raised (fun searching _ => ∀ hit ∈ searching.lastPolicyHits, P hit)
          (fun _ searching _ => ∀ hit ∈ searching.lastPolicyHits, P hit) e)) :
    Keeps (HitsHave P) x :=
  triple_mono h (fun _ h => h) (fun _ _ h => h) fun e turn h => by
    rwa [During, Raised, ite_self] at h

theorem hitsHave_stable : Stable (HitsHave P : Turn (Searching World) → Prop) := fun _ _ _ h => h

theorem span_keeps {α : Type} {name : String} {body : Action (Turn (Searching World)) α}
    (h : Keeps (HitsHave P) body) : Keeps (HitsHave P) (span name body) :=
  span_triple hitsHave_stable (fun _ => hitsHave_stable) (fun _ => hitsHave_stable) h

/-- **A search replaces the hits by what the retriever found**, or leaves them as they are. -/
theorem searchPolicy_keeps {retriever : Retriever World} (hfinds : retriever.Finds P) :
    Keeps (HitsHave P) (searchPolicy request retriever) := by
  refine triple_bind (Q := fun hits _ => ∀ hit ∈ hits, P hit) ?_ fun hits => ?_
  · refine triple_zoom fun turn h => triple_zoom fun searching hsearching => ?_
    subst hsearching
    exact triple_mono (hfinds _ _) (fun _ _ => trivial) (fun _ _ hhits => hhits) fun _ _ _ => h
  · exact triple_modify fun _ hhits => hhits

theorem getPolicy_keeps (hfinds : ∀ retriever ∈ agent.policyRetriever, retriever.Finds P)
    (slug : String) : Keeps (HitsHave P) (agent.getPolicy request slug) := by
  have hkept := service_kept agent request P
  refine span_keeps ?_
  refine Keeps.bind (keeps_of_kept (hkept.databaseCall
    (hkept.serviceGetLatestPolicy slug))) fun policy => ?_
  refine Keeps.bind (setAttribute_triple hitsHave_stable) fun _ => ?_
  refine Keeps.bind (triple_modify fun _ h => h) fun _ => ?_
  cases hretriever : agent.policyRetriever with
  | none => exact triple_pure fun _ h => h
  | some retriever =>
    exact (searchPolicy_keeps (hfinds retriever hretriever)).bind fun _ => triple_pure fun _ h => h

theorem policyTool_keeps (hfinds : ∀ retriever ∈ agent.policyRetriever, retriever.Finds P)
    (slug : String) : Keeps (HitsHave P) (agent.policyTool request slug) := by
  refine span_keeps ?_
  refine (getPolicy_keeps hfinds slug).attempt.bind fun result => ?_
  cases result with
  | ok policy =>
    refine Keeps.bind (triple_modify fun _ h => h) fun _ => ?_
    exact Keeps.bind (triple_get fun _ h => h) fun _ => triple_pure fun _ h => h
  | error e =>
    dsimp only
    split_ifs
    · refine Keeps.bind (setAttribute_triple hitsHave_stable) fun _ => ?_
      exact Keeps.bind (setError_triple hitsHave_stable) fun _ => triple_pure fun _ h => h
    · split
      · refine Keeps.bind (setAttribute_triple hitsHave_stable) fun _ => ?_
        exact Keeps.bind (triple_modify fun _ h => h) fun _ => triple_pure fun _ h => h
      · exact triple_throw fun _ h => h

/-- **Each tool function keeps what the retriever finds.** -/
theorem runTool_keeps (hfinds : ∀ retriever ∈ agent.policyRetriever, retriever.Finds P)
    (call : ToolCall) : Keeps (HitsHave P) (agent.runTool request call) := by
  have hother : ∀ call, Keeps (HitsHave P)
      (ObservabilityLab.runTool (agent.service request) call) := fun call =>
    keeps_of_kept ((service_kept agent request P).runTool call)
  cases call with
  | getPolicy slug => exact policyTool_keeps hfinds slug
  | getOrderStatus orderId => exact hother (.getOrderStatus orderId)
  | proposeRefund orderId => exact hother (.proposeRefund orderId)
  | confirmRefund orderId => exact hother (.confirmRefund orderId)
  | escalate subject => exact hother (.escalate subject)

/-- **The run of any model keeps what the retriever finds**, by induction on its strategy. -/
theorem runAnswer_keeps (hfinds : ∀ retriever ∈ agent.policyRetriever, retriever.Finds P)
    (tools : List String) (model : CitingModel) :
    Keeps (HitsHave P) (agent.runAnswer request tools model) := by
  induction model with
  | draft draft => exact triple_pure fun _ h => h
  | fails name message => exact triple_throw fun _ h => h
  | calls call next ih =>
    refine Keeps.bind ?_ ih
    unfold answerCall
    split
    · exact runTool_keeps hfinds call
    · exact triple_pure fun _ h => h

/-! ## What a response cites -/

/-- **A response whose citations have a property.** Only a completed policy answer cites, and with a
retriever every completed policy answer does. -/
structure Citing (agent : RetrievingAgent World) (P : PolicyCitation → Prop)
    (response : CitedResponse) : Prop where
  citations : ∀ citation ∈ response.citations, P citation
  answers : response.citations ≠ [] →
    response.toSupportResponse = ⟨.policy, .completed, .policyAnswer⟩
  cited : agent.policyRetriever.isSome = true → response.intent = .policy →
    response.outcome = .completed → response.citations ≠ []

/-- A citation of a hit with a property. -/
def CitesHit (P : RetrievalHit → Prop) (citation : PolicyCitation) : Prop :=
  ∃ hit, P hit ∧ citation.citationId = hit.chunkId.str ∧ citation.text = hit.text ∧
    citation.documentVersion = hit.documentVersion

/-- A response without citations, which is not a policy answer. -/
theorem citing_of_intent {Q : PolicyCitation → Prop} {response : SupportResponse}
    (h : response.intent ≠ .policy) : agent.Citing Q ⟨response, []⟩ where
  citations _ hmem := absurd hmem List.not_mem_nil
  answers hne := absurd rfl hne
  cited _ hintent _ := absurd hintent h

/-- A response without citations, which is not completed. -/
theorem citing_of_outcome {Q : PolicyCitation → Prop} {response : SupportResponse}
    (h : response.outcome ≠ .completed) : agent.Citing Q ⟨response, []⟩ where
  citations _ hmem := absurd hmem List.not_mem_nil
  answers hne := absurd rfl hne
  cited _ _ houtcome := absurd houtcome h

variable [UnicodeTables]

omit [UnicodeTables] in
/-- Without grounded hits, no policy answer is completed. -/
theorem assemble_uncited {version : String} {routing : RoutingDecision} {draft : AnswerDraft}
    {state : ServiceState} {retryCount : ℕ}
    (h : draft.intent = .policy → isGrounded version state = false) :
    (ObservabilityLab.assemble version routing draft state retryCount).1.intent ≠ .policy ∨
      (ObservabilityLab.assemble version routing draft state retryCount).1.outcome ≠
        .completed := by
  unfold ObservabilityLab.assemble
  cases hintent : draft.intent with
  | policy =>
    right
    dsimp only
    rw [h hintent, if_neg Bool.false_ne_true]
    decide
  | orderStatus =>
    left
    simp
  | refund =>
    left
    dsimp only
    split_ifs <;> simp
  | escalate =>
    left
    dsimp only
    split_ifs <;> simp

/-- **What the hits have, the citations of the response have.** -/
theorem assemble_citing {routing : RoutingDecision} {draft : CitedDraft}
    {turn : Turn (Searching World)} (hhits : HitsHave P turn) {result : CitedResponse × Option Bool}
    (h : agent.assemble routing draft turn = .ok result) : agent.Citing (CitesHit P) result.1 := by
  unfold assemble at h
  split_ifs at h with hgrounded
  · cases hbuild : buildCitedPolicyAnswer draft.message draft.citations
        turn.world.lastPolicyHits with
    | ok cited =>
      rw [hbuild] at h
      rw [← Except.ok.inj h]
      refine ⟨?_, fun _ => rfl, fun _ _ _ => cited.citationsNonempty⟩
      intro citation hcitation
      obtain ⟨hit, hhit, hcites⟩ := (buildCitedPolicyAnswer_eq_ok hbuild).2 citation hcitation
      exact ⟨hit, hhits hit hhit, hcites⟩
    | error error =>
      rw [hbuild] at h
      dsimp only at h
      split_ifs at h
      rw [← Except.ok.inj h]
      exact citing_of_outcome (by decide)
  · rw [← Except.ok.inj h]
    by_cases hretriever : agent.policyRetriever.isSome = true
    · have hungrounded : draft.intent = .policy →
          isGrounded agent.agent.answerInstructionsVersion turn.service = false := by
        intro hintent
        rw [← Bool.not_eq_true]
        exact fun h => hgrounded ⟨hintent, hretriever, h⟩
      rcases assemble_uncited hungrounded with hintent | houtcome
      · exact citing_of_intent hintent
      · exact citing_of_outcome houtcome
    · exact ⟨fun _ hmem => absurd hmem List.not_mem_nil, fun hne => absurd rfl hne,
        fun hsome => absurd hsome hretriever⟩

/-- The response cites what the hits of the turn allow. -/
theorem respond_citing (routing : RoutingDecision) (draft : CitedDraft) :
    Triple (HitsHave P) (agent.respond request routing draft)
      (fun result _ => agent.Citing (CitesHit P) result.1) fun _ _ => True := by
  have hassemble : Triple (HitsHave P) (do
      let turn ← get
      MonadExcept.ofExcept (agent.assemble routing draft turn) : Action (Turn (Searching World)) _)
      (fun result _ => agent.Citing (CitesHit P) result.1) fun _ _ => True := by
    refine triple_bind (Q := fun read _ => HitsHave P read) (triple_get fun _ h => h) fun read => ?_
    exact triple_ofExcept (fun result _ hok hread => assemble_citing hread hok)
      fun _ _ _ _ => trivial
  refine triple_bind (Q := fun _ => HitsHave P) (triple_get fun _ h => h) fun read => ?_
  cases hdue : confirmationDue routing request.refundConfirmed read.service with
  | none =>
    simp only [hdue]
    exact hassemble
  | some orderId =>
    simp only [hdue]
    refine triple_bind (triple_mono
      (keeps_of_kept ((service_kept agent request P).confirmRefund orderId)) (fun _ h => h)
      (fun _ _ h => h) fun _ _ _ => trivial) fun _ => hassemble

omit [UnicodeTables] in
/-- An escalation without another model call answers with an escalation. -/
theorem escalateTurn_intent {World : Type} (service : SupportAgentService World)
    (reason : ReasonCode) :
    Triple (fun _ => True) (escalateTurn service reason)
      (fun response _ => response.intent = .escalate) fun _ _ => True :=
  triple_bind (Q := fun _ _ => True)
    (triple_of_runs (fun _ _ _ _ _ => trivial) fun _ _ _ _ _ => trivial) fun _ =>
      triple_pure fun _ _ => rfl

/-- **What the plan of a turn cites.** -/
theorem act_citing (hfinds : ∀ retriever ∈ agent.policyRetriever, retriever.Finds P)
    (routing : Option RoutingDecision) (model : CitingModel) :
    Triple (HitsHave P) (agent.act request routing model)
      (fun result _ => agent.Citing (CitesHit P) result.1) fun _ _ => True := by
  have hfailed : agent.Citing (CitesHit P) ⟨failedResponse, []⟩ := citing_of_intent (by decide)
  cases routing with
  | none => exact triple_pure fun _ _ => hfailed
  | some routing =>
    cases hplan : (planTurn routing).action with
    | escalate =>
      simp only [act, hplan]
      refine triple_bind (triple_mono (escalateTurn_intent _ _) (fun _ _ => trivial)
        (fun _ _ h => h) fun _ _ h => h) fun response => triple_pure fun _ hintent => ?_
      apply citing_of_intent
      rw [hintent]
      decide
    | answer =>
      simp only [act, hplan]
      refine triple_attempt_bind (span_keeps (runAnswer_keeps hfinds _ model)) (fun draft => ?_)
        fun e => ?_
      · exact respond_citing routing draft
      · exact triple_pure fun _ _ => hfailed

/-- **What every hit of the retriever has, every citation of a turn has**, whatever its model
does. -/
theorem handle_citing (hfinds : ∀ retriever ∈ agent.policyRetriever, retriever.Finds P)
    (script : CitingScript) :
    Triple (fun _ => True) (agent.handle request script)
      (fun response _ => agent.Citing (CitesHit P) response) fun _ _ => True := by
  refine triple_bind (Q := fun _ => HitsHave P) (triple_modify fun _ _ hit h => by cases h)
    fun _ => ?_
  refine span_triple hitsHave_stable (fun _ _ _ _ h => h) (fun _ _ _ _ h => h) ?_
  refine triple_bind (span_pure_triple hitsHave_stable) fun _ => ?_
  refine triple_bind (act_citing hfinds script.routing script.answer) fun result => ?_
  obtain ⟨response, grounded⟩ := result
  cases grounded with
  | none => exact triple_pure fun _ h => h
  | some grounded =>
    exact triple_bind (setAttribute_triple fun _ _ _ h => h) fun _ => triple_pure fun _ h => h

end RetrievingAgent

end Kept

/-! ## Answers over ingested documents -/

section Ingested

variable [UnicodeTables] [SpaceTable] [TextHashes] [HashFunctions] {World : Type}
  {service : RetrievalIngestionService} {corpus : List IngestCall} {failed : PyError → Prop}

/-- **A citation quotes an ingested document**: its text stands in the version that it names, under
its identifier. -/
def QuotesIngested (service : RetrievalIngestionService) (corpus : List IngestCall)
    (citation : PolicyCitation) : Prop :=
  ∃ chunkId documentId source, citation.citationId = chunkId.str ∧
    QuotedFrom service corpus chunkId documentId citation.documentVersion citation.text source

omit [UnicodeTables] in
/-- What a fused search finds is evidence. -/
theorem finds_fusedRetriever (h : CollisionFree service corpus) {keyword : KeywordRetriever World}
    {vector : VectorRetriever World} (k : ℤ)
    (hkeyword : ReadsIndex service corpus failed keyword.execute)
    (hvector : ReadsIndex service corpus failed vector.execute) :
    (fusedRetriever keyword vector k).Finds (IsEvidence service corpus) := by
  intro query limit
  refine triple_of_eq fun before _ => ?_
  exact triple_mono (fusedSearch_triple h hkeyword hvector before) (fun _ h => h)
    (fun _ _ hhits => hhits.evidence) fun _ _ _ => trivial

/-- **Every citation of a turn quotes an ingested document**, whatever the model does. Only a
completed policy answer cites, and every completed policy answer does. -/
theorem handle_quotesIngested (h : CollisionFree service corpus) (keyword : KeywordRetriever World)
    (vector : VectorRetriever World) (k : ℤ)
    (hkeyword : ReadsIndex service corpus failed keyword.execute)
    (hvector : ReadsIndex service corpus failed vector.execute) (agent : RetrievingAgent World)
    (hretriever : agent.policyRetriever = some (fusedRetriever keyword vector k))
    (request : SupportRequest) (script : CitingScript) :
    Triple (fun _ => True) (agent.handle request script)
      (fun response _ => agent.Citing (QuotesIngested service corpus) response)
      fun _ _ => True := by
  have hfinds : ∀ retriever ∈ agent.policyRetriever,
      retriever.Finds (IsEvidence service corpus) := by
    intro retriever hmem
    rw [hretriever] at hmem
    rw [← Option.some.inj hmem]
    exact finds_fusedRetriever h k hkeyword hvector
  refine triple_mono (RetrievingAgent.handle_citing hfinds script) (fun _ h => h) ?_ fun _ _ h => h
  intro response _ hciting
  refine ⟨?_, hciting.answers, hciting.cited⟩
  intro citation hcitation
  obtain ⟨hit, ⟨source, hquoted⟩, hid, htext, hversion⟩ := hciting.citations citation hcitation
  refine ⟨hit.chunkId, hit.documentId, source, hid, ?_⟩
  rw [htext, hversion]
  exact hquoted

end Ingested

section Example

attribute [local instance] asciiTables asciiSpaces contentHashes lastCharacterIds

/-- A repository with one policy, in the accepted version. -/
def onePolicy : SupportRepository (Action Unit) where
  getOrder _ := pure none
  saveOrder _ := pure none
  refundOrderIfDelivered _ _ := pure none
  createTicket _ := throw (.other "IntegrityError" "customers")
  getTicket _ := pure none
  getPolicy slug _ := pure (some
    { id := .repeated 1
      slug := slug
      version := acceptedPolicyVersion
      title := "Refunds"
      content := "old words"
      contentHash := "" })

/-- An agent that searches the index of one ingested document. -/
def refundsAgent : RetrievingAgent Unit where
  agent :=
    { repository := onePolicy
      answerInstructionsVersion := "1"
      proposalIds := fun _ => .repeated 1 }
  policyRetriever := some (fusedRetriever refundsKeyword refundsVector 60)

def refundsQuestion : SupportRequest where
  customerId := .repeated 7
  message := "refunds"
  refundConfirmed := false
  messageLength := by decide

/-- A model that reads the policy and cites the chunk of the document. -/
def citingRefunds : CitingScript where
  routing := some { intent := .policy }
  answer := .calls (.getPolicy policySlug) fun _ => .draft
    { intent := .policy
      message := "Refunds take five days"
      citations := [(Uuid.repeated 1).str]
      messageLength := by decide }

/-- What the turn returns. -/
def answeredRefunds : EStateM.Result PyError (Turn (Searching Unit)) CitedResponse :=
  (refundsAgent.handle refundsQuestion citingRefunds).run { world := { world := () } }

theorem citations_answeredRefunds :
    (outcome answeredRefunds).toOption.map (fun response => response.citations.map (·.text)) =
      some ["old words"] := by decide +kernel

/-- `handle_quotesIngested` on one question, whose answer cites the one chunk. -/
theorem handle_quotesIngested_refunds : ∃ response after, answeredRefunds = .ok response after ∧
    refundsAgent.Citing (QuotesIngested refundsService refundsCorpus) response ∧
    response.citations.map (·.text) = ["old words"] := by
  have hcites := citations_answeredRefunds
  cases hrun : answeredRefunds with
  | error e after =>
    rw [hrun] at hcites
    cases hcites
  | ok response after =>
    rw [hrun] at hcites
    have hciting := (handle_quotesIngested collisionFree_refundsCorpus refundsKeyword refundsVector
      60 readsIndex_refundsKeyword readsIndex_refundsVector refundsAgent rfl refundsQuestion
      citingRefunds).ok trivial hrun
    exact ⟨response, after, rfl, hciting, Option.some.inj hcites⟩

end Example

end ObservabilityLab
