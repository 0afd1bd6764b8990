import ObservabilityLab.Agent.Service
import ObservabilityLab.Library.Patterns
import ObservabilityLab.Workflow.Runtime

/-!
# The default dependencies

The dependencies of a workflow that runs offline: rules route a message, templates answer it, and
the support service reads orders and policies and creates tickets.

## Main definitions

* `RuleRouter.route`, `TemplateResponseGenerator.generate`, `SupportServiceRefundProposer.propose`,
  `SupportServiceEscalator.escalate`: what the default dependencies do
* `defaultDependencies`: the environment that they make
* `Contents`, `Succeeds`: the contents of a repository, and one whose calls succeed

## Main results

* `exists_orderReference`, `exists_route`: an order reference is always read, and every message has
  a route
* `sqlAlchemySupportRepository_succeeds`: the SQL implementation succeeds on its rows
-/

namespace ObservabilityLab.Workflow

open Python Raising

/-! ## Order references -/

/-- `[0-9a-fA-F]{n}` -/
def hexGroup (n : ℕ) : Pattern Char := .symbols isHex n (some n)

def hyphen : Pattern Char := .one (· = '-')

/-- The version digit, and the rest of its group. -/
def versionGroup : Pattern Char := .one (fun c => '1' ≤ c && c ≤ '5') ++ hexGroup 3

/-- The variant digit, and the rest of its group. -/
def variantGroup : Pattern Char := .one (· ∈ ['8', '9', 'a', 'b', 'A', 'B']) ++ hexGroup 3

/-- `_UUID_PATTERN` -/
def uuidPattern : Pattern Char :=
  hexGroup 8 ++ (hyphen ++ (hexGroup 4 ++ (hyphen ++ (versionGroup ++ (hyphen ++
    (variantGroup ++ (hyphen ++ hexGroup 12)))))))

/-- `UUID(order_match.group(0)) if order_match else None` -/
def orderReference (message : String) : Raises (Option Uuid) :=
  match uuidPattern.search message.toList with
  | none => .ok none
  | some (i, j) =>
    match Uuid.parse (String.ofList ((message.toList.drop i).take (j - i))) with
    | some orderId => .ok (some orderId)
    | none => .error (.value "badly formed hexadecimal UUID string")

/-- Text whose characters are hyphens and hexadecimal digits, with `n` digits. -/
structure HexText (n : ℕ) (cs : List Char) : Prop where
  chars : ∀ c ∈ cs, c = '-' ∨ isHex c = true
  digits : (cs.filter (· ≠ '-')).length = n

namespace HexText

variable {n m : ℕ} {cs cs' : List Char}

theorem append (h : HexText n cs) (h' : HexText m cs') : HexText (n + m) (cs ++ cs') where
  chars c hc := (List.mem_append.mp hc).elim (h.chars c) (h'.chars c)
  digits := by rw [List.filter_append, List.length_append, h.digits, h'.digits]

theorem mapM_isSome (h : HexText n cs) :
    ∃ ds, (cs.filter (· ≠ '-')).mapM hexValue = some ds ∧ ds.length = n := by
  obtain ⟨hchars, rfl⟩ := h
  induction cs with
  | nil => exact ⟨[], rfl, rfl⟩
  | cons c cs ih =>
    obtain ⟨ds, hds, hlength⟩ := ih fun c hc => hchars c (List.mem_cons_of_mem _ hc)
    by_cases hc : c = '-'
    · rw [List.filter_cons_of_neg (by simpa using hc)]
      exact ⟨ds, hds, hlength⟩
    · obtain ⟨d, hd⟩ := Option.isSome_iff_exists.mp
        ((hchars c List.mem_cons_self).resolve_left hc)
      rw [List.filter_cons_of_pos (by simpa using hc)]
      refine ⟨d :: ds, ?_, ?_⟩
      · rw [List.mapM_cons, hd, hds]
        rfl
      · rw [List.length_cons, List.length_cons, hlength]

/-- Text with 32 digits is the text of an identifier. -/
theorem exists_parse (h : HexText 32 cs) : ∃ u, Uuid.parse (String.ofList cs) = some u := by
  obtain ⟨ds, hds, hlength⟩ := h.mapM_isSome
  exact ⟨⟨ds, hlength⟩, Uuid.parse_of_hex h.chars hds h.digits hlength⟩

theorem group {n : ℕ} (hcs : cs ∈ (hexGroup n).language) : HexText n cs := by
  obtain ⟨hchars, hleast, hmost⟩ := hcs
  refine ⟨fun c hc => Or.inr (hchars c hc), ?_⟩
  rw [List.filter_eq_self.mpr]
  · exact le_antisymm (hmost n rfl) hleast
  · intro c hc
    have hhex := hchars c hc
    refine decide_eq_true ?_
    rintro rfl
    revert hhex
    decide

/-- One symbol that is a digit, or a hyphen. -/
theorem one {p : Char → Bool} {n : ℕ} (hcs : cs ∈ (Pattern.one p).language)
    (hp : ∀ c, p c = true → HexText n [c]) : HexText n cs := by
  obtain ⟨hchars, hleast, hmost⟩ := hcs
  obtain ⟨c, rfl⟩ := List.length_eq_one_iff.mp (le_antisymm (hmost 1 rfl) hleast)
  exact hp c (hchars c (List.mem_singleton_self c))

theorem of_hyphen (hcs : cs ∈ hyphen.language) : HexText 0 cs := by
  apply one hcs
  intro c hc
  obtain rfl := of_decide_eq_true hc
  exact ⟨fun c hc => Or.inl (List.mem_singleton.mp hc), rfl⟩

theorem digit {c : Char} (hhex : isHex c = true) (hne : c ≠ '-') : HexText 1 [c] where
  chars d hd := by
    rw [List.mem_singleton.mp hd]
    exact Or.inr hhex
  digits := by
    rw [List.filter_cons_of_pos (by simpa using hne)]
    rfl

theorem of_version (hcs : cs ∈ versionGroup.language) : HexText 4 cs := by
  obtain ⟨w, hw, rest, hrest, rfl⟩ := Language.mem_mul.mp hcs
  refine (one hw fun c hc => ?_).append (group hrest)
  obtain ⟨hleast, hmost⟩ := Bool.and_eq_true_iff.mp hc
  have hleast : '1' ≤ c := of_decide_eq_true hleast
  have hmost : c ≤ '5' := of_decide_eq_true hmost
  have hdigit : isAsciiDigit c = true :=
    Bool.and_eq_true_iff.mpr ⟨decide_eq_true (le_trans (by decide) hleast),
      decide_eq_true (le_trans hmost (by decide))⟩
  refine digit ?_ ?_
  · unfold isHex hexValue
    rw [if_pos hdigit]
    rfl
  · rintro rfl
    exact absurd hleast (by decide)

theorem of_variant (hcs : cs ∈ variantGroup.language) : HexText 4 cs := by
  obtain ⟨w, hw, rest, hrest, rfl⟩ := Language.mem_mul.mp hcs
  refine (one hw fun c hc => ?_).append (group hrest)
  have hmem : c ∈ ['8', '9', 'a', 'b', 'A', 'B'] := of_decide_eq_true hc
  simp only [List.mem_cons, List.not_mem_nil, or_false] at hmem
  rcases hmem with rfl | rfl | rfl | rfl | rfl | rfl
  all_goals exact digit rfl (by decide)

theorem of_uuidPattern (hcs : cs ∈ uuidPattern.language) : HexText 32 cs := by
  obtain ⟨a, ha, cs₁, hcs₁, rfl⟩ := Language.mem_mul.mp hcs
  obtain ⟨b, hb, cs₂, hcs₂, rfl⟩ := Language.mem_mul.mp hcs₁
  obtain ⟨c, hc, cs₃, hcs₃, rfl⟩ := Language.mem_mul.mp hcs₂
  obtain ⟨d, hd, cs₄, hcs₄, rfl⟩ := Language.mem_mul.mp hcs₃
  obtain ⟨e, he, cs₅, hcs₅, rfl⟩ := Language.mem_mul.mp hcs₄
  obtain ⟨f, hf, cs₆, hcs₆, rfl⟩ := Language.mem_mul.mp hcs₅
  obtain ⟨g, hg, cs₇, hcs₇, rfl⟩ := Language.mem_mul.mp hcs₆
  obtain ⟨h, hh, k, hk, rfl⟩ := Language.mem_mul.mp hcs₇
  exact (group ha).append ((of_hyphen hb).append ((group hc).append ((of_hyphen hd).append
    ((of_version he).append ((of_hyphen hf).append ((of_variant hg).append
      ((of_hyphen hh).append (group hk))))))))

end HexText

/-- **The text of an order reference is always read.** -/
theorem exists_orderReference (message : String) :
    ∃ reference, orderReference message = .ok reference := by
  unfold orderReference
  cases hsearch : uuidPattern.search message.toList with
  | none => exact ⟨none, rfl⟩
  | some found =>
    obtain ⟨i, j⟩ := found
    obtain ⟨u, hu⟩ :=
      (HexText.of_uuidPattern (Pattern.mem_language_of_search hsearch)).exists_parse
    dsimp only
    rw [hu]
    exact ⟨some u, rfl⟩

/-! ## The default dependencies -/

/-- `any(word in lowered for word in words)` -/
def mentions (words : List String) (lowered : String) : Bool :=
  words.any fun word => Contains word lowered

theorem validConfidence_refund :
    ((0 : PyFloat).le (.ofRat (99 / 100)) && (PyFloat.ofRat (99 / 100)).le (.ofRat 1)) = true :=
  PyFloat.ofRat_mem_unit (by norm_num) (by norm_num)

theorem validConfidence_read :
    ((0 : PyFloat).le (.ofRat (95 / 100)) && (PyFloat.ofRat (95 / 100)).le (.ofRat 1)) = true :=
  PyFloat.ofRat_mem_unit (by norm_num) (by norm_num)

theorem validConfidence_half :
    ((0 : PyFloat).le (.ofRat (1 / 2)) && (PyFloat.ofRat (1 / 2)).le (.ofRat 1)) = true :=
  PyFloat.ofRat_mem_unit (by norm_num) (by norm_num)

/-- The route of a message, by the words that it mentions. -/
def RuleRouter.route [UnicodeTables] (message : String) : Raises RoutingDecision := do
  let lowered := String.ofList (UnicodeTables.lower message.toList)
  let orderId ← orderReference message
  if mentions ["refund", "money back", "cancel"] lowered then
    return {
      intent := .refund
      confidence := .ofRat (99 / 100)
      orderId := orderId
      policySlug := some policySlug
      validConfidence := validConfidence_refund }
  if mentions ["policy", "return", "eligible", "days"] lowered then
    return {
      intent := .policy
      confidence := .ofRat (95 / 100)
      policySlug := some policySlug
      validConfidence := validConfidence_read }
  if mentions ["status", "where", "track", "shipped"] lowered then
    return {
      intent := .orderStatus
      confidence := .ofRat (95 / 100)
      orderId := orderId
      validConfidence := validConfidence_read }
  return {
    intent := .escalate
    confidence := .ofRat (1 / 2)
    validConfidence := validConfidence_half }

/-- Every message has a route; a refund and a policy question are about the one policy. -/
theorem exists_route [UnicodeTables] (message : String) :
    ∃ route, RuleRouter.route message = .ok route ∧
      (route.intent = .policy ∨ route.intent = .refund → route.policySlug = some policySlug) := by
  obtain ⟨orderId, horder⟩ := exists_orderReference message
  unfold RuleRouter.route
  rw [horder]
  dsimp only
  split
  · exact ⟨_, rfl, fun _ => rfl⟩
  · split
    · exact ⟨_, rfl, fun _ => rfl⟩
    · split
      · exact ⟨_, rfl, fun h => h.elim nofun nofun⟩
      · exact ⟨_, rfl, fun h => h.elim nofun nofun⟩

/-- The answer of a template. -/
def TemplateResponseGenerator.generate (route : RoutingDecision) (evidence : EvidenceBundle) :
    String :=
  match route.intent, evidence.order, evidence.policy with
  | .orderStatus, some order, _ => "Your order is currently " ++ order.status.value ++ "."
  | .policy, _, some policy => policy.content
  | _, _, _ => "I could not safely complete this request."

/-- The answer to a question about an order fits. -/
theorem lengthWithin_generate {route : RoutingDecision} {evidence : EvidenceBundle}
    {order : OrderRead} (hintent : route.intent = .orderStatus)
    (horder : evidence.order = some order) :
    lengthWithin 1 4000 (TemplateResponseGenerator.generate route evidence) = true := by
  unfold TemplateResponseGenerator.generate
  rw [hintent, horder]
  dsimp only
  cases order.status with
  | _ => decide +kernel

/-- The answer to a policy question is the text of the policy. -/
theorem generate_policy {route : RoutingDecision} {evidence : EvidenceBundle}
    {policy : PolicyDocumentRead} (hintent : route.intent = .policy)
    (hpolicy : evidence.policy = some policy) :
    TemplateResponseGenerator.generate route evidence = policy.content := by
  unfold TemplateResponseGenerator.generate
  rw [hintent, hpolicy]

theorem isKind_refund : isKind "refund" = true := by decide +kernel

/-- A proposal for an order of the actor that may be refunded. -/
def SupportServiceRefundProposer.propose (proposalId : Uuid) (now : DateTime) (actorId : Uuid)
    (requestId : String) (order : OrderRead) (policy : Option PolicyDocumentRead) :
    Raises ProposedAction :=
  if order.customerId ≠ actorId then .error forbidden
  else if order.status ∉ refundableOrderStatuses then .error invalidTransition
  else if h : lengthWithin 1 50 (policy.elim "unknown" (·.version)) = true then
    .ok {
      kind := "refund"
      proposalId := proposalId
      actorId := actorId
      requestId := requestId
      orderId := order.id
      amount := order.totalAmount
      policyVersion := policy.elim "unknown" (·.version)
      createdAt := now
      validKind := isKind_refund
      validAmount := order.validAmount
      validPolicyVersion := h }
  else .error (.validation "ProposedAction" "policy_version")

section Dependencies

variable {World : Type} (repository : SupportRepository (Action World))

/-- The subject of the ticket of an escalation. -/
def escalationSubject (reason : EscalationReason) (requestId : String) : String :=
  "Workflow escalation (" ++ reason.value ++ ") [" ++ requestId ++ "]"

/-- A ticket for the actor, about no order. -/
def SupportServiceEscalator.escalate (actorId : Uuid) (reason : EscalationReason)
    (requestId : String) : Action World TicketRead := do
  let command ← MonadExcept.ofExcept
    (CreateTicketCommand.new actorId (escalationSubject reason requestId))
  createTicket repository command

variable [UnicodeTables]

/-- What a default dependency does; the proposer draws an identifier and reads the clock. -/
def defaultCall (proposalId : Uuid) (now : DateTime) :
    (call : Dependency) → Action World call.Answer
  | .route message => MonadExcept.ofExcept (RuleRouter.route message)
  | .getOrder orderId actorId => ObservabilityLab.getOrder repository orderId actorId
  | .getPolicy slug => getLatestPolicy repository slug
  | .generate _ route evidence _ => pure (TemplateResponseGenerator.generate route evidence)
  | .propose actorId requestId order policy =>
    MonadExcept.ofExcept
      (SupportServiceRefundProposer.propose proposalId now actorId requestId order policy)
  | .execute actorId orderId => requestRefund repository ⟨actorId, orderId⟩
  | .escalate actorId reason requestId =>
    SupportServiceEscalator.escalate repository actorId reason requestId

/-- `default_dependencies(repository, recorder)` -/
def defaultDependencies : Environment World where
  behaves world call answer world' := ∃ proposalId now,
    answer = outcome ((defaultCall repository proposalId now call).run world) ∧
      world' = finalState ((defaultCall repository proposalId now call).run world)
  draws _ _ := True

end Dependencies

/-! ## The contents of a repository -/

/-- The orders of a repository, and the newest version of each policy document. -/
structure Contents where
  orders : Uuid → Option OrderRead
  policies : String → Option PolicyDocumentRead

/-- **A repository whose reads and writes succeed** for a request of an actor, with the given
contents: the orders, the one policy, and the tickets of the escalations. -/
structure Succeeds {World : Type} (repository : SupportRepository (Action World)) (actorId : Uuid)
    (requestId : String) (contents : Contents) (ready : World → Prop) : Prop where
  getOrder : ∀ orderId, Triple ready (repository.getOrder orderId)
    (fun order world => order = contents.orders orderId ∧ ready world) fun _ _ => False
  getPolicy : Triple ready (repository.getPolicy policySlug none)
    (fun policy world => policy = contents.policies policySlug ∧ ready world) fun _ _ => False
  createTicket : ∀ ticket reason, ticket.customerId = actorId → ticket.orderId = none →
    ticket.subject = escalationSubject reason requestId →
      Triple ready (repository.createTicket ticket) (fun _ => ready) fun _ _ => False

/-- The contents of the support tables. -/
def storedContents [Collation] (tables : SupportTables) : Contents where
  orders := tables.order?
  policies slug := newestPolicy (tables.policies.filter (·.slug = slug))

theorem isStorableText_append (a b : String) :
    isStorableText (a ++ b) = (isStorableText a && isStorableText b) := by
  simp [isStorableText, not_or]

/-- The database stores the subject of an escalation as long as it stores the request identifier. -/
theorem isStorableText_escalationSubject (reason : EscalationReason) {requestId : String}
    (h : isStorableText requestId = true) :
    isStorableText (escalationSubject reason requestId) = true := by
  have hreason : isStorableText reason.value = true := by
    cases reason <;> decide +kernel
  unfold escalationSubject
  simp only [isStorableText_append, hreason, h]
  decide +kernel

/-- **The SQL implementation succeeds** on the rows of its session, for a registered customer and a
request identifier that the database can store. -/
theorem sqlAlchemySupportRepository_succeeds [RandomIds] [Collation] (customerId : Uuid)
    {requestId : String} (hrequest : isStorableText requestId = true) (contents : Contents) :
    Succeeds sqlAlchemySupportRepository customerId requestId contents fun session =>
      storedContents session.tables = contents ∧ session.Serving customerId where
  getOrder orderId := by
    rintro ⟨tables, begun, _⟩ ⟨rfl, rfl, hcustomer⟩
    rw [run_getOrder]
    exact ⟨rfl, rfl, rfl, hcustomer⟩
  getPolicy := by
    rintro ⟨tables, begun, _⟩ ⟨rfl, rfl, hcustomer⟩
    rw [run_getPolicy (by decide +kernel)]
    exact ⟨rfl, rfl, rfl, hcustomer⟩
  createTicket ticket reason hticket horder hsubject := by
    rintro ⟨tables, begun, _⟩ ⟨rfl, rfl, hcustomer⟩
    rw [run_createTicket (by rw [hsubject]; exact isStorableText_escalationSubject reason hrequest)
      (by rw [hticket]; exact hcustomer) (by rw [horder]; rfl)]
    exact ⟨rfl, rfl, hcustomer⟩

end ObservabilityLab.Workflow
