import ObservabilityLab.Bundle.Compiler
import ObservabilityLab.Simulation.Runner

/-!
# Compile, then reconstruct

The extractors write the records of a state into untyped seeds, with every identifier replaced by
its synthetic value; the runner reads them back. Reading inverts writing, up to the renaming of the
identifiers, so that ownership and links survive the replay. The runner also writes a title of its
own, from the scenario identifier; a title has at most 300 characters.

## Main definitions

* `syntheticState`: a state with synthetic identifiers
* `Reconstructs`: what a replay of a compiled bundle starts from

## Main results

* `stateFromBundle_compiled`: the reconstructed state of a compiled bundle
* `scenarioFromBundle_compiled`: the reconstructed scenario, when its title fits
* `reconstructs_iff`: a compiled bundle reconstructs exactly when its identifier leaves room for
  the title
-/

namespace ObservabilityLab

open Python

/-! ## Seeds by resource -/

/-- Seeds of distinct resources are their own groups. -/
theorem foldl_groupSeed {seeds : List EnvironmentResourceSeed}
    {grouped : List (String × List Record)}
    (h : (grouped.map Prod.fst ++ seeds.map (·.resource)).Nodup) :
    seeds.foldl groupSeed grouped =
      grouped ++ seeds.map fun seed => (seed.resource, seed.records) := by
  induction seeds generalizing grouped with
  | nil => simp
  | cons seed seeds ih =>
    have hnew : seed.resource ∉ grouped.map Prod.fst := by
      intro hmem
      exact (List.disjoint_of_nodup_append h) hmem (by simp)
    have hgroup : groupSeed grouped seed = grouped ++ [(seed.resource, seed.records)] := by
      rw [groupSeed, if_neg]
      simpa using hnew
    rw [List.foldl_cons, hgroup, ih]
    · simp
    · simpa using h

/-- Looking up a resource, where a missing one has no records, does not see empty groups. -/
theorem lookup_filter_getD {groups : List (String × List Record)} {resource : String}
    (h : (groups.map Prod.fst).Nodup) :
    ((groups.filter (·.2 ≠ [])).lookup resource).getD [] =
      (groups.lookup resource).getD [] := by
  induction groups with
  | nil => rfl
  | cons group groups ih =>
    obtain ⟨name, records⟩ := group
    obtain ⟨hname, hrest⟩ := List.nodup_cons.mp h
    have ih := ih hrest
    by_cases hempty : records = []
    · rw [List.filter_cons_of_neg (by simpa using hempty), ih, List.lookup_cons]
      by_cases heq : resource = name
      · have hnone : groups.lookup name = none := by
          rw [List.lookup_eq_none_iff]
          intro entry hentry
          rw [bne_iff_ne]
          rintro rfl
          exact hname (List.mem_map.mpr ⟨entry, hentry, rfl⟩)
        rw [heq, hnone, beq_self_eq_true, hempty]
        rfl
      · rw [beq_eq_false_iff_ne.mpr heq]
    · rw [List.filter_cons_of_pos (by simpa using hempty), List.lookup_cons, List.lookup_cons]
      cases resource == name with
      | true => rfl
      | false => exact ih

section Renaming

variable [HashFunctions]

/-! ## The renamed state -/

def syntheticOrder (order : OrderRead) : OrderRead :=
  { order with id := syntheticId order.id, customerId := syntheticId order.customerId }

def syntheticTicket (ticket : TicketRead) : TicketRead :=
  { ticket with
    id := syntheticId ticket.id
    customerId := syntheticId ticket.customerId
    orderId := ticket.orderId.map syntheticId }

def syntheticPolicy (policy : PolicyDocumentRead) : PolicyDocumentRead :=
  { policy with id := syntheticId policy.id }

/-- **The state with synthetic identifiers**, and everything else unchanged. -/
def syntheticState (state : SimulationState) : SimulationState where
  orders := state.orders.map syntheticOrder
  tickets := state.tickets.map syntheticTicket
  policies := state.policies.map syntheticPolicy

/-- The seeds of a state, grouped by resource. -/
theorem resourcesByType_stateSeeds {bundle : SimulationBundle} {state : SimulationState}
    (h : bundle.resourceSeeds = stateSeeds state) :
    resourcesByType bundle = (extractedRecords state).filter (·.2 ≠ []) := by
  have hnames : ((extractedRecords state).map Prod.fst).Nodup := by
    simp [extractedRecords]
  have hsub : (((extractedRecords state).filter (·.2 ≠ [])).map Prod.fst).Nodup :=
    hnames.sublist (List.filter_sublist.map Prod.fst)
  rw [resourcesByType, h, stateSeeds, foldl_groupSeed]
  · simp [seedOf, Function.comp_def]
  · simpa [seedOf, Function.comp_def] using hsub

/-- The records of one resource in the seeds of a state. -/
theorem lookup_resourcesByType {bundle : SimulationBundle} {state : SimulationState}
    (h : bundle.resourceSeeds = stateSeeds state) (resource : String) :
    ((resourcesByType bundle).lookup resource).getD [] =
      ((extractedRecords state).lookup resource).getD [] := by
  rw [resourcesByType_stateSeeds h]
  exact lookup_filter_getD (by simp [extractedRecords])

/-! ## Reading inverts writing -/

variable [UnicodeTables] [FloatRepr]

theorem readOrder_orderRecord (order : OrderRead) :
    readOrder (orderRecord order) = .ok (syntheticOrder order) := by
  have hid : uuidField (orderRecord order) "id" = .ok (syntheticId order.id) :=
    uuidField_str rfl
  have hcustomer : uuidField (orderRecord order) "customer_id" =
      .ok (syntheticId order.customerId) := uuidField_str rfl
  have hstatus : textField (orderRecord order) "status" = .ok order.status.value :=
    textField_str rfl
  have hamount : textField (orderRecord order) "total_amount" = .ok order.totalAmount.str :=
    textField_str rfl
  rw [readOrder, hid, hcustomer, hstatus, hamount]
  simp only [bind, Except.bind, parseOrderStatus, OrderStatus.ofValue_value, parseDecimal,
    Decimal.parse_str]
  rw [OrderRead.new, dif_pos order.validAmount]
  rfl

theorem readOrderId_ticketRecord (ticket : TicketRead) :
    readOrderId (ticketRecord ticket) = .ok (ticket.orderId.map syntheticId) := by
  have hlookup : (ticketRecord ticket).lookup "order_id" =
      some (.ofOption (ticket.orderId.map fun id => (syntheticId id).str)) := rfl
  rw [readOrderId, hlookup]
  cases ticket.orderId with
  | none => rfl
  | some id =>
    have htruthy : (PyValue.str (syntheticId id).str).truthy = true := by
      simpa [PyValue.truthy] using Uuid.str_ne_empty (syntheticId id)
    simp only [Option.map_some, PyValue.ofOption, Option.elim, htruthy, if_true, PyValue.toText,
      parseUuid, Uuid.parse_str]
    rfl

theorem readTicket_ticketRecord (ticket : TicketRead) :
    readTicket (ticketRecord ticket) = .ok (syntheticTicket ticket) := by
  have hid : uuidField (ticketRecord ticket) "id" = .ok (syntheticId ticket.id) :=
    uuidField_str rfl
  have hcustomer : uuidField (ticketRecord ticket) "customer_id" =
      .ok (syntheticId ticket.customerId) := uuidField_str rfl
  have hsubject : textField (ticketRecord ticket) "subject" = .ok ticket.subject :=
    textField_str rfl
  have hstatus : textField (ticketRecord ticket) "status" = .ok ticket.status.value :=
    textField_str rfl
  rw [readTicket, hid, hcustomer, hsubject, hstatus, readOrderId_ticketRecord]
  simp only [bind, Except.bind, parseTicketStatus, TicketStatus.ofValue_value]
  rw [TicketRead.new, dif_pos ticket.validSubject]
  rfl

theorem readPolicy_policyRecord (policy : PolicyDocumentRead) :
    readPolicy (policyRecord policy) = .ok (syntheticPolicy policy) := by
  have hid : uuidField (policyRecord policy) "id" = .ok (syntheticId policy.id) :=
    uuidField_str rfl
  have hslug : textField (policyRecord policy) "slug" = .ok policy.slug := textField_str rfl
  have hversion : textField (policyRecord policy) "version" = .ok policy.version :=
    textField_str rfl
  have htitle : textField (policyRecord policy) "title" = .ok policy.title := textField_str rfl
  have hcontent : textField (policyRecord policy) "content" = .ok policy.content :=
    textField_str rfl
  have hhash : textField (policyRecord policy) "content_hash" = .ok policy.contentHash :=
    textField_str rfl
  rw [readPolicy, hid, hslug, hversion, htitle, hcontent, hhash]
  rfl

/-- **The seeds of a state read back as the state with synthetic identifiers.** -/
theorem stateFromBundle_stateSeeds {bundle : SimulationBundle} {state : SimulationState}
    (h : bundle.resourceSeeds = stateSeeds state) :
    stateFromBundle bundle = .ok (syntheticState state) := by
  have horders := mapM_map_eq_ok readOrder_orderRecord state.orders
  have htickets := mapM_map_eq_ok readTicket_ticketRecord state.tickets
  have hpolicies := mapM_map_eq_ok readPolicy_policyRecord state.policies
  have hlookup (resource : String) := lookup_resourcesByType h resource
  have hrecords : ((extractedRecords state).lookup "order").getD [] = orderRecords state ∧
      ((extractedRecords state).lookup "ticket").getD [] = ticketRecords state ∧
      ((extractedRecords state).lookup "policy").getD [] = policyRecords state :=
    ⟨rfl, rfl, rfl⟩
  rw [stateFromBundle, hlookup, hlookup, hlookup, hrecords.1, hrecords.2.1, hrecords.2.2,
    orderRecords, horders, ticketRecords, htickets, policyRecords, hpolicies]
  rfl

/-! ## The reconstructed scenario -/

/-- **What a replay keeps of its source**: the actions, the coverage, the workflow context and the
confirmation; the state up to the renaming; which orders belong to the requesting customer, and
which order each ticket points to. -/
structure Replays (source replay : SimulationScenario) : Prop where
  eligibleActions : replay.eligibleActions = source.eligibleActions
  coverage : replay.requiredDependencyCoverage = source.requiredDependencyCoverage
  workflowContext : replay.workflowContext = source.workflowContext
  refundConfirmed : replay.request.refundConfirmed = source.request.refundConfirmed
  customerId : replay.request.customerId = syntheticId source.request.customerId
  initialState : replay.initialState = syntheticState source.initialState
  ownership : List.Forall₂
    (fun order' order => order'.customerId = replay.request.customerId ↔
      order.customerId = source.request.customerId)
    replay.initialState.orders source.initialState.orders
  links : List.Forall₂
    (fun ticket' ticket => List.Forall₂
      (fun order' order => ticket'.orderId = some order'.id ↔ ticket.orderId = some order.id)
      replay.initialState.orders source.initialState.orders)
    replay.initialState.tickets source.initialState.tickets

/-- What a replay of a bundle compiled from `args` starts from. -/
structure Reconstructs (args : CompileArguments) (bundle : SimulationBundle) : Prop where
  state : stateFromBundle bundle = .ok (syntheticState args.scenario.initialState)
  scenario : ∃ replay, scenarioFromBundle bundle = .ok replay ∧ Replays args.scenario replay

omit [UnicodeTables] [FloatRepr] in
/-- An injective renaming keeps ownership. -/
theorem forall₂_ownership (hinj : Function.Injective syntheticId) (customerId : Uuid)
    (orders : List OrderRead) :
    List.Forall₂
      (fun order' order => order'.customerId = syntheticId customerId ↔
        order.customerId = customerId)
      (orders.map syntheticOrder) orders := by
  rw [List.forall₂_map_left_iff, List.forall₂_same]
  intro order _
  exact hinj.eq_iff

omit [UnicodeTables] [FloatRepr] in
/-- An injective renaming keeps the links of the tickets. -/
theorem forall₂_links (hinj : Function.Injective syntheticId) (tickets : List TicketRead)
    (orders : List OrderRead) :
    List.Forall₂
      (fun ticket' ticket => List.Forall₂
        (fun order' order => ticket'.orderId = some order'.id ↔ ticket.orderId = some order.id)
        (orders.map syntheticOrder) orders)
      (tickets.map syntheticTicket) tickets := by
  rw [List.forall₂_map_left_iff, List.forall₂_same]
  intro ticket _
  rw [List.forall₂_map_left_iff, List.forall₂_same]
  intro order _
  have hsome : (syntheticTicket ticket).orderId = some (syntheticOrder order).id ↔
      ticket.orderId.map syntheticId = (some order.id).map syntheticId := Iff.rfl
  rw [hsome, (Option.map_injective hinj).eq_iff]

variable {args : CompileArguments} {bundle : SimulationBundle}

omit [HashFunctions] [UnicodeTables] [FloatRepr] in
/-- The title that the runner writes fits when the identifier leaves room for it. -/
theorem lengthWithin_title (scenarioId : String) :
    lengthWithin 1 300 ("Simulated " ++ scenarioId) = true ↔ scenarioId.length ≤ 290 := by
  rw [lengthWithin, Bool.and_eq_true, decide_eq_true_eq, decide_eq_true_eq, String.length_append,
    String.length_ofList]
  change 1 ≤ 10 + _ ∧ 10 + _ ≤ 300 ↔ _
  omega

/-- **The reconstructed state of a compiled bundle.** -/
theorem stateFromBundle_compiled (h : compileBundle args = .ok bundle) :
    stateFromBundle bundle = .ok (syntheticState args.scenario.initialState) := by
  obtain ⟨-, -, -, -, -, hmessage, -, rfl⟩ := compileBundle_eq_ok h
  exact stateFromBundle_stateSeeds rfl

/-- The scenario of a compiled bundle is rebuilt exactly when the title fits. -/
theorem scenarioFromBundle_compiled (h : compileBundle args = .ok bundle)
    {replay : SimulationScenario} :
    scenarioFromBundle bundle = .ok replay ↔
      ∃ (htitle : lengthWithin 1 300 ("Simulated " ++ args.scenario.scenarioId) = true)
        (hmessage : lengthWithin 1 2000 args.approvedRequestMessage = true)
        (draft : SimulationScenario),
        draft =
          { schemaVersion := args.scenario.schemaVersion
            scenarioId := args.scenario.scenarioId
            title := "Simulated " ++ args.scenario.scenarioId
            category := args.scenario.category
            request :=
              { customerId := syntheticId args.scenario.request.customerId
                message := args.approvedRequestMessage
                refundConfirmed := args.scenario.request.refundConfirmed
                messageLength := hmessage }
            workflowContext := args.scenario.workflowContext
            initialState := syntheticState args.scenario.initialState
            eligibleActions := args.scenario.eligibleActions
            expectedBehavior := args.expected
            requiredDependencyCoverage := args.scenario.requiredDependencyCoverage
            titleLength := htitle
            actionsNodup := args.scenario.actionsNodup
            dependenciesNodup := args.scenario.dependenciesNodup } ∧
        { draft with contentHash := some (computeScenarioHash draft) } = replay := by
  have hstate := stateFromBundle_compiled h
  obtain ⟨hid, hversion, -, -, -, hmessage, -, rfl⟩ := compileBundle_eq_ok h
  have hrequest : SupportRequest.new (syntheticId args.scenario.request.customerId)
      args.approvedRequestMessage args.scenario.request.refundConfirmed =
        .ok ⟨_, args.approvedRequestMessage, args.scenario.request.refundConfirmed, hmessage⟩ :=
    dif_pos hmessage
  rw [scenarioFromBundle, hstate]
  change (SupportRequest.new (syntheticId args.scenario.request.customerId)
      args.approvedRequestMessage args.scenario.request.refundConfirmed >>= _) = _ ↔ _
  rw [hrequest]
  simp only [hmessage, exists_true_left]
  exact SimulationScenario.new_eq_ok hversion hid args.scenario.actionsNodup
    args.scenario.dependenciesNodup

/-- **When a compiled bundle reconstructs**: exactly when the identifier of its scenario leaves
room for the title that the runner writes. -/
theorem reconstructs_iff (hinj : Function.Injective syntheticId)
    (h : compileBundle args = .ok bundle) :
    Reconstructs args bundle ↔ args.scenario.scenarioId.length ≤ 290 := by
  rw [← lengthWithin_title]
  constructor
  · rintro ⟨-, replay, hreplay, -⟩
    obtain ⟨htitle, -⟩ := (scenarioFromBundle_compiled h).mp hreplay
    exact htitle
  · intro htitle
    obtain ⟨-, -, -, -, -, hmessage, -, -⟩ := compileBundle_eq_ok h
    refine ⟨stateFromBundle_compiled h, _,
      (scenarioFromBundle_compiled h).mpr ⟨htitle, hmessage, _, rfl, rfl⟩, ?_⟩
    exact
      { eligibleActions := rfl
        coverage := rfl
        workflowContext := rfl
        refundConfirmed := rfl
        customerId := rfl
        initialState := rfl
        ownership := forall₂_ownership hinj _ _
        links := forall₂_links hinj _ _ }

end Renaming

/-! ## Concrete compilations -/

section Small

/-- Hash functions whose identifiers mirror the digits of the identifier in the name. -/
@[reducible] def mirrorHashes : HashFunctions where
  jsonSha256 _ := .repeated 0
  uuid5 _ name :=
    ⟨((Uuid.parse (String.ofList (name.toList.drop 6))).getD (.repeated 0)).digits.map Fin.rev⟩

attribute [local instance] asciiTables oneDecimalRepr mirrorHashes

theorem syntheticId_mirror (id : Uuid) : syntheticId id = ⟨id.digits.map Fin.rev⟩ := by
  have hname : ("synth:" ++ id.str).toList.drop 6 = id.str.toList := by
    rw [String.toList_append, String.toList_ofList]
    rfl
  have hparse : Uuid.parse (String.ofList (("synth:" ++ id.str).toList.drop 6)) = some id := by
    rw [hname, String.ofList_toList, Uuid.parse_str]
  change (⟨((Uuid.parse (String.ofList (("synth:" ++ id.str).toList.drop 6))).getD
    (.repeated 0)).digits.map Fin.rev⟩ : Uuid) = _
  rw [hparse]
  rfl

theorem syntheticId_mirror_injective : Function.Injective syntheticId := by
  intro a b h
  rw [syntheticId_mirror, syntheticId_mirror, Uuid.mk.injEq] at h
  have hlist := congrArg List.Vector.toList h
  rw [List.Vector.toList_map, List.Vector.toList_map] at hlist
  have hdigits := List.Vector.toList_injective (List.map_injective_iff.mpr Fin.rev_injective hlist)
  exact congrArg Uuid.mk hdigits

theorem isSafeText_scenarioHash (scenario : SimulationScenario) :
    isSafeText (computeScenarioHash scenario).text = true :=
  isSafeText_of_chars (by decide)

/-- `reconstructs_iff` on a small compilation. -/
theorem reconstructs_small :
    ∃ bundle, compileBundle (smallArguments "phase2-01-refund" none) = .ok bundle ∧
      (Reconstructs (smallArguments "phase2-01-refund" none) bundle ↔
        "phase2-01-refund".length ≤ 290) := by
  have hcompile := compileBundle_smallArguments "phase2-01-refund" none
    (by decide +kernel) (isSafeText_of_chars (by decide)) (by simp) (isSafeText_scenarioHash _)
  exact ⟨_, hcompile, reconstructs_iff syntheticId_mirror_injective hcompile⟩

theorem isScenarioId_ofList {d₁ d₂ : Char} {cs : List Char} (h₁ : isDecimalDigit d₁ = true)
    (h₂ : isDecimalDigit d₂ = true) (hne : cs ≠ [])
    (hcs : ∀ c ∈ cs, (isLower c || isAsciiDigit c || decide (c = '-')) = true) :
    isScenarioId (String.ofList
      (['p', 'h', 'a', 's', 'e', '2', '-', d₁, d₂, '-'] ++ cs)) = true := by
  obtain ⟨c, cs, rfl⟩ := List.exists_cons_of_ne_nil hne
  rw [isScenarioId, String.toList_ofList, String.toList_ofList]
  simp only [List.cons_append, List.nil_append, List.isPrefixOf, beq_self_eq_true, Bool.true_and,
    List.drop_succ_cons, List.drop_zero, h₁, h₂, List.all_eq_true]
  exact hcs

/-- A scenario identifier of 291 characters. -/
def longScenarioId : String :=
  String.ofList (['p', 'h', 'a', 's', 'e', '2', '-', '0', '1', '-'] ++ List.replicate 281 'a')

theorem length_longScenarioId : longScenarioId.length = 291 := by
  have hlength : longScenarioId.length = _ := String.length_ofList
  rw [List.length_append, List.length_replicate] at hlength
  exact hlength

/-- A scenario with a long identifier compiles, and its bundle does not reconstruct: the title that
the runner writes is too long. -/
theorem scenarioFromBundle_raises_on_longScenarioId :
    Function.Injective syntheticId ∧
      ∃ bundle, compileBundle (smallArguments longScenarioId none) = .ok bundle ∧
        ¬ ∃ replay, scenarioFromBundle bundle = .ok replay := by
  have hletters {p : Char → Prop} (hp : p 'a') : ∀ c ∈ List.replicate 281 'a', p c := by
    intro c hc
    rw [List.eq_of_mem_replicate hc]
    exact hp
  have hid : isScenarioId longScenarioId = true :=
    isScenarioId_ofList (by decide) (by decide) (List.cons_ne_nil _ _) (hletters (by decide))
  have hsafe : isSafeText longScenarioId = true := by
    refine isSafeText_of_chars
      ⟨List.append_ne_nil_of_right_ne_nil _ (List.cons_ne_nil _ _), ?_⟩
    rw [List.all_append, Bool.and_eq_true]
    exact ⟨by decide, List.all_eq_true.mpr (hletters (by decide))⟩
  have hcompile := compileBundle_smallArguments longScenarioId none hid hsafe (by simp)
    (isSafeText_scenarioHash _)
  refine ⟨syntheticId_mirror_injective, _, hcompile, ?_⟩
  rintro ⟨replay, hreplay⟩
  obtain ⟨htitle, -⟩ := (scenarioFromBundle_compiled hcompile).mp hreplay
  have hle : longScenarioId.length ≤ 290 := (lengthWithin_title longScenarioId).mp htitle
  rw [length_longScenarioId] at hle
  omega

end Small

end ObservabilityLab
