import ObservabilityLab.Agent.Turn
import ObservabilityLab.Bundle.Allowlist
import ObservabilityLab.Simulation.FaultRefinement
import ObservabilityLab.Simulation.Stateful

/-!
# The tools that faults hit

A script is written for the tools of the agent, and executed at the calls of the repository. A tool
may read an order on its way, or never come to a call with its own name.

## Main definitions

* `Watched`, `watchedRepository`: the entries that fire behind a repository
* `AgentCall`: a call of a tool, as the model makes it
* `FaultsHit`: what fires during a call is for its tool, and every first match fires
* `OnTarget`: the call reads no faulted order on its way, and comes to a call of its own name

## Main results

* `firesOwn_of_reaches`, `firesNothing_of_not_reaches`, `fires_of_reads`: what fires during a call
* `faultsHit_iff`: the faults of a run hit the tools that they name exactly when its calls are on
  target
-/

namespace ObservabilityLab

open Python Raising

/-! ## The entries that fire -/

/-- A world behind a fault script, with the entries that fired. -/
structure Watched (World : Type) where
  inner : Faulted World
  fired : List Firing := []

section Watching

variable [UnicodeTables] [FloatRepr] {World : Type}

def Watched.onInner {α : Type} (x : Action (Faulted World) α) : Action (Watched World) α :=
  zoom Watched.inner (fun inner world => { world with inner := inner }) x

/-- Note the entry that a call fires, and make the call. -/
def watch {α : Type} (script : FaultScript) (call : RepositoryCall) (x : Action (Faulted World) α) :
    Action (Watched World) α := do
  modify fun world =>
    { world with fired := world.fired ++ (script.firing world.inner.consumed call).toList }
  Watched.onInner x

/-- The repository behind a fault script, with the entries that fire. -/
def watchedRepository (script : FaultScript) (repository : SupportRepository (Action World)) :
    SupportRepository (Action (Watched World)) where
  getOrder orderId :=
    watch script (.getOrder orderId)
      ((faultInjectingRepository script repository).getOrder orderId)
  saveOrder order :=
    watch script (.saveOrder order) ((faultInjectingRepository script repository).saveOrder order)
  refundOrderIfDelivered orderId customerId :=
    watch script (.refundOrderIfDelivered orderId customerId)
      ((faultInjectingRepository script repository).refundOrderIfDelivered orderId customerId)
  createTicket ticket :=
    watch script (.createTicket ticket)
      ((faultInjectingRepository script repository).createTicket ticket)
  getTicket ticketId :=
    watch script (.getTicket ticketId)
      ((faultInjectingRepository script repository).getTicket ticketId)
  getPolicy slug version :=
    watch script (.getPolicy slug version)
      ((faultInjectingRepository script repository).getPolicy slug version)

end Watching

/-! ## Calls of the agent's tools -/

/-- A call of a tool, as the model makes it; only a proposal states a reason. -/
structure AgentCall where
  toolCall : ToolCall
  reason : String := ""

def AgentCall.name (call : AgentCall) : String := call.toolCall.name

def AgentCall.arguments (call : AgentCall) : Record :=
  match call.toolCall with
  | .getOrderStatus orderId => [("order_id", .str orderId.str)]
  | .getPolicy slug => [("slug", .str slug)]
  | .proposeRefund orderId => [("order_id", .str orderId.str), ("reason", .str call.reason)]
  | .confirmRefund orderId => [("order_id", .str orderId.str)]
  | .escalate subject => [("subject", .str subject)]

/-- The service for a call of a tool. -/
def SupportAgentService.perform {World : Type} (service : SupportAgentService World) :
    ToolCall → Action (Turn World) Unit
  | .getOrderStatus orderId => do let _ ← service.getOrderStatus orderId
  | .getPolicy slug => do let _ ← service.getPolicy slug
  | .proposeRefund orderId => do let _ ← service.proposeRefund orderId
  | .confirmRefund orderId => do let _ ← service.confirmRefund orderId
  | .escalate subject => do let _ ← service.escalate subject

section Calls

variable {World : Type}

/-- The turn in which a call starts, with none of its own firings. -/
def Turn.fresh (turn : Turn (Watched World)) : Turn (Watched World) :=
  { turn with world := { turn.world with fired := [] } }

/-- The turn after a call, whether it returns or raises. -/
def AgentCall.after (service : SupportAgentService (Watched World)) (turn : Turn (Watched World))
    (call : AgentCall) : Turn (Watched World) :=
  finalState ((service.perform call.toolCall).run turn.fresh)

/-- The entries that fire during a call. -/
def firedDuring (service : SupportAgentService (Watched World)) (turn : Turn (Watched World))
    (call : AgentCall) : List Firing :=
  (call.after service turn).world.fired

/-- The turn of a sequence of calls on a world. -/
def turnAfter (service : SupportAgentService (Watched World)) (world : World)
    (calls : List AgentCall) : Turn (Watched World) :=
  calls.foldl (AgentCall.after service) { world := { inner := { inner := world } } }

end Calls

section Faults

variable [UnicodeTables] [FloatRepr] {World : Type}

/-- A script at a repository, and the service of a customer on them. -/
structure FaultedService (World : Type) where
  script : FaultScript
  repository : SupportRepository (Action World)
  customerId : Uuid
  refundConfirmed : Bool
  proposalIds : ℕ → Uuid

/-- The service, with the entries that fire. -/
def FaultedService.service (faulted : FaultedService World) :
    SupportAgentService (Watched World) where
  repository := watchedRepository faulted.script faulted.repository
  customerId := faulted.customerId
  refundConfirmed := faulted.refundConfirmed
  proposalIds := faulted.proposalIds

/-- An entry matches a call of a tool. -/
def FaultScriptEntry.MatchesTool (entry : FaultScriptEntry) (call : AgentCall) : Prop :=
  entry.matchesCall call.name call.arguments = true

/-- An entry is the first of its script that matches a call. -/
def FaultScript.FirstMatch (script : FaultScript) (call : AgentCall) (entry : FaultScriptEntry)
    (index : ℕ) : Prop :=
  script.entries[index]? = some entry ∧ entry.MatchesTool call ∧
    ∀ j < index, ∀ other, script.entries[j]? = some other → ¬ other.MatchesTool call

/-- **Faults hit the tools that they name**: an entry that fires is for the tool of the call, and an
entry that no earlier one shadows fires on the first call that it matches. -/
structure FaultsHit (script : FaultScript) (earlier : List AgentCall) (call : AgentCall)
    (fired : List Firing) : Prop where
  named : ∀ firing ∈ fired, firing.1.tool = call.name
  first : ∀ entry index, script.FirstMatch call entry index →
    (∀ before ∈ earlier, ¬ entry.MatchesTool before) → (entry, index) ∈ fired

variable (faulted : FaultedService World)

/-- A confirmation that passes its guard: the refund was proposed, and the request confirms it. -/
def FaultedService.PassesGuard (turn : Turn (Watched World)) (orderId : Uuid) : Prop :=
  (turn.service.pendingProposals orderId).isSome = true ∧ faulted.refundConfirmed = true

/-- The order that a call reads on its way. -/
def FaultedService.Reads (turn : Turn (Watched World)) (call : AgentCall) (orderId : Uuid) : Prop :=
  call.toolCall = .proposeRefund orderId ∨
    call.toolCall = .confirmRefund orderId ∧ faulted.PassesGuard turn orderId

/-- No live entry for reads of orders matches the order that a call reads on its way. -/
def FaultedService.ReadsFree (turn : Turn (Watched World)) (call : AgentCall) : Prop :=
  ∀ orderId, faulted.Reads turn call orderId →
    faulted.script.firing turn.world.inner.consumed (.getOrder orderId) = none

/-- The repository reads a delivered order of the customer. -/
def FaultedService.ReadsDelivered (turn : Turn (Watched World)) (orderId : Uuid) : Prop :=
  ∃ order, outcome ((faulted.repository.getOrder orderId).run turn.world.inner.inner) =
      .ok (some order) ∧ order.customerId = faulted.customerId ∧ order.status = .delivered

/-- A call comes to the call of the repository that has the name of its tool. -/
def FaultedService.Reaches (turn : Turn (Watched World)) (call : AgentCall) : Prop :=
  match call.toolCall with
  | .getOrderStatus _ => True
  | .getPolicy _ => True
  | .proposeRefund _ => False
  | .confirmRefund orderId =>
    faulted.PassesGuard turn orderId ∧ faulted.ReadsDelivered turn orderId
  | .escalate subject => lengthWithin 1 300 subject = true

/-- **A call is on target**: no live entry for reads of orders matches the order that it reads on
its way, and it comes to the call with the name of its tool, or the first entry that matches it
already matched an earlier call. -/
structure FaultedService.OnTarget (earlier : List AgentCall) (turn : Turn (Watched World))
    (call : AgentCall) : Prop where
  reads : faulted.ReadsFree turn call
  reaches : ¬ faulted.Reaches turn call → ∀ entry index,
    faulted.script.FirstMatch call entry index → ∃ before ∈ earlier, entry.MatchesTool before

/-! ## What fires behind a repository -/

/-- The consumed entries behind a repository, and the entries that fired. -/
def BoundaryAt (consumed : List ℕ) (fired : List Firing) (world : Watched World) : Prop :=
  world.inner.consumed = consumed ∧ world.fired = fired

variable {script : FaultScript} {tool : String} {arguments : Record} {call : RepositoryCall}
  {α : Type} {x : Action World α}

/-- **A call behind a script** fires and consumes the entry that it meets; without one it returns
or raises what it does in front of the script. -/
theorem watch_triple (hboundary : call.boundary = some (tool, arguments)) (world : Watched World) :
    Triple (· = world) (watch script call (do maybeFault script tool arguments; Faulted.onInner x))
      (fun a after => outcome (x.run world.inner.inner) = .ok a ∧
        BoundaryAt (script.consume world.inner.consumed tool arguments)
          (world.fired ++ (script.nextEntry world.inner.consumed tool arguments).toList) after)
      fun e after => (script.nextEntry world.inner.consumed tool arguments = none →
          outcome (x.run world.inner.inner) = .error e) ∧
        BoundaryAt (script.consume world.inner.consumed tool arguments)
          (world.fired ++ (script.nextEntry world.inner.consumed tool arguments).toList) after := by
  have hfires : script.firing world.inner.consumed call =
      script.nextEntry world.inner.consumed tool arguments := by
    rw [FaultScript.firing, hboundary]
    rfl
  refine triple_bind (Q := fun _ after => after.inner = world.inner ∧ after.fired =
    world.fired ++ (script.nextEntry world.inner.consumed tool arguments).toList)
    (triple_modify ?_) fun _ => triple_zoom ?_
  · rintro _ rfl
    exact ⟨rfl, by rw [hfires]⟩
  · rintro after ⟨hinner, hfired⟩
    rw [hinner]
    refine triple_bind (triple_mono (maybeFault_triple (P := (· = world.inner.inner)) script tool
      arguments world.inner.consumed) ?_ (fun _ _ h => h) ?_) fun _ => ?_
    · rintro _ rfl
      exact ⟨rfl, rfl⟩
    · rintro e raised ⟨herror, -, hconsumed⟩
      refine ⟨fun hnone => ?_, hconsumed, hfired⟩
      rw [FaultScript.nextError, hnone] at herror
      cases herror
    · refine triple_zoom ?_
      rintro passed ⟨-, hpassed, hconsumed⟩
      rw [hpassed]
      refine triple_of_runs ?_ ?_
      · rintro _ a s rfl hrun
        exact ⟨by rw [hrun]; rfl, hconsumed, hfired⟩
      · rintro _ e s rfl hrun
        exact ⟨fun _ => by rw [hrun]; rfl, hconsumed, hfired⟩

theorem watch_leads (hboundary : call.boundary = some (tool, arguments)) (consumed : List ℕ)
    (fired : List Firing) :
    Leads (BoundaryAt consumed fired)
      (watch script call (do maybeFault script tool arguments; Faulted.onInner x))
      (BoundaryAt (script.consume consumed tool arguments)
        (fired ++ (script.nextEntry consumed tool arguments).toList)) := by
  refine triple_of_eq ?_
  rintro world ⟨rfl, rfl⟩
  exact triple_mono (watch_triple hboundary world) (fun _ h => h) (fun _ _ h => h.2)
    fun _ _ h => h.2

/-- An entry that fired stays among the entries that fired. -/
theorem watch_keeps_fired (hboundary : call.boundary = some (tool, arguments)) (firing : Firing) :
    Keeps (fun world : Watched World => firing ∈ world.fired)
      (watch script call (do maybeFault script tool arguments; Faulted.onInner x)) := by
  refine triple_of_eq fun world hfired => ?_
  exact triple_mono (watch_leads hboundary world.inner.consumed world.fired)
    (by rintro _ rfl; exact ⟨rfl, rfl⟩) (fun _ _ h => h.2 ▸ List.mem_append_left _ hfired)
    fun _ _ h => h.2 ▸ List.mem_append_left _ hfired

/-! ## What fires during a service call -/

section Services

variable {repository : SupportRepository (Action World)} {orderId actorId : Uuid}
  {consumed : List ℕ} {fired : List Firing}

/-- The arguments of a call that names one order. -/
def orderArguments (orderId : Uuid) : Record := [("order_id", .str orderId.str)]

theorem getOrder_leads (script : FaultScript) (repository : SupportRepository (Action World))
    (orderId actorId : Uuid) (consumed : List ℕ) (fired : List Firing) :
    Leads (BoundaryAt consumed fired)
      (getOrder (watchedRepository script repository) orderId actorId)
      (BoundaryAt (script.consume consumed "get_order_status" (orderArguments orderId)) (fired ++
        (script.nextEntry consumed "get_order_status" (orderArguments orderId)).toList)) := by
  refine Leads.bind (watch_leads rfl consumed fired) fun found => ?_
  cases found with
  | none => exact triple_throw fun _ h => h
  | some order =>
    dsimp only
    split
    · exact triple_throw fun _ h => h
    · exact triple_pure fun _ h => h

theorem getLatestPolicy_leads (script : FaultScript)
    (repository : SupportRepository (Action World)) (slug : String) (consumed : List ℕ)
    (fired : List Firing) : Leads (BoundaryAt consumed fired)
    (getLatestPolicy (watchedRepository script repository) slug)
    (BoundaryAt (script.consume consumed "get_policy" [("slug", .str slug)])
      (fired ++ (script.nextEntry consumed "get_policy" [("slug", .str slug)]).toList)) := by
  refine Leads.bind (watch_leads rfl consumed fired) fun found => ?_
  cases found with
  | none => exact triple_throw fun _ h => h
  | some policy => exact triple_pure fun _ h => h

theorem createTicket_leads (script : FaultScript) (repository : SupportRepository (Action World))
    (actorId : Uuid) {subject : String} (hsubject : lengthWithin 1 300 subject = true)
    (consumed : List ℕ) (fired : List Firing) :
    Leads (BoundaryAt consumed fired)
      (createTicket (watchedRepository script repository)
        { actorId := actorId, subject := subject, validSubject := hsubject })
      (BoundaryAt (script.consume consumed "escalate" [("subject", .str subject)])
        (fired ++ (script.nextEntry consumed "escalate" [("subject", .str subject)]).toList)) :=
  watch_leads rfl consumed fired

/-- A refund fires the entry that its read of the order meets. -/
theorem requestRefund_fires {firing : Firing}
    (hmeets : script.nextEntry consumed "get_order_status" (orderArguments orderId) = some firing) :
    Leads (BoundaryAt consumed fired)
      (requestRefund (watchedRepository script repository) ⟨actorId, orderId⟩)
      (firing ∈ ·.fired) := by
  have hfires : ∀ world, BoundaryAt (script.consume consumed "get_order_status"
      (orderArguments orderId)) (fired ++ (script.nextEntry consumed "get_order_status"
      (orderArguments orderId)).toList) world → firing ∈ (world : Watched World).fired := by
    rintro world ⟨-, hworld⟩
    rw [hworld, hmeets]
    exact List.mem_append_right _ (List.mem_singleton_self _)
  refine Leads.bind (triple_mono (getOrder_leads script repository orderId actorId
    consumed fired) (fun _ h => h) (fun _ => hfires) fun _ => hfires)
    fun order => ?_
  dsimp only
  split
  · exact triple_throw fun _ h => h
  · refine Keeps.bind (watch_keeps_fired rfl firing) fun saved => ?_
    cases saved with
    | some saved => exact triple_pure fun _ h => h
    | none =>
      refine Keeps.bind (watch_keeps_fired rfl firing) fun current => ?_
      cases current with
      | none => exact triple_throw fun _ h => h
      | some current =>
        dsimp only
        split
        · exact triple_throw fun _ h => h
        · exact triple_throw fun _ h => h

/-- A read of an order that meets no entry is the read in front of the script. -/
theorem read_triple (world : Watched World) (hfree : script.nextEntry world.inner.consumed
      "get_order_status" (orderArguments orderId) = none) :
    Triple (· = world) ((watchedRepository script repository).getOrder orderId)
      (fun found after => outcome ((repository.getOrder orderId).run world.inner.inner) =
        .ok found ∧ BoundaryAt world.inner.consumed world.fired after)
      fun e after => outcome ((repository.getOrder orderId).run world.inner.inner) = .error e ∧
        BoundaryAt world.inner.consumed world.fired after := by
  have hkeeps : ∀ after, BoundaryAt (script.consume world.inner.consumed "get_order_status"
      (orderArguments orderId)) (world.fired ++ (script.nextEntry world.inner.consumed
      "get_order_status" (orderArguments orderId)).toList) after →
      BoundaryAt world.inner.consumed world.fired (after : Watched World) := by
    rintro after ⟨hconsumed, hfired⟩
    rw [FaultScript.consume_of_nextEntry_eq_none hfree] at hconsumed
    rw [hfree, Option.toList_none, List.append_nil] at hfired
    exact ⟨hconsumed, hfired⟩
  exact triple_mono (watch_triple rfl world) (fun _ h => h) (fun _ _ h => ⟨h.1, hkeeps _ h.2⟩)
    fun _ _ h => ⟨h.1 hfree, hkeeps _ h.2⟩

/-- **A refund of a delivered order of the actor** fires the entry of the refund; it may read the
order once more, which meets no entry again. -/
theorem requestRefund_leads_delivered (world : Watched World)
    (hfree : script.nextEntry world.inner.consumed "get_order_status" (orderArguments orderId) =
      none)
    {order : OrderRead} (hread : outcome ((repository.getOrder orderId).run world.inner.inner) =
      .ok (some order))
    (howner : order.customerId = actorId) (hdelivered : order.status = .delivered) :
    Leads (· = world) (requestRefund (watchedRepository script repository) ⟨actorId, orderId⟩)
      (BoundaryAt (script.consume world.inner.consumed "confirm_refund" (orderArguments orderId))
        (world.fired ++ (script.nextEntry world.inner.consumed "confirm_refund"
          (orderArguments orderId)).toList)) := by
  refine triple_bind (Q := fun found after => found = order ∧
    BoundaryAt world.inner.consumed world.fired after) ?_ fun found => ?_
  · refine triple_bind (triple_mono (read_triple world hfree) (fun _ h => h) (fun _ _ h => h) ?_)
      fun found => ?_
    · rintro e after ⟨herror, -⟩
      rw [hread] at herror
      cases herror
    · refine triple_of_eq ?_
      rintro after ⟨hfound, hat⟩
      rw [hread, Except.ok.injEq] at hfound
      subst hfound
      dsimp only
      rw [if_neg (not_not.mpr howner)]
      refine triple_pure ?_
      rintro _ rfl
      exact ⟨rfl, hat⟩
  · refine triple_of_eq ?_
    rintro before ⟨rfl, hat⟩
    rw [if_neg (by rw [hdelivered]; decide)]
    refine triple_bind (triple_mono (watch_leads rfl world.inner.consumed world.fired)
      (by rintro _ rfl; exact hat) (fun _ _ h => h) fun _ _ h => h) fun saved => ?_
    cases saved with
    | some saved => exact triple_pure fun _ h => h
    | none =>
      refine Leads.bind (triple_of_eq ?_) fun current => ?_
      · rintro after ⟨hconsumed, hfired⟩
        -- an entry that met no call before meets none after the refund fired its own
        have hagain : script.nextEntry after.inner.consumed "get_order_status"
            (orderArguments orderId) = none := by
          rw [hconsumed]
          exact FaultScript.nextEntry_eq_none_of_subset hfree FaultScript.subset_consume
        exact triple_mono (read_triple after hagain) (fun _ h => h)
          (fun _ _ h => ⟨h.2.1.trans hconsumed, h.2.2.trans hfired⟩)
          fun _ _ h => ⟨h.2.1.trans hconsumed, h.2.2.trans hfired⟩
      · cases current with
        | none => exact triple_throw fun _ h => h
        | some current =>
          dsimp only
          split
          · exact triple_throw fun _ h => h
          · exact triple_throw fun _ h => h

/-- A refund of another order fires nothing, if its read of the order meets no entry. -/
theorem requestRefund_leads_refused (world : Watched World)
    (hfree : script.nextEntry world.inner.consumed "get_order_status" (orderArguments orderId) =
      none)
    (hrefused : ¬ ∃ order, outcome ((repository.getOrder orderId).run world.inner.inner) =
      .ok (some order) ∧ order.customerId = actorId ∧ order.status = .delivered) :
    Leads (· = world) (requestRefund (watchedRepository script repository) ⟨actorId, orderId⟩)
      (BoundaryAt world.inner.consumed world.fired) := by
  refine triple_bind (Q := fun found after => outcome ((repository.getOrder orderId).run
    world.inner.inner) = .ok (some found) ∧ found.customerId = actorId ∧
    BoundaryAt world.inner.consumed world.fired after) ?_ fun found => ?_
  · refine triple_bind (triple_mono (read_triple world hfree) (fun _ h => h) (fun _ _ h => h)
      fun _ _ h => h.2) fun found => ?_
    cases found with
    | none => exact triple_throw fun _ h => h.2
    | some order =>
      dsimp only
      split
      · exact triple_throw fun _ h => h.2
      · rename_i howner
        exact triple_pure fun _ h => ⟨h.1, not_not.mp howner, h.2⟩
  · split
    · exact triple_throw fun _ h => h.2.2
    · rename_i hstatus
      have hdelivered : found.status = .delivered := by
        simpa [refundableOrderStatuses] using hstatus
      exact fun _ h => (hrefused ⟨found, h.1, h.2.1, hdelivered⟩).elim

end Services

end Faults

/-! ## What a tool does to its world -/

section Worlds

variable {World α : Type} {P Q : World → Prop} (service : SupportAgentService World)

theorem onWorld_leads {x : Action World α} (h : Leads P x Q) :
    Leads (P ·.world) (onWorld x) (Q ·.world) :=
  triple_zoom fun _ hP => triple_mono h (by rintro _ rfl; exact hP) (fun _ _ hQ => hQ)
    fun _ _ hQ => hQ

theorem span_leads {name : String} {body : Action (Turn World) α}
    (h : Leads (P ·.world) body (Q ·.world)) : Leads (P ·.world) (span name body) (Q ·.world) :=
  span_triple (fun _ _ _ hP => hP) (fun _ _ _ _ hQ => hQ) (fun _ _ _ _ hQ => hQ) h

theorem updateService_keeps_world {f : ServiceState → ServiceState} :
    Keeps (fun turn : Turn World => P turn.world) (updateService f) :=
  triple_modify fun _ h => h

theorem span_pure_keeps_world {name : String} :
    Keeps (fun turn : Turn World => P turn.world) (span name (pure ())) :=
  span_pure_triple fun _ _ _ h => h

theorem getOrderStatus_leads {orderId : Uuid}
    (h : Leads P (getOrder service.repository orderId service.customerId) Q) :
    Leads (P ·.world) (service.getOrderStatus orderId) (Q ·.world) :=
  Leads.bind (span_leads (onWorld_leads h)) fun _ =>
    Keeps.bind updateService_keeps_world fun _ => triple_pure fun _ hQ => hQ

theorem getPolicy_leads {slug : String} (h : Leads P (getLatestPolicy service.repository slug) Q) :
    Leads (P ·.world) (service.getPolicy slug) (Q ·.world) := by
  refine span_leads (Leads.bind (span_leads (onWorld_leads h)) fun policy => ?_)
  refine Keeps.bind (setAttribute_triple fun _ _ _ hQ => hQ) fun _ => ?_
  exact Keeps.bind updateService_keeps_world fun _ => triple_pure fun _ hQ => hQ

/-- A proposal reads its order, and makes no other call. -/
theorem proposeRefund_leads {orderId : Uuid}
    (h : Leads P (getOrder service.repository orderId service.customerId) Q) :
    Leads (P ·.world) (service.proposeRefund orderId) (Q ·.world) := by
  have heligible : Leads (P ·.world) (service.proposeEligible orderId) (Q ·.world) := by
    refine Leads.bind (getOrderStatus_leads service h) fun order => ?_
    dsimp only
    split
    · refine Keeps.bind span_pure_keeps_world fun _ => ?_
      exact Keeps.bind updateService_keeps_world fun _ => triple_throw fun _ hQ => hQ
    · refine Keeps.bind span_pure_keeps_world fun _ => ?_
      refine Keeps.bind (triple_get fun _ hQ => hQ) fun _ => ?_
      refine Keeps.bind updateService_keeps_world fun _ => ?_
      refine Keeps.bind span_pure_keeps_world fun _ => ?_
      exact Keeps.bind updateService_keeps_world fun _ => triple_pure fun _ hQ => hQ
  refine triple_attempt_bind heligible (fun _ => triple_pure fun _ hQ => hQ) fun e => ?_
  exact Keeps.bind updateService_keeps_world fun _ => triple_throw fun _ hQ => hQ

theorem escalate_leads {subject : String} (hsubject : lengthWithin 1 300 subject = true)
    (h : Leads P (createTicket service.repository
      { actorId := service.customerId, subject := subject, validSubject := hsubject }) Q) :
    Leads (P ·.world) (service.escalate subject) (Q ·.world) := by
  refine span_leads ?_
  simp only [CreateTicketCommand.new, dif_pos hsubject, pure_bind]
  exact Leads.bind (onWorld_leads h) fun _ =>
    Keeps.bind updateService_keeps_world fun _ => triple_pure fun _ hQ => hQ

/-- An escalation with an invalid subject makes no call. -/
theorem escalate_keeps_invalid {subject : String} (hsubject : ¬ lengthWithin 1 300 subject = true) :
    Leads (P ·.world) (service.escalate subject) (P ·.world) := by
  refine span_leads ?_
  simp only [CreateTicketCommand.new, dif_neg hsubject]
  exact triple_bind (triple_throw (Q := fun _ _ => False) fun _ hP => hP) fun _ => triple_false

/-- A confirmation that passes its guard makes the calls of the refund. -/
theorem confirmRefund_leads {orderId : Uuid} (turn : Turn World)
    (hpasses : (turn.service.pendingProposals orderId).isSome = true ∧
      service.refundConfirmed = true)
    (h : Leads (· = turn.world)
      (requestRefund service.repository ⟨service.customerId, orderId⟩) Q) :
    Leads (· = turn) (service.confirmRefund orderId) (Q ·.world) := by
  refine triple_bind (Q := fun read after => read = turn ∧ after = turn)
    (triple_get fun _ hstart => ⟨hstart, hstart⟩) fun read => triple_of_eq ?_
  rintro after ⟨rfl, rfl⟩
  rw [if_neg (by simp [Option.isSome_iff_ne_none.mp hpasses.1, hpasses.2])]
  refine Leads.bind (triple_mono (span_leads (span_leads (onWorld_leads h)))
    (fun _ hstart => congrArg Turn.world hstart) (fun _ _ hQ => hQ) fun _ _ hQ => hQ) fun _ => ?_
  exact Keeps.bind updateService_keeps_world fun _ => triple_pure fun _ hQ => hQ

/-- A confirmation that does not pass its guard makes no call. -/
theorem confirmRefund_blocked {orderId : Uuid} (turn : Turn World)
    (hblocked : ¬ ((turn.service.pendingProposals orderId).isSome = true ∧
      service.refundConfirmed = true)) :
    Leads (· = turn) (service.confirmRefund orderId) (·.world = turn.world) := by
  have hguard : ((turn.service.pendingProposals orderId).isNone || !service.refundConfirmed) =
      true := by
    rw [not_and_or] at hblocked
    simpa using hblocked
  refine triple_bind (Q := fun read after => read = turn ∧ after.world = turn.world)
    (triple_get fun _ hstart => ⟨hstart, congrArg Turn.world hstart⟩) fun read => triple_of_eq ?_
  rintro after ⟨rfl, hworld⟩
  rw [if_pos hguard]
  refine triple_mono (P := (·.world = read.world)) ?_ (by rintro _ rfl; exact hworld)
    (fun _ _ h => h) fun _ _ h => h
  refine Keeps.bind (span_pure_keeps_world (P := (· = read.world))) fun _ => ?_
  exact Keeps.bind (updateService_keeps_world (P := (· = read.world))) fun _ =>
    triple_throw fun _ h => h

end Worlds

/-! ## The faults of a call, and of a run -/

section Runs

variable [UnicodeTables] [FloatRepr] {World : Type} (faulted : FaultedService World)
  {turn : Turn (Watched World)} {call : AgentCall}

omit [UnicodeTables] [FloatRepr] in
/-- What a tool ends with, its call ends with. -/
theorem after_of_leads {α : Type} {service : SupportAgentService (Watched World)}
    {P Q : Turn (Watched World) → Prop} {x : Action (Turn (Watched World)) α}
    (hperform : service.perform call.toolCall = do let _ ← x) (h : Leads P x Q)
    (hstart : P turn.fresh) : Q (call.after service turn) := by
  refine Leads.finalState (P := P) ?_ hstart
  rw [hperform]
  exact Leads.bind h fun _ => triple_pure fun _ hQ => hQ

/-- A call meets the entry of its own tool and arguments. -/
def FaultedService.FiresOwn (turn : Turn (Watched World)) (call : AgentCall) : Prop :=
  BoundaryAt (faulted.script.consume turn.world.inner.consumed call.name call.arguments)
    (faulted.script.nextEntry turn.world.inner.consumed call.name call.arguments).toList
    (call.after faulted.service turn).world

/-- A call consumes and fires nothing. -/
def FaultedService.FiresNothing (turn : Turn (Watched World)) (call : AgentCall) : Prop :=
  BoundaryAt turn.world.inner.consumed [] (call.after faulted.service turn).world

/-- **A call that comes to the call of its own name** meets the entry of its tool and arguments. -/
theorem firesOwn_of_reaches (hreaches : faulted.Reaches turn call)
    (hreads : faulted.ReadsFree turn call) : faulted.FiresOwn turn call := by
  obtain ⟨toolCall, reason⟩ := call
  cases toolCall with
  | getOrderStatus orderId =>
    have htool := getOrderStatus_leads faulted.service (getOrder_leads faulted.script
      faulted.repository orderId faulted.customerId turn.world.inner.consumed [])
    exact after_of_leads rfl htool ⟨rfl, rfl⟩
  | getPolicy slug =>
    have htool := getPolicy_leads faulted.service (getLatestPolicy_leads faulted.script
      faulted.repository slug turn.world.inner.consumed [])
    exact after_of_leads rfl htool ⟨rfl, rfl⟩
  | proposeRefund orderId => exact hreaches.elim
  | confirmRefund orderId =>
    obtain ⟨hpasses, order, hread, howner, hdelivered⟩ := hreaches
    have hfree := hreads orderId (Or.inr ⟨rfl, hpasses⟩)
    have htool := confirmRefund_leads faulted.service turn.fresh hpasses
      (requestRefund_leads_delivered turn.fresh.world hfree hread howner hdelivered)
    exact after_of_leads rfl htool rfl
  | escalate subject =>
    have htool := escalate_leads faulted.service hreaches (createTicket_leads faulted.script
      faulted.repository faulted.customerId hreaches turn.world.inner.consumed [])
    exact after_of_leads rfl htool ⟨rfl, rfl⟩

/-- **A call that does not come to the call of its own name** fires nothing. -/
theorem firesNothing_of_not_reaches (hmisses : ¬ faulted.Reaches turn call)
    (hreads : faulted.ReadsFree turn call) : faulted.FiresNothing turn call := by
  obtain ⟨toolCall, reason⟩ := call
  cases toolCall with
  | getOrderStatus orderId => exact (hmisses trivial).elim
  | getPolicy slug => exact (hmisses trivial).elim
  | proposeRefund orderId =>
    have hfree : faulted.script.nextEntry turn.world.inner.consumed "get_order_status"
        (orderArguments orderId) = none := hreads orderId (Or.inl rfl)
    have htool := proposeRefund_leads faulted.service (getOrder_leads faulted.script
      faulted.repository orderId faulted.customerId turn.world.inner.consumed [])
    rw [FaultScript.consume_of_nextEntry_eq_none hfree, hfree] at htool
    exact after_of_leads rfl htool ⟨rfl, rfl⟩
  | confirmRefund orderId =>
    by_cases hpasses : faulted.PassesGuard turn orderId
    · have hfree := hreads orderId (Or.inr ⟨rfl, hpasses⟩)
      have htool := confirmRefund_leads faulted.service turn.fresh hpasses
        (requestRefund_leads_refused turn.fresh.world hfree fun hread => hmisses ⟨hpasses, hread⟩)
      exact after_of_leads rfl htool rfl
    · have htool := confirmRefund_blocked faulted.service turn.fresh hpasses
      have hworld :
          ((⟨.confirmRefund orderId, reason⟩ : AgentCall).after faulted.service turn).world =
            turn.fresh.world := after_of_leads rfl htool rfl
      exact ⟨congrArg (fun world => world.inner.consumed) hworld, congrArg Watched.fired hworld⟩
  | escalate subject =>
    have htool := escalate_keeps_invalid (P := BoundaryAt turn.world.inner.consumed [])
      faulted.service hmisses
    exact after_of_leads rfl htool ⟨rfl, rfl⟩

/-- A live entry for reads of orders fires during every call that reads its order on its way. -/
theorem fires_of_reads {orderId : Uuid} {firing : Firing}
    (hreads : faulted.Reads turn call orderId)
    (hmeets : faulted.script.firing turn.world.inner.consumed (.getOrder orderId) = some firing) :
    firing ∈ firedDuring faulted.service turn call := by
  have hmeets : faulted.script.nextEntry turn.world.inner.consumed "get_order_status"
      (orderArguments orderId) = some firing := hmeets
  obtain ⟨toolCall, reason⟩ := call
  rcases hreads with hpropose | ⟨hconfirm, hpasses⟩
  · obtain rfl : toolCall = .proposeRefund orderId := hpropose
    have htool := proposeRefund_leads faulted.service (getOrder_leads faulted.script
      faulted.repository orderId faulted.customerId turn.world.inner.consumed [])
    rw [hmeets] at htool
    have hafter : BoundaryAt _ _
        ((⟨.proposeRefund orderId, reason⟩ : AgentCall).after faulted.service turn).world :=
      after_of_leads rfl htool ⟨rfl, rfl⟩
    rw [firedDuring, hafter.2]
    exact List.mem_singleton_self _
  · obtain rfl : toolCall = .confirmRefund orderId := hconfirm
    have hrefund : Leads (BoundaryAt turn.world.inner.consumed [])
        (requestRefund (watchedRepository faulted.script faulted.repository)
          ⟨faulted.customerId, orderId⟩) (firing ∈ ·.fired) := requestRefund_fires hmeets
    have htool := confirmRefund_leads faulted.service turn.fresh hpasses
      (triple_mono hrefund (by rintro _ rfl; exact ⟨rfl, rfl⟩) (fun _ _ h => h) fun _ _ h => h)
    exact after_of_leads (Q := fun after => firing ∈ after.world.fired) rfl htool rfl

/-- The consumed entries of a run matched a call of the run. -/
def ConsumedByMatches (script : FaultScript) (calls : List AgentCall) (consumed : List ℕ) : Prop :=
  ∀ index ∈ consumed, ∀ entry, script.entries[index]? = some entry →
    ∃ call ∈ calls, entry.MatchesTool call

omit [UnicodeTables] in
theorem ConsumedByMatches.consume {script : FaultScript} {calls : List AgentCall}
    {consumed : List ℕ} (h : ConsumedByMatches script calls consumed) (call : AgentCall) :
    ConsumedByMatches script (calls ++ [call])
      (script.consume consumed call.name call.arguments) := by
  intro index hindex entry hentry
  rcases FaultScript.mem_consume.mp hindex with hold | ⟨other, hnext, -⟩
  · obtain ⟨before, hbefore, hmatches⟩ := h index hold entry hentry
    exact ⟨before, List.mem_append_left _ hbefore, hmatches⟩
  · obtain ⟨hother, hlive, -⟩ := FaultScript.nextEntry_eq_some.mp hnext
    rw [hentry, Option.some.injEq] at hother
    subst hother
    exact ⟨call, List.mem_append_right _ (List.mem_singleton_self _), hlive.1⟩

omit [UnicodeTables] in
theorem ConsumedByMatches.mono {script : FaultScript} {calls : List AgentCall} {consumed : List ℕ}
    (h : ConsumedByMatches script calls consumed) (call : AgentCall) :
    ConsumedByMatches script (calls ++ [call]) consumed := by
  intro index hindex entry hentry
  obtain ⟨before, hbefore, hmatches⟩ := h index hindex entry hentry
  exact ⟨before, List.mem_append_left _ hbefore, hmatches⟩

/-- A call on target keeps what the consumed entries matched. -/
theorem ConsumedByMatches.after {calls : List AgentCall}
    (h : ConsumedByMatches faulted.script calls turn.world.inner.consumed)
    (hreads : faulted.ReadsFree turn call) :
    ConsumedByMatches faulted.script (calls ++ [call])
      (call.after faulted.service turn).world.inner.consumed := by
  by_cases hreaches : faulted.Reaches turn call
  · rw [(firesOwn_of_reaches faulted hreaches hreads).1]
    exact h.consume call
  · rw [(firesNothing_of_not_reaches faulted hreaches hreads).1]
    exact h.mono call

/-- In a run on target, the consumed entries matched a call of the run. -/
theorem consumedByMatches_turnAfter (world : World) (calls : List AgentCall)
    (htarget : ∀ earlier call later, calls = earlier ++ call :: later →
      faulted.OnTarget earlier (turnAfter faulted.service world earlier) call) :
    ConsumedByMatches faulted.script calls
      (turnAfter faulted.service world calls).world.inner.consumed := by
  induction calls using List.reverseRecOn with
  | nil => exact fun index hindex => absurd hindex List.not_mem_nil
  | append_singleton calls call ih =>
    rw [turnAfter, List.foldl_concat]
    refine ConsumedByMatches.after faulted (ih fun earlier other later hsplit => ?_)
      (htarget calls call [] rfl).reads
    exact htarget earlier other (later ++ [call]) (by rw [hsplit]; simp)

/-- A call on target hits, when the consumed entries matched earlier calls. -/
theorem FaultedService.OnTarget.faultsHit {earlier : List AgentCall}
    (htarget : faulted.OnTarget earlier turn call)
    (hconsumed : ConsumedByMatches faulted.script earlier turn.world.inner.consumed) :
    FaultsHit faulted.script earlier call (firedDuring faulted.service turn call) := by
  by_cases hreaches : faulted.Reaches turn call
  · have hfired := (firesOwn_of_reaches faulted hreaches htarget.reads).2
    rw [firedDuring, hfired]
    constructor
    · rintro ⟨entry, index⟩ hmem
      obtain ⟨-, hlive, -⟩ := FaultScript.nextEntry_eq_some.mp (Option.mem_toList.mp hmem)
      have hmatches := hlive.1
      rw [FaultScriptEntry.matchesCall, Bool.and_eq_true, decide_eq_true_eq] at hmatches
      exact hmatches.1
    · rintro entry index ⟨hentry, hmatches, hfirst⟩ hnew
      refine Option.mem_toList.mpr (FaultScript.nextEntry_eq_some.mpr ⟨hentry, ?_, ?_⟩)
      · -- an entry that matched no earlier call is not consumed
        refine ⟨hmatches, Or.inr fun hold => ?_⟩
        obtain ⟨before, hbefore, hearlier⟩ := hconsumed index hold entry hentry
        exact hnew before hbefore hearlier
      · exact fun j hlt other hother hlive => hfirst j hlt other hother hlive.1
  · have hfired := (firesNothing_of_not_reaches faulted hreaches htarget.reads).2
    rw [firedDuring, hfired]
    refine ⟨fun firing hmem => absurd hmem List.not_mem_nil, fun entry index hfirst hnew => ?_⟩
    obtain ⟨before, hbefore, hmatches⟩ := htarget.reaches hreaches entry index hfirst
    exact absurd hmatches (hnew before hbefore)

/-- A call that hits is on target. -/
theorem FaultsHit.onTarget {earlier : List AgentCall}
    (hhit : FaultsHit faulted.script earlier call (firedDuring faulted.service turn call)) :
    faulted.OnTarget earlier turn call := by
  have hreads : faulted.ReadsFree turn call := by
    intro orderId hreads
    cases hmeets : faulted.script.firing turn.world.inner.consumed (.getOrder orderId) with
    | none => rfl
    | some firing =>
      -- the entry is for reads of orders, but fires in a call of another tool
      have hnamed := hhit.named firing (fires_of_reads faulted hreads hmeets)
      have hlive := FaultScript.nextEntry_eq_some.mp (hmeets : _ = some (firing.1, firing.2))
      have htool := hlive.2.1.1
      rw [FaultScriptEntry.matchesCall, Bool.and_eq_true, decide_eq_true_eq, hnamed] at htool
      rcases hreads with hpropose | ⟨hconfirm, -⟩
      · rw [AgentCall.name, hpropose] at htool
        exact absurd htool.1 (show "propose_refund" ≠ "get_order_status" by decide)
      · rw [AgentCall.name, hconfirm] at htool
        exact absurd htool.1 (show "confirm_refund" ≠ "get_order_status" by decide)
  refine ⟨hreads, fun hmisses entry index hfirst => ?_⟩
  by_contra hnone
  have hmem := hhit.first entry index hfirst fun before hbefore hmatches =>
    hnone ⟨before, hbefore, hmatches⟩
  have hfired := (firesNothing_of_not_reaches faulted hmisses hreads).2
  rw [firedDuring, hfired] at hmem
  exact absurd hmem List.not_mem_nil

/-- **When the faults of a run hit the tools that they name**: exactly when every call of the run is
on target. -/
theorem faultsHit_iff (world : World) (calls : List AgentCall) :
    (∀ earlier call later, calls = earlier ++ call :: later →
        FaultsHit faulted.script earlier call
          (firedDuring faulted.service (turnAfter faulted.service world earlier) call)) ↔
      ∀ earlier call later, calls = earlier ++ call :: later →
        faulted.OnTarget earlier (turnAfter faulted.service world earlier) call := by
  constructor
  · exact fun hhit earlier call later hsplit =>
      FaultsHit.onTarget faulted (hhit earlier call later hsplit)
  · intro htarget earlier call later hsplit
    refine (htarget earlier call later hsplit).faultsHit faulted
      (consumedByMatches_turnAfter faulted world earlier fun before other after hbefore => ?_)
    exact htarget before other (after ++ call :: later) (by rw [hsplit, hbefore]; simp)

end Runs

/-! ### A proposal of a refund -/

section Proposal

attribute [local instance] asciiTables oneDecimalRepr

theorem timeout_valid : (FaultKind.timeout = .delay) = ((none : Option ℕ).isSome = true) := by
  simp

/-- A script with a timeout for each of some tools. -/
def scriptedTimeouts (tools : List String) : FaultScript where
  scriptVersion := "1"
  dependency := "support.database"
  entries := tools.map fun tool =>
    { kind := .timeout, tool := tool, validDelay := timeout_valid }

def timeoutService : FaultedService Unit where
  script := scriptedTimeouts ["propose_refund", "get_order_status"]
  repository := emptyRepository
  customerId := .repeated 0
  refundConfirmed := false
  proposalIds _ := .repeated 0

/-- A proposal fires the entry for reads of orders, and never the entry for proposals. -/
theorem not_faultsHit_proposal :
    validateFaultScript (some timeoutService.script) supportToolNames ["support.database"] [] =
      .ok () ∧
    ¬ FaultsHit timeoutService.script [] ⟨.proposeRefund (.repeated 0), ""⟩
      (firedDuring timeoutService.service (turnAfter timeoutService.service () [])
        ⟨.proposeRefund (.repeated 0), ""⟩) := by
  refine ⟨by decide +kernel, fun hhit => ?_⟩
  have hfired : (firedDuring timeoutService.service (turnAfter timeoutService.service () [])
      ⟨.proposeRefund (.repeated 0), ""⟩).map (·.1.tool) = ["get_order_status"] := by
    decide +kernel
  obtain ⟨firing, hfiring, htool⟩ := List.mem_map.mp (hfired ▸ List.mem_singleton_self _)
  have hnamed := hhit.named firing hfiring
  rw [htool] at hnamed
  exact absurd hnamed (show "get_order_status" ≠ "propose_refund" by decide)

end Proposal

end ObservabilityLab
