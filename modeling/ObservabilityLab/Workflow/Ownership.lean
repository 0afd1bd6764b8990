import ObservabilityLab.Library.Histories
import ObservabilityLab.Workflow.Runtime

/-!
# Who may change a workflow

A call of the service has a workflow that it started to itself, until the workflow waits for its
confirmation. From then on a call has a workflow to itself that it holds the lock of. What every
step keeps is stated on the calls so far: what came before a decision on a refund, and before a call
of the executor.

## Main definitions

* `Accepted`: a decision that passed the checks of the service
* `Justified`: what came before an accepted decision, and before a call of the executor
* `Safe`: what holds of the calls so far, the checkpoints and the locks
* `Rely`, `Guarantee`: what a call knows of the others, and what its own steps do
* `Owns`, `Holds`, `HoldsDecided`: what a call knows of a workflow that it has to itself

## Main results

* `Guarantee.rely`: what a call guarantees, the others rely on
* `Performs.guarantee`, `Safe.draw`, `Owns.put`, `Safe.acquire`, `Holds.release`, `Holds.resume`,
  `HoldsDecided.execute`, `HoldsDecided.put`: the steps of the calls
-/

namespace ObservabilityLab.Workflow

open Python Interleaving RelyGuarantee Histories

variable {World Id : Type}

/-! ## The events of a refund -/

/-- A decision on the refund of a workflow, or a call of the executor for it. -/
def concernsRefund (w : String) (event : Event Id) : Bool :=
  match event.op with
  | .resume thread _ => thread = w
  | .dependency thread (.execute ..) => thread = w
  | _ => false

def refundEvents (w : String) (history : List (Event Id)) : List (Event Id) :=
  history.filter (concernsRefund w)

theorem refundEvents_concat (w : String) (history : List (Event Id)) (event : Event Id) :
    refundEvents w (history ++ [event]) =
      if concernsRefund w event then refundEvents w history ++ [event]
      else refundEvents w history := by
  rw [refundEvents, List.filter_append, List.filter_singleton]
  cases concernsRefund w event with
  | true => rfl
  | false => exact List.append_nil _

/-- Other events are no part of the refund. -/
theorem refundEvents_concat_of_not {w : String} {history : List (Event Id)} {event : Event Id}
    (h : concernsRefund w event = false) :
    refundEvents w (history ++ [event]) = refundEvents w history := by
  rw [refundEvents_concat, h]
  rfl

/-- A call drew the identifier of a workflow. -/
def Drew (history : List (Event Id)) (i : Id) (w : String) : Prop :=
  ∃ u : Uuid, u.str = w ∧ ⟨i, .uuid4, .ok u⟩ ∈ history

/-- A call of the service started a workflow, with an expiry of its request. -/
def Starts (calls : Id → ServiceCall) (history : List (Event Id)) (i : Id) (w : String)
    (request : WorkflowRequest) : Prop :=
  (∃ given expiresAt, calls i = .start given ∧ request = given.until expiresAt) ∧
    ∃ state, ⟨i, .put w none ⟨state, some .route, false⟩, .ok ()⟩ ∈ history ∧
      state.request = request

/-- A call of the service decides the refund of a workflow. -/
def ServiceCall.Decides (call : ServiceCall) (w : String) (actorId : Uuid) (requestId : String) :
    ConfirmationDecision → Prop
  | .confirm => call = .confirm w actorId requestId
  | .reject => call = .reject w actorId requestId
  | .pending => False

/-- **A decision that passed the checks** of the service, on the checkpoint that it was taken on. -/
structure Accepted (calls : Id → ServiceCall) (earlier : List (Event Id)) (i : Id) (w : String)
    (decision : ResumeDecision) (snapshot : Checkpoint) : Prop where
  first : refundEvents w earlier = []
  interrupted : snapshot.interrupted = true
  awaiting : snapshot.values.status = .awaitingConfirmation
  unexpired : ∃ now expiresAt elapsed, ⟨i, .clock, .ok now⟩ ∈ earlier ∧
    snapshot.values.request.expiresAt = some expiresAt ∧ now.since expiresAt = some elapsed ∧
    elapsed < 0
  decides : ∃ d : ConfirmationDecision, decision.decision = d.value ∧
    (calls i).Decides w snapshot.values.request.actorId snapshot.values.request.requestId d
  started : ∃ k, Starts calls earlier k w snapshot.values.request

/-- What came before an event of a refund: before a decision its checks, and before a call of the
executor the one decision, to confirm the proposal. -/
def Justified (calls : Id → ServiceCall) (earlier : List (Event Id)) : Event Id → Prop
  | ⟨i, .resume w decision, answer⟩ =>
    ∃ snapshot, answer = .ok (some snapshot) ∧ Accepted calls earlier i w decision snapshot
  | ⟨i, .dependency w (.execute actorId orderId), _⟩ =>
    ∃ decision snapshot proposal,
      refundEvents w earlier = [⟨i, .resume w decision, .ok (some snapshot)⟩] ∧
      decision.decision = ConfirmationDecision.confirm.value ∧
      snapshot.values.request.actorId = actorId ∧
      snapshot.values.proposedAction = some proposal ∧ proposal.orderId = orderId
  | _ => True

/-! ## What holds in every run -/

namespace Shared

/-- A workflow waits for its confirmation. -/
def Interrupted (s : Shared World Id) (w : String) : Prop :=
  ∃ checkpoint, s.checkpoints w = some checkpoint ∧ checkpoint.interrupted = true

/-- The checkpoint and the refund of a workflow are unchanged. -/
def SamePart (s s' : Shared World Id) (w : String) : Prop :=
  s'.checkpoints w = s.checkpoints w ∧ refundEvents w s'.history = refundEvents w s.history

theorem SamePart.trans {s s' s'' : Shared World Id} {w : String} (h : s.SamePart s' w)
    (h' : s'.SamePart s'' w) : s.SamePart s'' w :=
  ⟨h'.1.trans h.1, h'.2.trans h.2⟩

theorem SamePart.interrupted_iff {s s' : Shared World Id} {w : String} (h : s.SamePart s' w) :
    s'.Interrupted w ↔ s.Interrupted w := by
  unfold Interrupted
  rw [h.1]

end Shared

variable (calls : Id → ServiceCall)

/-- **What holds in every run** of the calls. -/
structure Safe (s : Shared World Id) : Prop where
  /-- No identifier is drawn by two calls. -/
  draws : ∀ i j w, Drew s.history i w → Drew s.history j w → i = j
  /-- Only the call that drew the identifier of a workflow starts it. -/
  drew : ∀ i w request, Starts calls s.history i w request → Drew s.history i w
  /-- A stored workflow carries the request that started it. -/
  started : ∀ w checkpoint, s.checkpoints w = some checkpoint →
    ∃ i, Starts calls s.history i w checkpoint.values.request
  /-- A refund is about a stored workflow. -/
  stored : ∀ w, refundEvents w s.history ≠ [] → s.checkpoints w ≠ none
  /-- A run is interrupted by the confirmation of a proposal. -/
  interrupted : ∀ w checkpoint, s.checkpoints w = some checkpoint →
    checkpoint.interrupted = true →
      checkpoint.next = some .confirmation ∧ checkpoint.values.proposedAction.isSome = true
  /-- A workflow that waits, with nobody deciding, was not decided. -/
  unlocked : ∀ w, s.locks w = none → s.Interrupted w → refundEvents w s.history = []
  justified : ∀ before event, (before, event) ∈ histories s.history →
    Justified calls before event

/-- What a call relies on: the others leave a workflow alone that it started, until the workflow
waits, and a waiting workflow whose lock it holds. -/
structure Rely (i : Id) (s s' : Shared World Id) : Prop where
  grows : s.history <+: s'.history
  safe : Safe calls s → Safe calls s'
  own : ∀ w, Drew s.history i w → refundEvents w s.history = [] → ¬ s.Interrupted w →
    s.SamePart s' w
  lock : ∀ w, s.locks w = some i → s'.locks w = some i
  held : ∀ w, s.locks w = some i → s.Interrupted w ∨ refundEvents w s.history ≠ [] →
    s.SamePart s' w
  undecided : ∀ w, s.locks w = some i → (s.Interrupted w → refundEvents w s.history = []) →
    s'.Interrupted w → refundEvents w s'.history = []

/-- What a step of a call does to a workflow: nothing, unless the call started the workflow and it
does not wait yet, or the call holds its lock and it waits or was decided. -/
structure Guarantee (i : Id) (s s' : Shared World Id) : Prop where
  grows : s.history <+: s'.history
  safe : Safe calls s → Safe calls s'
  lock : ∀ w, s'.locks w = s.locks w ∨ s.locks w = none ∨ s.locks w = some i
  part : ∀ w, s.SamePart s' w ∨
    (Drew s.history i w ∧ refundEvents w s.history = [] ∧ ¬ s.Interrupted w ∧
      refundEvents w s'.history = []) ∨
    (s.locks w = some i ∧ (s.Interrupted w ∨ refundEvents w s.history ≠ []))

variable {calls}

theorem Drew.mono {history history' : List (Event Id)} {i : Id} {w : String}
    (h : Drew history i w) (hgrows : history <+: history') : Drew history' i w := by
  obtain ⟨u, hu, hmem⟩ := h
  exact ⟨u, hu, hgrows.subset hmem⟩

theorem Starts.mono {history history' : List (Event Id)} {i : Id} {w : String}
    {request : WorkflowRequest} (h : Starts calls history i w request)
    (hgrows : history <+: history') : Starts calls history' i w request := by
  obtain ⟨hcall, state, hmem, hstate⟩ := h
  exact ⟨hcall, state, hgrows.subset hmem, hstate⟩

theorem Rely.refl (i : Id) (s : Shared World Id) : Rely calls i s s where
  grows := List.prefix_rfl
  safe h := h
  own _ _ _ _ := ⟨rfl, rfl⟩
  lock _ h := h
  held _ _ _ := ⟨rfl, rfl⟩
  undecided _ _ h := h

theorem Rely.trans {i : Id} {s s' s'' : Shared World Id} (h : Rely calls i s s')
    (h' : Rely calls i s' s'') : Rely calls i s s'' where
  grows := h.grows.trans h'.grows
  safe hs := h'.safe (h.safe hs)
  own w hdrew hnone hrunning := by
    have hsame := h.own w hdrew hnone hrunning
    refine hsame.trans (h'.own w (hdrew.mono h.grows) (hsame.2.trans hnone) ?_)
    rwa [hsame.interrupted_iff]
  lock w hlock := h'.lock w (h.lock w hlock)
  held w hlock hwaits := by
    have hsame := h.held w hlock hwaits
    refine hsame.trans (h'.held w (h.lock w hlock) ?_)
    rwa [hsame.interrupted_iff, hsame.2]
  undecided w hlock hundecided :=
    h'.undecided w (h.lock w hlock) (h.undecided w hlock hundecided)

/-- **What a call guarantees, the others rely on.** -/
theorem Guarantee.rely {i j : Id} {s s' : Shared World Id} (h : Guarantee calls j s s')
    (hij : i ≠ j) (hsafe : Safe calls s) : Rely calls i s s' where
  grows := h.grows
  safe := h.safe
  own w hdrew hnone hrunning := by
    rcases h.part w with hsame | ⟨hother, -⟩ | ⟨-, hwaits | hdecided⟩
    · exact hsame
    · exact absurd (hsafe.draws i j w hdrew hother) hij
    · exact absurd hwaits hrunning
    · exact absurd hnone hdecided
  lock w hlock := by
    rcases h.lock w with hsame | hfree | hown
    · rw [hsame, hlock]
    · rw [hlock] at hfree
      cases hfree
    · rw [hlock, Option.some.injEq] at hown
      exact absurd hown hij
  held w hlock hwaits := by
    rcases h.part w with hsame | ⟨-, hnone, hrunning, -⟩ | ⟨hown, -⟩
    · exact hsame
    · exact absurd hwaits (not_or.mpr ⟨hrunning, not_not.mpr hnone⟩)
    · rw [hlock, Option.some.injEq] at hown
      exact absurd hown hij
  undecided w hlock hundecided hwaits := by
    rcases h.part w with hsame | ⟨-, -, -, hnone⟩ | ⟨hown, -⟩
    · rw [hsame.2]
      exact hundecided (hsame.interrupted_iff.mp hwaits)
    · exact hnone
    · rw [hlock, Option.some.injEq] at hown
      exact absurd hown hij

/-- The calls of one call of the service, with what it relies on and guarantees. -/
def conduct (env : Environment World) (calls : Id → ServiceCall) (i : Id) :
    Conduct Op.Answer PyError (Shared World Id) where
  performs := Performs env i
  rely := Rely calls i
  guarantee := Guarantee calls i
  rely_refl := Rely.refl i
  rely_trans := Rely.trans

/-! ## What each step guarantees -/

/-- A call that draws no identifier and stores no checkpoint. -/
def Op.Plain : Op → Prop
  | .uuid4 | .put .. => False
  | _ => True

/-- A call that is no part of a refund and changes no lock either. -/
def Op.Quiet : Op → Prop
  | .uuid4 | .put .. | .resume .. | .acquire _ | .release _ | .dependency _ (.execute ..) => False
  | _ => True

theorem drew_concat_iff {history : List (Event Id)} {event : Event Id} {i : Id} {w : String} :
    Drew (history ++ [event]) i w ↔
      Drew history i w ∨ ∃ u : Uuid, u.str = w ∧ event = ⟨i, .uuid4, .ok u⟩ := by
  unfold Drew
  simp only [List.mem_append, List.mem_singleton, and_or_left, exists_or]
  simp only [eq_comm (b := event)]

theorem drew_concat_of_plain {history : List (Event Id)} {event : Event Id}
    (hplain : event.op.Plain) {i : Id} {w : String} :
    Drew (history ++ [event]) i w ↔ Drew history i w := by
  rw [drew_concat_iff, or_iff_left]
  rintro ⟨u, -, rfl⟩
  exact hplain

theorem starts_concat_of_plain {history : List (Event Id)} {event : Event Id}
    (hplain : event.op.Plain) {i : Id} {w : String} {request : WorkflowRequest} :
    Starts calls (history ++ [event]) i w request ↔ Starts calls history i w request := by
  constructor
  · rintro ⟨hcall, state, hmem, hstate⟩
    rcases List.mem_append.mp hmem with hmem | hmem
    · exact ⟨hcall, state, hmem, hstate⟩
    · rw [← List.mem_singleton.mp hmem] at hplain
      exact hplain.elim
  · exact fun h => h.mono (List.prefix_append ..)

variable {s s' : Shared World Id} {i : Id}

/-- A call that stores no checkpoint keeps what holds in every run, if it is justified. -/
theorem Safe.concat {event : Event Id} (hsafe : Safe calls s)
    (hhistory : s'.history = s.history ++ [event]) (hplain : event.op.Plain)
    (hcheckpoints : s'.checkpoints = s.checkpoints)
    (hstored : ∀ w, concernsRefund w event = true → s.checkpoints w ≠ none)
    (hunlocked : ∀ w, s'.locks w = none → s.Interrupted w → refundEvents w s'.history = [])
    (hjustified : Justified calls s.history event) : Safe calls s' where
  draws i j w := by
    rw [hhistory, drew_concat_of_plain hplain, drew_concat_of_plain hplain]
    exact hsafe.draws i j w
  drew i w request := by
    rw [hhistory, drew_concat_of_plain hplain, starts_concat_of_plain hplain]
    exact hsafe.drew i w request
  started w checkpoint hcheckpoint := by
    rw [hcheckpoints] at hcheckpoint
    obtain ⟨i, hstarts⟩ := hsafe.started w checkpoint hcheckpoint
    exact ⟨i, hstarts.mono (by rw [hhistory]; exact List.prefix_append ..)⟩
  stored w hne := by
    rw [hcheckpoints]
    rw [hhistory, refundEvents_concat] at hne
    by_cases hconcerns : concernsRefund w event = true
    · exact hstored w hconcerns
    · rw [if_neg hconcerns] at hne
      exact hsafe.stored w hne
  interrupted w checkpoint hcheckpoint := by
    rw [hcheckpoints] at hcheckpoint
    exact hsafe.interrupted w checkpoint hcheckpoint
  unlocked w hlock hwaits := by
    apply hunlocked w hlock
    unfold Shared.Interrupted at hwaits ⊢
    rwa [hcheckpoints] at hwaits
  justified := by
    rw [hhistory]
    exact forall_history_concat.mpr ⟨hsafe.justified, hjustified⟩

theorem Op.Quiet.plain {op : Op} (h : op.Quiet) : op.Plain := by
  cases op with
  | uuid4 => exact h
  | put thread completed checkpoint => exact h
  | _ => trivial

theorem Op.Quiet.not_concernsRefund {event : Event Id} (h : event.op.Quiet) (w : String) :
    concernsRefund w event = false := by
  obtain ⟨caller, op, answer⟩ := event
  cases op with
  | resume thread decision => exact h.elim
  | dependency thread call =>
    cases call with
    | execute actorId orderId => exact h.elim
    | _ => rfl
  | _ => rfl

theorem Op.Quiet.justified {event : Event Id} (h : event.op.Quiet) (earlier : List (Event Id)) :
    Justified calls earlier event := by
  obtain ⟨caller, op, answer⟩ := event
  cases op with
  | resume thread decision => exact h.elim
  | dependency thread call =>
    cases call with
    | execute actorId orderId => exact h.elim
    | _ => trivial
  | _ => trivial

/-- What a quiet call leaves as it was. -/
theorem Performs.quiet {env : Environment World} {op : Op} {answer : Except PyError op.Answer}
    (h : Performs env i s op answer s') (hquiet : op.Quiet) :
    s'.checkpoints = s.checkpoints ∧ s'.locks = s.locks ∧
      s'.history = s.history ++ [⟨i, op, answer⟩] := by
  cases h with
  | put thread completed checkpoint => exact hquiet.elim
  | acquire hfree => exact hquiet.elim
  | release thread => exact hquiet.elim
  | _ => exact ⟨rfl, rfl, rfl⟩

/-- A quiet call changes no workflow. -/
theorem Performs.samePart {env : Environment World} {op : Op} {answer : Except PyError op.Answer}
    (h : Performs env i s op answer s') (hquiet : op.Quiet) (w : String) : s.SamePart s' w := by
  obtain ⟨hcheckpoints, -, hhistory⟩ := h.quiet hquiet
  refine ⟨by rw [hcheckpoints], ?_⟩
  rw [hhistory]
  exact refundEvents_concat_of_not (Op.Quiet.not_concernsRefund hquiet w)

theorem Performs.guarantee {env : Environment World} {op : Op}
    {answer : Except PyError op.Answer} (h : Performs env i s op answer s') (hquiet : op.Quiet) :
    Guarantee calls i s s' := by
  obtain ⟨hcheckpoints, hlocks, hhistory⟩ := h.quiet hquiet
  exact {
    grows := by
      rw [hhistory]
      exact List.prefix_append ..
    safe := fun hsafe => by
      refine hsafe.concat hhistory hquiet.plain hcheckpoints ?_ ?_ (Op.Quiet.justified hquiet _)
      · intro w hconcerns
        rw [Op.Quiet.not_concernsRefund hquiet w] at hconcerns
        cases hconcerns
      · intro w hlock hwaits
        rw [hlocks] at hlock
        rw [(h.samePart hquiet w).2]
        exact hsafe.unlocked w hlock hwaits
    lock := fun w => Or.inl (by rw [hlocks])
    part := fun w => Or.inl (h.samePart hquiet w) }

/-! ## A workflow that a call started -/

/-- `uuid4()` draws no identifier twice. -/
def Environment.Fresh (env : Environment World) : Prop :=
  ∀ before u, env.draws before u → u ∉ before

variable (calls) in
/-- A call drew the identifier of a workflow that does not wait yet. -/
structure Owns (i : Id) (w : String) (s : Shared World Id) : Prop where
  safe : Safe calls s
  drew : Drew s.history i w
  undecided : refundEvents w s.history = []
  running : ¬ s.Interrupted w

theorem Owns.of_samePart {w : String} (h : Owns calls i w s) (hgrows : s.history <+: s'.history)
    (hsafe : Safe calls s → Safe calls s') (hsame : s.SamePart s' w) : Owns calls i w s' where
  safe := hsafe h.safe
  drew := h.drew.mono hgrows
  undecided := hsame.2.trans h.undecided
  running := by
    rw [hsame.interrupted_iff]
    exact h.running

theorem Owns.of_rely {w : String} (h : Owns calls i w s) (hrely : Rely calls i s s') :
    Owns calls i w s' :=
  h.of_samePart hrely.grows hrely.safe (hrely.own w h.drew h.undecided h.running)

/-- A quiet call of the owner. -/
theorem Owns.quiet {env : Environment World} {w : String} {op : Op}
    {answer : Except PyError op.Answer} (h : Owns calls i w s)
    (hperforms : Performs env i s op answer s') (hquiet : op.Quiet) : Owns calls i w s' :=
  have hguarantee : Guarantee calls i s s' := hperforms.guarantee hquiet
  h.of_samePart hguarantee.grows hguarantee.safe (hperforms.samePart hquiet w)

theorem mem_drawn {history : List (Event Id)} {u : Uuid} :
    u ∈ drawn history ↔ ∃ i, ⟨i, .uuid4, .ok u⟩ ∈ history := by
  unfold drawn
  rw [List.mem_filterMap]
  constructor
  · rintro ⟨⟨i, op, answer⟩, hmem, hdrawn⟩
    cases op with
    | uuid4 =>
      cases answer with
      | ok v =>
        obtain rfl := Option.some.inj hdrawn
        exact ⟨i, hmem⟩
      | error e => cases hdrawn
    | _ => cases hdrawn
  · rintro ⟨i, hmem⟩
    exact ⟨_, hmem, rfl⟩

/-- A fresh identifier names no workflow. -/
theorem not_drew_of_fresh {env : Environment World} (hfresh : env.Fresh) {u : Uuid}
    (hdraws : env.draws (drawn s.history) u) (j : Id) : ¬ Drew s.history j u.str := by
  rintro ⟨v, hv, hmem⟩
  obtain rfl := Uuid.str_injective hv
  exact hfresh _ _ hdraws (mem_drawn.mpr ⟨j, hmem⟩)

/-- A new identifier is the one of a workflow that does not exist yet. -/
theorem Safe.draw {env : Environment World} (hfresh : env.Fresh) (hsafe : Safe calls s) {u : Uuid}
    (hdraws : env.draws (drawn s.history) u) :
    Guarantee calls i s (s.record i .uuid4 (.ok u)) ∧
      Owns calls i u.str (s.record i .uuid4 (.ok u)) := by
  have hnew := not_drew_of_fresh (s := s) hfresh hdraws
  have hrefund : ∀ w, refundEvents w (s.history ++ [⟨i, .uuid4, .ok u⟩]) =
      refundEvents w s.history := fun w => refundEvents_concat_of_not rfl
  have hdrew : ∀ j w, Drew (s.history ++ [⟨i, .uuid4, .ok u⟩]) j w ↔
      Drew s.history j w ∨ (j = i ∧ u.str = w) := by
    intro j w
    rw [drew_concat_iff]
    refine or_congr_right ⟨?_, ?_⟩
    · rintro ⟨v, hv, hevent⟩
      cases hevent
      exact ⟨rfl, hv⟩
    · rintro ⟨rfl, hu⟩
      exact ⟨u, hu, rfl⟩
  have hsafe' : Safe calls (s.record i .uuid4 (.ok u)) := {
    draws := fun j k w hj hk => by
      rcases (hdrew j w).mp hj with hj | ⟨rfl, rfl⟩
      · rcases (hdrew k w).mp hk with hk | ⟨-, rfl⟩
        · exact hsafe.draws j k w hj hk
        · exact absurd hj (hnew j)
      · rcases (hdrew k _).mp hk with hk | ⟨rfl, -⟩
        · exact absurd hk (hnew k)
        · rfl
    drew := fun j w request hstarts => by
      obtain ⟨hcall, state, hmem, hstate⟩ := hstarts
      rcases List.mem_append.mp hmem with hmem | hmem
      · exact (hdrew j w).mpr (Or.inl (hsafe.drew j w request ⟨hcall, state, hmem, hstate⟩))
      · cases List.mem_singleton.mp hmem
    started := fun w checkpoint hcheckpoint => by
      obtain ⟨j, hstarts⟩ := hsafe.started w checkpoint hcheckpoint
      exact ⟨j, hstarts.mono (List.prefix_append ..)⟩
    stored := fun w hne => hsafe.stored w (by rwa [← hrefund w])
    interrupted := hsafe.interrupted
    unlocked := fun w hlock hwaits => (hrefund w).trans (hsafe.unlocked w hlock hwaits)
    justified := forall_history_concat.mpr ⟨hsafe.justified, trivial⟩ }
  refine ⟨⟨List.prefix_append .., fun _ => hsafe', fun w => Or.inl rfl,
    fun w => Or.inl ⟨rfl, hrefund w⟩⟩, hsafe', (hdrew i u.str).mpr (Or.inr ⟨rfl, rfl⟩), ?_, ?_⟩
  · refine (hrefund u.str).trans ?_
    -- a workflow with events was started, and so its identifier was drawn before
    by_contra hne
    obtain ⟨checkpoint, hcheckpoint⟩ := Option.ne_none_iff_exists'.mp (hsafe.stored _ hne)
    obtain ⟨j, hstarts⟩ := hsafe.started _ checkpoint hcheckpoint
    exact hnew j (hsafe.drew j _ _ hstarts)
  · rintro ⟨checkpoint, hcheckpoint, -⟩
    obtain ⟨j, hstarts⟩ := hsafe.started _ checkpoint hcheckpoint
    exact hnew j (hsafe.drew j _ _ hstarts)

section Stored

variable {w : String} {completed : Option Node} {checkpoint : Checkpoint}

theorem checkpoints_stored_self : (s.stored i w completed checkpoint).checkpoints w =
    some checkpoint := Function.update_self ..

theorem checkpoints_stored_of_ne {w' : String} (h : w' ≠ w) :
    (s.stored i w completed checkpoint).checkpoints w' = s.checkpoints w' :=
  Function.update_of_ne h ..

theorem refundEvents_stored (w' : String) :
    refundEvents w' (s.stored i w completed checkpoint).history = refundEvents w' s.history :=
  refundEvents_concat_of_not rfl

/-- A stored checkpoint keeps what holds in every run, if it carries the request of its workflow,
and waits for nothing but the confirmation of a proposal. -/
theorem Safe.stored' (hsafe : Safe calls s)
    (hdrew : ∀ j w' request, Starts calls (s.stored i w completed checkpoint).history j w' request →
      Drew s.history j w')
    (hrequest : ∃ j,
      Starts calls (s.stored i w completed checkpoint).history j w checkpoint.values.request)
    (hinterrupted : checkpoint.interrupted = true →
      checkpoint.next = some .confirmation ∧ checkpoint.values.proposedAction.isSome = true ∧
        refundEvents w s.history = []) : Safe calls (s.stored i w completed checkpoint) where
  -- storing draws no identifier and decides nothing: only the fields about checkpoints move
  draws j k w' hj hk := by
    have hold : ∀ l, Drew (s.stored i w completed checkpoint).history l w' →
        Drew s.history l w' := by
      intro l h
      rcases drew_concat_iff.mp h with h | ⟨u, -, hevent⟩
      · exact h
      · cases hevent
    exact hsafe.draws j k w' (hold j hj) (hold k hk)
  drew j w' request hstarts := (hdrew j w' request hstarts).mono (List.prefix_append ..)
  started w' checkpoint' hcheckpoint := by
    by_cases hw : w' = w
    · subst hw
      rw [checkpoints_stored_self, Option.some.injEq] at hcheckpoint
      subst hcheckpoint
      exact hrequest
    · rw [checkpoints_stored_of_ne hw] at hcheckpoint
      obtain ⟨j, hstarts⟩ := hsafe.started w' checkpoint' hcheckpoint
      exact ⟨j, hstarts.mono (List.prefix_append ..)⟩
  stored w' hne := by
    by_cases hw : w' = w
    · subst hw
      rw [checkpoints_stored_self]
      exact Option.some_ne_none _
    · rw [checkpoints_stored_of_ne hw]
      rw [refundEvents_stored] at hne
      exact hsafe.stored w' hne
  interrupted w' checkpoint' hcheckpoint hwaits := by
    by_cases hw : w' = w
    · subst hw
      rw [checkpoints_stored_self, Option.some.injEq] at hcheckpoint
      subst hcheckpoint
      exact ⟨(hinterrupted hwaits).1, (hinterrupted hwaits).2.1⟩
    · rw [checkpoints_stored_of_ne hw] at hcheckpoint
      exact hsafe.interrupted w' checkpoint' hcheckpoint hwaits
  unlocked w' hlock hwaits := by
    rw [refundEvents_stored]
    obtain ⟨checkpoint', hcheckpoint, hinterrupt⟩ := hwaits
    by_cases hw : w' = w
    · subst hw
      rw [checkpoints_stored_self, Option.some.injEq] at hcheckpoint
      subst hcheckpoint
      exact (hinterrupted hinterrupt).2.2
    · rw [checkpoints_stored_of_ne hw] at hcheckpoint
      exact hsafe.unlocked w' hlock ⟨checkpoint', hcheckpoint, hinterrupt⟩
  justified := forall_history_concat.mpr ⟨hsafe.justified, trivial⟩

/-- Only the workflow of a checkpoint changes when it is stored. -/
theorem samePart_stored {w' : String} (h : w' ≠ w) :
    s.SamePart (s.stored i w completed checkpoint) w' :=
  ⟨checkpoints_stored_of_ne h, refundEvents_stored w'⟩

/-- **A call stores a checkpoint of a workflow that it started.** -/
theorem Owns.put (h : Owns calls i w s)
    (hstarts : Starts calls (s.stored i w completed checkpoint).history i w
      checkpoint.values.request)
    (hinterrupted : checkpoint.interrupted = true →
      checkpoint.next = some .confirmation ∧ checkpoint.values.proposedAction.isSome = true) :
    Guarantee calls i s (s.stored i w completed checkpoint) ∧
      Safe calls (s.stored i w completed checkpoint) ∧
      (checkpoint.interrupted = false → Owns calls i w (s.stored i w completed checkpoint)) := by
  have hsafe : Safe calls (s.stored i w completed checkpoint) := by
    refine h.safe.stored' ?_ ⟨i, hstarts⟩ fun hwaits =>
      ⟨(hinterrupted hwaits).1, (hinterrupted hwaits).2, h.undecided⟩
    rintro j w' request' ⟨hcall, state, hmem, hstate⟩
    rcases List.mem_append.mp hmem with hmem | hmem
    · exact h.safe.drew j w' request' ⟨hcall, state, hmem, hstate⟩
    · cases List.mem_singleton.mp hmem
      exact h.drew
  refine ⟨⟨List.prefix_append .., fun _ => hsafe, fun w' => Or.inl rfl, fun w' => ?_⟩, hsafe,
    fun hrunning => ⟨hsafe, h.drew.mono (List.prefix_append ..), ?_, ?_⟩⟩
  · by_cases hw : w' = w
    · subst hw
      exact Or.inr (Or.inl ⟨h.drew, h.undecided, h.running,
        (refundEvents_stored w').trans h.undecided⟩)
    · exact Or.inl (samePart_stored hw)
  · exact (refundEvents_stored w).trans h.undecided
  · rintro ⟨checkpoint', hcheckpoint, hinterrupt⟩
    rw [checkpoints_stored_self, Option.some.injEq] at hcheckpoint
    rw [← hcheckpoint, hrunning] at hinterrupt
    cases hinterrupt

end Stored

/-! ## A workflow whose lock a call holds -/

variable (calls) in
/-- A call holds the lock of a workflow, and may release it. -/
structure Holds (i : Id) (w : String) (s : Shared World Id) : Prop where
  safe : Safe calls s
  lock : s.locks w = some i
  undecided : s.Interrupted w → refundEvents w s.history = []

variable (calls) in
/-- A call holds the lock of a workflow whose refund it decided, and knows its checkpoint. -/
structure HoldsDecided (i : Id) (w : String) (events : List (Event Id)) (checkpoint : Checkpoint)
    (s : Shared World Id) : Prop where
  safe : Safe calls s
  lock : s.locks w = some i
  refund : refundEvents w s.history = events
  decided : events ≠ []
  stored : s.checkpoints w = some checkpoint

section Locked

variable {w : String} {events : List (Event Id)} {checkpoint : Checkpoint}

theorem Holds.of_rely (h : Holds calls i w s) (hrely : Rely calls i s s') : Holds calls i w s' where
  safe := hrely.safe h.safe
  lock := hrely.lock w h.lock
  undecided := hrely.undecided w h.lock h.undecided

theorem HoldsDecided.of_samePart (h : HoldsDecided calls i w events checkpoint s)
    (hsafe : Safe calls s → Safe calls s') (hlock : s'.locks w = some i) (hsame : s.SamePart s' w) :
    HoldsDecided calls i w events checkpoint s' where
  safe := hsafe h.safe
  lock := hlock
  refund := hsame.2.trans h.refund
  decided := h.decided
  stored := hsame.1.trans h.stored

theorem HoldsDecided.of_rely (h : HoldsDecided calls i w events checkpoint s)
    (hrely : Rely calls i s s') : HoldsDecided calls i w events checkpoint s' :=
  h.of_samePart hrely.safe (hrely.lock w h.lock)
    (hrely.held w h.lock (Or.inr (by rw [h.refund]; exact h.decided)))

theorem HoldsDecided.holds (h : HoldsDecided calls i w events checkpoint s)
    (hrunning : checkpoint.interrupted = false) : Holds calls i w s where
  safe := h.safe
  lock := h.lock
  undecided := by
    rintro ⟨checkpoint', hcheckpoint, hinterrupt⟩
    rw [h.stored, Option.some.injEq] at hcheckpoint
    rw [← hcheckpoint, hrunning] at hinterrupt
    cases hinterrupt

/-- A quiet call of the holder. -/
theorem Holds.quiet {env : Environment World} {op : Op} {answer : Except PyError op.Answer}
    (h : Holds calls i w s) (hperforms : Performs env i s op answer s') (hquiet : op.Quiet) :
    Holds calls i w s' where
  safe := (hperforms.guarantee hquiet).safe h.safe
  lock := by rw [(hperforms.quiet hquiet).2.1, h.lock]
  undecided := by
    have hsame := hperforms.samePart hquiet w
    rw [hsame.interrupted_iff, hsame.2]
    exact h.undecided

theorem HoldsDecided.quiet {env : Environment World} {op : Op} {answer : Except PyError op.Answer}
    (h : HoldsDecided calls i w events checkpoint s) (hperforms : Performs env i s op answer s')
    (hquiet : op.Quiet) : HoldsDecided calls i w events checkpoint s' :=
  h.of_samePart (hperforms.guarantee hquiet).safe
    (by rw [(hperforms.quiet hquiet).2.1, h.lock]) (hperforms.samePart hquiet w)

/-- **A call takes a free lock.** -/
theorem Safe.acquire (hsafe : Safe calls s) (hfree : s.locks w = none) :
    Guarantee calls i s ((s.withLock w (some i)).record i (.acquire w) (.ok ())) ∧
      Holds calls i w ((s.withLock w (some i)).record i (.acquire w) (.ok ())) := by
  have hrefund : ∀ w', refundEvents w' (s.history ++ [⟨i, .acquire w, .ok ()⟩]) =
      refundEvents w' s.history := fun w' => refundEvents_concat_of_not rfl
  have hlock : ((s.withLock w (some i)).record i (.acquire w) (.ok ())).locks w = some i :=
    Function.update_self ..
  have hlocks : ∀ w', w' ≠ w →
      ((s.withLock w (some i)).record i (.acquire w) (.ok ())).locks w' = s.locks w' :=
    fun w' hw => Function.update_of_ne hw ..
  have hsafe' : Safe calls ((s.withLock w (some i)).record i (.acquire w) (.ok ())) := by
    refine hsafe.concat rfl trivial rfl (fun w' hconcerns => by cases hconcerns)
      (fun w' hnone hwaits => ?_) trivial
    refine (hrefund w').trans ?_
    by_cases hw : w' = w
    · rw [hw, hlock] at hnone
      cases hnone
    · rw [hlocks w' hw] at hnone
      exact hsafe.unlocked w' hnone hwaits
  refine ⟨⟨List.prefix_append .., fun _ => hsafe', fun w' => ?_,
      fun w' => Or.inl ⟨rfl, hrefund w'⟩⟩,
    hsafe', hlock, fun hwaits => (hrefund w).trans (hsafe.unlocked w hfree hwaits)⟩
  by_cases hw : w' = w
  · rw [hw]
    exact Or.inr (Or.inl hfree)
  · exact Or.inl (hlocks w' hw)

/-- **The holder releases its lock.** -/
theorem Holds.release (h : Holds calls i w s) :
    Guarantee calls i s ((s.withLock w none).record i (.release w) (.ok ())) ∧
      Safe calls ((s.withLock w none).record i (.release w) (.ok ())) := by
  have hrefund : ∀ w', refundEvents w' (s.history ++ [⟨i, .release w, .ok ()⟩]) =
      refundEvents w' s.history := fun w' => refundEvents_concat_of_not rfl
  have hlocks : ∀ w', w' ≠ w →
      ((s.withLock w none).record i (.release w) (.ok ())).locks w' = s.locks w' :=
    fun w' hw => Function.update_of_ne hw ..
  have hsafe' : Safe calls ((s.withLock w none).record i (.release w) (.ok ())) := by
    refine h.safe.concat rfl trivial rfl (fun w' hconcerns => by cases hconcerns)
      (fun w' hnone hwaits => ?_) trivial
    refine (hrefund w').trans ?_
    by_cases hw : w' = w
    · rw [hw] at hwaits ⊢
      exact h.undecided hwaits
    · rw [hlocks w' hw] at hnone
      exact h.safe.unlocked w' hnone hwaits
  refine ⟨⟨List.prefix_append .., fun _ => hsafe', fun w' => ?_,
      fun w' => Or.inl ⟨rfl, hrefund w'⟩⟩,
    hsafe'⟩
  by_cases hw : w' = w
  · rw [hw]
    exact Or.inr (Or.inr h.lock)
  · exact Or.inl (hlocks w' hw)

/-- The event of a refund, by the holder of the lock of a workflow that is stored. -/
theorem Safe.refund {event : Event Id} (h : Safe calls s)
    (hhistory : s'.history = s.history ++ [event]) (hlock : s.locks w = some i)
    (hstored : s.checkpoints w ≠ none) (hplain : event.op.Plain)
    (hconcerns : ∀ w', concernsRefund w' event = true ↔ w = w')
    (hwaits : s.Interrupted w ∨ refundEvents w s.history ≠ [])
    (hjustified : Justified calls s.history event) (hcheckpoints : s'.checkpoints = s.checkpoints)
    (hlocks : s'.locks = s.locks) :
    Guarantee calls i s s' ∧ Safe calls s' ∧
      refundEvents w s'.history = refundEvents w s.history ++ [event] := by
  have hother : ∀ w', w' ≠ w → refundEvents w' s'.history = refundEvents w' s.history := by
    intro w' hw
    rw [hhistory]
    exact refundEvents_concat_of_not
      (Bool.eq_false_iff.mpr fun h => hw ((hconcerns w').mp h).symm)
  have hsafe' : Safe calls s' := by
    refine h.concat hhistory hplain hcheckpoints (fun w' hw => ?_) (fun w' hnone hwaits => ?_)
      hjustified
    · rw [← (hconcerns w').mp hw]
      exact hstored
    · have hw : w' ≠ w := by
        rintro rfl
        rw [hlocks, hlock] at hnone
        cases hnone
      rw [hother w' hw]
      rw [hlocks] at hnone
      exact h.unlocked w' hnone hwaits
  refine ⟨⟨by rw [hhistory]; exact List.prefix_append .., fun _ => hsafe',
    fun w' => Or.inl (by rw [hlocks]), fun w' => ?_⟩, hsafe', ?_⟩
  · by_cases hw : w' = w
    · rw [hw]
      exact Or.inr (Or.inr ⟨hlock, hwaits⟩)
    · exact Or.inl ⟨by rw [hcheckpoints], hother w' hw⟩
  · rw [hhistory, refundEvents_concat, if_pos ((hconcerns w).mpr rfl)]

/-- **The holder decides the refund** of a workflow that waits. -/
theorem Holds.resume (h : Holds calls i w s) {decision : ResumeDecision}
    (hcheckpoint : s.checkpoints w = some checkpoint)
    (haccepted : Accepted calls s.history i w decision checkpoint) :
    Guarantee calls i s (s.record i (.resume w decision) (.ok (s.checkpoints w))) ∧
      HoldsDecided calls i w [⟨i, .resume w decision, .ok (some checkpoint)⟩] checkpoint
        (s.record i (.resume w decision) (.ok (s.checkpoints w))) := by
  have hwaits : s.Interrupted w := ⟨checkpoint, hcheckpoint, haccepted.interrupted⟩
  have hhistory : (s.record i (.resume w decision) (.ok (s.checkpoints w))).history =
      s.history ++ [⟨i, .resume w decision, .ok (s.checkpoints w)⟩] := rfl
  obtain ⟨hguarantee, hsafe, hevents⟩ := h.safe.refund hhistory h.lock
    (by rw [hcheckpoint]; exact Option.some_ne_none _) trivial (fun w' => decide_eq_true_iff)
    (Or.inl hwaits) ⟨checkpoint, by rw [hcheckpoint], haccepted⟩ rfl rfl
  refine ⟨hguarantee, hsafe, h.lock, ?_, List.cons_ne_nil _ _, hcheckpoint⟩
  rw [hevents, h.undecided hwaits, hcheckpoint]
  rfl

/-- **The holder executes the refund** that it decided to confirm. -/
theorem HoldsDecided.execute {env : Environment World} {decision : ResumeDecision}
    {snapshot : Checkpoint} {actorId orderId : Uuid} {proposal : ProposedAction}
    {answer : Except PyError OrderRead}
    (h : HoldsDecided calls i w [⟨i, .resume w decision, .ok (some snapshot)⟩] checkpoint s)
    (hconfirm : decision.decision = ConfirmationDecision.confirm.value)
    (hactor : snapshot.values.request.actorId = actorId)
    (hproposal : snapshot.values.proposedAction = some proposal)
    (horder : proposal.orderId = orderId)
    (hperforms : Performs env i s (.dependency w (.execute actorId orderId)) answer s') :
    Guarantee calls i s s' ∧
      HoldsDecided calls i w [⟨i, .resume w decision, .ok (some snapshot)⟩,
        ⟨i, .dependency w (.execute actorId orderId), answer⟩] checkpoint s' := by
  cases hperforms with
  | @dependency _ _ _ world hbehaves =>
    have hhistory : ({ s with world := world }.record i (.dependency w (.execute actorId orderId))
        answer).history =
          s.history ++ [⟨i, .dependency w (.execute actorId orderId), answer⟩] := rfl
    obtain ⟨hguarantee, hsafe, hevents⟩ := h.safe.refund hhistory h.lock
      (by rw [h.stored]; exact Option.some_ne_none _) trivial (fun w' => decide_eq_true_iff)
      (Or.inr (by rw [h.refund]; exact h.decided))
      ⟨decision, snapshot, proposal, h.refund, hconfirm, hactor, hproposal, horder⟩ rfl rfl
    refine ⟨hguarantee, hsafe, h.lock, ?_, List.cons_ne_nil _ _, h.stored⟩
    rw [hevents, h.refund]
    rfl

/-- **The holder stores a checkpoint** of a workflow that it decided. -/
theorem HoldsDecided.put {node : Node} {checkpoint' : Checkpoint}
    (h : HoldsDecided calls i w events checkpoint s) (hrunning : checkpoint'.interrupted = false)
    (hrequest : checkpoint'.values.request = checkpoint.values.request) :
    Guarantee calls i s (s.stored i w (some node) checkpoint') ∧
      HoldsDecided calls i w events checkpoint' (s.stored i w (some node) checkpoint') := by
  have hsafe : Safe calls (s.stored i w (some node) checkpoint') := by
    refine h.safe.stored' ?_ ?_ fun hwaits => ?_
    · rintro j w' request ⟨hcall, state, hmem, hstate⟩
      rcases List.mem_append.mp hmem with hmem | hmem
      · exact h.safe.drew j w' request ⟨hcall, state, hmem, hstate⟩
      · cases List.mem_singleton.mp hmem
    · obtain ⟨j, hstarts⟩ := h.safe.started w checkpoint h.stored
      rw [← hrequest] at hstarts
      exact ⟨j, hstarts.mono (List.prefix_append ..)⟩
    · rw [hrunning] at hwaits
      cases hwaits
  have hrefund : refundEvents w (s.stored i w (some node) checkpoint').history = events :=
    (refundEvents_stored w).trans h.refund
  refine ⟨⟨List.prefix_append .., fun _ => hsafe, fun w' => Or.inl rfl, fun w' => ?_⟩, hsafe,
    h.lock, hrefund, h.decided, checkpoints_stored_self⟩
  by_cases hw : w' = w
  · rw [hw]
    exact Or.inr (Or.inr ⟨h.lock, Or.inr (by rw [h.refund]; exact h.decided)⟩)
  · exact Or.inl (samePart_stored hw)

end Locked

end ObservabilityLab.Workflow
