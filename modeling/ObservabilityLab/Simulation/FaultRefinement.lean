import ObservabilityLab.Simulation.Faults

/-!
# Runs behind a fault script

A repository behind a fault script runs exactly the calls that no fault stopped, and consumes its
entries in order. The entries that a sequence of calls meets depend on the script and the calls
alone, not on the repository.

## Main definitions

* `RepositoryCall`, `RepositoryReply`, `runCalls`: the calls of a repository, and a run of them
* `FaultScript.firings`: the entries that a sequence of calls meets
* `FaultScriptEntry.declaredFault`: what an entry declares for a call
* `FaultsDeclared`: the run raises what the script declares, and runs the other calls

## Main results

* `firings_least`, `firings_once`: the least live entry fires, and once unless it repeats
* `runCalls_faulted`: the run behind a script, from the run of the calls that no entry stopped
* `faultsDeclared_iff`: every repository meets its script exactly when no delay overflows
-/

namespace ObservabilityLab

open Python Raising

/-! ## Calls of a repository -/

/-- One call of a repository. -/
inductive RepositoryCall where
  | getOrder (orderId : Uuid)
  | saveOrder (order : OrderRead)
  | refundOrderIfDelivered (orderId customerId : Uuid)
  | createTicket (ticket : TicketCreate)
  | getTicket (ticketId : Uuid)
  | getPolicy (slug : String) (version : Option String)

/-- What a call of a repository returns. -/
inductive RepositoryReply where
  | order (order : Option OrderRead)
  | created (ticket : TicketRead)
  | ticket (ticket : Option TicketRead)
  | policy (policy : Option PolicyDocumentRead)

/-- A call on a repository. -/
def RepositoryCall.on {m : Type → Type} [Monad m] (repository : SupportRepository m) :
    RepositoryCall → m RepositoryReply
  | .getOrder orderId => return .order (← repository.getOrder orderId)
  | .saveOrder order => return .order (← repository.saveOrder order)
  | .refundOrderIfDelivered orderId customerId =>
    return .order (← repository.refundOrderIfDelivered orderId customerId)
  | .createTicket ticket => return .created (← repository.createTicket ticket)
  | .getTicket ticketId => return .ticket (← repository.getTicket ticketId)
  | .getPolicy slug version => return .policy (← repository.getPolicy slug version)

/-- The tool and the arguments of a call at the boundary; reads of tickets are never faulted. -/
def RepositoryCall.boundary : RepositoryCall → Option (String × Record)
  | .getOrder orderId => some ("get_order_status", [("order_id", .str orderId.str)])
  | .saveOrder order => some ("confirm_refund", [("order_id", .str order.id.str)])
  | .refundOrderIfDelivered orderId _ => some ("confirm_refund", [("order_id", .str orderId.str)])
  | .createTicket ticket => some ("escalate", [("subject", .str ticket.subject)])
  | .getTicket _ => none
  | .getPolicy slug version => some ("get_policy",
      ("slug", .str slug) :: (version.map fun v => ("version", PyValue.str v)).toList)

section Runs

variable {World : Type}

/-- The results of a list of calls, one after the other, and the world after them. -/
def runCalls (repository : SupportRepository (Action World)) :
    World → List RepositoryCall → List (Raises RepositoryReply) × World
  | world, [] => ([], world)
  | world, call :: calls =>
    (outcome ((call.on repository).run world) ::
        (runCalls repository (finalState ((call.on repository).run world)) calls).1,
      (runCalls repository (finalState ((call.on repository).run world)) calls).2)

/-- What a call behind a script does, from what the script raises and what the call does in front
of it. -/
def faultedResult {α : Type} (raised : Option PyError) (consumed : List ℕ) (world : World)
    (result : EStateM.Result PyError World α) : EStateM.Result PyError (Faulted World) α :=
  match raised, result with
  | some e, _ => .error e ⟨world, consumed⟩
  | none, .ok a after => .ok a ⟨after, consumed⟩
  | none, .error e after => .error e ⟨after, consumed⟩

theorem outcome_faultedResult {α : Type} (consumed : List ℕ) (world : World)
    (result : EStateM.Result PyError World α) :
    outcome (faultedResult none consumed world result) = outcome result := by
  cases result with
  | ok a after => rfl
  | error e after => rfl

theorem finalState_faultedResult {α : Type} (consumed : List ℕ) (world : World)
    (result : EStateM.Result PyError World α) :
    finalState (faultedResult none consumed world result) = ⟨finalState result, consumed⟩ := by
  cases result with
  | ok a after => rfl
  | error e after => rfl

/-- The elements of a list at which no fault fired. -/
def unfaulted {α : Type} (l : List α) (faults : List (Option PyError)) : List α :=
  ((l.zip faults).filter (·.2.isNone)).map (·.1)

theorem mem_unfaulted {α : Type} {l : List α} {faults : List (Option PyError)} {index : ℕ} {a : α}
    (ha : l[index]? = some a) (hfault : faults[index]? = some none) : a ∈ unfaulted l faults := by
  refine List.mem_map.mpr ⟨(a, none), List.mem_filter.mpr ⟨?_, rfl⟩, rfl⟩
  exact List.mem_of_getElem? (List.getElem?_zip_eq_some.mpr ⟨ha, hfault⟩)

end Runs

/-! ## The entries that a sequence of calls meets -/

/-- An entry with its index in its script. -/
abbrev Firing := FaultScriptEntry × ℕ

section Firings

variable [FloatRepr]

/-- The entry that a call meets. -/
def FaultScript.firing (script : FaultScript) (consumed : List ℕ) (call : RepositoryCall) :
    Option Firing :=
  call.boundary.bind fun boundary => script.nextEntry consumed boundary.1 boundary.2

/-- The consumed entries after a call. -/
def FaultScript.afterCall (script : FaultScript) (consumed : List ℕ) (call : RepositoryCall) :
    List ℕ :=
  match call.boundary with
  | none => consumed
  | some (tool, arguments) => script.consume consumed tool arguments

/-- The entries that a sequence of calls meets, call by call. -/
def FaultScript.firings (script : FaultScript) :
    List ℕ → List RepositoryCall → List (Option Firing)
  | _, [] => []
  | consumed, call :: calls =>
    script.firing consumed call :: script.firings (script.afterCall consumed call) calls

/-- An entry is for the tool of a call, and its arguments are empty or normalize to those of the
call. -/
def FaultScriptEntry.Matches (entry : FaultScriptEntry) (call : RepositoryCall) : Prop :=
  ∃ tool arguments, call.boundary = some (tool, arguments) ∧ entry.tool = tool ∧
    (entry.arguments = [] ∨ ∃ canonical, normalizeArguments entry.arguments = some canonical ∧
      normalizeArguments arguments = some canonical)

theorem matchesCall_iff {entry : FaultScriptEntry} {call : RepositoryCall} {tool : String}
    {arguments : Record} (h : call.boundary = some (tool, arguments)) :
    entry.matchesCall tool arguments = true ↔ entry.Matches call := by
  have hsplit : entry.Matches call ↔ entry.tool = tool ∧ (entry.arguments = [] ∨
      ∃ canonical, normalizeArguments entry.arguments = some canonical ∧
        normalizeArguments arguments = some canonical) := by
    constructor
    · rintro ⟨other, others, hboundary, hmatches⟩
      rw [h, Option.some.injEq, Prod.mk.injEq] at hboundary
      obtain ⟨rfl, rfl⟩ := hboundary
      exact hmatches
    · exact fun hmatches => ⟨tool, arguments, h, hmatches⟩
  rw [hsplit, FaultScriptEntry.matchesCall, Bool.and_eq_true, decide_eq_true_eq, Bool.or_eq_true,
    List.isEmpty_iff]
  refine and_congr_right fun _ => or_congr_right ?_
  cases normalizeArguments entry.arguments with
  | none => simp
  | some canonical => simp

/-- An entry has not fired in a list of firings. -/
def Unused (earlier : List (Option Firing)) (index : ℕ) : Prop :=
  ∀ firing ∈ earlier, ∀ entry, firing ≠ some (entry, index)

/-- **What a call fires**, after earlier firings: the entry of least index among those that match
the call and that repeat or are unused. -/
structure FiresLeast (script : FaultScript) (earlier : List (Option Firing)) (call : RepositoryCall)
    (firing : Option Firing) : Prop where
  fires : ∀ entry index, firing = some (entry, index) →
    script.entries[index]? = some entry ∧ entry.Matches call ∧
      (entry.repeats = true ∨ Unused earlier index)
  least : ∀ entry index, script.entries[index]? = some entry → entry.Matches call →
    (entry.repeats = true ∨ Unused earlier index) →
    ∃ first least, firing = some (first, least) ∧ least ≤ index

variable {script : FaultScript} {consumed : List ℕ} {earlier : List (Option Firing)}
  {call : RepositoryCall} {calls : List RepositoryCall}

/-- The consumed entries are the ones that fired and do not repeat. -/
def Recorded (script : FaultScript) (consumed : List ℕ) (earlier : List (Option Firing)) : Prop :=
  ∀ entry index, script.entries[index]? = some entry → entry.repeats = false →
    (index ∉ consumed ↔ Unused earlier index)

omit [FloatRepr] in
theorem recorded_nil : Recorded script [] [] := fun _ _ _ _ =>
  iff_of_true List.not_mem_nil fun _ h => absurd h List.not_mem_nil

omit [FloatRepr] in
theorem unused_concat {firing : Option Firing} {index : ℕ} :
    Unused (earlier ++ [firing]) index ↔
      Unused earlier index ∧ ∀ entry, firing ≠ some (entry, index) := by
  unfold Unused
  simp only [List.mem_append, List.mem_singleton, or_imp, forall_and, forall_eq]

theorem Recorded.live_iff (h : Recorded script consumed earlier) {tool : String}
    {arguments : Record}
    (hboundary : call.boundary = some (tool, arguments)) {entry : FaultScriptEntry} {index : ℕ}
    (hentry : script.entries[index]? = some entry) :
    FaultScript.Live consumed tool arguments index entry ↔
      entry.Matches call ∧ (entry.repeats = true ∨ Unused earlier index) := by
  rw [FaultScript.Live, matchesCall_iff hboundary]
  refine and_congr_right fun _ => ?_
  cases hrepeats : entry.repeats with
  | true => simp
  | false => simp [h entry index hentry hrepeats]

/-- A call fires the least entry, by what is consumed. -/
theorem Recorded.firesLeast (h : Recorded script consumed earlier) (call : RepositoryCall) :
    FiresLeast script earlier call (script.firing consumed call) := by
  unfold FaultScript.firing
  cases hboundary : call.boundary with
  | none =>
    refine ⟨fun entry index hfiring => (by cases hfiring), fun entry index _ hmatches => ?_⟩
    obtain ⟨tool, arguments, hsome, -⟩ := hmatches
    rw [hboundary] at hsome
    cases hsome
  | some boundary =>
    obtain ⟨tool, arguments⟩ := boundary
    rw [Option.bind_some]
    refine ⟨fun entry index hfiring => ?_, fun entry index hentry hmatches hunused => ?_⟩
    · obtain ⟨hentry, hlive, -⟩ := FaultScript.nextEntry_eq_some.mp hfiring
      exact ⟨hentry, (h.live_iff hboundary hentry).mp hlive⟩
    · have hlive := (h.live_iff hboundary hentry).mpr ⟨hmatches, hunused⟩
      cases hnext : script.nextEntry consumed tool arguments with
      | none => exact absurd hlive (FaultScript.nextEntry_eq_none.mp hnext index entry hentry)
      | some next =>
        obtain ⟨-, -, hleast⟩ := FaultScript.nextEntry_eq_some.mp hnext
        refine ⟨next.1, next.2, rfl, Nat.le_of_not_lt fun hlt => ?_⟩
        exact hleast index hlt entry hentry hlive

/-- What a call consumes is what it fires. -/
theorem mem_afterCall {index : ℕ} : index ∈ script.afterCall consumed call ↔
    index ∈ consumed ∨ ∃ entry, script.firing consumed call = some (entry, index) ∧
      entry.repeats = false := by
  unfold FaultScript.afterCall FaultScript.firing
  cases call.boundary with
  | none => simp
  | some boundary => exact FaultScript.mem_consume

theorem Recorded.afterCall (h : Recorded script consumed earlier) (call : RepositoryCall) :
    Recorded script (script.afterCall consumed call)
      (earlier ++ [script.firing consumed call]) := by
  intro entry index hentry honce
  rw [unused_concat, ← h entry index hentry honce, mem_afterCall, not_or]
  refine and_congr_right fun _ => ?_
  constructor
  · intro hfires other hfiring
    -- the entry that fired is the one of its index
    have hsame := ((h.firesLeast call).fires other index hfiring).1
    rw [hentry, Option.some.injEq] at hsame
    exact hfires ⟨other, hfiring, hsame ▸ honce⟩
  · rintro hfires ⟨other, hfiring, -⟩
    exact hfires other hfiring

theorem firings_append (later : List RepositoryCall) : script.firings consumed (calls ++ later) =
    script.firings consumed calls ++
      script.firings (calls.foldl script.afterCall consumed) later := by
  induction calls generalizing consumed with
  | nil => rfl
  | cons call calls ih =>
    change script.firing consumed call :: script.firings _ (calls ++ later) = _
    rw [ih]
    rfl

theorem recorded_firings (script : FaultScript) (calls : List RepositoryCall) :
    Recorded script (calls.foldl script.afterCall []) (script.firings [] calls) := by
  induction calls using List.reverseRecOn with
  | nil => exact recorded_nil
  | append_singleton calls call ih =>
    rw [List.foldl_concat, firings_append]
    exact ih.afterCall call

/-- **Every call of a sequence fires the least entry** that matches it and that repeats or is
unused. -/
theorem firings_least (script : FaultScript) {before later : List RepositoryCall}
    (h : calls = before ++ call :: later) :
    ∃ firing rest, script.firings [] calls = script.firings [] before ++ firing :: rest ∧
      FiresLeast script (script.firings [] before) call firing := by
  rw [h, firings_append]
  exact ⟨_, _, rfl, (recorded_firings script before).firesLeast call⟩

/-- **An entry that does not repeat fires at most once** over a whole sequence. -/
theorem firings_once (script : FaultScript) (calls : List RepositoryCall) {entry : FaultScriptEntry}
    {index : ℕ} (hentry : script.entries[index]? = some entry) (honce : entry.repeats = false) :
    (script.firings [] calls).countP (·.map Prod.snd = some index) ≤ 1 := by
  induction calls using List.reverseRecOn with
  | nil => exact Nat.zero_le 1
  | append_singleton calls call ih =>
    have hleast := (recorded_firings script calls).firesLeast call
    rw [firings_append, List.countP_append]
    change _ + List.countP _ [script.firing (calls.foldl script.afterCall []) call] ≤ 1
    generalize script.firing (calls.foldl script.afterCall []) call = firing at hleast
    rw [List.countP_singleton]
    split
    · rename_i hfires
      obtain ⟨⟨fired, other⟩, hfiring, hindex⟩ :=
        Option.map_eq_some_iff.mp (of_decide_eq_true hfires)
      obtain rfl : other = index := hindex
      obtain ⟨hfired, -, hunused⟩ := hleast.fires fired other hfiring
      rw [hentry, Option.some.injEq] at hfired
      have hnew : Unused (script.firings [] calls) other := by
        refine hunused.resolve_left fun hrepeats => ?_
        rw [← hfired, honce] at hrepeats
        cases hrepeats
      rw [List.countP_eq_zero.mpr ?_]
      intro earlier hmem hearlier
      obtain ⟨⟨again, index⟩, hagain, hsame⟩ :=
        Option.map_eq_some_iff.mp (of_decide_eq_true hearlier)
      obtain rfl : index = other := hsame
      exact hnew earlier hmem again hagain
    · exact ih

end Firings

/-! ## What a script declares -/

section Runs

variable [UnicodeTables] [FloatRepr] {World : Type}

/-- What an entry declares for a call that fires it: an error, or nothing for a delay. -/
def FaultScriptEntry.declaredFault (entry : FaultScriptEntry) (dependency : String) :
    Option PyError :=
  match entry.kind with
  | .timeout => some (.other "TimeoutError" ("injected timeout for tool " ++ reprText entry.tool))
  | .transientError =>
    some (.other "ConnectionError" ("injected transient error for tool " ++ reprText entry.tool))
  | .malformedResponse => some (malformedResponse dependency entry.tool)
  | .delay => none

/-- A delay whose milliseconds are too large for a float. -/
def FaultScriptEntry.overflows (entry : FaultScriptEntry) : Bool :=
  entry.kind = .delay && !(PyFloat.ofRat (entry.delayMs.getD 0)).isFinite

omit [FloatRepr] in
/-- An entry raises what it declares, unless its delay overflows. -/
theorem error_eq_declaredFault {entry : FaultScriptEntry} (dependency : String)
    (h : entry.overflows = false) :
    entry.error dependency entry.tool = entry.declaredFault dependency := by
  unfold FaultScriptEntry.overflows at h
  unfold FaultScriptEntry.error FaultScriptEntry.declaredFault
  cases hkind : entry.kind with
  | timeout => rfl
  | transientError => rfl
  | malformedResponse => rfl
  | delay =>
    rw [hkind] at h
    dsimp only
    rw [if_pos (by simpa using h)]

omit [FloatRepr] in
theorem error_of_overflows {entry : FaultScriptEntry} (dependency : String)
    (h : entry.overflows = true) :
    (∃ e, entry.error dependency entry.tool = some e) ∧ entry.declaredFault dependency = none := by
  rw [FaultScriptEntry.overflows, Bool.and_eq_true, decide_eq_true_eq, Bool.not_eq_true'] at h
  unfold FaultScriptEntry.error FaultScriptEntry.declaredFault
  rw [h.1]
  dsimp only
  rw [if_neg (by rw [h.2]; decide)]
  exact ⟨⟨_, rfl⟩, rfl⟩

/-- What a firing raises. -/
def FaultScript.raised (script : FaultScript) (firing : Option Firing) : Option PyError :=
  firing.bind fun fired => fired.1.error script.dependency fired.1.tool

/-- What a script declares for the calls of a sequence. -/
def FaultScript.declaredFaults (script : FaultScript) (calls : List RepositoryCall) :
    List (Option PyError) :=
  (script.firings [] calls).map (·.bind (·.1.declaredFault script.dependency))

theorem raised_nextEntry (script : FaultScript) (consumed : List ℕ) (tool : String)
    (arguments : Record) : script.raised (script.nextEntry consumed tool arguments) =
      script.nextError consumed tool arguments := by
  unfold FaultScript.nextError FaultScript.raised
  cases hnext : script.nextEntry consumed tool arguments with
  | none => rfl
  | some next =>
    have hmatches := (FaultScript.nextEntry_eq_some.mp hnext).2.1.1
    rw [FaultScriptEntry.matchesCall, Bool.and_eq_true, decide_eq_true_eq] at hmatches
    rw [Option.bind_some, Option.bind_some, hmatches.1]

theorem run_maybeFault (script : FaultScript) (tool : String) (arguments : Record) (world : World)
    (consumed : List ℕ) :
    (maybeFault script tool arguments).run ⟨world, consumed⟩ =
      faultedResult (script.nextError consumed tool arguments)
        (script.consume consumed tool arguments) world (.ok () world) := by
  unfold maybeFault
  cases hnext : script.nextError consumed tool arguments with
  | none => simp [hnext, faultedResult]
  | some e => simp [hnext, faultedResult]

/-- A call behind a script, with a function of what it returns. -/
theorem run_faulted {α β : Type} (script : FaultScript) (tool : String) (arguments : Record)
    (x : Action World α) (f : α → β) (world : World) (consumed : List ℕ) :
    ((do maybeFault script tool arguments; Faulted.onInner x) >>= fun a => pure (f a)).run
        ⟨world, consumed⟩ =
      faultedResult (script.raised (script.nextEntry consumed tool arguments))
        (script.consume consumed tool arguments) world ((x >>= fun a => pure (f a)).run world) := by
  simp only [raised_nextEntry, EStateM.run_bind, run_maybeFault]
  cases script.nextError consumed tool arguments with
  | some e => rfl
  | none =>
    simp only [faultedResult, Faulted.onInner, run_zoom]
    cases x.run world with
    | ok a after => rfl
    | error e after => rfl

/-- **A call behind a script** raises what it fires, or does what it does in front of it. -/
theorem run_on_faultInjecting (script : FaultScript) (repository : SupportRepository (Action World))
    (call : RepositoryCall) (world : World) (consumed : List ℕ) :
    (call.on (faultInjectingRepository script repository)).run ⟨world, consumed⟩ =
      faultedResult (script.raised (script.firing consumed call)) (script.afterCall consumed call)
        world ((call.on repository).run world) := by
  cases call with
  | getOrder orderId => exact run_faulted ..
  | saveOrder order => exact run_faulted ..
  | refundOrderIfDelivered orderId customerId => exact run_faulted ..
  | createTicket ticket => exact run_faulted ..
  | getTicket ticketId =>
    change EStateM.run (Faulted.onInner (repository.getTicket ticketId) >>= fun a => _) _ =
      faultedResult none consumed world
        (EStateM.run (repository.getTicket ticketId >>= fun a => _) _)
    rw [EStateM.run_bind, EStateM.run_bind, Faulted.onInner, run_zoom]
    cases (repository.getTicket ticketId).run world with
    | ok ticket after => rfl
    | error e after => rfl
  | getPolicy slug version => exact run_faulted ..

/-- **The run behind a script**, from the run of the calls that no entry stopped. -/
theorem runCalls_faulted (script : FaultScript) (repository : SupportRepository (Action World))
    (calls : List RepositoryCall) (world : World) (consumed : List ℕ) :
    unfaulted (runCalls (faultInjectingRepository script repository) ⟨world, consumed⟩ calls).1
        ((script.firings consumed calls).map script.raised) =
      (runCalls repository world
        (unfaulted calls ((script.firings consumed calls).map script.raised))).1 ∧
    (runCalls (faultInjectingRepository script repository) ⟨world, consumed⟩ calls).2.inner =
      (runCalls repository world
        (unfaulted calls ((script.firings consumed calls).map script.raised))).2 ∧
    ∀ (index : ℕ) (e : PyError),
      ((script.firings consumed calls).map script.raised)[index]? = some (some e) →
      (runCalls (faultInjectingRepository script repository) ⟨world, consumed⟩ calls).1[index]? =
        some (Except.error e) := by
  induction calls generalizing world consumed with
  | nil => exact ⟨rfl, rfl, fun index e h => by cases h⟩
  | cons call calls ih =>
    have hrun := run_on_faultInjecting script repository call world consumed
    simp only [FaultScript.firings, List.map_cons, runCalls, hrun]
    cases hraised : script.raised (script.firing consumed call) with
    | some e =>
      -- the call does not reach the repository
      obtain ⟨hanswers, hstate, hfaults⟩ := ih world (script.afterCall consumed call)
      refine ⟨hanswers, hstate, fun index e' h => ?_⟩
      cases index with
      | zero =>
        rw [List.getElem?_cons_zero, Option.some.injEq, Option.some.injEq] at h
        rw [List.getElem?_cons_zero, ← h]
        rfl
      | succ index => exact hfaults index e' h
    | none =>
      rw [outcome_faultedResult, finalState_faultedResult]
      obtain ⟨hanswers, hstate, hfaults⟩ :=
        ih (finalState ((call.on repository).run world)) (script.afterCall consumed call)
      refine ⟨congrArg _ hanswers, hstate, fun index e h => ?_⟩
      cases index with
      | zero => cases h
      | succ index => exact hfaults index e h

/-- **A run does what its script declares**: a call that fires an error raises it and does not reach
the repository, and the other calls do what they do in front of the script. -/
structure FaultsDeclared (script : FaultScript) (calls : List RepositoryCall)
    (repository : SupportRepository (Action World)) (world : World) : Prop where
  answers : unfaulted (runCalls (faultInjectingRepository script repository) ⟨world, []⟩ calls).1
      (script.declaredFaults calls) =
    (runCalls repository world (unfaulted calls (script.declaredFaults calls))).1
  state : (runCalls (faultInjectingRepository script repository) ⟨world, []⟩ calls).2.inner =
    (runCalls repository world (unfaulted calls (script.declaredFaults calls))).2
  faults : ∀ (index : ℕ) (e : PyError), (script.declaredFaults calls)[index]? = some (some e) →
    (runCalls (faultInjectingRepository script repository) ⟨world, []⟩ calls).1[index]? =
      some (Except.error e)
  /-- A call fires the least entry that matches it and that repeats or is unused. -/
  least : ∀ before call later, calls = before ++ call :: later →
    ∃ firing rest, script.firings [] calls = script.firings [] before ++ firing :: rest ∧
      FiresLeast script (script.firings [] before) call firing
  /-- An entry that does not repeat fires at most once. -/
  once : ∀ index entry, script.entries[index]? = some entry → entry.repeats = false →
    (script.firings [] calls).countP (·.map Prod.snd = some index) ≤ 1

/-- A repository without rows, which always returns. -/
def emptyRepository : SupportRepository (Action Unit) where
  getOrder _ := pure none
  saveOrder _ := pure none
  refundOrderIfDelivered _ _ := pure none
  createTicket ticket := pure
    { id := .repeated 0
      customerId := ticket.customerId
      orderId := ticket.orderId
      subject := ticket.subject
      status := ticket.status
      validSubject := ticket.validSubject }
  getTicket _ := pure none
  getPolicy _ _ := pure none

omit [UnicodeTables] [FloatRepr] in
theorem error_notMem_runCalls_empty (calls : List RepositoryCall) (e : PyError) :
    Except.error e ∉ (runCalls emptyRepository () calls).1 := by
  induction calls with
  | nil => exact List.not_mem_nil
  | cons call calls ih =>
    intro hmem
    rcases List.mem_cons.mp hmem with hhead | htail
    · cases call <;> cases hhead
    · exact ih htail

/-- **When every run behind a script does what the script declares**: exactly when no call fires a
delay whose milliseconds overflow a float. -/
theorem faultsDeclared_iff (script : FaultScript) (calls : List RepositoryCall) :
    (∀ (World : Type) (repository : SupportRepository (Action World)) (world : World),
        FaultsDeclared script calls repository world) ↔
      ∀ entry index, some (entry, index) ∈ script.firings [] calls → entry.overflows = false := by
  constructor
  · intro hdeclared entry index hfired
    by_contra hoverflows
    obtain ⟨⟨e, herror⟩, hnone⟩ :=
      error_of_overflows script.dependency (Bool.eq_true_of_not_eq_false hoverflows)
    obtain ⟨position, hposition⟩ := List.mem_iff_getElem?.mp hfired
    -- the delayed call raises, although the repository would have returned
    have hanswer := (runCalls_faulted script emptyRepository calls () []).2.2 position e (by
      rw [List.getElem?_map, hposition, Option.map_some, FaultScript.raised, Option.bind_some,
        herror])
    have hundeclared : (script.declaredFaults calls)[position]? = some none := by
      rw [FaultScript.declaredFaults, List.getElem?_map, hposition, Option.map_some,
        Option.bind_some, hnone]
    have hmem := mem_unfaulted hanswer hundeclared
    rw [(hdeclared Unit emptyRepository ()).answers] at hmem
    exact error_notMem_runCalls_empty _ e hmem
  · intro hfits World repository world
    have hraised : script.declaredFaults calls = (script.firings [] calls).map script.raised := by
      refine List.map_congr_left fun firing hmem => ?_
      cases firing with
      | none => rfl
      | some fired => exact (error_eq_declaredFault _ (hfits fired.1 fired.2 hmem)).symm
    have hrun := runCalls_faulted script repository calls world []
    rw [← hraised] at hrun
    exact {
      answers := hrun.1
      state := hrun.2.1
      faults := hrun.2.2
      least := fun before call later h => firings_least script h
      once := fun index entry hentry honce => firings_once script calls hentry honce }

end Runs

/-! ### A delay that overflows -/

section Overflow

attribute [local instance] asciiTables oneDecimalRepr

theorem delay_valid (milliseconds : ℕ) :
    (FaultKind.delay = .delay) = ((some milliseconds).isSome = true) := by
  simp

/-- A script that delays the first read of an order. -/
def delayScript (milliseconds : ℕ) : FaultScript where
  scriptVersion := "1"
  dependency := "support.database"
  entries := [{
    kind := .delay
    tool := "get_order_status"
    delayMs := some milliseconds
    validDelay := delay_valid milliseconds }]

/-- A read that is delayed by `2 ** 1024` milliseconds raises, and does not reach the
repository. -/
theorem not_faultsDeclared_longDelay :
    ¬ FaultsDeclared (delayScript (2 ^ 1024)) [.getOrder (.repeated 0)] emptyRepository () := by
  intro hdeclared
  have hanswers := hdeclared.answers
  have hdelayed : (delayScript (2 ^ 1024)).declaredFaults [.getOrder (.repeated 0)] = [none] := by
    decide +kernel
  have hraised : (runCalls (faultInjectingRepository (delayScript (2 ^ 1024)) emptyRepository)
      ⟨(), []⟩ [.getOrder (.repeated 0)]).1.map Except.isOk = [false] := by
    decide +kernel
  rw [hdelayed] at hanswers
  replace hanswers := congrArg (List.map Except.isOk) hanswers
  change List.map Except.isOk (runCalls (faultInjectingRepository (delayScript (2 ^ 1024))
    emptyRepository) ⟨(), []⟩ [.getOrder (.repeated 0)]).1 = [true] at hanswers
  rw [hraised] at hanswers
  cases hanswers

end Overflow

end ObservabilityLab
