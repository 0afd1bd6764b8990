import ObservabilityLab.Library.RelyGuarantee
import ObservabilityLab.Workflow.Service

/-!
# The runtime of the workflow service

Any calls of the service run at the same time. Each of their calls, to a dependency, to the
checkpoints, to a lock or to a clock, is one step, and the steps interleave in any order.

## Main definitions

* `Environment`: what the code outside the workflow may do
* `Shared`: what the calls of the service share
* `Performs`: what each call does
* `servicePool`, `ServiceRun`: calls of the service that run at the same time
-/

namespace ObservabilityLab.Workflow

open Python Interleaving

variable {World Id : Type}

/-- One call that was answered, by its caller. -/
structure Event (Id : Type) where
  caller : Id
  op : Op
  answer : Except PyError op.Answer

/-- What the code outside the workflow may do. -/
structure Environment (World : Type) where
  /-- How a dependency may answer, and how it may leave the world. -/
  behaves : World → (call : Dependency) → Except PyError call.Answer → World → Prop
  /-- What `uuid4()` may draw after other identifiers. -/
  draws : List Uuid → Uuid → Prop

/-- What the calls of the service share: the world of the dependencies, the checkpoints, the holders
of the locks, the attempts of the nodes, and the calls that were answered. -/
structure Shared (World Id : Type) where
  world : World
  checkpoints : String → Option Checkpoint := fun _ => none
  locks : String → Option Id := fun _ => none
  attempts : String → Node → ℕ := fun _ _ => 0
  history : List (Event Id) := []

/-- The identifiers that were drawn. -/
def drawn (history : List (Event Id)) : List Uuid :=
  history.filterMap fun event =>
    match event with
    | ⟨_, .uuid4, .ok u⟩ => some u
    | _ => none

namespace Shared

variable (s : Shared World Id)

/-- The state with one more answered call. -/
def record (i : Id) (op : Op) (answer : Except PyError op.Answer) : Shared World Id :=
  { s with history := s.history ++ [⟨i, op, answer⟩] }

def withCheckpoint (thread : String) (checkpoint : Checkpoint) : Shared World Id :=
  { s with checkpoints := Function.update s.checkpoints thread (some checkpoint) }

/-- The state after a checkpoint was stored. -/
def stored (i : Id) (thread : String) (completed : Option Node) (checkpoint : Checkpoint) :
    Shared World Id :=
  (s.withCheckpoint thread checkpoint).record i (.put thread completed checkpoint) (.ok ())

def withLock (thread : String) (holder : Option Id) : Shared World Id :=
  { s with locks := Function.update s.locks thread holder }

def withAttempt (runId : String) (node : Node) : Shared World Id :=
  { s with
    attempts := Function.update s.attempts runId
      (Function.update (s.attempts runId) node (s.attempts runId node + 1)) }

end Shared

/-- **What the calls do.** A dependency answers as its environment allows; checkpoints, locks and
attempts are kept exactly. -/
inductive Performs (env : Environment World) (i : Id) :
    Shared World Id → (op : Op) → Except PyError op.Answer → Shared World Id → Prop where
  | dependency {s : Shared World Id} {thread : String} {call : Dependency}
      {answer : Except PyError call.Answer} {world : World}
      (hbehaves : env.behaves s.world call answer world) :
      Performs env i s (.dependency thread call) answer
        ({ s with world := world }.record i (.dependency thread call) answer)
  | nextAttempt {s : Shared World Id} (runId : String) (node : Node) :
      Performs env i s (.nextAttempt runId node) (.ok (s.attempts runId node + 1))
        ((s.withAttempt runId node).record i (.nextAttempt runId node)
          (.ok (s.attempts runId node + 1)))
  | now {s : Shared World Id} (time : DateTime) :
      Performs env i s .now (.ok time) (s.record i .now (.ok time))
  | task {s : Shared World Id} (thread : String) (node : Node) :
      Performs env i s (.task thread node) (.ok ()) (s.record i (.task thread node) (.ok ()))
  | put {s : Shared World Id} (thread : String) (completed : Option Node)
      (checkpoint : Checkpoint) :
      Performs env i s (.put thread completed checkpoint) (.ok ())
        ((s.withCheckpoint thread checkpoint).record i (.put thread completed checkpoint) (.ok ()))
  | getState {s : Shared World Id} (thread : String) :
      Performs env i s (.getState thread) (.ok (s.checkpoints thread))
        (s.record i (.getState thread) (.ok (s.checkpoints thread)))
  | resume {s : Shared World Id} (thread : String) (decision : ResumeDecision) :
      Performs env i s (.resume thread decision) (.ok (s.checkpoints thread))
        (s.record i (.resume thread decision) (.ok (s.checkpoints thread)))
  | uuid4 {s : Shared World Id} {u : Uuid} (hdraws : env.draws (drawn s.history) u) :
      Performs env i s .uuid4 (.ok u) (s.record i .uuid4 (.ok u))
  | clock {s : Shared World Id} (time : DateTime) :
      Performs env i s .clock (.ok time) (s.record i .clock (.ok time))
  | acquire {s : Shared World Id} {thread : String} (hfree : s.locks thread = none) :
      Performs env i s (.acquire thread) (.ok ())
        ((s.withLock thread (some i)).record i (.acquire thread) (.ok ()))
  | release {s : Shared World Id} (thread : String) :
      Performs env i s (.release thread) (.ok ())
        ((s.withLock thread none).record i (.release thread) (.ok ()))

/-- Calls of the service, before their first steps. -/
def servicePool [ValidationTexts] (ttl : ℤ) (calls : Id → ServiceCall) (world : World) :
    Pool Id (Shared World Id) (Flow WorkflowResponse) where
  shared := { world := world }
  locals i := (calls i).program ttl

/-- A run of calls of the service, in any interleaving, up to a pool. -/
def ServiceRun [ValidationTexts] [DecidableEq Id] (env : Environment World) (ttl : ℤ)
    (calls : Id → ServiceCall) (world : World)
    (p : Pool Id (Shared World Id) (Flow WorkflowResponse)) : Prop :=
  Relation.ReflTransGen (RelyGuarantee.Steps (Performs env)) (servicePool ttl calls world) p

end ObservabilityLab.Workflow
