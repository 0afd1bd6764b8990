import ObservabilityLab.Errors

/-!
# Agent turns

The typed request and response of one support turn, with the stable values of their enumerations.
Of a response the model keeps what the runner and the comparisons read: its intent, outcome and
reason code.
-/

namespace ObservabilityLab

open Python

inductive RouteIntent where
  | refund | orderStatus | policy | escalate
deriving DecidableEq

inductive SupportOutcome where
  | completed | blocked | escalated | failed
deriving DecidableEq

inductive ReasonCode where
  | orderStatusOk | orderNotFound | forbidden | policyAnswer | policyAnswerUngrounded
  | refundProposed | refundConfirmed | refundBlockedUnconfirmed | refundBlockedIneligible
  | refundBlockedForbidden | refundBlockedMissingReference | escalated | escalatedMissingReference
  | modelError | toolError | timeout | okWithRetry | okSlow
deriving DecidableEq

def RouteIntent.value : RouteIntent → String
  | refund => "refund"
  | orderStatus => "order_status"
  | policy => "policy"
  | escalate => "escalate"

def SupportOutcome.value : SupportOutcome → String
  | completed => "completed"
  | blocked => "blocked"
  | escalated => "escalated"
  | failed => "failed"

def ReasonCode.value : ReasonCode → String
  | orderStatusOk => "order_status_ok"
  | orderNotFound => "order_not_found"
  | forbidden => "forbidden"
  | policyAnswer => "policy_answer"
  | policyAnswerUngrounded => "policy_answer_ungrounded"
  | refundProposed => "refund_proposed"
  | refundConfirmed => "refund_confirmed"
  | refundBlockedUnconfirmed => "refund_blocked_unconfirmed"
  | refundBlockedIneligible => "refund_blocked_ineligible"
  | refundBlockedForbidden => "refund_blocked_forbidden"
  | refundBlockedMissingReference => "refund_blocked_missing_reference"
  | escalated => "escalated"
  | escalatedMissingReference => "escalated_missing_reference"
  | modelError => "model_error"
  | toolError => "tool_error"
  | timeout => "timeout"
  | okWithRetry => "ok_with_retry"
  | okSlow => "ok_slow"

/-- One customer turn. -/
structure SupportRequest where
  customerId : Uuid
  message : String
  refundConfirmed : Bool
  messageLength : lengthWithin 1 2000 message = true

/-- The result of one support turn. -/
structure SupportResponse where
  intent : RouteIntent
  outcome : SupportOutcome
  reasonCode : ReasonCode
deriving DecidableEq

end ObservabilityLab
