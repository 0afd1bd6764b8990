import ObservabilityLab.Errors
import ObservabilityLab.Python.Decimal

/-!
# Support records

The customer, order, ticket and policy records of the support domain. An `OrderRead` carries a
valid amount and a `TicketRead` a valid subject, so that an invalid record cannot be built;
`invalidFields` is what pydantic reports when a record arrives as an untyped dictionary.
-/

namespace ObservabilityLab

open Python

inductive OrderStatus where
  | pending | processing | shipped | delivered | cancelled | refunded
deriving DecidableEq

inductive TicketStatus where
  | open | inProgress | resolved | closed
deriving DecidableEq

namespace OrderStatus

def value : OrderStatus → String
  | pending => "pending"
  | processing => "processing"
  | shipped => "shipped"
  | delivered => "delivered"
  | cancelled => "cancelled"
  | refunded => "refunded"

/-- `OrderStatus(text)`; `none` is a `ValueError`. -/
def ofValue (text : String) : Option OrderStatus :=
  [pending, processing, shipped, delivered, cancelled, refunded].find? (·.value = text)

@[simp] theorem ofValue_value (s : OrderStatus) : ofValue s.value = some s := by
  cases s <;> decide +kernel

end OrderStatus

namespace TicketStatus

def value : TicketStatus → String
  | «open» => "open"
  | inProgress => "in_progress"
  | resolved => "resolved"
  | closed => "closed"

/-- `TicketStatus(text)`; `none` is a `ValueError`. -/
def ofValue (text : String) : Option TicketStatus :=
  [«open», inProgress, resolved, closed].find? (·.value = text)

@[simp] theorem ofValue_value (s : TicketStatus) : ofValue s.value = some s := by
  cases s <;> decide +kernel

end TicketStatus

/-- `Field(ge=0, max_digits=12, decimal_places=2)`; trailing zeros do not count as digits. -/
def isAmount (d : Decimal) : Bool :=
  0 ≤ d.toRat && d.toRat < 10 ^ 10 && (d.toRat * 100).isInt

structure OrderRead where
  id : Uuid
  customerId : Uuid
  status : OrderStatus
  totalAmount : Decimal
  validAmount : isAmount totalAmount = true
deriving DecidableEq

structure TicketRead where
  id : Uuid
  customerId : Uuid
  orderId : Option Uuid
  subject : String
  status : TicketStatus
  validSubject : lengthWithin 1 300 subject = true
deriving DecidableEq

structure PolicyDocumentRead where
  id : Uuid
  slug : String
  version : String
  title : String
  content : String
  contentHash : String
deriving DecidableEq

/-- `OrderRead(...)` -/
def OrderRead.new (id customerId : Uuid) (status : OrderStatus) (totalAmount : Decimal) :
    Raises OrderRead :=
  if h : isAmount totalAmount = true then .ok ⟨id, customerId, status, totalAmount, h⟩
  else .error (.validation "OrderRead" "total_amount")

/-- `TicketRead(...)` -/
def TicketRead.new (id customerId : Uuid) (orderId : Option Uuid) (subject : String)
    (status : TicketStatus) : Raises TicketRead :=
  if h : lengthWithin 1 300 subject = true then .ok ⟨id, customerId, orderId, subject, status, h⟩
  else .error (.validation "TicketRead" "subject")

/-! ## Records that arrive as dictionaries -/

/-- A dictionary with text keys. -/
abbrev Record := List (String × PyValue)

def isUuidValue : PyValue → Bool
  | .uuid _ => true
  | .str s => (Uuid.read s).isSome
  | _ => false

def isText (p : String → Bool) : PyValue → Bool
  | .str s => p s
  | _ => false

section RecordModels

variable [FloatRepr]

/-- What pydantic accepts as a `Decimal`: text, an integer, or a float through its text. -/
def isAmountValue : PyValue → Bool
  | .str s => (Decimal.parse s).any isAmount
  | .int n => isAmount ⟨n < 0, n.natAbs, 0⟩
  | .float x => (Decimal.parse (FloatRepr.repr x)).any isAmount
  | _ => false

/-- The fields of each record model, with what the field accepts; `none` stands for a missing
field. -/
def recordModelFields : String → List (String × (Option PyValue → Bool))
  | "customer" =>
    [("name", fun v => v.any (isText (lengthWithin 1 200))),
      ("email", fun v => v.any (isText (lengthWithin 3 320))),
      ("id", fun v => v.any isUuidValue)]
  | "order" =>
    [("customer_id", fun v => v.any isUuidValue),
      ("status", fun v => v.all (isText fun s => (OrderStatus.ofValue s).isSome)),
      ("total_amount", fun v => v.any isAmountValue),
      ("id", fun v => v.any isUuidValue)]
  | "ticket" =>
    [("customer_id", fun v => v.any isUuidValue),
      ("order_id", fun v => v.all fun w => w matches .none || isUuidValue w),
      ("subject", fun v => v.any (isText (lengthWithin 1 300))),
      ("status", fun v => v.all (isText fun s => (TicketStatus.ofValue s).isSome)),
      ("id", fun v => v.any isUuidValue)]
  | "policy" =>
    ["id"].map (fun field => (field, fun v : Option PyValue => v.any isUuidValue)) ++
      ["slug", "version", "title", "content", "content_hash"].map
        (fun field => (field, fun v : Option PyValue => v.any (isText fun _ => true)))
  | _ => []

/-- The fields that `record_model.model_validate(record)` reports, in sorted order. -/
def invalidFields (resource : String) (record : Record) : List String :=
  sortedSet (((recordModelFields resource).filter
    fun field => !field.2 (record.lookup field.1)).map Prod.fst)

end RecordModels

end ObservabilityLab
