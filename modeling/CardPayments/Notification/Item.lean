import CardPayments.Checked
import CardPayments.Json.Reader
import CardPayments.MinorUnit

/-!
# Notifications

The gateway reports what became of payments in batches. A batch is a JSON envelope around items,
each of which tells of one event. The fields of an item go by the gateway's names, or else by their
plain names; a batch with a defect anywhere is refused as a whole, with all of its defects.
-/

namespace CardPayments

/-- An amount in minor units, as a notification reports it. -/
structure ReportedAmount where
  /-- The minor units. -/
  units : Int
  /-- The currency, as it is written. -/
  currency : String
  deriving DecidableEq, Repr

/-- One event that the gateway reports. -/
structure NotificationItem where
  /-- What happened. -/
  eventCode : String
  /-- Whether it succeeded. -/
  success : Bool
  /-- The gateway reference. -/
  pspReference : Option String := none
  /-- The gateway reference of the payment that was modified. -/
  originalReference : Option String := none
  /-- The key by which the merchant knows the payment. -/
  merchantReference : Option String := none
  /-- The merchant account. -/
  merchantAccount : Option String := none
  /-- Why it failed. -/
  reason : Option String := none
  /-- The payment method. -/
  paymentMethod : Option String := none
  /-- The amount. -/
  amount : Option Decimal := none
  /-- The currency, in upper case. -/
  currency : Option String := none
  /-- When it happened. -/
  eventDate : Option String := none
  /-- Everything else. -/
  additionalData : Bag := []

namespace ReportedAmount

/-- Checks an amount. -/
def ofBag (bag : Bag) : Checked ReportedAmount :=
  ReportedAmount.mk
    <$> Checked.required "value" Checked.int (bag.get? "value")
    <*> Checked.required "currency" Checked.text (bag.get? "currency")

end ReportedAmount

namespace NotificationItem

/-- A field that goes by one of two names: its value, and the name to blame. -/
def field (bag : Bag) (name plain : String) : String × Option Value :=
  match bag.get? name, bag.get? plain with
  | some v, _ => (name, some v)
  | none, some v => (plain, some v)
  | none, none => (name, none)

/-- A field that may be null or absent. -/
def optional {α : Type} (bag : Bag) (name plain : String) (check : Value → Checked α) :
    Checked (Option α) :=
  let found := field bag name plain
  Checked.withDefault found.1 none (Checked.nullable check) found.2

/-- Whether the event succeeded: a text by its word, everything else as a truth value. -/
def checkSuccess : Value → Checked Bool
  | .text s => .ok (Value.affirmative s)
  | v => Checked.bool v

/-- Everything else: a table; what counts as absent is an empty one. -/
def checkData (v : Value) : Checked Bag := if v.isTruthy then Checked.table v else .ok []

/-- Checks the fields of an item. The amount is still in minor units. -/
def ofBag (bag : Bag) : Checked (Option ReportedAmount × NotificationItem) :=
  let code := field bag "eventCode" "event_code"
  let data := field bag "additionalData" "additional_data"
  let text (name plain : String) := optional bag name plain Checked.text
  (fun eventCode success pspReference originalReference merchantReference merchantAccount reason
      paymentMethod reported eventDate additionalData =>
    (reported, {
      eventCode, success, pspReference, originalReference, merchantReference, merchantAccount
      reason, paymentMethod, eventDate, additionalData }))
    <$> Checked.required code.1 Checked.text code.2
    <*> Checked.required "success" checkSuccess (bag.get? "success")
    <*> text "pspReference" "psp_reference"
    <*> text "originalReference" "original_reference"
    <*> text "merchantReference" "merchant_reference"
    <*> text "merchantAccountCode" "merchant_account_code"
    <*> text "reason" "reason"
    <*> text "paymentMethod" "payment_method"
    <*> optional bag "amount" "amount" (Checked.object ReportedAmount.ofBag)
    <*> text "eventDate" "event_date"
    <*> Checked.withDefault data.1 [] checkData data.2

/-- Checks an item in its wrapper. -/
def ofWrapper (v : Value) : Checked (Option ReportedAmount × NotificationItem) :=
  Checked.object (fun bag =>
    Checked.required "NotificationRequestItem" (Checked.object ofBag)
      (bag.get? "NotificationRequestItem")) v

/-- Fills in the amount, in units of the currency. -/
def priced (reported : Option ReportedAmount) (item : NotificationItem) :
    Outcome NotificationItem :=
  match reported with
  | none => .ok item
  | some r =>
    match MinorUnit.toAmount r.units (Text.toUpper r.currency) with
    | .ok amount =>
      .ok { item with amount := some amount, currency := some (Text.toUpper r.currency) }
    | .error e => .error (.arithmetic e)

end NotificationItem

namespace NotificationBatch

/-- Checks an envelope. Whether the batch is live is checked and forgotten. -/
def ofEnvelope (bag : Bag) : Checked (List (Option ReportedAmount × NotificationItem)) :=
  (fun _ items => items)
    <$> Checked.withDefault "live" none (Checked.nullable Checked.text) (bag.get? "live")
    <*> Checked.withDefault "notificationItems" [] (Checked.list NotificationItem.ofWrapper)
      (bag.get? "notificationItems")

/-- Checks the text of a batch. -/
def ofText (s : String) : Checked (List (Option ReportedAmount × NotificationItem)) :=
  match Json.read .strict s with
  | .error _ => Checked.fail .jsonInvalid
  | .ok v => Checked.object ofEnvelope v

/-- The fault of a batch with defects. -/
def refused (defects : List Defect) : Fault :=
  .business (.invalidInput "Invalid notification payload" (some "notification")
    (some [("errors", .list (defects.map Defect.toValue))]))

/-- Decodes the text of a batch into its items. -/
def decode (s : String) : Outcome (List NotificationItem) :=
  match ofText s with
  | .ok items => items.mapM fun item => NotificationItem.priced item.1 item.2
  | .defects defects => .error (refused defects)

end NotificationBatch

end CardPayments
