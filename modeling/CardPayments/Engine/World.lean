import CardPayments.Gateway.Call
import CardPayments.HostedPage
import CardPayments.Settings.Gateway
import CardPayments.Store.Session

/-!
# The world of the engine

The engine works on the record store, and on collaborators whose own state it does not know: the
billing platform, the gateway, the hosted page, the clock, and the store's willingness to open and
to commit. Every step takes the world before it to an outcome and the world after it, and the world
keeps a log of what was asked of the gateway and of the billing platform, each request with the
answer to it.
-/

namespace CardPayments

/-- A pending payment that the billing platform is asked to open. -/
structure PendingRequest where
  /-- The account. -/
  account : Account
  /-- Whether the payment is only authorized. -/
  authorizeOnly : Bool
  /-- The amount. -/
  amount : Decimal
  /-- The currency. -/
  currency : Option String
  /-- The key of the payment. -/
  externalKey : String
  /-- Further properties. -/
  properties : Bag

/-- A pending payment that the billing platform has opened. -/
structure PendingPayment where
  /-- The payment. -/
  paymentId : String
  /-- The transaction. -/
  transactionId : String

/-- The collaborators of the engine. A collaborator takes its own state along and may fail with any
fault. -/
structure Collaborators (σ : Type) where
  /-- The gateway settings. -/
  settings : GatewaySettings
  /-- The hosted page, if one is configured. -/
  page : Option HostedPage
  /-- The time. -/
  clock : σ → Outcome Moment × σ
  /-- A key that has not been used before. -/
  freshKey : σ → String × σ
  /-- The account of an identifier. -/
  account : String → σ → Outcome Account × σ
  /-- The key of a payment and transaction. -/
  externalKey : String → String → σ → Outcome String × σ
  /-- Opens a pending payment. -/
  openPending : PendingRequest → σ → Outcome PendingPayment × σ
  /-- Calls the gateway. -/
  gateway : GatewayCall → σ → Outcome GatewayResponse × σ
  /-- Opens a unit of work. -/
  opening : Access → σ → Outcome Unit × σ
  /-- Commits a unit of work. -/
  committing : σ → Outcome Unit × σ

/-- A request that a collaborator was asked, and what it answered. -/
structure Exchange (ρ α : Type) where
  /-- The request. -/
  request : ρ
  /-- The answer to it. -/
  answer : Outcome α

/-- The state in which the engine works. -/
structure World (σ : Type) where
  /-- The record store. -/
  store : Store
  /-- The state of the collaborators. -/
  outside : σ
  /-- The calls made to the gateway and what it answered, oldest first. -/
  exchanges : List (Exchange GatewayCall GatewayResponse) := []
  /-- The pending payments asked for and what was opened, oldest first. -/
  openings : List (Exchange PendingRequest PendingPayment) := []

namespace World

variable {σ : Type}

/-- The calls made to the gateway, oldest first. -/
def calls (w : World σ) : List GatewayCall := w.exchanges.map Exchange.request

/-- The pending payments asked for, oldest first. -/
def pending (w : World σ) : List PendingRequest := w.openings.map Exchange.request

end World

/-- A step of the engine. -/
abbrev Engine (σ α : Type) := ExceptT Fault (StateM (World σ)) α

namespace Engine

variable {σ α : Type}

/-- The outcome of a computation that does not touch the world. -/
def ofOutcome (x : Outcome α) : Engine σ α := ExceptT.mk fun w => (x, w)

/-- The answer of a collaborator that never fails. -/
def ask (f : σ → α × σ) : Engine σ α := ExceptT.mk fun w =>
  ((.ok (f w.outside).1 : Outcome α), { w with outside := (f w.outside).2 })

/-- The answer of a collaborator that may fail. -/
def consult (f : σ → Outcome α × σ) : Engine σ α := ExceptT.mk fun w =>
  ((f w.outside).1, { w with outside := (f w.outside).2 })

/-- Something drawn from the store as it is. -/
def look (query : Store → α) : Engine σ α := ExceptT.mk fun w =>
  ((.ok (query w.store) : Outcome α), w)

/-- Puts another store in the place of this one. -/
def replaceStore (s : Store) : Engine σ Unit := ExceptT.mk fun w =>
  ((.ok () : Outcome Unit), { w with store := s })

/-- Notes a call to the gateway with its answer. -/
def noteExchange (e : Exchange GatewayCall GatewayResponse) : Engine σ Unit := ExceptT.mk fun w =>
  ((.ok () : Outcome Unit), { w with exchanges := w.exchanges ++ [e] })

/-- Notes a pending payment that was asked for with the answer. -/
def noteOpening (e : Exchange PendingRequest PendingPayment) : Engine σ Unit := ExceptT.mk fun w =>
  ((.ok () : Outcome Unit), { w with openings := w.openings ++ [e] })

/-- Puts the faults of a step into other words. -/
def rephrase (f : Fault → Fault) (x : Engine σ α) : Engine σ α := ExceptT.mk fun w =>
  match x w with
  | (.ok a, w) => (.ok a, w)
  | (.error e, w) => (.error (f e), w)

/-- Looks something up in a unit of work of its own. -/
def readStore (c : Collaborators σ) (query : Store → α) : Engine σ α := do
  consult (c.opening .reading)
  look query

/-- Changes the store in a unit of work of its own; nothing changes unless it is committed. -/
def writeStore (c : Collaborators σ) (change : Store → Outcome (α × Store)) : Engine σ α := do
  consult (c.opening .writing)
  let (a, s) ← ofOutcome (← look change)
  consult c.committing
  replaceStore s
  pure a

/-- A failure of the store as the billing platform is told. Business errors pass as they are. -/
def storeFault (operation : String) (e : Fault) : Fault :=
  match e with
  | .business e => .business e
  | e =>
    .business (.recordStore ("Record store " ++ operation ++ " failed: " ++ e.text)
      (some [("operation", .text operation)]))

/-- Looks something up; failures are told under the name of the operation. -/
def read (c : Collaborators σ) (operation : String) (query : Store → α) : Engine σ α :=
  rephrase (storeFault operation) (readStore c query)

/-- Changes the store; failures are told under the name of the operation. -/
def write (c : Collaborators σ) (operation : String) (change : Store → Outcome (α × Store)) :
    Engine σ α :=
  rephrase (storeFault operation) (writeStore c change)

/-- A failure of the gateway as the billing platform is told. -/
def gatewayFault (call : GatewayCall) (e : Fault) : Fault :=
  .business (.gatewayCallFailed call.operation
    ("Gateway call " ++ call.operation ++ " failed: " ++ e.text)
    [("merchant_account", .ofText? call.merchantAccount)])

/-- Calls the gateway. -/
def callGateway (c : Collaborators σ) (call : GatewayCall) : Engine σ GatewayResponse := do
  let answer ← ask (c.gateway call)
  noteExchange ⟨call, answer⟩
  rephrase (gatewayFault call) (ofOutcome answer)

end Engine

end CardPayments
