import CardPayments.Record

/-!
# The record store

Responses and hosted-page requests are kept as numbered rows in the order in which they were
written; a new row gets the number after the highest one. Rows are looked up from the latest
backwards. Only the properties, the gateway reference and the authorization code of a row can
change. Amounts are kept as doubles and come back with nine places.
-/

namespace CardPayments

/-- A recorded response with its number. -/
structure Row where
  /-- The number. -/
  id : Nat
  /-- The response. -/
  record : ResponseRecord

/-- A hosted-page request with its number. -/
structure RequestRow where
  /-- The number. -/
  id : Nat
  /-- The request. -/
  request : HostedRequest

/-- Everything that is kept. -/
structure Store where
  /-- The responses, oldest first. -/
  rows : List Row := []
  /-- The hosted-page requests, oldest first. -/
  requests : List RequestRow := []
  /-- The payment methods, oldest first. -/
  methods : List PaymentMethod := []

namespace ResponseRecord

/-- The decimal places of a kept amount. -/
def amountPlaces : Nat := 9

/-- An amount as it comes back from the store. -/
def keptAmount (amount : Decimal) : Decimal := (Binary64.ofDecimal amount).toFixed amountPlaces

/-- A record as it comes back from the store. -/
def kept (record : ResponseRecord) : ResponseRecord :=
  { record with
    amount := record.amount.map keptAmount
    additionalData := record.additionalData.storable }

/-- Whether follow-ups can act on the recorded response. -/
def isSuccessfulAuthorization (record : ResponseRecord) : Bool :=
  record.kind.isAuthorization &&
    (record.pspResult == some PspResult.authorised.code ||
      record.pspResult == some PspResult.redirectShopper.code)

end ResponseRecord

/-- Lays properties over those of a row. The properties of the row are written anew only when one of
them changes: where all of them agree with what is kept, they stay as they are. -/
def Row.merge (row : Row) (properties : Bag) : Row :=
  let data := row.record.additionalData
  let merged := row.record.mergeProperties properties
  { row with
    record := { merged with
      additionalData :=
        if data.covers properties.storable then data else merged.additionalData.storable } }

namespace Store

/-- The number after the highest one. -/
def nextId (ids : List Nat) : Nat := ids.foldl max 0 + 1

/-- The latest row that satisfies the predicate. -/
def latest? (s : Store) (p : ResponseRecord → Bool) : Option Row :=
  s.rows.reverse.find? fun row => p row.record

/-- The latest successful authorization of a payment. -/
def latestAuthorization? (s : Store) (paymentId : String) : Option Row :=
  s.latest? fun r => r.paymentId == paymentId && r.isSuccessfulAuthorization

/-- The latest row with a gateway reference. -/
def latestByReference? (s : Store) (reference : Option String) : Option Row :=
  s.latest? fun r => r.pspReference == reference

/-- The latest row of a transaction and type. -/
def latestOf? (s : Store) (transactionId : String) (kind : TransactionType) : Option Row :=
  s.latest? fun r => r.transactionId == transactionId && r.kind == kind

/-- The rows of a payment, oldest first. -/
def ofPayment (s : Store) (paymentId : String) : List Row :=
  s.rows.filter fun row => row.record.paymentId == paymentId

/-- Adds a response, and gives the new row back as it will be read. -/
def addResponse (s : Store) (record : ResponseRecord) : Row × Store :=
  let row : Row := ⟨nextId (s.rows.map Row.id), record.kept⟩
  (row, { s with rows := s.rows ++ [row] })

/-- Lays properties over those of the latest row of a transaction, and gives that row back. -/
def updateResponse (s : Store) (transactionId : String) (properties : Bag) : Option Row × Store :=
  match s.latest? fun r => r.transactionId == transactionId with
  | some row =>
    let merged := row.merge properties
    (some merged, { s with rows := s.rows.map fun r => if r.id = row.id then merged else r })
  | none => (none, s)

/-- The payment method with an identifier. -/
def method? (s : Store) (id : Option String) : Option PaymentMethod :=
  if id = none then none else s.methods.find? (·.id == id)

/-- Adds a payment method, whose identifier has to be new. -/
def addMethod (s : Store) (method : PaymentMethod) : Outcome Store :=
  if method.id = none ∨ (s.method? method.id).isSome then .error .constraintViolated
  else
    .ok { s with
      methods := s.methods ++ [{ method with additionalData := method.additionalData.storable }] }

/-- The latest hosted-page request with a key. -/
def latestRequest? (s : Store) (externalKey : String) : Option RequestRow :=
  s.requests.reverse.find? fun row => row.request.externalKey == externalKey

/-- Adds a hosted-page request, and gives the new row back as it will be read. -/
def addRequest (s : Store) (request : HostedRequest) : RequestRow × Store :=
  let row : RequestRow :=
    ⟨nextId (s.requests.map RequestRow.id),
      { request with additionalData := request.additionalData.storable }⟩
  (row, { s with requests := s.requests ++ [row] })

end Store

end CardPayments
