import CardPayments.Gateway.Call
import CardPayments.HostedPage

/-!
# The sandbox

A gateway without a network, for development. An amount from the 3-D Secure threshold on sends the
shopper to the issuer; the issuer's answer lets the payment pass; listed amounts are refused; a
technical failure, or the refusal of modifications, can be switched on.
-/

namespace CardPayments.Sandbox

/-- A supply of identifiers of 128 bits. -/
structure Supply where
  /-- The identifiers, numbered from one. -/
  nth : Nat → Nat
  /-- How many have been used. -/
  used : Nat

namespace Supply

/-- The next identifier. -/
def draw (s : Supply) : Nat × Supply := (s.nth (s.used + 1), { s with used := s.used + 1 })

/-- An identifier as 32 hexadecimal digits. -/
def hex (id : Nat) : List Char := Text.hexDigits 32 id

/-- An identifier in groups of 8, 4, 4, 4 and 12 hexadecimal digits. -/
def grouped (id : Nat) : String :=
  let cs := hex id
  let part (start length : Nat) := (cs.drop start).take length
  String.ofList (part 0 8 ++ '-' :: part 8 4 ++ '-' :: part 12 4 ++ '-' :: part 16 4 ++
    '-' :: part 20 12)

end Supply

/-- The address of the simulated issuer. -/
def issuerUrl : String := "https://test.adyen.com/hpp/3d/validate.shtml"

/-- The gateway of the sandbox. -/
structure Gateway where
  /-- The amounts that are refused. -/
  refusedAmounts : List Decimal := []
  /-- Why they are refused, if a reason is given. -/
  refusalReason : Option String := some "Refused"
  /-- The technical failure of every initial call. -/
  callError : Option CallErrorStatus := none
  /-- Whether modifications are accepted. -/
  acceptsModifications : Bool := true

namespace Gateway

/-- An amount for the list of those that are refused, where it has to be found by its value. -/
def listable (amount : Decimal) : Outcome Decimal :=
  if amount.isSignaling then .error (.arithmetic .signalingNan) else .ok amount

/-- A gateway reference: the first half of an identifier in upper case. -/
def reference (id : Nat) : String := String.ofList (((Supply.hex id).take 16).map Char.toUpper)

/-- The first six digits of an identifier. -/
def authCode (id : Nat) : String := String.ofList ((Nat.toDigits 10 id).take 6)

/-- The result of a technical failure. -/
def failure (e : CallErrorStatus) : PurchaseResult where
  callErrorStatus := some e
  additionalData :=
    [(Property.exceptionClass, .text "sandbox.gateway.SimulatedFailure"),
      (Property.exceptionMessage, .text ("Simulated " ++ e.name))]

/-- A refusal. -/
def refusal (reason : Option String) (supply : Supply) : PurchaseResult × Supply :=
  let (id, supply) := supply.draw
  ({ result := some .refused, resultCode := some PspResult.refused.code,
     pspReference := some (reference id), reason }, supply)

/-- Whether an amount is refused. -/
def refuses (g : Gateway) : Option Decimal → Bool
  | some amount => g.refusedAmounts.any (amount.sameValue ·)
  | none => false

/-- An authorization, or a refusal of a listed amount. -/
def decide (g : Gateway) (payment : PaymentData) (supply : Supply) : PurchaseResult × Supply :=
  if g.refuses payment.amount then refusal g.refusalReason supply
  else
    let (referenceId, supply) := supply.draw
    let (codeId, supply) := supply.draw
    ({ result := some .authorised, resultCode := some PspResult.authorised.code,
       pspReference := some (reference referenceId), authCode := some (authCode codeId) }, supply)

/-- A redirection to the issuer. -/
def redirect (payment : PaymentData) (supply : Supply) : PurchaseResult × Supply :=
  let (dataId, supply) := supply.draw
  let (referenceId, supply) := supply.draw
  let (requestId, supply) := supply.draw
  ({ result := some .redirectShopper, resultCode := some PspResult.redirectShopper.code,
     pspReference := some (reference referenceId),
     formParameters :=
       [("PaReq", .text (String.ofList (Supply.hex requestId))),
         ("MD", .text (String.ofList (Supply.hex dataId))),
         ("TermUrl", .text (payment.info.returnUrl.getD "")),
         ("IssuerUrl", .text issuerUrl)] }, supply)

/-- Whether a payment asks for 3-D Secure. -/
def asksSecure (payment : PaymentData) : Outcome Bool :=
  match payment.info.secureThreshold, payment.amount, payment.currency with
  | some threshold, some amount, some currency =>
    if currency = "" then .ok false
    else
      match MinorUnit.ofAmount amount currency with
      | .ok units => .ok (threshold ≤ units)
      | .error e => .error (.arithmetic e)
  | _, _, _ => .ok false

/-- The answer to an initial call that does not fail technically. -/
def answerInitial (g : Gateway) (operation : InitialOperation) (payment : PaymentData)
    (supply : Supply) : Outcome PurchaseResult × Supply :=
  match operation with
  | .authorize =>
    match asksSecure payment with
    | .error e => (.error e, supply)
    | .ok true => let (r, supply) := redirect payment supply; (.ok r, supply)
    | .ok false => let (r, supply) := g.decide payment supply; (.ok r, supply)
  | .authorizeSecure =>
    if payment.info.issuerAnswer.getD "" = "" then
      let (r, supply) := refusal (some "3D Not Authenticated") supply
      (.ok r, supply)
    else let (r, supply) := g.decide payment supply; (.ok r, supply)
  | .credit =>
    let (id, supply) := supply.draw
    (.ok { result := some .received, resultCode := some PspResult.received.code,
           pspReference := some (reference id) }, supply)

/-- The acknowledgement of an operation. -/
def acknowledgement : FollowUpOperation → String
  | .capture => "[capture-received]"
  | .cancel => "[cancel-received]"
  | .refund => "[refund-received]"

/-- The answer to a follow-up call. -/
def answerFollowUp (g : Gateway) (operation : FollowUpOperation) (original : Option String)
    (supply : Supply) : ModificationResult × Supply :=
  if g.acceptsModifications then
    let (id, supply) := supply.draw
    ({ accepted := true, pspReference := some (reference id),
       response := some (acknowledgement operation),
       additionalData := [(Property.originalReference, Value.ofText? original)] }, supply)
  else
    ({ accepted := false,
       additionalData :=
         [(Property.exceptionClass, .text "sandbox.gateway.SimulatedModificationFailure"),
           (Property.exceptionMessage, .text ("Simulated " ++ operation.name ++ " failure"))] },
      supply)

/-- The answer to a call. -/
def answer (g : Gateway) (call : GatewayCall) (supply : Supply) :
    Outcome GatewayResponse × Supply :=
  match call with
  | .initial operation _ payment _ _ =>
    match g.callError with
    | some e => (.ok (.purchase (failure e)), supply)
    | none =>
      let (r, supply) := g.answerInitial operation payment supply
      (r.map .purchase, supply)
  | .followUp operation _ _ original _ =>
    let (r, supply) := g.answerFollowUp operation original supply
    (.ok (.modification r), supply)

end Gateway

/-- The hosted page of the sandbox, whose forms are not signed. -/
def page (target : String) : HostedPage where
  target := target
  fields := HostedPage.unsignedFields

end CardPayments.Sandbox
