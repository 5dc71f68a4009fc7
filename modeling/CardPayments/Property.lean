/-!
# Names of properties

The names under which consumers look properties up.
-/

namespace CardPayments.Property

/-! ## Routing of money -/

/-- The merchant account to use instead of the configured one. -/
def merchantAccount : String := "paymentProcessorAccountId"
/-- The acquirer. -/
def acquirer : String := "acquirer"
/-- The merchant's identifier at the acquirer. -/
def acquirerMerchantId : String := "acquirerMID"
/-- The number of installments. -/
def installments : String := "installments"
/-- The kind of recurring payment. -/
def recurringType : String := "recurringType"
/-- Hours until an authorized payment is captured. -/
def captureDelayHours : String := "captureDelayHours"
/-- Whether the shopper is absent. -/
def continuousAuthentication : String := "contAuth"
/-- The shopper's country. -/
def country : String := "country"
/-- The amount of a hosted payment. -/
def amount : String := "amount"
/-- The currency of a hosted payment. -/
def currency : String := "currency"
/-- What the names of split-settlement properties begin with. -/
def splitSettlement : String := "splitSettlementData."
/-- The token of a stored payment method. -/
def recurringDetailId : String := "recurringDetailId"

/-! ## 3-D Secure -/

/-- The issuer's answer to a 3-D Secure challenge. -/
def issuerAnswer : String := "PaRes"
/-- The merchant data of a 3-D Secure challenge. -/
def merchantData : String := "MD"
/-- Where the issuer sends the shopper back to. -/
def returnUrl : String := "TermUrl"
/-- The shopper's browser. -/
def userAgent : String := "userAgent"
/-- What the shopper's browser accepts. -/
def acceptHeader : String := "acceptHeader"
/-- The minor units from which on a payment asks for 3-D Secure. -/
def secureThreshold : String := "threeDThreshold"
/-- The country of the card's issuer. -/
def issuerCountry : String := "issuerCountry"

/-! ## The shopper -/

/-- The first name. -/
def firstName : String := "firstName"
/-- The last name. -/
def lastName : String := "lastName"
/-- The network address. -/
def ip : String := "ip"
/-- The language and country of the shopper. -/
def customerLocale : String := "customerLocale"
/-- The merchant's identifier of the shopper. -/
def customerId : String := "customerId"
/-- The mail address. -/
def email : String := "email"

/-! ## The hosted page -/

/-- Whether a pending payment is to be opened before the shopper leaves. -/
def createPendingPayment : String := "createPendingPayment"
/-- Whether a hosted payment is only authorized. -/
def authMode : String := "authMode"
/-- The key of a hosted payment. -/
def paymentExternalKey : String := "paymentExternalKey"
/-- When the order ships. -/
def shipBeforeDate : String := "shipBeforeDate"
/-- The skin of the page. -/
def skin : String := "skin"
/-- How long the page stays valid. -/
def sessionValidity : String := "sessionValidity"
/-- The methods that the page offers. -/
def allowedMethods : String := "allowedMethods"
/-- The methods that the page does not offer. -/
def blockedMethods : String := "blockedMethods"
/-- The card brand. -/
def brandCode : String := "brandCode"
/-- The address of the page. -/
def pageTarget : String := "hppTarget"

/-! ## Results -/

/-- What a notification reports. -/
def eventCode : String := "eventCode"
/-- The key by which the merchant knows a payment. -/
def merchantReference : String := "merchantReference"
/-- The gateway reference of the payment that is modified. -/
def originalReference : String := "originalReference"
/-- The gateway reference. -/
def pspReference : String := "pspReference"
/-- The business result. -/
def pspResult : String := "pspResult"
/-- The gateway's own result code. -/
def resultCode : String := "resultCode"
/-- The authorization code. -/
def authCode : String := "authCode"
/-- Why a payment was refused. -/
def reason : String := "reason"
/-- Whether the reported event succeeded. -/
def success : String := "success"
/-- Whether an attempt comes from the hosted page and is only to be recorded. -/
def fromHostedPage : String := "fromHPP"
/-- The status that a recorded attempt carries with it. -/
def hostedPageStatus : String := "fromHPPTransactionStatus"
/-- The message of the exception behind a failed call. -/
def exceptionMessage : String := "exceptionMessage"
/-- The class of the exception behind a failed call. -/
def exceptionClass : String := "exceptionClass"
/-- The technical failure of a call. -/
def callErrorStatus : String := "adyenCallErrorStatus"

end CardPayments.Property
