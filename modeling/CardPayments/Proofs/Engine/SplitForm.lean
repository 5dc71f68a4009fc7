import CardPayments.Proofs.Engine.HostedForm
import CardPayments.Proofs.Engine.Precedence
import CardPayments.Proofs.FormFields
import CardPayments.Sandbox.Gateway

/-!
# Split settlements in forms

A form is prepared from texts that split no settlement, so the properties that split one reach it
beside its fixed fields and change none of these: with others in their place the form is built as
well, is sent to the same page and has the same fixed fields.
-/

namespace CardPayments

variable {σ : Type}

/-- Whether two bags have the same texts but for those that split a settlement. -/
def Bag.SameButSplit (x y : Bag) : Prop :=
  ∀ key, Property.isSplit key = false → x.text? key = y.text? key

/-- What has been prepared for a form, with other properties in its request. -/
def HostedPayment.withData (hosted : HostedPayment) (properties : Bag) : HostedPayment :=
  { hosted with request := { hosted.request with additionalData := properties } }

section SameButSplit

variable {x y : Bag} (same : x.SameButSplit y)
include same

/-- They have the same texts under the names that most readers use. -/
theorem Bag.SameButSplit.of_name {key : String} (_ : key ≠ Property.recurringDetailId)
    (hkey : splitSettlementName? key = none) : x.text? key = y.text? key :=
  same key (by rw [Property.isSplit, hkey, Option.isSome_none])

theorem Bag.SameButSplit.textOr {key : String} (hkey : Property.isSplit key = false)
    (fallback : Option String) : x.textOr key fallback = y.textOr key fallback := by
  rw [Bag.textOr, Bag.textOr, same key hkey]

namespace Engine

/-- A form is told the same circumstances. -/
theorem hostedInfo_congr (settings : GatewaySettings) (account : Account) (now : Moment) :
    hostedInfo settings account x now = hostedInfo settings account y now := by
  unfold hostedInfo
  rw [PaymentInfo.ofProperties_congr (fun _ => same.of_name) (some account)
    (same.textOr (by decide) none)]

/-- It gets the same key. -/
theorem keyFor_congr (c : Collaborators σ) : keyFor c x = keyFor c y := by
  have hkey : hostedKey? x = hostedKey? y := by
    rw [hostedKey?, hostedKey?, same _ (by decide)]
  rw [keyFor, keyFor, hkey]

/-- The same pending payment is opened for it. -/
theorem openPending_congr (c : Collaborators σ) (account : Account) (amount : Decimal)
    (payment : PaymentData) :
    openPending c account amount payment x = openPending c account amount payment y := by
  have hflag (key : String) (hkey : Property.isSplit key = false) :
      x.affirms key = y.affirms key := by
    rw [Bag.affirms, Bag.affirms, same key hkey]
  rw [openPending, openPending, hflag _ (by decide), hflag _ (by decide)]

/-- It is prepared alike, and its request has its own properties. -/
theorem prepareForm_congr (c : Collaborators σ) (accountId : String) :
    prepareForm c accountId x =
      (fun hosted => hosted.withData x) <$> prepareForm c accountId y := by
  funext w
  unfold prepareForm
  rw [same Property.amount (by decide), map_bind]
  refine bind_congr rfl fun amount w₁ _ => ?_
  rw [map_bind]
  refine bind_congr rfl fun account w₂ _ => ?_
  rw [same.textOr (by decide : Property.isSplit Property.currency = false)]
  cases nonEmpty (y.textOr Property.currency account.currency) with
  | none => rfl
  | some currency =>
    simp only [keyFor_congr same, hostedInfo_congr same, openPending_congr same,
      UserData.ofProperties_congr (fun _ => same.of_name), map_bind, map_pure]
    rfl

end Engine

end SameButSplit

namespace Engine

/-- Any request can be stored where one can. -/
theorem fileRequest_of_fileRequest {c : Collaborators σ} {request : HostedRequest} {w w' : World σ}
    {row : RequestRow}
    (h : fileRequest c request w = (.ok row, w')) (request' : HostedRequest) :
    ∃ row' w'', fileRequest c request' w = (.ok row', w'') := by
  have inStep : InStep (World.Abreast Eq w.store w.store w.calls w.calls)
      (fileRequest c request) (fileRequest c request') _ fun _ _ => True :=
    (inStep_writeStore (fun _ _ _ => trivial) c.respects_eq rfl rfl).rephrase _
  have together := inStep w w ⟨rfl, rfl, rfl, rfl, rfl⟩
  rw [h] at together
  rcases hfile : fileRequest c request' w with ⟨r, w''⟩
  rw [hfile] at together
  cases together with
  | ok _ => exact ⟨_, w'', rfl⟩

/-- A form is finished with the fields that its page makes, where its request can be stored. -/
theorem finishForm_ok_iff {c : Collaborators σ} {page : HostedPage} {properties : Bag}
    {hosted : HostedPayment} {w w' : World σ} {descriptor : FormDescriptor} :
    finishForm c page properties hosted w = (.ok descriptor, w') ↔
      (∃ row, fileRequest c hosted.request w = (.ok row, w')) ∧
      page.fieldsFor c.settings properties hosted = .ok descriptor.fields ∧
      descriptor.accountId = hosted.request.accountId ∧
      descriptor.url = (nonEmpty (properties.text? Property.pageTarget)).getD page.target := by
  constructor
  · intro h
    obtain ⟨row, w₁, hfile, h⟩ := exists_of_bind_ok h
    obtain ⟨fields, w₂, hpage, h⟩ := exists_of_bind_ok h
    obtain ⟨hfields, rfl⟩ := ofOutcome_eq hpage
    obtain ⟨hdescriptor, rfl⟩ := Prod.mk.inj h
    obtain rfl := Except.ok.inj hdescriptor
    refine ⟨⟨row, hfile⟩, ?_, rfl, rfl⟩
    cases hmade : page.fieldsFor c.settings properties hosted with
    | error e =>
      rw [hmade] at hfields
      cases hfields
    | ok made =>
      rw [hmade] at hfields
      exact hfields
  · rintro ⟨⟨row, hfile⟩, hfields, haccount, hurl⟩
    obtain ⟨accountId, url, fields⟩ := descriptor
    obtain rfl := haccount
    obtain rfl := hurl
    unfold finishForm
    rw [bind_ok _ hfile, hfields]
    rfl

/-- Where one bag gives an unsigned form, another one that differs from it in what splits the
settlement alone gives one too, with the same fixed fields. -/
theorem fieldsFor_congr {x y : Bag} (same : x.SameButSplit y) (distinct : x.Distinct)
    (distinct' : y.Distinct) {target : String} {settings : GatewaySettings}
    {hosted : HostedPayment} {fields : FormFields}
    (h : (Sandbox.page target).fieldsFor settings y hosted = .ok fields) :
    ∃ fields', (Sandbox.page target).fieldsFor settings x hosted = .ok fields' ∧
      fields'.filter (!Property.isSplit ·.1) = fields.filter (!Property.isSplit ·.1) := by
  obtain ⟨amount, currency, units, hamount, hcurrency, hunits, rfl⟩ :=
    HostedPage.unsignedFields_eq_ok_iff.1 h
  refine ⟨_, HostedPage.unsignedFields_eq_ok_iff.2
    ⟨amount, currency, units, hamount, hcurrency, hunits, rfl⟩, ?_⟩
  rw [GatewaySettings.merchantAccountFor_congr (fun _ => same.of_name),
    (HostedPage.carries_unsignedFields _ _ _ _ _ distinct).rest,
    (HostedPage.carries_unsignedFields _ _ _ _ _ distinct').rest]

/-- A form on an unsigned page is prepared and then finished. -/
theorem form_sandbox {c : Collaborators σ} {target : String}
    (sandbox : c.page = some (Sandbox.page target)) (accountId : String) (custom properties : Bag) :
    form c accountId custom properties =
      prepareForm c accountId (Bag.merge [custom, properties]) >>=
        finishForm c (Sandbox.page target) (Bag.merge [custom, properties]) := by
  unfold form
  rw [sandbox]
  exact buildForm_eq c _ accountId _

/-- On the unsigned page the properties that split a settlement reach a form under their names and
with their texts, all of them that have values and nothing else that looks like them; they stand
beside the fixed fields, each of which is there as far as it has a value. With other properties in
their place the form is built as well, is sent to the same page and has the same other fields. -/
theorem split_settlement_reaches_form (c : Collaborators σ) (target accountId : String)
    (custom properties : Bag) (w w' : World σ) (descriptor : FormDescriptor)
    (sandbox : c.page = some (Sandbox.page target))
    (built : form c accountId custom properties w = (.ok descriptor, w')) :
    (∃ account payment user amount currency units,
      HostedPayment.Sources c w.outside accountId (Bag.merge [custom, properties]) account payment
        user ∧
      payment.amount = some amount ∧ payment.currency = some currency ∧
      MinorUnit.ofAmount amount currency = .ok units ∧
      HostedPage.Carries descriptor.fields
        (HostedPage.fixedFields (some (c.settings.merchantAccountFor payment.info.country
          (Bag.merge [custom, properties]))) payment currency units user)
        (Bag.merge [custom, properties])) ∧
    ∀ custom' properties' : Bag,
      (∀ key, Property.isSplit key = false →
        (Bag.merge [custom', properties']).get? key = (Bag.merge [custom, properties]).get? key) →
      ∃ descriptor' w'', form c accountId custom' properties' w = (.ok descriptor', w'') ∧
        descriptor'.url = descriptor.url ∧
        descriptor'.fields.filter (!Property.isSplit ·.1) =
          descriptor.fields.filter (!Property.isSplit ·.1) := by
  rw [form_sandbox sandbox] at built
  obtain ⟨hosted, w₁, hprepare, hfinish⟩ := exists_of_bind_ok built
  obtain ⟨⟨row, hfile⟩, hfields, haccount, hurl⟩ := finishForm_ok_iff.1 hfinish
  constructor
  · obtain ⟨account, -, -, -, -, sources, -⟩ := prepareForm_ok hprepare
    obtain ⟨amount, currency, units, hamount, hcurrency, hunits, hmade⟩ :=
      HostedPage.unsignedFields_eq_ok_iff.1 hfields
    refine ⟨account, _, _, amount, currency, units, sources, hamount, hcurrency, hunits, ?_⟩
    rw [hmade]
    exact HostedPage.carries_unsignedFields _ _ _ _ _ (Bag.distinct_merge _)
  · intro custom' properties' hget
    have same : (Bag.merge [custom', properties']).SameButSplit (Bag.merge [custom, properties]) :=
      fun key hkey => by rw [Bag.text?, Bag.text?, hget key hkey]
    obtain ⟨fields', hfields', hrest⟩ :=
      fieldsFor_congr same (Bag.distinct_merge _) (Bag.distinct_merge _) hfields
    -- The two runs part where the request is stored, which has the properties of its own run.
    obtain ⟨row', w'', hfile'⟩ := fileRequest_of_fileRequest hfile
      (hosted.withData (Bag.merge [custom', properties'])).request
    refine ⟨⟨descriptor.accountId, descriptor.url, fields'⟩, w'', ?_, rfl, hrest⟩
    have hprepare' : prepareForm c accountId (Bag.merge [custom', properties']) w =
        (.ok (hosted.withData (Bag.merge [custom', properties'])), w₁) := by
      rw [prepareForm_congr same, ← bind_pure_comp, bind_ok _ hprepare]
      rfl
    rw [form_sandbox sandbox, bind_ok _ hprepare']
    refine finishForm_ok_iff.2 ⟨⟨row', hfile'⟩, hfields', haccount, ?_⟩
    rw [hurl, same Property.pageTarget (by decide)]

/-- Bare and repeated beginnings, names of fixed fields behind the beginning, values that are no
texts and nulls all reach a form, or do not, as they should; and without any of them it has the same
fixed fields. -/
theorem split_settlement_reaches_form_colliding :
    let c : Collaborators Unit :=
      { Collaborators.steady ⟨63850161600000000, some 0⟩ (.error .amountRequired) with
        page := some (Sandbox.page "https://hpp.example.com/pay") }
    let custom : Bag := [("splitSettlementData.", .text "whole"),
      ("splitSettlementData.dropped", .text "1"), (Property.skin, .text "skin-1")]
    let properties : Bag := [(Property.amount, .text "12.50"), (Property.currency, .text "eur"),
      (Property.paymentExternalKey, .text "order-7"),
      ("splitSettlementData.splitSettlementData.x", .bool true),
      ("splitSettlementData.paymentAmount", .int 5), ("splitSettlementData.dropped", .null)]
    let plain : Bag := [(Property.skin, .text "skin-1"), (Property.amount, .text "12.50"),
      (Property.currency, .text "eur"), (Property.paymentExternalKey, .text "order-7")]
    let w : World Unit := { store := {}, outside := () }
    ∃ descriptor w' descriptor' w'',
      form c "acc-1" custom properties w = (.ok descriptor, w') ∧
      descriptor.fields.filter (Property.isSplit ·.1) = [("splitSettlementData.", "whole"),
        ("splitSettlementData.splitSettlementData.x", "True"),
        ("splitSettlementData.paymentAmount", "5")] ∧
      form c "acc-1" [] plain w = (.ok descriptor', w'') ∧
      descriptor'.fields.filter (!Property.isSplit ·.1) =
        descriptor.fields.filter (!Property.isSplit ·.1) := by
  intro c custom properties plain w
  have succeeds : (form c "acc-1" custom properties w).1.isOk = true := by decide +kernel
  obtain ⟨descriptor, w', built⟩ : ∃ descriptor w',
      form c "acc-1" custom properties w = (.ok descriptor, w') := by
    rcases hends : form c "acc-1" custom properties w with ⟨_ | descriptor, w'⟩
    · rw [hends] at succeeds
      cases succeeds
    · exact ⟨descriptor, w', rfl⟩
  obtain ⟨⟨_, _, _, _, _, _, _, _, _, _, carries⟩, others⟩ := split_settlement_reaches_form c
    "https://hpp.example.com/pay" "acc-1" custom properties w w' descriptor rfl built
  have hplain : Bag.merge [[], plain] =
      (Bag.merge [custom, properties]).filter (!Property.isSplit ·.1) := rfl
  obtain ⟨descriptor', w'', built', -, hrest⟩ := others [] plain fun key hkey => by
    rw [hplain]
    exact Bag.get?_filter (p := (!Property.isSplit ·)) (by rw [hkey, Bool.not_false])
  have hparts : (Bag.merge [custom, properties]).splitTexts = [("splitSettlementData.", "whole"),
      ("splitSettlementData.splitSettlementData.x", "True"),
      ("splitSettlementData.paymentAmount", "5")] := by decide +kernel
  exact ⟨descriptor, w', descriptor', w'', built, carries.split.trans hparts, built', hrest⟩

end Engine

end CardPayments
