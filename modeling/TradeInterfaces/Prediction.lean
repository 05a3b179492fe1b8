import TradeInterfaces.Terms

/-! The soft quote as a prediction of the hard one. The two handlers are separate copies
of the same order, and differ in the identifier of a Buy. -/
namespace TradeInterfaces
open Foundations.BigEndian Foundations.Panics Foundations.Effects Ethers
open Maker (MarketMaker Rpc Answers ValidRfq ValidSoftQuote quoteOrder optionOffer handleRfqRequest
  handleSoftQuoteRequest validateRfq validateSoftQuote writeOption)

/-- Both quotes are made with the same clock readings and the same random bits. -/
structure SameReadings (hard soft : Rpc) : Prop where
  timeNow : hard.timeNow = soft.timeNow
  timeNowAgain : hard.timeNowAgain = soft.timeNowAgain
  entropy : hard.entropy = soft.entropy

/-- The calls for a hard quote succeed: those for the signature and, for a Buy, the write. -/
structure HardQuoteSucceeds (maker : MarketMaker) (rfq : Grpc.QuoteRequest) (rpc : Rpc) : Prop where
  answers : Answers rpc
  writes : Grpc.Action.ofI32 rfq.action = .buy →
    ∃ optionId claimId, (writeOption maker rfq rpc).outcome = .ok (some (optionId, claimId))

/-- What the order of a soft quote says about that of the hard quote. Only the identifier
of a Buy differs, and as a number it may still be the same. -/
def Predicts (maker : MarketMaker) (rfq : Grpc.QuoteRequest) (rpc : Rpc) (softOrder order : Grpc.Order) : Prop :=
  (Grpc.Action.ofI32 rfq.action = .sell ∧ order = softOrder) ∨
  (Grpc.Action.ofI32 rfq.action = .buy ∧ ∃ optionId claimId,
    (writeOption maker rfq rpc).outcome = .ok (some (optionId, claimId)) ∧
    softOrder.offer.map (·.identifierOrCriteria) = [rfq.identifierOrCriteria] ∧
    order = { softOrder with
      offer := softOrder.offer.map fun item => { item with identifierOrCriteria := some (.ofU256 optionId) } } ∧
    (rfq.identifierOrCriteria.map Grpc.H256.toU256 = some optionId →
      Taker.orderParameters order = Taker.orderParameters softOrder ∧
      ∀ counter, Maker.orderComponents order counter = Maker.orderComponents softOrder counter))

theorem Maker.ValidRfq.softQuote {seaport : Address} {rfq : Grpc.QuoteRequest} (h : ValidRfq seaport rfq) :
    ValidSoftQuote rfq where
  tokenAddress := h.tokenAddress
  identifier := h.identifier
  amount := h.amount
  action := by
    have hne := h.action
    cases ha : Grpc.Action.ofI32 rfq.action with
    | buy => exact .inl rfl
    | sell => exact .inr rfl
    | invalid => exact absurd ha hne

section
variable {maker : MarketMaker} {rfq : Grpc.QuoteRequest} {hard soft : Rpc}

/-- An order depends on the calls through the clock and the random bits only. -/
theorem quoteOrder_of_sameReadings (h : SameReadings hard soft) (offered : Grpc.OfferItem)
    (considered : Grpc.ConsiderationItem) :
    quoteOrder maker offered considered hard = quoteOrder maker offered considered soft := by
  rw [quoteOrder, quoteOrder, h.timeNow, h.timeNowAgain, h.entropy]

private theorem optionOffer_of_sameNumber (maker : MarketMaker) {a b : Grpc.H256} (h : a.toU256 = b.toU256)
    (amount : Option Grpc.H256) :
    Taker.offerItem (optionOffer maker (some a) amount) = Taker.offerItem (optionOffer maker (some b) amount) ∧
      Maker.offerItem (optionOffer maker (some a) amount) = Maker.offerItem (optionOffer maker (some b) amount) := by
  simp only [Taker.offerItem, Maker.offerItem, optionOffer, Option.getD_some, h, and_self]

private theorem quoteOrder_of_sameItems {offered offered' : Grpc.OfferItem}
    (considered : Grpc.ConsiderationItem) (htaker : Taker.offerItem offered = Taker.offerItem offered')
    (hmaker : Maker.offerItem offered = Maker.offerItem offered') :
    Taker.orderParameters (quoteOrder maker offered considered soft) =
        Taker.orderParameters (quoteOrder maker offered' considered soft) ∧
      ∀ counter, Maker.orderComponents (quoteOrder maker offered considered soft) counter =
        Maker.orderComponents (quoteOrder maker offered' considered soft) counter := by
  constructor
  · have hlist : [offered].mapM Taker.offerItem = [offered'].mapM Taker.offerItem := by
      rw [List.mapM_cons, List.mapM_cons, htaker]
    simp only [Taker.orderParameters, quoteOrder, hlist]
  · intro counter
    rw [Maker.orderComponents_quoteOrder, Maker.orderComponents_quoteOrder, Maker.quoteComponents, hmaker]
    rfl

/-- The two items of the hard quote against those of the soft quote. -/
theorem Maker.Sides.predicts {id amount : Grpc.H256} {offered softOffered : Grpc.OfferItem}
    {considered softConsidered : Grpc.ConsiderationItem} {before : List Maker.Event}
    (hi : rfq.identifierOrCriteria = some id) (ha : rfq.amount = some amount) (hreadings : SameReadings hard soft)
    (h : Maker.Sides maker rfq id amount hard offered considered before)
    (hs : Maker.softQuoteItems maker rfq 10000000 = .ok (some (softOffered, softConsidered))) :
    Predicts maker rfq hard (quoteOrder maker softOffered softConsidered soft)
      (quoteOrder maker offered considered hard) := by
  rw [quoteOrder_of_sameReadings hreadings]
  cases h with
  | @buy n optionId claimId action fits ids =>
    rw [Maker.softQuoteItems, action] at hs
    cases hs
    refine .inr ⟨action, optionId, claimId, ?_, rfl, rfl, fun hsame => ?_⟩
    · rw [Maker.writeOption_of_fits maker rfq hard hi ha fits, ids]
    · rw [hi] at hsame ⊢
      have hnumber : (Grpc.H256.ofU256 optionId).toU256 = id.toU256 := by
        rw [Grpc.H256.toU256_ofU256, Option.some.inj hsame]
      obtain ⟨htaker, hmaker⟩ := optionOffer_of_sameNumber maker hnumber rfq.amount
      exact quoteOrder_of_sameItems _ htaker hmaker
  | sell action =>
    rw [Maker.softQuoteItems, action, hi] at hs
    cases hs
    exact .inl ⟨action, rfl⟩

/-- There is a hard quote exactly when its calls succeed. -/
theorem hardQuote_iff (seaport : Address) (hvalid : ValidRfq seaport rfq) :
    (∃ response signedOrder, (handleRfqRequest maker seaport rfq hard).outcome = .ok (some response) ∧
      response.order = some signedOrder) ↔ HardQuoteSucceeds maker rfq hard := by
  obtain ⟨id, hi⟩ := Option.isSome_iff_exists.mp hvalid.identifier
  obtain ⟨amount, ha, _⟩ := hvalid.amount
  have hhandled := Maker.handleRfqRequest_handled maker seaport hi ha hvalid.action hard
  generalize handleRfqRequest maker seaport rfq hard = task at hhandled ⊢
  cases hhandled with
  | overflow action large =>
    refine ⟨?_, fun hsucceeds => ?_⟩
    · rintro ⟨_, _, h, _⟩
      cases h
    · obtain ⟨_, _, hw⟩ := hsucceeds.writes action
      rw [Maker.writeOption_of_overflow maker rfq hard hi ha (asU128_error_iff.mpr ⟨large, rfl⟩)] at hw
      cases hw
  | noOffer action fits ids =>
    refine ⟨?_, fun hsucceeds => ?_⟩
    · rintro ⟨_, _, h, ho⟩
      cases h
      cases ho
    · obtain ⟨_, _, hw⟩ := hsucceeds.writes action
      rw [Maker.writeOption_of_fits maker rfq hard hi ha fits, ids] at hw
      cases hw
  | unsigned sides fails quiet =>
    refine ⟨?_, fun hsucceeds => absurd hsucceeds.answers fails⟩
    rintro ⟨_, _, h, _⟩
    cases h
  | offer sides answers =>
    refine ⟨fun _ => ⟨answers, fun hb => ?_⟩, fun _ => ⟨_, _, rfl, rfl⟩⟩
    cases sides with
    | @buy n optionId claimId action fits ids =>
      exact ⟨optionId, claimId, by rw [Maker.writeOption_of_fits maker rfq hard hi ha fits, ids]⟩
    | sell action =>
      rw [hb] at action
      cases action

/-- What a hard quote with an order is made of. -/
theorem hardQuote_sides {seaport : Address} {id amount : Grpc.H256} (hi : rfq.identifierOrCriteria = some id)
    (ha : rfq.amount = some amount) (hvalid : ValidRfq seaport rfq) {response : Grpc.QuoteResponse}
    {signedOrder : Grpc.SignedOrder} (h : (handleRfqRequest maker seaport rfq hard).outcome = .ok (some response))
    (ho : response.order = some signedOrder) :
    ∃ offered considered before hash, Maker.Sides maker rfq id amount hard offered considered before ∧
      response = Maker.offerResponse maker seaport rfq (quoteOrder maker offered considered hard) hash := by
  have hhandled := Maker.handleRfqRequest_handled maker seaport hi ha hvalid.action hard
  generalize handleRfqRequest maker seaport rfq hard = task at hhandled h
  cases hhandled with
  | overflow action large => cases h
  | noOffer action fits ids =>
    cases h
    cases ho
  | unsigned sides fails quiet => cases h
  | offer sides answers =>
    cases h
    exact ⟨_, _, _, _, sides, rfl⟩

end

/-- Whatever the RFQ check accepts, the soft-quote check accepts too. For such a request
there is a hard quote exactly when its calls succeed, and then the soft quote made with
the same readings agrees with it in the response and predicts its order. -/
theorem softQuote_predicts (maker : MarketMaker) (seaport : Address) (rfq : Grpc.QuoteRequest)
    (hv : (validateRfq seaport rfq).isSome) :
    (validateSoftQuote rfq).isSome ∧
    ∀ hard soft, SameReadings hard soft → soft.getChainid = .ok () →
      ((∃ response signedOrder, (handleRfqRequest maker seaport rfq hard).outcome = .ok (some response) ∧
        response.order = some signedOrder) ↔ HardQuoteSucceeds maker rfq hard) ∧
      ∀ response signedOrder, (handleRfqRequest maker seaport rfq hard).outcome = .ok (some response) →
        response.order = some signedOrder →
        ∃ softResponse softOrder order,
          (handleSoftQuoteRequest maker seaport rfq soft).outcome = .ok (some softResponse) ∧
          softResponse.order = some softOrder ∧ signedOrder.parameters = some order ∧
          softResponse.ulid = response.ulid ∧ softResponse.makerAddress = response.makerAddress ∧
          softResponse.chainId = response.chainId ∧ softResponse.seaportAddress = response.seaportAddress ∧
          Predicts maker rfq hard softOrder order := by
  have hvalid := Maker.validateRfq_isSome_iff.mp hv
  have hsoft := hvalid.softQuote
  refine ⟨Maker.validateSoftQuote_isSome_iff.mpr hsoft, fun hard soft hreadings hchain =>
    ⟨hardQuote_iff seaport hvalid, fun response signedOrder h ho => ?_⟩⟩
  obtain ⟨id, hi⟩ := Option.isSome_iff_exists.mp hvalid.identifier
  obtain ⟨amount, ha, _⟩ := hvalid.amount
  obtain ⟨offered, considered, before, hash, sides, rfl⟩ := hardQuote_sides hi ha hvalid h ho
  obtain ⟨softOffered, softConsidered, hitems, hresponse⟩ :=
    Maker.handleSoftQuoteRequest_of_valid maker seaport hsoft soft
  cases ho
  rw [hresponse, hchain]
  exact ⟨_, _, _, rfl, rfl, rfl, rfl, rfl, rfl, rfl, sides.predicts hi ha hreadings hitems⟩

/-- A Buy of option 42, of which the maker writes option 42: the two quotes convert to the
same parameters. -/
theorem softQuote_predicts_buy :
    ∃ response signedOrder softResponse softOrder order,
      (handleRfqRequest Maker.sampleMaker Seaport.seaportContractAddress (Maker.sampleRfq .buy 5)
        Maker.sampleRpc).outcome = .ok (some response) ∧ response.order = some signedOrder ∧
      signedOrder.parameters = some order ∧
      (handleSoftQuoteRequest Maker.sampleMaker Seaport.seaportContractAddress (Maker.sampleRfq .buy 5)
        Maker.sampleRpc).outcome = .ok (some softResponse) ∧ softResponse.order = some softOrder ∧
      Taker.orderParameters order = Taker.orderParameters softOrder := by
  have hwritten : (writeOption Maker.sampleMaker (Maker.sampleRfq .buy 5) Maker.sampleRpc).outcome =
      .ok (some (42, 43)) := by decide +kernel
  obtain ⟨_, h⟩ := softQuote_predicts Maker.sampleMaker Seaport.seaportContractAddress (Maker.sampleRfq .buy 5)
    (by decide +kernel)
  obtain ⟨hexists, hpredicts⟩ := h Maker.sampleRpc Maker.sampleRpc ⟨rfl, rfl, rfl⟩ rfl
  obtain ⟨response, signedOrder, hr, ho⟩ :=
    hexists.mpr ⟨⟨⟨_, rfl⟩, ⟨_, rfl⟩, ⟨_, rfl⟩, rfl⟩, fun _ => ⟨42, 43, hwritten⟩⟩
  obtain ⟨softResponse, softOrder, order, hs, hso, hp, _, _, _, _, hcase⟩ := hpredicts response signedOrder hr ho
  refine ⟨response, signedOrder, softResponse, softOrder, order, hr, ho, hp, hs, hso, ?_⟩
  rcases hcase with ⟨hsell, _⟩ | ⟨_, optionId, claimId, hw, _, _, hsame⟩
  · exact absurd hsell (by decide)
  · rw [hwritten] at hw
    cases hw
    exact (hsame (by decide +kernel)).1

end TradeInterfaces
