import TradeInterfaces.Agreement
import TradeInterfaces.Maker.Outcomes

/-! A hard quote from the request to the order that the taker submits. -/
namespace TradeInterfaces
open Foundations.BigEndian Foundations.Panics Foundations.Effects Ethers
open Maker (MarketMaker Rpc quoteOrder)

/-- The terms of an order with one item on each side, offered by the maker. -/
structure Terms (maker : MarketMaker) (order : Seaport.Order) (offered : Seaport.OfferItem)
    (considered : Seaport.ConsiderationItem) : Prop where
  offer : order.parameters.offer = [offered]
  consideration : order.parameters.consideration = [considered]
  total : order.parameters.totalOriginalConsiderationItems = 1
  offerer : order.parameters.offerer = maker.address
  recipient : considered.recipient = maker.address
  zone : order.parameters.zone = List.Vector.replicate 20 0
  zoneHash : order.parameters.zoneHash = List.Vector.replicate 32 0
  conduitKey : order.parameters.conduitKey = List.Vector.replicate 32 0
  window : order.parameters.startTime.toNat < order.parameters.endTime.toNat
  offeredConstant : offered.startAmount = offered.endAmount
  consideredConstant : considered.startAmount = considered.endAmount

section
variable (maker : MarketMaker)

theorem optionOffer_converted (id : U256) (amount : Grpc.H256) :
    Taker.offerItem (Maker.optionOffer maker (some (.ofU256 id)) (some amount)) =
      .ok ⟨3, maker.settlementEngine, id, amount.toU256, amount.toU256⟩ := by
  refine Taker.offerItem_ok_iff.mpr ⟨_, _, _, rfl, rfl, rfl, ?_⟩
  simp [Maker.optionOffer]
  rfl

theorem optionConsideration_converted (id : U256) (amount : Grpc.H256) :
    Taker.considerationItem (Maker.optionConsideration maker (some (.ofU256 id)) (some amount)) =
      .ok ⟨3, maker.settlementEngine, id, amount.toU256, amount.toU256, maker.address⟩ := by
  refine Taker.considerationItem_ok_iff.mpr ⟨_, _, _, rfl, rfl, rfl, ?_⟩
  simp [Maker.optionConsideration]
  rfl

theorem priceOffer_converted (price : U256) :
    Taker.offerItem (Maker.priceOffer maker price) = .ok ⟨1, maker.usdcAddress, 0, price, price⟩ := by
  refine Taker.offerItem_ok_iff.mpr ⟨_, _, _, rfl, rfl, rfl, ?_⟩
  simp [Maker.priceOffer]
  rfl

theorem priceConsideration_converted (price : U256) :
    Taker.considerationItem (Maker.priceConsideration maker price) =
      .ok ⟨1, maker.usdcAddress, 0, price, price, maker.address⟩ := by
  refine Taker.considerationItem_ok_iff.mpr ⟨_, _, _, rfl, rfl, rfl, ?_⟩
  simp [Maker.priceConsideration]
  rfl

/-- The order that the taker makes of a quote with these two items. -/
def convertedOrder (rpc : Rpc) (signature : Signature) (o : Seaport.OfferItem) (c : Seaport.ConsiderationItem) :
    Seaport.Order where
  parameters := ⟨maker.address, List.Vector.replicate 20 0, [o], [c], 0, Maker.ofSeconds rpc.timeNow,
    Maker.ofSeconds rpc.timeNowAgain + Maker.validity, Seaport.zeroBytes, Maker.tagged rpc.entropy,
    Seaport.zeroBytes, 1⟩
  signature := signature.toVec

theorem quoteOrder_transformed (rpc : Rpc) (signature : Signature) {offered : Grpc.OfferItem}
    {considered : Grpc.ConsiderationItem} {o : Seaport.OfferItem} {c : Seaport.ConsiderationItem}
    (ho : Taker.offerItem offered = .ok o) (hc : Taker.considerationItem considered = .ok c) :
    Taker.transformToSeaportOrder
        ⟨some (quoteOrder maker offered considered rpc), some (.ofSignature signature)⟩
        (quoteOrder maker offered considered rpc) = .ok (convertedOrder maker rpc signature o c) := by
  have hoffer : [offered].mapM Taker.offerItem = .ok [o] := mapM_returns_iff.mpr (.cons ho .nil)
  have hconsideration : [considered].mapM Taker.considerationItem = .ok [c] := mapM_returns_iff.mpr (.cons hc .nil)
  have hparameters : Taker.orderParameters (quoteOrder maker offered considered rpc) =
      .ok (convertedOrder maker rpc signature o c).parameters := by
    refine Taker.orderParameters_ok_iff.mpr
      ⟨[o], [c], _, _, _, _, hoffer, hconsideration, rfl, rfl, rfl, rfl, ?_⟩
    simp [quoteOrder, convertedOrder, Seaport.hashBytes]
    decide
  refine Taker.transformToSeaportOrder_ok_iff.mpr
    ⟨_, _, _, rfl, Grpc.EthSignature.toSignature_ofSignature signature, hparameters, ?_⟩
  rw [Signature.toVec, UInt8.toUInt8_toUInt64]
  rfl

/-- An order of the maker converts on the taker's side when its two items do. -/
theorem quoteOrder_converted (rpc : Rpc) (hclock : rpc.timeNow ≤ rpc.timeNowAgain) (signature : Signature)
    {offered : Grpc.OfferItem} {considered : Grpc.ConsiderationItem} {o : Seaport.OfferItem}
    {c : Seaport.ConsiderationItem} (ho : Taker.offerItem offered = .ok o)
    (hc : Taker.considerationItem considered = .ok c) (hr : c.recipient = maker.address)
    (hoa : o.startAmount = o.endAmount) (hca : c.startAmount = c.endAmount) :
    ∃ out, Taker.transformToSeaportOrder
        ⟨some (quoteOrder maker offered considered rpc), some (.ofSignature signature)⟩
        (quoteOrder maker offered considered rpc) = .ok out ∧ Terms maker out o c := by
  refine ⟨_, quoteOrder_transformed maker rpc signature ho hc, ?_⟩
  exact ⟨rfl, rfl, rfl, rfl, hr, rfl, rfl, rfl, Maker.window_nonempty hclock, hoa, hca⟩

end

/-- The taker converts what the handler answers with, and submits an order of these
terms: the option at the requested amount on one side, the price on the other. A Buy
offers the id that was written, at the amount that was written; a Sell asks for the
requested id. -/
theorem handleRfqRequest_terms (maker : MarketMaker) (seaport : Address) (rfq : Grpc.QuoteRequest) (rpc : Rpc)
    (response : Grpc.QuoteResponse) (signedOrder : Grpc.SignedOrder)
    (hv : (Maker.validateRfq seaport rfq).isSome)
    (hr : (Maker.handleRfqRequest maker seaport rfq rpc).outcome = .ok (some response))
    (ho : response.order = some signedOrder) (hclock : rpc.timeNow ≤ rpc.timeNowAgain) :
    ∃ parameters amount price out offered considered,
      signedOrder.parameters = some parameters ∧ rfq.amount = some amount ∧ amount.toU256 ≠ 0 ∧
      Maker.price = .ok price ∧ Taker.transformToSeaportOrder signedOrder parameters = .ok out ∧
      Terms maker out offered considered ∧
      ((Grpc.Action.ofI32 rfq.action = .buy ∧ ∃ optionId claimId tx,
          (Maker.writeOption maker rfq rpc).outcome = .ok (some (optionId, claimId)) ∧
          .sendTransaction tx ∈ (Maker.handleRfqRequest maker seaport rfq rpc).events ∧
          tx.contract = maker.settlementEngine ∧ tx.amount.toNat = offered.startAmount.toNat ∧
          offered = ⟨3, maker.settlementEngine, optionId, amount.toU256, amount.toU256⟩ ∧
          considered = ⟨1, maker.usdcAddress, 0, price, price, maker.address⟩) ∨
        (Grpc.Action.ofI32 rfq.action = .sell ∧ ∃ id, rfq.identifierOrCriteria = some id ∧
          offered = ⟨1, maker.usdcAddress, 0, price, price⟩ ∧
          considered = ⟨3, maker.settlementEngine, id.toU256, amount.toU256, amount.toU256, maker.address⟩)) := by
  obtain ⟨accepted, haccepted⟩ := Option.isSome_iff_exists.mp hv
  have hvalid := (Maker.validateRfq_eq_some_iff.mp haccepted).1
  obtain ⟨id, hi⟩ := Option.isSome_iff_exists.mp hvalid.identifier
  obtain ⟨amount, ha, hne⟩ := hvalid.amount
  have hhandled := Maker.handleRfqRequest_handled maker seaport hi ha hvalid.action rpc
  generalize Maker.handleRfqRequest maker seaport rfq rpc = task at hr hhandled ⊢
  cases hhandled with
  | overflow action large => cases hr
  | noOffer action fits ids =>
    cases hr
    cases ho
  | unsigned sides fails quiet => cases hr
  | @offer _ _ _ components hash sides answers =>
    cases hr
    cases ho
    cases sides with
    | @buy n optionId claimId action fits ids =>
      rw [ha]
      obtain ⟨out, htr, hterms⟩ := quoteOrder_converted maker rpc hclock (maker.signHash hash)
        (optionOffer_converted maker optionId amount) (priceConsideration_converted maker 10000000) rfl rfl rfl
      refine ⟨_, amount, _, out, _, _, rfl, rfl, hne, Maker.price_eq, htr, hterms, .inl ⟨action, optionId, claimId,
        _, ?_, List.mem_append_left _ List.mem_cons_self, rfl, (asU128_ok_iff.mp fits).symm, rfl, rfl⟩⟩
      rw [Maker.writeOption_of_fits maker rfq rpc hi ha fits, ids]
    | sell action =>
      rw [ha]
      obtain ⟨out, htr, hterms⟩ := quoteOrder_converted maker rpc hclock (maker.signHash hash)
        (priceOffer_converted maker 10000000) (optionConsideration_converted maker id.toU256 amount) rfl rfl rfl
      exact ⟨_, amount, _, out, _, _, rfl, rfl, hne, Maker.price_eq, htr, hterms,
        .inr ⟨action, id, hi, rfl, rfl⟩⟩

/-- A Buy of five options that the maker writes and offers for ten USDC. -/
theorem handleRfqRequest_terms_buy :
    ∃ response signedOrder parameters out offered considered,
      (Maker.handleRfqRequest Maker.sampleMaker Seaport.seaportContractAddress (Maker.sampleRfq .buy 5)
        Maker.sampleRpc).outcome = .ok (some response) ∧ response.order = some signedOrder ∧
      signedOrder.parameters = some parameters ∧
      Taker.transformToSeaportOrder signedOrder parameters = .ok out ∧
      Terms Maker.sampleMaker out offered considered ∧ offered.startAmount = 5 := by
  have hr : (Maker.handleRfqRequest Maker.sampleMaker Seaport.seaportContractAddress (Maker.sampleRfq .buy 5)
      Maker.sampleRpc).outcome = .ok (some (Maker.offerResponse Maker.sampleMaker Seaport.seaportContractAddress
        (Maker.sampleRfq .buy 5) (quoteOrder Maker.sampleMaker
          (Maker.optionOffer Maker.sampleMaker (some (.ofU256 42)) (some (.ofU256 5)))
          (Maker.priceConsideration Maker.sampleMaker 10000000) Maker.sampleRpc)
        (Maker.digest Maker.sampleMaker (toBytes 32 5) (toBytes 32 6)))) := by rfl
  obtain ⟨parameters, amount, price, out, offered, considered, hpar, ha, _, _, htr, hterms, hside⟩ :=
    handleRfqRequest_terms Maker.sampleMaker Seaport.seaportContractAddress (Maker.sampleRfq .buy 5)
      Maker.sampleRpc _ _ (by decide +kernel) hr rfl (by decide)
  refine ⟨_, _, parameters, out, offered, considered, hr, rfl, hpar, htr, hterms, ?_⟩
  cases ha
  rcases hside with ⟨_, optionId, claimId, tx, _, _, _, _, ho, _⟩ | ⟨hs, _⟩
  · rw [ho]
    exact Grpc.H256.toU256_ofU256 5
  · exact absurd hs (by decide)

end TradeInterfaces
