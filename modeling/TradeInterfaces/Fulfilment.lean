import TradeInterfaces.Agreement
import TradeInterfaces.Maker.Outcomes

/-! Which signed orders the taker can submit. The maker signs absent item fields as
zeros, and the taker unwraps some of them. -/
namespace TradeInterfaces
open Foundations.BigEndian Foundations.Panics Foundations.Effects Ethers
open Maker (MarketMaker Rpc signOrder)

/-- The fields without which an order is not signed. -/
structure Signable (order : Grpc.Order) : Prop where
  offerer : order.offerer.isSome
  startTime : order.startTime.isSome
  endTime : order.endTime.isSome
  salt : order.salt.isSome

/-- The item fields that the taker unwraps are set. -/
structure ItemsPresent (order : Grpc.Order) : Prop where
  offer : ∀ item ∈ order.offer, item.token.isSome ∧ item.startAmount.isSome ∧ item.endAmount.isSome
  consideration : ∀ item ∈ order.consideration,
    item.startAmount.isSome ∧ item.endAmount.isSome ∧ item.recipient.isSome

/-- Whoever signs the order, the taker converts it, to the fields that were signed. -/
def Fulfillable (order : Grpc.Order) : Prop :=
  ∀ (maker : MarketMaker) (rpc : Rpc) (signedOrder : Grpc.SignedOrder),
    (signOrder maker order rpc).outcome = .ok (some signedOrder) →
    ∃ parameters out counter components, signedOrder.parameters = some parameters ∧
      Taker.transformToSeaportOrder signedOrder parameters = .ok out ∧ rpc.getCounter = .ok counter ∧
      Maker.orderComponents order counter = .ok components ∧ Seaport.Agrees out.parameters components

private theorem offerItem_returns_iff (item : Grpc.OfferItem) :
    (∃ out, Taker.offerItem item = .ok out) ↔
      item.token.isSome ∧ item.startAmount.isSome ∧ item.endAmount.isSome := by
  simp only [Taker.offerItem_ok_iff, Option.isSome_iff_exists]
  constructor
  · rintro ⟨_, token, startAmount, endAmount, ht, hs, he, _⟩
    exact ⟨⟨token, ht⟩, ⟨startAmount, hs⟩, ⟨endAmount, he⟩⟩
  · rintro ⟨⟨token, ht⟩, ⟨startAmount, hs⟩, ⟨endAmount, he⟩⟩
    exact ⟨_, token, startAmount, endAmount, ht, hs, he, rfl⟩

private theorem considerationItem_returns_iff (item : Grpc.ConsiderationItem) :
    (∃ out, Taker.considerationItem item = .ok out) ↔
      item.startAmount.isSome ∧ item.endAmount.isSome ∧ item.recipient.isSome := by
  simp only [Taker.considerationItem_ok_iff, Option.isSome_iff_exists]
  constructor
  · rintro ⟨_, startAmount, endAmount, recipient, hs, he, hr, _⟩
    exact ⟨⟨startAmount, hs⟩, ⟨endAmount, he⟩, ⟨recipient, hr⟩⟩
  · rintro ⟨⟨startAmount, hs⟩, ⟨endAmount, he⟩, ⟨recipient, hr⟩⟩
    exact ⟨_, startAmount, endAmount, recipient, hs, he, hr, rfl⟩

/-- The taker's parameters exist when what it unwraps is there. -/
theorem orderParameters_returns_iff (order : Grpc.Order) :
    (∃ parameters, Taker.orderParameters order = .ok parameters) ↔ Signable order ∧ ItemsPresent order := by
  constructor
  · rintro ⟨parameters, h⟩
    obtain ⟨offer, consideration, offerer, startTime, endTime, salt, ho, hc, hf, hs, he, ht, _⟩ :=
      Taker.orderParameters_ok_iff.mp h
    refine ⟨⟨?_, ?_, ?_, ?_⟩, fun item hmem => ?_, fun item hmem => ?_⟩
    · rw [hf, Option.isSome_some]
    · rw [hs, Option.isSome_some]
    · rw [he, Option.isSome_some]
    · rw [ht, Option.isSome_some]
    · exact (offerItem_returns_iff item).mp (mapM_mem_returns ho hmem)
    · exact (considerationItem_returns_iff item).mp (mapM_mem_returns hc hmem)
  · rintro ⟨⟨hf, hs, he, ht⟩, hoffer, hconsideration⟩
    obtain ⟨offer, ho⟩ := mapM_returns_of_forall fun item hmem => (offerItem_returns_iff item).mpr (hoffer item hmem)
    obtain ⟨consideration, hc⟩ :=
      mapM_returns_of_forall fun item hmem => (considerationItem_returns_iff item).mpr (hconsideration item hmem)
    obtain ⟨offerer, hf⟩ := Option.isSome_iff_exists.mp hf
    obtain ⟨startTime, hs⟩ := Option.isSome_iff_exists.mp hs
    obtain ⟨endTime, he⟩ := Option.isSome_iff_exists.mp he
    obtain ⟨salt, ht⟩ := Option.isSome_iff_exists.mp ht
    exact ⟨_, Taker.orderParameters_ok_iff.mpr
      ⟨offer, consideration, offerer, startTime, endTime, salt, ho, hc, hf, hs, he, ht, rfl⟩⟩

/-- Any order with these four fields can be signed. -/
theorem signOrder_of_signable {order : Grpc.Order} (h : Signable order) :
    ∃ signedOrder, (signOrder Maker.sampleMaker order Maker.sampleRpc).outcome = .ok (some signedOrder) := by
  obtain ⟨offerer, hf⟩ := Option.isSome_iff_exists.mp h.offerer
  obtain ⟨startTime, hs⟩ := Option.isSome_iff_exists.mp h.startTime
  obtain ⟨endTime, he⟩ := Option.isSome_iff_exists.mp h.endTime
  obtain ⟨salt, ht⟩ := Option.isSome_iff_exists.mp h.salt
  have hcomponents := (Maker.orderComponents_ok_iff order 0 _).mpr
    ⟨offerer, startTime, endTime, salt, hf, hs, he, ht, rfl⟩
  rcases Maker.signOrder_cases Maker.sampleMaker order Maker.sampleRpc with
    ⟨e, hc, _⟩ | ⟨_, _, hc, ho, _⟩ | ⟨_, _, _, _, ⟨e, hfail, _⟩ | ⟨_, _, _, _, h⟩⟩
  · cases hc
  · cases hc
    rw [hcomponents] at ho
    cases ho
  · rcases hfail with hfail | hfail <;> cases hfail
  · rw [h]
    exact ⟨_, rfl⟩

private theorem signOrder_signature {maker : MarketMaker} {rpc : Rpc} {order : Grpc.Order}
    {signedOrder : Grpc.SignedOrder} (h : (signOrder maker order rpc).outcome = .ok (some signedOrder)) :
    ∃ signature counter components, signedOrder = ⟨some order, some (.ofSignature signature)⟩ ∧
      rpc.getCounter = .ok counter ∧ Maker.orderComponents order counter = .ok components := by
  rcases Maker.signOrder_cases maker order rpc with
    ⟨e, _, hs⟩ | ⟨_, p, _, _, hs⟩ | ⟨counter, components, hc, ho, ⟨e, _, hs⟩ | ⟨_, _, _, _, hs⟩⟩
  all_goals
    rw [hs] at h
    cases h
  exact ⟨_, counter, components, rfl, hc, ho⟩

/-- A signed order can be submitted exactly when the token and the amounts of each offered
item and the amounts and the recipient of each considered item are present. -/
theorem fulfillable_iff (order : Grpc.Order) : Fulfillable order ↔ (Signable order → ItemsPresent order) := by
  constructor
  · intro h hsignable
    obtain ⟨signedOrder, hsigned⟩ := signOrder_of_signable hsignable
    obtain ⟨parameters, out, _, _, hp, hout, _⟩ := h _ _ _ hsigned
    have hsame := signOrder_parameters hsigned
    rw [hp] at hsame
    cases hsame
    obtain ⟨_, _, seaportParameters, _, _, hpar, _⟩ := Taker.transformToSeaportOrder_ok_iff.mp hout
    exact ((orderParameters_returns_iff order).mp ⟨_, hpar⟩).2
  · intro h maker rpc signedOrder hsigned
    obtain ⟨signature, counter, components, rfl, hcounter, hcomponents⟩ := signOrder_signature hsigned
    have hsignable : Signable order := by
      obtain ⟨_, _, _, _, hf, hs, he, ht, _⟩ := (Maker.orderComponents_ok_iff order counter components).mp hcomponents
      exact ⟨by rw [hf]; rfl, by rw [hs]; rfl, by rw [he]; rfl, by rw [ht]; rfl⟩
    obtain ⟨parameters, hpar⟩ := (orderParameters_returns_iff order).mpr ⟨hsignable, h hsignable⟩
    obtain ⟨components', hcomponents', hagrees, _⟩ := orderParameters_agrees hpar counter
    rw [hcomponents] at hcomponents'
    cases hcomponents'
    have hread := Grpc.EthSignature.toSignature_ofSignature signature
    exact ⟨order, _, counter, components, rfl,
      Taker.transformToSeaportOrder_ok_iff.mpr ⟨_, _, parameters, rfl, hread, hpar, rfl⟩, hcounter, hcomponents,
      hagrees⟩

/-- An offer of five wei: Ether has no token contract, so the token is absent. -/
def etherOrder : Grpc.Order where
  offerer := some (.ofHash (toBytes 20 9))
  zone := none
  offer := [⟨Grpc.ItemType.native.toI32, none, none, some (.ofU256 5), some (.ofU256 5)⟩]
  consideration := []
  orderType := Grpc.OrderType.fullOpen.toI32
  startTime := some (.ofU256 1700000000)
  endTime := some (.ofU256 1700001200)
  zoneHash := none
  salt := some (.ofU256 7)
  conduitKey := none

/-- It is signed with the zero address as its token, and the taker panics on it. -/
theorem etherOrder_unfulfillable : ¬Fulfillable etherOrder ∧ ∃ signedOrder,
    (signOrder Maker.sampleMaker etherOrder Maker.sampleRpc).outcome = .ok (some signedOrder) ∧
      Taker.transformToSeaportOrder signedOrder etherOrder = .error .unwrapOnNone := by
  have hsigned : ∃ signedOrder,
      (signOrder Maker.sampleMaker etherOrder Maker.sampleRpc).outcome = .ok (some signedOrder) ∧
        Taker.transformToSeaportOrder signedOrder etherOrder = .error .unwrapOnNone := ⟨_, rfl, rfl⟩
  refine ⟨fun h => ?_, hsigned⟩
  obtain ⟨signedOrder, hs, hpanics⟩ := hsigned
  obtain ⟨parameters, out, _, _, hp, hout, _⟩ := h _ _ _ hs
  have hsame := signOrder_parameters hs
  rw [hp] at hsame
  cases hsame
  rw [hpanics] at hout
  cases hout

end TradeInterfaces
