import TradeInterfaces.Maker.SignOrder
import TradeInterfaces.Taker.TransformOrder

/-! Maker and taker convert one order separately. The taker's conversion returns less
often, and where it does both come to the same fields. -/
namespace TradeInterfaces
open Foundations.Panics Foundations.Effects Ethers

private theorem offerItem_agrees {item : Grpc.OfferItem} {out : Seaport.OfferItem}
    (h : Taker.offerItem item = .ok out) : out = Maker.offerItem item := by
  obtain ⟨token, startAmount, endAmount, ht, hs, he, rfl⟩ := Taker.offerItem_ok_iff.mp h
  rw [Maker.offerItem, ht, hs, he]
  rfl

private theorem considerationItem_agrees {item : Grpc.ConsiderationItem} {out : Seaport.ConsiderationItem}
    (h : Taker.considerationItem item = .ok out) : out = Maker.considerationItem item := by
  obtain ⟨startAmount, endAmount, recipient, hs, he, hr, rfl⟩ := Taker.considerationItem_ok_iff.mp h
  rw [Maker.considerationItem, hs, he, hr]
  rfl

/-- Where the taker's parameters exist, so do the maker's components, for any counter. -/
theorem orderParameters_agrees {order : Grpc.Order} {parameters : Seaport.OrderParameters}
    (h : Taker.orderParameters order = .ok parameters) (counter : U256) :
    ∃ components, Maker.orderComponents order counter = .ok components ∧
      Seaport.Agrees parameters components ∧ components.counter = counter ∧
      parameters.totalOriginalConsiderationItems = BitVec.ofNat 256 components.consideration.length := by
  obtain ⟨offer, consideration, offerer, startTime, endTime, salt, ho, hc, hoff, hst, het, hsa, rfl⟩ :=
    Taker.orderParameters_ok_iff.mp h
  have hoffer := mapM_eq_map (fun _ _ => offerItem_agrees) ho
  have hconsideration := mapM_eq_map (fun _ _ => considerationItem_agrees) hc
  refine ⟨_, (Maker.orderComponents_ok_iff order counter _).mpr
    ⟨offerer, startTime, endTime, salt, hoff, hst, het, hsa, rfl⟩, ?_, rfl, ?_⟩
  · exact ⟨rfl, rfl, hoffer, hconsideration, rfl, rfl, rfl, rfl, rfl, rfl⟩
  · rw [hconsideration]

/-- The components that are hashed are the ones that were built. -/
theorem signOrder_of_components (maker : Maker.MarketMaker) (rpc : Maker.Rpc) {order : Grpc.Order}
    {counter : U256} {components : Seaport.OrderComponents} (hcounter : rpc.getCounter = .ok counter)
    (h : Maker.orderComponents order counter = .ok components) :
    (∃ signedOrder, (Maker.signOrder maker order rpc).outcome = .ok signedOrder) ∧
      .getOrderHash components ∈ (Maker.signOrder maker order rpc).events := by
  rcases Maker.signOrder_cases maker order rpc with
    ⟨e, hc, _⟩ | ⟨counter', p, hc, ho, _⟩ | ⟨counter', components', hc, ho, ⟨e, _, hs⟩ | ⟨_, _, _, _, hs⟩⟩
  · rw [hcounter] at hc
    cases hc
  · rw [hcounter] at hc
    cases hc
    rw [h] at ho
    cases ho
  all_goals
    rw [hcounter] at hc
    cases hc
    rw [h] at ho
    cases ho
    rw [hs]
    exact ⟨⟨_, rfl⟩, List.mem_cons_self⟩

theorem signOrder_parameters {maker : Maker.MarketMaker} {rpc : Maker.Rpc} {order : Grpc.Order}
    {signedOrder : Grpc.SignedOrder} (h : (Maker.signOrder maker order rpc).outcome = .ok (some signedOrder)) :
    signedOrder.parameters = some order := by
  rcases Maker.signOrder_cases maker order rpc with
    ⟨e, _, hs⟩ | ⟨_, p, _, _, hs⟩ | ⟨_, components, _, _, ⟨e, _, hs⟩ | ⟨_, _, _, _, hs⟩⟩
  all_goals
    rw [hs] at h
    cases h
  rfl

/-- Whenever the taker converts a signed order, the maker builds the components of the
same parameters, hashes them, and both agree in every field they share. What is signed
is returned unchanged. -/
theorem signedOrder_agrees (maker : Maker.MarketMaker) (rpc : Maker.Rpc) (order : Grpc.Order)
    (signature : Grpc.EthSignature) :
    (∀ out, Taker.transformToSeaportOrder ⟨some order, some signature⟩ order = .ok out →
      (∃ signedOrder, (Maker.signOrder maker order rpc).outcome = .ok signedOrder) ∧
      ∀ counter, ∃ components, Maker.orderComponents order counter = .ok components ∧
        (rpc.getCounter = .ok counter → .getOrderHash components ∈ (Maker.signOrder maker order rpc).events) ∧
        Seaport.Agrees out.parameters components ∧ components.counter = counter ∧
        out.parameters.totalOriginalConsiderationItems = BitVec.ofNat 256 components.consideration.length ∧
        (components.consideration.length < 2^64 →
          out.parameters.totalOriginalConsiderationItems.toNat = components.consideration.length)) ∧
    ∀ signedOrder, (Maker.signOrder maker order rpc).outcome = .ok (some signedOrder) →
      signedOrder.parameters = some order := by
  refine ⟨fun out h => ?_, fun signedOrder h => signOrder_parameters h⟩
  obtain ⟨_, _, parameters, _, _, hp, rfl⟩ := Taker.transformToSeaportOrder_ok_iff.mp h
  constructor
  · cases hc : rpc.getCounter with
    | error e =>
      refine ⟨none, ?_⟩
      rw [Maker.signOrder, hc]
      rfl
    | ok counter =>
      obtain ⟨components, hcomp, _⟩ := orderParameters_agrees hp counter
      exact (signOrder_of_components maker rpc hc hcomp).1
  · intro counter
    obtain ⟨components, hcomp, hagrees, hcounter, htotal⟩ := orderParameters_agrees hp counter
    refine ⟨components, hcomp, fun hc => (signOrder_of_components maker rpc hc hcomp).2, hagrees, hcounter,
      htotal, fun hlt => ?_⟩
    rw [htotal, BitVec.toNat_ofNat, Nat.mod_eq_of_lt (by omega)]

end TradeInterfaces
