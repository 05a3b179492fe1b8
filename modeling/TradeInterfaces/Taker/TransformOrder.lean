import TradeInterfaces.Seaport.Bindings

/-! The taker's way from a received order to the one it submits to Seaport. Unlike
the maker it unwraps the amounts, the offered tokens and the recipients. -/
namespace TradeInterfaces.Taker
open Foundations.BigEndian Foundations.Panics Ethers

def offerItem (item : Grpc.OfferItem) : Except Panic Seaport.OfferItem := do
  let token ← unwrap item.token
  let startAmount ← unwrap item.startAmount
  let endAmount ← unwrap item.endAmount
  return {
    itemType := Grpc.asU8 item.itemType
    token := token.toHash
    identifierOrCriteria := (item.identifierOrCriteria.getD default).toU256
    startAmount := startAmount.toU256
    endAmount := endAmount.toU256 }

def considerationItem (item : Grpc.ConsiderationItem) : Except Panic Seaport.ConsiderationItem := do
  let startAmount ← unwrap item.startAmount
  let endAmount ← unwrap item.endAmount
  let recipient ← unwrap item.recipient
  return {
    itemType := Grpc.asU8 item.itemType
    token := (item.token.getD default).toHash
    identifierOrCriteria := (item.identifierOrCriteria.getD default).toU256
    startAmount := startAmount.toU256
    endAmount := endAmount.toU256
    recipient := recipient.toHash }

def orderParameters (order : Grpc.Order) : Except Panic Seaport.OrderParameters := do
  let offer ← order.offer.mapM offerItem
  let consideration ← order.consideration.mapM considerationItem
  let totalOriginalConsiderationItems : U256 := BitVec.ofNat 256 consideration.length
  let offerer ← unwrap order.offerer
  let startTime ← unwrap order.startTime
  let endTime ← unwrap order.endTime
  let salt ← unwrap order.salt
  return {
    offerer := offerer.toHash
    zone := (order.zone.getD default).toHash
    offer
    consideration
    orderType := Grpc.asU8 order.orderType
    startTime := startTime.toU256
    endTime := endTime.toU256
    zoneHash := Seaport.hashBytes order.zoneHash
    salt := salt.toU256
    conduitKey := Seaport.hashBytes order.conduitKey
    totalOriginalConsiderationItems }

def transformToSeaportOrder (signedOrder : Grpc.SignedOrder) (offerParameters : Grpc.Order) :
    Except Panic Seaport.Order := do
  let ethSignature ← unwrap signedOrder.signature
  let signature ← ethSignature.toSignature
  let parameters ← orderParameters offerParameters
  return { parameters, signature := signature.toVec }

theorem offerItem_ok_iff {item : Grpc.OfferItem} {out : Seaport.OfferItem} :
    offerItem item = .ok out ↔
      ∃ token startAmount endAmount, item.token = some token ∧ item.startAmount = some startAmount ∧
        item.endAmount = some endAmount ∧
        out = ⟨Grpc.asU8 item.itemType, token.toHash, (item.identifierOrCriteria.getD default).toU256,
          startAmount.toU256, endAmount.toU256⟩ := by
  unfold offerItem
  cases item.token <;> cases item.startAmount <;> cases item.endAmount <;>
    simp [bind, Except.bind, pure, Except.pure, eq_comm]

theorem considerationItem_ok_iff {item : Grpc.ConsiderationItem} {out : Seaport.ConsiderationItem} :
    considerationItem item = .ok out ↔
      ∃ startAmount endAmount recipient, item.startAmount = some startAmount ∧
        item.endAmount = some endAmount ∧ item.recipient = some recipient ∧
        out = ⟨Grpc.asU8 item.itemType, (item.token.getD default).toHash,
          (item.identifierOrCriteria.getD default).toU256, startAmount.toU256, endAmount.toU256,
          recipient.toHash⟩ := by
  unfold considerationItem
  cases item.startAmount <;> cases item.endAmount <;> cases item.recipient <;>
    simp [bind, Except.bind, pure, Except.pure, eq_comm]

theorem orderParameters_ok_iff {order : Grpc.Order} {out : Seaport.OrderParameters} :
    orderParameters order = .ok out ↔
      ∃ offer consideration offerer startTime endTime salt,
        order.offer.mapM offerItem = .ok offer ∧
        order.consideration.mapM considerationItem = .ok consideration ∧
        order.offerer = some offerer ∧ order.startTime = some startTime ∧
        order.endTime = some endTime ∧ order.salt = some salt ∧
        out = ⟨offerer.toHash, (order.zone.getD default).toHash, offer, consideration,
          Grpc.asU8 order.orderType, startTime.toU256, endTime.toU256, Seaport.hashBytes order.zoneHash,
          salt.toU256, Seaport.hashBytes order.conduitKey, BitVec.ofNat 256 consideration.length⟩ := by
  simp only [orderParameters, bind_returns_iff, unwrap_ok_iff, pure, Except.pure, Except.ok.injEq]
  constructor
  · rintro ⟨offer, ho, consideration, hc, offerer, hf, startTime, hs, endTime, he, salt, ht, rfl⟩
    exact ⟨offer, consideration, offerer, startTime, endTime, salt, ho, hc, hf, hs, he, ht, rfl⟩
  · rintro ⟨offer, consideration, offerer, startTime, endTime, salt, ho, hc, hf, hs, he, ht, rfl⟩
    exact ⟨offer, ho, consideration, hc, offerer, hf, startTime, hs, endTime, he, salt, ht, rfl⟩

theorem transformToSeaportOrder_ok_iff {signedOrder : Grpc.SignedOrder} {order : Grpc.Order}
    {out : Seaport.Order} :
    transformToSeaportOrder signedOrder order = .ok out ↔
      ∃ ethSignature signature parameters, signedOrder.signature = some ethSignature ∧
        ethSignature.toSignature = .ok signature ∧ orderParameters order = .ok parameters ∧
        out = ⟨parameters, signature.toVec⟩ := by
  simp only [transformToSeaportOrder, bind_returns_iff, unwrap_ok_iff, pure, Except.pure, Except.ok.injEq]
  constructor
  · rintro ⟨ethSignature, hs, signature, hg, parameters, hp, rfl⟩
    exact ⟨ethSignature, signature, parameters, hs, hg, hp, rfl⟩
  · rintro ⟨ethSignature, signature, parameters, hs, hg, hp, rfl⟩
    exact ⟨ethSignature, hs, signature, hg, parameters, hp, rfl⟩

end TradeInterfaces.Taker
