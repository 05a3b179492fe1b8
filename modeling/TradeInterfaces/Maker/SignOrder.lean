import TradeInterfaces.Maker.Calls

/-! Signing an order: the order is rewritten into Seaport's components, hashed on
chain and signed locally. -/
namespace TradeInterfaces.Maker
open Foundations.BigEndian Foundations.Panics Foundations.Effects Ethers

def offerItem (item : Grpc.OfferItem) : Seaport.OfferItem where
  itemType := Grpc.asU8 item.itemType
  token := (item.token.getD default).toHash
  identifierOrCriteria := (item.identifierOrCriteria.getD default).toU256
  startAmount := (item.startAmount.getD default).toU256
  endAmount := (item.endAmount.getD default).toU256

def considerationItem (item : Grpc.ConsiderationItem) : Seaport.ConsiderationItem where
  itemType := Grpc.asU8 item.itemType
  token := (item.token.getD default).toHash
  identifierOrCriteria := (item.identifierOrCriteria.getD default).toU256
  startAmount := (item.startAmount.getD default).toU256
  endAmount := (item.endAmount.getD default).toU256
  recipient := (item.recipient.getD default).toHash

def orderComponents (order : Grpc.Order) (counter : U256) : Except Panic Seaport.OrderComponents := do
  let offerer ← unwrap order.offerer
  let startTime ← unwrap order.startTime
  let endTime ← unwrap order.endTime
  let salt ← unwrap order.salt
  return {
    offerer := offerer.toHash
    zone := (order.zone.getD default).toHash
    offer := order.offer.map offerItem
    consideration := order.consideration.map considerationItem
    orderType := Grpc.asU8 order.orderType
    startTime := startTime.toU256
    endTime := endTime.toU256
    zoneHash := Seaport.hashBytes order.zoneHash
    salt := salt.toU256
    conduitKey := Seaport.hashBytes order.conduitKey
    counter }

/-- The hash that is signed: `0x1901`, the domain separator and the order hash. -/
def digest (maker : MarketMaker) (domainSeparator : Bytes 32) (orderHash : H256) : H256 :=
  maker.keccak256 ([25, 1] ++ domainSeparator.toList ++ orderHash.toList)

def signOrder (maker : MarketMaker) (orderParameters : Grpc.Order) (rpc : Rpc) :
    Task (Option Grpc.SignedOrder) := do
  let .ok counter := rpc.getCounter | return none
  let components ← Proc.lift (orderComponents orderParameters counter)
  Proc.emit (.getOrderHash components)
  let .ok orderHash := rpc.getOrderHash | return none
  let .ok domainSeparator := rpc.information | return none
  let hash := digest maker domainSeparator (orderHash components)
  Proc.emit (.signHash hash)
  let signature := maker.signHash hash
  return some {
    parameters := some orderParameters
    signature := some (Grpc.EthSignature.ofSignature signature) }

/-- The fields that must be present are exactly the ones that are unwrapped. -/
theorem orderComponents_ok_iff (order : Grpc.Order) (counter : U256) (components : Seaport.OrderComponents) :
    orderComponents order counter = .ok components ↔
      ∃ offerer startTime endTime salt, order.offerer = some offerer ∧ order.startTime = some startTime ∧
        order.endTime = some endTime ∧ order.salt = some salt ∧
        components = {
          offerer := offerer.toHash
          zone := (order.zone.getD default).toHash
          offer := order.offer.map offerItem
          consideration := order.consideration.map considerationItem
          orderType := Grpc.asU8 order.orderType
          startTime := startTime.toU256
          endTime := endTime.toU256
          zoneHash := Seaport.hashBytes order.zoneHash
          salt := salt.toU256
          conduitKey := Seaport.hashBytes order.conduitKey
          counter } := by
  unfold orderComponents
  cases ho : order.offerer <;> cases hs : order.startTime <;> cases he : order.endTime <;>
    cases ht : order.salt <;> simp [bind, Except.bind, pure, Except.pure, eq_comm]

/-- Where signing can end: at a failed call, at a missing field, or with the signed order. -/
theorem signOrder_cases (maker : MarketMaker) (order : Grpc.Order) (rpc : Rpc) :
    (∃ e, rpc.getCounter = .error e ∧ signOrder maker order rpc = ⟨.ok none, []⟩) ∨
    (∃ counter p, rpc.getCounter = .ok counter ∧ orderComponents order counter = .error p ∧
      signOrder maker order rpc = ⟨.error p, []⟩) ∨
    ∃ counter components, rpc.getCounter = .ok counter ∧ orderComponents order counter = .ok components ∧
      ((∃ e, (rpc.getOrderHash = .error e ∨ rpc.information = .error e) ∧
          signOrder maker order rpc = ⟨.ok none, [.getOrderHash components]⟩) ∨
        ∃ orderHash domainSeparator, rpc.getOrderHash = .ok orderHash ∧
          rpc.information = .ok domainSeparator ∧
          signOrder maker order rpc =
            ⟨.ok (some ⟨some order,
                some (.ofSignature (maker.signHash (digest maker domainSeparator (orderHash components))))⟩),
              [.getOrderHash components,
                .signHash (digest maker domainSeparator (orderHash components))]⟩) := by
  unfold signOrder
  cases hc : rpc.getCounter with
  | error e => exact .inl ⟨e, rfl, rfl⟩
  | ok counter =>
    cases ho : orderComponents order counter with
    | error p => exact .inr (.inl ⟨counter, p, rfl, ho, by simp only [ho]; rfl⟩)
    | ok components =>
      refine .inr (.inr ⟨counter, components, rfl, ho, ?_⟩)
      simp only [ho]
      cases hh : rpc.getOrderHash with
      | error e => exact .inl ⟨e, .inl rfl, by simp [Proc.map_emit]⟩
      | ok orderHash =>
        cases hi : rpc.information with
        | error e => exact .inl ⟨e, .inr rfl, by simp [Proc.map_emit]⟩
        | ok domainSeparator => exact .inr ⟨orderHash, domainSeparator, rfl, rfl, by simp [Proc.emit_bind, Proc.map_emit]⟩

end TradeInterfaces.Maker
