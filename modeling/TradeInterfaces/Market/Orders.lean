import TradeInterfaces.Market.Replies
import TradeInterfaces.Terms

/-! What the taker makes of the maker's replies: the orders it accepts, and what they
exchange. -/
namespace TradeInterfaces.Market
open Foundations.Panics Ethers
open Maker (MarketMaker Rpc)
open Taker (Settings Chain)

/-- An order of the maker with one item on each side. -/
structure Exchanges (maker : MarketMaker) (order : Seaport.Order) (offered : Seaport.OfferItem)
    (considered : Seaport.ConsiderationItem) : Prop where
  offerer : order.parameters.offerer = maker.address
  offer : order.parameters.offer = [offered]
  consideration : order.parameters.consideration = [considered]

/-- Five options for ten USDC. -/
def Bought (maker : MarketMaker) (id : U256) (order : Seaport.Order) : Prop :=
  Exchanges maker order ⟨3, maker.settlementEngine, id, Taker.amount, Taker.amount⟩
    ⟨1, maker.usdcAddress, 0, pricePaid, pricePaid, maker.address⟩

/-- Ten USDC for five options. -/
def SoldBack (maker : MarketMaker) (id : U256) (order : Seaport.Order) : Prop :=
  Exchanges maker order ⟨1, maker.usdcAddress, 0, pricePaid, pricePaid⟩
    ⟨3, maker.settlementEngine, id, Taker.amount, Taker.amount, maker.address⟩

private theorem acceptedOrder_of_transformed {order : Grpc.Order} {signature : Signature} {out : Seaport.Order}
    {item : Seaport.OfferItem} (hreceived : ∃ offer, Taker.receivedOffer order = .ok offer)
    (hout : Taker.transformToSeaportOrder (signed order signature) order = .ok out)
    (hoffer : out.parameters.offer = [item]) :
    Taker.acceptedOrder (signed order signature) = .ok (out, item.identifierOrCriteria) := by
  obtain ⟨offer, hreceived⟩ := hreceived
  have hparameters : (signed order signature).parameters = some order := rfl
  simp only [Taker.acceptedOrder, hparameters, unwrap_some, ok_bind, hreceived, hout, hoffer]
  rfl

section
variable (maker : MarketMaker) (id : U256) (rpc : Rpc) (signature : Signature)

theorem acceptedOrder_buyOrder : ∃ order,
    Taker.acceptedOrder (signed (buyOrder maker id rpc) signature) = .ok (order, id) ∧ Bought maker id order := by
  have hout := quoteOrder_transformed maker rpc signature
    (optionOffer_converted maker id (.ofU256 Taker.amount)) (priceConsideration_converted maker pricePaid)
  rw [Grpc.H256.toU256_ofU256] at hout
  exact ⟨_, acceptedOrder_of_transformed ⟨_, rfl⟩ hout rfl, ⟨rfl, rfl, rfl⟩⟩

/-- The identifier that the taker looks at is the one of the price, which is zero. -/
theorem acceptedOrder_sellOrder : ∃ order,
    Taker.acceptedOrder (signed (sellOrder maker id rpc) signature) = .ok (order, 0) ∧ SoldBack maker id order := by
  have hout := quoteOrder_transformed maker rpc signature (priceOffer_converted maker pricePaid)
    (optionConsideration_converted maker id (.ofU256 Taker.amount))
  rw [Grpc.H256.toU256_ofU256] at hout
  exact ⟨_, acceptedOrder_of_transformed ⟨_, rfl⟩ hout rfl, ⟨rfl, rfl, rfl⟩⟩

end

/-- What a reply is to the taker: nothing to accept, or an order with the first
identifier that it offers. -/
theorem replies_cases {maker : MarketMaker} {settings : Settings} {ids : U256 → Prop} {rfq : Grpc.QuoteRequest}
    {response : Grpc.QuoteResponse} (h : Replies maker settings ids (.rfq, rfq) (.rfq response))
    (calls : TakerCalls) :
    let turn := calls.turn (.ok (some response))
    (rfq = Taker.buyRfq settings ∧ turn.noOffer = true ∧ turn.accepted? = none) ∨
    (rfq = Taker.buyRfq settings ∧ turn.noOffer = false ∧ ∃ order id,
      turn.accepted? = some (order, id) ∧ ids id ∧ Bought maker id order) ∨
    ∃ id, rfq = Taker.sellRfq settings id ∧ turn.noOffer = false ∧ ∃ order,
      turn.accepted? = some (order, 0) ∧ SoldBack maker id order := by
  intro turn
  have hturn : turn.message = .ok (some response) := rfl
  cases h with
  | noOffer _ order => exact .inl ⟨rfl, by simp [Taker.Turn.noOffer, hturn, order],
      by simp [Taker.Turn.accepted?, hturn, order]⟩
  | buy id reported rpc signature _ order =>
    obtain ⟨out, hacc, hbought⟩ := acceptedOrder_buyOrder maker id rpc signature
    refine .inr (.inl ⟨rfl, by simp [Taker.Turn.noOffer, hturn, order], out, id, ?_, reported, hbought⟩)
    simp [Taker.Turn.accepted?, hturn, order, hacc, Except.toOption]
  | sell id rpc signature _ order =>
    obtain ⟨out, hacc, hsold⟩ := acceptedOrder_sellOrder maker id rpc signature
    refine .inr (.inr ⟨id, rfl, by simp [Taker.Turn.noOffer, hturn, order], out, ?_, hsold⟩)
    simp [Taker.Turn.accepted?, hturn, order, hacc, Except.toOption]

end TradeInterfaces.Market
