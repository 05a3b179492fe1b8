import TradeInterfaces.Foundations.Effects
import TradeInterfaces.Foundations.Runs
import TradeInterfaces.Taker.TransformOrder

/-! The taker's RFQ loop: the first offer is fulfilled, the options bought are offered
back, and the next offer is fulfilled to sell them. -/
namespace TradeInterfaces.Taker
open Foundations.BigEndian Foundations.Panics Foundations.Effects Ethers
open Foundations (Runs.run)

/-- The settings the loop reads, and the option type that was set up before it. -/
structure Settings where
  wallet : Address
  settlementContract : Address
  chainId : UInt64
  optionId : U256

def amount : U256 := 5

def quoteRequest (settings : Settings) (identifier : U256) (action : Grpc.Action) : Grpc.QuoteRequest where
  ulid := none
  takerAddress := some (.ofHash settings.wallet)
  itemType := Grpc.ItemType.erc1155.toI32
  tokenAddress := some (.ofHash settings.settlementContract)
  identifierOrCriteria := some (.ofU256 identifier)
  amount := some (.ofU256 amount)
  action := action.toI32
  chainId := some (.ofU256 (BitVec.ofNat 256 settings.chainId.toNat))
  seaportAddress := some (.ofHash Seaport.seaportContractAddress)

/-- The request that is sent before the loop and again after each missing offer. -/
def buyRfq (settings : Settings) : Grpc.QuoteRequest := quoteRequest settings settings.optionId .buy

def sellRfq (settings : Settings) (optionId : U256) : Grpc.QuoteRequest := quoteRequest settings optionId .sell

structure FulfillTx where
  order : Seaport.Order
  fulfillerConduitKey : Bytes 32
  gas : U256
  gasPrice : U256
  deriving DecidableEq

def fulfillTx (order : Seaport.Order) : FulfillTx where
  order
  fulfillerConduitKey := Seaport.zeroBytes
  gas := 500000
  gasPrice := 2000 * exp10 8

/-- How a fulfilment ends on chain. -/
inductive Receipt where
  | succeeded | reverted
  deriving DecidableEq

/-- What the taker does. A fulfilment is recorded with the phase it is submitted in
and with what becomes of it on chain. -/
inductive Event where
  | sendRfq (rfq : Grpc.QuoteRequest)
  | fulfillOrder (sellRfq : Bool) (tx : FulfillTx) (receipt : Receipt)
  deriving DecidableEq

/-- The settlement engine's tokens as far as the taker is concerned: what it owns at
first, and what a successful fulfilment of an order brings it and takes from it. -/
structure Chain where
  owned : U256 → Nat
  received : Seaport.Order → U256 → Nat
  given : Seaport.Order → U256 → Nat

def Chain.settle (chain : Chain) (id : U256) (balance : Nat) : Event → Nat
  | .fulfillOrder _ tx .succeeded => balance + chain.received tx.order id - chain.given tx.order id
  | _ => balance

/-- The taker's balance of an id after what it did so far. -/
def Chain.balanceOf (chain : Chain) (events : List Event) (id : U256) : Nat :=
  events.foldl (chain.settle id) (chain.owned id)

/-- One turn of the loop: what `message()` gave, the outcomes of the calls made for it,
and whether the request channel still takes a request. The receipt of the awaited
transaction is dropped unread, and the balance that is returned is the one on chain. -/
structure Turn where
  message : Except String (Option Grpc.QuoteResponse)
  sendTransaction : Except String Unit
  receipt : Receipt
  pendingTx : Except String Unit
  balanceOf : Except String Unit
  channelOpen : Bool

inductive Exit where
  | soldBack | unableToSend | panicked (panic : Panic)
  deriving DecidableEq

inductive Status where
  | running | exited (exit : Exit)
  deriving DecidableEq

/-- `sellRfq` is the loop's flag. `boughtId` and `consumed` are only recorded: the
option id bought in the buy phase, and the responses read with the phase of each. -/
structure State where
  status : Status
  sellRfq : Bool
  boughtId : Option U256
  consumed : List (Bool × Grpc.QuoteResponse)
  events : List Event

def State.initial (settings : Settings) : State := ⟨.running, false, none, [], [.sendRfq (buyRfq settings)]⟩

abbrev Task := Proc Exit Event

def panicking {α : Type} (x : Except Panic α) : Task α := Proc.lift (x.mapError .panicked)

/-- The price, its token and the amount that are printed; a missing one panics. -/
def receivedOffer (offerParameters : Grpc.Order) : Except Panic (U256 × Address × U256) := do
  let price ← index offerParameters.consideration 0
  let priceAmount ← unwrap price.startAmount
  let priceToken ← unwrap price.token
  let option ← index offerParameters.offer 0
  let optionAmount ← unwrap option.startAmount
  return (priceAmount.toU256, priceToken.toHash, optionAmount.toU256)

/-- The order that is going to be fulfilled, and the identifier of its first offered item. -/
def acceptedOrder (offeredOrder : Grpc.SignedOrder) : Except Panic (Seaport.Order × U256) := do
  let offerParameters ← unwrap offeredOrder.parameters
  let _ ← receivedOffer offerParameters
  let order ← transformToSeaportOrder offeredOrder offerParameters
  let option ← index order.parameters.offer 0
  return (order, option.identifierOrCriteria)

def sendRfq (turn : Turn) (rfq : Grpc.QuoteRequest) : Task Unit :=
  if turn.channelOpen then Proc.emit (.sendRfq rfq) else Proc.abort (.panicked .unwrapOnErr)

/-- The check on the balance: the buy phase goes on to offer the options back, the sell
phase leaves the program. -/
def endPhase (settings : Settings) (inSellPhase : Bool) (turn : Turn) (optionId : U256) (ownedTokens : Nat) :
    Task U256 :=
  if !inSellPhase then do
    panicking (assert (ownedTokens = amount.toNat))
    sendRfq turn (sellRfq settings optionId)
    return optionId
  else do
    panicking (assert (ownedTokens = 0))
    Proc.abort .soldBack

def fulfill (settings : Settings) (chain : Chain) (s : State) (turn : Turn)
    (offeredOrder : Grpc.SignedOrder) : Task U256 := do
  let (order, optionId) ← panicking (acceptedOrder offeredOrder)
  let fulfillment := Event.fulfillOrder s.sellRfq (fulfillTx order) turn.receipt
  Proc.emit fulfillment
  let .ok () := turn.sendTransaction | Proc.abort .unableToSend
  panicking (unwrapResult turn.pendingTx)
  panicking (unwrapResult turn.balanceOf)
  endPhase settings s.sellRfq turn optionId (chain.balanceOf (s.events ++ [fulfillment]) optionId)

/-- The body of the loop. A missing offer resends the request of the enclosing scope. -/
def answer (settings : Settings) (chain : Chain) (s : State) (turn : Turn) : Task (Option U256) :=
  match turn.message with
  | .error _ => Proc.abort (.panicked .explicit)
  | .ok none => Proc.abort (.panicked .explicit)
  | .ok (some offer) =>
    match offer.order with
    | none => do
      sendRfq turn (buyRfq settings)
      return none
    | some offeredOrder => do
      let optionId ← fulfill settings chain s turn offeredOrder
      return some optionId

def Turn.response? (turn : Turn) : Option Grpc.QuoteResponse :=
  match turn.message with
  | .ok (some offer) => some offer
  | _ => none

def step (settings : Settings) (chain : Chain) (s : State) (turn : Turn) : State :=
  if s.status = .running then
    let task := answer settings chain s turn
    let s := { s with
      consumed := s.consumed ++ turn.response?.toList.map (s.sellRfq, ·)
      events := s.events ++ task.events }
    match task.outcome with
    | .ok none => s
    | .ok (some optionId) => { s with sellRfq := true, boughtId := some optionId }
    | .error exit => { s with status := .exited exit }
  else s

def run (settings : Settings) (chain : Chain) (turns : List Turn) : State :=
  Runs.run (step settings chain) (State.initial settings) turns

end TradeInterfaces.Taker
