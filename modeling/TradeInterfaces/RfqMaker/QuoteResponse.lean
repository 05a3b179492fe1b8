import TradeInterfaces.Foundations.Effects
import TradeInterfaces.Foundations.TypedData
import TradeInterfaces.Seaport.Bindings

/-! How the web maker answers one request: it decides whether to, writes the option, and
signs the order as typed data. The conversions, the hash and the key are parameters. -/
namespace TradeInterfaces.RfqMaker
open Foundations.BigEndian Foundations.Effects Foundations.TypedData Ethers

/-- An exception; nothing on this path catches one. -/
inductive Thrown where
  | invalidArgument | outOfBounds | rejected
  deriving DecidableEq

structure Receipt where
  status : Option Nat

structure OptionInfo where
  underlyingAsset : Address
  underlyingAmount : BitVec 96

/-- The signer and the library. `fromH256` is also called on a missing field. -/
structure WebMaker where
  address : Address
  signDigest : H256 → Signature
  keccak256 : List UInt8 → H256
  fromH256 : Option Grpc.H256 → Except Thrown U256
  toH160 : Address → Grpc.H160
  toH256 : U256 → Grpc.H256

/-- Outcomes of the calls one request can make. -/
structure Rpc where
  option : Except Thrown OptionInfo
  approve : Except Thrown Receipt
  write : Except Thrown Receipt
  getBlock : Except Thrown UInt64
  randomBytes : Bytes 8
  getCounter : Except Thrown U256
  setApprovalForAll : Except Thrown Receipt

def valoremClearAddress : Address := toBytes 20 0x7513F78472606625A9B505912e3C80762f6C9Efb
def usdcAddress : Address := toBytes 20 0x8AE0EeedD35DbEFe460Df12A20823eFDe9e03458
def wethAddress : Address := toBytes 20 0x618b9a2Db0CF23Bb20A849dAa2963c72770C1372

/-- Why a request is skipped, by the message that is logged. -/
inductive Reason where
  | identifierUndefined | notBuy | amountUndefined | notWeth
  | approvalFailed | writeFailed | tokenApprovalFailed
  deriving DecidableEq

def Reason.text : Reason → String
  | .identifierUndefined => "Skipping Quote Request because \"identifierOrCriteria\" is undefined."
  | .notBuy => "Skipping Quote Request because only responding to buy requests."
  | .amountUndefined => "Skipping Quote Request because \"amount\" is undefined."
  | .notWeth => "Skipping Quote Request because only responding to WETH options."
  | .approvalFailed => "Skipping responding to RFQ; Underlying ERC20 approval failed."
  | .writeFailed => "Skipping responding to RFQ; Writing option with clearing house failed."
  | .tokenApprovalFailed => "Skipping responding to RFQ; Option ERC1155 token spend approval failed."

/-- `respond` opens a stream that yields the value, which may be `undefined`. -/
inductive Event where
  | received (quoteRequest : Grpc.QuoteRequest)
  | skipping (text : String)
  | approve (spender : Address) (amount : U256)
  | write (optionId : U256) (amount : BitVec 112)
  | signDigest (hash : H256)
  | setApprovalForAll (operator : Address)
  | respond (quoteResponse : Option Grpc.QuoteResponse)
  deriving DecidableEq

abbrev Task := Proc Thrown Event

def skipping (reason : Reason) : Task Unit := Proc.emit (.skipping reason.text)

def skippingWhen (missing : Bool) (reason : Reason) : Task Unit := if missing then skipping reason else pure ()

/-- A number as a call's argument of that many bits. -/
def uint (bits n : Nat) : Except Thrown (BitVec bits) :=
  if n < 2^bits then .ok (BitVec.ofNat bits n) else .error .outOfBounds

def offerItemTypes : Fields :=
  .cons "itemType" (.atom (.uint 8)) <|
  .cons "token" (.atom .address) <|
  .cons "identifierOrCriteria" (.atom (.uint 256)) <|
  .cons "startAmount" (.atom (.uint 256)) <|
  .cons "endAmount" (.atom (.uint 256)) .nil

def considerationItemTypes : Fields :=
  .cons "itemType" (.atom (.uint 8)) <|
  .cons "token" (.atom .address) <|
  .cons "identifierOrCriteria" (.atom (.uint 256)) <|
  .cons "startAmount" (.atom (.uint 256)) <|
  .cons "endAmount" (.atom (.uint 256)) <|
  .cons "recipient" (.atom .address) .nil

def orderTypes : Fields :=
  .cons "offerer" (.atom .address) <|
  .cons "zone" (.atom .address) <|
  .cons "offer" (.array (.struct "OfferItem" offerItemTypes)) <|
  .cons "consideration" (.array (.struct "ConsiderationItem" considerationItemTypes)) <|
  .cons "orderType" (.atom (.uint 8)) <|
  .cons "startTime" (.atom (.uint 256)) <|
  .cons "endTime" (.atom (.uint 256)) <|
  .cons "zoneHash" (.atom .bytes32) <|
  .cons "salt" (.atom (.uint 256)) <|
  .cons "conduitKey" (.atom .bytes32) <|
  .cons "counter" (.atom (.uint 256)) .nil

def offerItemData (item : Seaport.OfferItem) : offerItemTypes.Value :=
  (item.itemType.toBitVec, item.token, item.identifierOrCriteria, item.startAmount, item.endAmount, ())

def considerationItemData (item : Seaport.ConsiderationItem) : considerationItemTypes.Value :=
  (item.itemType.toBitVec, item.token, item.identifierOrCriteria, item.startAmount, item.endAmount,
    item.recipient, ())

def orderData (components : Seaport.OrderComponents) : orderTypes.Value :=
  (components.offerer, components.zone, components.offer.map offerItemData,
    components.consideration.map considerationItemData, components.orderType.toBitVec, components.startTime,
    components.endTime, components.zoneHash, components.salt, components.conduitKey, components.counter, ())

def orderStructHash (hash : List UInt8 → H256) (components : Seaport.OrderComponents) : H256 :=
  hashStruct hash "OrderComponents" orderTypes (orderData components)

section
variable (maker : WebMaker)

/-- 100 USDC. -/
def usdcPrice : U256 := 100 * exp10 6

/-- Eight random bytes, filled up on the left. -/
def salt (randomBytes : Bytes 8) : U256 :=
  fromBeBytes ((List.Vector.replicate 24 0 : Bytes 24) ++ randomBytes : Bytes 32)

/-- The option against the price, for two minutes from `now` on. -/
def orderComponents (optionId startAmount endAmount : U256) (now : UInt64) (salt counter : U256) :
    Seaport.OrderComponents where
  offerer := maker.address
  zone := toBytes 20 0
  offer := [{
    itemType := Grpc.asU8 Grpc.ItemType.erc1155.toI32
    token := valoremClearAddress
    identifierOrCriteria := optionId
    startAmount
    endAmount }]
  consideration := [{
    itemType := Grpc.asU8 Grpc.ItemType.erc20.toI32
    token := usdcAddress
    startAmount := usdcPrice
    endAmount := usdcPrice
    recipient := maker.address
    identifierOrCriteria := 0 }]
  orderType := Grpc.asU8 Grpc.OrderType.fullOpen.toI32
  startTime := BitVec.ofNat 256 now.toNat
  endTime := BitVec.ofNat 256 (now.toNat + 2 * 60)
  zoneHash := Seaport.zeroBytes
  salt
  conduitKey := Seaport.zeroBytes
  counter

/-- The hash `_signTypedData` signs: the domain it is given is `{}`. -/
def typedDataDigest (hash : List UInt8 → H256) (components : Seaport.OrderComponents) : H256 :=
  digest hash Domain.empty (orderStructHash hash components)

def offerItemH (item : Seaport.OfferItem) : Grpc.OfferItem where
  itemType := Int32.ofNat item.itemType.toNat
  token := some (maker.toH160 item.token)
  identifierOrCriteria := some (maker.toH256 item.identifierOrCriteria)
  startAmount := some (maker.toH256 item.startAmount)
  endAmount := some (maker.toH256 item.endAmount)

def considerationItemH (item : Seaport.ConsiderationItem) : Grpc.ConsiderationItem where
  itemType := Int32.ofNat item.itemType.toNat
  token := some (maker.toH160 item.token)
  identifierOrCriteria := some (maker.toH256 item.identifierOrCriteria)
  startAmount := some (maker.toH256 item.startAmount)
  endAmount := some (maker.toH256 item.endAmount)
  recipient := some (maker.toH160 item.recipient)

def orderH (components : Seaport.OrderComponents) : Grpc.Order where
  offerer := some (maker.toH160 components.offerer)
  zone := some (maker.toH160 components.zone)
  offer := components.offer.map (offerItemH maker)
  consideration := components.consideration.map (considerationItemH maker)
  orderType := Int32.ofNat components.orderType.toNat
  startTime := some (maker.toH256 components.startTime)
  endTime := some (maker.toH256 components.endTime)
  zoneHash := some (maker.toH256 (fromBeBytes components.zoneHash))
  salt := some (maker.toH256 components.salt)
  conduitKey := some (maker.toH256 (fromBeBytes components.conduitKey))

/-- The last part of `constructQuoteResponse`, once the option is written. -/
def constructOffer (rpc : Rpc) (quoteRequest : Grpc.QuoteRequest) (optionId : U256) :
    Task Grpc.QuoteResponse := do
  let startAmount ← Proc.lift (maker.fromH256 quoteRequest.amount)
  let endAmount ← Proc.lift (maker.fromH256 quoteRequest.amount)
  let now ← Proc.lift rpc.getBlock
  let counter ← Proc.lift rpc.getCounter
  let components := orderComponents maker optionId startAmount endAmount now (salt rpc.randomBytes) counter
  let hash := typedDataDigest maker.keccak256 components
  Proc.emit (.signDigest hash)
  return {
    ulid := quoteRequest.ulid
    makerAddress := some (maker.toH160 maker.address)
    order := some ⟨some (orderH maker components), some (Grpc.EthSignature.ofSignature (maker.signDigest hash))⟩
    chainId := none
    seaportAddress := none }

/-- The part before it, once the request is found acceptable. -/
def writeAndOffer (rpc : Rpc) (quoteRequest : Grpc.QuoteRequest) (optionId optionAmount : U256)
    (optionInfo : OptionInfo) : Task (Option Grpc.QuoteResponse) := do
  let totalUnderlyingAmount ← Proc.lift (uint 256 (optionAmount.toNat * optionInfo.underlyingAmount.toNat))
  Proc.emit (.approve valoremClearAddress totalUnderlyingAmount)
  let txReceiptApprove ← Proc.lift rpc.approve
  if txReceiptApprove.status = some 0 then
    skipping .approvalFailed
    return none
  let amount ← Proc.lift (uint 112 optionAmount.toNat)
  Proc.emit (.write optionId amount)
  let txReceiptWrite ← Proc.lift rpc.write
  if txReceiptWrite.status = some 0 then
    skipping .writeFailed
    return none
  let quoteResponse ← constructOffer maker rpc quoteRequest optionId
  return some quoteResponse

/-- A missing field is logged and used all the same; the other skips return `undefined`. -/
def constructQuoteResponse (rpc : Rpc) (quoteRequest : Grpc.QuoteRequest) :
    Task (Option Grpc.QuoteResponse) := do
  skippingWhen quoteRequest.identifierOrCriteria.isNone .identifierUndefined
  let optionId ← Proc.lift (maker.fromH256 quoteRequest.identifierOrCriteria)
  if quoteRequest.action ≠ Grpc.Action.buy.toI32 then
    skipping .notBuy
    return none
  skippingWhen quoteRequest.amount.isNone .amountUndefined
  let optionAmount ← Proc.lift (maker.fromH256 quoteRequest.amount)
  let optionInfo ← Proc.lift rpc.option
  if optionInfo.underlyingAsset ≠ wethAddress then
    skipping .notWeth
    return none
  writeAndOffer maker rpc quoteRequest optionId optionAmount optionInfo

end

end TradeInterfaces.RfqMaker
