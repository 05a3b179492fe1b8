import TradeInterfaces.Maker.Calls

/-! What the hard and the soft quote have in common: the items of both sides, the
salt, the time window and the responses without an order. -/
namespace TradeInterfaces.Maker
open Foundations.BigEndian Foundations.Panics Foundations.Effects Ethers

/-- The hardcoded price: 10 USDC in its smallest unit. -/
def price : Except Panic U256 := checkedMul 10 (exp10 6)

def optionOffer (maker : MarketMaker) (identifier amount : Option Grpc.H256) : Grpc.OfferItem where
  itemType := Grpc.ItemType.erc1155.toI32
  token := some (.ofHash maker.settlementEngine)
  identifierOrCriteria := identifier
  startAmount := amount
  endAmount := amount

def optionConsideration (maker : MarketMaker) (identifier amount : Option Grpc.H256) :
    Grpc.ConsiderationItem where
  itemType := Grpc.ItemType.erc1155.toI32
  token := some (.ofHash maker.settlementEngine)
  identifierOrCriteria := identifier
  startAmount := amount
  endAmount := amount
  recipient := some (.ofHash maker.address)

def priceOffer (maker : MarketMaker) (amount : U256) : Grpc.OfferItem where
  itemType := Grpc.ItemType.erc20.toI32
  token := some (.ofHash maker.usdcAddress)
  identifierOrCriteria := none
  startAmount := some (.ofU256 amount)
  endAmount := some (.ofU256 amount)

def priceConsideration (maker : MarketMaker) (amount : U256) : Grpc.ConsiderationItem where
  itemType := Grpc.ItemType.erc20.toI32
  token := some (.ofHash maker.usdcAddress)
  identifierOrCriteria := none
  startAmount := some (.ofU256 amount)
  endAmount := some (.ofU256 amount)
  recipient := some (.ofHash maker.address)

def domainTag : U256 := 0x60DD32CF

/-- The bits that the domain tag takes, as the handlers compute them. -/
def tagMask : Except Panic U256 := do
  return saturatingSub (← checkedPow 2 32) 1

/-- Random bits with the low 32 replaced by Valorem's domain tag. -/
def taggedSalt (entropy : U128) : Except Panic U256 := do
  let mask ← tagMask
  checkedAdd (entropy.setWidth 256 &&& ~~~mask) domainTag

def ofSeconds (time : UInt64) : U256 := BitVec.ofNat 256 time.toNat

/-- How long an offer stays open, in seconds. -/
def validity : U256 := 1200

/-- The order around the two items. The clock is read twice, first for the start. -/
def quoteParameters (maker : MarketMaker) (offered : Grpc.OfferItem) (considered : Grpc.ConsiderationItem)
    (rpc : Rpc) : Except Panic Grpc.Order := do
  let now := Grpc.H256.ofU256 (ofSeconds rpc.timeNow)
  let nowPlus30Minutes := Grpc.H256.ofU256 (← checkedAdd (ofSeconds rpc.timeNowAgain) validity)
  let salt ← taggedSalt rpc.entropy
  return {
    zone := none
    zoneHash := none
    conduitKey := none
    orderType := Grpc.OrderType.fullOpen.toI32
    offerer := some (.ofHash maker.address)
    offer := [offered]
    startTime := some now
    endTime := some nowPlus30Minutes
    consideration := [considered]
    salt := some (.ofU256 salt) }

def createNoOffer (maker : MarketMaker) (requestForQuote : Grpc.QuoteRequest) : Grpc.QuoteResponse where
  ulid := requestForQuote.ulid
  makerAddress := some (.ofHash maker.address)
  order := none
  chainId := requestForQuote.chainId
  seaportAddress := requestForQuote.seaportAddress

def createSoftQuoteNoOffer (maker : MarketMaker) (requestForQuote : Grpc.QuoteRequest) :
    Grpc.SoftQuoteResponse where
  ulid := requestForQuote.ulid
  makerAddress := some (.ofHash maker.address)
  order := none
  chainId := requestForQuote.chainId
  seaportAddress := requestForQuote.seaportAddress

theorem price_eq : price = .ok 10000000 := by decide +kernel

def lowBits : U256 := 4294967295

private theorem tagMask_eq : tagMask = .ok lowBits := by decide +kernel

private theorem masked_lt (entropy : U128) (mask : U256) :
    (entropy.setWidth 256 &&& ~~~mask).toNat + domainTag.toNat < 2^256 := by
  have hand : (entropy.setWidth 256 &&& ~~~mask).toNat ≤ entropy.toNat := by
    rw [BitVec.toNat_and, BitVec.toNat_setWidth_of_le (by omega)]
    exact Nat.and_le_left
  have hlt := entropy.isLt
  have htag : domainTag.toNat = 0x60DD32CF := by decide +kernel
  omega

def tagged (entropy : U128) : U256 := (entropy.setWidth 256 &&& ~~~lowBits) + domainTag

/-- Clearing bits of a 128-bit value leaves room for the tag: the sum cannot overflow. -/
theorem taggedSalt_ok (entropy : U128) : taggedSalt entropy = .ok (tagged entropy) := by
  rw [taggedSalt, tagMask_eq, ok_bind, checkedAdd_ok (masked_lt entropy lowBits), tagged]

private theorem toNat_ofSeconds (time : UInt64) : (ofSeconds time).toNat = time.toNat := by
  have := time.toNat_lt
  rw [ofSeconds, BitVec.toNat_ofNat, Nat.mod_eq_of_lt (by omega)]

private theorem window_lt (time : UInt64) : (ofSeconds time).toNat + validity.toNat < 2^256 := by
  have := time.toNat_lt
  have hv : validity.toNat = 1200 := by decide +kernel
  rw [toNat_ofSeconds]
  omega

/-- The end of the window lies after its start when the clock does not run backwards. -/
theorem window_nonempty {start later : UInt64} (h : start ≤ later) :
    (ofSeconds start).toNat < (ofSeconds later + validity).toNat := by
  have hv : validity.toNat = 1200 := by decide +kernel
  have hlt := window_lt later
  rw [BitVec.toNat_add, Nat.mod_eq_of_lt hlt, toNat_ofSeconds, toNat_ofSeconds, hv]
  have := UInt64.le_iff_toNat_le.mp h
  omega

/-- The order that is built, whatever the clock and the random bits are. -/
def quoteOrder (maker : MarketMaker) (offered : Grpc.OfferItem) (considered : Grpc.ConsiderationItem)
    (rpc : Rpc) : Grpc.Order where
  zone := none
  zoneHash := none
  conduitKey := none
  orderType := Grpc.OrderType.fullOpen.toI32
  offerer := some (.ofHash maker.address)
  offer := [offered]
  startTime := some (.ofU256 (ofSeconds rpc.timeNow))
  endTime := some (.ofU256 (ofSeconds rpc.timeNowAgain + validity))
  consideration := [considered]
  salt := some (.ofU256 (tagged rpc.entropy))

/-- Building the order never panics. -/
theorem quoteParameters_ok (maker : MarketMaker) (offered : Grpc.OfferItem)
    (considered : Grpc.ConsiderationItem) (rpc : Rpc) :
    quoteParameters maker offered considered rpc = .ok (quoteOrder maker offered considered rpc) := by
  rw [quoteParameters, checkedAdd_ok (window_lt _), ok_bind, taggedSalt_ok, ok_bind]
  rfl

end TradeInterfaces.Maker
