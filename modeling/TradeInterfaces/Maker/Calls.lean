import TradeInterfaces.Foundations.Effects
import TradeInterfaces.Seaport.Bindings

/-! The maker's surroundings: its wallet and contracts, the outcomes of the calls
made for one request, and the effects a request can have. -/
namespace TradeInterfaces.Maker
open Foundations.BigEndian Foundations.Panics Foundations.Effects Ethers

structure RawLog where
  topics : List H256
  data : List UInt8

structure Log where
  address : Address
  topics : List H256
  data : List UInt8

structure TransactionReceipt where
  logs : List Log

structure OptionsWrittenFilter where
  optionId : U256
  writer : Address
  claimId : U256
  amount : U128

/-- Decoded events of the settlement engine. Only `OptionsWritten` is looked at. -/
inductive SettlementEngineEvents where
  | optionsWrittenFilter (event : OptionsWrittenFilter)
  | other

/-- The local wallet, the contracts, the provider's chain, and the library functions
that are not part of this repository. -/
structure MarketMaker where
  address : Address
  signHash : H256 → Signature
  settlementEngine : Address
  usdcAddress : Address
  chainId : U256
  keccak256 : List UInt8 → H256
  decodeLog : RawLog → Option SettlementEngineEvents

/-- Outcomes of the calls one request can make. `writeEffect` is what the write
transaction did on chain, whatever the calls about it report: the option id it wrote.
The order hash is a function of the components; of `information` only the domain
separator is read. The clock is read twice, in seconds since the epoch. -/
structure Rpc where
  sendTransaction : Except String Unit
  writeEffect : Option U256
  pendingTx : Except String (Option TransactionReceipt)
  getCounter : Except String U256
  getOrderHash : Except String (Seaport.OrderComponents → H256)
  information : Except String (Bytes 32)
  getChainid : Except String Unit
  timeNow : UInt64
  timeNowAgain : UInt64
  entropy : U128

structure WriteTx where
  contract : Address
  optionType : U256
  amount : U128
  gas : U256
  gasPrice : U256
  deriving DecidableEq

/-- What a request makes the maker do. `optionsWritten` happens on the provider's chain. -/
inductive Event where
  | sendTransaction (tx : WriteTx)
  | optionsWritten (optionId : U256) (amount : U128)
  | getOrderHash (components : Seaport.OrderComponents)
  | signHash (hash : H256)
  | queueQuote (response : Grpc.QuoteResponse)
  | queueSoftQuote (response : Grpc.SoftQuoteResponse)
  deriving DecidableEq

abbrev Task := Proc Panic Event

def fetchChainId (maker : MarketMaker) (rpc : Rpc) : Option U256 :=
  match rpc.getChainid with
  | .ok () => some maker.chainId
  | .error _ => none

end TradeInterfaces.Maker
