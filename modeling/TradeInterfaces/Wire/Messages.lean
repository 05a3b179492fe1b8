import TradeInterfaces.Foundations.BigEndian

/-! The messages of the trade API as prost generates them, and the ethers types
they carry: sub-messages are optional, an enum field is an `i32`. -/
namespace TradeInterfaces

namespace Ethers
open Foundations.BigEndian

abbrev U128 := BitVec 128
abbrev U256 := BitVec 256
abbrev H128 := Bytes 16
abbrev H160 := Bytes 20
abbrev H256 := Bytes 32
abbrev Address := H160

def exp10 (n : Nat) : U256 := BitVec.ofNat 256 (10^n)

structure Signature where
  r : U256
  s : U256
  v : UInt64
  deriving DecidableEq

end Ethers

namespace Grpc

structure H128 where
  hi : UInt64
  lo : UInt64
  deriving DecidableEq

instance : Inhabited H128 := ⟨⟨0, 0⟩⟩

structure H160 where
  hi : Option H128
  lo : UInt32
  deriving DecidableEq

instance : Inhabited H160 := ⟨⟨none, 0⟩⟩

structure H256 where
  hi : Option H128
  lo : Option H128
  deriving DecidableEq

instance : Inhabited H256 := ⟨⟨none, none⟩⟩

structure EthSignature where
  r : List UInt8
  s : List UInt8
  v : List UInt8
  deriving DecidableEq

inductive ItemType where
  | native | erc20 | erc721 | erc1155 | erc721WithCriteria | erc1155WithCriteria
  deriving DecidableEq

def ItemType.toI32 : ItemType → Int32
  | .native => 0 | .erc20 => 1 | .erc721 => 2 | .erc1155 => 3
  | .erc721WithCriteria => 4 | .erc1155WithCriteria => 5

def ItemType.fromI32 (value : Int32) : Option ItemType :=
  if value = 0 then some .native
  else if value = 1 then some .erc20
  else if value = 2 then some .erc721
  else if value = 3 then some .erc1155
  else if value = 4 then some .erc721WithCriteria
  else if value = 5 then some .erc1155WithCriteria
  else none

inductive OrderType where
  | fullOpen | partialOpen | fullRestricted | partialRestricted
  deriving DecidableEq

def OrderType.toI32 : OrderType → Int32
  | .fullOpen => 0 | .partialOpen => 1 | .fullRestricted => 2 | .partialRestricted => 3

inductive Action where
  | buy | sell | invalid
  deriving DecidableEq

def Action.toI32 : Action → Int32
  | .buy => 0 | .sell => 1 | .invalid => 255

def Action.fromI32 (value : Int32) : Option Action :=
  if value = 0 then some .buy
  else if value = 1 then some .sell
  else if value = 255 then some .invalid
  else none

structure OfferItem where
  itemType : Int32
  token : Option H160
  identifierOrCriteria : Option H256
  startAmount : Option H256
  endAmount : Option H256
  deriving DecidableEq

structure ConsiderationItem where
  itemType : Int32
  token : Option H160
  identifierOrCriteria : Option H256
  startAmount : Option H256
  endAmount : Option H256
  recipient : Option H160
  deriving DecidableEq

structure Order where
  offerer : Option H160
  zone : Option H160
  offer : List OfferItem
  consideration : List ConsiderationItem
  orderType : Int32
  startTime : Option H256
  endTime : Option H256
  zoneHash : Option H256
  salt : Option H256
  conduitKey : Option H256
  deriving DecidableEq

structure SignedOrder where
  parameters : Option Order
  signature : Option EthSignature
  deriving DecidableEq

structure QuoteRequest where
  ulid : Option H128
  takerAddress : Option H160
  itemType : Int32
  tokenAddress : Option H160
  identifierOrCriteria : Option H256
  amount : Option H256
  action : Int32
  chainId : Option H256
  seaportAddress : Option H160
  deriving DecidableEq

structure QuoteResponse where
  ulid : Option H128
  makerAddress : Option H160
  order : Option SignedOrder
  chainId : Option H256
  seaportAddress : Option H160
  deriving DecidableEq

structure SoftQuoteResponse where
  ulid : Option H128
  makerAddress : Option H160
  order : Option Order
  chainId : Option H256
  seaportAddress : Option H160
  deriving DecidableEq

end Grpc
end TradeInterfaces
