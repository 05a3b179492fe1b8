import TradeInterfaces.Wire.Signatures

/-! The Seaport contract's types, and the two fields that maker and taker encode
with the same code. -/
namespace TradeInterfaces.Seaport
open Foundations.BigEndian Ethers

structure OfferItem where
  itemType : UInt8
  token : Address
  identifierOrCriteria : U256
  startAmount : U256
  endAmount : U256
  deriving DecidableEq

structure ConsiderationItem where
  itemType : UInt8
  token : Address
  identifierOrCriteria : U256
  startAmount : U256
  endAmount : U256
  recipient : Address
  deriving DecidableEq

structure OrderComponents where
  offerer : Address
  zone : Address
  offer : List OfferItem
  consideration : List ConsiderationItem
  orderType : UInt8
  startTime : U256
  endTime : U256
  zoneHash : Bytes 32
  salt : U256
  conduitKey : Bytes 32
  counter : U256
  deriving DecidableEq

structure OrderParameters where
  offerer : Address
  zone : Address
  offer : List OfferItem
  consideration : List ConsiderationItem
  orderType : UInt8
  startTime : U256
  endTime : U256
  zoneHash : Bytes 32
  salt : U256
  conduitKey : Bytes 32
  totalOriginalConsiderationItems : U256
  deriving DecidableEq

structure Order where
  parameters : OrderParameters
  signature : List UInt8
  deriving DecidableEq

/-- Seaport 1.5. Maker and taker parse the same literal. -/
def seaportContractAddress : Address := toBytes 20 0x00000000000000ADc04C56Bf30aC9d3c0aAF14dC

def zeroBytes : Bytes 32 := List.Vector.replicate 32 0

/-- Encoding of `zone_hash` and `conduit_key`: the default message and an absent
one both leave the array filled with zeros. -/
def hashBytes (param : Option Grpc.H256) : Bytes 32 :=
  match param with
  | some param => if param ≠ default then toBeBytes param.toU256 else zeroBytes
  | none => zeroBytes

/-- What the taker submits and what the maker had hashed agree in every field they share. -/
structure Agrees (parameters : OrderParameters) (components : OrderComponents) : Prop where
  offerer : parameters.offerer = components.offerer
  zone : parameters.zone = components.zone
  offer : parameters.offer = components.offer
  consideration : parameters.consideration = components.consideration
  orderType : parameters.orderType = components.orderType
  startTime : parameters.startTime = components.startTime
  endTime : parameters.endTime = components.endTime
  zoneHash : parameters.zoneHash = components.zoneHash
  salt : parameters.salt = components.salt
  conduitKey : parameters.conduitKey = components.conduitKey

end TradeInterfaces.Seaport
