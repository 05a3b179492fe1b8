import TradeInterfaces.Foundations.Keccak
import TradeInterfaces.Maker.Outcomes
import TradeInterfaces.RfqMaker.Skips

/-! What the two makers sign for one order. Both hash it as typed data, and they bind the
hash to different domains. -/
namespace TradeInterfaces
open Foundations.BigEndian Foundations.Effects Foundations.TypedData Ethers
open Foundations.Keccak (keccak256)
open RfqMaker (typedDataDigest orderStructHash)

def seaportDomain (name version : String) (chainId : U256) (verifyingContract : Address) : Domain :=
  ⟨some name, some version, some chainId, some verifyingContract, none⟩

/-- What the contract is relied on for: it hashes orders and its own domain as typed data. -/
structure Seaport.HashesTypedData (hash : List UInt8 → H256) (domain : Domain) (rpc : Maker.Rpc) : Prop where
  getOrderHash : rpc.getOrderHash = .ok (orderStructHash hash)
  information : rpc.information = .ok (domainSeparator hash domain)

/-- No collisions among what is hashed for the digests of one order. -/
def CollisionFree (hash : List UInt8 → H256) (domain : Domain) (components : Seaport.OrderComponents) : Prop :=
  Set.InjOn hash {message | message ∈ messages hash Domain.empty (orderStructHash hash components) ++
    messages hash domain (orderStructHash hash components)}

namespace Maker

/-- A signed order is signed by its digest. -/
theorem signHash_mem_iff {maker : MarketMaker} {rpc : Rpc} {domain : Domain} {order : Grpc.Order}
    {counter : U256} {components : Seaport.OrderComponents}
    (hseaport : Seaport.HashesTypedData maker.keccak256 domain rpc) (hcounter : rpc.getCounter = .ok counter)
    (hcomponents : orderComponents order counter = .ok components) (hash : H256) :
    .signHash hash ∈ (signOrder maker order rpc).events ↔
      hash = Foundations.TypedData.digest maker.keccak256 domain (orderStructHash maker.keccak256 components) := by
  rcases signOrder_cases maker order rpc with ⟨e, hc, _⟩ | ⟨counter', p, hc, ho, _⟩ |
    ⟨counter', components', hc, ho, ⟨e, hfail, _⟩ | ⟨orderHash, separator, hh, hi, hsign⟩⟩
  · rw [hcounter] at hc
    cases hc
  · rw [hcounter] at hc
    cases hc
    rw [hcomponents] at ho
    cases ho
  · rw [hseaport.getOrderHash, hseaport.information] at hfail
    simp at hfail
  · rw [hcounter] at hc
    cases hc
    rw [hcomponents] at ho
    cases ho
    rw [hseaport.getOrderHash] at hh
    rw [hseaport.information] at hi
    cases hh
    cases hi
    rw [hsign]
    simp only [List.mem_cons, Event.signHash.injEq, reduceCtorEq, false_or, List.not_mem_nil, or_false]
    rfl

end Maker

namespace RfqMaker

/-- The components a request leads to. -/
def requestedComponents (maker : WebMaker) (rpc : Rpc) (quoteRequest : Grpc.QuoteRequest) :
    Except Thrown Seaport.OrderComponents := do
  let optionId ← maker.fromH256 quoteRequest.identifierOrCriteria
  let startAmount ← maker.fromH256 quoteRequest.amount
  let endAmount ← maker.fromH256 quoteRequest.amount
  let now ← rpc.getBlock
  let counter ← rpc.getCounter
  return orderComponents maker optionId startAmount endAmount now (salt rpc.randomBytes) counter

private theorem signDigest_eq {maker : WebMaker} {rpc : Rpc} {quoteRequest : Grpc.QuoteRequest} {hash : H256}
    (h : .signDigest hash ∈ (constructQuoteResponse maker rpc quoteRequest).events) :
    ∃ components, requestedComponents maker rpc quoteRequest = .ok components ∧
      hash = typedDataDigest maker.keccak256 components := by
  rw [Proc.mem_events_iff] at h
  -- only the offer is signed, and it is made for the id that was read first
  have hoffer : ∃ optionId, maker.fromH256 quoteRequest.identifierOrCriteria = .ok optionId ∧
      (constructOffer maker rpc quoteRequest optionId).Emits (· = .signDigest hash) := by
    simp only [constructQuoteResponse, ne_eq, bind_pure_comp, writeAndOffer, ite_not, Proc.emits_bind,
      emits_skippingWhen, reduceCtorEq, and_false, Proc.emits_lift, Proc.emits_ite, Proc.emits_emit, Proc.emits_map,
      emits_skipping, if_false_left, Proc.returns_lift, false_or, Proc.returns_emit, exists_and_right,
      if_false_right, returns_skippingWhen] at h
    obtain ⟨optionId, hid, -, _, -, _, -, -, -, _, -, -, -, _, -, -, hoffer⟩ := h
    exact ⟨optionId, hid, hoffer⟩
  obtain ⟨optionId, hid, hsigns⟩ := hoffer
  simp only [constructOffer, bind_pure_comp, Proc.emits_bind, Proc.emits_lift, Proc.emits_map, Proc.emits_emit,
    Event.signDigest.injEq, Proc.returns_lift, false_or] at hsigns
  obtain ⟨startAmount, hs, endAmount, he, now, hn, counter, hc, rfl⟩ := hsigns
  refine ⟨orderComponents maker optionId startAmount endAmount now (salt rpc.randomBytes) counter, ?_, rfl⟩
  rw [requestedComponents, hid, hs, hn, hc]
  rw [hs] at he
  cases he
  rfl

end RfqMaker

/-- Seaport's domain has a name, so its digests are not those of the empty domain. -/
theorem typedDataDigest_ne {hash : List UInt8 → H256} {name version : String} {chainId : U256}
    {verifyingContract : Address} {components : Seaport.OrderComponents}
    (hfree : CollisionFree hash (seaportDomain name version chainId verifyingContract) components) :
    typedDataDigest hash components ≠
      digest hash (seaportDomain name version chainId verifyingContract) (orderStructHash hash components) := by
  intro h
  have htext := (digest_inj hfree h).1
  have hempty := Domain.eq_empty_of_text_eq htext.symm
  cases hempty

/-- For one set of components, the web maker signs the order hash under the empty domain,
the market maker signs it under Seaport's, and the two hashes differ. -/
theorem makers_sign_differently (hash : List UInt8 → H256) (name version : String) (chainId : U256)
    (verifyingContract : Address) (components : Seaport.OrderComponents)
    (hfree : CollisionFree hash (seaportDomain name version chainId verifyingContract) components) :
    let separator := domainSeparator hash (seaportDomain name version chainId verifyingContract)
    let expected := hash ([0x19, 0x01] ++ separator.toList ++ (orderStructHash hash components).toList)
    (∀ (maker : RfqMaker.WebMaker) (rpc : RfqMaker.Rpc) (quoteRequest : Grpc.QuoteRequest),
      maker.keccak256 = hash → RfqMaker.requestedComponents maker rpc quoteRequest = .ok components →
      ∀ signed, .signDigest signed ∈ (RfqMaker.constructQuoteResponse maker rpc quoteRequest).events →
        signed = typedDataDigest hash components) ∧
    (∀ (maker : Maker.MarketMaker) (rpc : Maker.Rpc) (order : Grpc.Order) (counter : U256),
      maker.keccak256 = hash →
      Seaport.HashesTypedData hash (seaportDomain name version chainId verifyingContract) rpc →
      rpc.getCounter = .ok counter → Maker.orderComponents order counter = .ok components →
      ∀ signed, .signHash signed ∈ (Maker.signOrder maker order rpc).events ↔ signed = expected) ∧
    typedDataDigest hash components ≠ expected := by
  intro separator expected
  refine ⟨?_, ?_, typedDataDigest_ne hfree⟩
  · rintro maker rpc quoteRequest rfl hcomponents signed hsigned
    obtain ⟨built, hbuilt, hdigest⟩ := RfqMaker.signDigest_eq hsigned
    rw [hcomponents] at hbuilt
    cases hbuilt
    exact hdigest
  · rintro maker rpc order counter rfl hseaport hcounter hcomponents signed
    exact Maker.signHash_mem_iff hseaport hcounter hcomponents signed

/-- Five options, as the web maker offers them. -/
def plainComponents : Seaport.OrderComponents :=
  RfqMaker.orderComponents RfqMaker.plainMaker 42 5 5 1700000000 7 0

def arbitrumSepolia : Domain := seaportDomain "Seaport" "1.5" 421614 Seaport.seaportContractAddress

def typedMaker : Maker.MarketMaker := { Maker.sampleMaker with keccak256 := keccak256 }

def typedRpc : Maker.Rpc := { Maker.sampleRpc with
  getOrderHash := .ok (orderStructHash keccak256)
  information := .ok (domainSeparator keccak256 arbitrumSepolia) }

private theorem plain_structHash : orderStructHash keccak256 plainComponents =
    toBytes 32 0x51318672a747b05547abf4ba024ceec8b9735b0256250c42a6cc23b86e9dbc8b := by decide +kernel

private theorem empty_typeHash : keccak256 (utf8 Domain.empty.text) =
    toBytes 32 0x20bcc3f8105eea47d067386e42e60246e89393cd61c512edd1e87688890fb914 := by decide +kernel

private theorem empty_separator : domainSeparator keccak256 Domain.empty =
    toBytes 32 0x6192106f129ce05c9075d319c1fa6ea9b3ae37cbd0c1ef92e2be7137bb07baa1 := by decide +kernel

private theorem sepolia_typeHash : keccak256 (utf8 arbitrumSepolia.text) =
    toBytes 32 0x8b73c3c69bb8fe3d512ecc4cf759cc79239f7b179b0ffacaa9a75d522b39400f := by decide +kernel

private theorem sepolia_separator : domainSeparator keccak256 arbitrumSepolia =
    toBytes 32 0xca3ac04126ef3ec45d1b5224ce1ac98d6f9c7ef6959abb93253ad130b29b7120 := by decide +kernel

private theorem empty_digest : digest keccak256 Domain.empty (orderStructHash keccak256 plainComponents) =
    toBytes 32 0x7a2d94d530c254572210657c68ee924072664128c1fa0766a1ec56d8e3ca5d3f := by
  rw [digest, plain_structHash, empty_separator]
  decide +kernel

private theorem sepolia_digest : digest keccak256 arbitrumSepolia (orderStructHash keccak256 plainComponents) =
    toBytes 32 0xe56dc353739653871c10b16d9cf774edf1cf00d90e41e0f26c721d823848a597 := by
  rw [digest, plain_structHash, sepolia_separator]
  decide +kernel

private theorem plain_collisionFree : CollisionFree keccak256 arbitrumSepolia plainComponents := by
  have hdistinct : ((messages keccak256 Domain.empty (orderStructHash keccak256 plainComponents) ++
      messages keccak256 arbitrumSepolia (orderStructHash keccak256 plainComponents)).map keccak256).Nodup := by
    rw [List.map_append, map_messages, map_messages, empty_typeHash, empty_separator, empty_digest,
      sepolia_typeHash, sepolia_separator, sepolia_digest]
    decide +kernel
  exact List.inj_on_of_nodup_map hdistinct

/-- On Arbitrum Sepolia, the web maker's signature over this order is over another hash. -/
theorem makers_sign_differently_plain : typedDataDigest keccak256 plainComponents ≠
    keccak256 ([0x19, 0x01] ++ (domainSeparator keccak256 arbitrumSepolia).toList ++
      (orderStructHash keccak256 plainComponents).toList) :=
  (makers_sign_differently keccak256 "Seaport" "1.5" 421614 Seaport.seaportContractAddress plainComponents
    plain_collisionFree).2.2

/-- One request and one set of components, and what each maker signs for it. -/
theorem plain_digests :
    RfqMaker.requestedComponents RfqMaker.plainMaker RfqMaker.plainTurn.rpc RfqMaker.plainTurn.quoteRequest =
      .ok plainComponents ∧
    Maker.orderComponents (RfqMaker.orderH RfqMaker.plainMaker plainComponents) 0 = .ok plainComponents ∧
    .signDigest (toBytes 32 0x7a2d94d530c254572210657c68ee924072664128c1fa0766a1ec56d8e3ca5d3f) ∈
      (RfqMaker.constructQuoteResponse RfqMaker.plainMaker RfqMaker.plainTurn.rpc
        RfqMaker.plainTurn.quoteRequest).events ∧
    .signHash (toBytes 32 0xe56dc353739653871c10b16d9cf774edf1cf00d90e41e0f26c721d823848a597) ∈
      (Maker.signOrder typedMaker (RfqMaker.orderH RfqMaker.plainMaker plainComponents) typedRpc).events ∧
    toBytes 32 0x7a2d94d530c254572210657c68ee924072664128c1fa0766a1ec56d8e3ca5d3f ≠
      toBytes 32 0xe56dc353739653871c10b16d9cf774edf1cf00d90e41e0f26c721d823848a597 := by
  have hcomponents : Maker.orderComponents (RfqMaker.orderH RfqMaker.plainMaker plainComponents) 0 =
      .ok plainComponents := by rfl
  have hevents : (RfqMaker.constructQuoteResponse RfqMaker.plainMaker RfqMaker.plainTurn.rpc
      RfqMaker.plainTurn.quoteRequest).events =
      [.approve RfqMaker.valoremClearAddress 5000, .write 42 5,
        .signDigest (typedDataDigest keccak256 plainComponents)] := by rfl
  refine ⟨by rfl, hcomponents, ?_, ?_, by decide +kernel⟩
  · rw [hevents, typedDataDigest, empty_digest]
    simp
  · have hseaport : Seaport.HashesTypedData typedMaker.keccak256 arbitrumSepolia typedRpc := ⟨rfl, rfl⟩
    exact (Maker.signHash_mem_iff hseaport rfl hcomponents _).mpr sepolia_digest.symm

end TradeInterfaces
