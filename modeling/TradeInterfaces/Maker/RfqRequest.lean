import TradeInterfaces.Maker.Quotes
import TradeInterfaces.Maker.SignOrder
import TradeInterfaces.Maker.WriteOption

/-! The hard quote: a request is validated, an option is written for a Buy, and the
order is signed. -/
namespace TradeInterfaces.Maker
open Foundations.BigEndian Foundations.Panics Foundations.Effects Ethers

def validateRfq (seaportAddress : Address) (rfq : Grpc.QuoteRequest) : Option Grpc.QuoteRequest :=
  if rfq.ulid.isNone then none
  else if Grpc.ItemType.ofI32 rfq.itemType ≠ .erc1155 then none
  else if rfq.tokenAddress.isNone then none
  else if rfq.identifierOrCriteria.isNone then none
  else
    match rfq.amount with
    | none => none
    | some amount =>
      if amount.toU256 = 0 then none
      else if Grpc.Action.ofI32 rfq.action = .invalid then none
      else
        match rfq.seaportAddress with
        | none => none
        | some rfqSeaportAddress =>
          if seaportAddress ≠ rfqSeaportAddress.toHash then none else some rfq

/-- Both sides of the order, or `none` where the handler returns without an offer. -/
def rfqItems (maker : MarketMaker) (requestForQuote : Grpc.QuoteRequest) (rpc : Rpc) (price : U256) :
    Task (Option (Grpc.OfferItem × Grpc.ConsiderationItem)) :=
  match Grpc.Action.ofI32 requestForQuote.action with
  | .buy => do
      let _ ← Proc.lift (unwrap requestForQuote.identifierOrCriteria)
      let some (optionId, _) ← writeOption maker requestForQuote rpc | return none
      return some (optionOffer maker (some (.ofU256 optionId)) requestForQuote.amount,
        priceConsideration maker price)
  | .sell => do
      let identifier ← Proc.lift (unwrap requestForQuote.identifierOrCriteria)
      return some (priceOffer maker price,
        optionConsideration maker (some (.ofU256 identifier.toU256)) requestForQuote.amount)
  | .invalid => return none

/-- The end of the handler: the order is signed and put into the response. -/
def signedResponse (maker : MarketMaker) (seaport : Address) (requestForQuote : Grpc.QuoteRequest)
    (parameters : Grpc.Order) (rpc : Rpc) : Task (Option Grpc.QuoteResponse) := do
  let some signedOrder ← signOrder maker parameters rpc | return none
  let some chainId := fetchChainId maker rpc | return none
  return some {
    ulid := requestForQuote.ulid
    makerAddress := some (.ofHash maker.address)
    order := some signedOrder
    chainId := some (.ofU256 chainId)
    seaportAddress := some (.ofHash seaport) }

def handleRfqRequest (maker : MarketMaker) (seaport : Address) (requestForQuote : Grpc.QuoteRequest)
    (rpc : Rpc) : Task (Option Grpc.QuoteResponse) := do
  let price ← Proc.lift price
  let some (offeredItem, considerationItem) ← rfqItems maker requestForQuote rpc price
    | return some (createNoOffer maker requestForQuote)
  let parameters ← Proc.lift (quoteParameters maker offeredItem considerationItem rpc)
  signedResponse maker seaport requestForQuote parameters rpc

/-- What a request has to be for the maker to consider it. -/
structure ValidRfq (seaportAddress : Address) (rfq : Grpc.QuoteRequest) : Prop where
  ulid : rfq.ulid.isSome
  itemType : Grpc.ItemType.ofI32 rfq.itemType = .erc1155
  tokenAddress : rfq.tokenAddress.isSome
  identifier : rfq.identifierOrCriteria.isSome
  amount : ∃ amount, rfq.amount = some amount ∧ amount.toU256 ≠ 0
  action : Grpc.Action.ofI32 rfq.action ≠ .invalid
  seaport : ∃ a, rfq.seaportAddress = some a ∧ a.toHash = seaportAddress

theorem validateRfq_eq_some_iff {seaportAddress : Address} {rfq out : Grpc.QuoteRequest} :
    validateRfq seaportAddress rfq = some out ↔ ValidRfq seaportAddress rfq ∧ out = rfq := by
  unfold validateRfq
  simp only [Option.ite_none_left_eq_some, Bool.not_eq_true, Option.isNone_eq_false_iff, not_not]
  constructor
  · intro ⟨hulid, hitem, htoken, hid, h⟩
    cases ha : rfq.amount with
    | none =>
      rw [ha] at h
      cases h
    | some amount =>
      simp only [ha, Option.ite_none_left_eq_some] at h
      obtain ⟨hamount, haction, h⟩ := h
      cases hs : rfq.seaportAddress with
      | none =>
        rw [hs] at h
        cases h
      | some a =>
        simp only [hs, Option.ite_none_left_eq_some, not_not, Option.some.injEq] at h
        exact ⟨⟨hulid, hitem, htoken, hid, ⟨amount, ha, hamount⟩, haction, ⟨a, hs, h.1.symm⟩⟩, h.2.symm⟩
  · rintro ⟨⟨hulid, hitem, htoken, hid, ⟨amount, ha, hamount⟩, haction, ⟨a, hs, hsame⟩⟩, rfl⟩
    rw [ha]
    dsimp only
    rw [if_neg hamount, if_neg haction, hs]
    exact ⟨hulid, hitem, htoken, hid, if_neg (not_not.mpr hsame.symm)⟩

theorem validateRfq_isSome_iff {seaportAddress : Address} {rfq : Grpc.QuoteRequest} :
    (validateRfq seaportAddress rfq).isSome ↔ ValidRfq seaportAddress rfq := by
  rw [Option.isSome_iff_exists]
  constructor
  · rintro ⟨out, h⟩
    exact (validateRfq_eq_some_iff.mp h).1
  · intro h
    exact ⟨rfq, validateRfq_eq_some_iff.mpr ⟨h, rfl⟩⟩

/-- The components of a quote, for any counter: the fields that are unwrapped are set. -/
def quoteComponents (maker : MarketMaker) (offered : Grpc.OfferItem) (considered : Grpc.ConsiderationItem)
    (rpc : Rpc) (counter : U256) : Seaport.OrderComponents where
  offerer := maker.address
  zone := (default : Grpc.H160).toHash
  offer := [offerItem offered]
  consideration := [considerationItem considered]
  orderType := 0
  startTime := ofSeconds rpc.timeNow
  endTime := ofSeconds rpc.timeNowAgain + validity
  zoneHash := Seaport.zeroBytes
  salt := tagged rpc.entropy
  conduitKey := Seaport.zeroBytes
  counter

theorem orderComponents_quoteOrder (maker : MarketMaker) (offered : Grpc.OfferItem)
    (considered : Grpc.ConsiderationItem) (rpc : Rpc) (counter : U256) :
    orderComponents (quoteOrder maker offered considered rpc) counter =
      .ok (quoteComponents maker offered considered rpc counter) := by
  apply (orderComponents_ok_iff _ _ _).mpr
  refine ⟨_, _, _, _, rfl, rfl, rfl, rfl, ?_⟩
  simp [quoteComponents, quoteOrder, Seaport.hashBytes]
  rfl

/-- The calls made after the write all succeed. -/
structure Answers (rpc : Rpc) : Prop where
  getCounter : ∃ counter, rpc.getCounter = .ok counter
  getOrderHash : ∃ orderHash, rpc.getOrderHash = .ok orderHash
  information : ∃ domainSeparator, rpc.information = .ok domainSeparator
  getChainid : rpc.getChainid = .ok ()

theorem signedResponse_cases (maker : MarketMaker) (seaport : Address) (rfq : Grpc.QuoteRequest)
    (offered : Grpc.OfferItem) (considered : Grpc.ConsiderationItem) (rpc : Rpc) :
    (¬Answers rpc ∧ (signedResponse maker seaport rfq (quoteOrder maker offered considered rpc) rpc).outcome =
        .ok none ∧
      ∀ e ∈ (signedResponse maker seaport rfq (quoteOrder maker offered considered rpc) rpc).events,
        (∃ components, e = .getOrderHash components) ∨ ∃ hash, e = .signHash hash) ∨
    Answers rpc ∧ ∃ components hash,
      signedResponse maker seaport rfq (quoteOrder maker offered considered rpc) rpc =
        ⟨.ok (some ⟨rfq.ulid, some (.ofHash maker.address),
            some ⟨some (quoteOrder maker offered considered rpc), some (.ofSignature (maker.signHash hash))⟩,
            some (.ofU256 maker.chainId), some (.ofHash seaport)⟩),
          [.getOrderHash components, .signHash hash]⟩ := by
  unfold signedResponse
  rcases signOrder_cases maker (quoteOrder maker offered considered rpc) rpc with
    ⟨e, hc, h⟩ | ⟨counter, p, _, ho, _⟩ | ⟨counter, components, hc, ho, ⟨e, hf, h⟩ | ⟨orderHash, ds, hh, hi, h⟩⟩
  · refine .inl ⟨fun ha => ?_, by simp [h, Proc.bind_of_ok], by simp [h, Proc.bind_of_ok]⟩
    obtain ⟨counter, hok⟩ := ha.getCounter
    rw [hc] at hok
    cases hok
  · rw [orderComponents_quoteOrder] at ho
    cases ho
  · refine .inl ⟨fun ha => ?_, by simp [h, Proc.bind_of_ok], by simp [h, Proc.bind_of_ok]⟩
    obtain ⟨_, hok⟩ := ha.getOrderHash
    obtain ⟨_, hok'⟩ := ha.information
    rcases hf with hf | hf <;> simp_all
  · cases hid : rpc.getChainid with
    | error e =>
      refine .inl ⟨fun ha => ?_, by simp [h, Proc.bind_of_ok, fetchChainId, hid],
        by simp [h, Proc.bind_of_ok, fetchChainId, hid]⟩
      rw [ha.getChainid] at hid
      cases hid
    | ok u =>
      refine .inr ⟨⟨⟨counter, hc⟩, ⟨orderHash, hh⟩, ⟨ds, hi⟩, hid⟩, components,
        digest maker ds (orderHash components), ?_⟩
      simp [h, Proc.bind_of_ok, fetchChainId, hid]

/-- What the handler does before it builds the order, for each action: a Buy writes
first, and only the amount can stop it by a panic. -/
theorem rfqItems_cases (maker : MarketMaker) {rfq : Grpc.QuoteRequest} {id amount : Grpc.H256}
    (hi : rfq.identifierOrCriteria = some id) (ha : rfq.amount = some amount) (rpc : Rpc) (price : U256) :
    (Grpc.Action.ofI32 rfq.action = .buy ∧ 2^128 ≤ amount.toU256.toNat ∧
      rfqItems maker rfq rpc price = ⟨.error .overflow, []⟩) ∨
    (Grpc.Action.ofI32 rfq.action = .buy ∧ ∃ n, asU128 amount.toU256 = .ok n ∧
      (writtenIds maker rpc = none ∧
          rfqItems maker rfq rpc price = ⟨.ok none, writeEvents maker id.toU256 n writeGasPrice rpc⟩ ∨
        ∃ optionId claimId, writtenIds maker rpc = some (optionId, claimId) ∧
          rfqItems maker rfq rpc price =
            ⟨.ok (some (optionOffer maker (some (.ofU256 optionId)) rfq.amount, priceConsideration maker price)),
              writeEvents maker id.toU256 n writeGasPrice rpc⟩)) ∨
    (Grpc.Action.ofI32 rfq.action = .sell ∧
      rfqItems maker rfq rpc price =
        ⟨.ok (some (priceOffer maker price,
          optionConsideration maker (some (.ofU256 id.toU256)) rfq.amount)), []⟩) ∨
    (Grpc.Action.ofI32 rfq.action = .invalid ∧ rfqItems maker rfq rpc price = ⟨.ok none, []⟩) := by
  cases hact : Grpc.Action.ofI32 rfq.action with
  | buy =>
    cases hn : asU128 amount.toU256 with
    | error p =>
      obtain ⟨hlarge, rfl⟩ := asU128_error_iff.mp hn
      refine .inl ⟨rfl, hlarge, ?_⟩
      rw [rfqItems, hact]
      simp only [hi, unwrap_some, Proc.lift_ok_bind, writeOption_of_overflow maker rfq rpc hi ha hn]
      exact Proc.bind_of_error rfl _
    | ok n =>
      refine .inr (.inl ⟨rfl, n, rfl, ?_⟩)
      have hw := writeOption_of_fits maker rfq rpc hi ha hn
      rw [rfqItems, hact]
      simp only [hi, unwrap_some, Proc.lift_ok_bind, hw]
      cases hids : writtenIds maker rpc with
      | none => exact .inl ⟨rfl, by rw [Proc.bind_of_ok rfl]; simp⟩
      | some ids => exact .inr ⟨ids.1, ids.2, rfl, by rw [Proc.bind_of_ok rfl]; simp⟩
  | sell =>
    refine .inr (.inr (.inl ⟨rfl, ?_⟩))
    rw [rfqItems, hact]
    simp only [hi, unwrap_some, Proc.lift_ok_bind]
    rfl
  | invalid =>
    refine .inr (.inr (.inr ⟨rfl, ?_⟩))
    rw [rfqItems, hact]
    rfl

section
variable {maker : MarketMaker} (seaport : Address) {rfq : Grpc.QuoteRequest} {rpc : Rpc} {events : List Event}

theorem handleRfqRequest_of_panic {p : Panic} (h : rfqItems maker rfq rpc 10000000 = ⟨.error p, events⟩) :
    handleRfqRequest maker seaport rfq rpc = ⟨.error p, events⟩ := by
  simp only [handleRfqRequest, price_eq, Proc.lift_ok_bind, h]
  exact Proc.bind_of_error rfl _

theorem handleRfqRequest_of_noOffer (h : rfqItems maker rfq rpc 10000000 = ⟨.ok none, events⟩) :
    handleRfqRequest maker seaport rfq rpc = ⟨.ok (some (createNoOffer maker rfq)), events⟩ := by
  simp only [handleRfqRequest, price_eq, Proc.lift_ok_bind, h]
  rw [Proc.bind_of_ok rfl]
  simp

theorem handleRfqRequest_of_items {offered : Grpc.OfferItem} {considered : Grpc.ConsiderationItem}
    (h : rfqItems maker rfq rpc 10000000 = ⟨.ok (some (offered, considered)), events⟩) :
    handleRfqRequest maker seaport rfq rpc =
      ⟨(signedResponse maker seaport rfq (quoteOrder maker offered considered rpc) rpc).outcome,
        events ++ (signedResponse maker seaport rfq (quoteOrder maker offered considered rpc) rpc).events⟩ := by
  simp only [handleRfqRequest, price_eq, Proc.lift_ok_bind, h]
  rw [Proc.bind_of_ok rfl]
  simp [quoteParameters_ok]

end

end TradeInterfaces.Maker
