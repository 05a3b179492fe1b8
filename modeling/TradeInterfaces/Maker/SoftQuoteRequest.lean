import TradeInterfaces.Maker.Quotes

/-! The soft quote: the same order as a hard quote, without writing and without a
signature. -/
namespace TradeInterfaces.Maker
open Foundations.BigEndian Foundations.Panics Foundations.Effects Ethers

def validateSoftQuote (rfq : Grpc.QuoteRequest) : Option Grpc.QuoteRequest :=
  if rfq.tokenAddress.isNone then none
  else if rfq.identifierOrCriteria.isNone then none
  else
    match rfq.amount with
    | none => none
    | some amount =>
      if amount.toU256 = 0 then none
      else if Grpc.Action.ofI32 rfq.action ≠ .buy ∧ Grpc.Action.ofI32 rfq.action ≠ .sell then none
      else some rfq

/-- Both sides of the order. A Buy offers the requested identifier itself. -/
def softQuoteItems (maker : MarketMaker) (requestForQuote : Grpc.QuoteRequest) (price : U256) :
    Except Panic (Option (Grpc.OfferItem × Grpc.ConsiderationItem)) :=
  match Grpc.Action.ofI32 requestForQuote.action with
  | .buy => return some (optionOffer maker requestForQuote.identifierOrCriteria requestForQuote.amount,
      priceConsideration maker price)
  | .sell => do
      let identifier ← unwrap requestForQuote.identifierOrCriteria
      return some (priceOffer maker price,
        optionConsideration maker (some (.ofU256 identifier.toU256)) requestForQuote.amount)
  | .invalid => return none

def handleSoftQuoteRequest (maker : MarketMaker) (seaport : Address) (requestForQuote : Grpc.QuoteRequest)
    (rpc : Rpc) : Task (Option Grpc.SoftQuoteResponse) := do
  let price ← Proc.lift price
  let some (offeredItem, considerationItem) ← Proc.lift (softQuoteItems maker requestForQuote price)
    | return some (createSoftQuoteNoOffer maker requestForQuote)
  let parameters ← Proc.lift (quoteParameters maker offeredItem considerationItem rpc)
  let some chainId := fetchChainId maker rpc | return none
  return some {
    ulid := requestForQuote.ulid
    makerAddress := some (.ofHash maker.address)
    order := some parameters
    chainId := some (.ofU256 chainId)
    seaportAddress := some (.ofHash seaport) }

structure ValidSoftQuote (rfq : Grpc.QuoteRequest) : Prop where
  tokenAddress : rfq.tokenAddress.isSome
  identifier : rfq.identifierOrCriteria.isSome
  amount : ∃ amount, rfq.amount = some amount ∧ amount.toU256 ≠ 0
  action : Grpc.Action.ofI32 rfq.action = .buy ∨ Grpc.Action.ofI32 rfq.action = .sell

theorem validateSoftQuote_eq_some_iff {rfq out : Grpc.QuoteRequest} :
    validateSoftQuote rfq = some out ↔ ValidSoftQuote rfq ∧ out = rfq := by
  unfold validateSoftQuote
  simp only [Option.ite_none_left_eq_some, Bool.not_eq_true, Option.isNone_eq_false_iff]
  constructor
  · intro ⟨htoken, hid, h⟩
    cases ha : rfq.amount with
    | none =>
      rw [ha] at h
      cases h
    | some amount =>
      simp only [ha, Option.ite_none_left_eq_some, Option.some.injEq] at h
      obtain ⟨hamount, haction, h⟩ := h
      exact ⟨⟨htoken, hid, ⟨amount, ha, hamount⟩, or_iff_not_and_not.mpr haction⟩, h.symm⟩
  · rintro ⟨⟨htoken, hid, ⟨amount, ha, hamount⟩, haction⟩, rfl⟩
    rw [ha]
    dsimp only
    rw [if_neg hamount]
    exact ⟨htoken, hid, if_neg (or_iff_not_and_not.mp haction)⟩

theorem validateSoftQuote_isSome_iff {rfq : Grpc.QuoteRequest} : (validateSoftQuote rfq).isSome ↔ ValidSoftQuote rfq := by
  rw [Option.isSome_iff_exists]
  constructor
  · rintro ⟨out, h⟩
    exact (validateSoftQuote_eq_some_iff.mp h).1
  · intro h
    exact ⟨rfq, validateSoftQuote_eq_some_iff.mpr ⟨h, rfl⟩⟩

/-- The two items of a valid soft quote. -/
theorem softQuoteItems_of_valid (maker : MarketMaker) {rfq : Grpc.QuoteRequest} (hv : ValidSoftQuote rfq)
    (price : U256) : ∃ items, softQuoteItems maker rfq price = .ok (some items) := by
  obtain ⟨id, hi⟩ := Option.isSome_iff_exists.mp hv.identifier
  rcases hv.action with hb | hs
  · exact ⟨_, by rw [softQuoteItems, hb]; rfl⟩
  · refine ⟨(priceOffer maker price, optionConsideration maker (some (.ofU256 id.toU256)) rfq.amount), ?_⟩
    rw [softQuoteItems, hs, hi]
    rfl

/-- A valid soft quote only depends on the chain id call: it leaves no trace, never
panics, and answers with its own order. -/
theorem handleSoftQuoteRequest_of_valid (maker : MarketMaker) (seaport : Address) {rfq : Grpc.QuoteRequest}
    (hv : ValidSoftQuote rfq) (rpc : Rpc) :
    ∃ offered considered, softQuoteItems maker rfq 10000000 = .ok (some (offered, considered)) ∧
      handleSoftQuoteRequest maker seaport rfq rpc = ⟨.ok (match rpc.getChainid with
        | .ok () => some ⟨rfq.ulid, some (.ofHash maker.address),
            some (quoteOrder maker offered considered rpc), some (.ofU256 maker.chainId), some (.ofHash seaport)⟩
        | .error _ => none), []⟩ := by
  obtain ⟨⟨offered, considered⟩, hitems⟩ := softQuoteItems_of_valid maker hv 10000000
  refine ⟨offered, considered, hitems, ?_⟩
  simp only [handleSoftQuoteRequest, price_eq, Proc.lift_ok_bind, hitems, quoteParameters_ok, fetchChainId]
  cases rpc.getChainid <;> rfl

end TradeInterfaces.Maker
