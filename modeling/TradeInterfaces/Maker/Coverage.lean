import TradeInterfaces.Maker.Ledger

/-! Whether the maker offers more of an option than it has written. -/
namespace TradeInterfaces.Maker
open Foundations.BigEndian Foundations.Panics Foundations.Effects Foundations.Ledgers Ethers

/-- The most of an option that an item can give away. -/
def optionsIn (maker : MarketMaker) (optionId : U256) (item : Seaport.OfferItem) : Nat :=
  if item.itemType = 3 ∧ item.token = maker.settlementEngine ∧ item.identifierOrCriteria = optionId then
    max item.startAmount.toNat item.endAmount.toNat
  else 0

/-- Only a hard quote is signed. A soft quote gives nothing away. -/
def Event.offered (maker : MarketMaker) (optionId : U256) : Event → Nat
  | .queueQuote response =>
    match response.order.bind Grpc.SignedOrder.parameters with
    | some order => ((order.offer.map offerItem).map (optionsIn maker optionId)).sum
    | none => 0
  | _ => 0

def Event.written (optionId : U256) : Event → Nat
  | .optionsWritten writtenId amount => if writtenId = optionId then amount.toNat else 0
  | _ => 0

/-- The ids that the receipt reports are those of the option that was written. -/
def Truthful (maker : MarketMaker) (rpc : Rpc) : Prop :=
  ∀ optionId claimId, writtenIds maker rpc = some (optionId, claimId) → rpc.writeEffect = some optionId

variable {maker : MarketMaker}

/-- Without a hard quote nothing is on offer. -/
theorem sum_offered_eq_zero {events : List Event} (h : ∀ e ∈ events, e.quoteResponse? = none) (optionId : U256) :
    (events.map (Event.offered maker optionId)).sum = 0 := by
  apply List.sum_eq_zero
  intro n hn
  obtain ⟨e, he, rfl⟩ := List.mem_map.mp hn
  have hnone := h e he
  cases e with
  | queueQuote response => cases hnone
  | _ => rfl

private theorem optionsIn_optionOffer (optionId written : U256) (amount : Grpc.H256) :
    optionsIn maker optionId (offerItem (optionOffer maker (some (.ofU256 written)) (some amount))) =
      if written = optionId then amount.toU256.toNat else 0 := by
  have htype : Grpc.asU8 Grpc.ItemType.erc1155.toI32 = 3 := by decide
  simp only [optionsIn, offerItem, optionOffer, Option.getD_some, Grpc.H256.toU256_ofU256, Grpc.H160.toHash_ofHash,
    htype, max_self, true_and]

private theorem optionsIn_priceOffer (optionId amount : U256) :
    optionsIn maker optionId (offerItem (priceOffer maker amount)) = 0 :=
  if_neg fun h => by cases h.1

/-- What one answer offers was written for its request. -/
theorem answer_covered {rpc : Rpc} (htrue : Truthful maker rpc) {quote : Grpc.QuoteRequest}
    {response : Grpc.QuoteResponse} (hr : (answerRfq maker rpc quote).outcome = .ok (some response)) (optionId : U256) :
    (Event.queueQuote response).offered maker optionId ≤
      ((writing maker rpc quote).map (Event.written optionId)).sum := by
  cases ho : response.order with
  | none => simp [Event.offered, ho]
  | some signedOrder =>
    obtain ⟨offered, considered, _, hash, hoffer, _, rfl⟩ := answerRfq_signedOrder maker rpc hr ho
    have hitem : (Event.queueQuote response).offered maker optionId = optionsIn maker optionId (offerItem offered) := by
      simp [Event.offered, ho, quoteOrder]
    rw [hitem]
    rcases offer?_eq_some hoffer with ⟨optionType, n, written, claimId, hp, hids, rfl, _⟩ | ⟨_, _, _, _, rfl, _⟩
    · obtain ⟨_, _, _, amount, _, ha, _, hn⟩ := purchase?_eq_some hp
      have hwritten : writing maker rpc quote =
          [.sendTransaction ⟨maker.settlementEngine, optionType, n, 500000, writeGasPrice⟩,
            .optionsWritten written n] := by
        simp [writing, hp, writeEvents, htrue written claimId hids]
      rw [ha, optionsIn_optionOffer, hwritten, asU128_ok_iff.mp hn]
      simp [Event.written]
    · rw [optionsIn_priceOffer]
      exact Nat.zero_le _

/-- Where receipts are truthful the maker never has more of an option on offer, in all the
orders it has signed and sent, than it has written. -/
theorem run_covered (maker : MarketMaker) (turns : List Turn) (htrue : ∀ turn ∈ turns, Truthful maker turn.rpc)
    (optionId : U256) {before : List Event} (hbefore : before <+: (run maker turns).events) :
    (before.map (Event.offered maker optionId)).sum ≤ (before.map (Event.written optionId)).sum := by
  refine (run_records maker turns).sum_le ?_ hbefore
  rintro x entry ⟨turn, hturn, hr, rfl⟩ part hpart
  rcases @entry_cases maker x turn hr with ⟨_, _, queued, he, hq⟩ | ⟨_, he⟩
  swap
  · have hsoft : ∀ e ∈ (selectBranch maker turn).events, e.quoteResponse? = none := by
      rcases he with he | ⟨response, he⟩ <;> simp [he, Event.quoteResponse?]
    rw [sum_offered_eq_zero fun e hpe => hsoft e (hpart.mem hpe)]
    exact Nat.zero_le _
  have hquiet : ∀ e ∈ writing maker turn.rpc x.2 ++ signing maker turn.rpc (offer? maker turn.rpc x.2),
      e.quoteResponse? = none := by
    rw [← answerRfq_account]
    exact fun e hmem => (answerRfq_quiet maker turn.rpc x.2 e hmem).1
  rw [he] at hpart
  rcases hq with rfl | ⟨response, hanswer, rfl⟩
  · rw [List.append_nil] at hpart
    rw [sum_offered_eq_zero fun e hpe => hquiet e (hpart.mem hpe)]
    exact Nat.zero_le _
  · rcases List.prefix_concat_iff.mp hpart with rfl | hpart
    · have hcovered := answer_covered (htrue turn hturn) hanswer optionId
      simp only [List.map_append, List.sum_append, List.map_cons, List.map_nil, List.sum_cons, List.sum_nil]
      have hzero := @sum_offered_eq_zero maker _ hquiet optionId
      rw [List.map_append, List.sum_append] at hzero
      omega
    · rw [sum_offered_eq_zero fun e hpe => hquiet e (hpart.mem hpe)]
      exact Nat.zero_le _

end TradeInterfaces.Maker
