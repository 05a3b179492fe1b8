import TradeInterfaces.Foundations.Ledgers
import TradeInterfaces.Maker.Accounts

/-! The maker's log over a run: what it sent, what it signed, what it offered, and whether
the offers are covered by what was written. -/
namespace TradeInterfaces.Maker
open Foundations.BigEndian Foundations.Panics Foundations.Effects Foundations.Ledgers Ethers
open Seaport (seaportContractAddress)

/-- A turn of the run read the request and left the entry. -/
def Entry (maker : MarketMaker) (turns : List Turn) (x : Stream × Grpc.QuoteRequest) (entry : List Event) : Prop :=
  ∃ turn ∈ turns, turn.request? = some x ∧ entry = (selectBranch maker turn).events

def Event.writeTx? : Event → Option WriteTx
  | .sendTransaction tx => some tx
  | _ => none

def Event.signedHash? : Event → Option H256
  | .signHash hash => some hash
  | _ => none

/-- The transaction that a request is answered with. -/
def writeTx? (maker : MarketMaker) (x : Stream × Grpc.QuoteRequest) : Option WriteTx :=
  if x.1 = .rfq ∧ supported x.2 then
    (purchase? x.2).map fun bought => ⟨maker.settlementEngine, bought.1, bought.2, 500000, writeGasPrice⟩
  else none

/-- Components that trade what the request asks for against the fixed price. -/
structure Quoted (maker : MarketMaker) (rpc : Rpc) (quote : Grpc.QuoteRequest)
    (components : Seaport.OrderComponents) : Prop where
  valid : ValidRfq seaportContractAddress quote
  offerer : components.offerer = maker.address
  startTime : components.startTime = ofSeconds rpc.timeNow
  endTime : components.endTime = ofSeconds rpc.timeNowAgain + validity
  sides : ∃ identifier amount, quote.identifierOrCriteria = some identifier ∧ quote.amount = some amount ∧
    ((Grpc.Action.ofI32 quote.action = .buy ∧ ∃ optionId claimId, writtenIds maker rpc = some (optionId, claimId) ∧
        components.offer = [⟨3, maker.settlementEngine, optionId, amount.toU256, amount.toU256⟩] ∧
        components.consideration = [⟨1, maker.usdcAddress, 0, 10000000, 10000000, maker.address⟩]) ∨
      (Grpc.Action.ofI32 quote.action = .sell ∧
        components.offer = [⟨1, maker.usdcAddress, 0, 10000000, 10000000⟩] ∧
        components.consideration =
          [⟨3, maker.settlementEngine, identifier.toU256, amount.toU256, amount.toU256, maker.address⟩]))

/-- A hash that was signed for a request: the digest of components that quote it. -/
def SignedFor (maker : MarketMaker) (turns : List Turn) (x : Stream × Grpc.QuoteRequest) (hash : H256) : Prop :=
  x.1 = .rfq ∧ ∃ turn ∈ turns, turn.request? = some x ∧
    ∃ components orderHash domainSeparator, Quoted maker turn.rpc x.2 components ∧
      turn.rpc.getOrderHash = .ok orderHash ∧ turn.rpc.information = .ok domainSeparator ∧
      hash = digest maker domainSeparator (orderHash components)

variable {maker : MarketMaker} {turns : List Turn}

theorem Entry.mono {more : List Turn} {x : Stream × Grpc.QuoteRequest} {entry : List Event}
    (h : Entry maker turns x entry) (hsub : ∀ turn ∈ turns, turn ∈ more) : Entry maker more x entry := by
  obtain ⟨turn, hturn, hrest⟩ := h
  exact ⟨turn, hsub turn hturn, hrest⟩

/-- The log has one entry for each request that was read. -/
theorem run_records (maker : MarketMaker) (turns : List Turn) :
    Records (Entry maker turns) (run maker turns).consumed (run maker turns).events := by
  induction turns using List.reverseRecOn with
  | nil => exact .nil
  | append_singleton before turn ih =>
    have hbefore := ih.imp fun _ _ h => Entry.mono h fun t ht => List.mem_append_left [turn] ht
    rw [run_snoc]
    by_cases hs : (run maker before).status = .running
    swap
    · rw [step, if_neg hs]
      exact hbefore
    · rw [step, if_pos hs]
      cases hr : turn.request? with
      | some x => exact hbefore.snoc ⟨turn, by simp, hr, rfl⟩
      | none =>
        rcases selectBranch_cases maker turn with ⟨_, h⟩ | ⟨quote, hm, _⟩ | ⟨quote, _, hm, _⟩
        · simpa [h] using hbefore
        · simp [Turn.request?, hm] at hr
        · simp [Turn.request?, hm] at hr

private theorem request?_eq_some {turn : Turn} {x : Stream × Grpc.QuoteRequest} :
    turn.request? = some x ↔ turn.stream = x.1 ∧ turn.message = .ok (some x.2) := by
  rw [Turn.request?]
  split
  · rename_i quote hm
    rw [hm, Option.some.injEq, Prod.ext_iff]
    exact and_congr_right fun _ => by simp
  · rename_i hm
    constructor
    · intro h
      cases h
    · exact fun h => absurd h.2 (hm x.2)

/-! What an entry of the log consists of. -/

private theorem writing_writeTx (rpc : Rpc) (quote : Grpc.QuoteRequest) :
    (writing maker rpc quote).filterMap Event.writeTx? =
      ((purchase? quote).map fun bought =>
        (⟨maker.settlementEngine, bought.1, bought.2, 500000, writeGasPrice⟩ : WriteTx)).toList := by
  rw [writing]
  cases purchase? quote with
  | none => rfl
  | some bought =>
    dsimp only [writeEvents]
    cases rpc.writeEffect <;> rfl

/-- What is hashed for a request quotes it. -/
theorem quoted_of_offer {rpc : Rpc} {quote : Grpc.QuoteRequest} {offered : Grpc.OfferItem}
    {considered : Grpc.ConsiderationItem} (h : offer? maker rpc quote = some (offered, considered)) (counter : U256) :
    Quoted maker rpc quote (quoteComponents maker offered considered rpc counter) := by
  rcases offer?_eq_some h with ⟨optionType, n, optionId, claimId, hp, hids, rfl, rfl⟩ |
    ⟨hs, hvalid, identifier, hi, rfl, rfl⟩
  · obtain ⟨hvalid, hb, identifier, amount, hi, ha, _, _⟩ := purchase?_eq_some hp
    refine ⟨hvalid, rfl, rfl, rfl, identifier, amount, hi, ha, .inl ⟨hb, optionId, claimId, hids, ?_, ?_⟩⟩
    · simp [quoteComponents, offerItem, optionOffer, ha]
      rfl
    · simp [quoteComponents, considerationItem, priceConsideration]
      rfl
  · obtain ⟨amount, ha, _⟩ := hvalid.amount
    refine ⟨hvalid, rfl, rfl, rfl, identifier, amount, hi, ha, .inr ⟨hs, ?_, ?_⟩⟩
    · simp [quoteComponents, offerItem, priceOffer]
      rfl
    · simp [quoteComponents, considerationItem, optionConsideration, ha]
      rfl

/-- An entry of the RFQ stream is the writing and the signing for its request, and the
answer. Every other entry is an answer to a soft quote at most. -/
theorem entry_cases {x : Stream × Grpc.QuoteRequest} {turn : Turn} (h : turn.request? = some x) :
    (x.1 = .rfq ∧ supported x.2 = true ∧ ∃ queued,
      (selectBranch maker turn).events =
        writing maker turn.rpc x.2 ++ signing maker turn.rpc (offer? maker turn.rpc x.2) ++ queued ∧
      (queued = [] ∨ ∃ response, (answerRfq maker turn.rpc x.2).outcome = .ok (some response) ∧
        queued = [.queueQuote response])) ∨
    (¬(x.1 = .rfq ∧ supported x.2 = true) ∧
      ((selectBranch maker turn).events = [] ∨
        ∃ response, (selectBranch maker turn).events = [.queueSoftQuote response])) := by
  obtain ⟨hstream, hm⟩ := request?_eq_some.mp h
  rcases selectBranch_account maker hm with ⟨hsup, he⟩ | ⟨hsup, hs, hentry⟩ | ⟨_, hs, hentry⟩
  · exact .inr ⟨fun hx => by simp [hsup] at hx, .inl he⟩
  · exact .inl ⟨hstream ▸ hs, hsup, hentry⟩
  · exact .inr ⟨fun hx => by simp [← hstream, hs] at hx, hentry⟩

private theorem queued_filterMap {β : Type} {f : Event → Option β} {queued : List Event}
    {P : Grpc.QuoteResponse → Prop}
    (h : queued = [] ∨ ∃ response, P response ∧ queued = [.queueQuote response])
    (hf : ∀ response, f (.queueQuote response) = none) : queued.filterMap f = [] := by
  rcases h with rfl | ⟨response, _, rfl⟩
  · rfl
  · simp [hf]

/-- The transactions that are sent are those the requests ask for, in their order: one for
each Buy that is considered and fits, whatever became of the ones before. -/
theorem run_writes (maker : MarketMaker) (turns : List Turn) :
    (run maker turns).events.filterMap Event.writeTx? =
      (run maker turns).consumed.filterMap (writeTx? maker) := by
  have hentry (x : Stream × Grpc.QuoteRequest) (entry : List Event) (h : Entry maker turns x entry) :
      entry.filterMap Event.writeTx? = (writeTx? maker x).toList := by
    obtain ⟨turn, _, hr, rfl⟩ := h
    rcases @entry_cases maker x turn hr with ⟨hs, hsup, queued, he, hq⟩ | ⟨hno, he⟩
    · have hsigning : (signing maker turn.rpc (offer? maker turn.rpc x.2)).filterMap Event.writeTx? = [] := by
        rcases signing_cases turn.rpc (offer? maker turn.rpc x.2) with h | ⟨_, _, _, _, _, h | ⟨_, _, _, _, h⟩⟩ <;>
          rw [h] <;> rfl
      have hqueued : queued.filterMap Event.writeTx? = [] := queued_filterMap hq fun _ => rfl
      rw [he, List.filterMap_append, List.filterMap_append, hsigning, hqueued, writing_writeTx, writeTx?,
        if_pos ⟨hs, hsup⟩]
      simp
    · rw [writeTx?, if_neg hno]
      rcases he with he | ⟨response, he⟩ <;> rw [he] <;> rfl
  rw [(run_records maker turns).filterMap_eq hentry, List.filterMap_eq_flatMap_toList]

/-- The wallet signs at most once for a request, in the order the requests were read, and
what it signs is the digest of an order on the terms of that request. -/
theorem run_signs (maker : MarketMaker) (turns : List Turn) :
    ∃ origins, origins.Sublist (run maker turns).consumed ∧
      List.Forall₂ (SignedFor maker turns) origins ((run maker turns).events.filterMap Event.signedHash?) := by
  have hentry (x : Stream × Grpc.QuoteRequest) (entry : List Event) (h : Entry maker turns x entry) :
      ∃ origins, origins.Sublist [x] ∧
        List.Forall₂ (SignedFor maker turns) origins (entry.filterMap Event.signedHash?) := by
    obtain ⟨turn, hturn, hr, rfl⟩ := h
    rcases @entry_cases maker x turn hr with ⟨hs, _, queued, he, hq⟩ | ⟨_, he⟩
    swap
    · refine ⟨[], List.nil_sublist _, ?_⟩
      rcases he with he | ⟨response, he⟩ <;> rw [he] <;> exact .nil
    have hwriting : (writing maker turn.rpc x.2).filterMap Event.signedHash? = [] := by
      rw [writing]
      cases purchase? x.2 with
      | none => rfl
      | some bought =>
        dsimp only [writeEvents]
        cases turn.rpc.writeEffect <;> rfl
    have hqueued : queued.filterMap Event.signedHash? = [] := queued_filterMap hq fun _ => rfl
    rw [he, List.filterMap_append, List.filterMap_append, hwriting, hqueued, List.nil_append, List.append_nil]
    rcases signing_cases turn.rpc (offer? maker turn.rpc x.2) with
      h | ⟨offered, considered, counter, ho, _, h | ⟨orderHash, domainSeparator, hh, hi, h⟩⟩
    · exact ⟨[], List.nil_sublist _, by rw [h]; exact .nil⟩
    · exact ⟨[], List.nil_sublist _, by rw [h]; exact .nil⟩
    · refine ⟨[x], .refl _, ?_⟩
      rw [h]
      exact .cons ⟨hs, turn, hturn, hr, _, orderHash, domainSeparator, quoted_of_offer ho counter, hh, hi, rfl⟩ .nil
  have h := (run_records maker turns).sublist hentry
  rwa [List.flatMap_singleton'] at h

/-- A hash is the digest of components, by the order hash and the separator that were
fetched. -/
def Digested (maker : MarketMaker) (rpc : Rpc) (components : Seaport.OrderComponents) (hash : H256) : Prop :=
  ∃ orderHash domainSeparator, rpc.getOrderHash = .ok orderHash ∧ rpc.information = .ok domainSeparator ∧
    hash = digest maker domainSeparator (orderHash components)

/-- An order in an answer quotes the request, and its signature is over the digest of the
components that were hashed for it. -/
theorem answerRfq_signs {rpc : Rpc} {quote : Grpc.QuoteRequest} {response : Grpc.QuoteResponse}
    {signedOrder : Grpc.SignedOrder} (hr : (answerRfq maker rpc quote).outcome = .ok (some response))
    (ho : response.order = some signedOrder) :
    ∃ order counter components hash, Quoted maker rpc quote components ∧ Digested maker rpc components hash ∧
      orderComponents order counter = .ok components ∧
      signedOrder = ⟨some order, some (.ofSignature (maker.signHash hash))⟩ ∧
      (answerRfq maker rpc quote).events =
        writing maker rpc quote ++ [.getOrderHash components, .signHash hash] := by
  obtain ⟨offered, considered, counter, hash, hoffer, hsigned, rfl⟩ := answerRfq_signedOrder maker rpc hr ho
  have hdigested : Digested maker rpc (quoteComponents maker offered considered rpc counter) hash := by
    rcases signing_cases rpc (some (offered, considered)) with
      h | ⟨_, _, counter', hsome, _, h | ⟨orderHash, domainSeparator, hh, hi, h⟩⟩
    · cases hsigned.symm.trans h
    · exact absurd (congrArg List.length (hsigned.symm.trans h)) (by simp)
    · cases hsome
      obtain ⟨hcomponents, hhash⟩ := List.cons.inj (hsigned.symm.trans h)
      refine ⟨orderHash, domainSeparator, hh, hi, ?_⟩
      rw [Event.getOrderHash.inj hcomponents]
      exact Event.signHash.inj (List.cons.inj hhash).1
  refine ⟨_, counter, _, hash, quoted_of_offer hoffer counter, hdigested,
    orderComponents_quoteOrder maker offered considered rpc counter, rfl, ?_⟩
  rw [answerRfq_account, hoffer, hsigned]

/-- Whatever is hashed quotes a request that was read. -/
theorem run_hashes {components : Seaport.OrderComponents}
    (h : .getOrderHash components ∈ (run maker turns).events) :
    ∃ turn ∈ turns, ∃ quote, turn.message = .ok (some quote) ∧ Quoted maker turn.rpc quote components := by
  obtain ⟨before, after, hlog⟩ := List.append_of_mem h
  obtain ⟨x, _, _, inside, later, ⟨turn, hturn, hr, hentry⟩, _⟩ := (run_records maker turns).split hlog
  obtain ⟨_, hm⟩ := request?_eq_some.mp hr
  refine ⟨turn, hturn, x.2, hm, ?_⟩
  have hmem : .getOrderHash components ∈ (selectBranch maker turn).events := by simp [← hentry]
  rcases @entry_cases maker x turn hr with ⟨_, _, queued, he, hq⟩ | ⟨_, he⟩
  swap
  · rcases he with he | ⟨response, he⟩ <;> simp [he] at hmem
  rw [he, List.mem_append, List.mem_append] at hmem
  rcases hmem with (hmem | hmem) | hmem
  · unfold writing at hmem
    cases hp : purchase? x.2 with
    | none => simp [hp] at hmem
    | some bought => cases hw : turn.rpc.writeEffect <;> simp [hp, writeEvents, hw] at hmem
  · rcases @signing_cases maker turn.rpc (offer? maker turn.rpc x.2) with
      h | ⟨offered, considered, counter, ho, _, h | ⟨_, _, _, _, h⟩⟩
    · simp [h] at hmem
    · have hsame : components = quoteComponents maker offered considered turn.rpc counter := by simpa [h] using hmem
      rw [hsame]
      exact quoted_of_offer ho counter
    · have hsame : components = quoteComponents maker offered considered turn.rpc counter := by simpa [h] using hmem
      rw [hsame]
      exact quoted_of_offer ho counter
  · rcases hq with rfl | ⟨response, _, rfl⟩
    · cases hmem
    · simp at hmem

end TradeInterfaces.Maker
