import TradeInterfaces.Maker.Outcomes

/-! Which requests crash the maker: the write takes a 128-bit amount, and the check of a
request only asks for an amount that is not zero. -/
namespace TradeInterfaces.Maker
open Foundations.BigEndian Foundations.Panics Foundations.Effects Ethers
open Seaport (seaportContractAddress)
open Foundations.Runs (AllSteps holds_iff_allSteps)

/-- A Buy that passes the check on the RFQ stream asks for an amount below `2^128`. -/
def FitsWrite (turn : Turn) : Prop :=
  ∀ quote amount, turn.stream = .rfq → turn.message = .ok (some quote) → supported quote →
    (validateRfq seaportContractAddress quote).isSome → Grpc.Action.ofI32 quote.action = .buy →
    quote.amount = some amount → amount.toU256.toNat < 2^128

/-- A Buy comes to its two sides with an amount that fits. -/
theorem Sides.amount_lt {maker : MarketMaker} {rfq : Grpc.QuoteRequest} {id amount : Grpc.H256} {rpc : Rpc}
    {offered : Grpc.OfferItem} {considered : Grpc.ConsiderationItem} {before : List Event}
    (h : Sides maker rfq id amount rpc offered considered before) (hb : Grpc.Action.ofI32 rfq.action = .buy) :
    amount.toU256.toNat < 2^128 := by
  cases h with
  | buy action fits ids => exact toNat_lt_of_asU128 fits
  | sell action =>
    rw [hb] at action
    cases action

/-- Answering on the RFQ stream panics at the write's amount only. -/
theorem answerRfq_panics_iff (maker : MarketMaker) (rpc : Rpc) (quote : Grpc.QuoteRequest) :
    (∃ p, (answerRfq maker rpc quote).outcome = .error p) ↔
      ValidRfq seaportContractAddress quote ∧ Grpc.Action.ofI32 quote.action = .buy ∧
        ∃ amount, quote.amount = some amount ∧ 2^128 ≤ amount.toU256.toNat := by
  have h := answerRfq_answered maker rpc quote
  generalize answerRfq maker rpc quote = task at h
  cases h with
  | malformed invalid =>
    constructor
    · rintro ⟨p, hp⟩
      cases hp
    · exact fun hv => absurd hv.1 invalid
  | @handled id requestedAmount _ valid identifier requested handled =>
    have hreturns {response? : Option Grpc.QuoteResponse} {events : List Event}
        (hlt : Grpc.Action.ofI32 quote.action = .buy → requestedAmount.toU256.toNat < 2^128) :
        (∃ p, (⟨.ok response?, events⟩ : Task (Option Grpc.QuoteResponse)).outcome = .error p) ↔
          ValidRfq seaportContractAddress quote ∧ Grpc.Action.ofI32 quote.action = .buy ∧
            ∃ amount, quote.amount = some amount ∧ 2^128 ≤ amount.toU256.toNat := by
      constructor
      · rintro ⟨p, hp⟩
        cases hp
      · rintro ⟨_, hb, amount, ha, hlarge⟩
        rw [requested] at ha
        cases ha
        exact absurd (hlt hb) (Nat.not_lt.mpr hlarge)
    cases handled with
    | overflow action large => exact ⟨fun _ => ⟨valid, action, _, requested, large⟩, fun _ => ⟨_, rfl⟩⟩
    | noOffer action fits ids => exact hreturns fun _ => toNat_lt_of_asU128 fits
    | unsigned sides fails quiet => exact hreturns sides.amount_lt
    | offer sides answers => exact hreturns sides.amount_lt

theorem answerSoftQuote_returns (maker : MarketMaker) (rpc : Rpc) (quote : Grpc.QuoteRequest) (p : Panic) :
    (answerSoftQuote maker rpc quote).outcome ≠ .error p := by
  have h := answerSoftQuote_answered maker rpc quote
  generalize answerSoftQuote maker rpc quote = task at h
  cases h <;> simp

/-- A branch panics where the answer to its request does. -/
theorem serve_panics_iff {ρ : Type} (answer : Grpc.QuoteRequest → Task (Option ρ)) (queue : ρ → Event)
    (message : Except String (Option Grpc.QuoteRequest)) (channelOpen : Bool) (p : Panic) :
    (serve answer queue message channelOpen).outcome = .error p ↔
      ∃ quote, message = .ok (some quote) ∧ supported quote ∧ (answer quote).outcome = .error p := by
  by_cases hm : ∃ quote, message = .ok (some quote)
  · obtain ⟨quote, rfl⟩ := hm
    cases hsup : supported quote with
    | false =>
      rw [serve_of_unsupported answer queue channelOpen hsup]
      simp [hsup]
    | true =>
      rw [serve_of_supported answer queue channelOpen hsup]
      cases ha : (answer quote).outcome with
      | error panic => simp [hsup, ha]
      | ok response? =>
        cases response? with
        | none => simp [ha]
        | some response => cases channelOpen <;> simp [ha]
  · rw [serve_of_noRequest answer queue channelOpen fun quote h => hm ⟨quote, h⟩]
    constructor
    · intro h
      cases h
    · rintro ⟨quote, h, _⟩
      exact absurd ⟨quote, h⟩ hm

/-- One branch of the loop reaches a response or an orderly return exactly when the
amount of its Buy fits. -/
theorem selectBranch_returns_iff (maker : MarketMaker) (turn : Turn) :
    (∀ p, (selectBranch maker turn).outcome ≠ .error p) ↔ FitsWrite turn := by
  cases hstream : turn.stream with
  | softQuote =>
    constructor
    · intro _ quote amount h
      rw [hstream] at h
      cases h
    · intro _ p hp
      rw [selectBranch, hstream] at hp
      obtain ⟨quote, _, _, hout⟩ := (serve_panics_iff _ _ _ _ _).mp hp
      exact answerSoftQuote_returns maker turn.rpc quote p hout
  | rfq =>
    constructor
    · intro h quote amount _ hm hsup hv hb ha
      refine Nat.lt_of_not_le fun hlarge => ?_
      obtain ⟨p, hp⟩ := (answerRfq_panics_iff maker turn.rpc quote).mpr
        ⟨validateRfq_isSome_iff.mp hv, hb, amount, ha, hlarge⟩
      refine h p ?_
      rw [selectBranch, hstream]
      exact (serve_panics_iff _ _ _ _ _).mpr ⟨quote, hm, hsup, hp⟩
    · intro h p hp
      rw [selectBranch, hstream] at hp
      obtain ⟨quote, hm, hsup, hout⟩ := (serve_panics_iff _ _ _ _ _).mp hp
      obtain ⟨hv, hb, amount, ha, hlarge⟩ := (answerRfq_panics_iff maker turn.rpc quote).mp ⟨p, hout⟩
      exact absurd (h quote amount hstream hm hsup (validateRfq_isSome_iff.mpr hv) hb ha) (Nat.not_lt.mpr hlarge)

/-- A run of the maker never panics exactly when every Buy it processes fits. -/
theorem run_returns_iff (maker : MarketMaker) (turns : List Turn) :
    (∀ p, (run maker turns).status ≠ .panicked p) ↔
      AllSteps (step maker) (fun s turn => s.status = .running → FitsWrite turn) State.initial turns := by
  refine @holds_iff_allSteps _ _ (step maker) (fun _ => True) (fun s => ∀ p, s.status ≠ .panicked p) _
    (fun _ _ _ => trivial) ?_ ?_ _ trivial (fun p hp => by cases hp) turns
  · intro s turn hbad
    refine if_neg fun hs => hbad fun p hp => ?_
    rw [hs] at hp
    cases hp
  · intro s turn _ hgood
    by_cases hs : s.status = .running
    · refine Iff.trans ?_ ((selectBranch_returns_iff maker turn).trans ⟨fun h _ => h, fun h => h hs⟩)
      refine forall_congr' fun p => not_congr ?_
      rw [step, if_pos hs]
      cases ho : (selectBranch maker turn).outcome with
      | error panic => simp [ho]
      | ok flow => cases flow <;> simp [ho]
    · rw [show step maker s turn = s from if_neg hs]
      exact ⟨fun _ h => absurd h hs, fun _ => hgood⟩

/-- No request crashes the maker but a Buy for `2^128` options or more: so it is for one
branch of the loop, and so for a whole run. -/
theorem maker_returns_iff (maker : MarketMaker) :
    (∀ turn, (∀ p, (selectBranch maker turn).outcome ≠ .error p) ↔ FitsWrite turn) ∧
    ∀ turns, (∀ p, (run maker turns).status ≠ .panicked p) ↔
      AllSteps (step maker) (fun s turn => s.status = .running → FitsWrite turn) State.initial turns :=
  ⟨selectBranch_returns_iff maker, run_returns_iff maker⟩

/-- A Buy for `2^128` options. -/
theorem maker_crashes :
    ¬∀ p, (run sampleMaker [sampleTurn (sampleRfq .buy (BitVec.ofNat 256 (2^128))) sampleRpc]).status ≠
      .panicked p :=
  fun h => h .overflow (by decide +kernel)

end TradeInterfaces.Maker
