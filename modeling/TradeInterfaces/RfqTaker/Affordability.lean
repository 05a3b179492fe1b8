import TradeInterfaces.RfqTaker.QuoteResponse

/-! Whether a quote that is judged affordable can be paid. The check looks at the first
consideration item, and a fee is a second one. -/
namespace TradeInterfaces.RfqTaker
open Foundations.BigEndian Foundations.Effects Ethers

/-- What fulfilling the order takes from the taker in USDC. -/
def usdcTotal (usdc : Address) (quote : Seaport.Order) : Nat :=
  ((quote.parameters.consideration.filter fun item => item.token = usdc).map (·.startAmount.toNat)).sum

/-- With any SDK that works as documented, a positive verdict means that balance and
allowance cover all USDC items. -/
def Affordable (usdc seaportAddress : Address) (wallet : Wallet) (quote : Seaport.Order) : Prop :=
  ∀ webTaker : WebTaker, webTaker.Documented → ∀ wallet',
    (checkBalanceAndAllowance webTaker usdc seaportAddress wallet quote).outcome = .ok (true, wallet') →
    usdcTotal usdc quote ≤ wallet.balance usdc ∧ usdcTotal usdc quote ≤ wallet'.allowance usdc seaportAddress

/-- The USDC items sum to no more than the first item, or the taker has and allows enough
for all of them beforehand, or it cannot pay the first item at all. -/
def CoveredByFirst (usdc seaportAddress : Address) (wallet : Wallet) (quote : Seaport.Order) : Prop :=
  ∀ first rest, quote.parameters.consideration = first :: rest →
    wallet.balance usdc < first.startAmount.toNat ∨ usdcTotal usdc quote ≤ first.startAmount.toNat ∨
    usdcTotal usdc quote ≤ wallet.balance usdc ∧ usdcTotal usdc quote ≤ wallet.allowance usdc seaportAddress

section
variable {webTaker : WebTaker} {usdc seaportAddress : Address} {wallet wallet' : Wallet} {quote : Seaport.Order}

/-- A positive verdict: the premium is there, and either the allowance is or it is approved. -/
theorem checkBalanceAndAllowance_true_iff :
    (checkBalanceAndAllowance webTaker usdc seaportAddress wallet quote).outcome = .ok (true, wallet') ↔
      ∃ first rest, quote.parameters.consideration = first :: rest ∧
        webTaker.hasEnoughERC20Balance wallet usdc first.startAmount = .ok true ∧
        (webTaker.hasEnoughERC20Allowance wallet usdc first.startAmount seaportAddress = .ok true ∧ wallet = wallet' ∨
          webTaker.hasEnoughERC20Allowance wallet usdc first.startAmount seaportAddress = .ok false ∧
            webTaker.approveERC20 wallet usdc seaportAddress first.startAmount = .ok wallet') := by
  rw [Proc.outcome_eq_ok_iff, checkBalanceAndAllowance]
  cases quote.parameters.consideration with
  | nil => simp
  | cons first rest =>
    simp
    tauto

/-- What a positive verdict rests on: the premium is there, and the allowance is the one
found, if it suffices, or is set to the premium. -/
theorem checkBalanceAndAllowance_true (hdoc : webTaker.Documented)
    (h : (checkBalanceAndAllowance webTaker usdc seaportAddress wallet quote).outcome = .ok (true, wallet')) :
    ∃ first rest, quote.parameters.consideration = first :: rest ∧
      first.startAmount.toNat ≤ wallet.balance usdc ∧
      (first.startAmount.toNat ≤ wallet.allowance usdc seaportAddress ∧ wallet' = wallet ∨
        wallet.allowance usdc seaportAddress < first.startAmount.toNat ∧
          wallet'.allowance usdc seaportAddress = first.startAmount.toNat) := by
  obtain ⟨first, rest, hc, hb, hcase⟩ := checkBalanceAndAllowance_true_iff.mp h
  refine ⟨first, rest, hc, (hdoc.balance _ _ _ _ hb).mp rfl, ?_⟩
  rcases hcase with ⟨ha, hsame⟩ | ⟨ha, hp⟩
  · exact .inl ⟨(hdoc.allowance _ _ _ _ _ ha).mp rfl, hsame.symm⟩
  · have hless : ¬wallet.allowance usdc seaportAddress ≥ first.startAmount.toNat :=
      fun hge => Bool.false_ne_true ((hdoc.allowance _ _ _ _ _ ha).mpr hge)
    exact .inr ⟨Nat.lt_of_not_le hless, hdoc.approve _ _ _ _ _ hp⟩

/-- The verdict of an SDK that never rejects. -/
theorem checkBalanceAndAllowance_plain {first : Seaport.ConsiderationItem} {rest : List Seaport.ConsiderationItem}
    (hc : quote.parameters.consideration = first :: rest)
    (hb : first.startAmount.toNat ≤ wallet.balance usdc) :
    ∃ wallet', (checkBalanceAndAllowance plainTaker usdc seaportAddress wallet quote).outcome =
      .ok (true, wallet') := by
  by_cases ha : first.startAmount.toNat ≤ wallet.allowance usdc seaportAddress
  · refine ⟨wallet, checkBalanceAndAllowance_true_iff.mpr ⟨first, rest, hc, ?_, .inl ⟨?_, rfl⟩⟩⟩
    · simp [plainTaker, hb]
    · simp [plainTaker, ha]
  · refine ⟨_, checkBalanceAndAllowance_true_iff.mpr ⟨first, rest, hc, ?_, .inr ⟨?_, rfl⟩⟩⟩
    · simp [plainTaker, hb]
    · simp [plainTaker]
      omega

/-- A quote is accepted exactly after a positive verdict. -/
theorem acceptQuote_mem_iff (webTaker : WebTaker) (usdc seaportAddress : Address) (wallet : Wallet)
    (quote accepted : Seaport.Order) :
    .acceptQuote accepted ∈ (onQuoteResponse webTaker usdc seaportAddress wallet quote).events ↔
      accepted = quote ∧ ∃ wallet',
        (checkBalanceAndAllowance webTaker usdc seaportAddress wallet quote).outcome = .ok (true, wallet') := by
  have hquiet : ¬(checkBalanceAndAllowance webTaker usdc seaportAddress wallet quote).Emits
      (· = .acceptQuote accepted) := by
    rw [checkBalanceAndAllowance]
    cases quote.parameters.consideration with
    | nil => simp
    | cons first rest => simp
  rw [Proc.mem_events_iff]
  have haccepts : (onQuoteResponse webTaker usdc seaportAddress wallet quote).Emits (· = .acceptQuote accepted) ↔
      (checkBalanceAndAllowance webTaker usdc seaportAddress wallet quote).Returns
        fun verdict => verdict.1 = true ∧ quote = accepted := by
    simp [onQuoteResponse, hquiet]
  rw [haccepts]
  constructor
  · rintro ⟨⟨_, wallet'⟩, hcheck, rfl, rfl⟩
    exact ⟨rfl, wallet', hcheck⟩
  · rintro ⟨rfl, wallet', hcheck⟩
    exact ⟨(true, wallet'), hcheck, rfl, rfl⟩

/-- One quote and one wallet: a positive verdict can be relied on exactly when the first
item stands for all. -/
theorem affordable_iff_coveredByFirst (usdc seaportAddress : Address) (wallet : Wallet) (quote : Seaport.Order) :
    Affordable usdc seaportAddress wallet quote ↔ CoveredByFirst usdc seaportAddress wallet quote := by
  constructor
  · intro h first rest hc
    by_cases hb : wallet.balance usdc < first.startAmount.toNat
    · exact .inl hb
    have hpays : first.startAmount.toNat ≤ wallet.balance usdc := by omega
    obtain ⟨wallet', hcheck⟩ := @checkBalanceAndAllowance_plain usdc seaportAddress wallet quote first rest hc hpays
    obtain ⟨hbalance, hallowance⟩ := h plainTaker plainTaker_documented wallet' hcheck
    obtain ⟨first', rest', hc', _, ⟨_, hsame⟩ | ⟨_, hset⟩⟩ := checkBalanceAndAllowance_true plainTaker_documented hcheck
    · rw [hsame] at hallowance
      exact .inr (.inr ⟨hbalance, hallowance⟩)
    · rw [hc] at hc'
      cases hc'
      rw [hset] at hallowance
      exact .inr (.inl hallowance)
  · intro h webTaker hdoc wallet' hcheck
    obtain ⟨first, rest, hc, hpays, hcase⟩ := checkBalanceAndAllowance_true hdoc hcheck
    rcases h first rest hc with hpoor | hfirst | ⟨hbalance, hallowance⟩
    · omega
    · refine ⟨by omega, ?_⟩
      rcases hcase with ⟨henough, rfl⟩ | ⟨_, hset⟩
      · omega
      · omega
    · refine ⟨hbalance, ?_⟩
      rcases hcase with ⟨_, rfl⟩ | ⟨hless, hset⟩
      · exact hallowance
      · omega

end

/-- A quote that is accepted was judged affordable. The verdict is right for a wallet and a
quote exactly when the first item covers all USDC items or the wallet does, and right for
every wallet exactly when the first item does. -/
theorem affordable_iff (usdc seaportAddress : Address) :
    (∀ webTaker wallet quote accepted,
      .acceptQuote accepted ∈ (onQuoteResponse webTaker usdc seaportAddress wallet quote).events ↔
        accepted = quote ∧ ∃ wallet',
          (checkBalanceAndAllowance webTaker usdc seaportAddress wallet quote).outcome = .ok (true, wallet')) ∧
    (∀ wallet quote, Affordable usdc seaportAddress wallet quote ↔
      CoveredByFirst usdc seaportAddress wallet quote) ∧
    ∀ quote, (∀ wallet, Affordable usdc seaportAddress wallet quote) ↔
      ∀ first rest, quote.parameters.consideration = first :: rest →
        usdcTotal usdc quote ≤ first.startAmount.toNat := by
  refine ⟨fun webTaker => acceptQuote_mem_iff webTaker usdc seaportAddress,
    fun wallet => affordable_iff_coveredByFirst usdc seaportAddress wallet, fun quote => ?_⟩
  constructor
  · intro h first rest hc
    -- a wallet that holds and allows just the first item
    let wallet : Wallet := ⟨fun _ => first.startAmount.toNat, fun _ _ => first.startAmount.toNat⟩
    rcases (affordable_iff_coveredByFirst usdc seaportAddress wallet quote).mp (h wallet) first rest hc with
      hpoor | hfirst | ⟨hbalance, _⟩
    · exact absurd hpoor (Nat.lt_irrefl _)
    · exact hfirst
    · exact hbalance
  · intro h wallet
    apply (affordable_iff_coveredByFirst usdc seaportAddress wallet quote).mpr
    intro first rest hc
    exact .inr (.inl (h first rest hc))

/-- A premium of ten and a taker fee of one, both in USDC at address 13. -/
def feeQuote : Seaport.Order where
  parameters := {
    offerer := toBytes 20 9
    zone := toBytes 20 0
    offer := [⟨3, toBytes 20 11, 42, 5, 5⟩]
    consideration := [⟨1, toBytes 20 13, 0, 10, 10, toBytes 20 9⟩, ⟨1, toBytes 20 13, 0, 1, 1, toBytes 20 14⟩]
    orderType := 0
    startTime := 1700000000
    endTime := 1700001200
    zoneHash := Seaport.zeroBytes
    salt := 7
    conduitKey := Seaport.zeroBytes
    totalOriginalConsiderationItems := 2 }
  signature := []

/-- A taker with ten USDC accepts it, and allows Seaport ten. -/
theorem feeQuote_unaffordable :
    ¬Affordable (toBytes 20 13) Seaport.seaportContractAddress ⟨fun _ => 10, fun _ _ => 0⟩ feeQuote ∧
    .acceptQuote feeQuote ∈ (onQuoteResponse plainTaker (toBytes 20 13) Seaport.seaportContractAddress
      ⟨fun _ => 10, fun _ _ => 0⟩ feeQuote).events := by
  have htotal : usdcTotal (toBytes 20 13) feeQuote = 11 := by decide +kernel
  constructor
  · intro h
    have hle := (h plainTaker plainTaker_documented _ rfl).1
    rw [htotal] at hle
    exact absurd hle (by decide)
  · decide +kernel

end TradeInterfaces.RfqTaker
