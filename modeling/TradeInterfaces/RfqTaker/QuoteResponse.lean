import TradeInterfaces.Foundations.Effects
import TradeInterfaces.Seaport.Bindings

/-! The web taker's reaction to a quote: it looks at its USDC, approves what Seaport may
not take yet, and accepts. The wallet behind the SDK is explicit. -/
namespace TradeInterfaces.RfqTaker
open Foundations.BigEndian Foundations.Effects Ethers

/-- An exception; nothing on this path catches one. -/
inductive Thrown where
  | typeError | rejected
  deriving DecidableEq

/-- What the taker owns of each token, and how much of it each spender may take. -/
structure Wallet where
  balance : Address → Nat
  allowance : Address → Address → Nat

/-- The SDK's operations. Each of them may reject. -/
structure WebTaker where
  hasEnoughERC20Balance (wallet : Wallet) (erc20 : Address) (amount : U256) : Except Thrown Bool
  hasEnoughERC20Allowance (wallet : Wallet) (erc20 : Address) (amount : U256) (spender : Address) :
    Except Thrown Bool
  approveERC20 (wallet : Wallet) (tokenAddress spender : Address) (amount : U256) : Except Thrown Wallet
  acceptQuote (wallet : Wallet) (quote : Seaport.Order) : Except Thrown Unit

/-- What the code relies on: the two tests compare with `>=`, and an approval sets the allowance. -/
structure WebTaker.Documented (webTaker : WebTaker) : Prop where
  balance : ∀ wallet erc20 amount enough, webTaker.hasEnoughERC20Balance wallet erc20 amount = .ok enough →
    (enough = true ↔ wallet.balance erc20 ≥ amount.toNat)
  allowance : ∀ wallet erc20 amount spender enough,
    webTaker.hasEnoughERC20Allowance wallet erc20 amount spender = .ok enough →
    (enough = true ↔ wallet.allowance erc20 spender ≥ amount.toNat)
  approve : ∀ wallet tokenAddress spender amount wallet',
    webTaker.approveERC20 wallet tokenAddress spender amount = .ok wallet' →
    wallet'.allowance tokenAddress spender = amount.toNat

inductive Event where
  | closeStream
  | approveERC20 (tokenAddress spender : Address) (amount : U256)
  | acceptQuote (quote : Seaport.Order)
  deriving DecidableEq

abbrev Task := Proc Thrown Event

section
variable (webTaker : WebTaker) (usdc seaportAddress : Address)

/-- The verdict, with the wallet as the call leaves it. Reading the first item of an empty
list throws. -/
def checkBalanceAndAllowance (wallet : Wallet) (quote : Seaport.Order) : Task (Bool × Wallet) :=
  match quote.parameters.consideration with
  | [] => Proc.abort .typeError
  | first :: _ => do
    let usdcPremium := first.startAmount
    let hasEnoughBalance ← Proc.lift (webTaker.hasEnoughERC20Balance wallet usdc usdcPremium)
    if !hasEnoughBalance then return (false, wallet)
    let hasEnoughAllowance ←
      Proc.lift (webTaker.hasEnoughERC20Allowance wallet usdc usdcPremium seaportAddress)
    if !hasEnoughAllowance then
      Proc.emit (.approveERC20 usdc seaportAddress usdcPremium)
      let wallet ← Proc.lift (webTaker.approveERC20 wallet usdc seaportAddress usdcPremium)
      return (true, wallet)
    return (true, wallet)

def onQuoteResponse (wallet : Wallet) (quote : Seaport.Order) : Task Unit := do
  Proc.emit .closeStream
  let (sufficient, wallet) ← checkBalanceAndAllowance webTaker usdc seaportAddress wallet quote
  if sufficient then
    Proc.emit (.acceptQuote quote)
    Proc.lift (webTaker.acceptQuote wallet quote)

end

/-- An SDK of which no call rejects. -/
def plainTaker : WebTaker where
  hasEnoughERC20Balance wallet erc20 amount := .ok (wallet.balance erc20 ≥ amount.toNat)
  hasEnoughERC20Allowance wallet erc20 amount spender := .ok (wallet.allowance erc20 spender ≥ amount.toNat)
  approveERC20 wallet tokenAddress spender amount := .ok { wallet with
    allowance := fun token s => if token = tokenAddress ∧ s = spender then amount.toNat
      else wallet.allowance token s }
  acceptQuote _ _ := .ok ()

theorem plainTaker_documented : plainTaker.Documented where
  balance wallet erc20 amount enough h := by
    rw [← Except.ok.inj h]
    exact decide_eq_true_iff
  allowance wallet erc20 amount spender enough h := by
    rw [← Except.ok.inj h]
    exact decide_eq_true_iff
  approve wallet tokenAddress spender amount wallet' h := by
    rw [← Except.ok.inj h]
    exact if_pos ⟨rfl, rfl⟩

end TradeInterfaces.RfqTaker
