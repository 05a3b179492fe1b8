import TradeInterfaces.Foundations.Protocols
import TradeInterfaces.Seaport.Bindings

/-! The allowances that maker and taker give at their start: Seaport may move one ERC-20
token and all options, the settlement engine may move the tokens that options are on. -/
namespace TradeInterfaces.Approvals
open Foundations.BigEndian Foundations.Panics Foundations.Effects Foundations.Protocols Ethers

inductive Call where
  | approve (spender : Address) (amount : U256)
  | setApprovalForAll (operator : Address) (approved : Bool)
  deriving DecidableEq

structure Tx where
  contract : Address
  call : Call
  gas : U256
  gasPrice : U256
  deriving DecidableEq

/-- What is returned when a transaction is sent, and when it is awaited. The receipt is
not looked at. -/
structure Calls where
  sendTransaction : Except String Unit
  pendingTx : Except String Unit

/-- A transaction that cannot be sent or awaited panics. -/
def send (tx : Tx) (calls : Calls) : Proc Panic Tx Unit := do
  Proc.emit tx
  Proc.lift (unwrapResult calls.sendTransaction)
  Proc.lift (unwrapResult calls.pendingTx)

def sendAll : List Tx → (Nat → Calls) → Proc Panic Tx Unit
  | [], _ => pure ()
  | tx :: txs, calls => do
    send tx (calls 0)
    sendAll txs fun n => calls (n + 1)

def maxAmount : U256 := BitVec.allOnes 256

def approvals (gas gasPrice : U256) (seaport settlementContract seaportToken : Address) (tokens : List Address) :
    List Tx :=
  ⟨seaportToken, .approve seaport maxAmount, gas, gasPrice⟩ ::
    ⟨settlementContract, .setApprovalForAll seaport true, gas, gasPrice⟩ ::
      tokens.map fun token => ⟨token, .approve settlementContract maxAmount, gas, gasPrice⟩

/-- The transaction lets the spender move tokens of this type. -/
def Lets (spender : Address) (itemType : UInt8) (token : Address) (tx : Tx) : Prop :=
  tx.contract = token ∧
    (itemType = 1 ∧ tx.call = .approve spender maxAmount ∨
      itemType = 3 ∧ tx.call = .setApprovalForAll spender true)

private theorem send_of_ok {tx : Tx} {calls : Calls} (hs : calls.sendTransaction = .ok ())
    (hp : calls.pendingTx = .ok ()) :
    send tx calls = ⟨.ok (), [tx]⟩ := by
  rw [send, hs, hp]
  rfl

private theorem send_cases (tx : Tx) (calls : Calls) :
    send tx calls = ⟨.ok (), [tx]⟩ ∨
    send tx calls = ⟨.error .unwrapOnErr, [tx]⟩ ∧ ¬(calls.sendTransaction = .ok () ∧ calls.pendingTx = .ok ()) := by
  cases hs : calls.sendTransaction with
  | error e =>
    refine .inr ⟨?_, fun h => by cases h.1⟩
    rw [send, hs]
    rfl
  | ok u =>
    cases hp : calls.pendingTx with
    | error e =>
      refine .inr ⟨?_, fun h => by cases h.2⟩
      rw [send, hs, hp]
      rfl
    | ok u => exact .inl (send_of_ok hs hp)

/-- Either all transactions are sent, in their order, or one that fails panics and the
ones after it are not sent. -/
theorem sendAll_cases (txs : List Tx) (calls : Nat → Calls) :
    sendAll txs calls = ⟨.ok (), txs⟩ ∨
    ∃ n < txs.length, sendAll txs calls = ⟨.error .unwrapOnErr, txs.take (n + 1)⟩ ∧
      ¬((calls n).sendTransaction = .ok () ∧ (calls n).pendingTx = .ok ()) := by
  induction txs generalizing calls with
  | nil => exact .inl rfl
  | cons tx txs ih =>
    rcases send_cases tx (calls 0) with h | ⟨h, hfail⟩
    · rcases ih fun n => calls (n + 1) with hrest | ⟨n, hn, hrest, hfail⟩
      · exact .inl (by rw [sendAll, Proc.bind_of_ok (congrArg Proc.outcome h), h, hrest]; rfl)
      · refine .inr ⟨n + 1, Nat.succ_lt_succ hn, ?_, hfail⟩
        rw [sendAll, Proc.bind_of_ok (congrArg Proc.outcome h), h, hrest]
        rfl
    · refine .inr ⟨0, Nat.succ_pos _, ?_, hfail⟩
      rw [sendAll, Proc.bind_of_error (congrArg Proc.outcome h), h]
      rfl

theorem sendAll_obeys {P : List Tx → Tx → Prop} {txs : List Tx} (h : Follows P txs) (calls : Nat → Calls) :
    Obeys P [] (sendAll txs calls) fun _ log => log = txs := by
  rcases sendAll_cases txs calls with hall | ⟨n, _, hfailed, _⟩
  · rw [hall]
    exact ⟨h, fun _ _ => rfl⟩
  · rw [hfailed]
    exact ⟨h.of_prefix (List.take_prefix _ _), fun _ hok => (by cases hok)⟩

section
variable {gas gasPrice : U256} {seaport settlementContract seaportToken : Address} {tokens : List Address}

/-- Of the ERC-20 tokens Seaport may move the one that is given to it, and those of the
other list only where it is the settlement contract itself. -/
theorem lets_erc20_iff {spender token : Address} :
    (∃ tx ∈ approvals gas gasPrice seaport settlementContract seaportToken tokens, Lets spender 1 token tx) ↔
      seaportToken = token ∧ seaport = spender ∨ token ∈ tokens ∧ settlementContract = spender := by
  simp [approvals, Lets]

/-- Of the ERC-1155 tokens it may move the options. -/
theorem lets_erc1155_iff {spender token : Address} :
    (∃ tx ∈ approvals gas gasPrice seaport settlementContract seaportToken tokens, Lets spender 3 token tx) ↔
      settlementContract = token ∧ seaport = spender := by
  simp [approvals, Lets]

end

end TradeInterfaces.Approvals
