import TradeInterfaces.Approvals
import TradeInterfaces.Taker.OptionType
import TradeInterfaces.Taker.SoftQuotes

/-! The taker as a process: it opens a session and two streams, creates the option type it
is going to trade, asks for quotes until it gets one, and runs its loop. -/
namespace TradeInterfaces.Taker
open Foundations.BigEndian Foundations.Panics Foundations.Effects Ethers
open Maker (RawLog)
open Seaport (seaportContractAddress)
open Session (Ending SessionInterceptor)

/-- The settings after loading, the libraries and the contract's events among them. -/
structure Configuration where
  wallet : Session.Wallet
  settlementContract : Address
  tlsConfig : Except String Unit
  approveTokens : Bool
  chainId : UInt64
  library : Session.Library
  decodeLog : RawLog → Option SettlementEngineEvents

/-- What the loops read, once there is an option type. -/
def Configuration.settings (configuration : Configuration) (optionId : U256) : Settings :=
  ⟨configuration.wallet.address, configuration.settlementContract, configuration.chainId, optionId⟩

/-- The outcomes of the calls before the loops, and the turns of the loops. -/
structure Course where
  provider : Except String Unit
  setup : Session.Calls
  rfqConnect : Except String Unit
  quoteConnect : Except String Unit
  signer : Except String Unit
  approvals : Nat → Approvals.Calls
  rfqStream : Except String Unit
  quoteStream : Except String Unit
  option : OptionCalls
  quoteChannelOpen : Bool
  softTurns : List SoftTurn
  rfqChannelOpen : Bool
  chain : Chain
  turns : List Turn

/-- What the process does. The effects of the loop are kept as they are. -/
inductive ProcessEvent where
  | session (event : Session.Event)
  | approve (tx : Approvals.Tx)
  | openRfq (request : Session.Request)
  | openSoftQuote (request : Session.Request)
  | newOptionType (tx : NewOptionTypeTx)
  | requestQuote (quote : Grpc.QuoteRequest)
  | loop (event : Event)
  deriving DecidableEq

def magic : Address := toBytes 20 0xb795f8278458443f6C43806C020a84EB5109403c

/-- The tokens that the settlement engine may move: USDC, WETH, WBTC, GMX and MAGIC. -/
def engineTokens : List Address :=
  [toBytes 20 0x8FB1E3fC51F3b789dED7557E680551d93Ea9d892, toBytes 20 0xe39Ab88f8A4777030A534146A9Ca3B52bd5D43A3,
    toBytes 20 0xf8Fe24D6Ea205dd5057aD2e5FE5e313AeFd52f2e, toBytes 20 0x5337deF26Da2506e08e37682b0d6E50b26a704BB,
    magic]

/-- Seaport may move MAGIC, whatever the orders are priced in. -/
def testApprovals (settlementContract : Address) : List Approvals.Tx :=
  Approvals.approvals 500000 (2000 * exp10 8) seaportContractAddress settlementContract magic engineTokens

def approveTestTokens (settlementContract : Address) (calls : Nat → Approvals.Calls) :
    Proc Panic Approvals.Tx Unit := Approvals.sendAll (testApprovals settlementContract) calls

abbrev ProcessTask := Proc Ending ProcessEvent

def orPanic {α : Type} (x : Except Panic α) : ProcessTask α := Proc.lift (x.mapError .panicked)

/-- The request that opens a stream carries the session; an answer that fails is unwrapped. -/
def openStream (library : Session.Library) (sessionCookie : String) (event : Session.Request → ProcessEvent)
    (stream : Except String Unit) : ProcessTask Unit := do
  let request ← orPanic (SessionInterceptor.call library ⟨sessionCookie⟩ ⟨[]⟩)
  Proc.emit (event request)
  orPanic (unwrapResult stream)

/-- The two connections, the allowances and the two streams. -/
def openStreams (configuration : Configuration) (course : Course) (sessionCookie : String) : ProcessTask Unit := do
  (Session.channel configuration.tlsConfig course.rfqConnect).relabel .session
  (Session.channel configuration.tlsConfig course.quoteConnect).relabel .session
  orPanic (unwrapResult course.signer)
  ((if configuration.approveTokens then approveTestTokens configuration.settlementContract course.approvals
    else pure ()).relabel .approve).mapError .panicked
  openStream configuration.library sessionCookie .openRfq course.rfqStream
  openStream configuration.library sessionCookie .openSoftQuote course.quoteStream

/-- The way of `run` to its loops, with the option type it is going to trade. -/
def prepare (configuration : Configuration) (course : Course) : ProcessTask U256 := do
  let sessionCookie ← (Session.setupValoremConnection configuration.library configuration.wallet
    configuration.tlsConfig course.setup).relabel .session
  openStreams configuration course sessionCookie
  (setupOption configuration.settlementContract configuration.decodeLog course.option).relabel .newOptionType

/-- Where the process is: in one of its loops, ended before the second one, or ended by it. -/
inductive Phase where
  | quoting | trading | ended (ending : Ending) | exited (exit : Exit)
  deriving DecidableEq

structure ProcessState where
  phase : Phase
  events : List ProcessEvent

/-- The two loops. The first quote and the first Buy are sent before them. -/
def trade (settings : Settings) (course : Course) : ProcessState :=
  if course.quoteChannelOpen then
    let soft := softRun settings course.softTurns
    let quotes := soft.requests.map .requestQuote
    match soft.status with
    | .asking => ⟨.quoting, quotes⟩
    | .panicked panic => ⟨.ended (.panicked panic), quotes⟩
    | .liked =>
      if course.rfqChannelOpen then
        let s := run settings course.chain course.turns
        let events := quotes ++ s.events.map .loop
        match s.status with
        | .running => ⟨.trading, events⟩
        | .exited exit => ⟨.exited exit, events⟩
      else ⟨.ended (.panicked .unwrapOnErr), quotes⟩
  else ⟨.ended (.panicked .unwrapOnErr), []⟩

/-- The whole process, once the settings are loaded. -/
def main (configuration : Configuration) (course : Course) : ProcessState :=
  match course.provider with
  | .error _ => ⟨.ended .exited, []⟩
  | .ok () =>
    let prepared := prepare configuration course
    match prepared.outcome with
    | .error ending => ⟨.ended ending, prepared.events⟩
    | .ok optionId =>
      let traded := trade (configuration.settings optionId) course
      ⟨traded.phase, prepared.events ++ traded.events⟩

theorem main_of_prepare {configuration : Configuration} {course : Course} {optionId : U256}
    (hprovider : course.provider = .ok ()) (hprepare : (prepare configuration course).outcome = .ok optionId) :
    main configuration course = ⟨(trade (configuration.settings optionId) course).phase,
      (prepare configuration course).events ++ (trade (configuration.settings optionId) course).events⟩ := by
  simp only [main, hprovider, hprepare]

end TradeInterfaces.Taker
