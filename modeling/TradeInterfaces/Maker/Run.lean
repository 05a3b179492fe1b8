import TradeInterfaces.Foundations.Runs
import TradeInterfaces.Maker.RfqRequest
import TradeInterfaces.Maker.SoftQuoteRequest

/-! The maker's loop: `select!` completes one of two streams, the message is checked,
answered and the answer queued on the channel of its stream. -/
namespace TradeInterfaces.Maker
open Foundations.Panics Foundations.Effects Ethers
open Seaport (seaportContractAddress)
open Foundations (Runs.run)

inductive Stream where
  | rfq | softQuote
  deriving DecidableEq

/-- One completed branch of `select!`: what `message()` gave, the outcomes of the calls
made for it, and whether the response channel still takes an answer. -/
structure Turn where
  stream : Stream
  message : Except String (Option Grpc.QuoteRequest)
  rpc : Rpc
  channelOpen : Bool

/-- Where a branch leaves the loop: at its next turn or with `return None`. -/
inductive Flow where
  | next | returned
  deriving DecidableEq

/-- The chains the loop accepts requests for. -/
def supportedChain (chainId : U256) : Bool := chainId = 421614 || chainId = 31337

/-- The body of both branches. `answer` is `none` where `?` leaves the loop. -/
def serve {ρ : Type} (answer : Grpc.QuoteRequest → Task (Option ρ)) (queue : ρ → Event)
    (message : Except String (Option Grpc.QuoteRequest)) (channelOpen : Bool) : Task Flow :=
  match message with
  | .error _ => return .returned
  | .ok none => return .returned
  | .ok (some quote) =>
    match quote.chainId with
    | none => return .next
    | some chainId =>
      if supportedChain chainId.toU256 then do
        let some quoteOffer ← answer quote | return .returned
        if channelOpen then do
          Proc.emit (queue quoteOffer)
          return .next
        else return .returned
      else return .next

def answerRfq (maker : MarketMaker) (rpc : Rpc) (quote : Grpc.QuoteRequest) :
    Task (Option Grpc.QuoteResponse) :=
  if (validateRfq seaportContractAddress quote).isNone then
    return some (createNoOffer maker quote)
  else handleRfqRequest maker seaportContractAddress quote rpc

def answerSoftQuote (maker : MarketMaker) (rpc : Rpc) (quote : Grpc.QuoteRequest) :
    Task (Option Grpc.SoftQuoteResponse) :=
  if (validateSoftQuote quote).isNone then
    return some (createSoftQuoteNoOffer maker quote)
  else handleSoftQuoteRequest maker seaportContractAddress quote rpc

def selectBranch (maker : MarketMaker) (turn : Turn) : Task Flow :=
  match turn.stream with
  | .rfq => serve (answerRfq maker turn.rpc) .queueQuote turn.message turn.channelOpen
  | .softQuote => serve (answerSoftQuote maker turn.rpc) .queueSoftQuote turn.message turn.channelOpen

inductive Status where
  | running | returned | panicked (panic : Panic)
  deriving DecidableEq

/-- `consumed` records the requests read so far, with the stream each came from. -/
structure State where
  status : Status
  consumed : List (Stream × Grpc.QuoteRequest)
  events : List Event

def State.initial : State := ⟨.running, [], []⟩

def Turn.request? (turn : Turn) : Option (Stream × Grpc.QuoteRequest) :=
  match turn.message with
  | .ok (some quote) => some (turn.stream, quote)
  | _ => none

def step (maker : MarketMaker) (s : State) (turn : Turn) : State :=
  if s.status = .running then
    let branch := selectBranch maker turn
    { status := match branch.outcome with
        | .ok .next => .running
        | .ok .returned => .returned
        | .error panic => .panicked panic
      consumed := s.consumed ++ turn.request?.toList
      events := s.events ++ branch.events }
  else s

def run (maker : MarketMaker) (turns : List Turn) : State := Runs.run (step maker) State.initial turns

theorem run_snoc (maker : MarketMaker) (before : List Turn) (turn : Turn) :
    run maker (before ++ [turn]) = step maker (run maker before) turn := Foundations.Runs.run_snoc _ _ _ _

/-- What one more turn adds to the log: the effects of its branch, or nothing once the
loop has ended. -/
theorem turn_events (maker : MarketMaker) (before : List Turn) (turn : Turn) {events : List Event}
    (h : (run maker (before ++ [turn])).events = (run maker before).events ++ events) :
    ((run maker before).status = .running ∧ events = (selectBranch maker turn).events) ∨
    ((run maker before).status ≠ .running ∧ events = []) := by
  rw [run_snoc] at h
  by_cases hs : (run maker before).status = .running
  · rw [step, if_pos hs] at h
    exact .inl ⟨hs, (List.append_cancel_left h).symm⟩
  · rw [step, if_neg hs] at h
    exact .inr ⟨hs, (List.append_cancel_left ((List.append_nil _).trans h)).symm⟩

def Event.quoteResponse? : Event → Option Grpc.QuoteResponse
  | .queueQuote response => some response
  | _ => none

def Event.softQuoteResponse? : Event → Option Grpc.SoftQuoteResponse
  | .queueSoftQuote response => some response
  | _ => none

/-- The channels are FIFO: their contents are the queued responses in order. -/
def State.quoteResponses (s : State) : List Grpc.QuoteResponse := s.events.filterMap Event.quoteResponse?

def State.softQuoteResponses (s : State) : List Grpc.SoftQuoteResponse :=
  s.events.filterMap Event.softQuoteResponse?

end TradeInterfaces.Maker
