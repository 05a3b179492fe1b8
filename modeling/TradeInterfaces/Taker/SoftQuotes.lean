import TradeInterfaces.Taker.Run

/-! The taker's soft-quote loop: before the RFQ loop a price is asked for until one is
given. It is printed and liked, whatever it is. -/
namespace TradeInterfaces.Taker
open Foundations.Panics Foundations.Effects Ethers
open Foundations (Runs.run)

/-- One turn of the loop: what `message()` gave, and whether the request channel still
takes a request. -/
structure SoftTurn where
  message : Except String (Option Grpc.SoftQuoteResponse)
  channelOpen : Bool

inductive SoftStatus where
  | asking | liked | panicked (panic : Panic)
  deriving DecidableEq

/-- `requests` are the quotes asked for so far. -/
structure SoftState where
  status : SoftStatus
  requests : List Grpc.QuoteRequest

/-- The quote that is asked for is the one the Buy RFQ is cloned from. -/
def SoftState.initial (settings : Settings) : SoftState := ⟨.asking, [buyRfq settings]⟩

abbrev SoftTask := Proc Panic Grpc.QuoteRequest

def sendQuote (channelOpen : Bool) (quote : Grpc.QuoteRequest) : SoftTask Unit :=
  if channelOpen then Proc.emit quote else Proc.abort .unwrapOnErr

/-- The body of the loop, `true` where it breaks out. -/
def readSoftQuote (settings : Settings) (turn : SoftTurn) : SoftTask Bool :=
  match turn.message with
  | .error _ => Proc.abort .explicit
  | .ok none => Proc.abort .explicit
  | .ok (some quoteResponse) =>
    match quoteResponse.order with
    | none => do
      sendQuote turn.channelOpen (buyRfq settings)
      return false
    | some orderParameters => do
      let _ ← Proc.lift (receivedOffer orderParameters)
      return true

def softStep (settings : Settings) (s : SoftState) (turn : SoftTurn) : SoftState :=
  if s.status = .asking then
    let task := readSoftQuote settings turn
    { status := match task.outcome with
        | .ok true => .liked
        | .ok false => .asking
        | .error panic => .panicked panic
      requests := s.requests ++ task.events }
  else s

def softRun (settings : Settings) (turns : List SoftTurn) : SoftState :=
  Runs.run (softStep settings) (SoftState.initial settings) turns

/-- What one turn does: the same quote is asked for again, or the loop is left. -/
theorem readSoftQuote_cases (settings : Settings) (turn : SoftTurn) :
    (∃ response, turn.message = .ok (some response) ∧ response.order = none ∧ turn.channelOpen = true ∧
      readSoftQuote settings turn = ⟨.ok false, [buyRfq settings]⟩) ∨
    (∃ response order offer, turn.message = .ok (some response) ∧ response.order = some order ∧
      receivedOffer order = .ok offer ∧ readSoftQuote settings turn = ⟨.ok true, []⟩) ∨
    ∃ panic, readSoftQuote settings turn = ⟨.error panic, []⟩ := by
  cases hm : turn.message with
  | error e => exact .inr (.inr ⟨.explicit, by simp [readSoftQuote, hm, Proc.abort]⟩)
  | ok message =>
    cases message with
    | none => exact .inr (.inr ⟨.explicit, by simp [readSoftQuote, hm, Proc.abort]⟩)
    | some response =>
      cases ho : response.order with
      | none =>
        cases hc : turn.channelOpen with
        | true =>
          refine .inl ⟨response, rfl, ho, rfl, ?_⟩
          simp [readSoftQuote, hm, ho, hc, sendQuote, Proc.map_emit]
        | false =>
          refine .inr (.inr ⟨.unwrapOnErr, ?_⟩)
          simp [readSoftQuote, hm, ho, hc, sendQuote]
          rfl
      | some order =>
        cases hr : receivedOffer order with
        | ok offer =>
          refine .inr (.inl ⟨response, order, offer, rfl, ho, hr, ?_⟩)
          simp only [readSoftQuote, hm, ho, hr, Proc.lift_ok_bind]
          rfl
        | error panic =>
          refine .inr (.inr ⟨panic, ?_⟩)
          simp only [readSoftQuote, hm, ho, hr, Proc.lift_error_bind]
          rfl

/-- A stream that ends has nothing sent. -/
theorem softStep_ended (settings : Settings) (s : SoftState) (channelOpen : Bool) :
    (softStep settings s ⟨.ok none, channelOpen⟩).requests = s.requests := by
  rw [softStep]
  split
  · exact List.append_nil _
  · rfl

end TradeInterfaces.Taker
