import TradeInterfaces.Foundations.Exchanges
import TradeInterfaces.Maker.Run
import TradeInterfaces.Taker.Requests
import TradeInterfaces.Taker.SoftQuotes

/-! One taker and one maker on the trade API. The API assigns the ulid of a request and
relays, on two streams; the maker answers other takers too. -/
namespace TradeInterfaces.Market
open Foundations.Panics Foundations.Effects Foundations.Exchanges Ethers
open Foundations (Runs.run)
open Maker (MarketMaker Rpc Stream)
open Taker (Settings Chain)

abbrev Request := Stream × Grpc.QuoteRequest

inductive Response where
  | rfq (response : Grpc.QuoteResponse)
  | softQuote (response : Grpc.SoftQuoteResponse)
  deriving DecidableEq

/-- The taker is in its soft-quote loop until there is a state of the RFQ loop. -/
structure Session where
  softQuotes : Taker.SoftState
  rfqs : Option Taker.State

/-- The last request the taker sent. -/
def Session.last (s : Session) : Option Request :=
  match s.rfqs with
  | none => s.softQuotes.requests.getLast?.map fun quote => (.softQuote, quote)
  | some t => t.requests.getLast?.map fun rfq => (.rfq, rfq)

/-- The outcomes of the calls the taker makes for a response. -/
structure TakerCalls where
  sendTransaction : Except String Unit
  receipt : Taker.Receipt
  pendingTx : Except String Unit
  balanceOf : Except String Unit
  channelOpen : Bool

def TakerCalls.turn (calls : TakerCalls) (message : Except String (Option Grpc.QuoteResponse)) : Taker.Turn :=
  ⟨message, calls.sendTransaction, calls.receipt, calls.pendingTx, calls.balanceOf, calls.channelOpen⟩

section
variable (settings : Settings) (chain : Chain)

/-- A quote is read in the soft-quote loop. Once one is liked the Buy RFQ is sent. -/
def readQuote (softQuotes : Taker.SoftState) (calls : TakerCalls) (response : Grpc.SoftQuoteResponse) :
    Session × List Request :=
  let turn : Taker.SoftTurn := ⟨.ok (some response), calls.channelOpen⟩
  let softQuotes := Taker.softStep settings softQuotes turn
  if softQuotes.status = .liked then
    if calls.channelOpen then
      (⟨softQuotes, some (Taker.State.initial settings)⟩, [(.rfq, Taker.buyRfq settings)])
    else (⟨{ softQuotes with status := .panicked .unwrapOnErr }, none⟩, [])
  else (⟨softQuotes, none⟩, (Taker.readSoftQuote settings turn).events.map fun quote => (.softQuote, quote))

def readOffer (t : Taker.State) (calls : TakerCalls) (response : Grpc.QuoteResponse) :
    Taker.State × List Request :=
  let turn := calls.turn (.ok (some response))
  (Taker.step settings chain t turn,
    ((Taker.answer settings chain t turn).events.filterMap Taker.Event.request?).map fun rfq => (.rfq, rfq))

/-- Only the stream of the loop the taker is in is read. -/
def read (s : Session) (calls : TakerCalls) : Response → Option (Session × List Request)
  | .softQuote response =>
    match s.rfqs with
    | some _ => none
    | none => if s.softQuotes.status = .asking then some (readQuote settings s.softQuotes calls response) else none
  | .rfq response =>
    match s.rfqs with
    | none => none
    | some t =>
      if t.status = .running then
        let (t, sent) := readOffer settings chain t calls response
        some (⟨s.softQuotes, some t⟩, sent)
      else none

/-- The stream ends. Both loops panic, as they do when it fails. -/
def breakOff (s : Session) : Session :=
  match s.rfqs with
  | none => { s with softQuotes := Taker.softStep settings s.softQuotes ⟨.ok none, true⟩ }
  | some t => { s with
      rfqs := some (Taker.step settings chain t ⟨.ok none, .ok (), .succeeded, .ok (), .ok (), true⟩) }

end

/-- The ulid that the API assigned, and the outcomes of the calls the maker makes. -/
structure MakerCalls where
  ulid : Grpc.H128
  rpc : Rpc
  channelOpen : Bool

/-- The ulid of a request is populated by the API. -/
def populate (ulid : Grpc.H128) (quote : Grpc.QuoteRequest) : Grpc.QuoteRequest := { quote with ulid := some ulid }

def MakerCalls.turn (calls : MakerCalls) (request : Request) : Maker.Turn where
  stream := request.1
  message := .ok (some (populate calls.ulid request.2))
  rpc := calls.rpc
  channelOpen := calls.channelOpen

def response? : Maker.Event → Option Response
  | .queueQuote response => some (.rfq response)
  | .queueSoftQuote response => some (.softQuote response)
  | _ => none

/-- A maker that returned does not look at its streams. -/
def serve (maker : MarketMaker) (m : Maker.State) (calls : MakerCalls) (request : Request) :
    Option (Maker.State × List Response) :=
  if m.status = .running then
    some (Maker.step maker m (calls.turn request),
      (Maker.selectBranch maker (calls.turn request)).events.filterMap response?)
  else none

/-- Turns of the maker's loop that are not about this taker, and its reconnection. -/
inductive Elsewhere where
  | turn (turn : Maker.Turn)
  | reconnect

def attend (maker : MarketMaker) (m : Maker.State) : Elsewhere → Maker.State
  | .turn turn => Maker.step maker m turn
  | .reconnect => if m.status = .returned then { m with status := .running } else m

def parties (maker : MarketMaker) (settings : Settings) (chain : Chain) :
    Parties Session Maker.State Request Response TakerCalls MakerCalls Elsewhere where
  read := read settings chain
  serve := serve maker
  attend := attend maker
  breakOff := breakOff settings chain

abbrev Relay := Net Session Maker.State Request Response
abbrev Schedule := List (Label TakerCalls MakerCalls Elsewhere)

/-- The taker has asked for its first quote. -/
def initial (settings : Settings) : Relay where
  client := ⟨Taker.SoftState.initial settings, none⟩
  server := Maker.State.initial
  requests := [(.softQuote, Taker.buyRfq settings)]
  responses := []

def run (maker : MarketMaker) (settings : Settings) (chain : Chain) (schedule : Schedule) : Relay :=
  Runs.run (step (parties maker settings chain)) (initial settings) schedule

end TradeInterfaces.Market
