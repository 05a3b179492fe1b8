import TradeInterfaces.Foundations.BigEndian
import TradeInterfaces.Foundations.Masks
import TradeInterfaces.Foundations.Effects
import TradeInterfaces.Foundations.Runs
import TradeInterfaces.Foundations.Scans
import TradeInterfaces.Foundations.Exchanges
import TradeInterfaces.Foundations.Traffic
import TradeInterfaces.Foundations.Ledgers
import TradeInterfaces.Foundations.Protocols
import TradeInterfaces.Foundations.Panics
import TradeInterfaces.Foundations.TypedData
import TradeInterfaces.Foundations.Keccak
import TradeInterfaces.Wire.Messages
import TradeInterfaces.Wire.Adapters
import TradeInterfaces.Wire.Numbers
import TradeInterfaces.Wire.Signatures
import TradeInterfaces.Seaport.Bindings
import TradeInterfaces.Session.Interceptor
import TradeInterfaces.Session.Setup
import TradeInterfaces.Approvals
import TradeInterfaces.Maker.Calls
import TradeInterfaces.Maker.SignOrder
import TradeInterfaces.Maker.Commitment
import TradeInterfaces.Maker.WriteOption
import TradeInterfaces.Maker.Quotes
import TradeInterfaces.Maker.Salt
import TradeInterfaces.Maker.RfqRequest
import TradeInterfaces.Maker.SoftQuoteRequest
import TradeInterfaces.Maker.Run
import TradeInterfaces.Maker.Outcomes
import TradeInterfaces.Maker.Crashes
import TradeInterfaces.Maker.Answers
import TradeInterfaces.Maker.Accounts
import TradeInterfaces.Maker.Ledger
import TradeInterfaces.Maker.Coverage
import TradeInterfaces.Maker.Delivery
import TradeInterfaces.Maker.Chains
import TradeInterfaces.Maker.Tokens
import TradeInterfaces.Maker.Receipts
import TradeInterfaces.Maker.LogScan
import TradeInterfaces.Maker.Program
import TradeInterfaces.Maker.Process
import TradeInterfaces.Maker.Restarts
import TradeInterfaces.Taker.TransformOrder
import TradeInterfaces.Taker.Signature
import TradeInterfaces.Taker.Run
import TradeInterfaces.Taker.SoftQuotes
import TradeInterfaces.Taker.Steps
import TradeInterfaces.Taker.Conduct
import TradeInterfaces.Taker.OptionType
import TradeInterfaces.Taker.Requests
import TradeInterfaces.Taker.Position
import TradeInterfaces.Taker.Submissions
import TradeInterfaces.Taker.Program
import TradeInterfaces.Taker.Process
import TradeInterfaces.Agreement
import TradeInterfaces.Fulfilment
import TradeInterfaces.Terms
import TradeInterfaces.Prediction
import TradeInterfaces.RfqTaker.QuoteResponse
import TradeInterfaces.RfqTaker.Affordability
import TradeInterfaces.RfqMaker.QuoteResponse
import TradeInterfaces.RfqMaker.Skips
import TradeInterfaces.RfqMaker.Offers
import TradeInterfaces.Digests
import TradeInterfaces.Market.Parties
import TradeInterfaces.Market.Replies
import TradeInterfaces.Market.Turns
import TradeInterfaces.Market.Orders
import TradeInterfaces.Market.Trading
import TradeInterfaces.Market.Settlement
import TradeInterfaces.Market.Completion
import TradeInterfaces.Market.Safety
import TradeInterfaces.Market.Ordering
import TradeInterfaces.Market.Authenticity
import TradeInterfaces.Market.Allowances
import TradeInterfaces.Market.Processes
