import TradeInterfaces.Foundations.Panics
import TradeInterfaces.Wire.Signatures

/-! Requests that carry a session, and the message that is signed to open one. -/
namespace TradeInterfaces.Session
open Foundations.BigEndian Foundations.Panics Ethers

/-- The bytes of a header value. -/
abbrev AsciiMetadataValue := List UInt8

/-- The headers of a request, each key at most once. -/
structure Request where
  metadata : List (String × AsciiMetadataValue)
  deriving DecidableEq

def Request.insert (request : Request) (key : String) (value : AsciiMetadataValue) : Request where
  metadata := (key, value) :: request.metadata.filter fun entry => entry.1 ≠ key

def Request.get (request : Request) (key : String) : Option AsciiMetadataValue := request.metadata.lookup key

inductive Version where
  | v1
  deriving DecidableEq

/-- Nanoseconds since the epoch. -/
abbrev TimeStamp := Nat

/-- The message of a sign-in with Ethereum. -/
structure Message where
  domain : String
  address : Address
  statement : Option String
  uri : String
  version : Version
  chainId : UInt64
  nonce : String
  issuedAt : TimeStamp
  expirationTime : Option TimeStamp
  notBefore : Option TimeStamp
  requestId : Option String
  resources : List String
  deriving DecidableEq

/-- What the libraries do: header values from and to text, the text of a message, the hash
a wallet signs for a text, the text of a signature, and a JSON object from its members in
the order they were inserted. -/
structure Library where
  toStr : AsciiMetadataValue → Except String String
  tryFrom : String → Except String AsciiMetadataValue
  messageString : Message → String
  hashMessage : String → H256
  signatureString : Signature → String
  json : List (String × String) → String

/-- The text of a header value makes the same header value. -/
def Library.RoundTrips (library : Library) : Prop :=
  ∀ value text, library.toStr value = .ok text → library.tryFrom text = .ok value

def cookieHeaderKey : String := "cookie"

structure SessionInterceptor where
  sessionCookie : String
  deriving DecidableEq

/-- The cookie is put into the request's headers when there is one. -/
def SessionInterceptor.call (library : Library) (interceptor : SessionInterceptor) (request : Request) :
    Except Panic Request :=
  if interceptor.sessionCookie ≠ "" then do
    let cookieValue ← unwrapResult (library.tryFrom interceptor.sessionCookie)
    return request.insert cookieHeaderKey cookieValue
  else return request

def tosAcceptance : String :=
  "I accept the Valorem Terms of Service at https://app.valorem.xyz/tos and Privacy Policy at https://app.valorem.xyz/privacy"

/-- The message that maker and taker build with the same code. -/
def signInMessage (address : Address) (chainId : UInt64) (nonce : String) (now : TimeStamp) : Message where
  domain := "localhost.com"
  address
  statement := some tosAcceptance
  uri := "http://localhost/"
  version := .v1
  chainId
  nonce
  issuedAt := now
  expirationTime := none
  notBefore := none
  requestId := none
  resources := []

structure Wallet where
  address : Address
  signHash : H256 → Signature

/-- The body of the verification: the message with its signature. -/
def signedMessage (library : Library) (wallet : Wallet) (message : Message) : String :=
  let messageString := library.messageString message
  let signature := wallet.signHash (library.hashMessage messageString)
  library.json [("signature", library.signatureString signature), ("message", messageString)]

/-- A cookie read from a header never makes the interceptor panic. Requests carry the
header it was read from, and none when it is empty. -/
theorem call_of_toStr {library : Library} (hlibrary : library.RoundTrips) {value : AsciiMetadataValue}
    {cookie : String} (h : library.toStr value = .ok cookie) (request : Request) :
    SessionInterceptor.call library ⟨cookie⟩ request =
      .ok (if cookie ≠ "" then request.insert cookieHeaderKey value else request) := by
  rw [SessionInterceptor.call]
  split
  · simp [hlibrary value cookie h, unwrapResult, pure, Except.pure]
  · rfl

end TradeInterfaces.Session
