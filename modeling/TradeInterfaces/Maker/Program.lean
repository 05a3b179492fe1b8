import TradeInterfaces.Approvals
import TradeInterfaces.Maker.Outcomes
import TradeInterfaces.Session.Setup

/-! The maker as a process: it connects, opens a session and two streams, runs its loop,
and starts again when the loop returns. -/
namespace TradeInterfaces.Maker
open Foundations.BigEndian Foundations.Panics Foundations.Effects Ethers
open Foundations (Runs.run)
open Seaport (seaportContractAddress)

/-- The settings that are read after loading, the wallet and the contracts among them. -/
structure Settings where
  maker : MarketMaker
  tlsConfig : Except String Unit
  approveTokens : Bool
  magicAddress : Address
  wethAddress : Address
  wbtcAddress : Address
  gmxAddress : Address
  library : Session.Library

def Settings.wallet (settings : Settings) : Session.Wallet := ⟨settings.maker.address, settings.maker.signHash⟩

/-- What happens from one connection to the next: the outcomes of the calls before the
loop, and the turns of the loop. -/
structure Connection where
  provider : Except String Unit
  setup : Session.Calls
  connect : Except String Unit
  signer : Except String Unit
  approvals : Nat → Approvals.Calls
  softStream : Except String Unit
  rfqStream : Except String Unit
  turns : List Turn

/-- What the process does. The effects of the loop are kept as they are. -/
inductive ProcessEvent where
  | session (event : Session.Event)
  | approve (tx : Approvals.Tx)
  | openSoftQuote (request : Session.Request)
  | openRfq (request : Session.Request)
  | loop (event : Event)
  | sleep (seconds : Nat)
  deriving DecidableEq

def approveTokens (settings : Settings) (calls : Nat → Approvals.Calls) : Proc Panic Approvals.Tx Unit :=
  Approvals.sendAll (Approvals.approvals 900000 (300 * exp10 8) seaportContractAddress
    settings.maker.settlementEngine settings.maker.usdcAddress
    [settings.maker.usdcAddress, settings.wethAddress, settings.wbtcAddress, settings.gmxAddress,
      settings.magicAddress]) calls

/-- The way of `run` from a session to its loop; `none` where it returns. -/
def openWith (settings : Settings) (connection : Connection) (sessionCookie : String) :
    Proc Panic ProcessEvent (Option Unit) := do
  let some () ← (Session.connectToValorem settings.tlsConfig connection.connect).relabel .session
    | return none
  let .ok () := connection.signer | return none
  (if settings.approveTokens then approveTokens settings connection.approvals else pure ()).relabel .approve
  let request ← Proc.lift (Session.SessionInterceptor.call settings.library ⟨sessionCookie⟩ ⟨[]⟩)
  Proc.emit (.openSoftQuote request)
  let .ok () := connection.softStream | return none
  let request ← Proc.lift (Session.SessionInterceptor.call settings.library ⟨sessionCookie⟩ ⟨[]⟩)
  Proc.emit (.openRfq request)
  let .ok () := connection.rfqStream | return none
  return some ()

def openStreams (settings : Settings) (connection : Connection) : Proc Panic ProcessEvent (Option Unit) := do
  let some sessionCookie ←
    (Session.setup settings.library settings.wallet settings.tlsConfig connection.setup).relabel .session
    | return none
  openWith settings connection sessionCookie

inductive Phase where
  | reconnecting | serving | panicked (panic : Panic)
  deriving DecidableEq

/-- `consumed` records the requests read so far, over all connections. -/
structure ProcessState where
  phase : Phase
  consumed : List (Stream × Grpc.QuoteRequest)
  events : List ProcessEvent

/-- One turn of the loop in `main`. -/
def serveConnection (settings : Settings) (connection : Connection) : ProcessState :=
  match connection.provider with
  | .error _ => ⟨.panicked .explicit, [], []⟩
  | .ok () =>
    let opened := openStreams settings connection
    match opened.outcome with
    | .error panic => ⟨.panicked panic, [], opened.events⟩
    | .ok none => ⟨.reconnecting, [], opened.events ++ [.sleep 10]⟩
    | .ok (some ()) =>
      let s := run settings.maker connection.turns
      let events := opened.events ++ s.events.map .loop
      match s.status with
      | .running => ⟨.serving, s.consumed, events⟩
      | .returned => ⟨.reconnecting, s.consumed, events ++ [.sleep 10]⟩
      | .panicked panic => ⟨.panicked panic, s.consumed, events⟩

def mainStep (settings : Settings) (s : ProcessState) (next : Connection) : ProcessState :=
  if s.phase = .reconnecting then
    let t := serveConnection settings next
    ⟨t.phase, s.consumed ++ t.consumed, s.events ++ t.events⟩
  else s

/-- The process after these connections. The ones that come after a loop that is still
running, or after a panic, are not reached. -/
def main (settings : Settings) (connections : List Connection) : ProcessState :=
  Runs.run (mainStep settings) ⟨.reconnecting, [], []⟩ connections

/-! A concrete process: the header is known at the one cookie, and the texts are those of the
one message that is signed. -/

def sampleCookie : Session.AsciiMetadataValue := [115, 105, 100]

def sampleLibrary : Session.Library where
  toStr value := if value = sampleCookie then .ok "sid" else .error "not visible ASCII"
  tryFrom text := if text = "sid" then .ok sampleCookie else .error "not visible ASCII"
  messageString _ :=
    "localhost.com wants you to sign in with your Ethereum account:\n0x0000000000000000000000000000000000000009\n\nI accept the Valorem Terms of Service at https://app.valorem.xyz/tos and Privacy Policy at https://app.valorem.xyz/privacy\n\nURI: http://localhost/\nVersion: 1\nChain ID: 421614\nNonce: kEWepMt9knR6lWJ6A\nIssued At: 2023-11-14T22:13:20Z"
  hashMessage _ := toBytes 32 0xfb66fcd0311783e84271db3d1162252848437d4d984da892e7ed6b690fe066c9
  signatureString _ :=
    "000000000000000000000000000000000000000000000000000000000000000100000000000000000000000000000000000000000000000000000000000000021b"
  json _ :=
    "\x7b\"message\":\"localhost.com wants you to sign in with your Ethereum account:\\n0x0000000000000000000000000000000000000009\\n\\nI accept the Valorem Terms of Service at https://app.valorem.xyz/tos and Privacy Policy at https://app.valorem.xyz/privacy\\n\\nURI: http://localhost/\\nVersion: 1\\nChain ID: 421614\\nNonce: kEWepMt9knR6lWJ6A\\nIssued At: 2023-11-14T22:13:20Z\",\"signature\":\"000000000000000000000000000000000000000000000000000000000000000100000000000000000000000000000000000000000000000000000000000000021b\"\x7d"

def sampleSettings : Settings where
  maker := sampleMaker
  tlsConfig := .ok ()
  approveTokens := true
  magicAddress := toBytes 20 14
  wethAddress := toBytes 20 15
  wbtcAddress := toBytes 20 16
  gmxAddress := toBytes 20 17
  library := sampleLibrary

def sampleConnection : Connection where
  provider := .ok ()
  setup := ⟨.ok (), .ok ⟨some sampleCookie, "kEWepMt9knR6lWJ6A"⟩, .ok (), .ok 421614, 1700000000000000000, .ok (), .ok ()⟩
  connect := .ok ()
  signer := .ok ()
  approvals _ := ⟨.ok (), .ok ()⟩
  softStream := .ok ()
  rfqStream := .ok ()
  turns := [sampleTurn (sampleRfq .buy 5) sampleRpc]

theorem sampleLibrary_roundTrips : sampleLibrary.RoundTrips := by
  intro value text h
  simp only [sampleLibrary] at h
  split at h
  · rename_i hvalue
    cases h
    rw [hvalue]
    rfl
  · cases h

def sampleRequest : Session.Request := ⟨[("cookie", sampleCookie)]⟩

end TradeInterfaces.Maker
