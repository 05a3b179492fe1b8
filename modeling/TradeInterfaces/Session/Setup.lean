import TradeInterfaces.Foundations.Effects
import TradeInterfaces.Session.Interceptor

/-! How maker and taker open a session: a nonce and a cookie are fetched, the nonce is
signed, verified under the cookie, and the session is checked. -/
namespace TradeInterfaces.Session
open Foundations.BigEndian Foundations.Panics Foundations.Effects Ethers

structure NonceResponse where
  setCookie : Option AsciiMetadataValue
  nonce : String

/-- What the server and the provider give while a session is opened. The connection is
made twice. -/
structure Calls where
  connect : Except String Unit
  nonce : Except String NonceResponse
  connectAgain : Except String Unit
  getChainid : Except String U256
  now : TimeStamp
  verify : Except String Unit
  authenticate : Except String Unit

/-- What is sent to the server, and what the wallet signs for it. -/
inductive Event where
  | connect
  | nonce
  | signMessage (message : Message)
  | verify (request : Request) (body : String)
  | authenticate (request : Request)
  deriving DecidableEq

/-- Narrowing to 64 bits panics when the value does not fit. -/
def asU64 (a : U256) : Except Panic UInt64 :=
  if a.toNat < 2^64 then .ok (UInt64.ofNat a.toNat) else .error .overflow

/-- The maker's connection: a bad TLS configuration panics, no connection is `none`. -/
def connectToValorem (tlsConfig connect : Except String Unit) : Proc Panic Event (Option Unit) :=
  match tlsConfig with
  | .error _ => Proc.abort .explicit
  | .ok () => do
    Proc.emit .connect
    match connect with
    | .ok () => return some ()
    | .error _ => return none

/-- The maker's way. -/
def setup (library : Library) (wallet : Wallet) (tlsConfig : Except String Unit) (calls : Calls) :
    Proc Panic Event (Option String) := do
  let some () ← connectToValorem tlsConfig calls.connect | return none
  Proc.emit .nonce
  let .ok response := calls.nonce | return none
  let some sessionCookieRaw := response.setCookie | return none
  let .ok sessionCookie := library.toStr sessionCookieRaw | return none
  let some () ← connectToValorem tlsConfig calls.connectAgain | return none
  let .ok chainId := calls.getChainid | return none
  let chainId ← Proc.lift (asU64 chainId)
  let message := signInMessage wallet.address chainId response.nonce calls.now
  Proc.emit (.signMessage message)
  let request ← Proc.lift (SessionInterceptor.call library ⟨sessionCookie⟩ ⟨[]⟩)
  Proc.emit (.verify request (signedMessage library wallet message))
  let .ok () := calls.verify | return none
  let request ← Proc.lift (SessionInterceptor.call library ⟨sessionCookie⟩ ⟨[]⟩)
  Proc.emit (.authenticate request)
  let .ok () := calls.authenticate | return none
  return some sessionCookie

/-- How the taker ends where the maker would try again. -/
inductive Ending where
  | exited | panicked (panic : Panic)
  deriving DecidableEq

def panicking {α : Type} (x : Except Panic α) : Proc Ending Event α := Proc.lift (x.mapError .panicked)

/-- The taker's connection: everything that fails is unwrapped. -/
def channel (tlsConfig connect : Except String Unit) : Proc Ending Event Unit := do
  panicking (unwrapResult tlsConfig)
  Proc.emit .connect
  panicking (unwrapResult connect)

/-- The taker's way. -/
def setupValoremConnection (library : Library) (wallet : Wallet) (tlsConfig : Except String Unit)
    (calls : Calls) : Proc Ending Event String := do
  channel tlsConfig calls.connect
  Proc.emit .nonce
  let response ← panicking (unwrapResult calls.nonce)
  let sessionCookieRaw ← panicking (unwrap response.setCookie)
  let sessionCookie ← panicking (unwrapResult (library.toStr sessionCookieRaw))
  channel tlsConfig calls.connectAgain
  let chainId ← panicking (unwrapResult calls.getChainid)
  let chainId ← panicking (asU64 chainId)
  let message := signInMessage wallet.address chainId response.nonce calls.now
  Proc.emit (.signMessage message)
  let request ← panicking (SessionInterceptor.call library ⟨sessionCookie⟩ ⟨[]⟩)
  Proc.emit (.verify request (signedMessage library wallet message))
  let .ok () := calls.verify | Proc.abort .exited
  let request ← panicking (SessionInterceptor.call library ⟨sessionCookie⟩ ⟨[]⟩)
  Proc.emit (.authenticate request)
  let .ok () := calls.authenticate | Proc.abort .exited
  return sessionCookie

/-- What is done for a session that is opened. -/
def signIn (library : Library) (wallet : Wallet) (message : Message) (request : Request) : List Event :=
  [.connect, .nonce, .connect, .signMessage message, .verify request (signedMessage library wallet message),
    .authenticate request]

/-- All that has to succeed for a session with this cookie. -/
structure Opens (library : Library) (tlsConfig : Except String Unit) (calls : Calls) (cookie nonce : String)
    (chainId : UInt64) (request : Request) : Prop where
  tlsConfig : tlsConfig = .ok ()
  connect : calls.connect = .ok ()
  nonce : ∃ raw, calls.nonce = .ok ⟨some raw, nonce⟩ ∧ library.toStr raw = .ok cookie
  connectAgain : calls.connectAgain = .ok ()
  getChainid : ∃ id, calls.getChainid = .ok id ∧ asU64 id = .ok chainId
  request : SessionInterceptor.call library ⟨cookie⟩ ⟨[]⟩ = .ok request
  verify : calls.verify = .ok ()
  authenticate : calls.authenticate = .ok ()

/-- A panic while a session is opened. -/
inductive SetupPanics (library : Library) (tlsConfig : Except String Unit) (calls : Calls) : Prop
  | tlsConfig {e : String} (h : tlsConfig = .error e)
  | chainId {id : U256} (h : calls.getChainid = .ok id) (large : 2^64 ≤ id.toNat)
  | cookie {raw : AsciiMetadataValue} {cookie : String} {panic : Panic} (h : library.toStr raw = .ok cookie)
      (hcall : SessionInterceptor.call library ⟨cookie⟩ ⟨[]⟩ = .error panic)

/-- Two computations that do the same, where the second one ends when the first gives up. -/
inductive Alike {α : Type} (Q : α → List Event → Prop) (R : Prop) :
    Proc Panic Event (Option α) → Proc Ending Event α → Prop
  | returned {a : α} {events : List Event} (h : Q a events) : Alike Q R ⟨.ok (some a), events⟩ ⟨.ok a, events⟩
  | refused {events : List Event} {ending : Ending} : Alike Q R ⟨.ok none, events⟩ ⟨.error ending, events⟩
  | panicked {events : List Event} {panic panic' : Panic} (h : R) :
      Alike Q R ⟨.error panic, events⟩ ⟨.error (.panicked panic'), events⟩

namespace Alike
variable {α : Type} {Q : α → List Event → Prop} {R : Prop}

theorem emit {e : Event} {f : Unit → Proc Panic Event (Option α)} {g : Unit → Proc Ending Event α}
    (h : Alike (fun a events => Q a (e :: events)) R (f ()) (g ())) :
    Alike Q R (Proc.emit e >>= f) (Proc.emit e >>= g) := by
  rw [Proc.emit_bind, Proc.emit_bind]
  generalize f () = p at h
  generalize g () = q at h
  cases h with
  | returned h => exact .returned h
  | refused => exact .refused
  | panicked h => exact .panicked h

theorem connect {tlsConfig connect : Except String Unit} {f : Option Unit → Proc Panic Event (Option α)}
    {g : Unit → Proc Ending Event α} (hnone : f none = pure none) (htls : ∀ e, tlsConfig = .error e → R)
    (h : tlsConfig = .ok () → connect = .ok () →
      Alike (fun a events => Q a (.connect :: events)) R (f (some ())) (g ())) :
    Alike Q R (connectToValorem tlsConfig connect >>= f) (channel tlsConfig connect >>= g) := by
  cases tlsConfig with
  | error e => exact .panicked (htls e rfl)
  | ok u =>
    cases connect with
    | error e =>
      rw [Proc.bind_of_ok rfl, Proc.bind_of_error rfl, hnone]
      exact .refused
    | ok u => exact @emit α Q R .connect (fun _ => f (some ())) (fun _ => g ()) (h rfl rfl)

theorem lift {β : Type} {x : Except Panic β} {f : β → Proc Panic Event (Option α)} {g : β → Proc Ending Event α}
    (herror : ∀ panic, x = .error panic → R) (h : ∀ b, x = .ok b → Alike Q R (f b) (g b)) :
    Alike Q R (Proc.lift x >>= f) (panicking x >>= g) := by
  cases x with
  | error panic => exact .panicked (herror panic rfl)
  | ok b => exact h b rfl

end Alike

private theorem panicking_ok_bind {α β : Type} (a : α) (f : α → Proc Ending Event β) :
    panicking (.ok a) >>= f = f a := rfl

private theorem unwrapResult_ok {α : Type} (a : α) : unwrapResult (.ok a : Except String α) = .ok a := rfl

private theorem asU64_error {a : U256} {panic : Panic} (h : asU64 a = .error panic) : 2^64 ≤ a.toNat := by
  unfold asU64 at h
  split at h
  · cases h
  · omega

/-- Maker and taker open a session in the same way. -/
theorem setup_alike (library : Library) (wallet : Wallet) (tlsConfig : Except String Unit) (calls : Calls) :
    Alike (fun cookie events => ∃ nonce chainId request,
        Opens library tlsConfig calls cookie nonce chainId request ∧
        events = signIn library wallet (signInMessage wallet.address chainId nonce calls.now) request)
      (SetupPanics library tlsConfig calls) (setup library wallet tlsConfig calls)
      (setupValoremConnection library wallet tlsConfig calls) := by
  unfold setup setupValoremConnection
  refine Alike.connect rfl (fun e he => .tlsConfig he) fun htls hconnect => Alike.emit ?_
  cases hnonce : calls.nonce with
  | error e => exact .refused
  | ok response =>
    obtain ⟨_ | raw, nonce⟩ := response
    · exact .refused
    simp only [unwrapResult_ok, unwrap_some, panicking_ok_bind]
    cases hraw : library.toStr raw with
    | error e => exact .refused
    | ok cookie =>
      simp only [unwrapResult_ok, panicking_ok_bind]
      refine Alike.connect rfl (fun e he => .tlsConfig he) fun _ hagain => ?_
      cases hid : calls.getChainid with
      | error e => exact .refused
      | ok id =>
        simp only [unwrapResult_ok, panicking_ok_bind]
        refine Alike.lift (fun panic hp => .chainId hid (asU64_error hp)) fun chainId hchain => Alike.emit ?_
        refine Alike.lift (fun panic hp => .cookie hraw hp) fun request hrequest => Alike.emit ?_
        cases hverify : calls.verify with
        | error e => exact .refused
        | ok u =>
          refine Alike.lift (fun panic hp => .cookie hraw hp) fun request' hrequest' => Alike.emit ?_
          cases hauthenticate : calls.authenticate with
          | error e => exact .refused
          | ok u =>
            rw [hrequest] at hrequest'
            cases hrequest'
            exact .returned ⟨nonce, chainId, request, ⟨htls, hconnect, ⟨raw, hnonce, hraw⟩, hagain,
              ⟨id, hid, hchain⟩, hrequest, hverify, hauthenticate⟩, rfl⟩

variable {library : Library} {wallet : Wallet} {tlsConfig : Except String Unit} {calls : Calls}

private theorem setup_of_opens {cookie nonce : String} {chainId : UInt64} {request : Request}
    (h : Opens library tlsConfig calls cookie nonce chainId request) :
    setup library wallet tlsConfig calls =
      ⟨.ok (some cookie), signIn library wallet (signInMessage wallet.address chainId nonce calls.now) request⟩ := by
  obtain ⟨raw, hnonce, hraw⟩ := h.nonce
  obtain ⟨id, hid, hchain⟩ := h.getChainid
  simp only [setup, h.tlsConfig, h.connect, hnonce, hraw, h.connectAgain, hid, hchain, h.request, h.verify,
    h.authenticate, Proc.lift_ok_bind]
  rfl

/-- Where the maker has a session, all of its opening was done and has succeeded. -/
theorem setup_opened {cookie : String} (h : (setup library wallet tlsConfig calls).outcome = .ok (some cookie)) :
    ∃ nonce chainId request, Opens library tlsConfig calls cookie nonce chainId request ∧
      (setup library wallet tlsConfig calls).events =
        signIn library wallet (signInMessage wallet.address chainId nonce calls.now) request := by
  have halike := setup_alike library wallet tlsConfig calls
  generalize setup library wallet tlsConfig calls = p at h halike
  generalize setupValoremConnection library wallet tlsConfig calls = q at halike
  cases halike with
  | returned hopened =>
    cases h
    exact hopened
  | refused => cases h
  | panicked _ => cases h

/-- So it is for the taker. -/
theorem setupValoremConnection_opened {cookie : String}
    (h : (setupValoremConnection library wallet tlsConfig calls).outcome = .ok cookie) :
    ∃ nonce chainId request, Opens library tlsConfig calls cookie nonce chainId request ∧
      (setupValoremConnection library wallet tlsConfig calls).events =
        signIn library wallet (signInMessage wallet.address chainId nonce calls.now) request := by
  have halike := setup_alike library wallet tlsConfig calls
  generalize setup library wallet tlsConfig calls = p at halike
  generalize setupValoremConnection library wallet tlsConfig calls = q at h halike
  cases halike with
  | returned hopened =>
    cases h
    exact hopened
  | refused => cases h
  | panicked _ => cases h

theorem setup_panics {panic : Panic} (h : (setup library wallet tlsConfig calls).outcome = .error panic) :
    SetupPanics library tlsConfig calls := by
  have halike := setup_alike library wallet tlsConfig calls
  generalize setup library wallet tlsConfig calls = p at h halike
  generalize setupValoremConnection library wallet tlsConfig calls = q at halike
  cases halike with
  | returned _ => cases h
  | refused => cases h
  | panicked hpanics => exact hpanics

/-- Maker and taker send the server the same, and open a session on the same answers. -/
theorem setups_agree (library : Library) (wallet : Wallet) (tlsConfig : Except String Unit) (calls : Calls) :
    (setupValoremConnection library wallet tlsConfig calls).events =
      (setup library wallet tlsConfig calls).events ∧
    ∀ cookie,
      ((setupValoremConnection library wallet tlsConfig calls).outcome = .ok cookie ↔
        (setup library wallet tlsConfig calls).outcome = .ok (some cookie)) ∧
      ((setup library wallet tlsConfig calls).outcome = .ok (some cookie) ↔
        ∃ nonce chainId request, Opens library tlsConfig calls cookie nonce chainId request) := by
  have hopens (cookie : String) : (setup library wallet tlsConfig calls).outcome = .ok (some cookie) ↔
      ∃ nonce chainId request, Opens library tlsConfig calls cookie nonce chainId request := by
    constructor
    · intro h
      obtain ⟨nonce, chainId, request, hopened, _⟩ := setup_opened h
      exact ⟨nonce, chainId, request, hopened⟩
    · intro ⟨nonce, chainId, request, hopened⟩
      rw [setup_of_opens hopened]
  have halike := setup_alike library wallet tlsConfig calls
  generalize setup library wallet tlsConfig calls = p at hopens halike
  generalize setupValoremConnection library wallet tlsConfig calls = q at halike
  cases halike with
  | returned _ => exact ⟨rfl, fun cookie => ⟨by simp, hopens cookie⟩⟩
  | refused => exact ⟨rfl, fun cookie => ⟨by simp, hopens cookie⟩⟩
  | panicked _ => exact ⟨rfl, fun cookie => ⟨by simp, hopens cookie⟩⟩

end TradeInterfaces.Session
