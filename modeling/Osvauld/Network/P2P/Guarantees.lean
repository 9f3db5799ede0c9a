import Osvauld.Network.P2P.PeerConnection

namespace Osvauld.Network

def OnConnection (connected : PeerConnection → PeerConnection → Prop)
    (session session' : Session) : Prop :=
  connected session.connection session'.connection

end Osvauld.Network

namespace Osvauld.Data.Program.Guarantees

open Osvauld.Core CryptoUtils Network Persistance Services

/-! What the steps of the handlers guarantee, by the part of the session they
touch. -/

variable {α : Type} {relation : Session → Session → Prop}

section

variable {inner : RepositoryContext → RepositoryContext → Prop} {service : Service α}
  (houter : ∀ session repo, inner session.repo repo → relation session { session with repo })
  (hservice : Guarantees inner service)

include houter hservice

theorem callService : Guarantees relation (Network.callService service) :=
  .mapError _ (.zoom houter hservice)

theorem callServiceAs {report : ServiceError → SyncError} :
    Guarantees relation (Network.callServiceAs report service) :=
  .mapError _ (.zoom houter hservice)

end

theorem updateRepo
    {write : RepositoryContext → Except RepositoryError RepositoryContext}
    (hrefl : ∀ session, relation session session)
    (hwrite : ∀ session repo, write session.repo = .ok repo →
      relation session { session with repo }) :
    Guarantees relation (Network.updateRepo write) := by
  refine .write hrefl fun session session' hupdate => ?_
  split at hupdate
  · next repo hrepo =>
      cases hupdate
      exact hwrite session repo hrepo
  · cases hupdate

theorem callCrypto (result : CryptoResult α) :
    Guarantees relation (Network.callCrypto result) := .done

theorem fail (error : P2PError) :
    Guarantees relation (Program.fail error : Handler α) := .done

theorem getLocalUser (env : NetworkEnv) :
    Guarantees relation (Network.getLocalUser env) := by
  unfold Network.getLocalUser
  cases env.currentUser <;> exact .done

theorem getLocalUser_bind (env : NetworkEnv) {continuation : User → Handler α}
    (hcontinuation : ∀ user, env.currentUser = some user →
      Guarantees relation (continuation user)) :
    Guarantees relation (Network.getLocalUser env >>= continuation) := by
  unfold Network.getLocalUser
  cases huser : env.currentUser with
  | none => exact .done
  | some user => exact hcontinuation user huser

theorem getLocalDevice (env : NetworkEnv) :
    Guarantees relation (Network.getLocalDevice env) := by
  unfold Network.getLocalDevice
  cases env.currentDevice <;> exact .done

theorem getClientId (env : NetworkEnv) (device : Device) :
    Guarantees relation (Network.getClientId env device) := by
  unfold Network.getClientId
  split <;> exact .done

theorem changeConnection {change : PeerConnection → PeerConnection}
    (hchange : ∀ session,
      relation session { session with connection := change session.connection }) :
    Guarantees relation (Network.changeConnection change) :=
  .atomically hchange

theorem ite {condition : Prop} [Decidable condition]
    {first second : Handler α} (hfirst : Guarantees relation first)
    (hsecond : Guarantees relation second) :
    Guarantees relation (if condition then first else second) := by
  split
  · exact hfirst
  · exact hsecond

section OnConnection

variable {connected : PeerConnection → PeerConnection → Prop}
variable (hrefl : ∀ connection, connected connection connection)

include hrefl

theorem connection_callService (service : Service α) :
    Guarantees (OnConnection connected) (Network.callService service) :=
  .callService (fun session _ _ => hrefl session.connection) (.trivial service)

theorem connection_callServiceAs (report : ServiceError → SyncError)
    (service : Service α) :
    Guarantees (OnConnection connected) (Network.callServiceAs report service) :=
  .callServiceAs (fun session _ _ => hrefl session.connection) (.trivial service)

theorem connection_updateRepo
    (write : RepositoryContext → Except RepositoryError RepositoryContext) :
    Guarantees (OnConnection connected) (Network.updateRepo write) :=
  .updateRepo (fun session => hrefl session.connection)
    fun session _ _ => hrefl session.connection

theorem connection_read (query : Session → Except P2PError α) :
    Guarantees (OnConnection connected) (Program.read query) :=
  .read (fun session => hrefl session.connection) query

end OnConnection

theorem connection_change {connected : PeerConnection → PeerConnection → Prop}
    {change : PeerConnection → PeerConnection}
    (hchange : ∀ connection, connected connection (change connection)) :
    Guarantees (OnConnection connected) (Network.changeConnection change) :=
  .changeConnection fun session => hchange session.connection

end Osvauld.Data.Program.Guarantees

namespace Osvauld.Network

open Data

theorem run_keeps {α : Type} {connected : PeerConnection → PeerConnection → Prop}
    {program : Handler α} (hprogram : Program.Guarantees (OnConnection connected)
      program)
    (hrefl : ∀ connection, connected connection connection)
    (htrans : ∀ first second third, connected first second →
      connected second third → connected first third) (session : Session) :
    connected session.connection (program.run session).2.connection :=
  hprogram.run (fun session => hrefl session.connection)
    (fun first second third => htrans first.connection second.connection
      third.connection) session

end Osvauld.Network
