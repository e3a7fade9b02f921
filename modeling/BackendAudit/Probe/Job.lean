import BackendAudit.Config.Basic
import BackendAudit.Error
import BackendAudit.Url.Parser

/-!
# Jobs of a probe

Every payload is tried on every endpoint of every base.  Each of these jobs is a
request of its own, and they are numbered in this order: bases, their endpoints, and
the payloads, those against databases first.
-/

namespace BackendAudit

open Url (Address)

/-- What a payload is to bring to light. -/
inductive Attack where
  | sqlInjection
  | crossSiteScripting
  deriving Repr, DecidableEq, Inhabited

/-- One payload for one endpoint. -/
structure Job where
  index : Nat
  address : Address
  attack : Attack
  payload : String
  deriving Repr, DecidableEq, Inhabited

namespace ProbeConfig

/-- The address of a base. -/
def baseAddress (text : String) : Except AddressFault Address :=
  match Address.ofText text with
  | .error fault => .error (.base text fault)
  | .ok base => .ok base

/-- The address of an endpoint on a base. -/
def endpointAddress (base : Address) (endpoint : String) : Except AddressFault Address :=
  match base.resolve endpoint with
  | .error fault => .error (.endpoint endpoint base.text fault)
  | .ok address => .ok address

/-- The addresses of all endpoints on a base. -/
def addressesOn (c : ProbeConfig) (text : String) : Except AddressFault (List Address) := do
  let base ← baseAddress text
  c.endpoints.mapM (endpointAddress base)

/-- The addresses of all endpoints on all bases. -/
def addresses (c : ProbeConfig) : Except AddressFault (List Address) :=
  (c.baseUrls.mapM c.addressesOn).map List.flatten

/-- All payloads, with what each is for. -/
def attacks (c : ProbeConfig) : List (Attack × String) :=
  c.sqlPayloads.map (.sqlInjection, ·) ++ c.xssPayloads.map (.crossSiteScripting, ·)

/-- The jobs for some addresses. -/
def jobsFor (c : ProbeConfig) (addresses : List Address) : List Job :=
  (addresses.flatMap fun address => c.attacks.map fun attack => (address, attack)).mapIdx
    fun index (address, attack, payload) => ⟨index, address, attack, payload⟩

/-- All jobs, or why there is an address that cannot be asked. -/
def jobs (c : ProbeConfig) : Except AddressFault (List Job) := c.addresses.map c.jobsFor

end ProbeConfig
end BackendAudit
