import BackendAudit.Json.Printer
import BackendAudit.Probe.Job
import BackendAudit.Text.Utf8

/-!
# Requests and responses

What is sent for a job, and what its response says.  A payload against databases has
brought something to light when the server fails; one that is to run in a page, when
it comes back in one as it was sent.
-/

namespace BackendAudit

open Url (Address)

/-! ## Requests -/

/-- What a request is to do. -/
inductive Method where
  | get
  | post
  deriving Repr, DecidableEq, Inhabited

/-- A request. -/
structure Request where
  method : Method
  address : Address
  body : Option Json
  deriving Inhabited

/-- The longest text that the address of a request may have. -/
def maxAddressLength : Nat := 65534

/-- Whether a character of a host is none in the address of a request. -/
def isRefusedInHost (c : Char) : Bool := ['"', '\x60', '\x7b', '\x7d'].contains c

/-- Whether a request can be sent. -/
def Request.isSendable (r : Request) : Bool :=
  ["http", "https"].contains (String.ofList r.address.scheme) && r.address.hasHost &&
    !((r.address.host.getD []).any isRefusedInHost) &&
    r.address.chars.length ≤ maxAddressLength

/-- The name of the field that has the payload of a request for a page. -/
def queryField : String := "q"

/-- The fields of a request to log in. -/
def loginFields (payload : String) : Json :=
  .ofMembers [("username", .string payload), ("password", .string "test")]

/-- The request of a job: one to log in, or one for a page. -/
def Job.request (job : Job) : Request :=
  match job.attack with
  | .sqlInjection => ⟨.post, job.address.withoutUser, some (loginFields job.payload)⟩
  | .crossSiteScripting =>
    ⟨.get, job.address.withoutUser.addField queryField.toList job.payload.toList, none⟩

/-- Why there is no response. -/
inductive ExchangeFault where
  /-- The request is none that can be sent. -/
  | unsendable
  /-- The request is not answered. -/
  | unanswered
  deriving Repr, DecidableEq, Inhabited

/-- The wording of a fault. -/
def ExchangeFault.message : ExchangeFault → String
  | unsendable => "builder error"
  | unanswered => "error sending request"

/-- The address that is shown for the request of a job.  Nothing is added to one
without a host. -/
def Job.shownAddress (job : Job) : Address :=
  if job.address.hasHost then job.request.address else job.address

/-- The wording of a fault of a job. -/
def Job.faultText (job : Job) (fault : ExchangeFault) : String :=
  fault.message ++ " for url (" ++ job.shownAddress.text ++ ")"

/-! ## Responses -/

/-- A response. -/
structure Response where
  status : Nat
  /-- The bytes of the header that says what the body is. -/
  contentType : Option (List UInt8)
  body : List UInt8
  deriving Repr, DecidableEq, Inhabited

/-- Whether a byte of a header is text. -/
def isHeaderText (b : UInt8) : Bool := (0x20 ≤ b && b < 0x7f) || b == 0x09

namespace Response

/-- What the body is said to be; empty if nothing is said, or not in text. -/
def contentTypeText (r : Response) : List Char :=
  match r.contentType with
  | none => []
  | some bytes =>
    if bytes.all isHeaderText then bytes.map fun b => Char.ofNat b.toNat else []

/-- The text of the body. -/
def bodyText (r : Response) : List Char := Text.Utf8.lossy r.body

/-- Whether the server has failed. -/
def signalsInjection (r : Response) : Bool := r.status == 500

/-- Whether the response is a page that has a payload in it. -/
def reflects (payload : String) (r : Response) : Bool :=
  Text.contains "text/html".toList r.contentTypeText &&
    Text.contains payload.toList r.bodyText

end Response

/-! ## Findings -/

namespace Job

/-- Whether a response shows that a job has brought something to light. -/
def isHit (job : Job) (r : Response) : Bool :=
  match job.attack with
  | .sqlInjection => r.signalsInjection
  | .crossSiteScripting => r.reflects job.payload

/-- What is reported for a job that has brought something to light. -/
def finding (job : Job) : Finding :=
  let address := job.address.text
  let snippet := "Payload: " ++ job.payload
  match job.attack with
  | .sqlInjection =>
    { severity := .critical, category := .security, location := .whole address
      description := "Potential SQL injection vulnerability at " ++ address
      recommendation := "Implement proper input sanitization and parameterized queries"
      snippet }
  | .crossSiteScripting =>
    { severity := .high, category := .security, location := .whole address
      description := "Potential XSS vulnerability at " ++ address
      recommendation := "Implement proper output encoding and CSP headers"
      snippet }

/-- What comes of a job, if it has this response or none. -/
def outcome (job : Job) (response : Option Response) : Except ExchangeFault (Option Finding) :=
  if !job.request.isSendable then .error .unsendable
  else
    match response with
    | none => .error .unanswered
    | some r => .ok (if job.isHit r then some job.finding else none)

end Job
end BackendAudit
