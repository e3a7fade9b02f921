import BackendAudit.Proofs.Probe.Answers
import BackendAudit.Proofs.Text.Parts
import Mathlib.Data.List.DropRight
import Mathlib.Data.List.Infix
import Mathlib.Tactic.Tauto

/-!
# Pages among the responses

A payload that is to run in a page is reported when its response mentions `text/html` in a header
that is text, letter by letter, and has the payload in its body (`Network.hits_iff_mentions`).  The
media type of a header, as it is defined for messages, is what is before its parameters, in any case
of letters.  The two differ in both directions: a page whose type is written in capital letters is
passed over, and a body of another type is taken for a page if a parameter mentions it
(`probeJobs_pages`, `passes_over_page`).
-/

namespace BackendAudit

/-! ## Media types -/

/-- The media type of a page. -/
def htmlType : List Char := "text/html".toList

/-- Whether a character may stand around the parts of a header. -/
def isHeaderBlank (c : Char) : Bool := c == ' ' || c == '\t'

namespace Response

/-- The header that says what the body is, byte by byte; empty if there is none. -/
def header (r : Response) : List Char :=
  (r.contentType.getD []).map fun b => Char.ofNat b.toNat

/-- What the header says before its parameters, without blanks around it. -/
def mediaType (r : Response) : List Char :=
  ((r.header.takeWhile (· ≠ ';')).dropWhile isHeaderBlank).rdropWhile isHeaderBlank

/-- The parameters of the header, with the semicolon before them. -/
def parameters (r : Response) : List Char := r.header.dropWhile (· ≠ ';')

/-- The body is said to be a page.  The letters of a media type may be in any case. -/
def IsPage (r : Response) : Prop := r.mediaType.map Char.toLower = htmlType

/-- All of the header is text. -/
def HasTextHeader (r : Response) : Prop := (r.contentType.getD []).all isHeaderText = true

/-- The header mentions pages as they are written here, in the media type or in a parameter. -/
def MentionsPage (r : Response) : Prop :=
  r.HasTextHeader ∧ (htmlType <:+: r.mediaType ∨ htmlType <:+: r.parameters)

instance (r : Response) : Decidable r.IsPage := inferInstanceAs (Decidable (_ = _))

instance (r : Response) : Decidable r.HasTextHeader := inferInstanceAs (Decidable (_ = _))

instance (r : Response) : Decidable r.MentionsPage := inferInstanceAs (Decidable (_ ∧ _))

variable {r : Response}

/-- A header that is not text says nothing. -/
theorem contentTypeText_eq (r : Response) :
    r.contentTypeText = if r.HasTextHeader then r.header else [] := by
  cases hheader : r.contentType with
  | none => simp [contentTypeText, HasTextHeader, header, hheader]
  | some bytes => simp [contentTypeText, HasTextHeader, header, hheader]

/-- The name of the type has no blank and no semicolon, so that it stands in one part of the
header. -/
theorem contains_header_iff (r : Response) :
    Text.contains htmlType r.header = true ↔
      htmlType <:+: r.mediaType ∨ htmlType <:+: r.parameters := by
  have hletter : 't' ∈ htmlType := by decide
  have hsemicolon : ';' ∉ htmlType := by decide
  have hblank (c : Char) (hc : isHeaderBlank c = true) : c ∉ htmlType := by
    rw [isHeaderBlank, Bool.or_eq_true, beq_iff_eq, beq_iff_eq] at hc
    rcases hc with rfl | rfl <;> decide
  have hparts : Text.contains htmlType r.header =
      (Text.contains htmlType (r.header.takeWhile (· ≠ ';')) ||
        Text.contains htmlType r.parameters) := by
    conv_lhs => rw [← List.takeWhile_append_dropWhile (p := (· ≠ ';')) (l := r.header)]
    rw [parameters]
    cases hrest : r.header.dropWhile (· ≠ ';') with
    | nil => rw [List.append_nil, Text.contains_eq_false hletter List.not_mem_nil, Bool.or_false]
    | cons c rest =>
      have hc : c = ';' := by
        have hhead := List.head?_dropWhile_not (· ≠ ';') r.header
        rw [hrest] at hhead
        simpa using hhead
      have hnone := Text.contains_append_cons hsemicolon [] rest
      rw [Text.contains_eq_false hletter List.not_mem_nil, Bool.false_or, List.nil_append] at hnone
      rw [hc, Text.contains_append_cons hsemicolon, hnone]
  have hstart (cs : List Char) : Text.contains htmlType cs =
      Text.contains htmlType (cs.dropWhile isHeaderBlank) := by
    conv_lhs => rw [← List.takeWhile_append_dropWhile (p := isHeaderBlank) (l := cs)]
    exact Text.contains_append_left hletter (fun c hc => hblank c (List.mem_takeWhile_imp hc)) _
  have hend (cs : List Char) : Text.contains htmlType cs =
      Text.contains htmlType (cs.rdropWhile isHeaderBlank) := by
    conv_lhs => rw [← List.rdropWhile_append_rtakeWhile (p := isHeaderBlank) (l := cs)]
    exact Text.contains_append_right hletter _ fun c hc => hblank c (List.mem_rtakeWhile_imp hc)
  rw [hparts, hstart, hend, Bool.or_eq_true, Text.contains_iff, Text.contains_iff, mediaType]

/-- A payload is reflected where pages are mentioned and it comes back in the body. -/
theorem reflects_iff (r : Response) (payload : String) :
    r.reflects payload = true ↔ r.MentionsPage ∧ payload.toList <:+: r.bodyText := by
  have hletter : 't' ∈ htmlType := by decide
  have hmention : Text.contains htmlType r.contentTypeText = true ↔ r.MentionsPage := by
    rw [contentTypeText_eq, MentionsPage, ← contains_header_iff]
    by_cases htext : r.HasTextHeader
    · rw [if_pos htext, and_iff_right htext]
    · rw [if_neg htext, Text.contains_eq_false hletter List.not_mem_nil]
      simp [htext]
  rw [← hmention, ← Text.contains_iff, ← Bool.and_eq_true]
  rfl

/-- The type of a page has as many letters as the name that is looked for. -/
theorem IsPage.mentionsPage_iff (h : r.IsPage) :
    r.MentionsPage ↔ r.HasTextHeader ∧ (r.mediaType = htmlType ∨ htmlType <:+: r.parameters) := by
  have hlength : htmlType.length = r.mediaType.length := by rw [← h, List.length_map]
  have htype : htmlType <:+: r.mediaType ↔ r.mediaType = htmlType :=
    ⟨fun hmentions => (hmentions.eq_of_length hlength).symm, fun heq => heq ▸ List.infix_refl _⟩
  rw [MentionsPage, htype]

/-- Two responses that a probe cannot tell apart: their headers may differ, but mention pages both
or neither. -/
structure Alike (r r' : Response) : Prop where
  status_eq : r.status = r'.status
  body_eq : r.body = r'.body
  mentions_iff : r.MentionsPage ↔ r'.MentionsPage

theorem Alike.isHit_eq {r' : Response} (h : r.Alike r') (job : Job) :
    job.isHit r = job.isHit r' := by
  rw [Job.isHit, Job.isHit]
  cases job.attack with
  | sqlInjection => simp only [signalsInjection, h.status_eq]
  | crossSiteScripting =>
    rw [Bool.eq_iff_iff, reflects_iff, reflects_iff, h.mentions_iff, bodyText, bodyText, h.body_eq]

end Response

/-! ## Verdicts of a probe -/

/-- What comes of a job does not depend on more of its response than that. -/
theorem Job.outcome_congr {response response' : Option Response}
    (h : Option.Rel Response.Alike response response') (job : Job) :
    job.outcome response = job.outcome response' := by
  cases h with
  | none => rfl
  | some hlike => rw [Job.outcome, Job.outcome, hlike.isHit_eq]

/-- Responses that cannot be told apart lead to the same answers. -/
theorem probeJobs_congr {network network' : Network} {limit : Nat} {jobs : List Job}
    (hlimit : 1 ≤ limit) (hturn : network'.turn = network.turn)
    (hlike : ∀ job ∈ jobs, Option.Rel Response.Alike (network.response job)
      (network'.response job)) :
    probeJobs network' limit jobs = probeJobs network limit jobs := by
  obtain ⟨ended, left, hreaches, hleads⟩ := Pool.exists_leads hlimit network.turn 0 ⟨jobs, []⟩
  have hsubset : ended ⊆ jobs := (hreaches.accounts (Pool.Accounts.start limit jobs)).subset
  have houtcome : ∀ job ∈ ended, job.outcome (network'.response job) =
      job.outcome (network.response job) :=
    fun job hjob => (Job.outcome_congr (hlike job (hsubset hjob)) job).symm
  have hhits : Completion.hits network' ⟨ended, !left.underWay.isEmpty⟩ =
      Completion.hits network ⟨ended, !left.underWay.isEmpty⟩ :=
    List.filterMap_congr fun job hjob => by rw [houtcome job hjob]
  have hskips : Completion.skipEvents network' ⟨ended, !left.underWay.isEmpty⟩ =
      Completion.skipEvents network ⟨ended, !left.underWay.isEmpty⟩ :=
    List.filterMap_congr fun job hjob => by rw [houtcome job hjob]
  rw [probeJobs, probeJobs, hturn, hleads.completion]
  simp only [Completion.events, Completion.findings, hhits, hskips]

/-- What a probe makes of the response to a job whose payload is to run in a page. -/
structure Network.TellsPages (network : Network) (job : Job) (r : Response) : Prop where
  /-- The job is reported where pages are mentioned and the payload comes back. -/
  hits_iff : network.hits job = true ↔ r.MentionsPage ∧ job.payload.toList <:+: r.bodyText
  /-- This is the verdict by the media type, unless the payload comes back in a page that is not
  mentioned as such, or in another body whose header mentions pages. -/
  agrees_iff : (network.hits job = true ↔ r.IsPage ∧ job.payload.toList <:+: r.bodyText) ↔
    (job.payload.toList <:+: r.bodyText → (r.MentionsPage ↔ r.IsPage))
  /-- A page is mentioned as such in small letters, or in a parameter. -/
  mentions_iff : r.IsPage →
    (r.MentionsPage ↔ r.HasTextHeader ∧ (r.mediaType = htmlType ∨ htmlType <:+: r.parameters))

theorem Network.tellsPages {network : Network} {job : Job} {r : Response}
    (hattack : job.attack = .crossSiteScripting) (hsendable : job.request.isSendable = true)
    (hresponse : network.response job = some r) : network.TellsPages job r := by
  have hhits : network.hits job = true ↔ r.MentionsPage ∧ job.payload.toList <:+: r.bodyText := by
    rw [Network.hits, hsendable, hresponse, Option.any_some, Bool.true_and, Job.isHit, hattack]
    exact Response.reflects_iff r job.payload
  constructor
  case hits_iff => exact hhits
  case agrees_iff =>
    rw [hhits]
    tauto
  case mentions_iff => exact Response.IsPage.mentionsPage_iff

/-- Of the jobs that have ended those are reported whose responses show what their payloads are for.
For a payload that is to run in a page the response has to mention pages in its header, letter by
letter, and to have the payload in its body; no other difference between the headers of two
networks is ever seen in what a probe reports or tells. -/
theorem probeJobs_pages {c : ProbeConfig} {jobs : List Job} (hjobs : c.jobs = .ok jobs)
    (hlimit : 1 ≤ c.concurrency) (network : Network) :
    (∃ ended left, Pool.Reaches c.concurrency ⟨jobs, []⟩ ended left ∧
      (probeJobs network c.concurrency jobs).result =
        (jobs.filter fun job => ended.contains job && network.hits job).map Job.finding) ∧
      (∀ job r, job.attack = .crossSiteScripting → job.request.isSendable = true →
        network.response job = some r → network.TellsPages job r) ∧
      ∀ network' : Network, network'.turn = network.turn →
        (∀ job ∈ jobs, Option.Rel Response.Alike (network.response job)
          (network'.response job)) →
        probeJobs network' c.concurrency jobs = probeJobs network c.concurrency jobs := by
  refine ⟨?reported, fun job r => Network.tellsPages, fun network' => probeJobs_congr hlimit⟩
  case reported =>
    obtain ⟨ended, left, hreaches, hleads⟩ :=
      Pool.exists_leads hlimit network.turn 0 ⟨jobs, []⟩
    have hanswers := answers_of_leads (ProbeConfig.jobs_ascending hjobs) hlimit hreaches hleads
    exact ⟨ended, left, hreaches, hanswers.findings⟩

/-! ## Payloads that are sent back -/

/-- A response with the payload of a job as its body, under a header. -/
def echo (contentType : String) (job : Job) : Response :=
  ⟨200, some (Text.Utf8.encode contentType.toList), Text.Utf8.encode job.payload.toList⟩

/-- A network that sends every payload back. -/
def echoNetwork (contentType : String) : Network where
  response job := some (echo contentType job)
  turn _ := .completes 0
  clock := 1

/-- One endpoint and one payload, which is to run in a page. -/
def pageProbe : ProbeConfig where
  baseUrls := ["http://[::1]"]
  endpoints := ["/a"]
  sqlPayloads := []
  xssPayloads := ["<b>"]
  concurrency := 1

/-- The page is mentioned in small letters, with a parameter behind. -/
theorem probeJobs_pages_charset :
    let network := echoNetwork "text/html; charset=utf-8"
    ∃ jobs job, pageProbe.jobs = .ok jobs ∧ 1 ≤ pageProbe.concurrency ∧ job ∈ jobs ∧
      network.TellsPages job (echo "text/html; charset=utf-8" job) ∧ network.hits job = true ∧
      ∃ ended left, Pool.Reaches 1 ⟨jobs, []⟩ ended left ∧
        (probeJobs network 1 jobs).result =
          (jobs.filter fun job => ended.contains job && network.hits job).map Job.finding := by
  intro network
  let job : Job :=
    ⟨0, { scheme := "http".toList, host := some "[::1]".toList, path := .segments [['a']] },
      .crossSiteScripting, "<b>"⟩
  have hjobs : pageProbe.jobs = .ok [job] := by rfl
  have hlimit : 1 ≤ pageProbe.concurrency := by decide
  obtain ⟨hreported, htells, -⟩ := probeJobs_pages hjobs hlimit network
  have htold : network.TellsPages job (echo "text/html; charset=utf-8" job) :=
    htells job _ rfl (by decide) rfl
  have hpage : (echo "text/html; charset=utf-8" job).MentionsPage := by decide
  have hbody : job.payload.toList <:+: (echo "text/html; charset=utf-8" job).bodyText := by decide
  exact ⟨_, job, hjobs, hlimit, List.mem_singleton_self job, htold,
    htold.hits_iff.mpr ⟨hpage, hbody⟩, hreported⟩

/-- A job for an address, with a payload that is to run in a page. -/
def backendJob : Job :=
  ⟨0, { scheme := "http".toList, host := some "backend".toList, path := .segments [[]] },
    .crossSiteScripting, "<b>"⟩

/-- A job that is alone ends in time. -/
theorem result_echoNetwork (contentType : String) :
    (probeJobs (echoNetwork contentType) 1 [backendJob]).result =
      ([backendJob].filter (echoNetwork contentType).hits).map Job.finding := by
  obtain ⟨ended, left, hreaches, hleads⟩ :=
    Pool.exists_leads (Nat.le_refl 1) (echoNetwork contentType).turn 0 ⟨[backendJob], []⟩
  have hanswers := answers_of_leads (List.pairwise_singleton _ _) (Nat.le_refl 1) hreaches hleads
  exact (hanswers.in_time fun _ _ => Turn.noConfusion).2

/-- A page is passed over when its type is written in capital letters, although the payload comes
back in it as it does under small letters; and a plain text is reported whose header mentions pages
in a parameter. -/
theorem passes_over_page :
    (echo "TEXT/HTML" backendJob).IsPage ∧
      backendJob.payload.toList <:+: (echo "TEXT/HTML" backendJob).bodyText ∧
      (probeJobs (echoNetwork "TEXT/HTML") 1 [backendJob]).result = [] ∧
      (probeJobs (echoNetwork "text/html") 1 [backendJob]).result = [backendJob.finding] ∧
      ¬ (echo "text/plain; x=text/html" backendJob).IsPage ∧
      (probeJobs (echoNetwork "text/plain; x=text/html") 1 [backendJob]).result =
        [backendJob.finding] := by
  have hcapital : (echoNetwork "TEXT/HTML").hits backendJob = false := by decide
  have hsmall : (echoNetwork "text/html").hits backendJob = true := by decide
  have hparameter : (echoNetwork "text/plain; x=text/html").hits backendJob = true := by decide
  refine ⟨by decide, by decide, ?_, ?_, by decide, ?_⟩
  · rw [result_echoNetwork, List.filter_cons_of_neg (by simp [hcapital])]
    rfl
  · rw [result_echoNetwork, List.filter_cons_of_pos hsmall]
    rfl
  · rw [result_echoNetwork, List.filter_cons_of_pos hparameter]
    rfl

end BackendAudit
