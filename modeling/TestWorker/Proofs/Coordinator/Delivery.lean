import TestWorker.Job
import TestWorker.Proofs.Activity
import TestWorker.Proofs.Placeholder.Token
import TestWorker.Proofs.Web.Address

namespace TestWorker

/-- Faults that a report does not let through to the job. -/
def Fault.isDropped : Fault → Bool
  | .transport .. | .coordinator _ => true
  | _ => false

namespace Web

/-- What a request for the address comes to by its answer, where no redirect is followed. -/
def settled (url : Url) : Except Fault Response → Except Fault Response
  | .error f => .error f
  | .ok r => match r.location? with
    | none => .ok r
    | some location => (redirectUrl url location).map fun _ => r

theorem redirected_eq_error {r : Request} (status : Nat) {location : String} (jar : Jar) {f : Fault}
    (h : redirectUrl r.url location = .error f) : r.redirected status location jar = .error f := by
  unfold Request.redirected
  rw [h]
  rfl

theorem redirected_eq_ok {r : Request} (status : Nat) {location : String}
    (jar : Jar) {u : Url} (h : redirectUrl r.url location = .ok u) :
    ∃ next, r.redirected status location jar = .ok next := by
  unfold Request.redirected
  rw [h]
  simp only [bind, Except.bind]
  split
  · exact ⟨_, rfl⟩
  · exact ⟨_, rfl⟩

theorem parse_of_liftUrl {r : Except UrlError Url} {u : Url} (h : liftUrl r = .ok u) :
    r = .ok u := by
  cases r with
  | error e => cases h
  | ok v => cases h; rfl

end Web

namespace Coordinator

theorem keep_asks (c : Web.Client) (url : Web.Url) (response : Web.Response) :
    (c.keep url response).outcome.Asks fun e => ¬e.isExchange := by
  unfold Web.Client.keep
  cases c.session with
  | none => trivial
  | some s =>
    cases response.headers.values "set-cookie" with
    | nil => trivial
    | cons line lines => exact ⟨id, fun _ => trivial⟩

theorem keep_yields (c : Web.Client) (url : Web.Url) (response : Web.Response) :
    (c.keep url response).outcome.Yields (· = .ok ()) := by
  unfold Web.Client.keep
  cases c.session with
  | none => rfl
  | some s =>
    cases response.headers.values "set-cookie" with
    | nil => rfl
    | cons line lines => exact fun _ => rfl

theorem exchange_sends (c : Web.Client) (r : Web.Request) :
    (c.exchange r).outcome.Sends (· = r) fun answer x => x = answer := by
  unfold Web.Client.exchange
  rw [Attempt.outcome_bind]
  refine ⟨rfl, fun answer => ?_⟩
  cases answer with
  | error f => exact ⟨trivial, rfl⟩
  | ok response =>
    have hkept : (c.keep r.url response >>= fun _ => pure response).outcome =
        (c.keep r.url response).outcome >>= fun x => .done (x.map fun _ => response) := by
      rw [Attempt.outcome_bind]
      refine congrArg (bind _) (funext fun x => ?_)
      cases x <;> rfl
    constructor
    · refine (congrArg (Activity.Asks _) hkept).mpr (Activity.asks_bind.2 ⟨keep_asks c _ _, ?_⟩)
      exact Activity.yields_of_forall _ fun _ => trivial
    · refine (congrArg (Activity.Yields _) hkept).mpr (Activity.yields_bind.2 ?_)
      exact (keep_yields c _ _).mono fun x hx => by rw [hx]; rfl

theorem follow_sends (left : Nat) (r : Web.Request) :
    (client.follow (left + 1) r).outcome.Sends (· = r) fun answer x =>
      x = Web.settled r.url answer := by
  unfold Web.Client.follow
  rw [Attempt.outcome_bind]
  refine (exchange_sends client r).bind ?_
  rintro answer x rfl
  cases x with
  | error f => exact ⟨trivial, rfl⟩
  | ok response =>
    cases hl : response.location? with
    | none => simp [Web.settled, hl]
    -- this client does not follow, but the location is read all the same
    | some location =>
      have hread : ∀ jar, (do
          let next ← Attempt.ofExcept (r.redirected response.status location jar)
          if client.follows then client.follow left next else return response :
            Attempt Web.Response).outcome =
          .done ((Web.redirectUrl r.url location).map fun _ => response) := by
        intro jar
        cases hu : Web.redirectUrl r.url location with
        | error f =>
          rw [Web.redirected_eq_error _ _ hu]
          rfl
        | ok u =>
          obtain ⟨next, hnext⟩ := Web.redirected_eq_ok response.status jar hu
          rw [hnext]
          rfl
      simp only [Web.settled, hl]
      refine ⟨⟨id, fun jar => ?_⟩, fun jar => ?_⟩
      · exact (congrArg (Activity.Asks _) (hread jar)).mpr trivial
      · exact (congrArg (Activity.Yields _) (hread jar)).mpr rfl

def resultUrl (s : Settings) (k : Kind) (id : String) : String := s.baseUrl ++ k.path ++ "/" ++ id

theorem url_path (s : Settings) (k : Kind) (id : String) :
    s.url (k.path ++ "/" ++ id) = resultUrl s k id := by
  apply String.ext
  cases k <;> simp [Settings.url, Settings.urlFor, resultUrl, Kind.path, Settings.dropSlashes]

/-- Letters and digits of ASCII, the hyphen and the underscore. -/
def PlainId (id : String) : Prop := ∀ c ∈ id.toList, c.isAlphanum = true ∨ c = '-' ∨ c = '_'

theorem isPrintable_of_plain {c : Char} (h : c.isAlphanum = true ∨ c = '-' ∨ c = '_')
    (hc : Text.isAscii c = true) : Text.isPrintable c = true :=
  Text.forall_ascii (P := fun c => (c.isAlphanum = true ∨ c = '-' ∨ c = '_') →
    Text.isPrintable c = true) (by decide) hc h

def NoControls (id : String) : Prop :=
  ∀ c ∈ id.toList, Text.isAscii c = true → Text.isPrintable c = true

instance (id : String) : Decidable (NoControls id) := List.decidableBAll _ _

theorem resultUrl_eq (s : Settings) (k : Kind) (id : String) :
    resultUrl s k id = s.baseUrl ++ (k.path ++ "/" ++ id) := by
  simp only [resultUrl, String.append_assoc]

theorem exists_slash (k : Kind) (id : String) : ∃ cs, (k.path ++ "/" ++ id).toList = '/' :: cs := by
  cases k <;> exact ⟨_, by simp [Kind.path]; rfl⟩

theorem parse_result {s : Settings} {k : Kind} {id : String}
    {base : Web.Url} (hbase : Web.Url.parse s.baseUrl = .ok base) (habs : base.isAbsolute = true)
    (hid : NoControls id) (hlen : (resultUrl s k id).length ≤ Web.Url.maxLength) :
    ∃ u, Web.Url.parse (resultUrl s k id) = .ok u ∧ u.isAbsolute = true := by
  obtain ⟨cs, hcs⟩ := exists_slash k id
  have hpath : (k.path.toList ++ ['/']).all Text.isPrintable = true := by
    cases k <;> decide +kernel
  rw [List.all_eq_true] at hpath
  rw [resultUrl_eq] at hlen ⊢
  refine Web.parse_append hbase habs hcs (fun c hc hascii => ?_) hlen
  simp only [String.toList_append, List.mem_append] at hc hpath
  rcases hc with hc | hc
  · exact hpath c hc
  · exact hid c hc hascii

theorem address_iff {s : Settings} {k : Kind} {id : String} {base : Web.Url}
    (hbase : Web.Url.parse s.baseUrl = .ok base) (habs : base.isAbsolute = true)
    (hid : PlainId id) :
    (∃ u, Web.addressOf (.text (resultUrl s k id)) = .ok u) ↔
      (resultUrl s k id).length ≤ Web.Url.maxLength := by
  constructor
  · rintro ⟨u, hu⟩
    obtain ⟨v, hv, -⟩ := Except.bind_eq_ok.1 hu
    exact (Web.parse_eq_ok.1 (Web.parse_of_liftUrl hv)).1
  · intro hlen
    obtain ⟨v, hv, hvabs⟩ :=
      parse_result hbase habs (fun c hc => isPrintable_of_plain (hid c hc)) hlen
    refine ⟨v, Except.bind_eq_ok.2 ⟨v, by rw [hv]; rfl, ?_⟩⟩
    rw [hvabs]
    rfl

def Ascii (h : String × String) : Prop :=
  h.1.toList.all Text.isAscii = true ∧ h.2.toList.all Text.isAscii = true

/-- The address can be read, the credentials can go into headers, and the result is JSON. -/
def Sendable (s : Settings) (k : Kind) (id : String) (v : Value) : Prop :=
  (∃ u, Web.addressOf (.text (resultUrl s k id)) = .ok u) ∧
    (∀ h ∈ s.headers, Ascii h) ∧ Json.refusal? v = none

/-- The coordinator's answer, or the lack of one, is no fault for the job that is reported. -/
def Taken (url : Web.Url) : Except Fault Web.Response → Prop
  | .error f => f.isDropped = true
  | .ok r => (∀ location, r.location? = some location →
      ∀ f, Web.redirectUrl url location = .error f → f.isDropped = true) ∧
    (r.isError = true → ∃ text, r.text = .ok text)

theorem isDropped_of_addressOf {s : String} {f : Fault}
    (h : Web.addressOf (.text s) = .error f) : f.isDropped = false := by
  rcases Except.bind_eq_error.1 h with h | ⟨u, -, h⟩
  · cases hp : Web.Url.parse s with
    | error e => rw [hp] at h; cases h; rfl
    | ok u => rw [hp] at h; cases h
  · split at h
    · cases h
    · cases hp : u.rooted with
      | error e => rw [hp] at h; cases h; rfl
      | ok u => rw [hp] at h; cases h

theorem header_of_ascii {n v : String} (h : Ascii (n, v)) : ∃ x, Web.header n v = .ok x := by
  obtain ⟨hn, hv⟩ := h
  exact ⟨(Text.asciiLower n, v), by simp only at hn hv; simp [Web.header, hn, hv]⟩

theorem header_of_not_ascii {n v : String} (h : ¬Ascii (n, v)) :
    ∃ t, Web.header n v = .error (.notAscii t) := by
  unfold Web.header
  split
  · exact ⟨_, rfl⟩
  split
  · exact ⟨_, rfl⟩
  · rename_i hn hv
    exact absurd ⟨by simpa using hn, by simpa using hv⟩ h

theorem headers_of_ascii {hs : List (String × String)} (h : ∀ x ∈ hs, Ascii x) :
    ∃ out, hs.mapM (fun (n, v) => Web.header n v) = .ok out := by
  induction hs with
  | nil => exact ⟨[], rfl⟩
  | cons x hs ih =>
    obtain ⟨y, hy⟩ := header_of_ascii (h x (by simp))
    obtain ⟨ys, hys⟩ := ih fun z hz => h z (by simp [hz])
    refine ⟨y :: ys, ?_⟩
    rw [List.mapM_cons]
    exact Except.bind_eq_ok.2 ⟨y, hy, Except.bind_eq_ok.2 ⟨ys, hys, rfl⟩⟩

theorem headers_of_not_ascii {hs : List (String × String)} (h : ¬∀ x ∈ hs, Ascii x) :
    ∃ t, hs.mapM (fun (n, v) => Web.header n v) = .error (.notAscii t) := by
  induction hs with
  | nil => simp at h
  | cons x hs ih =>
    rw [List.mapM_cons]
    by_cases hx : Ascii x
    · obtain ⟨y, hy⟩ := header_of_ascii hx
      obtain ⟨t, ht⟩ := ih fun hall => h (List.forall_mem_cons.2 ⟨hx, hall⟩)
      exact ⟨t, Except.bind_eq_error.2 (.inr ⟨y, hy, Except.bind_eq_error.2 (.inl ht)⟩)⟩
    · obtain ⟨t, ht⟩ := header_of_not_ascii hx
      exact ⟨t, Except.bind_eq_error.2 (.inl ht)⟩

theorem encode_eq_ok {v : Value} (h : Json.refusal? v = none) :
    ∃ described, Web.Content.encode (.json v) =
      .ok (described, Text.utf8Bytes (Json.text Json.compact v)) := by
  have hstrict : Json.strict v = .ok (Json.text Json.compact v) := by
    simp [Json.strict, h]
  unfold Web.Content.encode
  dsimp only
  rw [hstrict]
  exact ⟨_, rfl⟩

theorem encode_eq_error {v : Value} {reason : Json.Refusal} (h : Json.refusal? v = some reason) :
    Web.Content.encode (.json v) = .error (.notJson reason) := by
  have hstrict : Json.strict v = .error reason := by
    simp [Json.strict, h]
  unfold Web.Content.encode
  dsimp only
  rw [hstrict]
  rfl

def resultDraft (s : Settings) (k : Kind) (id : String) (v : Value) : Web.Draft :=
  draft s "POST" (k.path ++ "/" ++ id) .fromUrl (.json v)

theorem resultDraft_address (s : Settings) (k : Kind) (id : String) (v : Value) :
    Web.addressOf (resultDraft s k id v).url = Web.addressOf (.text (resultUrl s k id)) := by
  rw [← url_path]
  rfl

theorem request_of_sendable {s : Settings} {k : Kind} {id : String} {v : Value}
    (h : Sendable s k id v) (jar : Web.Jar) :
    ∃ r, (resultDraft s k id v).request jar = .ok r ∧ r.method = "POST" ∧
      Web.addressOf (.text (resultUrl s k id)) = .ok r.url ∧
      r.body = Text.utf8Bytes (Json.text Json.compact v) := by
  obtain ⟨⟨u, hu⟩, hheaders, hrefusal⟩ := h
  obtain ⟨out, hout⟩ := headers_of_ascii hheaders
  have hmethod : (resultDraft s k id v).method = "POST" :=
    (by decide +kernel : Text.upper "POST" = "POST")
  have hcontent : (resultDraft s k id v).content = .json v := rfl
  obtain ⟨described, hencode⟩ := encode_eq_ok hrefusal
  unfold Web.Draft.request
  rw [resultDraft_address, hu, hmethod, hcontent,
    show (resultDraft s k id v).headers = s.headers from rfl, hout, hencode,
    show (resultDraft s k id v).parameters.query = .ok none from rfl]
  exact ⟨_, rfl, rfl, rfl, rfl⟩

theorem request_of_not_sendable {s : Settings} {k : Kind} {id : String} {v : Value}
    (h : ¬Sendable s k id v) (jar : Web.Jar) :
    ∃ f, (resultDraft s k id v).request jar = .error f ∧ f.isDropped = false := by
  unfold Web.Draft.request
  rw [resultDraft_address]
  cases hu : Web.addressOf (.text (resultUrl s k id)) with
  | error f => exact ⟨f, rfl, isDropped_of_addressOf hu⟩
  | ok u =>
    by_cases hheaders : ∀ h ∈ s.headers, Ascii h
    · obtain ⟨out, hout⟩ := headers_of_ascii hheaders
      cases hr : Json.refusal? v with
      | none => exact absurd ⟨⟨u, hu⟩, hheaders, hr⟩ h
      | some reason =>
        rw [show (resultDraft s k id v).content = .json v from rfl,
          show (resultDraft s k id v).headers = s.headers from rfl, hout, encode_eq_error hr,
          show (resultDraft s k id v).parameters.query = .ok none from rfl]
        exact ⟨_, rfl, rfl⟩
    · obtain ⟨t, ht⟩ := headers_of_not_ascii hheaders
      rw [show (resultDraft s k id v).headers = s.headers from rfl, ht]
      exact ⟨_, rfl, rfl⟩

def answered : Except Fault Web.Response → Except Fault Value
  | .ok r => read r
  | .error (.transport kind message) =>
    .error (.coordinator ("Network error: " ++ kind ++ ": " ++ message))
  | .error f => .error f

theorem isError_of_location? {r : Web.Response} {location : String}
    (h : r.location? = some location) : r.isError = false := by
  unfold Web.Response.location? at h
  split at h
  · rename_i hstatus
    simp only [Web.redirectStatuses, List.contains_eq_mem, List.mem_cons, List.not_mem_nil,
      or_false, decide_eq_true_eq] at hstatus
    simp only [Web.Response.isError, Bool.and_eq_false_iff, decide_eq_false_iff_not]
    omega
  · cases h

theorem badEncoding_of_text {r : Web.Response} {f : Fault} (h : r.text = .error f) :
    ∃ m, f = .badEncoding m := by
  unfold Web.Response.text Web.Charset.read at h
  cases hc : r.charset with
  | fixed e => rw [hc] at h; cases h
  | marked8 => rw [hc] at h; dsimp only at h; split at h <;> cases h
  | marked16 =>
    rw [hc] at h
    dsimp only at h
    split at h
    · cases h
    · cases h
    split at h
    · cases h
    split at h <;> cases h
    exact ⟨_, rfl⟩
  | marked32 =>
    rw [hc] at h
    dsimp only at h
    split at h
    · cases h
    · cases h
    · cases h
    · split at h <;> cases h
      exact ⟨_, rfl⟩

/-- Only the text of an error can fail to be read. -/
theorem read_iff (r : Web.Response) :
    (∀ f, read r = .error f → ∃ m, f = .coordinator m) ↔
      (r.isError = true → ∃ text, r.text = .ok text) := by
  unfold read
  cases he : r.isError with
  | true =>
    simp only [if_true, true_implies]
    cases ht : r.text with
    | ok text =>
      refine iff_of_true (fun f hf => ?_) ⟨text, rfl⟩
      cases hf
      exact ⟨_, rfl⟩
    | error f =>
      obtain ⟨m, rfl⟩ := badEncoding_of_text ht
      refine iff_of_false (fun h => ?_) (by rintro ⟨text, h⟩; cases h)
      obtain ⟨m', h'⟩ := h _ rfl
      cases h'
  | false =>
    refine iff_of_true (fun f hf => ?_) (by simp)
    simp only [Bool.false_eq_true, if_false] at hf
    split at hf
    · cases hf
    · split at hf
      · cases hf
      · cases hf
        exact ⟨_, rfl⟩

/-- An answer is taken exactly where the call comes to a result, or to a fault that is told of the
coordinator. -/
theorem taken_iff (url : Web.Url) (answer : Except Fault Web.Response) :
    Taken url answer ↔
      ∀ f, answered (Web.settled url answer) = .error f → ∃ m, f = .coordinator m := by
  have herror : ∀ f, f.isDropped = true ↔ ∀ g, answered (.error f) = .error g →
      ∃ m, g = .coordinator m := by
    intro f
    cases f <;> simp [answered, Fault.isDropped]
  cases answer with
  | error f => exact herror f
  | ok r =>
    cases hl : r.location? with
    | none => simp [Taken, Web.settled, hl, answered, read_iff]
    | some location =>
      -- a redirect is no error, so that its text is never read
      have he := isError_of_location? hl
      cases hu : Web.redirectUrl url location with
      | error f => simpa [Taken, Web.settled, hl, he, hu, Except.map] using herror f
      | ok u => simp [Taken, Web.settled, hl, he, hu, Except.map, answered, read_iff]

def attempted (d : Web.Draft) (jar : Web.Jar) : Attempt Web.Response := do
  let r ← Attempt.ofExcept (d.request jar)
  client.follow (Web.Client.maxRedirects + 1) r

theorem send_outcome (d : Web.Draft) :
    (client.send d).outcome =
      .ask (.cookies .coordinator) fun jar => (attempted d jar).outcome := by
  unfold Web.Client.send attempted
  generalize Web.Client.maxRedirects = n
  rfl

theorem send_sends {d : Web.Draft} {P : Web.Request → Prop}
    (h : ∀ jar, ∃ r, d.request jar = .ok r ∧ P r) {u : Web.Url} (hP : ∀ r, P r → r.url = u) :
    (client.send d).outcome.Sends P fun answer x => x = Web.settled u answer := by
  have hattempted : ∀ jar, (attempted d jar).outcome.Sends P
      fun answer x => x = Web.settled u answer := by
    intro jar
    obtain ⟨r, hr, hPr⟩ := h jar
    rw [attempted, hr, ← hP r hPr]
    exact (follow_sends _ r).mono (by rintro _ rfl; exact hPr) fun _ _ => id
  rw [send_outcome]
  exact hattempted

theorem send_of_not_sendable {s : Settings} {k : Kind} {id : String} {v : Value}
    (h : ¬Sendable s k id v) :
    (client.send (resultDraft s k id v)).outcome.Asks (fun e => ¬e.isExchange) ∧
      (client.send (resultDraft s k id v)).outcome.Yields
        fun x => ∃ f, x = .error f ∧ f.isDropped = false := by
  have hattempted : ∀ jar, ∃ f, (attempted (resultDraft s k id v) jar).outcome = .done (.error f) ∧
      f.isDropped = false := by
    intro jar
    obtain ⟨f, hf, hdropped⟩ := request_of_not_sendable h jar
    refine ⟨f, ?_, hdropped⟩
    rw [attempted, hf]
    rfl
  rw [send_outcome]
  refine ⟨⟨fun h => h, fun jar => ?_⟩, fun jar => ?_⟩
  · obtain ⟨f, hf, -⟩ := hattempted jar
    exact (congrArg (Activity.Asks _) hf).mpr trivial
  · obtain ⟨f, hf, hdropped⟩ := hattempted jar
    exact (congrArg (Activity.Yields _) hf).mpr ⟨f, rfl, hdropped⟩

theorem deliver_outcome (s : Settings) (k : Kind) (id : String) (v : Value) :
    (deliver s k id v).outcome = (client.send (resultDraft s k id v)).outcome >>= fun x =>
      .done ((answered x).map fun _ => ()) := by
  unfold deliver call
  rw [Attempt.outcome_bind, Attempt.outcome_bind, Attempt.outcome_liftM, Activity.bind_assoc,
    Activity.bind_assoc]
  refine congrArg (bind _) (funext fun x => ?_)
  cases x with
  | ok r =>
    rw [Activity.done_bind]
    dsimp only
    rw [Attempt.outcome_ofExcept, Activity.done_bind, answered]
    cases read r <;> rfl
  | error f => cases f <;> rfl

end Coordinator

namespace Worker
open Coordinator

def dismiss (id : String) : Except Fault Unit → Activity (Except Fault Unit)
  | .error (.coordinator message) => do
    Activity.print (Console.error "Failed to send result"
      ("Could not report job " ++ id ++ " to the coordinator: " ++ message))
    return .ok ()
  | x => .done x

theorem report_outcome (w : Worker) (k : Kind) (id : String) (v : Value) :
    (w.report k id v).outcome = (deliver w.settings k id v).outcome >>= dismiss id := by
  unfold report
  rw [Attempt.outcome_bind, Attempt.outcome_liftM, Activity.bind_assoc]
  refine congrArg (bind _) (funext fun x => ?_)
  cases x with
  | ok _ => rfl
  | error f => cases f <;> rfl

theorem print_asks (lines : List Line) : (Activity.print lines).Asks fun e => ¬e.isExchange := by
  unfold Activity.print
  cases lines.isEmpty with
  | true => trivial
  | false => exact ⟨fun h => h, fun _ => trivial⟩

theorem dismiss_asks (id : String) (x : Except Fault Unit) :
    (dismiss id x).Asks fun e => ¬e.isExchange := by
  unfold dismiss
  split
  · exact Activity.asks_bind.2 ⟨print_asks _, Activity.yields_of_forall _ fun _ => trivial⟩
  · trivial

theorem dismiss_yields (id : String) (x : Except Fault Unit) :
    (dismiss id x).Yields fun y => y = .ok () ↔ ∀ f, x = .error f → ∃ m, f = .coordinator m := by
  unfold dismiss
  split
  · exact Activity.yields_bind.2 (Activity.yields_of_forall _ fun _ => by simp)
  · rename_i hx
    cases x with
    | ok _ => simp
    | error f =>
      have hf : ∀ m, f ≠ .coordinator m := fun m hm => hx m (by rw [hm])
      simpa using hf

/-- One request is sent, and the report comes to its end exactly where the answer is taken. -/
theorem report_sends {w : Worker} {k : Kind} {id : String} {v : Value}
    (h : Sendable w.settings k id v) :
    ∃ u, Web.addressOf (.text (resultUrl w.settings k id)) = .ok u ∧
      (w.report k id v).outcome.Sends
        (fun r => r.method = "POST" ∧ r.url = u ∧
          r.body = Text.utf8Bytes (Json.text Json.compact v))
        fun answer x => x = .ok () ↔ Taken u answer := by
  obtain ⟨u, hu⟩ := h.1
  refine ⟨u, hu, ?_⟩
  have hsend := send_sends (d := resultDraft w.settings k id v) (P := fun r => r.method = "POST" ∧
      r.url = u ∧ r.body = Text.utf8Bytes (Json.text Json.compact v)) (fun jar => by
      obtain ⟨r, hr, hmethod, hurl, hbody⟩ := request_of_sendable h jar
      exact ⟨r, hr, hmethod, Except.ok.inj (hurl.symm.trans hu), hbody⟩) fun r hr => hr.2.1
  rw [report_outcome, deliver_outcome, Activity.bind_assoc]
  refine hsend.bind ?_
  rintro answer x rfl
  refine ⟨dismiss_asks id _, (dismiss_yields id _).mono fun y hy => ?_⟩
  rw [hy, taken_iff]
  cases answered (Web.settled u answer) <;> simp [Except.map]

theorem report_of_not_sendable {w : Worker} {k : Kind} {id : String} {v : Value}
    (h : ¬Sendable w.settings k id v) :
    (w.report k id v).outcome.Asks (fun e => ¬e.isExchange) ∧
      (w.report k id v).outcome.Yields fun x => ∃ f, x = .error f := by
  obtain ⟨hasks, hyields⟩ := send_of_not_sendable h
  rw [report_outcome, deliver_outcome, Activity.bind_assoc]
  constructor
  · exact Activity.asks_bind.2 ⟨hasks, Activity.yields_of_forall _ fun x => dismiss_asks id _⟩
  · refine Activity.yields_bind.2 (hyields.mono ?_)
    rintro x ⟨f, rfl, hf⟩
    cases f <;> first | exact ⟨_, rfl⟩ | cases hf

/-- A result is sent once or, where it cannot be sent, not at all. The job that it is about comes to
its end, `x`, exactly where the result is sent and its answer is taken. -/
structure ReportsOnce (s : Settings) (k : Kind) (id : String) (v : Value) (x : α) (ms : List Moment)
    (result : Except Fault α) : Prop where
  sent : Sendable s k id v → ∃ r answer, exchanges ms = [(r, answer)] ∧ r.method = "POST" ∧
    Web.addressOf (.text (resultUrl s k id)) = .ok r.url ∧
    r.body = Text.utf8Bytes (Json.text Json.compact v)
  unsent : ¬Sendable s k id v → exchanges ms = []
  ended : result = .ok x ↔ Sendable s k id v ∧ ∀ e ∈ exchanges ms, Taken e.1.url e.2
  failed : result ≠ .ok x → ∃ f, result = .error f

def concluded (lines : List Line) (report : Activity (Except Fault Unit)) (x : α) :
    Activity (Except Fault α) :=
  Activity.print lines >>= fun _ => report >>= fun y => .done (y.map fun _ => x)

theorem concluded_sends {P : Web.Request → Prop}
    {R : Except Fault Web.Response → Prop} {report : Activity (Except Fault Unit)}
    (h : report.Sends P fun answer y => y = .ok () ↔ R answer) (lines : List Line) (x : α) :
    (concluded lines report x).Sends P fun answer y =>
      (y = .ok x ↔ R answer) ∧ (y ≠ .ok x → ∃ f, y = .error f) := by
  refine Activity.sends_after (print_asks lines) (Activity.yields_of_forall _ fun _ => ?_)
  refine h.bind fun answer y hy => ⟨trivial, ?_⟩
  cases y with
  | ok _ => simpa [Except.map] using hy
  | error f => simpa [Except.map] using hy

theorem concluded_of_error {report : Activity (Except Fault Unit)}
    (hasks : report.Asks fun e => ¬e.isExchange)
    (hyields : report.Yields fun y => ∃ f, y = .error f) (lines : List Line) (x : α) :
    (concluded lines report x).Asks (fun e => ¬e.isExchange) ∧
      (concluded lines report x).Yields fun y => ∃ f, y = .error f := by
  constructor
  · refine Activity.asks_bind.2 ⟨print_asks lines, Activity.yields_of_forall _ fun _ => ?_⟩
    exact Activity.asks_bind.2 ⟨hasks, Activity.yields_of_forall _ fun _ => trivial⟩
  · refine Activity.yields_bind.2 (Activity.yields_of_forall _ fun _ => ?_)
    refine Activity.yields_bind.2 (hyields.mono ?_)
    rintro y ⟨f, rfl⟩
    exact ⟨f, rfl⟩

/-- Any report will do that sends what can be sent, and ends in a fault otherwise. -/
theorem concluded_reportsOnce {s : Settings} {k : Kind} {id : String} {v : Value}
    {report : Activity (Except Fault Unit)}
    (hsent : Sendable s k id v → ∃ u, Web.addressOf (.text (resultUrl s k id)) = .ok u ∧
      report.Sends (fun r => r.method = "POST" ∧ r.url = u ∧
        r.body = Text.utf8Bytes (Json.text Json.compact v)) fun answer y =>
          y = .ok () ↔ Taken u answer)
    (hunsent : ¬Sendable s k id v → report.Asks (fun e => ¬e.isExchange) ∧
      report.Yields fun y => ∃ f, y = .error f)
    (lines : List Line) (x : α) (o : Outside σ) (now : Instant) (left : σ) :
    ReportsOnce s k id v x ((concluded lines report x).trace o now left)
      ((concluded lines report x).run o now left).1 := by
  by_cases hsendable : Sendable s k id v
  · obtain ⟨u, hu, hsends⟩ := hsent hsendable
    obtain ⟨r, answer, hms, ⟨hmethod, rfl, hbody⟩, hended, hfailed⟩ :=
      (concluded_sends hsends lines x).run o now left
    refine ⟨fun _ => ⟨r, answer, hms, hmethod, hu, hbody⟩, fun h => absurd hsendable h, ?_, hfailed⟩
    rw [hended, hms]
    simp [hsendable]
  · obtain ⟨hasks, hyields⟩ := hunsent hsendable
    obtain ⟨hnone, herror⟩ := concluded_of_error hasks hyields lines x
    obtain ⟨f, hf⟩ := herror.run o now left
    refine ⟨fun h => absurd h hsendable, fun _ => hnone.exchanges_eq_nil o now left, ?_,
      fun _ => ⟨f, hf⟩⟩
    rw [hf]
    simp [hsendable]

theorem outcome_concluded (w : Worker) (k : Kind) (id : String) (v : Value) (lines : List Line)
    (x : α) :
    (do
      liftM (Activity.print lines)
      w.report k id v
      return x : Attempt α).outcome = concluded lines (w.report k id v).outcome x := by
  rw [concluded, Attempt.outcome_bind, Attempt.outcome_liftM, Activity.bind_assoc]
  refine congrArg (bind _) (funext fun _ => ?_)
  rw [Activity.done_bind]
  dsimp only
  rw [Attempt.outcome_bind]
  refine congrArg (bind _) (funext fun y => ?_)
  cases y <;> rfl

theorem reportsOnce_run (w : Worker) (k : Kind) (id : String) (v : Value) (lines : List Line)
    (x : α) (o : Outside σ) (now : Instant) (s : σ) {t : Activity (Except Fault α)}
    (ht : t = (do
      liftM (Activity.print lines)
      w.report k id v
      return x : Attempt α).outcome) :
    ReportsOnce w.settings k id v x (t.trace o now s) (t.run o now s).1 := by
  rw [ht, outcome_concluded]
  exact concluded_reportsOnce (fun h => report_sends h) (fun h => report_of_not_sendable h)
    lines x o now s

end Worker
end TestWorker
