import TestWorker.Proofs.Coordinator.Delivery
import TestWorker.Proofs.Json.Reading
import TestWorker.Proofs.Wire.Form
import TestWorker.Rehearsal

namespace TestWorker

/-- Cookies do not decide whether there is a request, nor where it goes and what it says. -/
theorem Web.Draft.request_of_jar {d : Web.Draft} {jar : Web.Jar} {r : Web.Request}
    (h : d.request jar = .ok r) (jar' : Web.Jar) :
    ∃ r', d.request jar' = .ok r' ∧ r'.method = r.method ∧ r'.url = r.url ∧ r'.body = r.body := by
  obtain ⟨url, hurl, h⟩ := Except.bind_eq_ok.1 h
  obtain ⟨headers, hheaders, h⟩ := Except.bind_eq_ok.1 h
  obtain ⟨query, hquery, h⟩ := Except.bind_eq_ok.1 h
  have hbody : ∀ {u : Web.Url}, (do
        let x ← d.content.encode
        let headers := Web.complete d.method u x.1 (Web.withCookies jar u headers)
        return { method := d.method, url := u, headers := Web.authorize u headers, body := x.2,
                 timeout := d.timeout } :
          Except Fault Web.Request) = .ok r →
      ∃ described body, d.content.encode = .ok (described, body) ∧
      d.method = r.method ∧ u = r.url ∧ body = r.body := by
    intro u h
    obtain ⟨⟨described, body⟩, hencode, h⟩ := Except.bind_eq_ok.1 h
    cases h
    exact ⟨described, body, hencode, rfl, rfl, rfl⟩
  cases query with
  | none =>
    obtain ⟨described, body, hencode, hr⟩ := hbody h
    exact ⟨_, Except.bind_eq_ok.2 ⟨url, hurl, Except.bind_eq_ok.2 ⟨headers, hheaders,
      Except.bind_eq_ok.2 ⟨none, hquery, Except.bind_eq_ok.2 ⟨url, rfl, Except.bind_eq_ok.2
        ⟨_, hencode, rfl⟩⟩⟩⟩⟩, hr⟩
  | some q =>
    obtain ⟨u, hu, h⟩ := Except.bind_eq_ok.1 h
    obtain ⟨described, body, hencode, hr⟩ := hbody h
    exact ⟨_, Except.bind_eq_ok.2 ⟨url, hurl, Except.bind_eq_ok.2 ⟨headers, hheaders,
      Except.bind_eq_ok.2 ⟨some q, hquery, Except.bind_eq_ok.2 ⟨u, hu, Except.bind_eq_ok.2
        ⟨_, hencode, rfl⟩⟩⟩⟩⟩, hr⟩

namespace Coordinator
variable {σ : Type}

def fetchDraft (s : Settings) (k : Kind) : Web.Draft :=
  draft s "GET" k.path (.replaced (.object [("amount", .int s.batchSize)])) .absent

theorem call_outcome (s : Settings) (method path : String) (parameters : Web.Parameters)
    (content : Web.Content) :
    (call s method path parameters content).outcome =
      (client.send (draft s method path parameters content)).outcome >>= fun x =>
        .done (answered x) := by
  unfold call
  rw [Attempt.outcome_bind, Attempt.outcome_liftM, Activity.bind_assoc]
  apply congrArg (bind _)
  funext x
  cases x with
  | ok r => exact Attempt.outcome_ofExcept _
  | error f => cases f <;> rfl

theorem call_sends {s : Settings} {method path : String} {parameters : Web.Parameters}
    {content : Web.Content} {r₀ : Web.Request}
    (h : (draft s method path parameters content).request [] = .ok r₀) :
    (call s method path parameters content).outcome.Sends
      (fun r => r.method = r₀.method ∧ r.url = r₀.url ∧ r.body = r₀.body)
      fun answer x => x = answered (Web.settled r₀.url answer) := by
  rw [call_outcome]
  have hsend := send_sends (Web.Draft.request_of_jar h) fun r hr => hr.2.1
  apply hsend.bind
  rintro answer x rfl
  exact ⟨trivial, rfl⟩

theorem fetch_sends {s : Settings} {k : Kind} {r₀ : Web.Request}
    (h : (fetchDraft s k).request [] = .ok r₀) :
    (fetch s k).outcome.Sends (fun r => r.method = r₀.method ∧ r.url = r₀.url ∧ r.body = r₀.body)
      fun answer x => x = answered (Web.settled r₀.url answer) >>= k.jobs := by
  unfold fetch
  rw [Attempt.outcome_bind]
  apply (call_sends h).bind
  rintro answer x rfl
  cases answered (Web.settled r₀.url answer) with
  | ok v => exact ⟨by simp, by simp; rfl⟩
  | error f => exact ⟨trivial, rfl⟩

theorem deliver_sends {s : Settings} {k : Kind} {id : String} {result : Value} {r₀ : Web.Request}
    (h : (resultDraft s k id result).request [] = .ok r₀) :
    (deliver s k id result).outcome.Sends
      (fun r => r.method = r₀.method ∧ r.url = r₀.url ∧ r.body = r₀.body)
      fun answer x => x = (answered (Web.settled r₀.url answer)).map fun _ => () := by
  unfold deliver
  rw [Attempt.outcome_bind]
  apply (call_sends h).bind
  rintro answer x rfl
  cases answered (Web.settled r₀.url answer) <;> exact ⟨trivial, rfl⟩

/-- The answer is a response that a call goes on with: it tells of no error, and where it sends its
reader to is an address. -/
structure Accepted (url : Web.Url) (answer : Except Fault Web.Response) (r : Web.Response) :
    Prop where
  received : answer = .ok r
  status : r.status < 400 ∨ 600 ≤ r.status
  location : ∀ location, r.location? = some location → ∃ u, Web.redirectUrl url location = .ok u

/-- The value in the body of a response; an empty body is null. -/
def Says (r : Web.Response) (v : Value) : Prop :=
  r.body = [] ∧ v = .null ∨ r.body ≠ [] ∧ Json.readBytes r.body = .ok v

/-- The jobs that a value lists: none where it is false or has no list, else those of its list. -/
def Lists (k : Kind) (v : Value) (vs : List Value) : Prop :=
  v.truthy = false ∧ vs = [] ∨
    ∃ es, v = .object es ∧ match Entries.get? es k.listName with
      | none | some .null => vs = []
      | some (.list ws) => vs = ws
      | some _ => False

theorem isError_eq_false_iff {r : Web.Response} :
    r.isError = false ↔ r.status < 400 ∨ 600 ≤ r.status := by
  simp only [Web.Response.isError, Bool.and_eq_false_iff, decide_eq_false_iff_not]
  omega

theorem accepted_of_success (url : Web.Url) {r : Web.Response}
    (h₁ : 200 ≤ r.status) (h₂ : r.status < 300) :
    Accepted url (.ok r) r := by
  refine ⟨rfl, .inl (by omega), fun location h => ?_⟩
  unfold Web.Response.location? at h
  split at h
  · next hstatus =>
    simp [Web.redirectStatuses] at hstatus
    omega
  · cases h

theorem read_eq_ok_iff {r : Web.Response} {v : Value} :
    read r = .ok v ↔ r.isError = false ∧ Says r v := by
  unfold read Says
  cases hr : r.isError with
  | true =>
    simp only [if_true, Bool.true_eq_false, false_and, iff_false]
    cases r.text <;> nofun
  | false =>
    simp only [Bool.false_eq_true, if_false, true_and]
    cases hbody : r.body with
    | nil =>
      simp
      exact ⟨fun h => by cases h; rfl, fun h => h ▸ rfl⟩
    | cons b bs =>
      cases Json.readBytes (b :: bs) <;> simp [pure, Except.pure]

theorem settled_of_location {url : Web.Url} {r : Web.Response}
    (h : ∀ location, r.location? = some location → ∃ u, Web.redirectUrl url location = .ok u) :
    Web.settled url (.ok r) = .ok r := by
  cases hl : r.location? with
  | none => simp [Web.settled, hl]
  | some location =>
    obtain ⟨u, hu⟩ := h location hl
    simp [Web.settled, hl, hu, Except.map]

/-- A call comes to a value exactly where its answer is accepted and says it. -/
theorem answered_eq_ok_iff {url : Web.Url} {answer : Except Fault Web.Response} {v : Value} :
    answered (Web.settled url answer) = .ok v ↔ ∃ r, Accepted url answer r ∧ Says r v := by
  constructor
  · intro h
    cases answer with
    | error f => cases f <;> cases h
    | ok r =>
      have hlocation : ∀ location, r.location? = some location →
          ∃ u, Web.redirectUrl url location = .ok u := by
        intro location hl
        cases hu : Web.redirectUrl url location with
        | ok u => exact ⟨u, rfl⟩
        | error f =>
          simp only [Web.settled, hl, hu] at h
          cases f <;> cases h
      rw [settled_of_location hlocation] at h
      obtain ⟨herror, hsays⟩ := read_eq_ok_iff.1 h
      exact ⟨r, ⟨rfl, isError_eq_false_iff.1 herror, hlocation⟩, hsays⟩
  · rintro ⟨r, ⟨rfl, hstatus, hlocation⟩, hsays⟩
    rw [settled_of_location hlocation]
    exact read_eq_ok_iff.2 ⟨isError_eq_false_iff.2 hstatus, hsays⟩

def envelope (k : Kind) (v : Value) : Except (List Wire.Issue) (Option (List Value)) :=
  match k with
  | .requests => (Wire.RequestBatch.read v).map Wire.RequestBatch.requests
  | .tests => (Wire.TestBatch.read v).map Wire.TestBatch.executions

theorem jobs_eq_ok_iff {k : Kind} {v : Value} {vs : List Value} :
    k.jobs v = .ok vs ↔
      ∃ found, envelope k (if v.truthy then v else .object []) = .ok found ∧
        vs = found.getD [] := by
  unfold Kind.jobs envelope
  cases k with
  | requests =>
    dsimp only
    cases (Wire.RequestBatch.read _).map Wire.RequestBatch.requests <;> simp [eq_comm]
  | tests =>
    dsimp only
    cases (Wire.TestBatch.read _).map Wire.TestBatch.executions <;> simp [eq_comm]

theorem coordinator_of_jobs {k : Kind} {v : Value} {f : Fault} (h : k.jobs v = .error f) :
    ∃ m, f = .coordinator m := by
  unfold Kind.jobs at h
  dsimp only at h
  split at h
  · cases h
  · cases h
    exact ⟨_, rfl⟩

theorem envelope_object (k : Kind) (es : Entries) :
    envelope k (.object es) =
      Wire.field (.object es) [k.listName] (some none)
        (Wire.nullable (Wire.list Wire.anything)) := by
  cases k with
  | requests =>
    have h (x : Except (List Wire.Issue) (Option (List Value))) :
        (x.map Wire.RequestBatch.mk).map Wire.RequestBatch.requests = x := by cases x <;> rfl
    exact h _
  | tests =>
    have h (x : Except (List Wire.Issue) (Option (List Value))) :
        (x.map Wire.TestBatch.mk).map Wire.TestBatch.executions = x := by cases x <;> rfl
    exact h _

theorem nullable_list_eq_ok_iff {v : Value} {found : Option (List Value)}
    (h : Json.isNative v = true) :
    Wire.nullable (Wire.list Wire.anything) v = .ok found ↔
      v = .null ∧ found = none ∨ ∃ ws, v = .list ws ∧ found = some ws := by
  cases v with
  | list ws =>
    have hread : Wire.nullable (Wire.list Wire.anything) (.list ws) = .ok (some ws) :=
      Wire.jobs_undoes (some ws)
    rw [hread]
    simp [eq_comm]
  | null => simp [Wire.nullable, eq_comm]
  | tuple | bytes | decimal | date => cases h
  | _ => simp [Wire.nullable, Wire.list, Wire.complain, Except.map]

theorem field_eq_ok_iff {es : Entries} {name : String} {found : Option (List Value)}
    (h : ∀ e ∈ es, Json.isNative e.2 = true) :
    Wire.field (.object es) [name] (some none) (Wire.nullable (Wire.list Wire.anything)) =
      .ok found ↔
      match Entries.get? es name with
      | none | some .null => found = none
      | some (.list ws) => found = some ws
      | some _ => False := by
  cases hget : Entries.get? es name with
  | none => simp [Wire.field, hget, eq_comm]
  | some v =>
    have hnative : Json.isNative v = true := h _ (Entries.mem_of_get? hget)
    have hfield : Wire.field (.object es) [name] (some none)
        (Wire.nullable (Wire.list Wire.anything)) =
        Wire.Checked.under (.key name) (Wire.nullable (Wire.list Wire.anything) v) := by
      simp [Wire.field, hget]
    have hunder :
        Wire.Checked.under (.key name) (Wire.nullable (Wire.list Wire.anything) v) = .ok found ↔
        Wire.nullable (Wire.list Wire.anything) v = .ok found := by
      cases Wire.nullable (Wire.list Wire.anything) v with
      | ok found' => exact Iff.rfl
      | error issues => exact iff_of_false (fun h => by cases h) (fun h => by cases h)
    rw [hfield, hunder, nullable_list_eq_ok_iff hnative]
    cases v <;> simp

theorem envelope_of_not_object {k : Kind} {v : Value} (h : ∀ es, v ≠ .object es)
    (found : Option (List Value)) : envelope k v ≠ .ok found := by
  cases v with
  | object es => exact absurd rfl (h es)
  | _ => cases k <;> exact nofun

/-- The jobs of an answer are the list that its value has, and what is false has none. -/
theorem jobs_eq_ok_iff_lists {k : Kind} {v : Value} {vs : List Value} (h : Json.Native v) :
    k.jobs v = .ok vs ↔ Lists k v vs := by
  rw [jobs_eq_ok_iff, Lists]
  cases ht : v.truthy with
  | false =>
    have hempty : envelope k (.object []) = .ok none := by cases k <;> rfl
    have hlist : (∃ es, v = .object es ∧ match Entries.get? es k.listName with
        | none | some .null => vs = []
        | some (.list ws) => vs = ws
        | some _ => False) → vs = [] := by
      rintro ⟨es, rfl, hes⟩
      obtain rfl : es = [] := by simpa [Value.truthy] using ht
      exact hes
    simp only [Bool.false_eq_true, if_false, hempty, true_and]
    exact ⟨by rintro ⟨_, hfound, rfl⟩; cases hfound; exact .inl rfl,
      fun hvs => ⟨none, rfl, hvs.elim id hlist⟩⟩
  | true =>
    simp only [if_true, Bool.true_eq_false, false_and, false_or]
    by_cases hobject : ∃ es, v = .object es
    · obtain ⟨es, rfl⟩ := hobject
      simp only [envelope_object, field_eq_ok_iff (h.2 es rfl), Value.object.injEq, exists_eq_left']
      cases Entries.get? es k.listName with
      | none => simp
      | some w => cases w <;> simp
    · have hne : ∀ es, v ≠ .object es := fun es hes => hobject ⟨es, hes⟩
      exact iff_of_false (fun ⟨found, hfound, _⟩ => envelope_of_not_object hne found hfound)
        fun ⟨es, hes, _⟩ => hne es hes

/-- A call comes to a result exactly where the answer has one for it. Else it ends in the fault that
tells of the coordinator, as long as the answer can be read far enough to tell of it. -/
structure Classified {α : Type} (url : Web.Url) (answer : Except Fault Web.Response)
    (Returns : α → Prop) (x : Except Fault α) : Prop where
  returned : ∀ a, x = .ok a ↔ Returns a
  refused : (∃ m, x = .error (.coordinator m)) ↔ (∀ a, ¬Returns a) ∧ Taken url answer

theorem classified {α : Type} {url : Web.Url} {answer : Except Fault Web.Response}
    {Returns : α → Prop} {x : Except Fault α} (hreturned : ∀ a, x = .ok a ↔ Returns a)
    (htaken : Taken url answer ↔ ∀ f, x = .error f → ∃ m, f = .coordinator m) :
    Classified url answer Returns x := by
  refine ⟨hreturned, ?_⟩
  rw [htaken]
  cases x with
  | ok a =>
    have ha : Returns a := (hreturned a).1 rfl
    exact iff_of_false nofun fun h => h.1 a ha
  | error f =>
    have hnone : ∀ a, ¬Returns a := fun a ha => nomatch (hreturned a).2 ha
    simp [hnone]

/-- A fetch gives the jobs that an accepted answer lists. -/
def Fetches (k : Kind) (url : Web.Url) (answer : Except Fault Web.Response) (vs : List Value) :
    Prop :=
  ∃ response v, Accepted url answer response ∧ Says response v ∧ Lists k v vs

/-- A delivery ends well where an accepted answer says anything. -/
def Delivers (url : Web.Url) (answer : Except Fault Web.Response) : Prop :=
  ∃ response v, Accepted url answer response ∧ Says response v

theorem Says.native {r : Web.Response} {v : Value} (h : Says r v) : Json.Native v := by
  rcases h with ⟨-, rfl⟩ | ⟨-, h⟩
  · exact ⟨rfl, nofun⟩
  · exact Json.native_of_readBytes h

theorem fetch_classified (k : Kind) (url : Web.Url) (answer : Except Fault Web.Response) :
    Classified url answer (Fetches k url answer)
      (answered (Web.settled url answer) >>= k.jobs) := by
  apply classified
  · intro vs
    rw [Except.bind_eq_ok]
    constructor
    · rintro ⟨v, hv, hjobs⟩
      obtain ⟨r, haccepted, hsays⟩ := answered_eq_ok_iff.1 hv
      exact ⟨r, v, haccepted, hsays, (jobs_eq_ok_iff_lists hsays.native).1 hjobs⟩
    · rintro ⟨r, v, haccepted, hsays, hlists⟩
      exact ⟨v, answered_eq_ok_iff.2 ⟨r, haccepted, hsays⟩,
        (jobs_eq_ok_iff_lists hsays.native).2 hlists⟩
  · rw [taken_iff]
    refine forall_congr' fun f => ?_
    rw [Except.bind_eq_error]
    constructor
    · rintro htaken (hf | ⟨v, -, hf⟩)
      · exact htaken hf
      · exact coordinator_of_jobs hf
    · exact fun h hf => h (.inl hf)

theorem deliver_classified (url : Web.Url) (answer : Except Fault Web.Response) :
    Classified url answer (fun _ => Delivers url answer)
      ((answered (Web.settled url answer)).map fun _ => ()) := by
  apply classified
  · intro _
    unfold Delivers
    cases hx : answered (Web.settled url answer) with
    | ok v =>
      obtain ⟨r, hr⟩ := answered_eq_ok_iff.1 hx
      exact iff_of_true rfl ⟨r, v, hr⟩
    | error f =>
      refine iff_of_false nofun fun ⟨r, v, hr⟩ => ?_
      rw [answered_eq_ok_iff.2 ⟨r, hr⟩] at hx
      cases hx
  · rw [taken_iff]
    cases answered (Web.settled url answer) <;> simp [Except.map]

/-- What a fetch and a delivery come to, by what is answered. Each answer with a success status is
accepted, and no answer with such a status, nor a failure of the transport, ends a call in another
fault than that which tells of the coordinator. -/
theorem answers_classified (s : Settings) (k : Kind) (id : String) (result : Value) (o : Outside σ)
    (now : Instant) (w : σ) :
    (∀ r₀, (fetchDraft s k).request [] = .ok r₀ →
      ∃ r answer, exchanges ((fetch s k).outcome.trace o now w) = [(r, answer)] ∧ r.url = r₀.url ∧
        Classified r.url answer (Fetches k r.url answer) ((fetch s k).outcome.run o now w).1) ∧
    (∀ r₀, (resultDraft s k id result).request [] = .ok r₀ →
      ∃ r answer, exchanges ((deliver s k id result).outcome.trace o now w) = [(r, answer)] ∧
        r.url = r₀.url ∧
        Classified r.url answer (fun _ => Delivers r.url answer)
          ((deliver s k id result).outcome.run o now w).1) ∧
    ∀ url, (∀ response : Web.Response, 200 ≤ response.status → response.status < 300 →
        Accepted url (.ok response) response ∧ Taken url (.ok response)) ∧
      ∀ kind message, Taken url (.error (.transport kind message)) := by
  refine ⟨fun r₀ h => ?_, fun r₀ h => ?_, fun url => ⟨fun response h₁ h₂ => ?_, fun _ _ => rfl⟩⟩
  · obtain ⟨r, answer, hexchanges, ⟨-, hurl, -⟩, hx⟩ := (fetch_sends h).run o now w
    refine ⟨r, answer, hexchanges, hurl, ?_⟩
    rw [hx, ← hurl]
    exact fetch_classified k r.url answer
  · obtain ⟨r, answer, hexchanges, ⟨-, hurl, -⟩, hx⟩ := (deliver_sends h).run o now w
    refine ⟨r, answer, hexchanges, hurl, ?_⟩
    rw [hx, ← hurl]
    exact deliver_classified r.url answer
  · have haccepted : Accepted url (.ok response) response := accepted_of_success url h₁ h₂
    have herror : response.isError = false := isError_eq_false_iff.2 haccepted.status
    refine ⟨haccepted, fun location hl f hf => ?_, fun h => ?_⟩
    · obtain ⟨u, hu⟩ := haccepted.location location hl
      rw [hu] at hf
      cases hf
    · rw [herror] at h
      cases h

def somewhere : Settings :=
  { secret := "secret", key := "key", baseUrl := "https://coordinator.test" }

def answering (status : Nat) (headers : List (String × String)) (text : String) : Rehearsal :=
  { script := { rules := [{ answer := .response status headers (Text.utf8Bytes text) }] } }

def oneJob : Rehearsal := answering 200 [] "\x7b\"requests\":[1]\x7d"

def fetched (w : Rehearsal) : Except Fault (List Value) :=
  ((fetch somewhere .requests).outcome.run Rehearsal.outside 0 w).1

def delivered (w : Rehearsal) : Except Fault Unit :=
  ((deliver somewhere .requests "a" .null).outcome.run Rehearsal.outside 0 w).1

theorem calls_made : ((fetchDraft somewhere .requests).request []).isOk = true ∧
    ((resultDraft somewhere .requests "a" .null).request []).isOk = true := by
  decide +kernel

theorem answers_of_oneJob :
    (fetched oneJob matches .ok [.int 1]) ∧ (delivered oneJob matches .ok ()) := by
  decide +kernel

theorem eq_ok_of_matches {x : Except Fault (List Value)} (h : x matches .ok [.int 1]) :
    x = .ok [.int 1] := by
  split at h
  · rfl
  · cases h

theorem answers_classified_oneJob :
    (∃ r answer, exchanges ((fetch somewhere .requests).outcome.trace Rehearsal.outside 0 oneJob) =
        [(r, answer)] ∧ Fetches .requests r.url answer [.int 1]) ∧
      (∃ r answer,
        exchanges ((deliver somewhere .requests "a" .null).outcome.trace Rehearsal.outside 0
          oneJob) = [(r, answer)] ∧ Delivers r.url answer) ∧
      ∀ url, Accepted url (.ok ⟨204, [], []⟩) ⟨204, [], []⟩ := by
  obtain ⟨hfetch, hdeliver, hsuccess⟩ :=
    answers_classified somewhere .requests "a" .null Rehearsal.outside 0 oneJob
  obtain ⟨hfetched, hdelivered⟩ := answers_of_oneJob
  obtain ⟨r₀, hr₀⟩ := Except.exists_of_isOk calls_made.1
  obtain ⟨r₁, hr₁⟩ := Except.exists_of_isOk calls_made.2
  obtain ⟨r, answer, hsent, -, hclass⟩ := hfetch r₀ hr₀
  obtain ⟨r', answer', hsent', -, hclass'⟩ := hdeliver r₁ hr₁
  refine ⟨⟨r, answer, hsent, ?_⟩, ⟨r', answer', hsent', ?_⟩, fun url => ?_⟩
  · exact (hclass.returned _).1 (eq_ok_of_matches hfetched)
  · apply (hclass'.returned ()).1
    change delivered oneJob = .ok ()
    split at hdelivered
    · next h => exact h
    · cases hdelivered
  · exact ((hsuccess url).1 ⟨204, [], []⟩ (by decide) (by decide)).1

/-- A redirect is neither followed nor refused: no jobs, and a result that counts as delivered. -/
theorem redirect_accepted :
    (fetched (answering 302 [("location", "https://elsewhere.test/")] "") matches .ok []) ∧
      (delivered (answering 302 [("location", "https://elsewhere.test/")] "") matches .ok ()) := by
  decide +kernel

end Coordinator
end TestWorker
