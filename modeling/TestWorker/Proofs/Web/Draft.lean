import TestWorker.Proofs.Entries
import TestWorker.Proofs.Web.Query

namespace TestWorker.Web

/-- A draft that comes to a request, with all that the request is made of. -/
theorem Draft.request_eq_ok {d : Draft} {jar : Jar} {r : Request} (h : d.request jar = .ok r) :
    ∃ u headers query described, addressOf d.url = .ok u ∧
      (d.headers.mapM fun (n, v) => header n v) = .ok headers ∧ d.parameters.query = .ok query ∧
      (match query with
        | none => r.url = u
        | some q => u.withQuery q = .ok r.url) ∧
      d.content.encode = .ok (described, r.body) ∧
      r.headers =
        authorize r.url (complete d.method r.url described (withCookies jar r.url headers)) := by
  unfold Draft.request at h
  obtain ⟨u, hu, h⟩ := Except.bind_eq_ok.1 h
  obtain ⟨headers, hheaders, h⟩ := Except.bind_eq_ok.1 h
  obtain ⟨query, hquery, h⟩ := Except.bind_eq_ok.1 h
  cases query with
  | none =>
    obtain ⟨v, hv, h⟩ := Except.bind_eq_ok.1 h
    cases hv
    obtain ⟨⟨described, body⟩, hencode, h⟩ := Except.bind_eq_ok.1 h
    cases h
    exact ⟨u, headers, none, described, hu, hheaders, hquery, rfl, hencode, rfl⟩
  | some q =>
    obtain ⟨v, hv, h⟩ := Except.bind_eq_ok.1 h
    obtain ⟨⟨described, body⟩, hencode, h⟩ := Except.bind_eq_ok.1 h
    cases h
    refine ⟨u, headers, some q, described, hu, hheaders, hquery, ?_, hencode, rfl⟩
    unfold liftUrl Except.mapError at hv
    split at hv
    · cases hv
    · next hw =>
      cases hv
      exact hw

theorem Draft.request_pairs {d : Draft} {jar : Jar} {r : Request} (h : d.request jar = .ok r) :
    ∃ u query, addressOf d.url = .ok u ∧ d.parameters.query = .ok query ∧
      r.url.pairs = match query with
        | none => u.pairs
        | some q => (q.map Query.read).getD [] := by
  obtain ⟨u, headers, query, described, hu, -, hquery, hurl, -⟩ := request_eq_ok h
  refine ⟨u, query, hu, hquery, ?_⟩
  cases query with
  | none => exact congrArg Url.pairs hurl
  | some q => exact withQuery_pairs hurl

def Query.ofEntries (es : Entries) : Query := es.map fun e => (e.1, valuesOf e.2)

theorem Parameters.query_object {es : Entries} (hes : es ≠ []) :
    (Parameters.replaced (.object es)).query = .ok (some (some (Query.ofEntries es).text)) := by
  have htruthy : (Value.object es).truthy = true := by simpa [Value.truthy] using hes
  simp [Parameters.query, htruthy, Query.ofValue, Query.ofEntries,
    hes, bind, Except.bind, pure, Except.pure]

variable {h : Headers} {n m t v : String}

theorem Headers.mem_keepFirst (hm : (n, t) ∈ h) (hne : n ≠ m) :
    (n, t) ∈ Headers.put.keepFirst m h := by
  induction h with
  | nil => cases hm
  | cons e h ih =>
    rw [Headers.put.keepFirst]
    rcases List.mem_cons.1 hm with rfl | hm
    · split <;> exact List.mem_cons_self
    split
    · exact List.mem_cons_of_mem _ (List.mem_filter.2 ⟨hm, by simpa using hne⟩)
    · exact List.mem_cons_of_mem _ (ih hm)

theorem Headers.mem_put (hm : (n, t) ∈ h) (hne : n ≠ m) : (n, t) ∈ h.put m v := by
  unfold Headers.put
  split
  · exact Entries.mem_put_of_ne (mem_keepFirst hm hne) hne v
  · exact List.mem_append_left _ hm

theorem Headers.mem_orElse (hm : (n, t) ∈ h) (m v : String) : (n, t) ∈ h.orElse m v := by
  unfold Headers.orElse
  split
  · exact hm
  · exact List.mem_append_left _ hm

theorem mem_complete (hm : (n, t) ∈ h) (method : String) (u : Url) (described : Headers) :
    (n, t) ∈ complete method u described h := by
  unfold complete
  dsimp only
  apply List.mem_append_right
  induction described generalizing h with
  | nil => exact hm
  | cons d described ih => exact ih (Headers.mem_orElse hm d.1 d.2)

theorem mem_withCookies (hm : (n, t) ∈ h) (jar : Jar) (u : Url) : (n, t) ∈ withCookies jar u h := by
  unfold withCookies
  cases jar.header? u with
  | none => exact hm
  | some line => exact Headers.mem_orElse hm "cookie" line

/-- The address claims the header, for the user and password that it has. -/
def Url.Claims (u : Url) (n : String) : Prop :=
  Text.asciiLower n = "authorization" ∧ credentials u ≠ ("", "")

theorem mem_authorize {u : Url} (hm : (Text.asciiLower n, t) ∈ h) (hu : ¬u.Claims n) :
    (Text.asciiLower n, t) ∈ authorize u h := by
  unfold authorize
  dsimp only
  split
  · exact hm
  · next hsome =>
    refine Headers.mem_put hm fun hname => hu ⟨hname, fun hnone => hsome ?_⟩
    simp [hnone]

/-- A header that is given is sent, unless the address claims it. -/
theorem Draft.request_header {d : Draft} {jar : Jar} {r : Request} (h : d.request jar = .ok r)
    (hm : (n, t) ∈ d.headers) (hu : ¬r.url.Claims n) : (Text.asciiLower n, t) ∈ r.headers := by
  obtain ⟨u, headers, query, described, -, hheaders, -, -, -, heq⟩ := request_eq_ok h
  have hlower : headers = d.headers.map fun x => (Text.asciiLower x.1, x.2) := by
    refine mapM_eq_map (fun x y hxy => ?_) hheaders
    dsimp only [header] at hxy
    split at hxy
    · cases hxy
    split at hxy
    · cases hxy
    · exact (Except.ok.inj hxy).symm
  rw [heq]
  refine mem_authorize (mem_complete (mem_withCookies ?_ _ _) _ _ _) hu
  rw [hlower]
  exact List.mem_map_of_mem hm

end TestWorker.Web
