import TestWorker.Proofs.Action.Parameter
import TestWorker.Proofs.Test.Stored
import TestWorker.Proofs.Web.Draft

namespace TestWorker.Action
open HttpCall (parameter ofParameters)
variable {σ : Type} {p : Entries}

theorem HttpCall.of_request? {jar : Web.Jar} {r : Web.Request} (h : request? p jar = some r) :
    ∃ call, ofParameters p = .ok call ∧ (call.draft (parameter p "url")).request jar = .ok r := by
  unfold request? at h
  split at h
  · obtain ⟨call, hcall, hr⟩ := Option.bind_eq_some_iff.1 h
    refine ⟨call, ?_, ?_⟩
    · cases hp : ofParameters p with
      | error f => simp [hp, Except.toOption] at hcall
      | ok call' => simpa [hp, Except.toOption] using hcall
    · cases hd : (call.draft (parameter p "url")).request jar with
      | error f => simp [hd, Except.toOption] at hr
      | ok r' => simpa [hd, Except.toOption] using hr
  · cases h

def texts (ps : List (String × String)) : Entries := ps.map fun (n, t) => (n, .text t)

theorem pairs_texts (ps : List (String × String)) :
    (Web.Query.ofEntries (texts ps)).pairs = ps := by
  have hpair : ∀ x : String × String, (Web.Query.valuesOf (.text x.2)).map (x.1, ·) = [x] :=
    fun _ => rfl
  rw [Web.Query.ofEntries, Web.Query.pairs, texts, List.flatMap_map, List.flatMap_map]
  simp only [hpair, List.flatMap_singleton']

def HttpCall.queryFrom (p : Entries) : Web.Parameters :=
  if (paramsOf p).isNull then .fromUrl else .replaced (paramsOf p)

theorem HttpCall.parameters_of_ofParameters {call : HttpCall}
    (h : ofParameters p = .ok call) (url : Value) :
    (call.draft url).parameters = queryFrom p := by
  rw [draft, (given_of_ofParameters h).2]
  rfl

theorem HttpCall.queryFrom_object {es : Entries} (h : parameter p "params" = .object es) :
    queryFrom p = if es = [] then .fromUrl else .replaced (.object es) := by
  rw [queryFrom, paramsOf, h]
  cases es <;> rfl

/-- With entries in its parameters, a request has these for a query, and with an empty map the
address keeps its own. -/
theorem HttpCall.request?_pairs {es : Entries} (hparams : parameter p "params" = .object es)
    {jar : Web.Jar} {r : Web.Request} (h : request? p jar = some r) :
    ∃ u, Web.addressOf (parameter p "url") = .ok u ∧
      r.url.pairs = if es = [] then u.pairs else (Web.Query.ofEntries es).pairs := by
  obtain ⟨call, hcall, hr⟩ := of_request? h
  obtain ⟨u, query, hu, hquery, hpairs⟩ := Web.Draft.request_pairs hr
  refine ⟨u, hu, ?_⟩
  rw [parameters_of_ofParameters hcall, queryFrom_object hparams] at hquery
  split at hquery
  · next hes =>
    cases hquery
    rw [if_pos hes, hpairs]
  · next hes =>
    obtain rfl := Except.ok.inj (hquery.symm.trans (Web.Parameters.query_object hes))
    rw [if_neg hes, hpairs]
    exact Web.Query.read_text _

/-- Where a request can be made of the rest, it is made and sent, unless the body is a tree that has
no JSON text. -/
theorem HttpCall.Ready.sends {n : String} (hready : Ready p)
    (hbody : IsTree (content p) → Json.Sayable (content p)) (e : Equipment)
    (c : Context) (o : Outside σ) (now : Instant) (s : σ) :
    ∃ r answer later, exchanges (((http n p).run e c).trace o now s) = (r, answer) :: later := by
  obtain ⟨call, hcall, -⟩ := hready.fit
  have hencodes : ∃ described body,
      (call.draft (parameter p "url")).content.encode = .ok (described, body) := by
    by_cases htree : IsTree (content p)
    · rw [content_of_tree hcall htree]
      obtain ⟨described, hencode⟩ := Web.Content.encode_json (hbody htree)
      exact ⟨described, _, hencode⟩
    · unfold draft
      rw [(of_ofParameters hcall).2]
      cases hcontent : content p with
      | list vs => exact absurd (by rw [hcontent]; trivial) htree
      | object es => exact absurd (by rw [hcontent]; trivial) htree
      | _ => exact ⟨_, _, rfl⟩
  obtain ⟨described, body, hencode⟩ := hencodes
  obtain ⟨r, hr, -⟩ := hready.request? hcall hencode (e.client.remembered o now s)
  exact ⟨r, first_request.2 hr⟩

/-- Of a step that gives one query in its address and one in its parameters, all that the first
request says in its query. The parameters are there, in their order; the pairs of the address are
there as long as the parameters are none, or give them too. -/
theorem first_query {n address : String} {u : Web.Url} {ps : List (String × String)}
    (haddress : parameter p "url" = .text address) (hu : Web.Url.parse address = .ok u)
    (habsolute : u.isAbsolute = true) (hparams : parameter p "params" = .object (texts ps))
    (e : Equipment) (c : Context) (o : Outside σ) (now : Instant) (s : σ) :
    let sent := exchanges (((http n p).run e c).trace o now s)
    let own := (Web.Parts.ofText address).pairs
    (HttpCall.Ready p →
      (HttpCall.IsTree (HttpCall.content p) → Json.Sayable (HttpCall.content p)) → sent ≠ []) ∧
    ∀ r answer later, sent = (r, answer) :: later →
      r.url.pairs = (if ps = [] then own else ps) ∧
      ((∀ x ∈ own ++ ps, x ∈ r.url.pairs) ↔ ps = [] ∨ ∀ x ∈ own, x ∈ ps) := by
  dsimp only
  constructor
  · intro hready hbody
    obtain ⟨r, answer, later, hsent⟩ := hready.sends hbody e c o now s
    rw [hsent]
    exact List.cons_ne_nil _ _
  · intro r answer later hsent
    obtain ⟨u', hu', hpairs⟩ :=
      HttpCall.request?_pairs hparams (first_request.1 ⟨answer, later, hsent⟩)
    obtain rfl : u' = u := by
      have hsame : Web.addressOf (.text address) = .ok u := by
        simp [Web.addressOf, Web.liftUrl, hu, habsolute, Except.mapError,
          bind, Except.bind, pure, Except.pure]
      rw [haddress, hsame] at hu'
      exact (Except.ok.inj hu').symm
    have hempty : texts ps = [] ↔ ps = [] := List.map_eq_nil_iff
    rw [Web.parse_pairs hu, pairs_texts] at hpairs
    simp only [hempty] at hpairs
    rw [hpairs]
    refine ⟨rfl, ?_⟩
    split
    · next hnone => simp [hnone]
    · next hsome => simp [hsome, or_imp]

def searched : Entries :=
  [("url", .text "https://api.test/x?a=1"), ("params", .object (texts [("b", "2")]))]

def search : Activity (Outcome × Context) :=
  (http "Http.get" searched).run ⟨⟨none, false⟩, []⟩ (.ofEntries [])

theorem first_query_searched :
    ∃ r answer later, exchanges (search.trace Rehearsal.outside 0 {}) = (r, answer) :: later ∧
      r.url.pairs = [("b", "2")] := by
  have hparse : Web.Url.parse "https://api.test/x?a=1" =
      .ok ⟨"https", "", "api.test", none, "/x", some "a=1", none⟩ := by decide +kernel
  have hparams : parameter searched "params" = .object (texts [("b", "2")]) := rfl
  have hready : HttpCall.Ready searched :=
    Test.ready_of_isOk (by decide +kernel) (by decide +kernel)
  obtain ⟨hsent, hfirst⟩ :=
    first_query (p := searched) (n := "Http.get") rfl hparse (by decide +kernel) hparams
    ⟨⟨none, false⟩, []⟩ (.ofEntries []) Rehearsal.outside 0 {}
  obtain ⟨⟨r, answer⟩, later, hlist⟩ :=
    List.exists_cons_of_ne_nil (hsent hready (fun htree => htree.elim))
  exact ⟨r, answer, later, hlist, (hfirst r answer later hlist).1⟩

/-- What the address asks for is lost. -/
theorem own_query_lost :
    (Web.Parts.ofText "https://api.test/x?a=1").pairs = [("a", "1")] ∧
    (exchanges (search.trace Rehearsal.outside 0 {})).map (fun x => (x.1.url.text, x.1.url.pairs)) =
      [("https://api.test/x?b=2", [("b", "2")])] := by
  decide +kernel

end TestWorker.Action
