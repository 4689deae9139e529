import TestWorker.Proofs.Action.Verdict
import TestWorker.Proofs.Placeholder.Missing

namespace TestWorker

namespace Placeholder

theorem mem_entryTexts_put {es : Entries} {k s : String} {d : Value}
    (h : s ∈ entryTexts (Entries.put es k d)) : s ∈ entryTexts es ∨ s ∈ leafTexts d := by
  induction es with
  | nil => exact .inr (by simpa [Entries.put, entryTexts] using h)
  | cons e es ih =>
    obtain ⟨k', w⟩ := e
    rw [Entries.put] at h
    split at h
    · rw [entryTexts, List.mem_append] at h
      exact h.symm.imp (fun h => List.mem_append_right _ h) id
    · rw [entryTexts, List.mem_append] at h
      rcases h with h | h
      · exact .inl (List.mem_append_left _ h)
      · exact (ih h).imp (fun h => List.mem_append_right _ h) id

theorem mem_entryTexts_of_get? {es : Entries} {k s : String}
    {d : Value} (hd : Entries.get? es k = some d) (hs : s ∈ leafTexts d) : s ∈ entryTexts es := by
  induction es with
  | nil => cases hd
  | cons e es ih =>
    obtain ⟨k', w⟩ := e
    rw [Entries.get?_cons] at hd
    rw [entryTexts, List.mem_append]
    split at hd
    · cases hd
      exact .inl hs
    · exact .inr (ih hd)

theorem resolve_eq_ok_iff {strict : Bool} {c : Context} {v w : Value} :
    resolve strict c v = .ok w ↔
      w = substitute c v ∧ (strict = true → ∀ t ∈ documentTokens v, unbound c t = false) := by
  cases strict with
  | false => exact ⟨fun h => ⟨(Except.ok.inj h).symm, nofun⟩, fun h => congrArg Except.ok h.1.symm⟩
  | true =>
    change substituteStrict c v = _ ↔ _
    rw [substituteStrict_eq, granted_eq_ok_iff, List.find?_eq_none]
    constructor
    · rintro ⟨hbound, rfl⟩
      exact ⟨rfl, fun _ t ht => by simpa using hbound t ht⟩
    · rintro ⟨rfl, hbound⟩
      exact ⟨fun t ht => by simp [hbound rfl t ht], rfl⟩

theorem resolve_put {strict : Bool} {c : Context} {es q : Entries} {d w : Value} {k : String}
    (hes : resolve strict c (.object es) = .ok (.object q)) (hd : resolve strict c d = .ok w) :
    resolve strict c (.object (Entries.put es k d)) = .ok (.object (Entries.put q k w)) := by
  rw [resolve_eq_ok_iff, substitute_object] at hes ⊢
  obtain ⟨hq, hesbound⟩ := hes
  obtain ⟨rfl, hdbound⟩ := resolve_eq_ok_iff.1 hd
  refine ⟨by rw [Entries.map_put, Value.object.inj hq], fun hstrict t ht => ?_⟩
  -- each token is one of the entries there were, or of the one that is put in
  obtain ⟨s, hs, hts⟩ := List.mem_flatMap.1 ht
  rcases mem_entryTexts_put hs with hs | hs
  · exact hesbound hstrict t (List.mem_flatMap.2 ⟨s, hs, hts⟩)
  · exact hdbound hstrict t (List.mem_flatMap.2 ⟨s, hs, hts⟩)

theorem resolve_entry {strict : Bool} {c : Context} {es q : Entries} {d : Value} {k : String}
    (hes : resolve strict c (.object es) = .ok (.object q)) (hd : Entries.get? es k = some d) :
    ∃ w, resolve strict c d = .ok w ∧ Entries.get? q k = some w := by
  rw [resolve_eq_ok_iff, substitute_object] at hes
  obtain ⟨hq, hbound⟩ := hes
  refine ⟨substitute c d, resolve_eq_ok_iff.2 ⟨rfl, fun hstrict t ht => ?_⟩, ?_⟩
  · obtain ⟨s, hs, hts⟩ := List.mem_flatMap.1 ht
    exact hbound hstrict t (List.mem_flatMap.2 ⟨s, mem_entryTexts_of_get? hd hs, hts⟩)
  · rw [Value.object.inj hq, get?_map, hd]
    rfl

end Placeholder

namespace Action
open HttpCall (parameter ofParameters)
variable {name w : Value} {n key : String} {p p' q : Entries}

/-- The parameters are the others, with one put in. -/
structure HttpCall.Put (p : Entries) (key : String) (w : Value) (p' : Entries) : Prop where
  given : Entries.get? p' key = some w
  others : ∀ k, k ≠ key → Entries.get? p' k = Entries.get? p k

theorem HttpCall.put_self (p : Entries) (key : String) (w : Value) :
    Put p key w (Entries.put p key w) where
  given := by simp [Entries.get?_put]
  others k hk := by simp [Entries.get?_put, hk]

theorem HttpCall.parameter_of_get? (h : Entries.get? p key = some w) : parameter p key = w := by
  rw [parameter, h]
  rfl

theorem HttpCall.content_of_data (h : Entries.get? p "data" = some w) : content p = w := by
  rw [content, h]
  rfl

theorem HttpCall.Put.parameter_eq (h : Put p key w p') : parameter p' key = w :=
  parameter_of_get? h.given

theorem HttpCall.Put.parameter_of_ne (h : Put p key w p') {k : String} (hk : k ≠ key) :
    parameter p' k = parameter p k := by
  rw [parameter, parameter, h.others k hk]

/-- An HTTP action takes its parameters as they are, but for a method of its own. -/
theorem build_http_cases (h : build name (.object q) = .ok (.http n p)) :
    (p = q ∧ ∀ q', build name (.object q') = .ok (.http n q')) ∨
    ∃ m, p = Entries.put q "method" m ∧
      ∀ q', build name (.object q') = .ok (.http n (Entries.put q' "method" m)) := by
  unfold build at h ⊢
  cases hr : recipe? name with
  | none =>
    rw [hr] at h
    cases h
  | some r =>
    rw [hr] at h
    cases r with
    | request =>
      simp only [Recipe.build, parametersOf_object] at h ⊢
      cases h
      exact .inl ⟨rfl, fun _ => rfl⟩
    | method m =>
      simp only [Recipe.build, mapOf_object] at h ⊢
      cases h
      exact .inr ⟨.text m, rfl, fun _ => rfl⟩
    | query =>
      obtain ⟨es, -, h⟩ := Except.bind_eq_ok.1 h
      dsimp only at h
      split at h <;> cases h
    | generate =>
      obtain ⟨es, -, h⟩ := Except.bind_eq_ok.1 h
      cases h

theorem build_get? (h : build name (.object q) = .ok (.http n p)) (hkey : key ≠ "method") :
    Entries.get? p key = Entries.get? q key := by
  rcases build_http_cases h with ⟨rfl, -⟩ | ⟨m, rfl, -⟩
  · rfl
  · rw [Entries.get?_put, if_neg hkey]

theorem build_put (h : build name (.object q) = .ok (.http n p))
    (hkey : key ≠ "method") (w : Value) :
    ∃ p', build name (.object (Entries.put q key w)) = .ok (.http n p') ∧
      HttpCall.Put p key w p' := by
  rcases build_http_cases h with ⟨rfl, hall⟩ | ⟨m, rfl, hall⟩
  · exact ⟨_, hall _, HttpCall.put_self _ key w⟩
  · refine ⟨_, hall _, by simp [Entries.get?_put, hkey], fun k hk => ?_⟩
    simp [Entries.get?_put, hk]

theorem build_post (q : Entries) : build (.text "Http.post") (.object q) =
    .ok (.http "Http.post" (Entries.put q "method" (.text "POST"))) := by
  have hrecipe : recipe? (.text "Http.post") = some (.method "POST") := by decide +kernel
  simp only [build, hrecipe, Recipe.build, mapOf_object]
  rfl

theorem HttpCall.Put.methodOf (h : Put p key w p') (hkey : key ≠ "method") :
    methodOf p' = methodOf p := by
  unfold HttpCall.methodOf
  rw [h.parameter_of_ne hkey.symm]

/-- A map of no parameters counts as none. -/
def HttpCall.paramsOf (p : Entries) : Value :=
  if (parameter p "params").truthy then parameter p "params" else .null

theorem HttpCall.given_of_ofParameters {call : HttpCall} (h : ofParameters p = .ok call) :
    headersOf (parameter p "headers") = .ok call.headers ∧ call.params = paramsOf p := by
  obtain ⟨headers, hheaders, h⟩ := Except.bind_eq_ok.1 h
  dsimp only at h
  split at h
  · cases h
    exact ⟨hheaders, rfl⟩
  · obtain ⟨timeout, -, h⟩ := Except.bind_eq_ok.1 h
    cases h
    exact ⟨hheaders, rfl⟩

/-- Under the same headers, method and time limit, calls differ in query and body at most. -/
theorem HttpCall.ofParameters_congr
    (hheaders : headersOf (parameter p' "headers") = headersOf (parameter p "headers"))
    (hmethod : HttpCall.methodOf p' = HttpCall.methodOf p)
    (htimeout : parameter p' "timeout" = parameter p "timeout") :
    ofParameters p' =
      (ofParameters p).map fun call =>
        { call with params := paramsOf p', body := bodyOf (content p') } := by
  unfold ofParameters
  rw [hheaders, hmethod, htimeout]
  cases headersOf (parameter p "headers") with
  | error f => rfl
  | ok headers =>
    simp only [bind, Except.bind]
    split
    · rfl
    · cases secondsOf (parameter p "timeout") <;> rfl

theorem HttpCall.Put.ofParameters_data (h : Put p "data" w p') :
    ofParameters p' = (ofParameters p).map fun call => { call with body := bodyOf w } := by
  have hparams : paramsOf p' = paramsOf p := by
    unfold paramsOf
    rw [h.parameter_of_ne (by decide)]
  rw [ofParameters_congr (by rw [h.parameter_of_ne (by decide)]) (h.methodOf (by decide))
    (h.parameter_of_ne (by decide)), content_of_data h.given, hparams]
  cases hcall : ofParameters p with
  | error f => rfl
  | ok call => rw [← (given_of_ofParameters hcall).2]; rfl

theorem HttpCall.Ready.put_data (hready : Ready p) (h : Put p "data" w p') : Ready p' := by
  obtain ⟨call, hcall, hfit⟩ := hready.fit
  have hurl : parameter p' "url" = parameter p "url" := h.parameter_of_ne (by decide)
  refine ⟨hurl ▸ hready.addressed, { call with body := bodyOf w }, ?_, ?_⟩
  · rw [h.ofParameters_data, hcall]
    rfl
  · rw [hurl]
    exact hfit

theorem HttpCall.Ready.request? (hready : Ready p) {call : HttpCall}
    (hcall : ofParameters p = .ok call) {described : Web.Headers} {body : Text.Bytes}
    (hbody : (call.draft (parameter p "url")).content.encode = .ok (described, body))
    (jar : Web.Jar) :
    ∃ r, HttpCall.request? p jar = some r ∧ r.body = body := by
  obtain ⟨call', hcall', hfit⟩ := hready.fit
  obtain rfl : call' = call := Except.ok.inj (hcall'.symm.trans hcall)
  obtain ⟨r, hr, -, hrbody⟩ := (hfit.request jar).2 described body hbody
  refine ⟨r, ?_, hrbody⟩
  rw [HttpCall.request?, if_pos hready.addressed, hcall]
  simp [Except.toOption, hr]

theorem first_request {σ : Type} {e : Equipment} {c : Context}
    {o : Outside σ} {now : Instant} {s : σ} {r : Web.Request} :
    (∃ answer later, exchanges (((http n p).run e c).trace o now s) = (r, answer) :: later) ↔
      HttpCall.request? p (e.client.remembered o now s) = some r := by
  obtain ⟨x, hconcludes, -⟩ := http_judges e n p c o now s
  rw [← hconcludes.first]
  cases exchanges (((http n p).run e c).trace o now s) with
  | nil => simp
  | cons first later =>
    obtain ⟨r', answer⟩ := first
    simp

end Action
end TestWorker
