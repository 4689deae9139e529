import TestWorker.Proofs.Action.Sending
import TestWorker.Proofs.Coordinator.Delivery

namespace TestWorker.Web

/-- If the response has a location, it is an address. -/
def Located (r : Request) (response : Response) : Prop :=
  ∀ location, response.location? = some location → ∃ u, redirectUrl r.url location = .ok u

namespace Client
variable {σ : Type} {c : Client} {left : Nat} {r : Request}
  {xs : List (Request × Except Fault Response)} {x : Except Fault Response}

/-- The exchanges of a request that may have so many, and what they come to. -/
inductive Chain (c : Client) :
    Nat → Request → List (Request × Except Fault Response) → Except Fault Response → Prop
  | exceeded (r : Request) : Chain c 0 r [] (.error tooManyRedirects)
  | lost (left : Nat) (r : Request) (f : Fault) : Chain c (left + 1) r [(r, .error f)] (.error f)
  | ended {left : Nat} {r : Request} {response : Response} :
      c.follows = false ∨ response.location? = none → Located r response →
      Chain c (left + 1) r [(r, .ok response)] (.ok response)
  | astray {left : Nat} {r : Request} {response : Response} {location : String} {f : Fault} :
      response.location? = some location → redirectUrl r.url location = .error f →
      Chain c (left + 1) r [(r, .ok response)] (.error f)
  | followed {left : Nat} {r next : Request} {response : Response} {location : String} {jar : Jar}
      {xs : List (Request × Except Fault Response)} {x : Except Fault Response} :
      c.follows = true → response.location? = some location →
      r.redirected response.status location jar = .ok next → Chain c left next xs x →
      Chain c (left + 1) r ((r, .ok response) :: xs) x

def remembered (c : Client) (o : Outside σ) (now : Instant) (s : σ) : Jar :=
  match c.session with
  | some session => (o.reply (.cookies session) now s).value
  | none => []

theorem jar_run (c : Client) (o : Outside σ) (now : Instant) (s : σ) :
    (c.jar.outcome.run o now s).1 = .ok (c.remembered o now s) := by
  unfold jar remembered
  cases c.session <;> rfl

theorem jar_exchanges (c : Client) (o : Outside σ) (now : Instant) (s : σ) :
    exchanges (c.jar.outcome.trace o now s) = [] :=
  c.jar_asks.exchanges_eq_nil o now s

theorem follow_chain (c : Client) (left : Nat) (r : Request)
    (o : Outside σ) (now : Instant) (s : σ) :
    Chain c left r (exchanges ((c.follow left r).outcome.trace o now s))
      ((c.follow left r).outcome.run o now s).1 := by
  induction left generalizing r now s with
  | zero => exact .exceeded r
  | succ left ih =>
    obtain ⟨r', answer, hexchanges, hr', hanswer⟩ := (Coordinator.exchange_sends c r).run o now s
    subst hr'
    unfold follow
    rw [Attempt.outcome_bind, Activity.exchanges_bind, Activity.run_bind, hexchanges, hanswer]
    generalize ((c.exchange r').outcome.run o now s).2 = there
    cases answer with
    | error f => exact .lost left r' f
    | ok response =>
      dsimp only
      cases hl : response.location? with
      | none => exact .ended (.inr hl) (by simp [Located, hl])
      | some location =>
        dsimp only
        rw [Attempt.outcome_bind, Activity.exchanges_bind, Activity.run_bind, jar_exchanges,
          jar_run, List.nil_append]
        generalize (c.jar.outcome.run o there.1 there.2).2 = after
        dsimp only
        rw [Attempt.outcome_bind, Attempt.outcome_ofExcept, Activity.done_bind]
        cases hu : redirectUrl r'.url location with
        | error f =>
          rw [redirected_eq_error _ _ hu]
          exact .astray hl hu
        | ok u =>
          obtain ⟨next, hnext⟩ :=
            redirected_eq_ok response.status (c.remembered o there.1 there.2) hu
          rw [hnext]
          dsimp only
          cases hfollows : c.follows with
          | true =>
            rw [if_pos rfl]
            exact .followed hfollows hl hnext (ih next after.1 after.2)
          | false =>
            have hlocated : Located r' response := by
              intro location' hl'
              rw [hl] at hl'
              cases hl'
              exact ⟨u, hu⟩
            exact .ended (.inl hfollows) hlocated

/-- The first is answered with a redirect that is followed, and the second is the redirect. -/
def Next (c : Client) (e e' : Request × Except Fault Response) : Prop :=
  c.follows = true ∧ ∃ response location jar, e.2 = .ok response ∧
    response.location? = some location ∧
    e.1.redirected response.status location jar = .ok e'.1

/-- The last response, unless it is a redirect that is to be followed. -/
def final? (c : Client) (xs : List (Request × Except Fault Response)) :
    Option (Request × Response) :=
  match xs.getLast? with
  | some (r, .ok response) =>
    if c.follows && response.location?.isSome then none else some (r, response)
  | _ => none

/-- Nothing is sent but redirects, and all of them up to the limit. -/
structure Follows (c : Client) (limit : Nat) (xs : List (Request × Except Fault Response)) :
    Prop where
  next : xs.IsChain c.Next
  whole : ∀ r response, xs.getLast? = some (r, .ok response) → Located r response →
    (c.follows && response.location?.isSome) = true → xs.length = limit

theorem final?_eq_some {response : Response} (h : final? c xs = some (r, response)) :
    xs.getLast? = some (r, .ok response) := by
  unfold final? at h
  split at h
  · next heq =>
    split at h
    · cases h
    · cases h
      exact heq
  · cases h

theorem final?_cons_cons (c : Client) (e e' : Request × Except Fault Response)
    (xs : List (Request × Except Fault Response)) :
    final? c (e :: e' :: xs) = final? c (e' :: xs) := by
  unfold final?
  rw [List.getLast?_cons_cons]

theorem follows_nil (c : Client) (limit : Nat) : Follows c limit [] := ⟨.nil, nofun⟩

theorem Chain.head? (h : Chain c left r xs x) (e : Request × Except Fault Response)
    (he : e ∈ xs.head?) : e.1 = r := by
  cases h with
  | exceeded => cases he
  | lost | ended | astray | followed =>
    cases he
    rfl

theorem Chain.follows (h : Chain c left r xs x) : Follows c left xs := by
  induction h with
  | exceeded r => exact follows_nil c 0
  | lost left r f => exact ⟨.singleton _, nofun⟩
  | @ended left r response hend hlocated =>
    refine ⟨.singleton _, ?_⟩
    rintro r' response' ⟨⟩ - hfollowed
    rcases hend with h | h <;> simp [h] at hfollowed
  | @astray left r response location f hl hu =>
    refine ⟨.singleton _, ?_⟩
    rintro r' response' ⟨⟩ hlocated -
    obtain ⟨u, hu'⟩ := hlocated location hl
    rw [hu] at hu'
    cases hu'
  | @followed left r next response location jar xs x hfollows hl hnext hrest ih =>
    cases xs with
    | nil =>
      -- there is no redirect more to send
      cases hrest
      exact ⟨.singleton _, fun _ _ _ _ _ => rfl⟩
    | cons e xs =>
      obtain rfl : e.1 = next := hrest.head? e rfl
      refine ⟨List.isChain_cons_cons.2
        ⟨⟨hfollows, response, location, jar, rfl, hl, hnext⟩, ih.next⟩, ?_⟩
      intro r' response' hlast hlocated hfollowed
      rw [List.getLast?_cons_cons] at hlast
      exact congrArg Nat.succ (ih.whole r' response' hlast hlocated hfollowed)

theorem Chain.eq_ok_iff (h : Chain c left r xs x) (response : Response) :
    x = .ok response ↔ ∃ r, final? c xs = some (r, response) ∧ Located r response := by
  induction h with
  | exceeded r => simp [final?]
  | lost left r f => simp [final?]
  | @ended left r response hend hlocated =>
    have hfinal : final? c [(r, .ok response)] = some (r, response) := by
      rcases hend with h | h <;> simp [final?, h]
    rw [hfinal]
    constructor
    · rintro h
      cases h
      exact ⟨r, rfl, hlocated⟩
    · rintro ⟨r', h, -⟩
      cases h
      rfl
  | @astray left r response location f hl hu =>
    refine iff_of_false nofun ?_
    rintro ⟨r', h, hlocated⟩
    cases final?_eq_some h
    obtain ⟨u, hu'⟩ := hlocated location hl
    rw [hu] at hu'
    cases hu'
  | @followed left r next response location jar xs x hfollows hl hnext hrest ih =>
    cases xs with
    | nil =>
      -- the chain has become too long, and ends with a redirect
      cases hrest
      simp [final?, hfollows, hl]
    | cons e xs =>
      rw [final?_cons_cons]
      exact ih

/-- What a request comes to, by its exchanges. -/
structure Concludes (c : Client) (first? : Option Request)
    (xs : List (Request × Except Fault Response)) (x : Except Fault Response) : Prop where
  first : xs.head?.map (·.1) = first?
  follows : Follows c (maxRedirects + 1) xs
  result : ∀ response, x = .ok response ↔ ∃ r, final? c xs = some (r, response) ∧ Located r response

theorem concludes_nil (c : Client) (f : Fault) : Concludes c none [] (.error f) where
  first := rfl
  follows := follows_nil c _
  result := by simp [final?]

theorem Chain.concludes (h : Chain c (maxRedirects + 1) r xs x) : Concludes c (some r) xs x where
  first := by
    cases xs with
    | nil => cases h
    | cons e xs => exact congrArg some (h.head? e rfl)
  follows := h.follows
  result := h.eq_ok_iff

theorem send_concludes (c : Client) (d : Draft) (o : Outside σ) (now : Instant) (s : σ) :
    Concludes c (d.request (c.remembered o now s)).toOption
      (exchanges ((c.send d).outcome.trace o now s))
      ((c.send d).outcome.run o now s).1 := by
  unfold send
  rw [Attempt.outcome_bind, Activity.exchanges_bind, Activity.run_bind, jar_exchanges, jar_run,
    List.nil_append]
  dsimp only
  rw [Attempt.outcome_bind, Attempt.outcome_ofExcept, Activity.done_bind]
  cases d.request (c.remembered o now s) with
  | error f => exact concludes_nil c f
  | ok r => exact (follow_chain c _ r o _ _).concludes

end Client
end TestWorker.Web
