import TestWorker.Proofs.Coordinator.Answer
import TestWorker.Proofs.Crew.Twins

namespace TestWorker

theorem ExceptAlike.bind {α β γ δ : Type} {R : α → β → Prop} {S : γ → δ → Prop} {x : Except Fault α}
    {y : Except Fault β} {f : α → Except Fault γ} {g : β → Except Fault δ} (h : ExceptAlike R x y)
    (hfg : ∀ a b, R a b → ExceptAlike S (f a) (g b)) : ExceptAlike S (x >>= f) (y >>= g) := by
  cases x <;> cases y
  · obtain rfl : _ = _ := h
    rfl
  · exact h.elim
  · exact h.elim
  · exact hfg _ _ h

theorem ExceptAlike.bind_eq {α γ δ : Type} {S : γ → δ → Prop} (x : Except Fault α)
    {f : α → Except Fault γ} {g : α → Except Fault δ} (hfg : ∀ a, ExceptAlike S (f a) (g a)) :
    ExceptAlike S (x >>= f) (x >>= g) :=
  (exceptAlike_refl x).bind fun a _ hab => hab ▸ hfg a

namespace Web

/-- The same headers, but for the values of one name. -/
abbrev Headers.SameBut (name : String) : Headers → Headers → Prop :=
  List.Forall₂ fun p q => p.1 = q.1 ∧ (p.1 ≠ name → p.2 = q.2)

/-- The same requests, but for the values of one header. -/
structure Request.SameBut (name : String) (q r : Request) : Prop where
  method : q.method = r.method
  url : q.url = r.url
  headers : q.headers.SameBut name r.headers
  body : q.body = r.body
  timeout : q.timeout = r.timeout

namespace Headers
variable {name : String} {g h : Headers}

theorem sameBut_refl (name : String) (h : Headers) : h.SameBut name h :=
  List.forall₂_same.2 fun _ _ => ⟨rfl, fun _ => rfl⟩

theorem SameBut.has (hgh : g.SameBut name h) (n : String) : g.has n = h.has n := by
  induction hgh with
  | nil => rfl
  | cons hpq _ ih => exact congrArg₂ (· || ·) (congrArg (· == n) hpq.1) ih

theorem SameBut.orElse (hgh : g.SameBut name h) (n v : String) :
    (Headers.orElse g n v).SameBut name (Headers.orElse h n v) := by
  unfold Headers.orElse
  rw [hgh.has n]
  split
  · exact hgh
  · exact List.rel_append hgh (sameBut_refl name _)

theorem SameBut.drop (hgh : g.SameBut name h) (n : String) :
    (Headers.drop g n).SameBut name (Headers.drop h n) := by
  induction hgh with
  | nil => exact .nil
  | cons hpq _ ih =>
    unfold Headers.drop
    rw [List.filter_cons, List.filter_cons, hpq.1]
    split
    · exact .cons hpq ih
    · exact ih

theorem SameBut.foldl {α : Type} {f : Headers → α → Headers} (hgh : g.SameBut name h) (xs : List α)
    (hf : ∀ {g h : Headers} (x : α), g.SameBut name h → (f g x).SameBut name (f h x)) :
    (xs.foldl f g).SameBut name (xs.foldl f h) := by
  induction xs generalizing g h with
  | nil => exact hgh
  | cons x xs ih => exact ih (hf x hgh)

theorem SameBut.keepFirst (hgh : g.SameBut name h) (n : String) :
    Headers.SameBut name (Headers.put.keepFirst n g) (Headers.put.keepFirst n h) := by
  induction hgh with
  | nil => exact .nil
  | @cons p q g h hpq hrest ih =>
    obtain ⟨m, v⟩ := p
    obtain ⟨_, w⟩ := q
    obtain ⟨rfl, hvalue⟩ := hpq
    rw [Headers.put.keepFirst, Headers.put.keepFirst]
    split
    · exact .cons ⟨rfl, hvalue⟩ (SameBut.drop hrest n)
    · exact .cons ⟨rfl, hvalue⟩ ih

theorem SameBut.put (hgh : g.SameBut name h) (n v : String) :
    (Headers.put g n v).SameBut name (Headers.put h n v) := by
  have hentries {g h : Headers} (hgh : g.SameBut name h) :
      Headers.SameBut name (Entries.put g n v) (Entries.put h n v) := by
    induction hgh with
    | nil => exact sameBut_refl name _
    | @cons p q g h hpq hrest ih =>
      obtain ⟨m, w⟩ := p
      obtain ⟨_, w'⟩ := q
      obtain ⟨rfl, hvalue⟩ := hpq
      rw [Entries.put, Entries.put]
      split
      · exact .cons ⟨rfl, fun _ => rfl⟩ hrest
      · exact .cons ⟨rfl, hvalue⟩ ih
  unfold Headers.put
  rw [hgh.has n]
  split
  · exact hentries (hgh.keepFirst n)
  · exact List.rel_append hgh (sameBut_refl name _)

end Headers

section
variable {name : String} {g h : Headers}

theorem complete_sameBut (method : String) (url : Url) (described : Headers)
    (hgh : g.SameBut name h) :
    (complete method url described g).SameBut name (complete method url described h) := by
  unfold complete
  dsimp only
  generalize hg : described.foldl _ g = g', hh : described.foldl _ h = h'
  have hdescribed : g'.SameBut name h' := by
    subst hg hh
    exact hgh.foldl described fun d hgh => hgh.orElse d.1 d.2
  rw [hdescribed.has, hdescribed.has, hdescribed.has]
  exact List.rel_append (Headers.sameBut_refl name _) hdescribed

theorem withCookies_sameBut (jar : Jar) (u : Url) (hgh : g.SameBut name h) :
    (withCookies jar u g).SameBut name (withCookies jar u h) := by
  unfold withCookies
  cases jar.header? u with
  | none => exact hgh
  | some line => exact hgh.orElse "cookie" line

theorem authorize_sameBut (u : Url) (hgh : g.SameBut name h) :
    (authorize u g).SameBut name (authorize u h) := by
  unfold authorize
  dsimp only
  split
  · exact hgh
  · exact hgh.put "authorization" _

/-- Drafts that say the same but for one header lead to such requests, or to the same fault. -/
theorem Draft.request_sameBut {given given' : List (String × String)}
    (hgiven : ExceptAlike (Headers.SameBut name) (given.mapM fun (n, v) => header n v)
      (given'.mapM fun (n, v) => header n v)) (d : Draft) (jar : Jar) :
    ExceptAlike (Request.SameBut name) ({ d with headers := given }.request jar)
      ({ d with headers := given' }.request jar) := by
  unfold Draft.request
  refine .bind_eq _ fun url => hgiven.bind fun g h hgh => .bind_eq _ fun query => ?_
  have hencoded (url : Url) : ∀ encoded : Headers × Text.Bytes,
      (complete d.method url encoded.1 (withCookies jar url g)).SameBut name
        (complete d.method url encoded.1 (withCookies jar url h)) := fun encoded =>
    complete_sameBut d.method url encoded.1 (withCookies_sameBut jar url hgh)
  cases query with
  | none =>
    refine .bind_eq (.ok url) fun url => .bind_eq _ fun e => ?_
    exact ⟨rfl, rfl, authorize_sameBut url (hencoded url e), rfl, rfl⟩
  | some q =>
    refine .bind_eq _ fun url => .bind_eq _ fun e => ?_
    exact ⟨rfl, rfl, authorize_sameBut url (hencoded url e), rfl, rfl⟩

theorem Request.SameBut.redirected {q r : Request} (hqr : q.SameBut name r)
    (status : Nat) (location : String) (jar : Jar) :
    ExceptAlike (fun _ _ => True) (q.redirected status location jar)
      (r.redirected status location jar) := by
  cases hurl : redirectUrl r.url location with
  | error f =>
    rw [redirected_eq_error status jar hurl, redirected_eq_error status jar (hqr.url ▸ hurl)]
    rfl
  | ok u =>
    obtain ⟨next, hnext⟩ :=
      redirected_eq_ok status jar (hqr.url ▸ hurl : redirectUrl q.url location = .ok u)
    obtain ⟨next', hnext'⟩ := redirected_eq_ok status jar hurl
    rw [hnext, hnext']
    trivial

end
end Web

namespace Coordinator
variable {C : Web.Request → Web.Request → Prop} {q r : Web.Request}

theorem exchange_twins (c : Web.Client) (hqr : C q r) (hurl : q.url = r.url) :
    Attempt.Twins C Eq (c.exchange q) (c.exchange r) := by
  unfold Web.Client.exchange
  have hexchange : Attempt.Twins C (fun x y : Except Fault Web.Response => x = y)
      (Attempt.perform (.exchange q)) (Attempt.perform (.exchange r)) :=
    .lift (.exchange hqr fun _ => .done rfl)
  refine hexchange.bind ?_
  rintro answer _ rfl
  refine (Attempt.twins_ofExcept (exceptAlike_refl answer)).bind_eq fun response => ?_
  rw [hurl]
  exact Attempt.twins_refl C _

theorem follow_twins {name : String} (hqr : C q r) (hsame : q.SameBut name r) (left : Nat) :
    Attempt.Twins C Eq (client.follow left q) (client.follow left r) := by
  cases left with
  | zero => exact Attempt.twins_refl C _
  | succ left =>
    rw [Web.Client.follow, Web.Client.follow]
    refine (exchange_twins client hqr hsame.url).bind_eq fun response => ?_
    cases response.location? with
    | none => exact Attempt.twins_refl C _
    | some location =>
      refine (Attempt.twins_refl C client.jar).bind_eq fun jar => ?_
      exact (Attempt.twins_ofExcept (hsame.redirected response.status location jar)).bind
        fun _ _ _ => Attempt.twins_refl C (pure response)

def secretHeader : String := "x-location-secret"

def Printable (secret : String) : Prop := ∀ c ∈ secret.toList, 32 ≤ c.toNat ∧ c.toNat < 127

instance (secret : String) : Decidable (Printable secret) := List.decidableBAll _ _

/-- One call of the coordinator as it is made under two settings: a fetch or the delivery of a
result, with nothing but the secret in its header to tell which settings it was. -/
inductive SameCall (s t : Settings) : Web.Request → Web.Request → Prop
  | fetch (k : Kind) (jar : Web.Jar) {q r : Web.Request} : (fetchDraft s k).request jar = .ok q →
    (fetchDraft t k).request jar = .ok r → q.SameBut secretHeader r → SameCall s t q r
  | deliver (k : Kind) (id : String) (result : Value) (jar : Web.Jar) {q r : Web.Request} :
    (resultDraft s k id result).request jar = .ok q →
      (resultDraft t k id result).request jar = .ok r →
    q.SameBut secretHeader r → SameCall s t q r

theorem SameCall.sameBut {s t : Settings} (h : SameCall s t q r) : q.SameBut secretHeader r := by
  cases h with
  | fetch _ _ _ _ hsame => exact hsame
  | deliver _ _ _ _ _ _ hsame => exact hsame

variable {s : Settings} {secret : String}

theorem header_secret (h : Printable secret) :
    Web.header secretHeader secret = .ok (secretHeader, secret) := by
  have hascii : secret.toList.all Text.isAscii = true :=
    List.all_eq_true.2 fun c hc => decide_eq_true (by have := h c hc; omega)
  have hname : secretHeader.toList.all Text.isAscii = true := by decide
  have hlower : Text.asciiLower secretHeader = secretHeader := by decide
  rw [Web.header, hname, hascii, hlower]
  rfl

theorem headers_sameBut (hs : Printable s.secret) (hsecret : Printable secret) :
    ExceptAlike (Web.Headers.SameBut secretHeader) (s.headers.mapM fun (n, v) => Web.header n v)
      ({ s with secret := secret }.headers.mapM fun (n, v) => Web.header n v) := by
  obtain ⟨rest, hrest⟩ : ∃ rest, ∀ secret,
      { s with secret := secret }.headers = (secretHeader, secret) :: rest :=
    ⟨s.headers.tail, fun _ => rfl⟩
  have hown : s.headers = (secretHeader, s.secret) :: rest := hrest s.secret
  have hfirst : ExceptAlike (fun p q => p.1 = q.1 ∧ (p.1 ≠ secretHeader → p.2 = q.2))
      (Web.header secretHeader s.secret) (Web.header secretHeader secret) := by
    rw [header_secret hs, header_secret hsecret]
    exact ⟨rfl, fun h => absurd rfl h⟩
  rw [hown, hrest secret, List.mapM_cons, List.mapM_cons]
  refine hfirst.bind fun p q hpq => .bind_eq (rest.mapM _) fun rest => ?_
  exact .cons hpq (Web.Headers.sameBut_refl _ rest)

theorem send_twins (hs : Printable s.secret) (hsecret : Printable secret) {method path : String}
    {parameters : Web.Parameters} {content : Web.Content}
    (hC : ∀ jar q r, (draft s method path parameters content).request jar = .ok q →
      (draft { s with secret := secret } method path parameters content).request jar = .ok r →
      q.SameBut secretHeader r → C q r) :
    Attempt.Twins C Eq (client.send (draft s method path parameters content))
      (client.send (draft { s with secret := secret } method path parameters content)) := by
  unfold Web.Client.send
  refine (Attempt.twins_refl C client.jar).bind_eq fun jar => ?_
  have hrequests : ExceptAlike (Web.Request.SameBut secretHeader)
      ((draft s method path parameters content).request jar)
      ((draft { s with secret := secret } method path parameters content).request jar) :=
    Web.Draft.request_sameBut (headers_sameBut hs hsecret)
      (draft s method path parameters content) jar
  generalize hq : (draft s method path parameters content).request jar = x at hrequests
  generalize hr : (draft { s with secret := secret } method path parameters content).request jar = y
    at hrequests
  cases x <;> cases y
  · obtain rfl : _ = _ := hrequests
    exact Attempt.twins_refl C _
  · exact hrequests.elim
  · exact hrequests.elim
  · exact follow_twins (hC jar _ _ hq hr hrequests) hrequests _

theorem call_twins (hs : Printable s.secret) (hsecret : Printable secret) {method path : String}
    {parameters : Web.Parameters} {content : Web.Content}
    (hC : ∀ jar q r, (draft s method path parameters content).request jar = .ok q →
      (draft { s with secret := secret } method path parameters content).request jar = .ok r →
      q.SameBut secretHeader r → C q r) :
    Attempt.Twins C Eq (call s method path parameters content)
      (call { s with secret := secret } method path parameters content) := by
  unfold call
  exact (Attempt.Twins.lift (send_twins hs hsecret hC).outcome).bind_eq fun sent =>
    Attempt.twins_refl C _

theorem fetch_twins (hs : Printable s.secret) (hsecret : Printable secret) (k : Kind) :
    Attempt.Twins (SameCall s { s with secret := secret }) Eq (fetch s k)
      (fetch { s with secret := secret } k) := by
  unfold fetch
  refine (call_twins hs hsecret fun jar q r hq hr hsame => ?_).bind_eq fun answer =>
    Attempt.twins_refl _ _
  exact .fetch k jar hq hr hsame

theorem deliver_twins (hs : Printable s.secret) (hsecret : Printable secret)
    (k : Kind) (id : String) (result : Value) :
    Attempt.Twins (SameCall s { s with secret := secret }) Eq (deliver s k id result)
      (deliver { s with secret := secret } k id result) := by
  unfold deliver
  refine (call_twins hs hsecret fun jar q r hq hr hsame => ?_).bind_eq fun answer =>
    Attempt.twins_refl _ _
  exact .deliver k id result jar hq hr hsame

end Coordinator
end TestWorker
