import TestWorker.Proofs.Action.Query
import TestWorker.Proofs.Placeholder.Separator

namespace TestWorker

namespace Placeholder
variable {c : Context} {s : String} {before after : List Segment} {t : Token} {v : Value}

/-- What comes of a text with a bound token: the value if the token is all of it, or else its text
in between. -/
theorem fill_around (hs : segments s = before ++ .token t :: after) (hv : c.get? t.name = some v) :
    before = [] ∧ after = [] ∧ fill c s = v ∨
    (before ≠ [] ∨ after ≠ []) ∧
      fill c s = .text (String.ofList (before.flatMap (Segment.fill c)) ++ spliced v ++
        String.ofList (after.flatMap (Segment.fill c))) := by
  by_cases halone : before = [] ∧ after = []
  · obtain ⟨rfl, rfl⟩ := halone
    refine .inl ⟨rfl, rfl, ?_⟩
    rw [List.nil_append] at hs
    simp [fill, hs, hv]
  · refine .inr ⟨not_and_or.1 halone, ?_⟩
    unfold fill
    split
    · next u hu =>
      rw [hs, List.append_eq_singleton_iff] at hu
      simp at hu
      exact absurd ⟨hu.1, hu.2.2⟩ halone
    · rw [hs]
      refine congrArg Value.text (String.toList_injective ?_)
      simp [Segment.fill, hv]

end Placeholder
namespace Action
open HttpCall (parameter ofParameters headersOf bodyOf methodOf content)
open Placeholder (Segment Token resolve segments spliced)
variable {σ : Type} {strict : Bool} {c : Context} {name v w d : Value}
  {n key x : String} {es q p : Entries}

/-- Where a step can put a text into its request. -/
inductive Place where
  | header (name : String)
  | parameter (name : String)
  | data
  deriving DecidableEq, Repr

/-- Texts, truth values and whole numbers. -/
def IsAtom : Value → Prop
  | .text _ | .bool _ | .int _ => True
  | _ => False

namespace Place

def entry? (p : Entries) (key x : String) : Option Value :=
  match Entries.get? p key with
  | some (.object es) => Entries.get? es x
  | _ => none

def value? (p : Entries) : Place → Option Value
  | header x => entry? p "headers" x
  | parameter x => entry? p "params" x
  | data => Entries.get? p "data"

def putEntry (p : Entries) (key x : String) (w : Value) : Entries :=
  match Entries.get? p key with
  | some (.object es) => Entries.put p key (.object (Entries.put es x w))
  | _ => p

def put (p : Entries) (w : Value) : Place → Entries
  | header x => putEntry p "headers" x w
  | parameter x => putEntry p "params" x w
  | data => Entries.put p "data" w

def text (w : Value) : Place → String
  | header _ => spliced w
  | parameter _ => Web.Query.valueText w
  | data => w.display

/-- The request has the text at the place. A header gives way to a user and password in the
address. -/
def Carries (r : Web.Request) (t : String) : Place → Prop
  | header x => ¬r.url.Claims x → (Text.asciiLower x, t) ∈ r.headers
  | parameter x => (x, t) ∈ r.url.pairs
  | data => r.body = Text.utf8Bytes t

variable {place : Place}

theorem text_text (place : Place) (s : String) : place.text (.text s) = s := by cases place <;> rfl

theorem text_eq_spliced_iff (hv : IsAtom v) (place : Place) :
    place.text v = spliced v ↔ ¬(place = data ∧ ∃ b, v = .bool b) := by
  cases v with
  | text s => simp [text_text, spliced]
  | int i =>
    refine iff_of_true ?_ (by simp)
    cases place <;> rfl
  | bool b =>
    cases place with
    | header x => exact iff_of_true rfl (by simp)
    | parameter x => exact iff_of_true (by cases b <;> rfl) (by simp)
    | data => exact iff_of_false (by cases b <;> decide +kernel) (by simp)
  | _ => cases hv

theorem entry?_eq_some : entry? p key x = some w ↔
    ∃ es, Entries.get? p key = some (.object es) ∧ Entries.get? es x = some w := by
  unfold entry?
  constructor
  · intro h
    split at h
    · next es hes => exact ⟨es, hes, h⟩
    · cases h
  · rintro ⟨es, hes, hw⟩
    rw [hes]
    exact hw

theorem putEntry_eq (hes : Entries.get? p key = some (.object es)) :
    putEntry p key x w = Entries.put p key (.object (Entries.put es x w)) := by
  rw [putEntry, hes]

theorem entry?_filled (hes : resolve strict c (.object es) = .ok (.object q))
    (hbuild : build name (.object q) = .ok (.http n p)) (hkey : key ≠ "method")
    (hd : entry? es key x = some d) :
    ∃ w, resolve strict c d = .ok w ∧ entry? p key x = some w := by
  obtain ⟨fs, hfs, hd⟩ := entry?_eq_some.1 hd
  obtain ⟨u, hu, hq⟩ := Placeholder.resolve_entry hes hfs
  have hobject := Placeholder.resolve_eq_ok hu
  rw [Placeholder.substitute_object] at hobject
  subst hobject
  obtain ⟨w, hw, hentry⟩ := Placeholder.resolve_entry hu hd
  exact ⟨w, hw, entry?_eq_some.2 ⟨_, by rw [build_get? hbuild hkey, hq], hentry⟩⟩

theorem value?_filled (hes : resolve strict c (.object es) = .ok (.object q))
    (hbuild : build name (.object q) = .ok (.http n p)) (hd : place.value? es = some d) :
    ∃ w, resolve strict c d = .ok w ∧ place.value? p = some w := by
  cases place with
  | header x => exact entry?_filled hes hbuild (by decide) hd
  | parameter x => exact entry?_filled hes hbuild (by decide) hd
  | data =>
    obtain ⟨w, hw, hq⟩ := Placeholder.resolve_entry hes hd
    exact ⟨w, hw, (build_get? hbuild (by decide)).trans hq⟩

def headerOf (w : Value) : Option String := if w.isNull then none else some (spliced w)

theorem headersOf_object (es : Entries) : headersOf (.object es) =
    .ok ((es.map fun e => (e.1, headerOf e.2)).filterMap fun e => e.2.map (e.1, ·)) := by
  have hlist : ∀ es : Entries, (es.filter fun e => !e.2.isNull).map (fun e => (e.1, spliced e.2)) =
      (es.map fun e => (e.1, headerOf e.2)).filterMap fun e => e.2.map (e.1, ·) := by
    intro es
    induction es with
    | nil => rfl
    | cons e es ih => cases hnull : e.2.isNull <;> simp [headerOf, hnull, ih]
  unfold headersOf
  cases es with
  | nil => rfl
  | cons e es =>
    rw [← hlist]
    rfl

theorem headerOf_atom (hw : IsAtom w) : headerOf w = some (spliced w) := by
  cases w with
  | text _ | bool _ | int _ => rfl
  | _ => cases hw

theorem valuesOf_atom (hw : IsAtom w) : Web.Query.valuesOf w = [Web.Query.valueText w] := by
  cases w with
  | text _ | bool _ | int _ => rfl
  | _ => cases hw

theorem bodyOf_atom (hw : IsAtom w) : bodyOf w = .text w.display := by
  cases w with
  | text _ | bool _ | int _ => rfl
  | _ => cases hw

/-- A request that is made of the parameters has what they give at the place, as the place writes
it. -/
theorem carries {jar : Web.Jar} {r : Web.Request} (hw : place.value? p = some w) (hatom : IsAtom w)
    (hr : HttpCall.request? p jar = some r) : place.Carries r (place.text w) := by
  cases place with
  | header x =>
    obtain ⟨es, hes, hx⟩ := entry?_eq_some.1 hw
    obtain ⟨call, hcall, hrequest⟩ := HttpCall.of_request? hr
    have hheaders := (HttpCall.given_of_ofParameters hcall).1
    rw [HttpCall.parameter_of_get? hes, headersOf_object] at hheaders
    have hgiven : (x, spliced w) ∈ call.headers := by
      rw [← Except.ok.inj hheaders, List.filterMap_map]
      refine List.mem_filterMap.2 ⟨(x, w), Entries.mem_of_get? hx, ?_⟩
      simp [headerOf_atom hatom]
    exact Web.Draft.request_header hrequest hgiven
  | parameter x =>
    obtain ⟨es, hes, hx⟩ := entry?_eq_some.1 hw
    have hsome : es ≠ [] := by
      rintro rfl
      cases hx
    obtain ⟨u, -, hpairs⟩ := HttpCall.request?_pairs (HttpCall.parameter_of_get? hes) hr
    rw [if_neg hsome] at hpairs
    show (x, Web.Query.valueText w) ∈ r.url.pairs
    rw [hpairs, Web.Query.pairs, Web.Query.ofEntries, List.flatMap_map]
    refine List.mem_flatMap.2 ⟨(x, w), Entries.mem_of_get? hx, ?_⟩
    simp [valuesOf_atom hatom]
  | data =>
    obtain ⟨call, hcall, hrequest⟩ := HttpCall.of_request? hr
    have hbody : call.body = .text w.display := by
      rw [(HttpCall.of_ofParameters hcall).2, HttpCall.content_of_data hw, bodyOf_atom hatom]
    obtain ⟨-, -, -, described, -, -, -, -, hencode, -⟩ := Web.Draft.request_eq_ok hrequest
    have hraw : (call.draft (HttpCall.parameter p "url")).content =
        .raw (Text.utf8Bytes w.display) := by
      rw [HttpCall.draft, hbody]
    rw [hraw, Web.Content.encode] at hencode
    exact (Prod.mk.inj (Except.ok.inj hencode)).2.symm

end Place

/-- Parameters that say the same of each part of a request make the same action. -/
theorem run_congr {p' : Entries} (hurl : HttpCall.parameter p' "url" = HttpCall.parameter p "url")
    (hmethod : methodOf p' = methodOf p)
    (htimeout : HttpCall.parameter p' "timeout" = HttpCall.parameter p "timeout")
    (hheaders : headersOf (HttpCall.parameter p' "headers") =
      headersOf (HttpCall.parameter p "headers"))
    (hquery : (HttpCall.queryFrom p').query = (HttpCall.queryFrom p).query)
    (hbody : bodyOf (content p') = bodyOf (content p)) (e : Equipment) (n : String) (c : Context) :
    (http n p').run e c = (http n p).run e c := by
  have hsend : (Attempt.ofExcept (ofParameters p') >>= fun call =>
        e.client.send (call.draft (HttpCall.parameter p "url"))) =
      Attempt.ofExcept (ofParameters p) >>= fun call =>
        e.client.send (call.draft (HttpCall.parameter p "url")) := by
    rw [HttpCall.ofParameters_congr hheaders hmethod htimeout, hbody]
    cases hcall : ofParameters p with
    | error fault => rfl
    | ok call =>
      have hrequest : ∀ jar,
          ({ call with params := HttpCall.paramsOf p', body := bodyOf (content p) }.draft
            (HttpCall.parameter p "url")).request jar =
          (call.draft (HttpCall.parameter p "url")).request jar := by
        intro jar
        rw [← (HttpCall.of_ofParameters hcall).2]
        unfold Web.Draft.request
        rw [HttpCall.parameters_of_ofParameters hcall, ← hquery]
        rfl
      show e.client.send _ = e.client.send _
      unfold Web.Client.send
      simp only [hrequest]
  have hattempt : ∀ started, attemptHttp n e.client p' started =
      attemptHttp n e.client p started := by
    intro started
    unfold attemptHttp
    simp only [hurl, hmethod, hsend]
  have hwork : (http n p').work e = (http n p).work e := by
    funext started
    exact congrArg Work.of (hattempt started)
  unfold run
  rw [hwork]
  rfl

section
variable {p' : Entries}

theorem HttpCall.Put.content_of_ne (h : Put p key w p') (hdata : key ≠ "data")
    (hbody : key ≠ "body") :
    HttpCall.content p' = HttpCall.content p := by
  rw [content, content, h.others _ hdata.symm, h.others _ hbody.symm]

theorem HttpCall.Put.queryFrom_of_ne (h : Put p key w p') (hkey : key ≠ "params") :
    queryFrom p' = queryFrom p := by
  rw [queryFrom, queryFrom, paramsOf, paramsOf, h.parameter_of_ne hkey.symm]

end

/-- The text that a place makes of a value can be given in the value's stead. -/
theorem Place.run_put {place : Place} (hw : place.value? p = some w)
    (hatom : IsAtom w) (e : Equipment) (n : String) (c : Context) :
    (http n (place.put p (.text (place.text w)))).run e c = (http n p).run e c := by
  have htext : ∀ t, IsAtom (.text t) := fun _ => trivial
  cases place with
  | header x =>
    obtain ⟨es, hes, hx⟩ := entry?_eq_some.1 hw
    have hput := HttpCall.put_self p "headers" (.object (Entries.put es x (.text (spliced w))))
    have hp : (header x).put p (.text ((header x).text w)) =
        Entries.put p "headers" (.object (Entries.put es x (.text (spliced w)))) := putEntry_eq hes
    have hheader : headerOf (.text (spliced w)) = headerOf w := by
      rw [headerOf_atom (htext _), headerOf_atom hatom]
      rfl
    rw [hp]
    refine run_congr (hput.parameter_of_ne (by decide)) (hput.methodOf (by decide))
      (hput.parameter_of_ne (by decide)) ?_ (congrArg _ (hput.queryFrom_of_ne (by decide)))
      (congrArg _ (hput.content_of_ne (by decide) (by decide))) e n c
    rw [hput.parameter_eq, HttpCall.parameter_of_get? hes, headersOf_object, headersOf_object,
      Entries.map_put_of_get? hx hheader]
  | parameter x =>
    obtain ⟨es, hes, hx⟩ := entry?_eq_some.1 hw
    have hput :=
      HttpCall.put_self p "params" (.object (Entries.put es x (.text (Web.Query.valueText w))))
    have hp : (parameter x).put p (.text ((parameter x).text w)) =
        Entries.put p "params" (.object (Entries.put es x (.text (Web.Query.valueText w)))) :=
          putEntry_eq hes
    have hvalues : Web.Query.valuesOf (.text (Web.Query.valueText w)) = Web.Query.valuesOf w := by
      rw [valuesOf_atom (htext _), valuesOf_atom hatom]
      rfl
    have hsome : ∀ {fs : Entries} {u : Value}, Entries.get? fs x = some u → fs ≠ [] := by
      rintro fs u hu rfl
      cases hu
    have hbefore := hsome hx
    have hafter :=
      hsome ((Entries.get?_put es x (.text (Web.Query.valueText w)) x).trans (if_pos rfl))
    rw [hp]
    refine run_congr (hput.parameter_of_ne (by decide)) (hput.methodOf (by decide))
      (hput.parameter_of_ne (by decide)) (congrArg _ (hput.parameter_of_ne (by decide))) ?_
      (congrArg _ (hput.content_of_ne (by decide) (by decide))) e n c
    rw [HttpCall.queryFrom_object hput.parameter_eq,
      HttpCall.queryFrom_object (HttpCall.parameter_of_get? hes),
      if_neg hafter, if_neg hbefore, Web.Parameters.query_object hafter,
      Web.Parameters.query_object hbefore,
      Web.Query.ofEntries, Web.Query.ofEntries, Entries.map_put_of_get? hx hvalues]
  | data =>
    have hput := HttpCall.put_self p "data" (.text w.display)
    refine run_congr (hput.parameter_of_ne (by decide)) (hput.methodOf (by decide))
      (hput.parameter_of_ne (by decide)) (congrArg _ (hput.parameter_of_ne (by decide)))
      (congrArg _ (hput.queryFrom_of_ne (by decide))) ?_ e n c
    rw [HttpCall.content_of_data hput.given, HttpCall.content_of_data hw,
      bodyOf_atom (htext _), bodyOf_atom hatom]
    rfl

/-- What a placeholder brings to a place of the first request, whether it stands there alone or in a
longer text: the text that a place makes of the value where it is alone, and the text that is put in
between where it is not. The two differ for a truth value that is data, and for no other. A step
with the resulting text itself at the place would do the same. -/
theorem placeholder_sent {place : Place} {k s : String} {before after : List Segment}
    {t : Token} (hv : c.get? k = some v) (hatom : IsAtom v)
    (hes : resolve strict c (.object es) = .ok (.object q))
    (hbuild : build name (.object q) = .ok (.http n p)) (hplace : place.value? es = some (.text s))
    (hs : segments s = before ++ .token t :: after) (hname : t.name = k) :
    let brought := if before = [] ∧ after = [] then place.text v else spliced v
    let sent := String.ofList (before.flatMap (Segment.fill c)) ++ brought ++
      String.ofList (after.flatMap (Segment.fill c))
    (place.text v = spliced v ↔ ¬(place = .data ∧ ∃ b, v = .bool b)) ∧
    (∀ e c', (http n p).run e c' = (http n (place.put p (.text sent))).run e c') ∧
    ∀ (e : Equipment) (c' : Context) (o : Outside σ) (now : Instant) (x : σ),
      let traffic := exchanges (((http n p).run e c').trace o now x)
      (HttpCall.Ready p → (HttpCall.IsTree (content p) → Json.Sayable (content p)) → traffic ≠ []) ∧
      ∀ r answer later, traffic = (r, answer) :: later → place.Carries r sent := by
  subst hname
  dsimp only
  obtain ⟨w, hw, hgiven⟩ := Place.value?_filled hes hbuild hplace
  have hfill : w = Placeholder.fill c s := Placeholder.resolve_eq_ok hw
  -- alone or not, an atom comes to the place, and the place makes the text of it
  have hwritten : IsAtom w ∧ place.text w = String.ofList (before.flatMap (Segment.fill c)) ++
      (if before = [] ∧ after = [] then place.text v else spliced v) ++
      String.ofList (after.flatMap (Segment.fill c)) := by
    rcases Placeholder.fill_around hs hv with ⟨rfl, rfl, halone⟩ | ⟨haround, hlong⟩
    · rw [hfill, halone]
      exact ⟨hatom, by simp⟩
    · rw [hfill, hlong, Place.text_text, if_neg (not_and_or.2 haround)]
      exact ⟨trivial, rfl⟩
  obtain ⟨hwatom, htext⟩ := hwritten
  rw [← htext]
  refine ⟨Place.text_eq_spliced_iff hatom place,
    fun e c' => (Place.run_put hgiven hwatom e n c').symm, ?_⟩
  intro e c' o now x
  refine ⟨fun hready hbody => ?_, fun r answer later hsent => ?_⟩
  · obtain ⟨r, answer, later, hsent⟩ := hready.sends (n := n) hbody e c' o now x
    rw [hsent]
    exact List.cons_ne_nil _ _
  · exact Place.carries hgiven hwatom (first_request.1 ⟨answer, later, hsent⟩)

def flags : Context := ⟨[(.text "flag", .bool true)]⟩

def flagging (header data : String) : Entries :=
  [("url", .text "https://api.test/x"), ("headers", .object [("X-Flag", .text header)]),
    ("data", .text data)]

def flagged (header data : String) : Entries :=
  Entries.put ((flagging header data).map fun e => (e.1, Placeholder.substitute flags e.2))
    "method" (.text "POST")

def flaggedRequests (header data : String) : List Web.Request :=
  (exchanges (((http "Http.post" (flagged header data)).run ⟨⟨none, false⟩, []⟩ flags).trace
    Rehearsal.outside 0 {})).map (·.1)

theorem placeholder_sent_header :
    ∃ r ∈ flaggedRequests (Placeholder.whole "flag") "on", ("x-flag", "true") ∈ r.headers := by
  have hfilled : resolve false flags (.object (flagging (Placeholder.whole "flag") "on")) = .ok _ :=
    congrArg Except.ok (Placeholder.substitute_object flags _)
  have hbuild : build (.text "Http.post") (.object _) =
      .ok (.http "Http.post" (flagged (Placeholder.whole "flag") "on")) := build_post _
  have hplace : Place.value? (flagging (Placeholder.whole "flag") "on") (.header "X-Flag") =
      some (.text (Placeholder.whole "flag")) := rfl
  have hsegments : segments (Placeholder.whole "flag") =
    [] ++ .token ⟨[], "flag".toList, []⟩ :: [] :=
    Placeholder.segments_whole (by decide) (List.all_eq_true.1 (by decide +kernel))
  have hflag : flags.get? "flag" = some (.bool true) := rfl
  obtain ⟨-, -, hsent⟩ :=
    placeholder_sent hflag trivial hfilled hbuild hplace hsegments (by decide +kernel)
  obtain ⟨hsome, hfirst⟩ := hsent ⟨⟨none, false⟩, []⟩ flags Rehearsal.outside 0 {}
  have hready : HttpCall.Ready (flagged (Placeholder.whole "flag") "on") :=
    Test.ready_of_isOk (by decide +kernel) (by decide +kernel)
  have htokens : Placeholder.tokens "on" = [] := by decide +kernel
  have hcontent : content (flagged (Placeholder.whole "flag") "on") = .text "on" :=
    HttpCall.content_of_data (congrArg some (Placeholder.fill_of_unbound (by simp [htokens])))
  obtain ⟨⟨r, answer⟩, later, hlist⟩ := List.exists_cons_of_ne_nil (hsome hready (by
    rw [hcontent]
    exact False.elim))
  refine ⟨r, ?_, ?_⟩
  · rw [flaggedRequests, hlist]
    exact List.mem_cons_self
  · have hclaims : ¬r.url.Claims "X-Flag" := fun h => absurd h.1 (by decide +kernel)
    exact hfirst r answer later hlist hclaims

/-- Data that is a flag alone is written otherwise than a flag in a longer text, and than a
header. -/
theorem flag_as_data :
    Placeholder.spliced (.bool true) = "true" ∧
    (flaggedRequests (Placeholder.whole "flag") (Placeholder.whole "flag")).map
      (fun r => (r.headers.get? "x-flag", r.body)) = [(some "true", Text.utf8Bytes "True")] ∧
    (flaggedRequests "on" ("is " ++ Placeholder.whole "flag")).map (·.body) =
      [Text.utf8Bytes "is true"] := by
  decide +kernel

end Action
end TestWorker
