import TestWorker.Proofs.Action.Parameter
import TestWorker.Proofs.Json.RoundTrip
import TestWorker.Proofs.Placeholder.Separator
import TestWorker.Proofs.Test.Scope

namespace TestWorker

namespace Json

theorem Recoverable.sayable {v : Value} (h : Recoverable v) : Sayable v := by
  induction h with
  | null => exact .null
  | bool b => exact .bool b
  | int _ => exact .int _
  | text s => exact .text s
  | list _ ih => exact .list ih
  | object _ _ ih => exact .object ih

theorem recoverable_single {x : String} {v : Value} (h : Recoverable v) :
    Recoverable (.object [(x, v)]) :=
  .object (List.nodup_singleton x) (by simpa using h)

def isPlain (c : Char) : Bool := c != '"' && c != '\\' && 32 ≤ c.toNat

theorem escape_of_isPlain {c : Char} (h : isPlain c = true) : escape c = [c] := by
  simp only [isPlain, Bool.and_eq_true, bne_iff_ne, decide_eq_true_eq] at h
  obtain ⟨⟨hquote, hslash⟩, hlow⟩ := h
  have hne : ∀ d : Char, d.toNat < 32 → c ≠ d := by
    rintro d hd rfl
    omega
  have hcode : ∀ n < 32, c.toNat ≠ n := fun n hn => by omega
  simp [escape, hquote, hslash, hne '\n' (by decide), hne '\r' (by decide), hne '\t' (by decide),
    hcode 8 (by decide), hcode 12 (by decide), Nat.not_lt.2 hlow]

theorem string_of_isPlain {s : String} (h : ∀ c ∈ s.toList, isPlain c = true) :
    (string s).toList = '"' :: (s.toList ++ ['"']) := by
  have hsame : s.toList.flatMap escape = s.toList := by
    rw [List.flatMap_def, List.map_congr_left fun c hc => escape_of_isPlain (h c hc),
      ← List.flatMap_def, List.flatMap_singleton']
  rw [toList_string, hsame]

end Json

namespace Placeholder

/-- A field with the placeholder of a key as its value. -/
def fieldOf (x k : String) : Value := .object [(x, .text (whole k))]

/-- The text of an object with one field, where the placeholder stands for the value's text. -/
def fieldText (x k : String) : Value := .text ("\x7b\"" ++ x ++ "\": " ++ whole k ++ "\x7d")

variable {c : Context} {k x : String} {v : Value}

theorem resolve_fieldOf (hk : k ≠ "") (hkey : ∀ ch ∈ k.toList, isKeyChar ch = true)
    (hv : c.get? k = some v) (strict : Bool) :
    resolve strict c (fieldOf x k) = .ok (.object [(x, v)]) := by
  have hempty : resolve strict c (.object []) = .ok (.object []) := by cases strict <;> rfl
  have hwhole : resolve strict c (.text (whole k)) = .ok v := by
    rw [resolve_whole hk hkey, hv]
    rfl
  exact resolve_put hempty hwhole

theorem segments_of_tokens_eq_nil {s : String} (h : tokens s = []) :
    segments s = s.toList.map .plain := by
  have hall : ∀ segs : List Segment, segs.filterMap Segment.token? = [] →
      segs = (segs.flatMap Segment.written).map .plain := by
    intro segs hsegs
    induction segs with
    | nil => rfl
    | cons seg segs ih =>
      cases seg with
      | plain ch => exact congrArg (.plain ch :: ·) (ih hsegs)
      | token t => cases hsegs
  have hwritten : (segments s).flatMap Segment.written = s.toList := flatMap_written_split s.toList
  have hplain := hall (segments s) (by rw [← tokens_eq, h])
  rwa [hwritten] at hplain

/-- The quotes part the text, so that the braces before them and those of the name come to
nothing. -/
theorem segments_fieldText (hk : k ≠ "") (hkey : ∀ ch ∈ k.toList, isKeyChar ch = true)
    (hx : tokens x = []) :
    segments ("\x7b\"" ++ x ++ "\": " ++ whole k ++ "\x7d") =
      ("\x7b\"" ++ x ++ "\": ").toList.map .plain ++
        [.token ⟨[], k.toList, []⟩, .plain '\x7d'] := by
  have hformed : Token.Formed ⟨[], k.toList, []⟩ := ⟨by simp, hkey, by simp, by simpa using hk⟩
  have hlist : ("\x7b\"" ++ x ++ "\": " ++ whole k ++ "\x7d").toList =
      ['\x7b'] ++ '"' :: (x.toList ++ '"' ::
        ([] ++ ':' :: ' ' :: (Token.written ⟨[], k.toList, []⟩ ++ ['\x7d']))) := by
    simp [whole, Token.written]
  have hopen : split ['\x7b'] = [.plain '\x7b'] := by rw [split_of_unread rfl, split]
  have hclose : split ['\x7d'] = [.plain '\x7d'] := by rw [split_of_unread rfl, split]
  have hblank : ∀ cs, split (' ' :: cs) = .plain ' ' :: split cs := fun cs => split_of_unread rfl
  have htoken : split (Token.written ⟨[], k.toList, []⟩ ++ ['\x7d']) =
      [.token ⟨[], k.toList, []⟩, .plain '\x7d'] := by
    rw [split_written hformed, hclose]
  have hname : split x.toList = x.toList.map .plain := segments_of_tokens_eq_nil hx
  have hquote : separates '"' = true := by decide
  have hcolon : separates ':' = true := by decide
  unfold segments
  rw [hlist, split_append_separator hquote, split_append_separator hquote,
    split_append_separator hcolon, hopen, hname, hblank, htoken, split]
  simp

theorem tokens_fieldText (hk : k ≠ "") (hkey : ∀ ch ∈ k.toList, isKeyChar ch = true)
    (hx : tokens x = []) :
    tokens ("\x7b\"" ++ x ++ "\": " ++ whole k ++ "\x7d") = [⟨[], k.toList, []⟩] := by
  have hnone : ∀ cs : List Char, (cs.map Segment.plain).filterMap Segment.token? = [] := by
    intro cs
    rw [List.filterMap_map]
    exact List.filterMap_eq_nil_iff.2 fun _ _ => rfl
  rw [tokens_eq, segments_fieldText hk hkey hx, List.filterMap_append, hnone]
  rfl

/-- Filled in, the text is the JSON text of the object, for a value that is no text itself. -/
theorem resolve_fieldText (hk : k ≠ "") (hkey : ∀ ch ∈ k.toList, isKeyChar ch = true)
    (hx : tokens x = []) (hplain : ∀ ch ∈ x.toList, Json.isPlain ch = true)
    (hv : c.get? k = some v) (htext : ∀ s, v ≠ .text s) (strict : Bool) :
    resolve strict c (fieldText x k) = .ok (.text (Json.text Json.spaced (.object [(x, v)]))) := by
  have hname : (⟨[], k.toList, []⟩ : Token).name = k := String.ofList_toList
  have hspliced : spliced v = Json.text Json.spaced v := by
    cases v with
    | text s => exact absurd rfl (htext s)
    | _ => rfl
  have hsegments := segments_fieldText hk hkey hx
  have hfill : substitute c (fieldText x k) = .text (Json.text Json.spaced (.object [(x, v)])) := by
    have hlast : segments ("\x7b\"" ++ x ++ "\": " ++ whole k ++ "\x7d") =
        (("\x7b\"" ++ x ++ "\": ").toList.map .plain ++ [.token ⟨[], k.toList, []⟩]) ++
          .plain '\x7d' :: [] := by
      rw [hsegments, List.append_assoc]
      rfl
    have hliteral : ∀ cs : List Char, (cs.map Segment.plain).flatMap (Segment.fill c) = cs := by
      intro cs
      rw [List.flatMap_map]
      exact List.flatMap_singleton' cs
    rw [fieldText, substitute_text, fill_of_plain hlast, hsegments, List.flatMap_append, hliteral]
    refine congrArg Value.text (String.toList_injective ?_)
    rw [Json.toList_text_object, Json.entryTexts, Json.entryTexts, String.intercalate_singleton]
    simp [Segment.fill, hname, hv, hspliced, Json.string_of_isPlain hplain, Json.spaced]
  refine resolve_eq_ok_iff.2 ⟨hfill.symm, fun _ t ht => ?_⟩
  obtain rfl : t = ⟨[], k.toList, []⟩ := by
    simpa [documentTokens, fieldText, leafTexts, tokens_fieldText hk hkey hx] using ht
  rw [unbound, hname, hv]
  rfl

end Placeholder

namespace Action
open HttpCall (parameter bodyOf)
open Placeholder (fieldOf fieldText isKeyChar resolve tokens)
variable {σ : Type} {c : Context} {x k : String} {v w : Value}

/-- Sent as data, the value makes a body that says the other value. -/
def HttpCall.Conveys (w said : Value) : Prop :=
  ∀ (call : HttpCall) (url : Value), ∃ described body,
    ({ call with body := bodyOf w }.draft url).content.encode = .ok (described, body) ∧
      Json.readBytes body = .ok said

theorem conveys_object (h : Json.Recoverable v) :
    HttpCall.Conveys (.object [(x, v)]) (.object [(x, v)]) := by
  intro call url
  obtain ⟨described, hencode⟩ := Web.Content.encode_json (Json.recoverable_single h).sayable
  exact ⟨described, _, hencode,
    Json.readBytes_text Json.plain_compact (Json.recoverable_single h) (List.cons_ne_nil _ _)⟩

theorem conveys_text (h : Json.Recoverable v) :
    HttpCall.Conveys (.text (Json.text Json.spaced (.object [(x, v)]))) (.object [(x, v)]) :=
  fun _ _ => ⟨_, _, rfl,
    Json.readBytes_text Json.plain_spaced (Json.recoverable_single h) (List.cons_ne_nil _ _)⟩

/-- What the data says is in the first request, and in the response of a target that sends the body
back. -/
theorem data_echoed {n : String} {p : Entries} {said : Value}
    (hready : HttpCall.Ready p) (hdata : Entries.get? p "data" = some w)
    (hw : HttpCall.Conveys w said) (e : Equipment) (o : Outside σ) (now : Instant) (s : σ) :
    ∃ r answer later, exchanges (((http n p).run e c).trace o now s) = (r, answer) :: later ∧
      Json.readBytes r.body = .ok said ∧
      ∀ last response, e.client.final? (exchanges (((http n p).run e c).trace o now s)) =
          some (last, response) → Web.Located last response → response.body = r.body →
        (((http n p).run e c).run o now s).1.1.response = .object (response.shown said) := by
  obtain ⟨call, hcall, -⟩ := hready.fit
  have hbody : call = { call with body := bodyOf w } := by
    have h := (HttpCall.of_ofParameters hcall).2
    rw [HttpCall.content_of_data hdata] at h
    rw [← h]
  obtain ⟨described, body, hencode, hsaid⟩ := hw call (parameter p "url")
  rw [← hbody] at hencode
  obtain ⟨r, hr, hrbody⟩ := hready.request? hcall hencode (e.client.remembered o now s)
  obtain ⟨answer, later, hsent⟩ := first_request.2 hr
  obtain ⟨y, hconcludes, hjudges⟩ := http_judges e n p c o now s
  refine ⟨r, answer, later, hsent, hrbody ▸ hsaid, ?_⟩
  intro last response hfinal hlocated hecho
  have hy := (hconcludes.result response).2 ⟨last, hfinal, hlocated⟩
  have hreads : response.Reads said := .inl (by rw [hecho, hrbody, hsaid])
  exact (hjudges.legible response said hy hreads).2

/-- A variable in a tree and the variable in the text of the tree make the same JSON body, for every
value that JSON gives back and that is no text itself. The step is filled in and built both ways if
it is without the data. If a request can be made of the rest, its body says the field with the
value, and if the target sends the body back, so does the data of the response. -/
theorem json_bodies_agree {strict : Bool} {name : Value} {n : String}
    {es q p : Entries} (hk : k ≠ "") (hkey : ∀ ch ∈ k.toList, isKeyChar ch = true)
    (hv : c.get? k = some v) (hrec : Json.Recoverable v) (htext : ∀ s, v ≠ .text s)
    (hx : tokens x = []) (hplain : ∀ ch ∈ x.toList, Json.isPlain ch = true)
    (hes : resolve strict c (.object es) = .ok (.object q))
    (hbuild : build name (.object q) = .ok (.http n p)) (hready : HttpCall.Ready p)
    (data : Value) (hdata : data ∈ [fieldOf x k, fieldText x k]) :
    ∃ q' p', resolve strict c (.object (Entries.put es "data" data)) = .ok (.object q') ∧
      build name (.object q') = .ok (.http n p') ∧
      ∀ (e : Equipment) (o : Outside σ) (now : Instant) (s : σ),
        ∃ r answer later, exchanges (((http n p').run e c).trace o now s) = (r, answer) :: later ∧
          Json.readBytes r.body = .ok (.object [(x, v)]) ∧
          ∀ last response, e.client.final? (exchanges (((http n p').run e c).trace o now s)) =
              some (last, response) → Web.Located last response → response.body = r.body →
            (((http n p').run e c).run o now s).1.1.response =
              .object (response.shown (.object [(x, v)])) := by
  have hfilled : ∃ w, resolve strict c data = .ok w ∧ HttpCall.Conveys w (.object [(x, v)]) := by
    rcases List.mem_pair.1 hdata with rfl | rfl
    · exact ⟨_, Placeholder.resolve_fieldOf hk hkey hv strict, conveys_object hrec⟩
    · exact ⟨_, Placeholder.resolve_fieldText hk hkey hx hplain hv htext strict, conveys_text hrec⟩
  obtain ⟨w, hw, hconveys⟩ := hfilled
  obtain ⟨p', hbuild', hput⟩ := build_put hbuild (by decide : "data" ≠ "method") w
  refine ⟨_, p', Placeholder.resolve_put hes hw, hbuild', fun e o now s => ?_⟩
  exact data_echoed (hready.put_data hput) hput.given hconveys e o now s

def nested : Value :=
  .list [.null, .int (-12), .text "é\n\"", .object [("a", .bool true), ("b", .list [])]]

theorem recoverable_nested : Json.Recoverable nested := by
  refine .list ?_
  simp only [List.forall_mem_cons, List.not_mem_nil, false_implies, implies_true, and_true]
  refine ⟨.null, .int (by decide), .text _, .object (by decide) ?_⟩
  simp only [List.forall_mem_cons, List.not_mem_nil, false_implies, implies_true, and_true]
  exact ⟨.bool true, .list (by simp)⟩

def postEntries : Entries := [("url", .text "https://api.test/x")]

def SaysNested (data : Value) : Prop := ∃ q' p',
  resolve true ⟨[(.text "k", nested)]⟩ (.object (Entries.put postEntries "data" data)) =
    .ok (.object q') ∧
  build (.text "Http.post") (.object q') = .ok (.http "Http.post" p') ∧
  ∃ r answer later, exchanges (((http "Http.post" p').run ⟨⟨none, false⟩, []⟩
      ⟨[(.text "k", nested)]⟩).trace Rehearsal.outside 0 {}) = (r, answer) :: later ∧
    Json.readBytes r.body = .ok (.object [("\x7b\x7ba", nested)])

/-- The braces of the name stand open, and find no partner in the text around it. -/
theorem json_bodies_agree_nested :
    SaysNested (fieldOf "\x7b\x7ba" "k") ∧ SaysNested (fieldText "\x7b\x7ba" "k") := by
  have hes : resolve true ⟨[(.text "k", nested)]⟩ (.object postEntries) =
      .ok (.object postEntries) := by
    cbv
  have hready : HttpCall.Ready (Entries.put postEntries "method" (.text "POST")) :=
    Test.ready_of_isOk (by decide +kernel) (by decide +kernel)
  have hkey : ∀ ch ∈ "k".toList, isKeyChar ch = true := List.all_eq_true.1 (by decide +kernel)
  have hplain : ∀ ch ∈ "\x7b\x7ba".toList, Json.isPlain ch = true :=
    List.all_eq_true.1 (by decide +kernel)
  have hboth : ∀ data ∈ [fieldOf "\x7b\x7ba" "k", fieldText "\x7b\x7ba" "k"], SaysNested data := by
    intro data hdata
    obtain ⟨q', p', hq', hp', hsent⟩ :=
      json_bodies_agree (by decide) hkey (by rfl) recoverable_nested
      (by simp [nested]) (by decide +kernel) hplain hes (build_post _) hready data hdata
    obtain ⟨r, answer, later, hr, hbody, -⟩ := hsent ⟨⟨none, false⟩, []⟩ Rehearsal.outside 0 {}
    exact ⟨q', p', hq', hp', r, answer, later, hr, hbody⟩
  exact ⟨hboth _ (by simp), hboth _ (by simp)⟩

end Action
end TestWorker
