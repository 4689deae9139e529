import Mathlib.Data.List.TakeWhile
import TestWorker.Proofs.Coordinator.Answer
import TestWorker.Proofs.Web.Path

namespace TestWorker.Coordinator
open Web (Escaped IsDots Slashless dropDot dropDots normalPath quoteChar str)
variable {σ : Type}

def Kind.segment : Kind → String
  | requests => "request"
  | tests => "execution"

def Kind.segments (k : Kind) : List (List Char) :=
  [[], "api".toList, "location".toList, k.segment.toList]

/-- The path of the address is that of the kind with one more segment, which means the id, and the
address has no query. -/
def Reaches (k : Kind) (id : String) (u : Web.Url) : Prop :=
  u.query = none ∧ ∃ last, Text.splitChars (· == '/') u.path.toList = k.segments ++ [last] ∧
    Web.unquote (str last) = id

def pathOf (id : String) : List Char := id.toList.takeWhile fun c => !(c == '?' || c == '#')

theorem toList_path (k : Kind) : (k.path ++ "/").toList = k.segments.flatMap (· ++ ['/']) := by
  cases k <;> decide +kernel

def Pathlike (cs : List Char) : Prop := ∀ c ∈ cs, (c == '?' || c == '#') = false

instance (cs : List Char) : Decidable (Pathlike cs) := List.decidableBAll _ _

/-- Nothing in it ends a host, or a segment of a path. -/
def Unbroken (cs : List Char) : Prop := ∀ c ∈ cs, (c == '/' || c == '?' || c == '#') = false

instance (cs : List Char) : Decidable (Unbroken cs) := List.decidableBAll _ _

theorem unbroken_iff {cs : List Char} : Unbroken cs ↔ Slashless cs ∧ Pathlike cs := by
  simp only [Unbroken, Slashless, Pathlike, Bool.or_eq_false_iff, and_assoc, forall_and]

/-- After the site, all up to a question mark or a hash is path. -/
theorem splitRest_site {host path : List Char} (hhost : Unbroken host) (hpath : Pathlike path)
    (rest : List Char) :
    (Web.splitRest ('/' :: '/' :: (host ++ '/' :: (path ++ rest)))).2.1 =
        '/' :: (path ++ rest.takeWhile fun c => !(c == '?' || c == '#')) ∧
      (rest.takeWhile (fun c => !(c == '?' || c == '#')) = rest →
        (Web.splitRest ('/' :: '/' :: (host ++ '/' :: (path ++ rest)))).2.2.1 = none) := by
  have hhost' : ∀ c ∈ host, (!(c == '/' || c == '?' || c == '#')) = true := by
    simpa [Unbroken] using hhost
  have hpath' : ∀ c ∈ path, (!(c == '?' || c == '#')) = true := by simpa [Pathlike] using hpath
  have hslash : ∀ p : Char → Bool, p '/' = true → ∀ cs : List Char,
      ('/' :: cs).takeWhile p = '/' :: cs.takeWhile p ∧
        ('/' :: cs).dropWhile p = cs.dropWhile p := by
    intro p hp cs
    exact ⟨List.takeWhile_cons_of_pos hp, List.dropWhile_cons_of_pos hp⟩
  obtain ⟨htake, hdrop⟩ := hslash (fun c => !(c == '?' || c == '#')) rfl (path ++ rest)
  have hauthority :
      ('/' :: (path ++ rest)).dropWhile (fun c => !(c == '/' || c == '?' || c == '#')) =
        '/' :: (path ++ rest) := rfl
  simp only [Web.splitRest]
  rw [List.dropWhile_append_of_pos hhost', hauthority, htake, hdrop,
    List.takeWhile_append_of_pos hpath', List.dropWhile_append_of_pos hpath']
  refine ⟨rfl, fun hrest => ?_⟩
  have hnone : rest.dropWhile (fun c => !(c == '?' || c == '#')) = [] := by
    have hall := List.takeWhile_append_dropWhile (p := fun c => !(c == '?' || c == '#')) (l := rest)
    rw [hrest] at hall
    exact List.append_right_eq_self.1 hall
  rw [hnone]

/-- The path is that of the kind and what is read of the id, and an id that is read in full leaves
no query. -/
theorem parts_of_result {s : Settings} {host : String} (hs : s.baseUrl = "https://" ++ host)
    (hhost : Unbroken host.toList) (k : Kind) (id : String) :
    (Web.Parts.ofText (resultUrl s k id)).scheme = "https" ∧
      (Web.Parts.ofText (resultUrl s k id)).path.toList =
        k.segments.flatMap (· ++ ['/']) ++ pathOf id ∧
      (pathOf id = id.toList → (Web.Parts.ofText (resultUrl s k id)).query = none) := by
  obtain ⟨path, hpath⟩ : ∃ path, k.segments.flatMap (· ++ ['/']) = '/' :: path := ⟨_, rfl⟩
  have hplain : Pathlike (k.segments.flatMap (· ++ ['/'])) := by cases k <;> decide +kernel
  have htext : (resultUrl s k id).toList =
      "https:".toList ++ '/' :: '/' :: (host.toList ++ '/' :: (path ++ id.toList)) := by
    have hjoined : '/' :: (path ++ id.toList) = (k.path ++ "/").toList ++ id.toList := by
      rw [toList_path, hpath, List.cons_append]
    rw [hjoined]
    simp [resultUrl, hs]
  have hscheme : ∀ rest, Web.splitScheme ("https:".toList ++ rest) = ("https".toList, rest) := by
    intro rest
    simp [Web.splitScheme, Web.isSchemeChar]
  rw [hpath] at hplain
  obtain ⟨htake, hquery⟩ := splitRest_site hhost (List.forall_mem_cons.1 hplain).2 id.toList
  unfold Web.Parts.ofText
  rw [htext, hscheme]
  refine ⟨rfl, ?_, fun h => ?_⟩
  · dsimp only
    rw [htake, str, String.toList_ofList, hpath, List.cons_append]
    rfl
  · dsimp only
    rw [hquery h]
    rfl

theorem slashless_segments (k : Kind) : ∀ seg ∈ k.segments, Slashless seg := by
  cases k <;> decide +kernel

theorem dropDots_segments (k : Kind) : dropDots k.segments = k.segments := by
  cases k <;> decide +kernel

def left (k : Kind) (id : String) : List (List Char) :=
  (Text.splitChars (· == '/') (pathOf id)).foldl dropDot k.segments

theorem ofParts_path {p : Web.Parts} {u : Web.Url} (h : Web.Url.ofParts p = .ok u)
    (hs : p.scheme ≠ "") :
    u.path = Web.quote Web.pathSafe (normalPath p.path) ∧
      u.query = p.query.map (Web.quote Web.querySafe) := by
  obtain ⟨host, -, h⟩ := Except.bind_eq_ok.1 h
  obtain ⟨port, -, h⟩ := Except.bind_eq_ok.1 h
  obtain ⟨-, -, h⟩ := Except.bind_eq_ok.1 h
  cases h
  simp [hs]

/-- A result goes to where its address says, by the base that there is. -/
structure Based (s : Settings) (host : String) : Prop where
  eq : s.baseUrl = "https://" ++ host
  plain : Unbroken host.toList
  absolute : ∃ base, Web.Url.parse s.baseUrl = .ok base ∧ base.isAbsolute = true

variable {s : Settings} {host : String} {k : Kind} {id : String} {u : Web.Url}

theorem noControls_of_parse (h : Web.Url.parse (resultUrl s k id) = .ok u) : NoControls id := by
  obtain ⟨-, hprint, -⟩ := Web.parse_eq_ok.1 h
  intro c hc
  refine Web.unprintable?_eq_none.1 hprint c ?_
  rw [resultUrl, String.toList_append]
  exact List.mem_append_right _ hc

theorem addressOf_iff (hs : Based s host) :
    Web.addressOf (.text (resultUrl s k id)) = .ok u ↔
      Web.Url.parse (resultUrl s k id) = .ok u := by
  obtain ⟨base, hbase, habs⟩ := hs.absolute
  have habsolute : ∀ v, Web.Url.parse (resultUrl s k id) = .ok v → v.isAbsolute = true := by
    intro v hv
    obtain ⟨w, hw, hwabs⟩ :=
      parse_result hbase habs (noControls_of_parse hv) (Web.parse_eq_ok.1 hv).1
    rw [hv] at hw
    cases hw
    exact hwabs
  constructor
  · intro hu
    obtain ⟨v, hv, hu⟩ := Except.bind_eq_ok.1 hu
    have hparse := Web.parse_of_liftUrl hv
    rw [if_pos (habsolute v hparse)] at hu
    cases hu
    exact hparse
  · intro hu
    refine Except.bind_eq_ok.2 ⟨u, by rw [hu]; rfl, ?_⟩
    rw [if_pos (habsolute u hu)]
    rfl

theorem exists_address_iff (hs : Based s host) :
    (∃ u, Web.addressOf (.text (resultUrl s k id)) = .ok u) ↔
      NoControls id ∧ (resultUrl s k id).length ≤ Web.Url.maxLength := by
  constructor
  · rintro ⟨u, hu⟩
    rw [addressOf_iff hs] at hu
    exact ⟨noControls_of_parse hu, (Web.parse_eq_ok.1 hu).1⟩
  · rintro ⟨hid, hlen⟩
    obtain ⟨base, hbase, habs⟩ := hs.absolute
    obtain ⟨u, hu, -⟩ := parse_result hbase habs hid hlen
    exact ⟨u, (addressOf_iff hs).2 hu⟩

/-- The segments of the address are those that are left, quoted. -/
theorem address_of_result (hs : Based s host)
    (hu : Web.addressOf (.text (resultUrl s k id)) = .ok u) :
    Text.splitChars (· == '/') u.path.toList =
        (left k id).map (fun seg => seg.flatMap (quoteChar Web.pathSafe)) ∧
      (pathOf id = id.toList → u.query = none) := by
  obtain ⟨hscheme, hpath, hquery⟩ := parts_of_result hs.eq hs.plain k id
  have hne : (Web.Parts.ofText (resultUrl s k id)).scheme ≠ "" := by
    rw [hscheme]
    decide
  obtain ⟨-, -, hparts⟩ := Web.parse_eq_ok.1 ((addressOf_iff hs).1 hu)
  obtain ⟨hu₁, hu₂⟩ := ofParts_path hparts hne
  have hleft : dropDots
    (Text.splitChars (· == '/') (Web.Parts.ofText (resultUrl s k id)).path.toList) =
      left k id := by
    rw [hpath, Web.splitChars_flatMap (slashless_segments k),
      Web.dropDots_append, dropDots_segments]
    rfl
  constructor
  · rw [hu₁, normalPath, hleft]
    apply Web.splitChars_quote
    · obtain ⟨rest, hrest⟩ := Web.exists_foldl_dropDot (Text.splitChars (· == '/') (pathOf id))
        k.segments.tail
      exact fun hnil => List.cons_ne_nil _ _ (hrest.symm.trans hnil)
    · have hsegments : ∀ seg ∈ k.segments.drop 0, Slashless seg := slashless_segments k
      exact Web.forall_drop_foldl_dropDot
        (fun seg hseg _ => (Text.of_mem_splitChars hseg).1) hsegments
  · intro hid
    rw [hu₂, hquery hid]
    rfl

/-- The end of a path that is written like the id means the id. -/
structure Verbatim (id : String) : Prop where
  plain : Unbroken id.toList
  undotted : id ≠ "." ∧ id ≠ ".."
  unescaped : ¬Escaped id.toList

theorem isDots_iff : IsDots id.toList ↔ id = "." ∨ id = ".." := by
  unfold IsDots
  rw [← String.toList_inj, ← String.toList_inj]
  rfl

theorem Verbatim.pathOf_eq (h : Verbatim id) : pathOf id = id.toList := by
  apply List.takeWhile_eq_self_iff.2
  intro c hc
  rw [(unbroken_iff.1 h.plain).2 c hc]
  rfl

theorem verbatim_of_mem {seg : List Char} (hseg : seg ∈ Text.splitChars (· == '/') (pathOf id))
    (hdots : ¬IsDots seg) (hid : Web.unquote (str seg) = id) : Verbatim id := by
  obtain ⟨hslash, hlen, hwhole⟩ := Text.of_mem_splitChars hseg
  obtain ⟨hle, hlt⟩ := Web.length_pieces_unquoteBytes seg
  have hpieces : id.toList.length = (Text.utf8Pieces false (Web.unquoteBytes seg)).length := by
    rw [← hid, String.length_toList, Web.length_unquote, str, String.toList_ofList]
  have hprefix : pathOf id <+: id.toList := List.takeWhile_prefix _
  have hpath : pathOf id = id.toList := hprefix.eq_of_length (by have := hprefix.length_le; omega)
  obtain rfl : seg = id.toList := (hwhole (by rw [hpath] at hlen ⊢; omega)).trans hpath
  refine ⟨unbroken_iff.2 ⟨hslash, fun c hc => ?_⟩, by rwa [isDots_iff, not_or] at hdots,
    fun hescaped => ?_⟩
  · simpa using List.takeWhile_eq_self_iff.1 hpath c hc
  · exact absurd (hlt hescaped) (by omega)

theorem reaches_iff (hs : Based s host) (hu : Web.addressOf (.text (resultUrl s k id)) = .ok u) :
    Reaches k id u ↔ Verbatim id := by
  obtain ⟨hsegments, hquery⟩ := address_of_result hs hu
  unfold Reaches
  rw [hsegments]
  constructor
  · rintro ⟨-, last, hlast, hid⟩
    have hdrop := congrArg (List.drop 4) hlast
    rw [← List.map_drop] at hdrop
    obtain ⟨seg, hseg, rfl⟩ :
        ∃ seg, (left k id).drop 4 = [seg] ∧ seg.flatMap (quoteChar Web.pathSafe) = last :=
      List.map_eq_singleton_iff.1 hdrop
    rw [Web.unquote_quote (by decide +kernel)] at hid
    have hleft : seg ∈ (left k id).drop 4 := by simp [hseg]
    have hbehind : ∀ seg ∈ k.segments.drop 4,
        seg ∈ Text.splitChars (· == '/') (pathOf id) ∧ ¬IsDots seg := by
      simp [Kind.segments]
    obtain ⟨hmem, hdots⟩ :=
      Web.forall_drop_foldl_dropDot (fun seg hseg hdots => ⟨hseg, hdots⟩) hbehind seg hleft
    exact verbatim_of_mem hmem hdots hid
  · intro hid
    have hleft : left k id = k.segments ++ [id.toList] := by
      rw [left, hid.pathOf_eq, Text.splitChars_of_forall (unbroken_iff.1 hid.plain).1]
      exact Web.dropDot_of_not_dots (by rw [isDots_iff, not_or]; exact hid.undotted) _
    have hkept : k.segments.map (fun seg => seg.flatMap (quoteChar Web.pathSafe)) = k.segments := by
      cases k <;> decide +kernel
    refine ⟨hquery hid.pathOf_eq, _, by rw [hleft, List.map_append, hkept]; rfl, ?_⟩
    rw [Web.unquote_quote (by decide +kernel), str, String.ofList_toList]
    exact Web.unquote_of_not_escaped hid.unescaped

/-- The requests of a delivery, in order. -/
def posts (s : Settings) (k : Kind) (id : String) (v : Value)
    (o : Outside σ) (now : Instant) (w : σ) : List Web.Request :=
  (exchanges ((deliver s k id v).outcome.trace o now w)).map (·.1)

theorem posts_of_sendable {v : Value} (h : Sendable s k id v)
    (o : Outside σ) (now : Instant) (w : σ) :
    ∃ r, posts s k id v o now w = [r] ∧ r.method = "POST" ∧
      Web.addressOf (.text (resultUrl s k id)) = .ok r.url := by
  obtain ⟨r₀, hr₀, hmethod, hurl, -⟩ := request_of_sendable h []
  obtain ⟨r, answer, hexchanges, ⟨hmethod', hurl', -⟩, -⟩ := (deliver_sends hr₀).run o now w
  refine ⟨r, ?_, hmethod'.trans hmethod, hurl' ▸ hurl⟩
  rw [posts, hexchanges]
  rfl

theorem posts_of_not_sendable {v : Value} (h : ¬Sendable s k id v)
    (o : Outside σ) (now : Instant) (w : σ) :
    posts s k id v o now w = [] := by
  obtain ⟨hasks, -⟩ := send_of_not_sendable h
  have hdeliver : (deliver s k id v).outcome.Asks fun e => ¬e.isExchange := by
    rw [deliver_outcome]
    exact Activity.asks_bind.2 ⟨hasks, Activity.yields_of_forall _ fun _ => trivial⟩
  rw [posts, hdeliver.exchanges_eq_nil]
  rfl

theorem Reaches.unique {k' : Kind} {id' : String} {u' : Web.Url} (h : Reaches k id u)
    (h' : Reaches k' id' u') (hpath : u.path = u'.path) : k = k' ∧ id = id' := by
  obtain ⟨-, last, hlast, rfl⟩ := h
  obtain ⟨-, last', hlast', rfl⟩ := h'
  rw [hpath, hlast'] at hlast
  obtain ⟨hsegments, hlast⟩ := List.append_inj hlast rfl
  cases hlast
  refine ⟨?_, rfl⟩
  cases k <;> cases k' <;> first | rfl | exact absurd hsegments (by decide +kernel)

/-- A result that can be sent goes out once, and to the path of its kind and its id exactly if the
id, written into a path as it is, means itself. Of such ids, no two results of different kinds or
ids have a path in common. -/
theorem result_reaches_iff (hs : Based s host) :
    (∀ (k : Kind) (id : String) (v : Value),
      (Sendable s k id v ↔ (NoControls id ∧ (resultUrl s k id).length ≤ Web.Url.maxLength) ∧
        (∀ h ∈ s.headers, Ascii h) ∧ Json.refusal? v = none) ∧
      ∀ (o : Outside σ) (now : Instant) (w : σ),
        (Sendable s k id v → ∃ r, posts s k id v o now w = [r] ∧ r.method = "POST" ∧
          (Reaches k id r.url ↔ Verbatim id)) ∧
        (¬Sendable s k id v → posts s k id v o now w = [])) ∧
    ∀ (k k' : Kind) (id id' : String) (v v' : Value) (o o' : Outside σ)
      (now now' : Instant) (w w' : σ),
      Verbatim id → Verbatim id' → ∀ r ∈ posts s k id v o now w,
        ∀ r' ∈ posts s k' id' v' o' now' w',
        r.url.path = r'.url.path → k = k' ∧ id = id' := by
  have hreaches : ∀ (k : Kind) (id : String) (v : Value) (o : Outside σ) (now : Instant) (w : σ),
      ∀ r ∈ posts s k id v o now w, Reaches k id r.url ↔ Verbatim id := by
    intro k id v o now w r hr
    by_cases hsendable : Sendable s k id v
    · obtain ⟨r', hposts, -, hu⟩ := posts_of_sendable hsendable o now w
      obtain rfl : r = r' := by simpa [hposts] using hr
      exact reaches_iff hs hu
    · rw [posts_of_not_sendable hsendable] at hr
      cases hr
  refine ⟨fun k id v => ⟨and_congr_left' (exists_address_iff hs), fun o now w => ⟨?_, ?_⟩⟩, ?_⟩
  · intro hsendable
    obtain ⟨r, hposts, hmethod, hu⟩ := posts_of_sendable hsendable o now w
    exact ⟨r, hposts, hmethod, reaches_iff hs hu⟩
  · exact fun hsendable => posts_of_not_sendable hsendable o now w
  · intro k k' id id' v v' o o' now now' w w' hid hid' r hr r' hr' hpath
    exact ((hreaches k id v o now w r hr).2 hid).unique
      ((hreaches k' id' v' o' now' w' r' hr').2 hid') hpath

theorem based_somewhere : Based somewhere "coordinator.test" where
  eq := by decide +kernel
  plain := by decide +kernel
  absolute := by
    have habs : (Web.Url.parse somewhere.baseUrl).toOption.any (·.isAbsolute) = true := by
      decide +kernel
    cases hbase : Web.Url.parse somewhere.baseUrl with
    | error e => rw [hbase] at habs; cases habs
    | ok base => exact ⟨base, rfl, by rw [hbase] at habs; exact habs⟩

/-- A blank and a percent sign are no obstacle. -/
theorem result_reaches_iff_blank :
    ∃ r, posts somewhere .requests "100% ready" .null Rehearsal.outside 0 {} = [r] ∧
      Reaches .requests "100% ready" r.url := by
  obtain ⟨hposts, -⟩ := result_reaches_iff (σ := Rehearsal) based_somewhere
  obtain ⟨hsendable, hsent⟩ := hposts .requests "100% ready" .null
  obtain ⟨r, hr, -, hreaches⟩ := (hsent Rehearsal.outside 0 {}).1 (hsendable.2 (by
    refine ⟨⟨?_, ?_⟩, ?_, rfl⟩
    · decide +kernel
    · decide +kernel
    · unfold Ascii
      decide +kernel))
  refine ⟨r, hr, hreaches.2 ⟨by decide +kernel, by decide, fun hescaped => ?_⟩⟩
  exact absurd ((Web.length_pieces_unquoteBytes _).2 hescaped) (by decide +kernel)

/-- The result of a request goes to where that of a test goes. -/
theorem results_meet :
    (posts somewhere .requests "../execution/t" .null Rehearsal.outside 0 {}).map (·.url.text) =
        ["https://coordinator.test/api/location/execution/t"] ∧
      (posts somewhere .tests "t" .null Rehearsal.outside 0 {}).map (·.url.text) =
        ["https://coordinator.test/api/location/execution/t"] := by
  decide +kernel

end TestWorker.Coordinator
