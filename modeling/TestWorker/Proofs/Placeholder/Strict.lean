import TestWorker.Proofs.Placeholder.Pieces

namespace TestWorker.Placeholder
variable {α β γ : Type}

/-- The tokens of a tree, in the order of the document. -/
def documentTokens (v : Value) : List Token := (leafTexts v).flatMap tokens

def unbound (c : Context) (t : Token) : Bool := (c.get? t.name).isNone

/-- A result, if no token is missing for it. -/
def granted (missing : Option Token) (a : α) : Except Fault α :=
  match missing with
  | none => .ok a
  | some t => .error (.unresolved t.name)

theorem granted_bind (m n : Option Token) (a : α) (b : β) (f : α → β → γ) :
    (do
      let x ← granted m a
      let y ← granted n b
      return f x y) = granted (m.or n) (f a b) := by
  cases m with
  | some t => rfl
  | none => cases n <;> rfl

theorem granted_map (m : Option Token) (a : α) (f : α → β) :
    (do return f (← granted m a)) = granted m (f a) := by
  cases m <;> rfl

def Segment.token? : Segment → Option Token
  | token t => some t
  | plain _ => none

theorem filterMap_token (t : Token) (segs : List Segment) :
    (.token t :: segs).filterMap Segment.token? = t :: segs.filterMap Segment.token? := rfl

theorem mapM_fillStrict (c : Context) (segs : List Segment) :
    segs.mapM (Segment.fillStrict c) =
      granted ((segs.filterMap Segment.token?).find? (unbound c)) (segs.map (Segment.fill c)) := by
  induction segs with
  | nil => rfl
  | cons seg segs ih =>
    rw [List.mapM_cons, ih, List.map_cons]
    cases seg with
    | plain ch => exact granted_map _ _ ([ch] :: ·)
    | token t =>
      rw [filterMap_token, List.find?_cons]
      cases h : c.get? t.name with
      | none =>
        have hfill : (Segment.token t).fillStrict c = .error (.unresolved t.name) := by
          simp [Segment.fillStrict, h]
        rw [hfill, show unbound c t = true by simp [unbound, h]]
        rfl
      | some v =>
        have hfill : (Segment.token t).fillStrict c = .ok ((Segment.token t).fill c) := by
          simp [Segment.fillStrict, Segment.fill, h]
        rw [hfill, show unbound c t = false by simp [unbound, h]]
        exact granted_map _ _ _

theorem tokens_eq (s : String) : tokens s = (segments s).filterMap Segment.token? := rfl

theorem fillStrict_eq (c : Context) (s : String) :
    fillStrict c s = granted ((tokens s).find? (unbound c)) (fill c s) := by
  rw [tokens_eq]
  unfold fillStrict fill
  -- a text that is one token is filled in with the value itself
  split
  · rename_i t ht
    rw [ht, filterMap_token]
    cases h : c.get? t.name <;> simp [granted, unbound, h]
  · rw [mapM_fillStrict, granted_map]
    rfl

mutual

theorem mapTexts_granted {f : String → Except Fault Value} {m : String → Option Token}
    {g : String → Value} (h : ∀ s, f s = granted (m s) (g s)) :
    ∀ v, mapTexts f v =
      granted ((leafTexts v).findSome? m) (Id.run (mapTexts (fun s => pure (g s)) v))
  | .text s => by
    rw [leafTexts, List.findSome?_singleton]
    exact h s
  | .list vs => by
    rw [mapTexts, mapItems_granted h vs, granted_map]
    rfl
  | .object es => by
    rw [mapTexts, mapEntries_granted h es, granted_map]
    rfl
  | .null | .bool _ | .int _ | .float _ | .bytes _ | .decimal _ | .date _ | .tuple _ => rfl

theorem mapItems_granted {f : String → Except Fault Value} {m : String → Option Token}
    {g : String → Value} (h : ∀ s, f s = granted (m s) (g s)) :
    ∀ vs, mapItems f vs =
      granted ((itemTexts vs).findSome? m) (Id.run (mapItems (fun s => pure (g s)) vs))
  | [] => rfl
  | v :: vs => by
    rw [mapItems, mapTexts_granted h v, mapItems_granted h vs, granted_bind, itemTexts,
      List.findSome?_append]
    rfl

theorem mapEntries_granted {f : String → Except Fault Value} {m : String → Option Token}
    {g : String → Value} (h : ∀ s, f s = granted (m s) (g s)) :
    ∀ es, mapEntries f es =
      granted ((entryTexts es).findSome? m) (Id.run (mapEntries (fun s => pure (g s)) es))
  | [] => rfl
  | (k, v) :: es => by
    rw [mapEntries, mapTexts_granted h v, mapEntries_granted h es, granted_bind, entryTexts,
      List.findSome?_append]
    rfl

end

theorem substituteStrict_eq (c : Context) (v : Value) :
    substituteStrict c v = granted ((documentTokens v).find? (unbound c)) (substitute c v) := by
  rw [documentTokens, List.find?_flatMap]
  exact mapTexts_granted (fillStrict_eq c) v

theorem resolve_true (c : Context) (v : Value) :
    (resolve true c v = resolve false c v) ∨
      ∃ t, (documentTokens v).find? (unbound c) = some t ∧
        resolve true c v = .error (.unresolved t.name) := by
  change (substituteStrict c v = .ok (substitute c v)) ∨ ∃ t, _ ∧ substituteStrict c v = _
  rw [substituteStrict_eq]
  cases h : (documentTokens v).find? (unbound c) with
  | none => exact .inl rfl
  | some t => exact .inr ⟨t, rfl, rfl⟩

end TestWorker.Placeholder
