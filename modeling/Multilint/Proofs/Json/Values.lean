import Multilint.Proofs.Json.Stability
/-!
# What stands behind a list or an object

Lists and objects are read alike in longer texts (`stable_value`), part by part. Either ends with a bracket
of its own (`EndsAt`), so it is read alike even where nothing stands behind it (`value_extend`), as the
document that a whole text is.
-/

namespace Multilint

namespace JsonReader

open Placed (place)

variable {α β : Type} [Placed β] {m xs : List Char} {c c₁ : Cursor} {x : Char} {o : ℕ}

/-! ## Lists and objects -/

/-- The item behind a comma. -/
def itemAhead (c : Cursor) : Reading (Bool × Cursor) :=
  let c := c.skipGap
  match c.rest with
  | [] => c.failAhead .endInValue
  | ']' :: _ => c.failAhead .trailingComma
  | _ => .ok (true, c)

/-- The key behind a comma. -/
def keyAhead (c : Cursor) : Reading (Bool × Cursor) :=
  let c := c.skipGap
  match c.rest with
  | [] => c.failAhead .endInValue
  | '"' :: _ => .ok (true, c)
  | '\x7d' :: _ => c.failAhead .trailingComma
  | _ => c.failAhead .badKey

section Heads

variable (hx : Cursor.isGap x = false)

include hx

theorem itemAhead_cons : itemAhead ⟨x :: xs, o⟩ =
    if x = ']' then Cursor.failAhead ⟨x :: xs, o⟩ .trailingComma else .ok (true, ⟨x :: xs, o⟩) := by
  rw [itemAhead, Cursor.skipGap_cons hx]
  by_cases hclose : x = ']'
  · subst hclose
    rfl
  · simp [hclose]

theorem exists_keyAhead_cons (xs : List Char) (o : ℕ) : ∃ fault, keyAhead ⟨x :: xs, o⟩ =
    if x = '"' then .ok (true, ⟨x :: xs, o⟩) else .error fault := by
  rw [keyAhead, Cursor.skipGap_cons hx]
  by_cases hquote : x = '"'
  · subst hquote
    exact ⟨⟨.badKey, none⟩, rfl⟩
  by_cases hclose : x = '\x7d'
  · subst hclose
    exact ⟨_, rfl⟩
  · simp [hquote, hclose, Cursor.failAhead]

theorem exists_listStep_cons (first : Bool) (xs : List Char) (o : ℕ) :
    ∃ fault, listStep first ⟨x :: xs, o⟩ =
    if x = ']' then .ok (false, ⟨x :: xs, o⟩)
    else if first then .ok (true, ⟨x :: xs, o⟩)
    else if x = ',' then itemAhead (Cursor.next ⟨x :: xs, o⟩) else .error fault := by
  rw [listStep, Cursor.skipGap_cons hx]
  by_cases hclose : x = ']'
  · subst hclose
    exact ⟨⟨.badKey, none⟩, rfl⟩
  by_cases hcomma : x = ','
  · subst hcomma
    exact ⟨⟨.badKey, none⟩, rfl⟩
  · refine ⟨⟨.noListEnd, some (Cursor.ahead ⟨x :: xs, o⟩)⟩, ?_⟩
    simp [hclose, hcomma, Cursor.failAhead]

theorem exists_objectStep_cons (first : Bool) (xs : List Char) (o : ℕ) :
    ∃ fault, objectStep first ⟨x :: xs, o⟩ =
    if x = '\x7d' then .ok (false, ⟨x :: xs, o⟩)
    else if x = ',' && !first then keyAhead (Cursor.next ⟨x :: xs, o⟩)
    else if x = '"' && first then .ok (true, ⟨x :: xs, o⟩) else .error fault := by
  rw [objectStep, Cursor.skipGap_cons hx]
  by_cases hclose : x = '\x7d'
  · subst hclose
    exact ⟨⟨.badKey, none⟩, rfl⟩
  by_cases hcomma : x = ','
  · subst hcomma
    cases first with
    | true => exact ⟨_, rfl⟩
    | false => exact ⟨⟨.badKey, none⟩, rfl⟩
  by_cases hquote : x = '"'
  · subst hquote
    cases first with
    | true => exact ⟨⟨.badKey, none⟩, rfl⟩
    | false => exact ⟨_, rfl⟩
  · cases first <;> simp [hclose, hcomma, hquote, Cursor.failAhead]

theorem colon_cons : colon ⟨x :: xs, o⟩ =
    if x = ':' then .ok (Cursor.next ⟨x :: xs, o⟩)
    else Cursor.failAhead ⟨x :: xs, o⟩ .noColon := by
  rw [colon, Cursor.skipGap_cons hx]
  by_cases hcolon : x = ':'
  · subst hcolon
    rfl
  · simp [hcolon]

end Heads

theorem stable_itemAhead (c : Cursor) : Stable m c (itemAhead c) (itemAhead (c.extend m)) := by
  have hgap : ∀ c, itemAhead c.skipGap = itemAhead c := by
    intro c
    rw [itemAhead, itemAhead, Cursor.skipGap_skipGap]
  refine Stable.behindGap hgap hgap (fun o r' => .error _) (fun x xs o hx => ?_) c
  rw [itemAhead_cons hx, itemAhead_cons hx]
  split
  · exact .error _
  · exact .here _

theorem stable_keyAhead (c : Cursor) : Stable m c (keyAhead c) (keyAhead (c.extend m)) := by
  have hgap : ∀ c, keyAhead c.skipGap = keyAhead c := by
    intro c
    rw [keyAhead, keyAhead, Cursor.skipGap_skipGap]
  refine Stable.behindGap hgap hgap (fun o r' => .error _) (fun x xs o hx => ?_) c
  obtain ⟨fault, heq⟩ := exists_keyAhead_cons hx xs o
  obtain ⟨fault', heq'⟩ := exists_keyAhead_cons hx (xs ++ m) o
  rw [heq, heq']
  split
  · exact .here _
  · exact .error _

theorem stable_listStep (first : Bool) (c : Cursor) :
    Stable m c (listStep first c) (listStep first (c.extend m)) := by
  have hgap : ∀ c, listStep first c.skipGap = listStep first c := by
    intro c
    rw [listStep, listStep, Cursor.skipGap_skipGap]
  refine Stable.behindGap hgap hgap (fun o r' => .error _) (fun x xs o hx => ?_) c
  obtain ⟨fault, heq⟩ := exists_listStep_cons hx first xs o
  obtain ⟨fault', heq'⟩ := exists_listStep_cons hx first (xs ++ m) o
  rw [heq, heq']
  split
  · exact .here _
  split
  · exact .here _
  split
  · exact (stable_itemAhead _).mono (Cursor.suffix_next _)
  · exact .error _

theorem stable_objectStep (first : Bool) (c : Cursor) :
    Stable m c (objectStep first c) (objectStep first (c.extend m)) := by
  have hgap : ∀ c, objectStep first c.skipGap = objectStep first c := by
    intro c
    rw [objectStep, objectStep, Cursor.skipGap_skipGap]
  refine Stable.behindGap hgap hgap (fun o r' => .error _) (fun x xs o hx => ?_) c
  obtain ⟨fault, heq⟩ := exists_objectStep_cons hx first xs o
  obtain ⟨fault', heq'⟩ := exists_objectStep_cons hx first (xs ++ m) o
  rw [heq, heq']
  split
  · exact .here _
  split
  · exact (stable_keyAhead _).mono (Cursor.suffix_next _)
  split
  · exact .here _
  · exact .error _

theorem stable_colon (c : Cursor) : Stable m c (colon c) (colon (c.extend m)) := by
  have hgap : ∀ c, colon c.skipGap = colon c := by
    intro c
    rw [colon, colon, Cursor.skipGap_skipGap]
  refine Stable.behindGap hgap hgap (fun o r' => .error _) (fun x xs o hx => ?_) c
  rw [colon_cons hx, colon_cons hx]
  split
  · exact .ok (List.suffix_cons x xs)
  · exact .error _

/-- The items of a list are read one after another. -/
theorem items_succ (item : Cursor → Reading (Json × Cursor)) (fuel : ℕ) (first : Bool) (c : Cursor) :
    items item (fuel + 1) first c = (do
      let p ← listStep first c
      if p.1 then
        let q ← item p.2
        let l ← items item fuel false q.2
        return (q.1 :: l.1, l.2)
      else return ([], p.2)) := by
  rw [items]
  rcases listStep first c with e | ⟨_ | _, c₁⟩
  · rfl
  · rfl
  dsimp only [bind, Except.bind, if_true]
  cases item c₁ with
  | error e => rfl
  | ok q =>
    dsimp only
    cases items item fuel false q.2 with
    | error e => rfl
    | ok l => rfl

/-- So are the members of an object. -/
theorem members_succ (item : Cursor → Reading (Json × Cursor)) (fuel : ℕ) (first : Bool) (c : Cursor) :
    members item (fuel + 1) first c = (do
      let p ← objectStep first c
      if p.1 then
        let k ← string p.2.next
        let c₁ ← colon k.2
        let q ← item c₁
        let l ← members item fuel false q.2
        return ((k.1, q.1) :: l.1, l.2)
      else return ([], p.2)) := by
  rw [members]
  rcases objectStep first c with e | ⟨_ | _, c₁⟩
  · rfl
  · rfl
  dsimp only [bind, Except.bind, if_true]
  cases string c₁.next with
  | error e => rfl
  | ok k =>
    dsimp only
    cases colon k.2 with
    | error e => rfl
    | ok c₂ =>
      dsimp only
      cases item c₂ with
      | error e => rfl
      | ok q =>
        dsimp only
        cases members item fuel false q.2 with
        | error e => rfl
        | ok l => rfl

section Items

variable {item item' : Cursor → Reading (Json × Cursor)} {fuel fuel' : ℕ}
variable (hitem : ∀ c, Stable m c (item c) (item' (c.extend m)))

include hitem

theorem stable_items (hfuel : fuel ≤ fuel') (first : Bool) (c : Cursor) :
    Stable m c (items item fuel first c) (items item' fuel' first (c.extend m)) := by
  induction fuel generalizing fuel' first c with
  | zero => exact .error _
  | succ fuel ih =>
    obtain ⟨fuel', rfl⟩ : ∃ n, fuel' = n + 1 := ⟨fuel' - 1, by omega⟩
    rw [items_succ, items_succ]
    refine (stable_listStep first c).bind fun ⟨more, c⟩ => ?_
    cases more with
    | false => exact .here _
    | true =>
      refine (hitem c).bind fun ⟨v, c⟩ => ?_
      exact (ih (by omega) false c).bind fun ⟨vs, c⟩ => .here _

theorem stable_members (hfuel : fuel ≤ fuel') (first : Bool) (c : Cursor) :
    Stable m c (members item fuel first c) (members item' fuel' first (c.extend m)) := by
  induction fuel generalizing fuel' first c with
  | zero => exact .error _
  | succ fuel ih =>
    obtain ⟨fuel', rfl⟩ : ∃ n, fuel' = n + 1 := ⟨fuel' - 1, by omega⟩
    rw [members_succ, members_succ]
    refine (stable_objectStep first c).bind fun ⟨more, c⟩ => ?_
    cases more with
    | false => exact .here _
    | true =>
      refine (stable_string_next c).bind fun ⟨k, c⟩ => ?_
      refine (stable_colon c).bind fun c => ?_
      refine (hitem c).bind fun ⟨v, c⟩ => ?_
      exact (ih (by omega) false c).bind fun ⟨vs, c⟩ => .here _

end Items

/-! ## Values -/

/-- **A bracket ends what is read**, whatever comes behind it. -/
def EndsAt (close : Cursor → Reading Cursor) (bracket : Char) : Prop :=
  ∀ c c', close c = .ok c' ↔
    ∃ xs o, c.skipGap = ⟨bracket :: xs, o⟩ ∧ c' = Cursor.next ⟨bracket :: xs, o⟩

theorem endsAt_listEnd : EndsAt listEnd ']' := by
  intro c c'
  rw [listEnd]
  rcases c.skipGap with ⟨_ | ⟨x, xs⟩, o⟩
  · simp [Cursor.failAhead]
  by_cases hclose : x = ']'
  · subst hclose
    simp [eq_comm]
  by_cases hcomma : x = ','
  · subst hcomma
    -- the comma is refused in either case
    generalize (Cursor.next ⟨',' :: xs, o⟩).skipGap = d
    simp only
    split <;> simp [Cursor.failAhead]
  · simp [hclose, hcomma, Cursor.failAhead]

theorem endsAt_objectEnd : EndsAt objectEnd '\x7d' := by
  intro c c'
  rw [objectEnd]
  rcases c.skipGap with ⟨_ | ⟨x, xs⟩, o⟩
  · simp [Cursor.failAhead]
  by_cases hclose : x = '\x7d'
  · subst hclose
    simp [eq_comm]
  by_cases hcomma : x = ','
  · subst hcomma
    simp [Cursor.failAhead]
  · simp [hclose, hcomma, Cursor.failAhead]

theorem EndsAt.extend {close : Cursor → Reading Cursor} {bracket : Char} {c c' : Cursor}
    (hclose : EndsAt close bracket) (h : close c = .ok c') :
    c.rest ≠ [] ∧ c'.rest <:+ c.rest ∧ close (c.extend m) = .ok (c'.extend m) := by
  obtain ⟨xs, o, hskip, rfl⟩ := (hclose _ _).1 h
  have hsuffix : bracket :: xs <:+ c.rest := by
    have hgap := c.suffix_skipGap
    rwa [hskip] at hgap
  have hne : c.skipGap.rest ≠ [] := by
    rw [hskip]
    exact List.cons_ne_nil bracket xs
  refine ⟨fun hnil => ?_, (Cursor.suffix_next _).trans hsuffix, ?_⟩
  · rw [hnil, List.suffix_nil] at hsuffix
    cases hsuffix
  · refine (hclose _ _).2 ⟨xs ++ m, o, ?_, rfl⟩
    rw [Cursor.skipGap_extend hne, hskip]
    rfl

theorem EndsAt.stable {close : Cursor → Reading Cursor} {bracket : Char} (hclose : EndsAt close bracket)
    (c : Cursor) : Stable m c (close c) (close (c.extend m)) :=
  ⟨fun _ h => (hclose.extend (m := m) h).2.1, fun _ h _ => (hclose.extend h).2.2⟩

/-- What is read up to a bracket, and the bracket. -/
def enclosed (close : Cursor → Reading Cursor) (f : α → Json) (r : Reading (α × Cursor)) :
    Reading (Json × Cursor) := do
  let (a, c) ← r
  let c ← close c
  return (f a, c)

section Enclosed

variable {close : Cursor → Reading Cursor} {bracket : Char} {s s' : Reading (α × Cursor)}
variable (hclose : EndsAt close bracket) (f : α → Json) (hs : Stable m c s s')

include hclose hs

theorem stable_enclosed : Stable m c (enclosed close f s) (enclosed close f s') :=
  hs.bind fun ⟨_, c⟩ => (hclose.stable c).bind fun _ => .here _

/-- **What is enclosed is read alike** even where nothing stands behind it. -/
theorem enclosed_extend {v : Json} {c' : Cursor} (h : enclosed close f s = .ok (v, c')) :
    enclosed close f s' = .ok (v, c'.extend m) := by
  obtain ⟨⟨a, c₁⟩, ha, h⟩ := Sequence.bind_eq_ok_iff.1 h
  obtain ⟨c₂, hend, h⟩ := Sequence.bind_eq_ok_iff.1 h
  obtain ⟨rfl, rfl⟩ := Prod.mk.inj (Except.ok.inj h)
  -- the bracket stands behind what is read before it
  obtain ⟨hne, -, hend'⟩ := hclose.extend (m := m) hend
  have hs' : s' = .ok (a, c₁.extend m) := hs.same _ ha hne
  rw [enclosed, hs']
  change (close (c₁.extend m) >>= fun c => .ok (f a, c)) = _
  rw [hend']
  rfl

end Enclosed

/-- A value that is no list and no object. -/
def scalar (x : Char) (c : Cursor) : Reading (Json × Cursor) :=
  if x = 'n' then do return (.null, ← word c.next "ull".toList)
  else if x = 't' then do return (.bool true, ← word c.next "rue".toList)
  else if x = 'f' then do return (.bool false, ← word c.next "alse".toList)
  else if x = '"' then do
    let (s, c) ← string c.next
    return (.string s, c)
  else if x = '-' || Numeral.isDigit x then do
    let (n, c) ← numberToken c
    return (.number n, c)
  else c.failAhead .noValue

theorem stable_scalar :
    Stable m ⟨x :: xs, o⟩ (scalar x ⟨x :: xs, o⟩) (scalar x ⟨x :: (xs ++ m), o⟩) := by
  rw [scalar, scalar]
  have hnext : ∀ {r r' : Reading (Json × Cursor)}, Stable m (Cursor.next ⟨x :: xs, o⟩) r r' →
      Stable m ⟨x :: xs, o⟩ r r' := fun h => h.mono (Cursor.suffix_next _)
  refine .ite (hnext ((stable_word _ _).bind fun c => .here _)) ?_
  refine .ite (hnext ((stable_word _ _).bind fun c => .here _)) ?_
  refine .ite (hnext ((stable_word _ _).bind fun c => .here _)) ?_
  refine .ite (hnext ((stable_string _).bind fun ⟨s, c⟩ => .here _)) ?_
  exact .ite ((stable_numberToken ⟨x :: xs, o⟩).bind fun ⟨n, c⟩ => .here _) (.error _)

/-- A value is told by its first character. -/
theorem value_cons (depth : ℕ) (hx : Cursor.isGap x = false) : value depth ⟨x :: xs, o⟩ =
    if x = '[' then
      if depth ≤ 1 then Cursor.failAhead ⟨x :: xs, o⟩ .tooDeep
      else enclosed listEnd .array
        (items (value (depth - 1)) (xs.length + 2) true (Cursor.next ⟨x :: xs, o⟩))
    else if x = '\x7b' then
      if depth ≤ 1 then Cursor.failAhead ⟨x :: xs, o⟩ .tooDeep
      else enclosed objectEnd .object
        (members (value (depth - 1)) (xs.length + 2) true (Cursor.next ⟨x :: xs, o⟩))
    else scalar x ⟨x :: xs, o⟩ := by
  rw [value.eq_def]
  dsimp only
  rw [Cursor.skipGap_cons hx]
  by_cases hlist : x = '['
  · subst hlist
    match depth with
    | 0 | 1 | _ + 2 => rfl
  by_cases hobject : x = '\x7b'
  · subst hobject
    match depth with
    | 0 | 1 | _ + 2 => rfl
  rw [if_neg hlist, if_neg hobject, scalar]
  by_cases hn : x = 'n'
  · subst hn
    rfl
  by_cases ht : x = 't'
  · subst ht
    rfl
  by_cases hf : x = 'f'
  · subst hf
    rfl
  by_cases hquote : x = '"'
  · subst hquote
    rfl
  · simp [hn, ht, hf, hquote]

theorem value_skipGap (depth : ℕ) (c : Cursor) : value depth c.skipGap = value depth c := by
  rw [value.eq_def, value.eq_def]
  dsimp only
  rw [Cursor.skipGap_skipGap]

theorem value_nil (depth : ℕ) :
    value depth ⟨[], o⟩ = Cursor.failAhead (Cursor.skipGap ⟨[], o⟩) .endInValue := by
  rw [value.eq_def]
  rfl

/-- **A value is read alike** where something stands behind it. -/
theorem stable_value (depth : ℕ) (c : Cursor) :
    Stable m c (value depth c) (value depth (c.extend m)) := by
  induction depth using Nat.strongRecOn generalizing c with
  | ind depth ih =>
    refine Stable.behindGap (value_skipGap depth) (value_skipGap depth) (fun o r' => ?_)
      (fun x xs o hx => ?_) c
    · rw [value_nil]
      exact .error _
    rw [value_cons _ hx, value_cons _ hx]
    have hfuel : xs.length + 2 ≤ (xs ++ m).length + 2 := Cursor.length_le_append 2
    split
    · split
      · exact .error _
      · have hitems := stable_items (ih (depth - 1) (by omega)) hfuel true (Cursor.next ⟨x :: xs, o⟩)
        exact (stable_enclosed endsAt_listEnd _ hitems).mono (Cursor.suffix_next _)
    split
    · split
      · exact .error _
      · have hmembers := stable_members (ih (depth - 1) (by omega)) hfuel true
          (Cursor.next ⟨x :: xs, o⟩)
        exact (stable_enclosed endsAt_objectEnd _ hmembers).mono (Cursor.suffix_next _)
    · exact stable_scalar

/-- A value that is no list and no object is of no such kind. -/
theorem scalar_kind {v : Json} {c c' : Cursor} (h : scalar x c = .ok (v, c')) :
    v.kind ≠ .array ∧ v.kind ≠ .object := by
  have hbind : ∀ {β : Type} {r : Reading β} {k : β → Reading (Json × Cursor)},
      (∀ b, k b = .ok (v, c') → v.kind ≠ .array ∧ v.kind ≠ .object) → (r >>= k) = .ok (v, c') →
        v.kind ≠ .array ∧ v.kind ≠ .object := by
    intro β r k hk h
    obtain ⟨b, -, hb⟩ := Sequence.bind_eq_ok_iff.1 h
    exact hk b hb
  have hleaf : ∀ {u : Json} {c : Cursor}, u.kind ≠ .array ∧ u.kind ≠ .object →
      (pure (u, c) : Reading (Json × Cursor)) = .ok (v, c') → v.kind ≠ .array ∧ v.kind ≠ .object := by
    intro u c hu h
    obtain ⟨rfl, -⟩ := Prod.mk.inj (Except.ok.inj h)
    exact hu
  rw [scalar] at h
  split at h
  · exact hbind (fun c => hleaf (by decide)) h
  split at h
  · exact hbind (fun c => hleaf (by decide)) h
  split at h
  · exact hbind (fun c => hleaf (by decide)) h
  split at h
  · exact hbind (fun ⟨s, c⟩ => hleaf ⟨nofun, nofun⟩) h
  split at h
  · exact hbind (fun ⟨n, c⟩ => hleaf ⟨nofun, nofun⟩) h
  · cases h

/-- **A list or an object is read alike** even where nothing stands behind it. -/
theorem value_extend {depth : ℕ} {c c' : Cursor} {v : Json} (h : value depth c = .ok (v, c'))
    (hv : v.kind = .array ∨ v.kind = .object) :
    value depth (c.extend m) = .ok (v, c'.extend m) := by
  refine Stable.extend_behindGap (b := (v, c')) (value_skipGap depth) (fun o hnil => ?_)
    (fun x xs o hx h => ?_) h
  · rw [value_nil] at hnil
    cases hnil
  have hfuel : xs.length + 2 ≤ (xs ++ m).length + 2 := Cursor.length_le_append 2
  rw [value_cons _ hx] at h ⊢
  split at h
  · rename_i hlist
    split at h
    · cases h
    · rename_i hdepth
      have hitems := stable_items (stable_value (m := m) (depth - 1)) hfuel true
        (Cursor.next ⟨x :: xs, o⟩)
      rw [if_pos hlist, if_neg hdepth]
      exact enclosed_extend endsAt_listEnd _ hitems h
  rename_i hlist
  split at h
  · rename_i hobject
    split at h
    · cases h
    · rename_i hdepth
      have hmembers := stable_members (stable_value (m := m) (depth - 1)) hfuel true
        (Cursor.next ⟨x :: xs, o⟩)
      rw [if_neg hlist, if_pos hobject, if_neg hdepth]
      exact enclosed_extend endsAt_objectEnd _ hmembers h
  · -- what is left is neither
    obtain ⟨harray, hobject⟩ := scalar_kind h
    rcases hv with hv | hv
    · exact absurd hv harray
    · exact absurd hv hobject

end JsonReader

end Multilint
