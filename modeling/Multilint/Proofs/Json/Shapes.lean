import Multilint.Json.Shape
import Multilint.Proofs.Json.Values
/-!
# What stands behind a shaped value

Shapes are read alike in longer texts (`Shape.IsStable`), the members they skip included: text and number are
by what they are made of, and a list, an optional value and a record are if their parts are. A list of shaped
values is read alike even where nothing stands behind it (`Shape.list_extend`).
-/

namespace Multilint

open Placed (place)

variable {α β : Type} [Placed β] {m xs : List Char} {c c₁ : Cursor} {x : Char} {o : ℕ}

namespace JsonReader

/-! ## Skipped strings -/

/-- Behind an escape whose backslash has been read. -/
def skipEscape (c : Cursor) : Reading Cursor := do
  let e ← comingChar c
  if e = 'u' then
    let p ← hexUnit c.next
    return p.2
  else if (plainEscape? e).isSome then return c.next
  else c.failPast .badEscape

theorem stable_skipEscape (c : Cursor) : Stable m c (skipEscape c) (skipEscape (c.extend m)) := by
  refine stable_comingChar fun x xs hx => ?_
  obtain ⟨_, o⟩ := c
  subst hx
  refine .mono ?_ (Cursor.suffix_next _)
  split
  · exact (stable_hexUnit _).bind fun ⟨n, c⟩ => .ok (List.suffix_refl _)
  split
  · exact .ok (List.suffix_refl _)
  · exact .error _

/-- A string is skipped character by character. -/
theorem skipString_succ (fuel : ℕ) (c : Cursor) :
    skipString (fuel + 1) c = (do
      let x ← comingChar c
      if x = '"' then return c.next
      else if x = '\\' then
        let c₁ ← skipEscape c.next
        skipString fuel c₁
      else if x.toNat < 32 then c.fail .controlCharacter
      else skipString fuel c.next) := by
  obtain ⟨_ | ⟨x, xs⟩, o⟩ := c
  · rfl
  rw [skipString]
  change _ = (if x = '"' then _ else if x = '\\' then _ else if x.toNat < 32 then _ else _)
  refine if_congr Iff.rfl rfl (if_congr Iff.rfl ?_ rfl)
  rw [skipEscape]
  cases comingChar (Cursor.next ⟨x :: xs, o⟩) with
  | error e => rfl
  | ok e =>
    dsimp only [bind, Except.bind]
    split
    · cases hexUnit (Cursor.next ⟨x :: xs, o⟩).next with
      | error e => rfl
      | ok p => rfl
    · split
      · rfl
      · rfl

theorem stable_skipString {fuel fuel' : ℕ} (hfuel : fuel ≤ fuel') (c : Cursor) :
    Stable m c (skipString fuel c) (skipString fuel' (c.extend m)) := by
  induction fuel generalizing fuel' c with
  | zero => exact .error _
  | succ fuel ih =>
    obtain ⟨fuel', rfl⟩ : ∃ n, fuel' = n + 1 := ⟨fuel' - 1, by omega⟩
    have hfuel' : fuel ≤ fuel' := Nat.le_of_succ_le_succ hfuel
    rw [skipString_succ, skipString_succ]
    refine stable_comingChar fun x xs hx => ?_
    obtain ⟨_, o⟩ := c
    subst hx
    refine .mono ?_ (Cursor.suffix_next _)
    split
    · exact .ok (List.suffix_refl _)
    split
    · exact (stable_skipEscape _).bind fun c => ih hfuel' c
    split
    · exact .error _
    · exact ih hfuel' _

/-! ## Skipped numbers -/

/-- Behind an exponent that has been read up to its digits. -/
def skipExponentDigits (c : Cursor) : Reading Cursor :=
  match c.rest with
  | [] => c.fail .badNumber
  | x :: _ => if Numeral.isDigit x then .ok c.skipDigits else c.failPast .badNumber

theorem skipExponent_eq (c : Cursor) :
    skipExponent c = skipExponentDigits (exponentSign c.next).2 := by
  rw [skipExponent, exponentSign]
  rcases c.next with ⟨_ | ⟨x, xs⟩, o⟩
  · rfl
  by_cases hplus : x = '+'
  · subst hplus
    rfl
  by_cases hminus : x = '-'
  · subst hminus
    rfl
  · simp [skipExponentDigits, hplus, hminus]

theorem stable_skipExponent :
    Stable m ⟨x :: xs, o⟩ (skipExponent ⟨x :: xs, o⟩) (skipExponent ⟨x :: (xs ++ m), o⟩) := by
  rw [skipExponent_eq, skipExponent_eq]
  refine stable_exponentSign (f := fun _ c => skipExponentDigits c) (fun minus o r' => .error _)
    fun minus y ys o => ?_
  change Stable m _ (if Numeral.isDigit y then _ else _) (if Numeral.isDigit y then _ else _)
  split
  · exact Stable.digits (f := fun _ c => .ok c) (g := fun _ c => .ok c)
      (fun _ c => .ok (List.suffix_refl _)) ⟨y :: ys, o⟩
  · exact .error _

theorem skipOptionalExponent_cons : skipOptionalExponent ⟨x :: xs, o⟩ =
    if x = 'e' ∨ x = 'E' then skipExponent ⟨x :: xs, o⟩ else .ok ⟨x :: xs, o⟩ := by
  by_cases hx : x = 'e' ∨ x = 'E'
  · rw [if_pos hx]
    rcases hx with rfl | rfl
    · rfl
    · rfl
  · rw [if_neg hx]
    rw [not_or] at hx
    simp [skipOptionalExponent, hx]

theorem stable_skipOptionalExponent (c : Cursor) :
    Stable m c (skipOptionalExponent c) (skipOptionalExponent (c.extend m)) := by
  obtain ⟨_ | ⟨x, xs⟩, o⟩ := c
  · exact (Stable.ok (m := m) (b := Cursor.mk [] o) (List.suffix_refl _)).stop rfl
  · change Stable m _ _ (skipOptionalExponent ⟨x :: (xs ++ m), o⟩)
    rw [skipOptionalExponent_cons, skipOptionalExponent_cons]
    split
    · exact stable_skipExponent
    · exact .ok (List.suffix_refl _)

theorem skipAfterWhole_cons : skipAfterWhole ⟨x :: xs, o⟩ =
    if x = '.' then
      match xs with
      | y :: _ => if Numeral.isDigit y then
          skipOptionalExponent (Cursor.next ⟨x :: xs, o⟩).skipDigits
        else (Cursor.next ⟨x :: xs, o⟩).failAhead .badNumber
      | [] => (Cursor.next ⟨x :: xs, o⟩).failAhead .badNumber
    else skipOptionalExponent ⟨x :: xs, o⟩ := by
  by_cases hdot : x = '.'
  · subst hdot
    cases xs with
    | nil => rfl
    | cons y ys => rfl
  · rw [if_neg hdot]
    simp [skipAfterWhole, hdot]

theorem stable_skipAfterWhole (c : Cursor) :
    Stable m c (skipAfterWhole c) (skipAfterWhole (c.extend m)) := by
  obtain ⟨_ | ⟨x, xs⟩, o⟩ := c
  · exact (stable_skipOptionalExponent ⟨[], o⟩).stop rfl
  change Stable m _ _ (skipAfterWhole ⟨x :: (xs ++ m), o⟩)
  rw [skipAfterWhole_cons, skipAfterWhole_cons]
  split
  · refine .mono ?_ (Cursor.suffix_next _)
    cases xs with
    | nil => exact .error _
    | cons y ys =>
      dsimp only [List.cons_append]
      split
      · exact Stable.digits (f := fun _ c => skipOptionalExponent c)
          (g := fun _ c => skipOptionalExponent c) (fun _ c => stable_skipOptionalExponent c)
          (Cursor.next ⟨x :: y :: ys, o⟩)
      · exact .error _
  · exact stable_skipOptionalExponent ⟨x :: xs, o⟩

theorem skipNumber_cons : skipNumber ⟨x :: xs, o⟩ =
    if x = '0' then
      match xs with
      | y :: _ => if Numeral.isDigit y then (Cursor.next ⟨x :: xs, o⟩).failAhead .badNumber
        else skipAfterWhole (Cursor.next ⟨x :: xs, o⟩)
      | [] => skipAfterWhole (Cursor.next ⟨x :: xs, o⟩)
    else if Numeral.isDigit x then skipAfterWhole (Cursor.skipDigits ⟨x :: xs, o⟩)
    else Cursor.failPast ⟨x :: xs, o⟩ .badNumber := by
  by_cases hzero : x = '0'
  · subst hzero
    cases xs with
    | nil => rfl
    | cons y ys => rfl
  · rw [if_neg hzero]
    simp [skipNumber, hzero]

theorem stable_skipNumber (c : Cursor) : Stable m c (skipNumber c) (skipNumber (c.extend m)) := by
  obtain ⟨_ | ⟨x, xs⟩, o⟩ := c
  · exact .error _
  change Stable m _ _ (skipNumber ⟨x :: (xs ++ m), o⟩)
  rw [skipNumber_cons, skipNumber_cons]
  split
  · refine .mono ?_ (Cursor.suffix_next _)
    cases xs with
    | nil => exact (stable_skipAfterWhole _).stop rfl
    | cons y ys =>
      dsimp only [List.cons_append]
      split
      · exact .error _
      · exact stable_skipAfterWhole (Cursor.next ⟨x :: y :: ys, o⟩)
  split
  · exact Stable.digits (f := fun _ c => skipAfterWhole c) (g := fun _ c => skipAfterWhole c)
      (fun _ c => stable_skipAfterWhole c) ⟨x :: xs, o⟩
  · exact .error _

/-! ## Skipped values -/

/-- Behind a member from where its key may come. -/
def skipMember (fuel : ℕ) (c : Cursor) : Reading Cursor :=
  let c := c.skipGap
  match c.rest with
  | [] => c.failAhead .endInObject
  | '"' :: _ => do
    let c₁ ← skipString (c.rest.length + 1) c.next
    let c₂ ← colon c₁
    skipValue fuel c₂
  | _ => c.failAhead .badKey

section Heads

variable (hx : Cursor.isGap x = false) (fuel : ℕ)

include hx

theorem skipValue_cons : skipValue (fuel + 1) ⟨x :: xs, o⟩ =
    if x = 'n' then word (Cursor.next ⟨x :: xs, o⟩) "ull".toList
    else if x = 't' then word (Cursor.next ⟨x :: xs, o⟩) "rue".toList
    else if x = 'f' then word (Cursor.next ⟨x :: xs, o⟩) "alse".toList
    else if x = '"' then skipString (xs.length + 2) (Cursor.next ⟨x :: xs, o⟩)
    else if x = '[' then skipItems fuel true (Cursor.next ⟨x :: xs, o⟩)
    else if x = '\x7b' then skipMembers fuel true (Cursor.next ⟨x :: xs, o⟩)
    else if x = '-' then skipNumber (Cursor.next ⟨x :: xs, o⟩)
    else if Numeral.isDigit x then skipNumber ⟨x :: xs, o⟩
    else Cursor.failAhead ⟨x :: xs, o⟩ .noValue := by
  rw [skipValue, Cursor.skipGap_cons hx]
  by_cases hn : x = 'n'
  · subst hn
    rfl
  by_cases ht : x = 't'
  · subst ht
    rfl
  by_cases hf : x = 'f'
  · subst hf
    rfl
  by_cases hquote : x = '"'
  · subst hquote
    rfl
  by_cases hlist : x = '['
  · subst hlist
    rfl
  by_cases hobject : x = '\x7b'
  · subst hobject
    rfl
  by_cases hminus : x = '-'
  · subst hminus
    rfl
  · simp [hn, ht, hf, hquote, hlist, hobject, hminus]

theorem skipItems_cons (first : Bool) : skipItems (fuel + 1) first ⟨x :: xs, o⟩ =
    if x = ']' then .ok (Cursor.next ⟨x :: xs, o⟩)
    else if first then skipValue fuel ⟨x :: xs, o⟩ >>= skipItems fuel false
    else if x = ',' then skipValue fuel (Cursor.next ⟨x :: xs, o⟩) >>= skipItems fuel false
    else Cursor.failAhead ⟨x :: xs, o⟩ .noListEnd := by
  rw [skipItems, Cursor.skipGap_cons hx]
  by_cases hclose : x = ']'
  · subst hclose
    rfl
  rw [if_neg hclose]
  simp only [bind, Except.bind]
  split
  · cases skipValue fuel ⟨x :: xs, o⟩ <;> rfl
  split
  · cases skipValue fuel (Cursor.next ⟨x :: xs, o⟩) <;> rfl
  · rfl

theorem skipMember_cons : skipMember fuel ⟨x :: xs, o⟩ =
    if x = '"' then do
      let c₁ ← skipString (xs.length + 2) (Cursor.next ⟨x :: xs, o⟩)
      let c₂ ← colon c₁
      skipValue fuel c₂
    else Cursor.failAhead ⟨x :: xs, o⟩ .badKey := by
  rw [skipMember, Cursor.skipGap_cons hx]
  by_cases hquote : x = '"'
  · subst hquote
    rfl
  · simp [hquote]

theorem skipMembers_cons (first : Bool) : skipMembers (fuel + 1) first ⟨x :: xs, o⟩ =
    if x = '\x7d' then .ok (Cursor.next ⟨x :: xs, o⟩)
    else if !first && x ≠ ',' then Cursor.failAhead ⟨x :: xs, o⟩ .noObjectEnd
    else skipMember fuel (if first then ⟨x :: xs, o⟩ else Cursor.next ⟨x :: xs, o⟩) >>=
      skipMembers fuel false := by
  rw [skipMembers, Cursor.skipGap_cons hx]
  by_cases hclose : x = '\x7d'
  · subst hclose
    rfl
  -- behind a comma there may be blanks, and where the first key stands there are none
  have hgap : (if first then ⟨x :: xs, o⟩ else (Cursor.next ⟨x :: xs, o⟩).skipGap) =
      (if first then ⟨x :: xs, o⟩ else Cursor.next ⟨x :: xs, o⟩ : Cursor).skipGap := by
    cases first with
    | true => exact (Cursor.skipGap_cons hx).symm
    | false => rfl
  rw [if_neg hclose, skipMember]
  simp only [hgap]
  split
  · rfl
  rcases (if first then ⟨x :: xs, o⟩ else Cursor.next ⟨x :: xs, o⟩ : Cursor).skipGap with
    ⟨_ | ⟨y, ys⟩, p⟩
  · rfl
  by_cases hquote : y = '"'
  · subst hquote
    simp only [bind, Except.bind]
    cases skipString ((Cursor.mk ('"' :: ys) p).rest.length + 1) (Cursor.next ⟨'"' :: ys, p⟩) with
    | error e => rfl
    | ok c₁ =>
      dsimp only
      cases colon c₁ with
      | error e => rfl
      | ok c₂ =>
        dsimp only
        cases skipValue fuel c₂ <;> rfl
  · simp [hquote, bind, Except.bind, Cursor.failAhead]

end Heads

theorem stable_skipMember {fuel fuel' : ℕ}
    (hvalue : ∀ c, Stable m c (skipValue fuel c) (skipValue fuel' (c.extend m))) (c : Cursor) :
    Stable m c (skipMember fuel c) (skipMember fuel' (c.extend m)) := by
  have hgap : ∀ fuel c, skipMember fuel c.skipGap = skipMember fuel c := by
    intro fuel c
    rw [skipMember, skipMember, Cursor.skipGap_skipGap]
  refine Stable.behindGap (hgap fuel) (hgap fuel') (fun o r' => .error _) (fun x xs o hx => ?_) c
  rw [skipMember_cons hx, skipMember_cons hx]
  have hlength : xs.length + 2 ≤ (xs ++ m).length + 2 := Cursor.length_le_append 2
  split
  · refine .mono ?_ (Cursor.suffix_next _)
    refine (stable_skipString hlength _).bind fun c => ?_
    exact (stable_colon c).bind fun c => hvalue c
  · exact .error _

section Steps

variable {fuel fuel' : ℕ}

/-- A value is skipped alike if the lists and objects in it are. -/
theorem stable_skipValue_succ
    (hitems : ∀ c, Stable m c (skipItems fuel true c) (skipItems fuel' true (c.extend m)))
    (hmembers : ∀ c, Stable m c (skipMembers fuel true c) (skipMembers fuel' true (c.extend m)))
    (c : Cursor) : Stable m c (skipValue (fuel + 1) c) (skipValue (fuel' + 1) (c.extend m)) := by
  have hgap : ∀ fuel c, skipValue (fuel + 1) c.skipGap = skipValue (fuel + 1) c := by
    intro fuel c
    rw [skipValue, skipValue, Cursor.skipGap_skipGap]
  refine Stable.behindGap (hgap fuel) (hgap fuel') (fun o r' => .error _) (fun x xs o hx => ?_) c
  rw [skipValue_cons hx, skipValue_cons hx]
  have hlength : xs.length + 2 ≤ (xs ++ m).length + 2 := Cursor.length_le_append 2
  have hnext : ∀ {r r' : Reading Cursor}, Stable m (Cursor.next ⟨x :: xs, o⟩) r r' →
      Stable m ⟨x :: xs, o⟩ r r' := fun h => h.mono (Cursor.suffix_next _)
  refine .ite (hnext (stable_word _ _)) ?_
  refine .ite (hnext (stable_word _ _)) ?_
  refine .ite (hnext (stable_word _ _)) ?_
  refine .ite (hnext (stable_skipString hlength _)) ?_
  refine .ite (hnext (hitems _)) ?_
  refine .ite (hnext (hmembers _)) ?_
  refine .ite (hnext (stable_skipNumber _)) ?_
  exact .ite (stable_skipNumber ⟨x :: xs, o⟩) (.error _)

/-- The rest of a list is if a value and what stands behind it are. -/
theorem stable_skipItems_succ
    (hvalue : ∀ c, Stable m c (skipValue fuel c) (skipValue fuel' (c.extend m)))
    (hitems : ∀ c, Stable m c (skipItems fuel false c) (skipItems fuel' false (c.extend m)))
    (first : Bool) (c : Cursor) :
    Stable m c (skipItems (fuel + 1) first c) (skipItems (fuel' + 1) first (c.extend m)) := by
  have hgap : ∀ fuel c, skipItems (fuel + 1) first c.skipGap = skipItems (fuel + 1) first c := by
    intro fuel c
    rw [skipItems, skipItems, Cursor.skipGap_skipGap]
  refine Stable.behindGap (hgap fuel) (hgap fuel') (fun o r' => .error _) (fun x xs o hx => ?_) c
  rw [skipItems_cons hx, skipItems_cons hx]
  split
  · exact .ok (List.suffix_cons x xs)
  split
  · exact (hvalue ⟨x :: xs, o⟩).bind hitems
  split
  · exact ((hvalue _).bind hitems).mono (Cursor.suffix_next _)
  · exact .error _

/-- So is the rest of an object. -/
theorem stable_skipMembers_succ
    (hvalue : ∀ c, Stable m c (skipValue fuel c) (skipValue fuel' (c.extend m)))
    (hmembers : ∀ c, Stable m c (skipMembers fuel false c) (skipMembers fuel' false (c.extend m)))
    (first : Bool) (c : Cursor) :
    Stable m c (skipMembers (fuel + 1) first c) (skipMembers (fuel' + 1) first (c.extend m)) := by
  have hgap : ∀ fuel c, skipMembers (fuel + 1) first c.skipGap = skipMembers (fuel + 1) first c := by
    intro fuel c
    rw [skipMembers, skipMembers, Cursor.skipGap_skipGap]
  refine Stable.behindGap (hgap fuel) (hgap fuel') (fun o r' => .error _) (fun x xs o hx => ?_) c
  rw [skipMembers_cons hx, skipMembers_cons hx]
  split
  · exact .ok (List.suffix_cons x xs)
  split
  · exact .error _
  · refine Stable.bind ?_ hmembers
    cases first with
    | true => exact stable_skipMember hvalue ⟨x :: xs, o⟩
    | false => exact (stable_skipMember hvalue _).mono (Cursor.suffix_next ⟨x :: xs, o⟩)

end Steps

/-- **What is skipped is skipped alike** where something stands behind it: values, the rest of a list and
the rest of an object, up to a number of parts. -/
theorem stable_skip (fuel : ℕ) : ∀ fuel', fuel ≤ fuel' →
    (∀ c, Stable m c (skipValue fuel c) (skipValue fuel' (c.extend m))) ∧
    (∀ first c, Stable m c (skipItems fuel first c) (skipItems fuel' first (c.extend m))) ∧
    ∀ first c, Stable m c (skipMembers fuel first c) (skipMembers fuel' first (c.extend m)) := by
  induction fuel with
  | zero => exact fun fuel' _ => ⟨fun c => .error _, fun first c => .error _, fun first c => .error _⟩
  | succ fuel ih =>
    intro fuel' hfuel
    obtain ⟨fuel', rfl⟩ : ∃ n, fuel' = n + 1 := ⟨fuel' - 1, by omega⟩
    obtain ⟨hvalue, hitems, hmembers⟩ := ih fuel' (Nat.le_of_succ_le_succ hfuel)
    exact ⟨stable_skipValue_succ (hitems true) (hmembers true),
      stable_skipItems_succ hvalue (hitems false), stable_skipMembers_succ hvalue (hmembers false)⟩

theorem stable_skipValue {fuel fuel' : ℕ} (hfuel : fuel ≤ fuel') (c : Cursor) :
    Stable m c (skipValue fuel c) (skipValue fuel' (c.extend m)) :=
  (stable_skip fuel fuel' hfuel).1 c

end JsonReader

/-! ## Shapes -/

/-- **A shape is read alike** where something stands behind the value. -/
def Shape.IsStable (s : Shape) : Prop :=
  ∀ m depth c, Stable m c (s.read depth c) (s.read depth (c.extend m))

namespace JsonReader

omit [Placed β] in
/-- A value of another type is refused in any case. -/
theorem exists_fault_of_refuse (c : Cursor) (expected : String) :
    ∃ e, (refuse c expected : Reading β) = .error e := by
  have hbind : ∀ {γ : Type} {r : Reading γ} {k : γ → Reading β}, (∀ a, ∃ e, k a = .error e) →
      ∃ e, (r >>= k) = .error e := by
    intro γ r k hk
    cases r with
    | error e => exact ⟨e, rfl⟩
    | ok a => exact hk a
  rw [refuse]
  split
  · exact hbind fun c => ⟨_, rfl⟩
  · exact hbind fun c => ⟨_, rfl⟩
  · exact hbind fun c => ⟨_, rfl⟩
  · exact hbind fun ⟨s, c⟩ => ⟨_, rfl⟩
  · exact ⟨_, rfl⟩
  · exact ⟨_, rfl⟩
  · split
    · exact hbind fun ⟨n, c⟩ => ⟨_, rfl⟩
    · exact ⟨_, rfl⟩
  · exact ⟨_, rfl⟩

theorem stable_refuse (expected : String) {r' : Reading β} : Stable m c (refuse c expected) r' := by
  obtain ⟨e, he⟩ := exists_fault_of_refuse (β := β) c expected
  rw [he]
  exact .error e

/-- A member behind its key: what is known of the fields after it. -/
def fieldMember (fs : List Field) (depth : ℕ) (known : List (String × Json)) (k : String) (c : Cursor) :
    Reading (List (String × Json) × Cursor) :=
  match fs.find? (·.name = k) with
  | some f =>
    if known.any (·.1 = k) then (afterObject c).fail (.duplicateField k)
    else do
      let c₁ ← colon c
      let q ← f.shape.read depth c₁
      return (known ++ [(k, q.1)], q.2)
  | none => do
    let c₁ ← colon c
    let c₂ ← skipValue (2 * c₁.rest.length + 2) c₁
    return (known, c₂)

/-- Fields are read member by member. -/
theorem fieldMembers_succ (fs : List Field) (depth fuel : ℕ) (first : Bool)
    (known : List (String × Json)) (c : Cursor) :
    fieldMembers fs depth (fuel + 1) first known c = (do
      let p ← objectStep first c
      if p.1 then
        let k ← string p.2.next
        let q ← fieldMember fs depth known k.1 k.2
        fieldMembers fs depth fuel false q.1 q.2
      else return (known, p.2)) := by
  rw [fieldMembers]
  rcases objectStep first c with e | ⟨_ | _, c₁⟩
  · rfl
  · rfl
  dsimp only [bind, Except.bind, if_true]
  cases string c₁.next with
  | error e => rfl
  | ok k =>
    dsimp only [fieldMember]
    cases fs.find? (·.name = k.1) with
    | some f =>
      dsimp only
      split
      · rfl
      cases colon k.2 with
      | error e => rfl
      | ok c₂ =>
        dsimp only [bind, Except.bind]
        cases f.shape.read depth c₂ <;> rfl
    | none =>
      dsimp only
      cases colon k.2 with
      | error e => rfl
      | ok c₂ =>
        dsimp only [bind, Except.bind]
        cases skipValue (2 * c₂.rest.length + 2) c₂ <;> rfl

/-- Fields are read item by item. -/
theorem fieldItems_cons (expected : String) (depth : ℕ) (f : Field) (fs : List Field) (index : ℕ)
    (first : Bool) (c : Cursor) :
    fieldItems expected depth (f :: fs) index first c = (do
      let p ← listStep first c
      if p.1 then
        let q ← f.shape.read depth p.2
        let l ← fieldItems expected depth fs (index + 1) false q.2
        return ((f.name, q.1) :: l.1, l.2)
      else
        match f.presence with
        | .required => (afterList p.2).fail (.wrongLength index expected)
        | .optional v =>
          let l ← fieldItems expected depth fs (index + 1) first p.2
          return ((f.name, v) :: l.1, l.2)) := by
  rw [fieldItems]
  rcases listStep first c with e | ⟨_ | _, c₁⟩
  · rfl
  · dsimp only [bind, Except.bind]
    cases f.presence with
    | required => rfl
    | optional v =>
      dsimp only
      cases fieldItems expected depth fs (index + 1) first c₁ <;> rfl
  dsimp only [bind, Except.bind, if_true]
  cases f.shape.read depth c₁ with
  | error e => rfl
  | ok q =>
    dsimp only
    cases fieldItems expected depth fs (index + 1) false q.2 <;> rfl

section Fields

variable {fs : List Field} (hfs : ∀ f ∈ fs, f.shape.IsStable)

include hfs

theorem stable_fieldMember (depth : ℕ) (known : List (String × Json)) (k : String) (c : Cursor) :
    Stable m c (fieldMember fs depth known k c) (fieldMember fs depth known k (c.extend m)) := by
  rw [fieldMember, fieldMember]
  cases hfind : fs.find? (·.name = k) with
  | some f =>
    dsimp only
    split
    · exact .error _
    · refine (stable_colon c).bind fun c => ?_
      exact (hfs f (List.mem_of_find?_eq_some hfind) m depth c).bind fun ⟨v, c⟩ => .here _
  | none =>
    refine (stable_colon c).bind fun c => ?_
    have hlength : 2 * c.rest.length + 2 ≤ 2 * (c.extend m).rest.length + 2 := by
      rw [Cursor.extend, List.length_append]
      omega
    exact (stable_skipValue hlength c).bind fun c => .here _

theorem stable_fieldMembers {fuel fuel' : ℕ} (hfuel : fuel ≤ fuel') (depth : ℕ) (first : Bool)
    (known : List (String × Json)) (c : Cursor) :
    Stable m c (fieldMembers fs depth fuel first known c)
      (fieldMembers fs depth fuel' first known (c.extend m)) := by
  induction fuel generalizing fuel' first known c with
  | zero => exact .error _
  | succ fuel ih =>
    obtain ⟨fuel', rfl⟩ : ∃ n, fuel' = n + 1 := ⟨fuel' - 1, by omega⟩
    rw [fieldMembers_succ, fieldMembers_succ]
    refine (stable_objectStep first c).bind fun ⟨more, c⟩ => ?_
    cases more with
    | false => exact .here _
    | true =>
      refine (stable_string_next c).bind fun ⟨k, c⟩ => ?_
      refine (stable_fieldMember hfs depth known k c).bind fun ⟨known, c⟩ => ?_
      exact ih (Nat.le_of_succ_le_succ hfuel) false known c

omit hfs in
theorem stable_fieldItems {fs : List Field} (hfs : ∀ f ∈ fs, f.shape.IsStable) (expected : String)
    (depth index : ℕ) (first : Bool) (c : Cursor) :
    Stable m c (fieldItems expected depth fs index first c)
      (fieldItems expected depth fs index first (c.extend m)) := by
  induction fs generalizing index first c with
  | nil => exact .here _
  | cons f fs ih =>
    rw [List.forall_mem_cons] at hfs
    rw [fieldItems_cons, fieldItems_cons]
    refine (stable_listStep first c).bind fun ⟨more, c⟩ => ?_
    cases more with
    | true =>
      refine (hfs.1 m depth c).bind fun ⟨v, c⟩ => ?_
      exact (ih hfs.2 (index + 1) false c).bind fun ⟨vs, c⟩ => .here _
    | false =>
      dsimp only [Placed.extend]
      cases f.presence with
      | required => exact .error _
      | optional v => exact (ih hfs.2 (index + 1) first c).bind fun ⟨vs, c⟩ => .here _

end Fields

end JsonReader

namespace Shape

open JsonReader

theorem text_read_cons (depth : ℕ) (hx : Cursor.isGap x = false) :
    text.read depth ⟨x :: xs, o⟩ =
      if x = '"' then do
        let p ← string (Cursor.next ⟨x :: xs, o⟩)
        return (.string p.1, p.2)
      else refuse ⟨x :: xs, o⟩ "a string" := by
  simp only [text, Cursor.skipGap_cons hx]
  by_cases hquote : x = '"'
  · subst hquote
    rfl
  · simp [hquote]

theorem isStable_text : text.IsStable := by
  intro m depth
  have hgap : ∀ c, text.read depth c.skipGap = text.read depth c := by
    intro c
    simp only [text, Cursor.skipGap_skipGap]
  refine Stable.behindGap hgap hgap (fun o r' => .error _) fun x xs o hx => ?_
  rw [text_read_cons depth hx, text_read_cons depth hx]
  split
  · refine .mono ?_ (Cursor.suffix_next _)
    exact (stable_string _).bind fun p => .here _
  · exact stable_refuse _

theorem isStable_natural : natural.IsStable := by
  intro m depth
  have hgap : ∀ c, natural.read depth c.skipGap = natural.read depth c := by
    intro c
    simp only [natural, Cursor.skipGap_skipGap]
  refine Stable.behindGap hgap hgap (fun o r' => .error _) fun x xs o hx => ?_
  simp only [natural, Cursor.skipGap_cons hx]
  split
  · refine (stable_numberToken ⟨x :: xs, o⟩).bind fun ⟨n, c⟩ => ?_
    match n with
    | .integer (.ofNat k) => exact .here _
    | .integer (.negSucc k) => exact .error _
    | .float y => exact .error _
  · exact stable_refuse _

theorem isStable_anything : anything.IsStable :=
  fun _ => stable_value

theorem orNull_read_cons (s : Shape) (depth : ℕ) (hx : Cursor.isGap x = false) :
    (orNull s).read depth ⟨x :: xs, o⟩ =
      if x = 'n' then do
        let c ← word (Cursor.next ⟨x :: xs, o⟩) "ull".toList
        return (.null, c)
      else s.read depth ⟨x :: xs, o⟩ := by
  simp only [orNull, Cursor.skipGap_cons hx]
  by_cases hn : x = 'n'
  · subst hn
    rfl
  · simp [hn]

theorem isStable_orNull {s : Shape} (hs : s.IsStable) : (orNull s).IsStable := by
  intro m depth
  have hgap : ∀ c, (orNull s).read depth c.skipGap = (orNull s).read depth c := by
    intro c
    simp only [orNull, Cursor.skipGap_skipGap]
  refine Stable.behindGap hgap hgap (fun o r' => (hs m depth ⟨[], o⟩).stop rfl) fun x xs o hx => ?_
  rw [orNull_read_cons s depth hx, orNull_read_cons s depth hx]
  split
  · exact ((stable_word _ _).bind fun c => .here _).mono (Cursor.suffix_next _)
  · exact hs m depth ⟨x :: xs, o⟩

/-! ## Lists and records -/

theorem list_read_skipGap (s : Shape) (depth : ℕ) (c : Cursor) :
    (list s).read depth c.skipGap = (list s).read depth c := by
  simp only [list, Cursor.skipGap_skipGap]

theorem list_read_cons (s : Shape) (depth : ℕ) (hx : Cursor.isGap x = false) :
    (list s).read depth ⟨x :: xs, o⟩ =
      if x = '[' then
        if depth ≤ 1 then Cursor.failAhead ⟨x :: xs, o⟩ .tooDeep
        else enclosed listEnd .array
          (items (s.read (depth - 1)) (xs.length + 2) true (Cursor.next ⟨x :: xs, o⟩))
      else refuse ⟨x :: xs, o⟩ "a sequence" := by
  simp only [list, Cursor.skipGap_cons hx]
  by_cases hlist : x = '['
  · subst hlist
    rfl
  · simp [hlist]

/-- **A list of shaped values is read alike** even where nothing stands behind it. -/
theorem list_extend {s : Shape} (hs : s.IsStable) {depth : ℕ} {c c' : Cursor} {v : Json}
    (h : (list s).read depth c = .ok (v, c')) :
    (list s).read depth (c.extend m) = .ok (v, c'.extend m) := by
  refine Stable.extend_behindGap (b := (v, c')) (list_read_skipGap s depth) (fun o => nofun)
    (fun x xs o hx h => ?_) h
  rw [list_read_cons _ _ hx] at h ⊢
  split at h
  · rename_i hlist
    split at h
    · cases h
    · rename_i hdepth
      have hlength : xs.length + 2 ≤ (xs ++ m).length + 2 := Cursor.length_le_append 2
      have hitems := stable_items (hs m (depth - 1)) hlength true (Cursor.next ⟨x :: xs, o⟩)
      rw [if_pos hlist, if_neg hdepth]
      exact enclosed_extend endsAt_listEnd _ hitems h
  · obtain ⟨e, he⟩ := exists_fault_of_refuse (β := Json × Cursor) ⟨x :: xs, o⟩ "a sequence"
    rw [he] at h
    cases h

/-- A record whose members have been read up to its brace. -/
def record (fs : List Field) (p : List (String × Json) × Cursor) : Reading (Json × Cursor) :=
  match complete fs p.1 with
  | .error f => (afterObject p.2).fail f
  | .ok ms => do
    let c ← objectEnd p.2
    return (.object ms, c)

theorem fields_read_cons (name : String) (fs : List Field) (depth : ℕ) (hx : Cursor.isGap x = false) :
    (fields name fs).read depth ⟨x :: xs, o⟩ =
      if x = '[' then
        if depth ≤ 1 then Cursor.failAhead ⟨x :: xs, o⟩ .tooDeep
        else enclosed listEnd .object
          (fieldItems (name ++ " with " ++ toString fs.length ++ " elements") (depth - 1) fs 0 true
            (Cursor.next ⟨x :: xs, o⟩))
      else if x = '\x7b' then
        if depth ≤ 1 then Cursor.failAhead ⟨x :: xs, o⟩ .tooDeep
        else fieldMembers fs (depth - 1) (xs.length + 2) true [] (Cursor.next ⟨x :: xs, o⟩) >>=
          record fs
      else refuse ⟨x :: xs, o⟩ name := by
  simp only [fields, Cursor.skipGap_cons hx]
  by_cases hlist : x = '['
  · subst hlist
    rfl
  by_cases hobject : x = '\x7b'
  · subst hobject
    rfl
  · simp [hlist, hobject]

theorem isStable_fields (name : String) {fs : List Field} (hfs : ∀ f ∈ fs, f.shape.IsStable) :
    (fields name fs).IsStable := by
  intro m depth
  have hgap : ∀ c, (fields name fs).read depth c.skipGap = (fields name fs).read depth c := by
    intro c
    simp only [fields, Cursor.skipGap_skipGap]
  refine Stable.behindGap hgap hgap (fun o r' => .error _) fun x xs o hx => ?_
  rw [fields_read_cons name fs depth hx, fields_read_cons name fs depth hx]
  split
  · split
    · exact .error _
    · have hitems := stable_fieldItems (m := m) hfs
        (name ++ " with " ++ toString fs.length ++ " elements") (depth - 1) 0 true
        (Cursor.next ⟨x :: xs, o⟩)
      exact (stable_enclosed endsAt_listEnd _ hitems).mono (Cursor.suffix_next _)
  split
  · split
    · exact .error _
    · have hlength : xs.length + 2 ≤ (xs ++ m).length + 2 := Cursor.length_le_append 2
      refine .mono ?_ (Cursor.suffix_next _)
      refine (stable_fieldMembers hfs hlength (depth - 1) true [] _).bind fun ⟨known, c⟩ => ?_
      dsimp only [record, Placed.extend]
      cases complete fs known with
      | error f => exact .error _
      | ok ms => exact (endsAt_objectEnd.stable c).bind fun c => .here _
  · exact stable_refuse _

end Shape

end Multilint
