import Multilint.Json.Reader
import Multilint.Proofs.Sequence
/-!
# What stands behind a value

A reader that stops in front of something has not looked behind it: on a longer text it gives the same, and
stops at the same place (`Stable`). This carries over from the parts of a reader to the whole
(`Stable.bind`), across blanks (`Stable.behindGap`) and across digits (`Stable.digits`). It is shown here of
words, strings and numbers; a number may go on in a longer text, and so it is only read alike where
something else stands behind it.
-/

namespace Multilint

/-! ## Longer texts -/

namespace Cursor

variable {c : Cursor} {m xs : List Char} {x : Char} {o : ℕ}

/-- The same place in a text that goes on longer. -/
def extend (c : Cursor) (m : List Char) : Cursor :=
  ⟨c.rest ++ m, c.offset⟩

theorem suffix_next (c : Cursor) : c.next.rest <:+ c.rest := by
  obtain ⟨_ | ⟨x, xs⟩, o⟩ := c
  · exact List.suffix_refl []
  · exact List.suffix_cons x xs

theorem suffix_skipGap (c : Cursor) : c.skipGap.rest <:+ c.rest :=
  List.dropWhile_suffix _

theorem suffix_skipDigits (c : Cursor) : c.skipDigits.rest <:+ c.rest :=
  List.dropWhile_suffix _

/-- What a run of characters is followed by ends it in a longer text, too. -/
theorem span_append {p : Char → Bool} (h : xs.dropWhile p ≠ []) :
    (xs ++ m).dropWhile p = xs.dropWhile p ++ m ∧ (xs ++ m).takeWhile p = xs.takeWhile p := by
  induction xs with
  | nil => exact absurd rfl h
  | cons x xs ih =>
    cases hx : p x with
    | false => simp [hx]
    | true =>
      rw [List.dropWhile_cons_of_pos hx] at h
      obtain ⟨hdrop, htake⟩ := ih h
      simp [hx, hdrop, htake]

theorem length_le_append (n : ℕ) : xs.length + n ≤ (xs ++ m).length + n := by
  rw [List.length_append]
  omega

theorem skipGap_extend (h : c.skipGap.rest ≠ []) : (c.extend m).skipGap = c.skipGap.extend m := by
  obtain ⟨hdrop, htake⟩ := span_append (m := m) h
  rw [skipGap, extend, hdrop, htake]
  rfl

theorem skipDigits_extend (h : c.skipDigits.rest ≠ []) :
    (c.extend m).skipDigits = c.skipDigits.extend m ∧
      (c.extend m).rest.takeWhile Numeral.isDigit = c.rest.takeWhile Numeral.isDigit := by
  obtain ⟨hdrop, htake⟩ := span_append (m := m) h
  rw [skipDigits, extend, hdrop, htake]
  exact ⟨rfl, rfl⟩

/-- Where there is no blank, none is skipped. -/
theorem skipGap_cons (hx : isGap x = false) : skipGap ⟨x :: xs, o⟩ = ⟨x :: xs, o⟩ := by
  simp [skipGap, hx]

theorem isGap_of_skipGap (h : c.skipGap = ⟨x :: xs, o⟩) : isGap x = false := by
  have hne : c.rest.dropWhile isGap ≠ [] := by
    rw [show c.rest.dropWhile isGap = x :: xs from congrArg rest h]
    exact List.cons_ne_nil x xs
  have hhead := List.head_dropWhile_not isGap hne
  simpa [show c.rest.dropWhile isGap = x :: xs from congrArg rest h] using hhead

@[simp] theorem skipGap_skipGap (c : Cursor) : c.skipGap.skipGap = c.skipGap := by
  rcases hc : c.skipGap with ⟨_ | ⟨x, xs⟩, o⟩
  · rfl
  · exact skipGap_cons (isGap_of_skipGap hc)

end Cursor

/-! ## Stable readings -/

/-- What reading gives has a place: that of the cursor behind it. -/
class Placed (β : Type) where
  /-- The place. -/
  place : β → Cursor
  /-- The same in a text that goes on longer. -/
  extend : β → List Char → β

instance : Placed Cursor :=
  ⟨id, Cursor.extend⟩

instance {α : Type} : Placed (α × Cursor) :=
  ⟨Prod.snd, fun p m => (p.1, p.2.extend m)⟩

open Placed (place)

/-- **A reading is stable**: it stops at a later place, and if something is left there, reading a text that
goes on longer gives the same. -/
structure Stable {β : Type} [Placed β] (m : List Char) (c : Cursor) (r r' : Reading β) : Prop where
  /-- What is left is the end of what there was. -/
  suffix : ∀ b, r = .ok b → (place b).rest <:+ c.rest
  /-- The longer text is read alike. -/
  same : ∀ b, r = .ok b → (place b).rest ≠ [] → r' = .ok (Placed.extend b m)

variable {α β γ : Type} [Placed β] [Placed γ] {m xs : List Char} {c c₁ : Cursor} {r r' : Reading β}
variable {x : Char} {o : ℕ}

namespace Stable

/-- Nothing is claimed of a failure. -/
theorem error (e : JsonFailure) : Stable m c (.error e) r' :=
  ⟨nofun, nofun⟩

theorem ok {b : β} (h : (place b).rest <:+ c.rest) :
    Stable m c (.ok b) (.ok (Placed.extend b m)) := by
  refine ⟨fun b' hb => ?_, fun b' hb _ => ?_⟩
  · obtain rfl := Except.ok.inj hb
    exact h
  · obtain rfl := Except.ok.inj hb
    rfl

/-- Stopping at once. -/
theorem here (a : α) : Stable m c (.ok (a, c)) (.ok (a, c.extend m)) :=
  .ok (List.suffix_refl _)

/-- Reading may start later. -/
theorem mono (h : Stable m c₁ r r') (hc : c₁.rest <:+ c.rest) : Stable m c r r' :=
  ⟨fun b hb => (h.suffix b hb).trans hc, h.same⟩

/-- Where nothing is left, no longer text matters. -/
theorem stop {r'' : Reading β} (h : Stable m c r r') (hc : c.rest = []) : Stable m c r r'' := by
  refine ⟨h.suffix, fun b hb hne => ?_⟩
  have hsuffix := h.suffix b hb
  rw [hc, List.suffix_nil] at hsuffix
  exact absurd hsuffix hne

/-- **Reading goes on** from where it stopped. -/
theorem bind {k k' : β → Reading γ} (h : Stable m c r r')
    (hk : ∀ b, Stable m (place b) (k b) (k' (Placed.extend b m))) :
    Stable m c (r >>= k) (r' >>= k') := by
  cases r with
  | error e => exact error e
  | ok b =>
    refine .mono ?_ (h.suffix b rfl)
    by_cases hb : (place b).rest = []
    · exact (hk b).stop hb
    · rw [h.same b rfl hb]
      exact hk b

/-- **A choice** that does not look behind the place is stable if both ways are. -/
theorem ite {p : Prop} [Decidable p] {r₁ r₁' : Reading β} (h : Stable m c r r')
    (h₁ : Stable m c r₁ r₁') : Stable m c (if p then r else r₁) (if p then r' else r₁') := by
  split
  · exact h
  · exact h₁

/-- **Blanks are skipped first.** -/
theorem behindGap {f g : Cursor → Reading β} (hf : ∀ c, f c.skipGap = f c)
    (hg : ∀ c, g c.skipGap = g c) (hnil : ∀ o r', Stable m ⟨[], o⟩ (f ⟨[], o⟩) r')
    (hcons : ∀ x xs o, Cursor.isGap x = false →
      Stable m ⟨x :: xs, o⟩ (f ⟨x :: xs, o⟩) (g ⟨x :: (xs ++ m), o⟩)) (c : Cursor) :
    Stable m c (f c) (g (c.extend m)) := by
  rw [← hf c]
  refine .mono ?_ c.suffix_skipGap
  rcases hc : c.skipGap with ⟨_ | ⟨x, xs⟩, o⟩
  · exact hnil o _
  · have hne : c.skipGap.rest ≠ [] := by
      rw [hc]
      exact List.cons_ne_nil x xs
    rw [← hg, Cursor.skipGap_extend hne, hc]
    exact hcons x xs o (Cursor.isGap_of_skipGap hc)

/-- Blanks are skipped first also by a reader that need not stop in front of something. -/
theorem extend_behindGap {f : Cursor → Reading β} {b : β} (hf : ∀ c, f c.skipGap = f c)
    (hnil : ∀ o, f ⟨[], o⟩ ≠ .ok b)
    (hcons : ∀ x xs o, Cursor.isGap x = false → f ⟨x :: xs, o⟩ = .ok b →
      f ⟨x :: (xs ++ m), o⟩ = .ok (Placed.extend b m)) (h : f c = .ok b) :
    f (c.extend m) = .ok (Placed.extend b m) := by
  rw [← hf c] at h
  rcases hc : c.skipGap with ⟨_ | ⟨x, xs⟩, o⟩
  · rw [hc] at h
    exact absurd h (hnil o)
  · have hne : c.skipGap.rest ≠ [] := by
      rw [hc]
      exact List.cons_ne_nil x xs
    rw [hc] at h
    rw [← hf, Cursor.skipGap_extend hne, hc]
    exact hcons x xs o (Cursor.isGap_of_skipGap hc) h

/-- **Digits are taken first.** -/
theorem digits {f g : List Char → Cursor → Reading β}
    (h : ∀ ds c, Stable m c (f ds c) (g ds (c.extend m))) (c : Cursor) :
    Stable m c (f (c.rest.takeWhile Numeral.isDigit) c.skipDigits)
      (g ((c.extend m).rest.takeWhile Numeral.isDigit) (c.extend m).skipDigits) := by
  refine .mono ?_ c.suffix_skipDigits
  by_cases hne : c.skipDigits.rest = []
  · exact (h _ _).stop hne
  · obtain ⟨hskip, htake⟩ := Cursor.skipDigits_extend (m := m) hne
    rw [hskip, htake]
    exact h _ _

end Stable

namespace JsonReader

/-! ## Words and strings -/

theorem stable_word (ws : List Char) (c : Cursor) :
    Stable m c (word c ws) (word (c.extend m) ws) := by
  induction ws generalizing c with
  | nil => exact .ok (List.suffix_refl _)
  | cons w ws ih =>
    obtain ⟨_ | ⟨x, xs⟩, o⟩ := c
    · exact .error _
    · dsimp only [word, Cursor.extend, List.cons_append]
      by_cases hx : x = w
      · rw [if_pos hx, if_pos hx]
        exact (ih _).mono (Cursor.suffix_next _)
      · rw [if_neg hx]
        exact .error _

theorem stable_hexUnit (c : Cursor) : Stable m c (hexUnit c) (hexUnit (c.extend m)) := by
  match c with
  | ⟨a :: b :: x :: y :: rest, o⟩ =>
    rw [hexUnit]
    split
    · exact .error _
    · rename_i hcount
      have hcount' : ¬ Text.byteCount ((Cursor.extend ⟨a :: b :: x :: y :: rest, o⟩ m).rest.take 4) < 4 :=
        hcount
      rw [hexUnit, if_neg hcount']
      dsimp only [Cursor.extend, List.cons_append]
      cases Numeral.valueIn? 16 [a, b, x, y] with
      | none => exact .error _
      | some n => exact .ok ⟨[a, b, x, y], rfl⟩
  | ⟨[], o⟩ | ⟨[_], o⟩ | ⟨[_, _], o⟩ | ⟨[_, _, _], o⟩ =>
    rw [hexUnit]
    split <;> exact .error _

/-- The coming character is the same, where there is one. -/
theorem stable_comingChar {k k' : Char → Reading β}
    (hk : ∀ x xs, c.rest = x :: xs → Stable m c (k x) (k' x)) :
    Stable m c (comingChar c >>= k) (comingChar (c.extend m) >>= k') := by
  obtain ⟨_ | ⟨x, xs⟩, o⟩ := c
  · exact .error _
  · exact hk x xs rfl

theorem stable_unicodeEscape (c : Cursor) :
    Stable m c (unicodeEscape c) (unicodeEscape (c.extend m)) := by
  refine (stable_hexUnit c).bind fun ⟨n, c⟩ => ?_
  dsimp only [place, Placed.extend]
  split
  · exact .error _
  split
  · exact .here _
  -- a second escape must follow
  refine stable_comingChar fun x xs hx => ?_
  split
  · exact .error _
  obtain ⟨_, o⟩ := c
  subst hx
  refine .mono ?_ (Cursor.suffix_next _)
  refine stable_comingChar fun y ys hy => ?_
  split
  · exact .error _
  obtain rfl : xs = y :: ys := hy
  refine .mono ?_ (Cursor.suffix_next _)
  refine (stable_hexUnit _).bind fun ⟨n, c⟩ => ?_
  dsimp only [place, Placed.extend]
  split
  · exact .error _
  · exact .here _

/-- The character of an escape whose backslash has been read. -/
def escape (c : Cursor) : Reading (Char × Cursor) := do
  let e ← comingChar c
  if e = 'u' then unicodeEscape c.next
  else
    match plainEscape? e with
    | some y => return (y, c.next)
    | none => c.failPast .badEscape

/-- A string is read character by character. -/
theorem stringBody_succ (fuel : ℕ) (done : List Char) (c : Cursor) :
    stringBody (fuel + 1) done c = (do
      let x ← comingChar c
      if x = '"' then return (String.ofList done.reverse, c.next)
      else if x = '\\' then
        let p ← escape c.next
        stringBody fuel (p.1 :: done) p.2
      else if x.toNat < 32 then c.failPast .controlCharacter
      else stringBody fuel (x :: done) c.next) := by
  obtain ⟨_ | ⟨x, xs⟩, o⟩ := c
  · rfl
  rw [stringBody]
  change _ = (if x = '"' then _ else if x = '\\' then _ else if x.toNat < 32 then _ else _)
  refine if_congr Iff.rfl rfl (if_congr Iff.rfl ?_ rfl)
  rw [escape]
  cases comingChar (Cursor.next ⟨x :: xs, o⟩) with
  | error e => rfl
  | ok e =>
    dsimp only [bind, Except.bind]
    split
    · cases unicodeEscape (Cursor.next ⟨x :: xs, o⟩).next with
      | error e => rfl
      | ok p => rfl
    · cases plainEscape? e with
      | none => rfl
      | some y => rfl

theorem stable_escape (c : Cursor) : Stable m c (escape c) (escape (c.extend m)) := by
  refine stable_comingChar fun x xs hx => ?_
  obtain ⟨_, o⟩ := c
  subst hx
  refine .mono ?_ (Cursor.suffix_next _)
  split
  · exact stable_unicodeEscape _
  · cases plainEscape? x with
    | none => exact .error _
    | some y => exact .here y

/-- **A string is read alike**, however many characters it may have. -/
theorem stable_stringBody {fuel fuel' : ℕ} (hfuel : fuel ≤ fuel') (done : List Char) (c : Cursor) :
    Stable m c (stringBody fuel done c) (stringBody fuel' done (c.extend m)) := by
  induction fuel generalizing fuel' done c with
  | zero => exact .error _
  | succ fuel ih =>
    obtain ⟨fuel', rfl⟩ : ∃ n, fuel' = n + 1 := ⟨fuel' - 1, by omega⟩
    have hfuel' : fuel ≤ fuel' := Nat.le_of_succ_le_succ hfuel
    rw [stringBody_succ, stringBody_succ]
    refine stable_comingChar fun x xs hx => ?_
    obtain ⟨_, o⟩ := c
    subst hx
    refine .mono ?_ (Cursor.suffix_next _)
    split
    · exact .here _
    split
    · exact (stable_escape _).bind fun ⟨y, c⟩ => ih hfuel' (y :: done) c
    split
    · exact .error _
    · exact ih hfuel' (x :: done) _

theorem stable_string (c : Cursor) : Stable m c (string c) (string (c.extend m)) :=
  stable_stringBody (Cursor.length_le_append 1) [] c

/-- A string whose opening quote comes next. -/
theorem stable_string_next (c : Cursor) :
    Stable m c (string c.next) (string (c.extend m).next) := by
  obtain ⟨_ | ⟨x, xs⟩, o⟩ := c
  · exact .error _
  · exact (stable_string (Cursor.next ⟨x :: xs, o⟩)).mono (Cursor.suffix_next _)

/-! ## Numbers -/

variable (negative : Bool) (significand : ℕ)

theorem stable_decimal (exponent : Int) (c : Cursor) :
    Stable m c (decimal negative significand exponent c)
      (decimal negative significand exponent (c.extend m)) := by
  rw [decimal, decimal]
  generalize Binary64.ofNat significand = x
  induction 4 generalizing x exponent with
  | zero => exact .here _
  | succ fuel ih =>
    rw [decimal.go, decimal.go]
    by_cases hsmall : exponent.natAbs ≤ 308
    · rw [if_pos hsmall, if_pos hsmall]
      generalize (if 0 ≤ exponent then x.timesTen exponent.natAbs else x.overTen exponent.natAbs) = y
      dsimp only
      split
      · exact .error _
      · exact .here _
    · rw [if_neg hsmall, if_neg hsmall]
      generalize x.overTen 308 = y
      split
      · exact .here _
      split
      · exact .error _
      · exact ih _ y

/-- The sign of an exponent. -/
def exponentSign (c : Cursor) : Bool × Cursor :=
  match c.rest with
  | '+' :: _ => (false, c.next)
  | '-' :: _ => (true, c.next)
  | _ => (false, c)

theorem exponentSign_cons : exponentSign ⟨x :: xs, o⟩ =
    if x = '+' then (false, Cursor.next ⟨x :: xs, o⟩)
    else if x = '-' then (true, Cursor.next ⟨x :: xs, o⟩) else (false, ⟨x :: xs, o⟩) := by
  by_cases hplus : x = '+'
  · subst hplus
    rfl
  by_cases hminus : x = '-'
  · subst hminus
    rfl
  · simp [exponentSign, hplus, hminus]

theorem suffix_exponentSign (c : Cursor) : (exponentSign c).2.rest <:+ c.rest := by
  obtain ⟨_ | ⟨x, xs⟩, o⟩ := c
  · exact List.suffix_refl []
  · rw [exponentSign_cons]
    split
    · exact Cursor.suffix_next _
    split
    · exact Cursor.suffix_next _
    · exact List.suffix_refl _

theorem exponentSign_extend (hc : c.rest ≠ []) :
    exponentSign (c.extend m) = ((exponentSign c).1, (exponentSign c).2.extend m) := by
  obtain ⟨_ | ⟨x, xs⟩, o⟩ := c
  · exact absurd rfl hc
  · change exponentSign ⟨x :: (xs ++ m), o⟩ = _
    rw [exponentSign_cons, exponentSign_cons]
    split
    · rfl
    split
    · rfl
    · rfl

/-- **A letter and a sign are taken first.** -/
theorem stable_exponentSign {f : Bool → Cursor → Reading β}
    (hnil : ∀ minus o r', Stable m ⟨[], o⟩ (f minus ⟨[], o⟩) r')
    (hcons : ∀ minus x xs o,
      Stable m ⟨x :: xs, o⟩ (f minus ⟨x :: xs, o⟩) (f minus ⟨x :: (xs ++ m), o⟩)) :
    Stable m ⟨x :: xs, o⟩
      (f (exponentSign (Cursor.next ⟨x :: xs, o⟩)).1 (exponentSign (Cursor.next ⟨x :: xs, o⟩)).2)
      (f (exponentSign (Cursor.next ⟨x :: (xs ++ m), o⟩)).1
        (exponentSign (Cursor.next ⟨x :: (xs ++ m), o⟩)).2) := by
  have hnext : Cursor.next ⟨x :: (xs ++ m), o⟩ = (Cursor.next ⟨x :: xs, o⟩).extend m := rfl
  rw [hnext]
  refine .mono ?_ (Cursor.suffix_next _)
  generalize Cursor.next ⟨x :: xs, o⟩ = c
  by_cases hc : c.rest = []
  · obtain ⟨_, o⟩ := c
    subst hc
    exact hnil false o _
  · rw [exponentSign_extend hc]
    refine .mono ?_ (suffix_exponentSign c)
    obtain ⟨minus, ⟨_ | ⟨y, ys⟩, o⟩⟩ := exponentSign c
    · exact hnil minus o _
    · exact hcons minus y ys o

/-- The number with the digits of its exponent, which start at an offset. -/
def exponentOf (start : Int) (minus : Bool) (offset : ℕ) (ds : List Char) (c : Cursor) :
    Reading (JsonNumber × Cursor) :=
  if 0x80000000 ≤ Numeral.value ds then
    if significand ≠ 0 && !minus then
      let short := (List.range (ds.length + 1)).find? fun k => 0x80000000 ≤ Numeral.value (ds.take k)
      .error ⟨.tooLarge, some (offset + short.getD ds.length)⟩
    else
      let zero : Binary64 := ⟨0⟩
      .ok (.float (if negative then zero.negate else zero), c)
  else decimal negative significand
    (start + (if minus then -(Numeral.value ds : Int) else Numeral.value ds)) c

/-- The number whose exponent has been read up to its digits. -/
def exponentDigits (start : Int) (minus : Bool) (c : Cursor) : Reading (JsonNumber × Cursor) :=
  match c.rest with
  | [] => c.fail .endInValue
  | x :: _ =>
    if !Numeral.isDigit x then c.failPast .badNumber
    else exponentOf negative significand start minus c.offset
      (c.rest.takeWhile Numeral.isDigit) c.skipDigits

theorem exponentPart_eq (start : Int) (c : Cursor) :
    exponentPart negative significand start c =
      exponentDigits negative significand start (exponentSign c.next).1 (exponentSign c.next).2 :=
  rfl

theorem stable_exponentOf (start : Int) (minus : Bool) (offset : ℕ) (ds : List Char) (c : Cursor) :
    Stable m c (exponentOf negative significand start minus offset ds c)
      (exponentOf negative significand start minus offset ds (c.extend m)) := by
  rw [exponentOf, exponentOf]
  split
  · split
    · exact .error _
    · exact .here _
  · exact stable_decimal _ _ _ c

theorem stable_exponentPart (start : Int) :
    Stable m ⟨x :: xs, o⟩ (exponentPart negative significand start ⟨x :: xs, o⟩)
      (exponentPart negative significand start ⟨x :: (xs ++ m), o⟩) := by
  rw [exponentPart_eq, exponentPart_eq]
  refine stable_exponentSign (fun minus o r' => .error _) fun minus y ys o => ?_
  change Stable m _ (if !Numeral.isDigit y then _ else _) (if !Numeral.isDigit y then _ else _)
  split
  · exact .error _
  · exact Stable.digits (stable_exponentOf _ _ _ _ _) ⟨y :: ys, o⟩

theorem numberEnd_cons (start : Int) : numberEnd negative significand start ⟨x :: xs, o⟩ =
    if x = 'e' ∨ x = 'E' then exponentPart negative significand start ⟨x :: xs, o⟩
    else decimal negative significand start ⟨x :: xs, o⟩ := by
  by_cases hx : x = 'e' ∨ x = 'E'
  · rw [if_pos hx]
    rcases hx with rfl | rfl
    · rfl
    · rfl
  · rw [if_neg hx]
    rw [not_or] at hx
    simp [numberEnd, hx]

theorem stable_numberEnd (start : Int) (c : Cursor) :
    Stable m c (numberEnd negative significand start c)
      (numberEnd negative significand start (c.extend m)) := by
  obtain ⟨_ | ⟨x, xs⟩, o⟩ := c
  · exact (stable_decimal _ _ _ _).stop rfl
  · change Stable m _ _ (numberEnd negative significand start ⟨x :: (xs ++ m), o⟩)
    rw [numberEnd_cons, numberEnd_cons]
    split
    · exact stable_exponentPart _ _ _
    · exact stable_decimal _ _ _ _

/-- The number with the digits of its fraction, of which there must be some. -/
def fractionDigits (start : Int) (fault : JsonFailure) (ds : List Char) (c : Cursor) :
    Reading (JsonNumber × Cursor) :=
  if ds.isEmpty then .error fault
  else numberEnd negative (significandOf significand ds).1 (start - (significandOf significand ds).2) c

theorem fractionPart_eq (start : Int) (c : Cursor) : ∃ fault,
    fractionPart negative significand start c = fractionDigits negative significand start fault
      (c.next.rest.takeWhile Numeral.isDigit) c.next.skipDigits := by
  rw [fractionPart]
  dsimp only [fractionDigits]
  cases hrest : c.next.rest with
  | nil => exact ⟨_, rfl⟩
  | cons x xs => exact ⟨_, rfl⟩

theorem stable_fractionDigits (start : Int) (fault fault' : JsonFailure) (ds : List Char) (c : Cursor) :
    Stable m c (fractionDigits negative significand start fault ds c)
      (fractionDigits negative significand start fault' ds (c.extend m)) := by
  rw [fractionDigits, fractionDigits]
  split
  · exact .error _
  · exact stable_numberEnd _ _ _ c

theorem stable_fractionPart (start : Int) :
    Stable m ⟨x :: xs, o⟩ (fractionPart negative significand start ⟨x :: xs, o⟩)
      (fractionPart negative significand start ⟨x :: (xs ++ m), o⟩) := by
  obtain ⟨fault, heq⟩ := fractionPart_eq negative significand start ⟨x :: xs, o⟩
  obtain ⟨fault', heq'⟩ := fractionPart_eq negative significand start ⟨x :: (xs ++ m), o⟩
  rw [heq, heq']
  refine .mono ?_ (Cursor.suffix_next _)
  exact Stable.digits (stable_fractionDigits _ _ _ _ _) (Cursor.next ⟨x :: xs, o⟩)

/-- The number that is only a whole part. -/
def wholeNumber (dropped : ℕ) (c : Cursor) : Reading (JsonNumber × Cursor) :=
  if 0 < dropped then decimal negative significand dropped c
  else if !negative then .ok (.integer significand, c)
  else if significand = 0 || 0x8000000000000000 < significand then
    .ok (.float (Binary64.ofNat significand).negate, c)
  else .ok (.integer (-(significand : Int)), c)

theorem stable_wholeNumber (dropped : ℕ) (c : Cursor) :
    Stable m c (wholeNumber negative significand dropped c)
      (wholeNumber negative significand dropped (c.extend m)) := by
  rw [wholeNumber, wholeNumber]
  split
  · exact stable_decimal _ _ _ _
  split
  · exact .here _
  split
  · exact .here _
  · exact .here _

theorem afterWhole_cons (dropped : ℕ) : afterWhole negative significand dropped ⟨x :: xs, o⟩ =
    if x = '.' then fractionPart negative significand dropped ⟨x :: xs, o⟩
    else if x = 'e' ∨ x = 'E' then exponentPart negative significand dropped ⟨x :: xs, o⟩
    else wholeNumber negative significand dropped ⟨x :: xs, o⟩ := by
  by_cases hdot : x = '.'
  · subst hdot
    rfl
  rw [if_neg hdot]
  by_cases hx : x = 'e' ∨ x = 'E'
  · rw [if_pos hx]
    rcases hx with rfl | rfl
    · rfl
    · rfl
  · rw [if_neg hx]
    rw [not_or] at hx
    simp [afterWhole, wholeNumber, hdot, hx]

theorem stable_afterWhole (dropped : ℕ) (c : Cursor) :
    Stable m c (afterWhole negative significand dropped c)
      (afterWhole negative significand dropped (c.extend m)) := by
  obtain ⟨_ | ⟨x, xs⟩, o⟩ := c
  · exact (stable_wholeNumber negative significand dropped ⟨[], o⟩).stop rfl
  · change Stable m _ _ (afterWhole negative significand dropped ⟨x :: (xs ++ m), o⟩)
    rw [afterWhole_cons, afterWhole_cons]
    split
    · exact stable_fractionPart _ _ _
    split
    · exact stable_exponentPart _ _ _
    · exact stable_wholeNumber _ _ _ _

/-- The number whose first digit is not zero. -/
def wholeDigits (ds : List Char) (c : Cursor) : Reading (JsonNumber × Cursor) :=
  afterWhole negative (significandOf 0 ds).1 (ds.length - (significandOf 0 ds).2) c

theorem unsignedNumber_cons : unsignedNumber negative ⟨x :: xs, o⟩ =
    if x = '0' then
      match xs with
      | y :: _ => if Numeral.isDigit y then (Cursor.next ⟨x :: xs, o⟩).failAhead .badNumber
        else afterWhole negative 0 0 (Cursor.next ⟨x :: xs, o⟩)
      | [] => afterWhole negative 0 0 (Cursor.next ⟨x :: xs, o⟩)
    else if !Numeral.isDigit x then (Cursor.mk (x :: xs) o).failPast .badNumber
    else wholeDigits negative ((x :: xs).takeWhile Numeral.isDigit)
      (Cursor.skipDigits ⟨x :: xs, o⟩) := by
  by_cases hzero : x = '0'
  · subst hzero
    cases xs with
    | nil => rfl
    | cons y ys => rfl
  · rw [if_neg hzero]
    simp [unsignedNumber, wholeDigits]

theorem stable_unsignedNumber (c : Cursor) :
    Stable m c (unsignedNumber negative c) (unsignedNumber negative (c.extend m)) := by
  obtain ⟨_ | ⟨x, xs⟩, o⟩ := c
  · exact .error _
  change Stable m _ _ (unsignedNumber negative ⟨x :: (xs ++ m), o⟩)
  rw [unsignedNumber_cons, unsignedNumber_cons]
  split
  · refine .mono ?_ (Cursor.suffix_next _)
    cases xs with
    | nil => exact (stable_afterWhole _ _ _ _).stop rfl
    | cons y ys =>
      dsimp only [List.cons_append]
      split
      · exact .error _
      · exact stable_afterWhole negative 0 0 (Cursor.next ⟨x :: y :: ys, o⟩)
  split
  · exact .error _
  · exact Stable.digits (f := wholeDigits negative) (g := wholeDigits negative)
      (fun ds c => stable_afterWhole _ _ _ c) ⟨x :: xs, o⟩

/-- **A number is read alike** where something stands behind it. -/
theorem stable_numberToken (c : Cursor) :
    Stable m c (numberToken c) (numberToken (c.extend m)) := by
  obtain ⟨_ | ⟨x, xs⟩, o⟩ := c
  · exact .error _
  by_cases hx : x = '-'
  · subst hx
    exact (stable_unsignedNumber true _).mono (Cursor.suffix_next _)
  · have hpositive : ∀ ys, numberToken ⟨x :: ys, o⟩ = unsignedNumber false ⟨x :: ys, o⟩ := by
      intro ys
      simp [numberToken, hx]
    change Stable m _ _ (numberToken ⟨x :: (xs ++ m), o⟩)
    rw [hpositive, hpositive]
    exact stable_unsignedNumber false ⟨x :: xs, o⟩

end JsonReader

end Multilint
