import Multilint.Proofs.Version.Comparison
import Multilint.Proofs.Version.Token
import Mathlib.Logic.Relation
/-!
# The order of version texts

Two texts are compared by the versions they start with, so the laws of the comparison are those of the order
of sequences (`compareNumbers_swap`, `compareNumbers_trans`). A version can be spelled in many ways:
`Respelled` says what may stand around its numbers, and zeros may stand behind the last of them. No step of
it moves a version to another place in the order (`Respelled.exists_ofText?`), and so any number of steps on
either side leaves the comparison as it is.
-/

namespace Multilint

namespace Version

open Text

variable {as bs cs : List Nat} {a b c : String} {s t : List Char} {gs : List (List Char)} {v : Version}

/-! ## The laws of an order -/

/-- The other way round, the order is reversed. -/
theorem compareNumbers_swap (as bs : List Nat) :
    compareNumbers bs as = (compareNumbers as bs).swap :=
  (compares_places bs as).inj (Ordering.compares_swap.2 (compares_places as bs))

theorem compares_then {α : Type*} [Preorder α] {x y z : α} {o o' : Ordering} (ho : o ≠ .gt)
    (ho' : o' ≠ .gt) (hxy : o.Compares x y) (hyz : o'.Compares y z) : (o.then o').Compares x z := by
  cases o with
  | gt => exact absurd rfl ho
  | eq => exact (show x = y from hxy) ▸ hyz
  | lt =>
    have hlt : x < y := hxy
    cases o' with
    | gt => exact absurd rfl ho'
    | eq => exact (show y = z from hyz) ▸ hlt
    | lt => exact hlt.trans hyz

/-- **The comparison is transitive**: a step up in either place is one up in all. -/
theorem compareNumbers_trans (hab : compareNumbers as bs ≠ .gt) (hbc : compareNumbers bs cs ≠ .gt) :
    compareNumbers as cs = (compareNumbers as bs).then (compareNumbers bs cs) :=
  (compares_places as cs).inj
    (compares_then hab hbc (compares_places as bs) (compares_places bs cs))

theorem compareNumbers_congr {as' bs' : List Nat} (ha : places as' = places as)
    (hb : places bs' = places bs) : compareNumbers as' bs' = compareNumbers as bs := by
  have hcompares := compares_places as' bs'
  rw [ha, hb] at hcompares
  exact hcompares.inj (compares_places as bs)

/-! ## Spellings -/

/-- **A version text spelled otherwise**, in one place. -/
inductive Respelled : String → String → Prop
  /-- There are blanks around it. -/
  | blanks (before a after : String) (hbefore : ∀ c ∈ before.toList, isBlank c = true)
      (hafter : ∀ c ∈ after.toList, isBlank c = true) : Respelled a (before ++ a ++ after)
  /-- A mark stands in front of its first digit. -/
  | mark (m a : String) (hm : m = "v" ∨ m = "V") (ha : a.toList.head?.any isNumeral = true) :
      Respelled a (m ++ a)
  /-- It is made of numbers only, and there is one more zero. -/
  | zero (a : String) (gs : List (List Char)) (ha : Numbered (behindMark a.toList) gs []) :
      Respelled a (a ++ ".0")
  /-- Something follows in which the numbers do not go on. -/
  | suffix (a tail : String) (htail : goesOn tail.toList = false) : Respelled a (a ++ tail)

/-- Blanks around a text are trimmed away. -/
theorem trim_between_blanks {before after : List Char} (hbefore : ∀ c ∈ before, isBlank c = true)
    (hafter : ∀ c ∈ after, isBlank c = true) : trim (before ++ s ++ after) = trim s := by
  rw [trim_append_of_blank (trim_eq_nil_iff.2 hafter),
    trim_append_of_blank_left (trim_eq_nil_iff.2 hbefore)]

/-- A mark in front of a digit is passed over. -/
theorem behindMark_trim_cons {m : Char} (hm : m = 'v' ∨ m = 'V')
    (hs : s.head?.any isNumeral = true) : behindMark (trim (m :: s)) = behindMark (trim s) := by
  cases s with
  | nil => cases hs
  | cons d r =>
    have hd : isBlank d = false := isBlank_of_isNumeral hs
    have htext : ¬ ∀ e ∈ d :: r, isBlank e = true := by
      intro hall
      rw [hall d List.mem_cons_self] at hd
      cases hd
    have hcons : trim (m :: d :: r) = m :: trim (d :: r) := by
      rw [trim_cons (isBlank_mark hm), trim_cons hd]
      exact trimEnd_append (s := [m]) htext
    have hhead : (trim (d :: r)).head?.any isNumeral = true := by
      rw [head?_trim_cons hd]
      exact hs
    rw [hcons, behindMark_of_numeral hhead]
    rcases hm with rfl | rfl <;> rfl

/-- The version is read off the trimmed text behind its mark. -/
theorem ofText?_congr (h : behindMark (trim a.toList) = behindMark (trim b.toList)) :
    ofText? a = ofText? b := by
  rw [ofText?, ofText?, h]

/-- Text in which the numbers do not go on is no part of the version. -/
theorem ofText?_append {tail : String} (htail : goesOn tail.toList = false) (hv : ofText? a = some v) :
    ofText? (a ++ tail) = some v := by
  obtain ⟨gs, rest, hs, hns⟩ := ofText?_eq_some_iff_numbered.1 hv
  have hne : trim a.toList ≠ [] := ne_nil_of_numbered hs
  -- what was trimmed away behind the numbers stands between them and the tail
  obtain ⟨bs, hbs, htrim⟩ := trim_append hne tail.toList
  have hstops : goesOn (if trim tail.toList = [] then [] else bs ++ trimEnd tail.toList) = false := by
    split
    · rfl
    · exact goesOn_append (goesOn_of_blank (trim_eq_nil_iff.1 hbs))
        (goesOn_of_isPrefix (trimEnd_isPrefix _) htail)
  have hnumbered := hs.append hstops
  rw [← behindMark_append hne, ← htrim, ← String.toList_append] at hnumbered
  exact ofText?_eq_some_iff_numbered.2 ⟨gs, _, hnumbered, hns⟩

/-- One more zero behind a text made of numbers is one more number of the version. -/
theorem ofText?_append_zero (ha : Numbered (behindMark a.toList) gs []) (hv : ofText? a = some v) :
    ofText? (a ++ ".0") = some ⟨v.numbers ++ [0]⟩ := by
  have hnext : Numbered (behindMark (a ++ ".0").toList) (gs ++ [['0']]) [] := by
    rw [String.toList_append, behindMark_append (ne_nil_of_numbered ha)]
    exact ha.concat (List.cons_ne_nil _ _) (List.forall_mem_singleton.2 (by decide))
  obtain ⟨-, hns⟩ := (ofText?_eq_some_iff (not_blank_of_numbered ha)).1 hv
  rw [ha.dotted_eq] at hns
  refine (ofText?_eq_some_iff (not_blank_of_numbered hnext)).2 ⟨hnext.head?, ?_⟩
  rw [hnext.dotted_eq]
  have hzero : Numeral.digits64? ['0'] = some 0 := by decide
  exact List.rel_append hns (List.Forall₂.cons hzero List.Forall₂.nil)

/-- **A step of spelling keeps the place of a version**: the new text starts with a version too, and it is
as great as the old one. -/
theorem Respelled.exists_ofText? (h : Respelled a b) (hv : ofText? a = some v) :
    ∃ w, ofText? b = some w ∧ places w.numbers = places v.numbers := by
  cases h with
  | blanks before a after hbefore hafter =>
    refine ⟨v, (ofText?_congr ?_).trans hv, rfl⟩
    rw [String.toList_append, String.toList_append, trim_between_blanks hbefore hafter]
  | mark m a hm ha =>
    refine ⟨v, (ofText?_congr ?_).trans hv, rfl⟩
    rw [String.toList_append]
    rcases hm with rfl | rfl
    · exact behindMark_trim_cons (Or.inl rfl) ha
    · exact behindMark_trim_cons (Or.inr rfl) ha
  | zero a gs ha => exact ⟨_, ofText?_append_zero ha hv, places_concat_zero v.numbers⟩
  | suffix a tail htail => exact ⟨v, ofText?_append htail hv, rfl⟩

/-- And so does a whole way of spelling it. -/
theorem exists_ofText?_of_respelled (h : Relation.ReflTransGen Respelled a b)
    (hv : ofText? a = some v) : ∃ w, ofText? b = some w ∧ places w.numbers = places v.numbers := by
  induction h with
  | refl => exact ⟨v, hv, rfl⟩
  | tail _ hstep ih =>
    obtain ⟨w, hw, hplaces⟩ := ih
    obtain ⟨u, hu, hplaces'⟩ := hstep.exists_ofText? hw
    exact ⟨u, hu, hplaces'.trans hplaces⟩

/-- **Other spellings are compared alike.** -/
theorem compareTexts?_of_respelled {a' b' : String} {o : Ordering} (ha : Relation.ReflTransGen Respelled a a')
    (hb : Relation.ReflTransGen Respelled b b') (ho : compareTexts? a b = some o) :
    compareTexts? a' b' = some o := by
  obtain ⟨v, m, hv, hm, rfl⟩ := compareTexts?_eq_some_iff.1 ho
  obtain ⟨w, hw, hplaces⟩ := exists_ofText?_of_respelled ha hv
  obtain ⟨u, hu, hplaces'⟩ := exists_ofText?_of_respelled hb hm
  exact compareTexts?_eq_some_iff.2 ⟨w, u, hw, hu, compareNumbers_congr hplaces hplaces'⟩

/-- The comparison of two texts, the other way round. -/
theorem compareTexts?_swap (a b : String) :
    compareTexts? b a = (compareTexts? a b).map Ordering.swap := by
  rw [compareTexts?, compareTexts?]
  cases ofText? a with
  | none => cases ofText? b <;> rfl
  | some v =>
    cases ofText? b with
    | none => rfl
    | some m => exact congrArg some (compareNumbers_swap v.numbers m.numbers)

/-- **A step up from a text to a second one, and from there to a third one**, is a step up. -/
theorem compareTexts?_trans {o o' : Ordering} (hab : compareTexts? a b = some o)
    (hbc : compareTexts? b c = some o') (ho : o ≠ .gt) (ho' : o' ≠ .gt) :
    compareTexts? a c = some (o.then o') := by
  obtain ⟨v, m, hv, hm, rfl⟩ := compareTexts?_eq_some_iff.1 hab
  obtain ⟨m', w, hm', hw, rfl⟩ := compareTexts?_eq_some_iff.1 hbc
  obtain rfl : m = m' := Option.some.inj (hm.symm.trans hm')
  exact compareTexts?_eq_some_iff.2 ⟨v, w, hv, hw, compareNumbers_trans ho ho'⟩

/-! ## Exact numbers -/

/-- A version has the numbers that its groups write, each of them exactly and below the bound. -/
theorem ofText?_eq_some_iff_values : ofText? a = some v ↔
    ∃ gs rest, Numbered (behindMark (trim a.toList)) gs rest ∧
      List.Forall₂ (fun g n => (g ≠ [] ∧ ∀ d ∈ g, Numeral.isDigit d = true) ∧
        n = Numeral.value g ∧ n < 2 ^ 64) gs v.numbers := by
  simp only [ofText?_eq_some_iff_numbered, digits64?_eq_some_iff]
  rfl

/-- **A number above the bound** is no number of a version, and its text is none. -/
theorem ofText?_eq_none_of_bound_le {rest g : List Char}
    (hs : Numbered (behindMark (trim a.toList)) gs rest) (hg : g ∈ gs)
    (hbound : 2 ^ 64 ≤ Numeral.value g) : ofText? a = none := by
  by_contra hne
  obtain ⟨v, hv⟩ := Option.ne_none_iff_exists'.1 hne
  have hns := (ofText?_eq_some_iff_trim.1 hv).2
  rw [hs.dotted_eq] at hns
  obtain ⟨n, -, hn⟩ := Sequence.exists_of_mem_right hns.flip hg
  obtain ⟨-, rfl, hlt⟩ := digits64?_eq_some_iff.1 hn
  exact absurd hlt (Nat.not_lt.2 hbound)

/-! ## A total preorder -/

/-- **Version texts are in a total preorder.** Two texts are compared exactly if both start with a version,
in the order of their numbers as sequences that go on with zeros; so the other way round the order is
reversed, and it is transitive. Spelling either of them otherwise changes nothing. The numbers are exact, and
a text with one of more than 64 bits has no version. -/
theorem compareTexts?_preorder (a b c : String) :
    ((∃ o, compareTexts? a b = some o) ↔ (∃ v, ofText? a = some v) ∧ ∃ m, ofText? b = some m) ∧
    (∀ v m, ofText? a = some v → ofText? b = some m →
      ∃ o, compareTexts? a b = some o ∧ o.Compares (places v.numbers) (places m.numbers)) ∧
    compareTexts? b a = (compareTexts? a b).map Ordering.swap ∧
    (∀ o o', compareTexts? a b = some o → compareTexts? b c = some o' → o ≠ .gt → o' ≠ .gt →
      compareTexts? a c = some (o.then o')) ∧
    (∀ a' b' o, Relation.ReflTransGen Respelled a a' → Relation.ReflTransGen Respelled b b' →
      compareTexts? a b = some o → compareTexts? a' b' = some o) ∧
    (∀ v, ofText? a = some v ↔
      ∃ gs rest, Numbered (behindMark (trim a.toList)) gs rest ∧
        List.Forall₂ (fun g n => (g ≠ [] ∧ ∀ d ∈ g, Numeral.isDigit d = true) ∧
          n = Numeral.value g ∧ n < 2 ^ 64) gs v.numbers) ∧
    ∀ gs rest, Numbered (behindMark (trim a.toList)) gs rest →
      (∃ g ∈ gs, 2 ^ 64 ≤ Numeral.value g) → ofText? a = none := by
  refine ⟨?_, ?_, compareTexts?_swap a b, ?_, ?_, fun v => ofText?_eq_some_iff_values, ?_⟩
  · simp only [compareTexts?_eq_some_iff]
    constructor
    · rintro ⟨o, v, m, hv, hm, -⟩
      exact ⟨⟨v, hv⟩, m, hm⟩
    · rintro ⟨⟨v, hv⟩, m, hm⟩
      exact ⟨_, v, m, hv, hm, rfl⟩
  · intro v m hv hm
    refine ⟨v.compare m, compareTexts?_eq_some_iff.2 ⟨v, m, hv, hm, rfl⟩, ?_⟩
    exact compares_places v.numbers m.numbers
  · intro o o' hab hbc ho ho'
    exact compareTexts?_trans hab hbc ho ho'
  · intro a' b' o ha hb ho
    exact compareTexts?_of_respelled ha hb ho
  · rintro gs rest hs ⟨g, hg, hbound⟩
    exact ofText?_eq_none_of_bound_le hs hg hbound

/-- One version spelled in every way there is, below two others; and a number of one bit too many. -/
theorem compareTexts?_preorder_spelled :
    compareTexts? " v1.2.0-rc1\n" "1.10" = some .lt ∧ compareTexts? "1.10" "1.2" = some .gt ∧
      compareTexts? "1.2" "2" = some .lt ∧ ofText? "18446744073709551616.1" = none := by
  obtain ⟨-, -, hswap, htrans, hspelled, -, -⟩ := compareTexts?_preorder "1.2" "1.10" "2"
  have hv : ofText? "1.2" = some ⟨[1, 2]⟩ := by decide +kernel
  have hm : ofText? "1.10" = some ⟨[1, 10]⟩ := by decide +kernel
  have hw : ofText? "2" = some ⟨[2]⟩ := by decide +kernel
  have hlt : compareTexts? "1.2" "1.10" = some .lt :=
    compareTexts?_eq_some_iff.2 ⟨_, _, hv, hm, by simp [Version.compare, compareNumbers]⟩
  have hlt' : compareTexts? "1.10" "2" = some .lt :=
    compareTexts?_eq_some_iff.2 ⟨_, _, hm, hw, by simp [Version.compare, compareNumbers]⟩
  have hnumbered := numbered_dotted (s := "1.2".toList) (by decide +kernel)
  have hrest : behindNumbers "1.2".toList = [] := by decide +kernel
  have hzero : Respelled "1.2" "1.2.0" := by
    simpa using Respelled.zero "1.2" _ (hrest ▸ hnumbered)
  have hmark : Respelled "1.2.0" "v1.2.0" := by
    simpa using Respelled.mark "v" "1.2.0" (Or.inl rfl) (by decide +kernel)
  have hsuffix : Respelled "v1.2.0" "v1.2.0-rc1" := by
    simpa using Respelled.suffix "v1.2.0" "-rc1" (by decide +kernel)
  have hblanks : Respelled "v1.2.0-rc1" " v1.2.0-rc1\n" := by
    have hblank : ∀ c ∈ " ".toList ++ "\n".toList, isBlank c = true :=
      List.all_eq_true.1 (by decide +kernel)
    rw [List.forall_mem_append] at hblank
    simpa using Respelled.blanks " " "v1.2.0-rc1" "\n" hblank.1 hblank.2
  have hways := (((Relation.ReflTransGen.single hzero).tail hmark).tail hsuffix).tail hblanks
  have hover : ofText? "18446744073709551616.1" = none := by
    obtain ⟨-, -, -, -, -, -, hbound⟩ := compareTexts?_preorder "18446744073709551616.1" "1" "1"
    refine hbound _ _ (numbered_dotted (by decide +kernel)) ⟨"18446744073709551616".toList, ?_, ?_⟩
    · decide +kernel
    · decide +kernel
  refine ⟨hspelled _ "1.10" .lt hways .refl hlt, ?_, htrans .lt .lt hlt hlt' (by decide) (by decide), hover⟩
  rw [hswap, hlt]
  rfl

end Version

end Multilint
