import Multilint.Format.Markup
import Mathlib.Data.List.Basic
/-!
# Pages of tags and texts

A page is a list of pieces: tags, the texts of a table, which are written with entities, and asides, which
stand outside of the tables. Entities leave no sign of markup in a text (`not_mem_escapeHtml`), and a text that
has none is written as it is (`escapeHtml_eq_self_iff`). So in a page that is written with entities throughout
every angle bracket belongs to a tag (`tagsOnly_pageText`), and a page whose asides are written as they are is the
same page only if they are plain (`pageText_eq_iff`).
-/

namespace Multilint

namespace Markup

open Table

variable {c : Char} {s sep : String} {a b : List Char}

/-! ## Entities -/

/-- The signs that have an entity. -/
def signs : List Char :=
  ['&', '<', '>', '"', '\'']

/-- **A plain text** has none of them. -/
def IsPlain (s : String) : Prop :=
  ∀ c ∈ s.toList, c ∉ signs

instance (s : String) : Decidable (IsPlain s) :=
  decidable_of_iff (s.toList.all fun c => !signs.contains c) (by simp [IsPlain])

theorem isPlain_append {t : String} : IsPlain (s ++ t) ↔ IsPlain s ∧ IsPlain t := by
  simp only [IsPlain, String.toList_append, List.mem_append, or_imp, forall_and]

theorem isPlain_between {s₁ s₂ : String} (hs₁ : IsPlain s₁) (hs₂ : IsPlain s₂) :
    IsPlain (s₁ ++ s ++ s₂) ↔ IsPlain s := by
  rw [isPlain_append, isPlain_append, and_iff_right hs₁, and_iff_left hs₂]

theorem entity_of_not_mem (hc : c ∉ signs) : (entity c).toList = [c] := by
  simp only [signs, List.mem_cons, List.not_mem_nil, or_false, not_or] at hc
  obtain ⟨hamp, hlt, hgt, hquot, hapos⟩ := hc
  simp [entity, hamp, hlt, hgt, hquot, hapos]

/-- An entity is longer than its sign, and has no other sign than the one it starts with. -/
theorem entity_of_mem (hc : c ∈ signs) :
    1 < (entity c).toList.length ∧ ∀ d ∈ (entity c).toList, d ∈ signs → d = '&' := by
  simp only [signs, List.mem_cons, List.not_mem_nil, or_false] at hc
  rcases hc with rfl | rfl | rfl | rfl | rfl <;> simp [entity, signs]

theorem toList_escapeHtml (s : String) :
    (escapeHtml s).toList = s.toList.flatMap fun c => (entity c).toList := by
  rw [escapeHtml, String.toList_join, List.flatMap_map]

/-- **No sign is left** in a text with entities but the one they start with. -/
theorem not_mem_escapeHtml (hc : c ∈ signs) (hamp : c ≠ '&') : c ∉ (escapeHtml s).toList := by
  rw [toList_escapeHtml, List.mem_flatMap]
  rintro ⟨d, -, hd⟩
  by_cases hsign : d ∈ signs
  · exact hamp ((entity_of_mem hsign).2 c hd hc)
  · rw [entity_of_not_mem hsign, List.mem_singleton] at hd
    exact hsign (hd ▸ hc)

/-- A text with entities is no shorter, and longer if it has a sign. -/
theorem length_le_escapeHtml (s : String) :
    s.toList.length ≤ (escapeHtml s).toList.length ∧
      (¬ IsPlain s → s.toList.length < (escapeHtml s).toList.length) := by
  have hlist : ∀ cs : List Char,
      cs.length ≤ (cs.flatMap fun c => (entity c).toList).length ∧
        (¬ (∀ c ∈ cs, c ∉ signs) → cs.length < (cs.flatMap fun c => (entity c).toList).length) := by
    intro cs
    induction cs with
    | nil => simp
    | cons c cs ih =>
      rw [List.flatMap_cons, List.length_append, List.length_cons, List.forall_mem_cons]
      by_cases hc : c ∈ signs
      · have hlong := (entity_of_mem hc).1
        exact ⟨by omega, fun _ => by omega⟩
      · rw [entity_of_not_mem hc, List.length_singleton]
        refine ⟨by omega, fun hsome => ?_⟩
        have hrest := ih.2 fun hcs => hsome ⟨hc, hcs⟩
        omega
  rw [toList_escapeHtml]
  exact hlist s.toList

/-- **A text is written as it is** exactly if it is plain. -/
theorem escapeHtml_eq_self_iff : escapeHtml s = s ↔ IsPlain s := by
  constructor
  · intro heq
    by_contra hsign
    have hlt := (length_le_escapeHtml s).2 hsign
    rw [heq] at hlt
    exact Nat.lt_irrefl _ hlt
  · intro hplain
    rw [← String.toList_inj, toList_escapeHtml,
      List.flatMap_congr fun c hc => entity_of_not_mem (hplain c hc), List.flatMap_singleton']

/-! ## Pieces -/

/-- **A piece of a page.** -/
inductive Piece where
  /-- A tag. -/
  | tag (name : String)
  /-- A text in a table, or between the parts of a page. -/
  | cell (s : String)
  /-- A text outside of the tables. -/
  | aside (s : String)
  deriving DecidableEq, Repr

/-- The text of a piece, when asides are written in some way. -/
def Piece.text (write : String → String) : Piece → String
  | .tag name => "<" ++ name ++ ">"
  | .cell s => escapeHtml s
  | .aside s => write s

/-- The text of a page. -/
def pageText (write : String → String) (ps : List Piece) : String :=
  String.join (ps.map (Piece.text write))

/-- **A plain piece** is the same with and without entities: only an aside may have signs of markup. -/
def Piece.IsPlain : Piece → Prop
  | .aside s => Markup.IsPlain s
  | _ => True

variable {write : String → String} {p : Piece} {ps qs : List Piece} {pss : List (List Piece)}

@[simp] theorem pageText_nil : pageText write [] = "" :=
  rfl

theorem pageText_cons : pageText write (p :: ps) = p.text write ++ pageText write ps := by
  rw [pageText, List.map_cons, String.join_cons, pageText]

theorem pageText_append : pageText write (ps ++ qs) = pageText write ps ++ pageText write qs := by
  rw [pageText, List.map_append, String.join_append, pageText, pageText]

theorem toList_pageText : (pageText write ps).toList = ps.flatMap fun p => (p.text write).toList := by
  rw [pageText, String.toList_join, List.flatMap_map]

/-- Texts outside of the tables, each a part of its own. -/
def asides (ss : List String) : List (List Piece) :=
  ss.map fun s => [Piece.aside s]

theorem map_pageText_asides (ss : List String) : (asides ss).map (pageText write) = ss.map write := by
  simp [asides, pageText_cons, Piece.text]

theorem forall_mem_asides {P : Piece → Prop} {ss : List String} :
    (∀ ps ∈ asides ss, ∀ p ∈ ps, P p) ↔ ∀ s ∈ ss, P (.aside s) := by
  simp [asides]

/-- Parts of a page with a text between them. -/
def joined (sep : String) (pss : List (List Piece)) : List Piece :=
  [Piece.cell sep].intercalate pss

/-- **The text of parts that are joined** is their texts joined. -/
theorem pageText_joined (hsep : IsPlain sep) :
    pageText write (joined sep pss) = sep.intercalate (pss.map (pageText write)) := by
  induction pss with
  | nil => rfl
  | cons ps pss ih =>
    by_cases hpss : pss = []
    · rw [hpss, joined, List.intercalate_singleton, List.map_singleton, String.intercalate_singleton]
    · rw [joined, List.intercalate_cons_of_ne_nil hpss, pageText_append, pageText_append, ← joined, ih,
        List.map_cons, String.intercalate_cons_of_ne_nil (by simpa using hpss)]
      have htext : pageText write [.cell sep] = sep := by
        rw [pageText_cons, pageText_nil, String.append_empty, Piece.text, escapeHtml_eq_self_iff.2 hsep]
      rw [htext]

theorem mem_joined (hps : ps ∈ pss) (hp : p ∈ ps) : p ∈ joined sep pss := by
  induction pss with
  | nil => cases hps
  | cons qs pss ih =>
    by_cases hpss : pss = []
    · rw [hpss, List.mem_singleton] at hps
      rwa [hpss, joined, List.intercalate_singleton, ← hps]
    · rw [joined, List.intercalate_cons_of_ne_nil hpss, List.mem_append, List.mem_append, ← joined]
      rcases List.mem_cons.1 hps with rfl | hps
      · exact .inl (.inl hp)
      · exact .inr (ih hps)

/-- What holds of the text between them holds of all that is joined if it does in every part. -/
theorem forall_mem_joined {P : Piece → Prop} (hsep : P (.cell sep)) :
    (∀ p ∈ joined sep pss, P p) ↔ ∀ ps ∈ pss, ∀ p ∈ ps, P p := by
  refine ⟨fun hall ps hps p hp => hall p (mem_joined hps hp), fun hall => ?_⟩
  induction pss with
  | nil => simp [joined, List.intercalate]
  | cons ps pss ih =>
    rw [List.forall_mem_cons] at hall
    by_cases hpss : pss = []
    · rw [hpss, joined, List.intercalate_singleton]
      exact hall.1
    · rw [joined, List.intercalate_cons_of_ne_nil hpss, ← joined, List.forall_mem_append,
        List.forall_mem_append, List.forall_mem_singleton]
      exact ⟨⟨hall.1, hsep⟩, ih hall.2⟩

theorem pageText_ne_empty (hp : p ∈ ps) (hne : p.text write ≠ "") : pageText write ps ≠ "" := by
  induction ps with
  | nil => cases hp
  | cons q ps ih =>
    rw [pageText_cons, Ne, String.append_eq_empty_iff, not_and_or]
    rcases List.mem_cons.1 hp with rfl | hp
    · exact .inl hne
    · exact .inr (ih hp)

/-- **A page whose asides are written as they are** is the page with entities exactly if they are plain. -/
theorem pageText_eq_iff : pageText id ps = pageText escapeHtml ps ↔ ∀ p ∈ ps, p.IsPlain := by
  have hpiece : ∀ p : Piece, (p.text id).toList.length ≤ (p.text escapeHtml).toList.length := by
    rintro (name | s | s)
    · exact Nat.le_refl _
    · exact Nat.le_refl _
    · exact (length_le_escapeHtml s).1
  have hpage : ∀ ps : List Piece, (pageText id ps).toList.length ≤ (pageText escapeHtml ps).toList.length := by
    intro ps
    induction ps with
    | nil => exact Nat.le_refl _
    | cons p ps ih =>
      rw [pageText_cons, pageText_cons, String.toList_append, String.toList_append, List.length_append,
        List.length_append]
      exact Nat.add_le_add (hpiece p) ih
  induction ps with
  | nil => simp
  | cons p ps ih =>
    have hsplit : pageText id (p :: ps) = pageText escapeHtml (p :: ps) ↔
        p.text id = p.text escapeHtml ∧ pageText id ps = pageText escapeHtml ps := by
      rw [pageText_cons, pageText_cons]
      constructor
      · -- no piece gets shorter, so the two texts part in the same places
        intro heq
        have hlist := congrArg String.toList heq
        rw [String.toList_append, String.toList_append] at hlist
        have hlength := congrArg List.length hlist
        rw [List.length_append, List.length_append] at hlength
        have hsame : (p.text id).toList.length = (p.text escapeHtml).toList.length := by
          have hp := hpiece p
          have hps := hpage ps
          omega
        obtain ⟨hfirst, hrest⟩ := List.append_inj hlist hsame
        exact ⟨String.toList_inj.1 hfirst, String.toList_inj.1 hrest⟩
      · rintro ⟨hfirst, hrest⟩
        rw [hfirst, hrest]
    rw [hsplit, List.forall_mem_cons]
    refine and_congr ?_ ih
    cases p with
    | tag name => exact iff_of_true rfl trivial
    | cell s => exact iff_of_true rfl trivial
    | aside s => exact eq_comm.trans escapeHtml_eq_self_iff

/-! ## Tags -/

/-- The tags of tables. -/
def vocabulary : List String :=
  ["table", "thead", "tbody", "tr", "th", "td", "/table", "/thead", "/tbody", "/tr", "/th", "/td"]

/-- **A known piece** is no tag but one of these. -/
def Piece.IsKnown : Piece → Prop
  | .tag name => name ∈ vocabulary
  | _ => True

/-- **Whether every angle bracket belongs to a tag of the vocabulary.** The name of a tag that is open is kept,
its last letter first. -/
def tagsOnly : Option (List Char) → List Char → Bool
  | none, [] => true
  | some _, [] => false
  | none, c :: cs =>
    if c = '<' then tagsOnly (some []) cs else if c = '>' then false else tagsOnly none cs
  | some name, c :: cs =>
    if c = '>' then vocabulary.contains (String.ofList name.reverse) && tagsOnly none cs
    else if c = '<' then false
    else tagsOnly (some (c :: name)) cs

/-- Behind a text all of whose tags are closed another text begins. -/
theorem tagsOnly_append {name : Option (List Char)} (ha : tagsOnly name a = true) :
    tagsOnly name (a ++ b) = tagsOnly none b := by
  fun_induction tagsOnly name a with
  | case1 => rfl
  | case2 => cases ha
  | case3 cs ih => rw [List.cons_append, tagsOnly, if_pos rfl, ih ha]
  | case4 => cases ha
  | case5 c cs hlt hgt ih => rw [List.cons_append, tagsOnly, if_neg hlt, if_neg hgt, ih ha]
  | case6 name cs ih =>
    rw [Bool.and_eq_true] at ha
    rw [List.cons_append, tagsOnly, if_pos rfl, ih ha.2, ha.1, Bool.true_and]
  | case7 => cases ha
  | case8 name c cs hgt hlt ih => rw [List.cons_append, tagsOnly, if_neg hgt, if_neg hlt, ih ha]

/-- A text without angle brackets has no tag. -/
theorem tagsOnly_of_not_mem (hlt : '<' ∉ a) (hgt : '>' ∉ a) : tagsOnly none a = true := by
  induction a with
  | nil => rfl
  | cons c a ih =>
    rw [List.mem_cons, not_or] at hlt hgt
    rw [tagsOnly, if_neg (Ne.symm hlt.1), if_neg (Ne.symm hgt.1)]
    exact ih hlt.2 hgt.2

theorem tagsOnly_tag {name : String} (hname : name ∈ vocabulary) :
    tagsOnly none ("<" ++ name ++ ">").toList = true := by
  have hall : ∀ name ∈ vocabulary, tagsOnly none ("<" ++ name ++ ">").toList = true := by decide
  exact hall name hname

/-- **In a page with entities every angle bracket belongs to a tag.** -/
theorem tagsOnly_pageText (hps : ∀ p ∈ ps, p.IsKnown) :
    tagsOnly none (pageText escapeHtml ps).toList = true := by
  have hescaped : ∀ s, tagsOnly none (escapeHtml s).toList = true := fun s =>
    tagsOnly_of_not_mem (not_mem_escapeHtml (by decide) (by decide))
      (not_mem_escapeHtml (by decide) (by decide))
  induction ps with
  | nil => rfl
  | cons p ps ih =>
    rw [List.forall_mem_cons] at hps
    have hpiece : tagsOnly none (p.text escapeHtml).toList = true := by
      cases p with
      | tag name => exact tagsOnly_tag hps.1
      | cell s => exact hescaped s
      | aside s => exact hescaped s
    rw [pageText_cons, String.toList_append, tagsOnly_append hpiece]
    exact ih hps.2

end Markup

end Multilint
