import Multilint.Format.Reading
import Mathlib.Algebra.Ring.Parity
import Mathlib.Data.List.DropRight
import Mathlib.Data.String.Basic
/-!
# Cells between bars

A table of bars is read line by line, and a line at the bars that no backslash stands in front of, where a
backslash that is escaped itself does not count. So what is escaped is told by how many backslashes a text ends
with (`Escaped`). The table is written with a backslash in front of each bar and nothing done about the
backslashes of a cell: a bar that has an odd number of them in front of it already is read as the end of a cell
(`length_splitBars_margined`). And a line feed becomes a blank while a carriage return stays. What holds of the
table is told by both (`bars_keep_cells_iff`).
-/

namespace Multilint

namespace Table

variable {α β : Type} {a b s l : List Char} {c : Char} {ls ps : List (List Char)} {cells : List String}

/-- Parts that are none of them empty are no fewer than what they are parts of. -/
theorem length_le_flatMap {f : α → List β} {xs : List α} (hf : ∀ x, f x ≠ []) :
    xs.length ≤ (xs.flatMap f).length := by
  induction xs with
  | nil => exact Nat.le_refl 0
  | cons x xs ih =>
    have hx := List.length_pos_iff.2 (hf x)
    rw [List.flatMap_cons, List.length_append, List.length_cons]
    omega

/-- They are as many exactly if each is a single one. -/
theorem length_flatMap_eq_iff {f : α → List β} {xs : List α} (hf : ∀ x, f x ≠ []) :
    (xs.flatMap f).length = xs.length ↔ ∀ x ∈ xs, (f x).length = 1 := by
  induction xs with
  | nil => simp
  | cons x xs ih =>
    have hx := List.length_pos_iff.2 (hf x)
    have hxs : xs.length ≤ (xs.flatMap f).length := length_le_flatMap hf
    rw [List.forall_mem_cons, ← ih, List.flatMap_cons, List.length_append, List.length_cons]
    omega

/-! ## Lines -/

theorem barLines_ne_nil (s : List Char) : barLines s ≠ [] := by
  fun_cases barLines s with
  | case5 c rest => cases h : barLines rest <;> simp [Text.consLine]
  | _ => simp

/-- Any other character belongs to the line it stands in. -/
theorem barLines_cons (hfeed : c ≠ '\n') (hreturn : c ≠ '\r') :
    barLines (c :: s) = Text.consLine c (barLines s) := by
  rw [barLines]
  · exact hfeed
  · rintro _ rfl
    exact absurd rfl hreturn
  · exact hreturn

/-- A carriage return ends a line by itself where no line feed follows. -/
theorem barLines_return (hs : s.head? ≠ some '\n') : barLines ('\r' :: s) = [] :: barLines s := by
  rw [barLines]
  rintro _ rfl
  exact hs rfl

/-- **A line feed divides the lines** as it divides the text, unless it belongs to a carriage return. -/
theorem barLines_append (ha : a.getLast? ≠ some '\r') :
    barLines (a ++ '\n' :: b) = barLines a ++ barLines b := by
  fun_induction barLines a with
  | case1 => simp [barLines]
  | case2 rest ih =>
    rw [List.cons_append, barLines, ih (by grind), List.cons_append]
  | case3 rest ih =>
    rw [List.cons_append, List.cons_append, barLines, ih (by grind), List.cons_append]
  | case4 rest hfeed ih =>
    obtain ⟨d, rest, rfl⟩ := List.exists_cons_of_ne_nil (l := rest) (by rintro rfl; exact ha rfl)
    have hd : d ≠ '\n' := by
      rintro rfl
      exact hfeed rest rfl
    rw [List.cons_append, barLines_return (by simpa using hd), ih (by grind), List.cons_append]
  | case5 c rest hfeed _ hreturn ih =>
    have hrest : rest.getLast? ≠ some '\r' := by grind
    rw [List.cons_append, barLines_cons hfeed hreturn, ih hrest]
    cases h : barLines rest with
    | nil => exact absurd h (barLines_ne_nil rest)
    | cons l ls => rfl

/-- **An unbroken text** has nothing that ends a line. -/
def Unbroken (s : List Char) : Prop :=
  '\n' ∉ s ∧ '\r' ∉ s

instance (s : List Char) : Decidable (Unbroken s) :=
  inferInstanceAs (Decidable (_ ∧ _))

/-- **A text is one line** exactly if it is unbroken. -/
theorem length_barLines_eq_one_iff : (barLines s).length = 1 ↔ Unbroken s := by
  fun_induction barLines s with
  | case1 => simp [Unbroken]
  | case2 rest => simp [Unbroken, barLines_ne_nil rest]
  | case3 rest => simp [Unbroken, barLines_ne_nil rest]
  | case4 rest => simp [Unbroken, barLines_ne_nil rest]
  | case5 c rest hfeed _ hreturn ih =>
    have hlength : (Text.consLine c (barLines rest)).length = (barLines rest).length := by
      cases h : barLines rest with
      | nil => exact absurd h (barLines_ne_nil rest)
      | cons l ls => rfl
    rw [hlength, ih, Unbroken, Unbroken, List.mem_cons, List.mem_cons]
    grind

theorem barLines_of_unbroken (hs : Unbroken s) : barLines s = [s] := by
  induction s with
  | nil => rfl
  | cons c s ih =>
    rw [Unbroken, List.mem_cons, List.mem_cons, not_or, not_or] at hs
    rw [barLines_cons (Ne.symm hs.1.1) (Ne.symm hs.2.1), ih ⟨hs.1.2, hs.2.2⟩]
    rfl

/-- **The lines of lines that are joined** are those of each of them. -/
theorem barLines_intercalate (hls : ls ≠ []) (hreturn : ∀ l ∈ ls, l.getLast? ≠ some '\r') :
    barLines (['\n'].intercalate ls) = ls.flatMap barLines := by
  induction ls with
  | nil => exact absurd rfl hls
  | cons l ls ih =>
    rw [List.forall_mem_cons] at hreturn
    by_cases hrest : ls = []
    · rw [hrest, List.intercalate_singleton, List.flatMap_singleton]
    · rw [List.intercalate_cons_of_ne_nil hrest, List.append_assoc, List.singleton_append,
        barLines_append hreturn.1, ih hrest hreturn.2, List.flatMap_cons]

/-! ## Bars -/

/-- **What follows a text is escaped** if the text ends with an odd number of backslashes. -/
def Escaped (s : List Char) : Prop :=
  Odd (s.rtakeWhile (· = '\\')).length

instance (s : List Char) : Decidable (Escaped s) :=
  inferInstanceAs (Decidable (Odd _))

theorem not_escaped_nil : ¬ Escaped [] := by
  decide

/-- Only a backslash that is not escaped itself escapes what follows. -/
theorem escaped_concat : Escaped (s ++ [c]) ↔ c = '\\' ∧ ¬ Escaped s := by
  by_cases hc : c = '\\'
  · rw [Escaped, Escaped, List.rtakeWhile_concat_pos _ _ _ (by simpa using hc), List.length_append,
      List.length_singleton, Nat.odd_add_one, and_iff_right hc]
  · rw [Escaped, List.rtakeWhile_concat_neg _ _ _ (by simpa using hc)]
    simp [hc]

/-- A backslash and what it escapes change nothing behind them. -/
theorem escaped_pair : Escaped ('\\' :: c :: s) ↔ Escaped s := by
  induction s using List.reverseRecOn with
  | nil =>
    have hpair : ['\\', c] = [] ++ ['\\'] ++ [c] := rfl
    rw [hpair, escaped_concat, escaped_concat]
    simp [not_escaped_nil]
  | append_singleton s d ih =>
    rw [← List.cons_append, ← List.cons_append, escaped_concat, escaped_concat, ih]

/-- What stands behind another character is not escaped by what stands in front of it. -/
theorem escaped_append_cons (hc : c ≠ '\\') : Escaped (a ++ c :: s) ↔ Escaped s := by
  induction s using List.reverseRecOn with
  | nil =>
    rw [escaped_concat]
    simp [hc, not_escaped_nil]
  | append_singleton s d ih =>
    rw [← List.cons_append, ← List.append_assoc, escaped_concat, escaped_concat, ih]

theorem escaped_cons (hc : c ≠ '\\') : Escaped (c :: s) ↔ Escaped s :=
  escaped_append_cons (a := []) hc

theorem splitBars_ne_nil (s : List Char) : splitBars s ≠ [] := by
  fun_cases splitBars s <;> simp

theorem modifyHead_append {f : α → α} {xs ys : List α} (hxs : xs ≠ []) :
    (xs ++ ys).modifyHead f = xs.modifyHead f ++ ys := by
  cases xs with
  | nil => exact absurd rfl hxs
  | cons x xs => rfl

/-- A backslash and what it escapes belong to the cell they stand in. -/
theorem splitBars_pair :
    splitBars ('\\' :: c :: s) = (splitBars s).modifyHead fun p => '\\' :: c :: p := by
  rw [splitBars]
  cases h : splitBars s with
  | nil => exact absurd h (splitBars_ne_nil s)
  | cons p ps => rfl

/-- So does any other character. -/
theorem splitBars_cons (hslash : c ≠ '\\') (hbar : c ≠ '|') :
    splitBars (c :: s) = (splitBars s).modifyHead (c :: ·) := by
  rw [splitBars]
  · cases h : splitBars s with
    | nil => exact absurd h (splitBars_ne_nil s)
    | cons p ps => rfl
  · rintro _ _ rfl
    exact absurd rfl hslash
  · exact hbar

/-- What a text is made of from its start: nothing, a backslash at its end, a backslash and what it escapes, a
bar, or another character. -/
theorem bars_induction {motive : List Char → Prop} (nil : motive []) (last : motive ['\\'])
    (pair : ∀ c s, motive s → motive ('\\' :: c :: s)) (bar : ∀ s, motive s → motive ('|' :: s))
    (cons : ∀ c s, c ≠ '\\' → c ≠ '|' → motive s → motive (c :: s)) (s : List Char) : motive s := by
  fun_induction splitBars s with
  | case1 => exact nil
  | case2 c s _ ih => exact pair c s ih
  | case3 c s p ps _ ih => exact pair c s ih
  | case4 s ih => exact bar s ih
  | case5 c s hpair hbar hnil ih => exact absurd hnil (splitBars_ne_nil s)
  | case6 c s hpair hbar p ps _ ih =>
    by_cases hslash : c = '\\'
    · cases s with
      | nil => exact hslash ▸ last
      | cons d s => exact absurd rfl (hpair d s hslash)
    · exact cons c s hslash hbar ih

/-- **A bar divides the cells** as it divides the text, unless it is escaped. -/
theorem splitBars_append (ha : ¬ Escaped a) : splitBars (a ++ '|' :: b) = splitBars a ++ splitBars b := by
  induction a using bars_induction with
  | nil => rfl
  | last => exact absurd (by decide) ha
  | pair c a ih =>
    rw [escaped_pair] at ha
    rw [List.cons_append, List.cons_append, splitBars_pair, splitBars_pair, ih ha,
      modifyHead_append (splitBars_ne_nil a)]
  | bar a ih =>
    rw [escaped_cons (by decide)] at ha
    rw [List.cons_append, splitBars, splitBars, ih ha, List.cons_append]
  | cons c a hslash hbar ih =>
    rw [escaped_cons hslash] at ha
    rw [List.cons_append, splitBars_cons hslash hbar, splitBars_cons hslash hbar, ih ha,
      modifyHead_append (splitBars_ne_nil a)]

/-- **A text is one cell** exactly if each bar in it is escaped. -/
theorem length_splitBars_eq_one_iff :
    (splitBars s).length = 1 ↔ ∀ a b, s = a ++ '|' :: b → Escaped a := by
  constructor
  · rintro hone a b rfl
    by_contra ha
    have hfirst := List.length_pos_iff.2 (splitBars_ne_nil a)
    have hsecond := List.length_pos_iff.2 (splitBars_ne_nil b)
    rw [splitBars_append ha, List.length_append] at hone
    omega
  · intro hbars
    induction s using bars_induction with
    | nil => rfl
    | last => rfl
    | pair c s ih =>
      rw [splitBars_pair, List.length_modifyHead]
      refine ih fun a b hs => escaped_pair.1 (hbars ('\\' :: c :: a) b ?_)
      rw [hs, List.cons_append, List.cons_append]
    | bar s ih => exact absurd (hbars [] s rfl) not_escaped_nil
    | cons c s hslash hbar ih =>
      rw [splitBars_cons hslash hbar, List.length_modifyHead]
      refine ih fun a b hs => (escaped_cons hslash).1 (hbars (c :: a) b ?_)
      rw [hs, List.cons_append]

/-- **The cells of texts with bars between them** are those of each of them. -/
theorem splitBars_intercalate (hps : ps ≠ []) (hend : ∀ p ∈ ps, ¬ Escaped p) :
    splitBars (['|'].intercalate ps) = ps.flatMap splitBars := by
  induction ps with
  | nil => exact absurd rfl hps
  | cons p ps ih =>
    rw [List.forall_mem_cons] at hend
    by_cases hrest : ps = []
    · rw [hrest, List.intercalate_singleton, List.flatMap_singleton]
    · rw [List.intercalate_cons_of_ne_nil hrest, List.append_assoc, List.singleton_append,
        splitBars_append hend.1, ih hrest hend.2, List.flatMap_cons]

theorem not_escaped_intercalate (hend : ∀ p ∈ ps, ¬ Escaped p) : ¬ Escaped (['|'].intercalate ps) := by
  induction ps with
  | nil => exact not_escaped_nil
  | cons p ps ih =>
    rw [List.forall_mem_cons] at hend
    by_cases hrest : ps = []
    · rw [hrest, List.intercalate_singleton]
      exact hend.1
    · rw [List.intercalate_cons_of_ne_nil hrest, List.append_assoc, List.singleton_append,
        escaped_append_cons (by decide)]
      exact ih hend.2

/-! ## Cells -/

/-- **A text keeps its bars** if none of them is escaped in it already. -/
def KeepsBars (s : List Char) : Prop :=
  ∀ a b, s = a ++ '|' :: b → ¬ Escaped a

/-- What is written for a character of a cell. -/
def barSign (c : Char) : List Char :=
  if c = '|' then ['\\', '|'] else if c = '\n' then [' '] else [c]

theorem toList_barCell (cell : String) : (barCell cell).toList = cell.toList.flatMap barSign := by
  rw [barCell, String.toList_ofList]
  rfl

/-- What is written escapes what follows exactly if the text did. -/
theorem escaped_flatMap_barSign : Escaped (s.flatMap barSign) ↔ Escaped s := by
  induction s using List.reverseRecOn with
  | nil => exact Iff.rfl
  | append_singleton s c ih =>
    rw [List.flatMap_append, List.flatMap_singleton, escaped_concat, barSign]
    split
    · rename_i hbar
      have hpair : s.flatMap barSign ++ ['\\', '|'] = s.flatMap barSign ++ ['\\'] ++ ['|'] := by simp
      rw [hpair, escaped_concat, hbar]
      simp
    · split
      · rename_i hfeed
        rw [escaped_concat, hfeed]
        simp
      · rw [escaped_concat, ih]

/-- A bar does not stand at another character. -/
theorem exists_of_cons_eq_append_bar (hc : c ≠ '|') (h : c :: s = a ++ '|' :: b) :
    ∃ a', a = c :: a' ∧ s = a' ++ '|' :: b := by
  cases a with
  | nil => exact absurd (List.cons.inj h).1 hc
  | cons d a =>
    obtain ⟨rfl, hs⟩ := List.cons.inj h
    exact ⟨a, rfl, hs⟩

/-- **The bars that are written** are those of the text, each behind one more backslash. -/
theorem exists_of_flatMap_barSign (h : s.flatMap barSign = a ++ '|' :: b) :
    ∃ a' b', s = a' ++ '|' :: b' ∧ a = a'.flatMap barSign ++ ['\\'] := by
  induction s generalizing a with
  | nil => simp at h
  | cons c s ih =>
    -- a character with nothing but itself or a blank written for it leaves the bar to the rest
    have hrest : ∀ d, d ≠ '|' → barSign c = [d] →
        ∃ a' b', c :: s = a' ++ '|' :: b' ∧ a = a'.flatMap barSign ++ ['\\'] := by
      intro d hd hsign
      rw [List.flatMap_cons, hsign, List.singleton_append] at h
      obtain ⟨a₁, rfl, hs⟩ := exists_of_cons_eq_append_bar hd h
      obtain ⟨a', b', rfl, rfl⟩ := ih hs
      exact ⟨c :: a', b', rfl, by rw [List.flatMap_cons, hsign, List.append_assoc, List.singleton_append]⟩
    by_cases hbar : c = '|'
    · have hbars : '\\' :: '|' :: s.flatMap barSign = a ++ '|' :: b := by simpa [hbar, barSign] using h
      obtain ⟨a₁, rfl, hs⟩ := exists_of_cons_eq_append_bar (by decide) hbars
      cases a₁ with
      | nil => exact ⟨[], s, by rw [hbar, List.nil_append], rfl⟩
      | cons d a₁ =>
        obtain ⟨rfl, htail⟩ := List.cons.inj hs
        obtain ⟨a', b', rfl, rfl⟩ := ih htail
        exact ⟨c :: a', b', rfl, by simp [hbar, barSign]⟩
    · by_cases hfeed : c = '\n'
      · exact hrest ' ' (by decide) (by rw [hfeed]; rfl)
      · exact hrest c hbar (by rw [barSign, if_neg hbar, if_neg hfeed])

/-- **What is written is one cell** exactly if the text keeps its bars. -/
theorem length_splitBars_flatMap_barSign :
    (splitBars (s.flatMap barSign)).length = 1 ↔ KeepsBars s := by
  rw [length_splitBars_eq_one_iff]
  constructor
  · rintro hwritten a b rfl
    have hescaped := hwritten (a.flatMap barSign ++ ['\\']) (b.flatMap barSign) (by simp [barSign])
    rw [escaped_concat, escaped_flatMap_barSign] at hescaped
    exact hescaped.2
  · intro hkeeps a b h
    obtain ⟨a', b', hs, rfl⟩ := exists_of_flatMap_barSign h
    rw [escaped_concat, escaped_flatMap_barSign]
    exact ⟨rfl, hkeeps a' b' hs⟩

instance (s : List Char) : Decidable (KeepsBars s) :=
  decidable_of_iff _ length_splitBars_flatMap_barSign

/-- The text of a cell in its row, with a blank on either side. -/
def margined (s : List Char) : List Char :=
  ' ' :: (s ++ [' '])

theorem not_escaped_margined : ¬ Escaped (margined s) := by
  rw [margined, ← List.cons_append, escaped_concat]
  simp

theorem keepsBars_margined : KeepsBars (margined s) ↔ KeepsBars s := by
  constructor
  · rintro hkeeps a b rfl
    have hescaped := hkeeps (' ' :: a) (b ++ [' ']) (by simp [margined])
    rwa [escaped_cons (by decide)] at hescaped
  · intro hkeeps a b h
    obtain ⟨a, rfl, hs⟩ := exists_of_cons_eq_append_bar (by decide) h
    rw [escaped_cons (by decide)]
    rcases List.eq_nil_or_concat b with rfl | ⟨b, d, rfl⟩
    · exact absurd (List.append_inj_right' hs rfl) (by decide)
    · rw [List.concat_eq_append, ← List.cons_append, ← List.append_assoc] at hs
      exact hkeeps a b (List.append_inj_left' hs rfl)

/-- **A cell keeps to itself** exactly if its text keeps its bars. -/
theorem length_splitBars_margined (cell : String) :
    (splitBars (margined (barCell cell).toList)).length = 1 ↔ KeepsBars cell.toList := by
  have hwritten : margined (barCell cell).toList = (margined cell.toList).flatMap barSign := by
    simp [margined, toList_barCell, barSign]
  rw [hwritten, length_splitBars_flatMap_barSign, keepsBars_margined]

/-! ## Rows -/

/-- A row is its cells, with a bar in front of each and one behind the last. -/
theorem toList_barRow (hcells : cells ≠ []) : (barRow cells).toList =
    '|' :: (['|'].intercalate (cells.map fun c => margined c.toList) ++ ['|']) := by
  have hmargins : ∀ cs : List String, cs ≠ [] → ' ' :: ([' ', '|', ' '].intercalate (cs.map String.toList) ++ [' ']) =
      ['|'].intercalate (cs.map fun c => margined c.toList) := by
    intro cs hcs
    induction cs with
    | nil => exact absurd rfl hcs
    | cons c cs ih =>
      by_cases hrest : cs = []
      · simp [hrest, margined]
      · rw [List.map_cons, List.map_cons, List.intercalate_cons_of_ne_nil (by simpa using hrest),
          List.intercalate_cons_of_ne_nil (by simpa using hrest), ← ih hrest, margined]
        simp
  rw [← hmargins cells hcells, barRow]
  simp

/-- **The cells of a row** are those of the texts it is made of. -/
theorem barCells_barRow (hcells : cells ≠ []) : barCells (barRow cells).toList =
    cells.flatMap fun c => splitBars (margined c.toList) := by
  rw [barCells, toList_barRow hcells, splitBars, splitBars_append (not_escaped_intercalate (by simp [not_escaped_margined])),
    splitBars_intercalate (by simpa using hcells) (by simp [not_escaped_margined]), List.flatMap_map]
  simp [splitBars]

theorem mem_intercalate_bar_iff (hbar : c ≠ '|') : c ∈ ['|'].intercalate ps ↔ ∃ p ∈ ps, c ∈ p := by
  induction ps with
  | nil => simp [List.intercalate]
  | cons p ps ih =>
    by_cases hrest : ps = []
    · simp [hrest]
    · rw [List.intercalate_cons_of_ne_nil hrest, List.mem_append, List.mem_append, ih]
      simp [hbar]

/-- What a row holds beside blanks and bars, its cells hold. -/
theorem mem_barRow_iff (hblank : c ≠ ' ') (hbar : c ≠ '|') :
    c ∈ (barRow cells).toList ↔ ∃ cell ∈ cells, c ∈ cell.toList := by
  by_cases hcells : cells = []
  · simp [hcells, barRow, hblank, hbar]
  · rw [toList_barRow hcells, List.mem_cons, List.mem_append, mem_intercalate_bar_iff hbar]
    simp [hblank, hbar, margined]

/-- **A row is unbroken** exactly if its cells are. -/
theorem unbroken_barRow_iff : Unbroken (barRow cells).toList ↔ ∀ cell ∈ cells, Unbroken cell.toList := by
  rw [Unbroken, mem_barRow_iff (by decide) (by decide), mem_barRow_iff (by decide) (by decide)]
  simp only [not_exists, not_and, ← forall_and, Unbroken]

/-- **A cell that is written is unbroken** exactly if its text has no carriage return. -/
theorem unbroken_barCell_iff (cell : String) : Unbroken (barCell cell).toList ↔ '\r' ∉ cell.toList := by
  rw [toList_barCell, Unbroken]
  induction cell.toList with
  | nil => simp
  | cons c s ih =>
    rw [List.flatMap_cons, List.mem_append, List.mem_append, List.mem_cons, barSign]
    grind

/-! ## Tables -/

variable {t : Table}

/-- The lines that a table of bars is written as. -/
def lineTexts (t : Table) : List String :=
  [barRow t.columns, barRule t.columns] ++ t.rows.map fun row => barRow ((t.padded row).map barCell)

/-- A line that is written ends with a bar. -/
theorem getLast?_of_mem_lineTexts {l : String} (hl : l ∈ t.lineTexts) : l.toList.getLast? = some '|' := by
  have hrow : ∀ cs, (barRow cs).toList.getLast? = some '|' := by
    intro cs
    rw [barRow, String.toList_append, List.getLast?_append]
    rfl
  have hrule : (barRule t.columns).toList.getLast? = some '|' := by
    rw [barRule, String.toList_append, List.getLast?_append]
    rfl
  simp only [lineTexts, List.mem_append, List.mem_cons, List.not_mem_nil, or_false, List.mem_map] at hl
  rcases hl with (rfl | rfl) | ⟨row, -, rfl⟩
  · exact hrow _
  · exact hrule
  · exact hrow _

/-- **The lines of a table** are those of the lines it is written as. -/
theorem barLines_markdownText (hrows : t.rows ≠ []) :
    barLines t.markdownText.toList = t.lineTexts.flatMap fun l => barLines l.toList := by
  have htext : t.markdownText.toList = ['\n'].intercalate (t.lineTexts.map String.toList) := by
    rw [markdownText, if_neg (by simpa using hrows), String.toList_intercalate]
    rfl
  rw [htext, barLines_intercalate (by simp [lineTexts]), List.flatMap_map]
  intro l hl
  obtain ⟨l, hmem, rfl⟩ := List.mem_map.1 hl
  rw [getLast?_of_mem_lineTexts hmem]
  simp

theorem unbroken_barRule : Unbroken (barRule t.columns).toList := by
  have hrule : ∀ c, c ≠ '|' → c ≠ '-' → c ∉ (barRule t.columns).toList := by
    intro c hbar hdash hc
    rw [barRule, String.toList_append, String.toList_append, String.toList_intercalate, List.mem_append,
      List.mem_append, List.map_map] at hc
    have hbars : "|".toList = ['|'] := rfl
    rw [hbars, mem_intercalate_bar_iff hbar] at hc
    simp [hbar, hdash] at hc
  exact ⟨hrule _ (by decide) (by decide), hrule _ (by decide) (by decide)⟩

/-- **No line of a table is broken** exactly if no header has a line break and no cell a carriage return. -/
theorem unbroken_lineTexts_iff : (∀ l ∈ t.lineTexts, Unbroken l.toList) ↔
    (∀ header ∈ t.columns, Unbroken header.toList) ∧
      ∀ row ∈ t.rows, ∀ cell ∈ t.padded row, '\r' ∉ cell.toList := by
  rw [lineTexts, List.forall_mem_append, List.forall_mem_cons, List.forall_mem_singleton, List.forall_mem_map,
    unbroken_barRow_iff, and_iff_left unbroken_barRule]
  refine and_congr_right fun _ => forall₂_congr fun row _ => ?_
  rw [unbroken_barRow_iff, List.forall_mem_map]
  exact forall₂_congr fun cell _ => unbroken_barCell_iff cell

theorem length_barLines_markdownText_iff (hrows : t.rows ≠ []) :
    (barLines t.markdownText.toList).length = t.rows.length + 2 ↔ ∀ l ∈ t.lineTexts, Unbroken l.toList := by
  have hlength : t.rows.length + 2 = t.lineTexts.length := by simp [lineTexts]
  rw [barLines_markdownText hrows, hlength, length_flatMap_eq_iff (f := fun l : String => barLines l.toList)
    fun l => barLines_ne_nil l.toList]
  exact forall₂_congr fun l _ => length_barLines_eq_one_iff

/-- The lines below the rule, if none is broken. -/
theorem drop_barLines_markdownText (hrows : t.rows ≠ []) (hlines : ∀ l ∈ t.lineTexts, Unbroken l.toList) :
    (barLines t.markdownText.toList).drop 2 =
      t.rows.map fun row => (barRow ((t.padded row).map barCell)).toList := by
  rw [barLines_markdownText hrows, List.flatMap_congr fun l hl => barLines_of_unbroken (hlines l hl),
    ← List.map_eq_flatMap, lineTexts]
  simp

/-- **A row has a cell for each column** exactly if all its cells keep their bars. -/
theorem length_barCells_row (hcolumns : t.columns ≠ []) (row : List String) :
    (barCells (barRow ((t.padded row).map barCell)).toList).length = t.columns.length ↔
      ∀ cell ∈ t.padded row, KeepsBars cell.toList := by
  have hlength : t.columns.length = ((t.padded row).map barCell).length := by simp [padded]
  have hcells : (t.padded row).map barCell ≠ [] := by
    rw [← List.length_pos_iff, ← hlength]
    exact List.length_pos_iff.2 hcolumns
  rw [barCells_barRow hcells, hlength, length_flatMap_eq_iff (f := fun c : String => splitBars (margined c.toList))
    fun c => splitBars_ne_nil _, List.forall_mem_map]
  exact forall₂_congr fun cell _ => length_splitBars_margined cell

/-- A row of no cells is read as one. -/
theorem length_barCells_nil : (barCells (barRow []).toList).length = 1 := by
  decide

/-- **A table of bars keeps its cells apart** exactly if it has columns, no header has a line break and no cell a
carriage return, and every cell keeps its bars: then it has a line for each row below two others, and each of
these lines has a cell for each column. -/
theorem bars_keep_cells_iff (t : Table) (hrows : t.rows ≠ []) :
    ((barLines t.markdownText.toList).length = t.rows.length + 2 ∧
        ∀ line ∈ (barLines t.markdownText.toList).drop 2, (barCells line).length = t.columns.length) ↔
      t.columns ≠ [] ∧ (∀ header ∈ t.columns, Unbroken header.toList) ∧
        ∀ row ∈ t.rows, ∀ cell ∈ t.padded row, '\r' ∉ cell.toList ∧ KeepsBars cell.toList := by
  have hrow : (∀ l ∈ t.lineTexts, Unbroken l.toList) →
      ((∀ line ∈ (barLines t.markdownText.toList).drop 2, (barCells line).length = t.columns.length) ↔
        t.columns ≠ [] ∧ ∀ row ∈ t.rows, ∀ cell ∈ t.padded row, KeepsBars cell.toList) := by
    intro hlines
    rw [drop_barLines_markdownText hrows hlines, List.forall_mem_map]
    by_cases hcolumns : t.columns = []
    · -- the one cell that such a row is read as belongs to no column
      obtain ⟨row, hmem⟩ := List.exists_mem_of_ne_nil t.rows hrows
      refine iff_of_false (fun hall => ?_) fun h => h.1 hcolumns
      have hcells := hall row hmem
      rw [padded, hcolumns, List.length_nil, List.range_zero, List.map_nil, List.map_nil,
        length_barCells_nil] at hcells
      cases hcells
    · rw [and_iff_right hcolumns]
      exact forall₂_congr fun row _ => length_barCells_row hcolumns row
  rw [length_barLines_markdownText_iff hrows, and_congr_right hrow, unbroken_lineTexts_iff]
  simp only [forall_and]
  tauto

/-- A table with bars and line feeds in its cells, and with rows that are too short and too long. -/
def barredTable : Table where
  columns := ["File", "Message"]
  rows := [["a|b.py", "first|\nsecond \\\\| third\\"], ["c.py"], ["d.py", "", "left over"]]

theorem bars_keep_cells_iff_barred : barredTable.rows ≠ [] ∧
    (barLines barredTable.markdownText.toList).length = 5 ∧
      ∀ line ∈ (barLines barredTable.markdownText.toList).drop 2, (barCells line).length = 2 := by
  have hrows : barredTable.rows ≠ [] := by decide
  exact ⟨hrows, (bars_keep_cells_iff barredTable hrows).2 (by decide)⟩

/-- **A bar behind a backslash ends its cell**: the backslash in front of it that is written is escaped by the one
of the text, and a row of one cell is read as a row of two. -/
theorem bar_behind_backslash_ends_cell :
    ¬ ∀ t : Table, t.rows ≠ [] →
      (barLines t.markdownText.toList).length = t.rows.length + 2 ∧
        ∀ line ∈ (barLines t.markdownText.toList).drop 2, (barCells line).length = t.columns.length := by
  intro hkeeps
  obtain ⟨-, hcells⟩ := hkeeps ⟨["Message"], [["a\\|b"]]⟩ (by decide)
  have hcut := hcells "| a\\\\|b |".toList (by decide)
  exact absurd hcut (by decide)

end Table

end Multilint
