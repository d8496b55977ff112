import Multilint.Format.Reading
import Multilint.Proofs.Format.Page
/-!
# Tables of elements read back

A reader of markup takes the text of a table apart into tags and texts, and undoes the entities of the texts.
What it finds in a page that is written with entities are the pieces of the page, with texts that stand side by
side in one (`reads_pageText`): whatever a text says, it has no angle bracket once it is written, and no sign in
it that is not the start of an entity (`unescapeHtml_append`). In a table every line but that of a cell has a
tag and nothing else to say, so the cells of the table are found row by row (`elements_tell_cells`).
-/

namespace Multilint

open Table

namespace Markup

variable {s u : List Char} {es : List Element} {name : String} {ps qs : List Piece}
  {pss : List (List Piece)} {cells : List String}

/-! ## Entities undone -/

/-- Only an ampersand starts an entity. -/
theorem unescapeHtml_cons {c : Char} (hc : c ≠ '&') : unescapeHtml (c :: s) = c :: unescapeHtml s := by
  rw [unescapeHtml]
  all_goals
    rintro _ rfl
    exact absurd rfl hc

theorem unescapeHtml_entity (c : Char) : unescapeHtml ((entity c).toList ++ s) = c :: unescapeHtml s := by
  by_cases hc : c ∈ signs
  · simp only [signs, List.mem_cons, List.not_mem_nil, or_false] at hc
    rcases hc with rfl | rfl | rfl | rfl | rfl <;> rfl
  · have hamp : c ≠ '&' := by
      rintro rfl
      exact hc (by decide)
    rw [entity_of_not_mem hc, List.singleton_append, unescapeHtml_cons hamp]

/-- **Entities are undone**, whatever the text says and whatever stands behind it. -/
theorem unescapeHtml_append (text : String) :
    unescapeHtml ((escapeHtml text).toList ++ s) = text.toList ++ unescapeHtml s := by
  rw [toList_escapeHtml]
  induction text.toList with
  | nil => rfl
  | cons c cs ih => rw [List.flatMap_cons, List.append_assoc, unescapeHtml_entity, ih, List.cons_append]

/-! ## Elements -/

/-- **The elements that a text is taken apart into**, however many more characters may be read. -/
def Reads (s : List Char) (es : List Element) : Prop :=
  ∀ n, s.length < n → elements? n s = some es

theorem reads_nil : Reads [] [] := by
  intro n hn
  obtain ⟨n, rfl⟩ := Nat.exists_eq_add_of_lt hn
  rw [elements?]

/-- A tag is read up to the bracket that closes it. -/
theorem Reads.tag (hname : '>' ∉ name.toList) (hs : Reads s es) :
    Reads ('<' :: (name.toList ++ '>' :: s)) (.tag name.toList :: es) := by
  intro n hn
  obtain ⟨n, rfl⟩ : ∃ m, n = m + 1 := ⟨n - 1, by omega⟩
  have hopen : ∀ c ∈ name.toList, decide (c ≠ '>') = true := by
    intro c hc
    simpa using fun h : c = '>' => hname (h ▸ hc)
  have hrest : elements? n s = some es := by
    refine hs n ?_
    simp only [List.length_cons, List.length_append] at hn
    omega
  rw [elements?, List.dropWhile_append_of_pos hopen, List.takeWhile_append_of_pos hopen]
  simp [hrest]

/-- Elements with a text in front of them, which becomes part of a text that they start with. -/
def withText (s : List Char) : List Element → List Element
  | .text u :: es => .text (s ++ u) :: es
  | es => if s = [] then es else .text s :: es

theorem withText_nil (es : List Element) : withText [] es = es := by
  fun_cases withText [] es <;> simp_all

/-- A text that does not start with a tag is read up to the next tag. -/
theorem elements?_succ {c : Char} (hc : c ≠ '<') (n : ℕ) : elements? (n + 1) (c :: s) =
    (elements? n ((c :: s).dropWhile (· ≠ '<'))).map
      (.text (unescapeHtml ((c :: s).takeWhile (· ≠ '<'))) :: ·) := by
  rw [elements?]
  · simp
  · rintro _ ⟨⟩
    exact absurd rfl hc

/-- A tag is no text. -/
theorem exists_tag_of_elements? {n : ℕ} (h : elements? n ('<' :: s) = some es) :
    ∃ name rest, es = .tag name :: rest := by
  cases n with
  | zero => cases h
  | succ n =>
    rw [elements?] at h
    split at h
    · obtain ⟨rest, -, rfl⟩ := Option.map_eq_some_iff.1 h
      exact ⟨_, rest, rfl⟩
    · cases h

/-- **A text with entities is read as the text**, whatever it says. -/
theorem Reads.text (text : String) (hs : Reads s es) :
    Reads ((escapeHtml text).toList ++ s) (withText text.toList es) := by
  by_cases htext : text = ""
  · rw [htext, String.toList_empty, withText_nil]
    exact hs
  · have hfront : ∀ c ∈ (escapeHtml text).toList, decide (c ≠ '<') = true := by
      have hlt : '<' ∉ (escapeHtml text).toList := not_mem_escapeHtml (by decide) (by decide)
      intro c hc
      simpa using fun h : c = '<' => hlt (h ▸ hc)
    obtain ⟨d, ds, hd⟩ : ∃ d ds, (escapeHtml text).toList = d :: ds := by
      refine List.exists_cons_of_ne_nil fun hnil => htext ?_
      have hle := (length_le_escapeHtml text).1
      rw [hnil, List.length_nil, Nat.le_zero, List.length_eq_zero_iff] at hle
      exact String.toList_inj.1 hle
    intro n hn
    obtain ⟨n, rfl⟩ : ∃ m, n = m + 1 := ⟨n - 1, by omega⟩
    have hread : elements? (n + 1) ((escapeHtml text).toList ++ s) =
        (elements? n (s.dropWhile (· ≠ '<'))).map
          (.text (text.toList ++ unescapeHtml (s.takeWhile (· ≠ '<'))) :: ·) := by
      have hne : d ≠ '<' := by simpa using hfront d (hd ▸ List.mem_cons_self)
      rw [← unescapeHtml_append, ← List.takeWhile_append_of_pos hfront, ← List.dropWhile_append_of_pos hfront,
        hd, List.cons_append, elements?_succ hne]
    have hshort : s.length < n := by
      rw [hd, List.length_append, List.length_cons] at hn
      omega
    -- what stands behind the text starts with nothing, with a tag, or with a text that it becomes part of
    rw [hread]
    cases s with
    | nil =>
      obtain rfl : [] = es := by simpa [elements?] using hs 1 Nat.one_pos
      obtain ⟨n, rfl⟩ : ∃ m, n = m + 1 := ⟨n - 1, by omega⟩
      simp [elements?, unescapeHtml, withText, htext]
    | cons c s =>
      by_cases hc : c = '<'
      · have htag := hs n hshort
        rw [hc] at htag
        obtain ⟨name, rest, rfl⟩ := exists_tag_of_elements? htag
        simp [hc, htag, unescapeHtml, withText, htext]
      · have hbehind := hs (n + 1) (by omega)
        rw [elements?_succ hc] at hbehind
        obtain ⟨rest, hrest, rfl⟩ := Option.map_eq_some_iff.1 hbehind
        rw [hrest]
        rfl

/-- **The elements of a page.** -/
def elementsOf : List Piece → List Element
  | [] => []
  | .tag name :: ps => .tag name.toList :: elementsOf ps
  | .cell s :: ps => withText s.toList (elementsOf ps)
  | .aside s :: ps => withText s.toList (elementsOf ps)

/-- **A page is read as its elements**, if the tags in it are known. -/
theorem reads_pageText (hps : ∀ p ∈ ps, p.IsKnown) :
    Reads (pageText escapeHtml ps).toList (elementsOf ps) := by
  induction ps with
  | nil => exact reads_nil
  | cons p ps ih =>
    rw [List.forall_mem_cons] at hps
    rw [pageText_cons, String.toList_append]
    cases p with
    | tag name =>
      have hname : ∀ name ∈ vocabulary, '>' ∉ name.toList := by decide
      have htext : (Piece.text escapeHtml (.tag name)).toList ++ (pageText escapeHtml ps).toList =
          '<' :: (name.toList ++ '>' :: (pageText escapeHtml ps).toList) := by simp [Piece.text]
      rw [htext]
      exact (ih hps.2).tag (hname name hps.1)
    | cell s => exact (ih hps.2).text s
    | aside s => exact (ih hps.2).text s

/-- The name of a piece that is a tag. -/
def Piece.tag? : Piece → Option String
  | .tag name => some name
  | _ => none

theorem filterMap_withText (s : List Char) (es : List Element) :
    (withText s es).filterMap Element.tag? = es.filterMap Element.tag? := by
  fun_cases withText s es with
  | case1 u es => rfl
  | case2 es _ => rfl
  | case3 es _ hs => rfl

/-- The tags of a page are those of its pieces. -/
theorem filterMap_elementsOf : (elementsOf ps).filterMap Element.tag? = ps.filterMap Piece.tag? := by
  induction ps with
  | nil => rfl
  | cons p ps ih =>
    cases p with
    | tag name => rw [elementsOf, List.filterMap_cons, List.filterMap_cons, ih]; simp [Element.tag?, Piece.tag?]
    | cell s => rw [elementsOf, filterMap_withText, ih]; rfl
    | aside s => rw [elementsOf, filterMap_withText, ih]; rfl

/-- The tags of lines are those of each of them. -/
theorem filterMap_joined (sep : String) :
    (joined sep pss).filterMap Piece.tag? = pss.flatMap (List.filterMap Piece.tag?) := by
  induction pss with
  | nil => rfl
  | cons ps pss ih =>
    by_cases hpss : pss = []
    · rw [hpss, joined, List.intercalate_singleton, List.flatMap_singleton]
    · rw [joined, List.intercalate_cons_of_ne_nil hpss, List.filterMap_append, List.filterMap_append, ← joined, ih]
      simp [Piece.tag?]

/-! ## Cells -/

theorem cellsOf_withText (s : List Char) (es : List Element) : cellsOf (withText s es) = cellsOf es := by
  fun_cases withText s es <;> rfl

/-- The text that elements start with; empty where they start with none. -/
def firstText : List Element → List Char
  | .text s :: _ => s
  | _ => []

/-- What a tag says about the cells: it ends a row, it begins a cell, or it says nothing. -/
theorem cellsOf_cons (name : String) (es : List Element) : cellsOf (.tag name.toList :: es) =
    if name = "/tr" then [] :: cellsOf es
    else if name = "td" ∨ name = "th" then (cellsOf es).modifyHead (firstText es :: ·)
    else cellsOf es := by
  conv_lhs => unfold cellsOf
  simp only [String.toList_inj, Bool.or_eq_true, decide_eq_true_eq]
  split
  · rfl
  · split
    · rcases es with _ | ⟨_ | _, es⟩ <;> cases cellsOf _ <;> rfl
    · rfl

/-- The tags that end a row or begin a cell. -/
def rowMarks : List String :=
  ["/tr", "td", "th"]

theorem cellsOf_tag (hname : name ∉ rowMarks) : cellsOf (.tag name.toList :: es) = cellsOf es := by
  simp only [rowMarks, List.mem_cons, List.not_mem_nil, or_false, not_or] at hname
  rw [cellsOf_cons, if_neg hname.1, if_neg (not_or.2 hname.2)]

theorem firstText_withText_tag : firstText (withText s (.tag u :: es)) = s := by
  rw [withText]
  · split
    · rename_i hs
      rw [hs]
      rfl
    · rfl
  · rintro _ _ ⟨⟩

/-- **A cell is the text between its tags**, empty where there is none. -/
theorem cellsOf_cell (htag : name = "td" ∨ name = "th") {close : String} (hclose : close ∉ rowMarks) :
    cellsOf (.tag name.toList :: withText s (.tag close.toList :: es)) =
      (cellsOf es).modifyHead (s :: ·) := by
  have hend : name ≠ "/tr" := by
    rcases htag with rfl | rfl <;> decide
  rw [cellsOf_cons, if_neg hend, if_pos htag, firstText_withText_tag, cellsOf_withText, cellsOf_tag hclose]

/-- **The cells of lines**, row by row. -/
def cellTexts (pss : List (List Piece)) : List (List (List Char)) :=
  cellsOf (elementsOf (joined "\n" pss))

/-- What stands behind the first line has the cells of the others. -/
theorem exists_joined_cons (ps : List Piece) (pss : List (List Piece)) :
    ∃ qs, joined "\n" (ps :: pss) = ps ++ qs ∧ cellsOf (elementsOf qs) = cellTexts pss := by
  by_cases hpss : pss = []
  · exact ⟨[], by rw [hpss, joined, List.intercalate_singleton, List.append_nil], by rw [hpss]; rfl⟩
  · refine ⟨.cell "\n" :: joined "\n" pss, ?_, by rw [elementsOf, cellsOf_withText]; rfl⟩
    rw [joined, List.intercalate_cons_of_ne_nil hpss, List.append_assoc, List.singleton_append, ← joined]

variable {indent tag : String}

theorem cellTexts_tagLine (htag : tag ∉ rowMarks) :
    cellTexts (tagLine indent tag :: pss) = cellTexts pss := by
  obtain ⟨qs, hqs, hcells⟩ := exists_joined_cons (tagLine indent tag) pss
  rw [cellTexts, hqs, tagLine, List.cons_append, List.singleton_append, elementsOf, elementsOf,
    cellsOf_withText, cellsOf_tag htag, hcells]

theorem cellTexts_end : cellTexts (tagLine indent "/tr" :: pss) = [] :: cellTexts pss := by
  obtain ⟨qs, hqs, hcells⟩ := exists_joined_cons (tagLine indent "/tr") pss
  rw [cellTexts, hqs, tagLine, List.cons_append, List.singleton_append, elementsOf, elementsOf,
    cellsOf_withText, cellsOf_cons, if_pos rfl, hcells]

theorem cellTexts_cellLine (htag : tag = "td" ∨ tag = "th") (c : String) :
    cellTexts (cellLine tag c :: pss) = (cellTexts pss).modifyHead (c.toList :: ·) := by
  obtain ⟨qs, hqs, hcells⟩ := exists_joined_cons (cellLine tag c) pss
  have hclose : "/" ++ tag ∉ rowMarks := by
    rcases htag with rfl | rfl <;> decide
  rw [cellTexts, hqs, cellLine, List.cons_append, List.cons_append, List.cons_append, List.singleton_append,
    elementsOf, elementsOf, elementsOf, elementsOf, cellsOf_withText, cellsOf_cell htag hclose, hcells]

/-- **The lines of a row are read as the row.** -/
theorem cellTexts_rowPieces (htag : tag = "td" ∨ tag = "th") (cells : List String) :
    cellTexts (rowPieces tag cells ++ pss) = cells.map String.toList :: cellTexts pss := by
  have hcells : cellTexts (cells.map (cellLine tag) ++ tagLine "    " "/tr" :: pss) =
      cells.map String.toList :: cellTexts pss := by
    induction cells with
    | nil => exact cellTexts_end
    | cons c cells ih =>
      rw [List.map_cons, List.cons_append, cellTexts_cellLine htag, ih]
      rfl
  rw [rowPieces, List.append_assoc, List.append_assoc, List.singleton_append, List.singleton_append,
    cellTexts_tagLine (by decide), hcells]

/-- **The lines of a table are read as its headers and its rows.** -/
theorem cellTexts_linePieces (t : Table) : cellTexts t.linePieces =
    (t.columns :: t.rows.map t.padded).map (·.map String.toList) := by
  have hrows : ∀ rows : List (List String),
      cellTexts (rows.flatMap (fun row => rowPieces "td" (t.padded row)) ++
        [tagLine "  " "/tbody", tagLine "" "/table"]) =
          (rows.map t.padded).map (·.map String.toList) := by
    intro rows
    induction rows with
    | nil =>
      rw [List.flatMap_nil, List.nil_append, cellTexts_tagLine (by decide), cellTexts_tagLine (by decide)]
      rfl
    | cons row rows ih =>
      rw [List.flatMap_cons, List.append_assoc, cellTexts_rowPieces (.inl rfl), ih]
      rfl
  rw [linePieces, List.append_assoc, List.append_assoc, List.append_assoc, List.cons_append, List.singleton_append,
    cellTexts_tagLine (by decide), cellTexts_tagLine (by decide), cellTexts_rowPieces (.inr rfl), List.cons_append,
    List.singleton_append, cellTexts_tagLine (by decide), cellTexts_tagLine (by decide), hrows]
  rfl

end Markup

namespace Table

open Markup

/-! ## Tables -/

/-- The tags of a row with so many cells. -/
def rowTags (tag : String) (n : ℕ) : List String :=
  ["tr"] ++ (List.replicate n [tag, "/" ++ tag]).flatten ++ ["/tr"]

/-- **The tags of a table** with so many columns and rows. -/
def tags (columns rows : ℕ) : List String :=
  ["table", "thead"] ++ rowTags "th" columns ++ ["/thead", "tbody"] ++
    (List.replicate rows (rowTags "td" columns)).flatten ++ ["/tbody", "/table"]

/-- **A row has a cell for each column**: what is too long is cut off, and empty cells are put behind what is too
short. -/
theorem padded_eq (t : Table) (row : List String) : t.padded row =
    row.take t.columns.length ++ List.replicate (t.columns.length - row.length) "" := by
  refine List.ext_getElem? fun i => ?_
  rw [List.getElem?_append, List.length_take, List.getElem?_take, List.getElem?_replicate, padded,
    List.getElem?_map]
  by_cases hi : i < t.columns.length
  · rw [List.getElem?_range hi, Option.map_some, if_pos hi, cellAt, List.getD_eq_getElem?_getD]
    by_cases hrow : i < row.length
    · rw [if_pos (by omega), List.getElem?_eq_getElem hrow, Option.getD_some]
    · rw [if_neg (by omega), if_pos (by omega), List.getElem?_eq_none (by omega), Option.getD_none]
  · have hbehind : ¬ i - min t.columns.length row.length < t.columns.length - row.length := by omega
    rw [List.getElem?_eq_none (by rw [List.length_range]; omega), Option.map_none, if_neg hi, if_neg hbehind,
      ite_self]

theorem flatMap_tags_rowPieces (tag : String) (cells : List String) :
    (rowPieces tag cells).flatMap (List.filterMap Piece.tag?) = rowTags tag cells.length := by
  have hcells : (cells.map (cellLine tag)).flatMap (List.filterMap Piece.tag?) =
      (List.replicate cells.length [tag, "/" ++ tag]).flatten := by
    induction cells with
    | nil => rfl
    | cons c cells ih =>
      rw [List.map_cons, List.flatMap_cons, ih, List.length_cons, List.replicate_succ, List.flatten_cons]
      rfl
  rw [rowPieces, List.flatMap_append, List.flatMap_append, hcells, rowTags]
  rfl

theorem flatMap_tags_linePieces (t : Table) :
    t.linePieces.flatMap (List.filterMap Piece.tag?) = tags t.columns.length t.rows.length := by
  have hrows : ∀ rows : List (List String),
      (rows.flatMap fun row => rowPieces "td" (t.padded row)).flatMap (List.filterMap Piece.tag?) =
        (List.replicate rows.length (rowTags "td" t.columns.length)).flatten := by
    intro rows
    induction rows with
    | nil => rfl
    | cons row rows ih =>
      have hlength : (t.padded row).length = t.columns.length := by simp [padded]
      rw [List.flatMap_cons, List.flatMap_append, ih, flatMap_tags_rowPieces, hlength, List.length_cons,
        List.replicate_succ, List.flatten_cons]
  rw [linePieces, List.flatMap_append, List.flatMap_append, List.flatMap_append, List.flatMap_append, hrows,
    flatMap_tags_rowPieces, tags]
  rfl

/-- **A table of elements tells its cells.** A reader of markup finds the tags of a table with a header row and
with a row for each row, each with a cell for each column, and in the cells the headers and, row by row and in
order, the texts of the row, of which none is left over and none is missing. -/
theorem elements_tell_cells (t : Table) (hrows : t.rows ≠ []) :
    ∃ es, elements? (t.htmlText.toList.length + 1) t.htmlText.toList = some es ∧
      es.filterMap Element.tag? = tags t.columns.length t.rows.length ∧
      cellsOf es = (t.columns :: t.rows.map fun row =>
        row.take t.columns.length ++ List.replicate (t.columns.length - row.length) "").map
          (·.map String.toList) := by
  have hpieces : t.pieces = joined "\n" t.linePieces := if_neg (by simpa using hrows)
  have hread : Reads t.htmlText.toList (elementsOf t.pieces) := by
    rw [← pageText_pieces]
    exact reads_pageText fun p hp => (pieces_sound p hp).1
  refine ⟨elementsOf t.pieces, hread _ (Nat.lt_succ_self _), ?_, ?_⟩
  · rw [filterMap_elementsOf, hpieces, filterMap_joined, flatMap_tags_linePieces]
  · rw [hpieces, ← cellTexts, cellTexts_linePieces, funext t.padded_eq]

/-- A table whose texts look like tags, like entities and like lines, with a row that is too short and one that is
too long. -/
theorem elements_tell_cells_marked : ∃ es,
    elements? ((Table.mk ["<th>", ""] [["a&lt;\n</td>"], ["", "&", "\"over\""]]).htmlText.toList.length + 1)
      (Table.mk ["<th>", ""] [["a&lt;\n</td>"], ["", "&", "\"over\""]]).htmlText.toList = some es ∧
    es.filterMap Element.tag? = tags 2 2 ∧
    cellsOf es = [["<th>", ""], ["a&lt;\n</td>", ""], ["", "&"]].map (·.map String.toList) :=
  elements_tell_cells (.mk ["<th>", ""] [["a&lt;\n</td>"], ["", "&", "\"over\""]]) (by decide)

end Table

end Multilint
