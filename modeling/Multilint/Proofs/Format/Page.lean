import Multilint.Catalog.Tools
import Multilint.Format.Report
import Multilint.Proofs.Format.Markup
/-!
# Reports as pages

A report in the format of elements is a page: its tables are made of tags and of cells with entities, and the
heading of a section, the output of a tool and a text that a result without findings already has stand beside
them as they are (`text_render_html`). So the page is safe to read as markup exactly if each of those texts is
plain (`html_escaped_iff`).
-/

namespace Multilint

open Markup

/-! ## Tables -/

namespace Table

variable {t : Table} {write : String → String} {indent tag c : String}

/-- A line with a tag. -/
def tagLine (indent tag : String) : List Piece :=
  [.cell indent, .tag tag]

/-- A line with a cell between its tags. -/
def cellLine (tag c : String) : List Piece :=
  [.cell "      ", .tag tag, .cell c, .tag ("/" ++ tag)]

/-- The lines of a row of elements. -/
def rowPieces (tag : String) (cells : List String) : List (List Piece) :=
  [tagLine "    " "tr"] ++ cells.map (cellLine tag) ++ [tagLine "    " "/tr"]

/-- The lines of a table of elements. -/
def linePieces (t : Table) : List (List Piece) :=
  [tagLine "" "table", tagLine "  " "thead"] ++ rowPieces "th" t.columns ++
    [tagLine "  " "/thead", tagLine "  " "tbody"] ++
    t.rows.flatMap (fun row => rowPieces "td" (t.padded row)) ++
    [tagLine "  " "/tbody", tagLine "" "/table"]

/-- The pieces of a table of elements. -/
def pieces (t : Table) : List Piece :=
  if t.rows.isEmpty then [] else joined "\n" t.linePieces

theorem pageText_tagLine (hindent : IsPlain indent) :
    pageText write (tagLine indent tag) = indent ++ ("<" ++ tag ++ ">") := by
  rw [tagLine, pageText_cons, pageText_cons, pageText_nil, String.append_empty, Piece.text,
    Piece.text, escapeHtml_eq_self_iff.2 hindent]

theorem pageText_cellLine : pageText write (cellLine tag c) =
    "      <" ++ tag ++ ">" ++ escapeHtml c ++ "</" ++ tag ++ ">" := by
  have hindent : escapeHtml "      " = "      " := escapeHtml_eq_self_iff.2 (by decide)
  rw [← String.toList_inj]
  simp [cellLine, pageText_cons, Piece.text, hindent]

theorem map_pageText_rowPieces (tag : String) (cells : List String) :
    (rowPieces tag cells).map (pageText write) = elementRow tag cells := by
  have hrow : IsPlain "    " := by decide
  simp [rowPieces, elementRow, pageText_tagLine hrow, Function.comp_def, pageText_cellLine]

/-- **The text of a table of elements.** No aside is part of it. -/
theorem pageText_pieces : pageText write t.pieces = t.htmlText := by
  have hinner : IsPlain "  " := by decide
  have houter : IsPlain "" := by decide
  rw [pieces, htmlText]
  split
  · rfl
  · rw [pageText_joined (by decide), linePieces]
    simp [pageText_tagLine hinner, pageText_tagLine houter, map_pageText_rowPieces, List.map_flatMap]

theorem tagLine_sound (htag : tag ∈ vocabulary) :
    ∀ p ∈ tagLine indent tag, p.IsKnown ∧ p.IsPlain := by
  rw [tagLine, List.forall_mem_cons, List.forall_mem_singleton]
  exact ⟨⟨trivial, trivial⟩, htag, trivial⟩

theorem rowPieces_sound {cells : List String} (hopen : tag ∈ vocabulary)
    (hclose : "/" ++ tag ∈ vocabulary) :
    ∀ line ∈ rowPieces tag cells, ∀ p ∈ line, p.IsKnown ∧ p.IsPlain := by
  have hcell : ∀ c, ∀ p ∈ cellLine tag c, p.IsKnown ∧ p.IsPlain := by
    intro c
    rw [cellLine, List.forall_mem_cons, List.forall_mem_cons, List.forall_mem_cons,
      List.forall_mem_singleton]
    exact ⟨⟨trivial, trivial⟩, ⟨hopen, trivial⟩, ⟨trivial, trivial⟩, hclose, trivial⟩
  rw [rowPieces, List.forall_mem_append, List.forall_mem_append, List.forall_mem_singleton,
    List.forall_mem_singleton, List.forall_mem_map]
  exact ⟨⟨tagLine_sound (by decide), fun c _ => hcell c⟩, tagLine_sound (by decide)⟩

/-- **A table has no asides**, and no tags but those of tables. -/
theorem pieces_sound : ∀ p ∈ t.pieces, p.IsKnown ∧ p.IsPlain := by
  rw [pieces]
  split
  · simp
  · have hrows : ∀ line ∈ t.rows.flatMap (fun row => rowPieces "td" (t.padded row)),
        ∀ p ∈ line, p.IsKnown ∧ p.IsPlain := by
      intro line hline
      obtain ⟨row, -, hline⟩ := List.mem_flatMap.1 hline
      exact rowPieces_sound (by decide) (by decide) line hline
    have htwo : ∀ indent indent' tag tag' : String, tag ∈ vocabulary → tag' ∈ vocabulary →
        ∀ line ∈ [tagLine indent tag, tagLine indent' tag'], ∀ p ∈ line, p.IsKnown ∧ p.IsPlain := by
      intro indent indent' tag tag' htag htag'
      rw [List.forall_mem_cons, List.forall_mem_singleton]
      exact ⟨tagLine_sound htag, tagLine_sound htag'⟩
    rw [forall_mem_joined ⟨trivial, trivial⟩, linePieces, List.forall_mem_append,
      List.forall_mem_append, List.forall_mem_append, List.forall_mem_append]
    exact ⟨⟨⟨⟨htwo _ _ _ _ (by decide) (by decide), rowPieces_sound (by decide) (by decide)⟩,
      htwo _ _ _ _ (by decide) (by decide)⟩, hrows⟩, htwo _ _ _ _ (by decide) (by decide)⟩

/-- A table with rows is some text. -/
theorem tag_mem_pieces (hrows : t.rows ≠ []) : Piece.tag "table" ∈ t.pieces := by
  have hline : tagLine "" "table" ∈ t.linePieces := by simp [linePieces]
  rw [pieces, if_neg (by simpa using hrows)]
  exact mem_joined hline (List.mem_cons_of_mem _ List.mem_cons_self)

/-! A table may have a title above it, which is no aside either. -/

/-- A table with a title above it. -/
def titledPieces (title : String) (t : Table) : List Piece :=
  joined "\n" [[.cell title], t.pieces]

theorem pageText_titledPieces {title : String} (htitle : IsPlain title) :
    pageText write (titledPieces title t) = title ++ "\n" ++ t.htmlText := by
  rw [titledPieces, pageText_joined (by decide), List.map_cons, List.map_singleton, pageText_pieces,
    pageText_cons, pageText_nil, String.append_empty, Piece.text, escapeHtml_eq_self_iff.2 htitle,
    String.intercalate_cons_cons, String.intercalate_singleton]

theorem titledPieces_sound {title : String} :
    ∀ p ∈ titledPieces title t, p.IsKnown ∧ p.IsPlain := by
  rw [titledPieces, forall_mem_joined ⟨trivial, trivial⟩, List.forall_mem_cons,
    List.forall_mem_singleton, List.forall_mem_singleton]
  exact ⟨⟨trivial, trivial⟩, pieces_sound⟩

/-! ## Findings -/

variable {stamp tool heading : String} {cs : List Column} {canFix : Bool} {findings : List Finding}

/-- The findings of a tool under a heading, if there are any. -/
def partPieces (heading : String) (cs : List Column) (findings : List Finding) : List (List Piece) :=
  if findings.isEmpty then [] else [titledPieces heading (ofFindings cs findings)]

/-- The findings of a tool, those that can be mended first where there are any. -/
def findingsPieces (cs : List Column) (canFix : Bool) (findings : List Finding) : List Piece :=
  if canFix && findings.any Finding.fixable then
    joined "\n\n"
      (partPieces fixableHeading cs (findings.filter Finding.fixable) ++
        partPieces unfixableHeading cs (findings.filter fun x => !x.fixable))
  else (ofFindings cs findings).pieces

theorem map_pageText_partPieces (hheading : IsPlain heading) :
    (partPieces heading cs findings).map (pageText write) = part .html stamp tool heading cs findings := by
  rw [partPieces, part]
  split
  · rfl
  · rw [List.map_singleton, pageText_titledPieces hheading]
    rfl

theorem pageText_findingsPieces (write : String → String) (stamp tool : String) (cs : List Column)
    (canFix : Bool) (findings : List Finding) :
    pageText write (findingsPieces cs canFix findings) = findingsText .html stamp tool cs canFix findings := by
  simp only [findingsPieces, findingsText]
  split
  · rw [pageText_joined (by decide), List.map_append, map_pageText_partPieces (by decide),
      map_pageText_partPieces (by decide)]
  · exact pageText_pieces

theorem partPieces_sound :
    ∀ ps ∈ partPieces heading cs findings, ∀ p ∈ ps, p.IsKnown ∧ p.IsPlain := by
  rw [partPieces]
  split
  · simp
  · rw [List.forall_mem_singleton]
    exact titledPieces_sound

theorem findingsPieces_sound : ∀ p ∈ findingsPieces cs canFix findings, p.IsKnown ∧ p.IsPlain := by
  rw [findingsPieces]
  split
  · rw [forall_mem_joined ⟨trivial, trivial⟩, List.forall_mem_append]
    exact ⟨partPieces_sound, partPieces_sound⟩
  · exact pieces_sound

/-- Findings are some text. -/
theorem findingsText_ne_empty (stamp tool : String) (cs : List Column) (canFix : Bool)
    (hfindings : findings ≠ []) :
    findingsText .html stamp tool cs canFix findings ≠ "" := by
  have htag : Piece.tag "table" ∈ findingsPieces cs canFix findings := by
    rw [findingsPieces]
    split
    next hparts =>
      obtain ⟨f, hf, hfixable⟩ := List.any_eq_true.1 (Bool.and_eq_true_iff.1 hparts).2
      have hsome : findings.filter Finding.fixable ≠ [] :=
        List.ne_nil_of_mem (List.mem_filter.2 ⟨hf, hfixable⟩)
      rw [partPieces, if_neg (by simpa using hsome), titledPieces]
      have htable : Piece.tag "table" ∈ (ofFindings cs (findings.filter Finding.fixable)).pieces :=
        tag_mem_pieces (by simpa [ofFindings] using hsome)
      exact mem_joined (List.mem_append_left _ List.mem_cons_self)
        (mem_joined (List.mem_cons_of_mem _ List.mem_cons_self) htable)
    next => exact tag_mem_pieces (by simpa [ofFindings] using hfindings)
  rw [← pageText_findingsPieces id]
  exact pageText_ne_empty htag (by decide)

end Table

/-! ## Sections -/

namespace ToolResult

variable {t : ToolResult} {box : Toolbox} {stamp : String} {action : Action} {color : Bool}

/-- **A result speaks plainly** if no text of it that stands outside of the tables has a sign of markup. -/
structure SpeaksPlainly (t : ToolResult) : Prop where
  /-- The tool is named in the heading. -/
  name : IsPlain t.name
  /-- The output is what the section says besides the findings. -/
  output : ∀ s ∈ t.output, IsPlain s
  /-- Without findings a text that the result already has stays. -/
  rendered : t.findings = [] → ∀ s ∈ t.rendered, IsPlain s

/-- The findings of a section. -/
def renderedPieces (box : Toolbox) (t : ToolResult) : List (List Piece) :=
  if t.findings.isEmpty then asides t.renderedPart
  else [Table.findingsPieces (box.tableFor t.name).1 (box.tableFor t.name).2 t.findings]

/-- The section of a tool. -/
def sectionPieces (box : Toolbox) (action : Action) (color : Bool) (t : ToolResult) : List Piece :=
  joined "\n"
    (asides [t.heading action color] ++ t.renderedPieces box ++ asides (t.remark color))

theorem map_pageText_renderedPieces (box : Toolbox) (stamp : String) (t : ToolResult) :
    (t.renderedPieces box).map (pageText id) = (t.render box .html stamp).renderedPart := by
  rw [renderedPieces, render]
  split
  · rw [map_pageText_asides, List.map_id]
  next hsome =>
    have hne := Table.findingsText_ne_empty stamp t.name (box.tableFor t.name).1
      (box.tableFor t.name).2 (by simpa using hsome)
    simp [renderedPart, Table.pageText_findingsPieces id stamp t.name, Option.filter, hne]

/-- **The text of a section** has its asides as they are. -/
theorem pageText_sectionPieces : pageText id (t.sectionPieces box action color) =
    (t.render box .html stamp).sectionText action .html color := by
  have hsame : (t.render box .html stamp).heading action color = t.heading action color ∧
      (t.render box .html stamp).remark color = t.remark color := by
    rw [render]
    split <;> exact ⟨rfl, rfl⟩
  rw [sectionPieces, pageText_joined (by decide), List.map_append, List.map_append, map_pageText_asides,
    map_pageText_asides, map_pageText_renderedPieces box stamp, List.map_id, List.map_id,
    sectionText, hsame.1, hsame.2]
  rfl

theorem sectionText_ne_empty : (t.render box .html stamp).sectionText action .html color ≠ "" := by
  have hheading : t.heading action color ≠ "" := by
    cases color <;> simp [heading, painted, Colour.bold, Colour.paint]
  have hfirst : [.aside (t.heading action color)] ∈
      asides [t.heading action color] ++ t.renderedPieces box ++ asides (t.remark color) := by
    simp [asides]
  rw [← pageText_sectionPieces]
  exact pageText_ne_empty (mem_joined hfirst List.mem_cons_self) hheading

theorem isKnown_of_mem_sectionPieces : ∀ p ∈ t.sectionPieces box action color, p.IsKnown := by
  have haside : ∀ ss, ∀ ps ∈ asides ss, ∀ p ∈ ps, p.IsKnown := fun ss =>
    forall_mem_asides.2 fun _ _ => trivial
  have hrendered : ∀ ps ∈ t.renderedPieces box, ∀ p ∈ ps, p.IsKnown := by
    rw [renderedPieces]
    split
    · exact haside _
    · rw [List.forall_mem_singleton]
      exact fun p hp => (Table.findingsPieces_sound p hp).1
  rw [sectionPieces, forall_mem_joined trivial, List.forall_mem_append, List.forall_mem_append]
  exact ⟨⟨haside _, hrendered⟩, haside _⟩

/-! A heading and a remark are as plain as the name and the output in them. -/

theorem isPlain_painted {paint : String → String} (hpaint : ∀ s, IsPlain (paint s) ↔ IsPlain s)
    (s : String) : IsPlain (painted color paint s) ↔ IsPlain s := by
  cases color
  · exact Iff.rfl
  · exact hpaint s

theorem isPlain_paint {c : Colour} {s : String} : IsPlain (c.paint s) ↔ IsPlain s :=
  isPlain_between (by cases c <;> decide) (by decide)

theorem isPlain_bold {s : String} : IsPlain (Colour.bold s) ↔ IsPlain s :=
  isPlain_between (by decide) (by decide)

theorem isPlain_heading : IsPlain (t.heading action color) ↔ IsPlain t.name := by
  have haction : IsPlain (" (" ++ action.name) := by cases action <;> decide
  have hparts : "▶ " ++ t.name ++ " (" ++ action.name ++ ")" =
      "▶ " ++ t.name ++ (" (" ++ action.name) ++ ")" := by
    simp only [String.append_assoc]
  rw [heading, hparts]
  rw [isPlain_painted fun s => isPlain_bold.trans isPlain_paint, isPlain_append,
    isPlain_between (by decide) haction]
  exact and_iff_left (by decide)

theorem forall_mem_remark : (∀ s ∈ t.remark color, IsPlain s) ↔ ∀ s ∈ t.output, IsPlain s := by
  cases houtput : t.output with
  | none =>
    have hnone : IsPlain OutputFormat.noFindings := by decide
    rw [remark, houtput]
    dsimp only
    split <;> simp [hnone]
  | some text =>
    have hskip : IsPlain (painted color Colour.yellow.paint ("⏭  " ++ text)) ↔ IsPlain text := by
      rw [isPlain_painted fun s => isPlain_paint, isPlain_append]
      exact and_iff_right (by decide)
    rw [remark, houtput]
    dsimp only
    split <;> simp [hskip]

theorem forall_mem_renderedPart : (∀ s ∈ t.renderedPart, IsPlain s) ↔ ∀ s ∈ t.rendered, IsPlain s := by
  have hempty : IsPlain "" := by decide
  cases hrendered : t.rendered with
  | none => simp [renderedPart, hrendered]
  | some text =>
    by_cases htext : text = ""
    · simp [renderedPart, hrendered, htext, hempty]
    · simp [renderedPart, hrendered, htext, Option.filter]

/-- **The asides of a section** are plain exactly if the result speaks plainly. -/
theorem forall_mem_sectionPieces :
    (∀ p ∈ t.sectionPieces box action color, p.IsPlain) ↔ t.SpeaksPlainly := by
  have hrendered : (∀ ps ∈ t.renderedPieces box, ∀ p ∈ ps, p.IsPlain) ↔
      (t.findings = [] → ∀ s ∈ t.rendered, IsPlain s) := by
    rw [renderedPieces, ← forall_mem_renderedPart]
    split
    next hnone =>
      rw [imp_iff_right (List.isEmpty_iff.1 hnone)]
      exact forall_mem_asides
    next hsome =>
      refine iff_of_true ?_ fun hnone => absurd (List.isEmpty_iff.2 hnone) hsome
      rw [List.forall_mem_singleton]
      exact fun p hp => (Table.findingsPieces_sound p hp).2
  rw [sectionPieces, forall_mem_joined trivial, List.forall_mem_append, List.forall_mem_append,
    forall_mem_asides, forall_mem_asides, hrendered, List.forall_mem_singleton]
  constructor
  · rintro ⟨⟨hname, hrendered⟩, hremark⟩
    exact ⟨isPlain_heading.1 hname, forall_mem_remark.1 hremark, hrendered⟩
  · rintro ⟨hname, houtput, hrendered⟩
    exact ⟨⟨isPlain_heading.2 hname, hrendered⟩, forall_mem_remark.2 houtput⟩

end ToolResult

/-! ## Pages -/

namespace Report

variable {r : Report} {box : Toolbox} {stamp : String} {color : Bool}

/-- The summary of a report that is about some tool. -/
def summaryPieces (r : Report) (color : Bool) : List (List Piece) :=
  if r.results.isEmpty then []
  else [Table.titledPieces (ToolResult.painted color Colour.bold "Summary") r.summaryTable]

/-- **The page of a report.** -/
def page (r : Report) (box : Toolbox) (color : Bool) : List Piece :=
  joined "\n\n" (r.results.map (ToolResult.sectionPieces box r.action color) ++ r.summaryPieces color)

theorem summaryTable_render : (r.render box .html stamp).summaryTable = r.summaryTable := by
  have hrow : ∀ t : ToolResult, (t.render box .html stamp).name = t.name ∧
      (t.render box .html stamp).status = t.status ∧ (t.render box .html stamp).count = t.count ∧
      (t.render box .html stamp).counts = t.counts := by
    intro t
    rw [ToolResult.render]
    split <;> exact ⟨rfl, rfl, rfl, rfl⟩
  simp only [summaryTable, render, List.map_map, Function.comp_def, hrow]
  rfl

theorem map_pageText_summaryPieces : (r.summaryPieces color).map (pageText id) =
    if r.results.isEmpty then []
    else [ToolResult.painted color Colour.bold "Summary" ++ "\n" ++ r.summaryTable.htmlText] := by
  have htitle : IsPlain (ToolResult.painted color Colour.bold "Summary") := by cases color <;> decide
  rw [summaryPieces]
  split
  · rfl
  · rw [List.map_singleton, Table.pageText_titledPieces htitle]

theorem summaryPieces_sound : ∀ ps ∈ r.summaryPieces color, ∀ p ∈ ps, p.IsKnown ∧ p.IsPlain := by
  rw [summaryPieces]
  split
  · simp
  · rw [List.forall_mem_singleton]
    exact Table.titledPieces_sound

/-- **What is written is the page**, with the asides as they are. -/
theorem text_render_html :
    (r.render box .html stamp).text .html stamp color = pageText id (r.page box color) := by
  have hsections : (((r.render box .html stamp).results.map fun t =>
        t.sectionText (r.render box .html stamp).action .html color).filter (· ≠ "")) =
      r.results.map fun t => pageText id (t.sectionPieces box r.action color) := by
    -- each section has a heading, so that none is left out
    rw [List.filter_eq_self.2]
    · rw [render, List.map_map]
      exact List.map_congr_left fun t _ => ToolResult.pageText_sectionPieces.symm
    · simp [render, ToolResult.sectionText_ne_empty]
  have hempty : (r.render box .html stamp).results.isEmpty = r.results.isEmpty := by simp [render]
  rw [page, pageText_joined (by decide), List.map_append, map_pageText_summaryPieces, List.map_map]
  simp only [text, hsections, summaryTable_render, hempty, OutputFormat.table, OutputFormat.decorated,
    Bool.true_and, Function.comp_def]
  cases r.results.isEmpty <;> rfl

theorem isKnown_of_mem_page : ∀ p ∈ r.page box color, p.IsKnown := by
  rw [page, forall_mem_joined trivial, List.forall_mem_append, List.forall_mem_map]
  exact ⟨fun t _ => ToolResult.isKnown_of_mem_sectionPieces,
    fun ps hps p hp => (summaryPieces_sound ps hps p hp).1⟩

/-- **The asides of a page** are plain exactly if each result speaks plainly. -/
theorem forall_mem_page :
    (∀ p ∈ r.page box color, p.IsPlain) ↔ ∀ t ∈ r.results, t.SpeaksPlainly := by
  rw [page, forall_mem_joined trivial, List.forall_mem_append,
    and_iff_left fun ps hps p hp => (summaryPieces_sound ps hps p hp).2, List.forall_mem_map]
  exact forall₂_congr fun t _ => ToolResult.forall_mem_sectionPieces

/-- **The markup of a report.** What is written is its page with the asides as they are. It is the page with
entities throughout, in which every angle bracket belongs to a tag of a table, exactly if each result speaks
plainly. -/
theorem html_escaped_iff (r : Report) (box : Toolbox) (stamp : String) (color : Bool) :
    let written := (r.render box .html stamp).text .html stamp color
    written = pageText id (r.page box color) ∧
      (written = pageText Table.escapeHtml (r.page box color) ∧ tagsOnly none written.toList = true ↔
        ∀ t ∈ r.results, t.SpeaksPlainly) := by
  intro written
  have hwritten : written = pageText id (r.page box color) := text_render_html
  have hescaped : written = pageText Table.escapeHtml (r.page box color) ↔
      ∀ t ∈ r.results, t.SpeaksPlainly := by
    rw [hwritten, pageText_eq_iff, forall_mem_page]
  refine ⟨hwritten, fun hboth => hescaped.1 hboth.1, fun hplain => ?_⟩
  have heq := hescaped.2 hplain
  exact ⟨heq, heq ▸ tagsOnly_pageText isKnown_of_mem_page⟩

/-- A toolbox with a checker of types. -/
def checkerOnly : Toolbox :=
  ⟨[⟨Catalog.mypy.spec, Catalog.mypy.adapter, 0⟩]⟩

/-- A report about a checker that failed with a word in angle brackets. -/
def failedReport : Report where
  action := .check
  results :=
    [{ name := "mypy", success := false
       findings := [.notRun "mypy" "exited with a failure status: <app>"]
       output := some ("Skipped/failed 1 file(s) due to execution failures (including timeouts) " ++
         "(timeout: 60s):\n  - mypy: exited with a failure status: <app>") }]

/-- The word has entities in the table and none below it, where it reads as a tag. -/
theorem failure_reads_as_tag :
    let written := (failedReport.render checkerOnly .html "").text .html "" false
    tagsOnly none written.toList = false ∧
      written ≠ pageText Table.escapeHtml (failedReport.page checkerOnly false) := by
  intro written
  have hwritten : written = pageText id (failedReport.page checkerOnly false) := text_render_html
  have htag : tagsOnly none written.toList = false := by
    rw [hwritten, toList_pageText]
    decide +kernel
  refine ⟨htag, fun hescaped => ?_⟩
  rw [hescaped, tagsOnly_pageText isKnown_of_mem_page] at htag
  cases htag

end Report

end Multilint
