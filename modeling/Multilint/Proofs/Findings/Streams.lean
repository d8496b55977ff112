import Multilint.Catalog.Tools
import Multilint.Command.Basic
import Multilint.Proofs.Json.Shapes
import Multilint.Proofs.Text.Trim
/-!
# Findings and standard error

The output of a command is what it wrote to standard output and then what it wrote to standard error, and a
tool that reports in JSON has one document for its output. So what is written to standard error stands
behind the document, and is refused unless it is blank: readers of documents do not look behind the last
bracket (`list_extend`, `value_extend`), and nothing but blanks may be left there. Such a text cannot change
the findings, but it can take the place of all of them (`read_output_json`).
-/

namespace Multilint

namespace JsonReader

variable {c : Cursor} {m : List Char} {x : Char}

/-- Nothing but blanks is left, or the reading is refused. -/
theorem finish_eq_ok_iff : finish c = .ok () ↔ ∀ y ∈ c.rest, Cursor.isGap y = true := by
  rw [finish, ← List.dropWhile_eq_nil_iff, ← List.isEmpty_iff]
  change (if (c.skipGap.rest).isEmpty then _ else _) = _ ↔ (c.skipGap.rest).isEmpty = true
  split
  · rename_i h
    exact iff_of_true rfl h
  · rename_i h
    exact iff_of_false nofun h

theorem exists_fault_of_finish (hm : ∃ y ∈ m, Cursor.isGap y = false) :
    ∃ e, finish (c.extend m) = .error e := by
  obtain ⟨y, hy, hgap⟩ := hm
  cases hfinish : finish (c.extend m) with
  | error e => exact ⟨e, rfl⟩
  | ok _ =>
    have hall := finish_eq_ok_iff.1 hfinish y (List.mem_append_right _ hy)
    rw [hgap] at hall
    cases hall

/-- What is no blank of a text is none between the parts of a value. -/
theorem isGap_of_not_blank (hx : Text.isBlank x = false) : Cursor.isGap x = false := by
  by_contra hgap
  simp only [Cursor.isGap, Bool.not_eq_false, Bool.or_eq_true, beq_iff_eq] at hgap
  rcases hgap with ((rfl | rfl) | rfl) | rfl <;> cases hx

end JsonReader

namespace Findings

open JsonReader

variable {read : List Char → Reading (List Finding)} {found : List Finding} {m : List Char}

/-- **A reader takes whole documents**: behind a document that it accepts it refuses everything but
blanks. -/
def ReadsWhole (read : List Char → Reading (List Finding)) : Prop :=
  ∀ text found m, read text = .ok found → (∃ y ∈ m, Cursor.isGap y = false) →
    ∃ e, read (text ++ m) = .error e

/-! ## The three readers -/

/-- A list of records is a whole document. -/
theorem readsWhole_list {s : Shape} (hs : s.IsStable) (finding : Json → Finding) :
    ReadsWhole fun text => do
      let v ← (Shape.list s).ofText text
      return (v.array?.getD []).map finding := by
  intro text found m hread hm
  obtain ⟨v, hv, -⟩ := Sequence.bind_eq_ok_iff.1 hread
  obtain ⟨⟨u, c⟩, hu, -⟩ := Sequence.bind_eq_ok_iff.1 hv
  have hextend : (Shape.list s).read depthLimit (Cursor.ofText (text ++ m)) = .ok (u, c.extend m) :=
    Shape.list_extend hs hu
  obtain ⟨e, he⟩ := exists_fault_of_finish (c := c) hm
  refine ⟨e, Sequence.bind_eq_error_iff.2 (Or.inl ?_)⟩
  refine Sequence.bind_eq_error_iff.2 (Or.inr ⟨_, hextend, ?_⟩)
  exact Sequence.bind_eq_error_iff.2 (Or.inl he)

theorem exists_stable_located : ∃ s, locatedShape = .list s ∧ s.IsStable := by
  refine ⟨_, rfl, Shape.isStable_fields _ ?_⟩
  have hplace : ∀ f ∈ [Field.mk "row" .required .natural, ⟨"column", .required, .natural⟩],
      f.shape.IsStable := by
    simp [Shape.isStable_natural]
  simp [Shape.isStable_text, Shape.isStable_fields _ hplace, Shape.isStable_orNull,
    Shape.isStable_anything]

/-- So the documents of located records are. -/
theorem readsWhole_located : ReadsWhole fun text => do
    let v ← locatedShape.ofText text
    return (v.array?.getD []).map located := by
  obtain ⟨s, hs, hstable⟩ := exists_stable_located
  rw [hs]
  exact readsWhole_list hstable located

theorem exists_stable_leveled : ∃ s, leveledShape = .list s ∧ s.IsStable := by
  refine ⟨_, rfl, Shape.isStable_fields _ ?_⟩
  simp [Shape.isStable_text, Shape.isStable_natural, Shape.isStable_orNull]

/-- So are those of records with a level. -/
theorem readsWhole_leveled : ReadsWhole fun text => do
    let v ← leveledShape.ofText text
    return (v.array?.getD []).map leveled := by
  obtain ⟨s, hs, hstable⟩ := exists_stable_leveled
  rw [hs]
  exact readsWhole_list hstable leveled

/-- A document of comments is a list or an object. -/
theorem kind_of_comments {v : Json} {vs : List Json} (h : comments? v = some vs) :
    v.kind = .array ∨ v.kind = .object := by
  cases v with
  | array xs => exact Or.inl rfl
  | object ms => exact Or.inr rfl
  | null => cases h
  | bool b => cases h
  | number n => cases h
  | string t => cases h

/-- A document of comments is a whole document. -/
theorem readsWhole_comments : ReadsWhole fun text => do
    let (v, c) ← value depthLimit (Cursor.ofText text)
    match comments? v with
    | none => .error ⟨.noShape "ShellcheckReport", none⟩
    | some vs =>
      finish c
      return vs.map comment := by
  intro text found m hread hm
  obtain ⟨⟨v, c⟩, hv, hread⟩ := Sequence.bind_eq_ok_iff.1 hread
  dsimp only at hread
  cases hcomments : comments? v with
  | none =>
    rw [hcomments] at hread
    cases hread
  | some vs =>
    have hextend : value depthLimit (Cursor.ofText (text ++ m)) = .ok (v, c.extend m) :=
      value_extend hv (kind_of_comments hcomments)
    obtain ⟨e, he⟩ := exists_fault_of_finish (c := c) hm
    refine ⟨e, Sequence.bind_eq_error_iff.2 (Or.inr ⟨_, hextend, ?_⟩)⟩
    dsimp only
    rw [hcomments]
    exact Sequence.bind_eq_error_iff.2 (Or.inl he)

/-! ## Documents and what stands behind them -/

/-- What a blank output says. -/
theorem ofDocument_of_blank {output : String} (hblank : Text.trim output.toList = []) :
    ofDocument read output = .ok [] := by
  rw [ofDocument, hblank]
  rfl

/-- An output is known by its trimmed text. -/
theorem ofDocument_congr {output output' : String}
    (h : Text.trim output.toList = Text.trim output'.toList) :
    ofDocument read output = ofDocument read output' := by
  rw [ofDocument, ofDocument, h]

theorem toList_output (e : Ending) :
    e.output.toList = (Utf8.text e.out).toList ++ (Utf8.text e.err).toList := by
  rw [Ending.output, String.toList_append]

/-- **A text behind a document is refused**, unless it is blank. -/
theorem exists_fault_of_output (hwhole : ReadsWhole read) {e : Ending}
    (hout : ofDocument read (Utf8.text e.out) = .ok found)
    (htext : Text.trim (Utf8.text e.out).toList ≠ []) (herr : Text.trim (Utf8.text e.err).toList ≠ []) :
    ∃ fault, ofDocument read e.output = .error fault := by
  obtain ⟨m, htrim, y, hy, hblank⟩ := Text.exists_trim_append htext herr
  rw [← toList_output] at htrim
  have hread : read (Text.trim (Utf8.text e.out).toList) = .ok found := by
    rw [ofDocument] at hout
    rw [if_neg (mt List.isEmpty_iff.1 htext)] at hout
    split at hout
    · rename_i fs hfs
      rw [hfs]
      exact congrArg _ (Except.ok.inj hout)
    · cases hout
  obtain ⟨fault, hfault⟩ := hwhole _ _ m hread ⟨y, hy, isGap_of_not_blank hblank⟩
  have hne : Text.trim e.output.toList ≠ [] := by
    rw [htrim]
    exact List.append_ne_nil_of_left_ne_nil htext m
  rw [ofDocument, if_neg (mt List.isEmpty_iff.1 hne), htrim, hfault]
  exact ⟨_, rfl⟩

/-- **What a document and a second stream say together.** -/
theorem ofDocument_output (hwhole : ReadsWhole read) (e : Ending)
    (hout : ofDocument read (Utf8.text e.out) = .ok found) :
    (Text.trimmed (Utf8.text e.err) = "" → ofDocument read e.output = .ok found) ∧
    (Text.trimmed (Utf8.text e.err) ≠ "" → Text.trimmed (Utf8.text e.out) ≠ "" →
      ∃ fault, ofDocument read e.output = .error fault) ∧
    (Text.trimmed (Utf8.text e.out) = "" → found = [] ∧
      ofDocument read e.output = ofDocument read (Utf8.text e.err)) := by
  simp only [Ne, Text.trimmed_eq_empty_iff]
  refine ⟨fun herr => ?_, fun herr htext => ?_, fun hblank => ⟨?_, ?_⟩⟩
  · rw [← hout]
    refine ofDocument_congr ?_
    rw [toList_output, Text.trim_append_of_blank herr]
  · exact exists_fault_of_output hwhole hout htext herr
  · rw [ofDocument_of_blank hblank] at hout
    exact (Except.ok.inj hout).symm
  · refine ofDocument_congr ?_
    rw [toList_output, Text.trim_append_of_blank_left hblank]

/-- The tools that report in JSON read whole documents. -/
theorem exists_reader {entry : Catalog.Entry}
    (hentry : entry ∈ [Catalog.ruff, Catalog.shellcheck, Catalog.hadolint]) :
    ∃ read, ReadsWhole read ∧ entry.adapter.read = ofDocument read := by
  simp only [List.mem_cons, List.not_mem_nil, or_false] at hentry
  rcases hentry with rfl | rfl | rfl
  · exact ⟨_, readsWhole_located, rfl⟩
  · exact ⟨_, readsWhole_comments, rfl⟩
  · exact ⟨_, readsWhole_leveled, rfl⟩

/-- **Standard error never changes what a JSON document says, but it may replace it.** Of the tools that
report in JSON, what one wrote to standard error leaves its findings alone if it is blank. Otherwise the
output has no findings at all: it is refused, unless standard output is blank, where standard error is read
in its place. -/
theorem read_output_json {entry : Catalog.Entry}
    (hentry : entry ∈ [Catalog.ruff, Catalog.shellcheck, Catalog.hadolint]) (e : Ending)
    (hout : entry.adapter.read (Utf8.text e.out) = .ok found) :
    (Text.trimmed (Utf8.text e.err) = "" → entry.adapter.read e.output = .ok found) ∧
    (Text.trimmed (Utf8.text e.err) ≠ "" → Text.trimmed (Utf8.text e.out) ≠ "" →
      ∃ fault, entry.adapter.read e.output = .error fault) ∧
    (Text.trimmed (Utf8.text e.out) = "" → found = [] ∧
      entry.adapter.read e.output = entry.adapter.read (Utf8.text e.err)) := by
  obtain ⟨read, hwhole, hread⟩ := exists_reader hentry
  rw [hread] at hout ⊢
  exact ofDocument_output hwhole e hout

/-- A command that wrote a warning besides. -/
def warned (out : String) : Ending :=
  ⟨false, out.toUTF8.toList, "warning: no settings\n".toUTF8.toList⟩

/-- A document with one record. -/
def oneRecord : String :=
  "[\x7b\"filename\": \"a.py\", \"location\": \x7b\"row\": 3, \"column\": 7\x7d, \"message\": \"unused\"\x7d]\n"

theorem exists_read_oneRecord : ∃ found, found.map Finding.message = ["unused"] ∧
    Catalog.ruff.adapter.read (Utf8.text (warned oneRecord).out) = .ok found := by
  have hread : ((Catalog.ruff.adapter.read (Utf8.text (warned oneRecord).out)).toOption.map
      fun found => found.map Finding.message) = some ["unused"] := by
    decide +kernel
  obtain ⟨found, hout, hmessages⟩ := Sequence.exists_ok_of_map hread
  exact ⟨found, hmessages, hout⟩

/-- With the warning behind it, the document with one record is refused. -/
theorem read_output_json_warned : Catalog.ruff ∈ [Catalog.ruff, Catalog.shellcheck, Catalog.hadolint] ∧
    ∃ found, found.map Finding.message = ["unused"] ∧
      Catalog.ruff.adapter.read (Utf8.text (warned oneRecord).out) = .ok found ∧
      ∃ fault, Catalog.ruff.adapter.read (warned oneRecord).output = .error fault := by
  have hruff : Catalog.ruff ∈ [Catalog.ruff, Catalog.shellcheck, Catalog.hadolint] :=
    List.mem_cons_self
  obtain ⟨found, hmessages, hout⟩ := exists_read_oneRecord
  have herr : Text.trimmed (Utf8.text (warned oneRecord).err) ≠ "" := by decide +kernel
  have htext : Text.trimmed (Utf8.text (warned oneRecord).out) ≠ "" := by decide +kernel
  obtain ⟨-, hrefused, -⟩ := read_output_json hruff (warned oneRecord) hout
  exact ⟨hruff, found, hmessages, hout, hrefused herr htext⟩

/-- **A warning takes the place of what a document says.** -/
theorem warning_replaces_findings :
    ¬ ∀ entry ∈ [Catalog.ruff, Catalog.shellcheck, Catalog.hadolint], ∀ (e : Ending) (found : List Finding),
      entry.adapter.read (Utf8.text e.out) = .ok found → entry.adapter.read e.output = .ok found := by
  intro hreadsOut
  obtain ⟨found, -, hout⟩ := exists_read_oneRecord
  have hboth := hreadsOut Catalog.ruff List.mem_cons_self (warned oneRecord) found hout
  have hrefused : (Catalog.ruff.adapter.read (warned oneRecord).output).toOption.isNone = true := by
    decide +kernel
  rw [hboth] at hrefused
  cases hrefused

end Findings

end Multilint
