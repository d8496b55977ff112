import Multilint.Proofs.Format.FindingsTable
import Multilint.Proofs.Json.Members
/-!
# Findings as objects

In a document a finding is an object with a member for each column of its table. On the way there it is a row
of texts, and what kind of value a text stands for is decided by the key alone. `Column.entry` is what a
finding has in a column and `Column.entry?` what a program makes of a value under its key: it gets back what
the finding has (`entry?_value`), since no cell of another kind is taken for a number or a truth value
(`cellValue_cell`). The objects of a table therefore tell its findings (`issues_tell_findings`).
-/

namespace Multilint

/-- **What a finding has in a column.** -/
inductive Entry where
  /-- A text, which may be empty. -/
  | text (s : String)
  /-- A number that may be missing. -/
  | number (n : Option ℕ)
  /-- A truth value. -/
  | truth (b : Bool)
  deriving DecidableEq

/-- The value it has in a document: `null` stands for a number that is missing and for the empty text. -/
def Entry.value : Entry → Json
  | .text s => if s = "" then .null else .string s
  | .number n => Json.ofOption Json.nat n
  | .truth b => .bool b

/-- **The places of a finding are numbers of 64 bits**, which is what every reader of output gives. -/
structure Finding.Fits (f : Finding) : Prop where
  /-- The line. -/
  line : ∀ n ∈ f.line, n < Numeral.bound64
  /-- The column. -/
  column : ∀ n ∈ f.column, n < Numeral.bound64

namespace Column

variable {c : Column} {f : Finding}

/-- The key of a column. -/
def key : Column → String
  | .file => "file"
  | .line => "line"
  | .column => "column"
  | .code => "code"
  | .severity => "severity"
  | .message => "message"
  | .fixable => "fixable"

theorem keyOf_header (c : Column) : Document.keyOf c.header = c.key := by
  cases c <;> decide

theorem key_injective : Function.Injective key := by
  intro c d h
  cases c <;> cases d <;> first | rfl | exact absurd h (by decide)

/-- What a finding has in a column. -/
def entry (c : Column) (f : Finding) : Entry :=
  match c with
  | .file => .text f.file
  | .line => .number f.line
  | .column => .number f.column
  | .code => .text f.code
  | .severity => .text f.severity.name
  | .message => .text f.message
  | .fixable => .truth f.fixable

/-- A text, or `null` for the empty one. -/
def text? (v : Json) : Option Entry :=
  if v.isNull then some (.text "") else (v.string?.filter (· ≠ "")).map .text

/-- A number, or `null` for a missing one. -/
def number? (v : Json) : Option Entry :=
  if v.isNull then some (.number none) else v.nat?.map fun n => .number (some n)

/-- **What the value under a key says**: places are numbers, the fixable mark is a truth value, and all else
is text. A value of another kind says nothing. -/
def entry? (c : Column) (v : Json) : Option Entry :=
  match c with
  | .line | .column => number? v
  | .fixable => v.bool?.map .truth
  | .file | .code | .severity | .message => text? v

theorem text?_value (s : String) : text? (Entry.text s).value = some (.text s) := by
  rw [text?, Entry.value]
  by_cases hs : s = ""
  · rw [if_pos hs, hs]
    rfl
  · rw [if_neg hs]
    simp [Json.isNull, Json.string?, hs]

theorem number?_value (n : Option ℕ) : number? (Entry.number n).value = some (.number n) := by
  cases n <;> rfl

/-- **The value of an entry is read back.** -/
theorem entry?_value : c.entry? (c.entry f).value = some (c.entry f) := by
  cases c with
  | file => exact text?_value f.file
  | line => exact number?_value f.line
  | column => exact number?_value f.column
  | code => exact text?_value f.code
  | severity => exact text?_value f.severity.name
  | message => exact text?_value f.message
  | fixable => rfl

end Column

namespace Document

open Json

variable {c : Column} {cs : List Column} {f : Finding} {fs : List Finding} {k : String}

/-! ## Cells -/

/-- The digits of a number of 64 bits are read as that number. -/
theorem unsigned64?_repr {n : ℕ} (hn : n < Numeral.bound64) :
    Numeral.unsigned64? n.repr.toList = some n := by
  rw [Numeral.unsigned64?]
  · exact Numeral.digits64?_repr hn
  · intro ds hds
    have hplus : Numeral.isDigit '+' = true := Numeral.isDigit_of_mem_repr (n := n) (hds ▸ List.mem_cons_self)
    exact absurd hplus (by decide)

theorem cellValue_text {key s : String} (hkey : key ≠ "line" ∧ key ≠ "column" ∧ key ≠ "fixable") :
    cellValue key s = (Entry.text s).value := by
  obtain ⟨hline, hcolumn, hfixable⟩ := hkey
  simp [cellValue, Entry.value, hline, hcolumn, hfixable]

theorem cellValue_number {key : String} {n : Option ℕ} (hkey : key = "line" ∨ key = "column")
    (hn : ∀ m ∈ n, m < Numeral.bound64) :
    cellValue key (Column.numberCell n) = (Entry.number n).value := by
  cases n with
  | none => rfl
  | some n =>
    have hcell : Column.numberCell (some n) = n.repr := rfl
    have hplace : (key = "line" || key = "column") = true := by simpa using hkey
    rw [hcell, cellValue, if_neg Nat.repr_ne_empty, if_pos hplace, unsigned64?_repr (hn n rfl)]
    rfl

theorem cellValue_truth (b : Bool) :
    cellValue "fixable" (Column.truthCell b) = (Entry.truth b).value := by
  cases b <;> rfl

/-- **The value of a cell** is that of what the finding has in the column. -/
theorem cellValue_cell (hf : f.Fits) : cellValue c.key (c.cell f) = (c.entry f).value := by
  cases c with
  | file => exact cellValue_text (by decide)
  | line => exact cellValue_number (Or.inl rfl) hf.line
  | column => exact cellValue_number (Or.inr rfl) hf.column
  | code => exact cellValue_text (by decide)
  | severity => exact cellValue_text (by decide)
  | message => exact cellValue_text (by decide)
  | fixable => exact cellValue_truth f.fixable

/-! ## Objects -/

/-- The keys of columns. -/
def keysOf (cs : List Column) : List String :=
  (cs.map Column.header).map keyOf

theorem keysOf_eq (cs : List Column) : keysOf cs = cs.map Column.key := by
  rw [keysOf, List.map_map]
  exact List.map_congr_left fun c _ => c.keyOf_header

/-- The members of the object of a finding. -/
def objectOf (cs : List Column) (f : Finding) : List (String × Json) :=
  record (keysOf cs) (Table.row cs f)

theorem records_ofFindings : records (Table.ofFindings cs fs) = fs.map (objectOf cs) := by
  rw [records, Table.ofFindings, List.map_map]
  rfl

/-- **The object of a finding** has the value of each cell put in under the key of its column. -/
theorem objectOf_eq (cs : List Column) (f : Finding) :
    objectOf cs f = putAll (cs.map fun c => (c.key, cellValue c.key (c.cell f))) := by
  have hcell : ∀ e ∈ cs.zipIdx, (((Table.row cs f)[e.2]?).map (cellValue e.1.key)).getD Json.null =
      cellValue e.1.key (e.1.cell f) := by
    rintro ⟨c, i⟩ he
    have hc : cs[i]? = some c := List.mk_mem_zipIdx_iff_getElem?.1 he
    rw [Table.row, List.getElem?_map, hc]
    rfl
  have hvalues : (cs.zipIdx.map fun e => (e.1.key,
      (((Table.row cs f)[e.2]?).map (cellValue e.1.key)).getD Json.null)) =
        cs.map fun c => (c.key, cellValue c.key (c.cell f)) := by
    have hfst : (cs.zipIdx.map Prod.fst).map (fun c => (c.key, cellValue c.key (c.cell f))) =
        cs.map fun c => (c.key, cellValue c.key (c.cell f)) := by rw [List.zipIdx_map_fst]
    rw [List.map_congr_left fun e he => by rw [hcell e he], ← hfst, List.map_map]
    rfl
  rw [← hvalues, putAll, List.foldl_map, objectOf, record, keysOf_eq, List.zipIdx_map, List.foldl_map]
  rfl

/-- These are the values of what the finding has. -/
theorem objectOf_of_fits (hf : f.Fits) (cs : List Column) :
    objectOf cs f = putAll (cs.map fun c => (c.key, (c.entry f).value)) := by
  simp only [objectOf_eq, cellValue_cell hf]

/-- It has what the finding has in a column under the column's key. -/
theorem member?_objectOf (hf : f.Fits) (hc : c ∈ cs) :
    (object (objectOf cs f)).member? c.key = some (c.entry f).value := by
  rw [objectOf_of_fits hf]
  refine member?_putAll ?_ ?_
  · rw [List.map_map]
    exact List.mem_map.2 ⟨c, hc, rfl⟩
  · intro e he hkey
    obtain ⟨d, -, rfl⟩ := List.mem_map.1 he
    rw [Column.key_injective hkey]

/-- And it has nothing else, whatever the finding is. -/
theorem isSome_member?_objectOf_iff :
    ((object (objectOf cs f)).member? k).isSome = true ↔ ∃ c ∈ cs, c.key = k := by
  have hkeys : (cs.map fun c => (c.key, cellValue c.key (c.cell f))).map Prod.fst =
      cs.map Column.key := by
    rw [List.map_map]
    rfl
  rw [objectOf_eq, isSome_member?_putAll_iff, hkeys, List.mem_map]

/-! ## Issues -/

theorem mem_withFixable_iff : c ∈ Table.withFixable cs ↔ c ∈ cs ∨ c = .fixable := by
  rw [Table.withFixable]
  by_cases hfixable : Column.fixable ∈ cs
  · rw [if_pos (by simpa using hfixable), or_iff_left_of_imp]
    rintro rfl
    exact hfixable
  · rw [if_neg (by simpa using hfixable), List.mem_append, List.mem_singleton]

/-- **An object tells a finding**: it has a member for each column of the table and one that says whether the
finding can be mended, it has no other member, and each is read back as what the finding has. -/
structure Tells (cs : List Column) (f : Finding) (o : Json) : Prop where
  /-- The value of a column stands under its key. -/
  value : ∀ c, c ∈ cs ∨ c = .fixable → o.member? c.key = some (c.entry f).value
  /-- It says what the finding has there. -/
  read : ∀ c, c ∈ cs ∨ c = .fixable → (o.member? c.key).bind c.entry? = some (c.entry f)
  /-- Nothing else is said. -/
  only : ∀ k, (o.member? k).isSome = true ↔ ∃ c, (c ∈ cs ∨ c = .fixable) ∧ c.key = k

theorem tells_objectOf (hf : f.Fits) : Tells cs f (object (objectOf (Table.withFixable cs) f)) where
  value _ hc := member?_objectOf hf (mem_withFixable_iff.2 hc)
  read _ hc := by
    rw [member?_objectOf hf (mem_withFixable_iff.2 hc)]
    exact Column.entry?_value
  only k := by
    rw [isSome_member?_objectOf_iff]
    exact exists_congr fun c => and_congr_left fun _ => mem_withFixable_iff

/-- The issues of the object of a table. -/
theorem member?_issues (stamp : String) (t : Table) (more : List (String × Json)) :
    (object (toolMembers stamp t ++ more)).member? "issues" =
      some (.array ((records t).map .object)) := by
  rw [member?_append, toolMembers]
  simp

/-- **The issues of a tool tell its findings.** There is one object for each finding, in order, and it gives
back what the finding has in the columns of the table and whether the finding can be mended, whatever its
texts look like. The object of the tool may stand by itself, have more members behind these, or stand in a
document under the name of the tool. -/
theorem issues_tell_findings (stamp : String) (cs : List Column) (fs : List Finding)
    (hfs : ∀ f ∈ fs, f.Fits) : ∃ objects : List Json,
      (∀ more, (object (toolMembers stamp (.ofFindings (Table.withFixable cs) fs) ++ more)).member?
        "issues" = some (.array objects)) ∧
      (∀ tool, (ofTable stamp (some tool) (.ofFindings (Table.withFixable cs) fs)).at?
        ["results", "tools", tool, "issues"] = some (.array objects)) ∧
      List.Forall₂ (Tells cs) fs objects := by
  have hobjects : (records (.ofFindings (Table.withFixable cs) fs)).map Json.object =
      fs.map fun f => object (objectOf (Table.withFixable cs) f) := by
    rw [records_ofFindings, List.map_map]
    rfl
  refine ⟨_, fun more => (member?_issues stamp _ more).trans (by rw [hobjects]), fun tool => ?_, ?_⟩
  · have hissues := member?_issues stamp (.ofFindings (Table.withFixable cs) fs) []
    rw [List.append_nil, hobjects] at hissues
    simpa [ofTable, ofTools] using hissues
  · rw [List.forall₂_map_right_iff, List.forall₂_same]
    exact fun f hf => tells_objectOf (hfs f hf)

/-- Findings whose texts look like other values. -/
def lookalikes : List Finding :=
  [{ file := "7", message := "true", code := "null", fixable := true },
    { file := "", message := "", line := some 18446744073709551615, code := "007" }]

/-- Columns of which one stands in two places. -/
def lookalikeColumns : List Column :=
  [.fixable, .line, .code, .file, .message, .line]

/-- The objects of the findings. -/
def lookalikeObjects : List Json :=
  [.object [("fixable", .bool true), ("line", .null), ("code", .string "null"),
      ("file", .string "7"), ("message", .string "true")],
    .object [("fixable", .bool false), ("line", .nat 18446744073709551615),
      ("code", .string "007"), ("file", .null), ("message", .null)]]

/-- Each of them is told as it is. -/
theorem issues_tell_findings_lookalikes :
    (∀ f ∈ lookalikes, f.Fits) ∧
      (object (toolMembers "" (.ofFindings (Table.withFixable lookalikeColumns) lookalikes))).member?
        "issues" = some (.array lookalikeObjects) ∧
      List.Forall₂ (Tells lookalikeColumns) lookalikes lookalikeObjects := by
  have hfits : ∀ f ∈ lookalikes, f.Fits := by
    simp only [lookalikes, List.forall_mem_cons]
    exact ⟨⟨by simp, by simp⟩, ⟨by simp [Numeral.bound64], by simp⟩, by simp⟩
  have hobjects : (records (.ofFindings (Table.withFixable lookalikeColumns) lookalikes)).map object =
      lookalikeObjects := by
    rw [records_ofFindings, List.map_congr_left fun f hf => objectOf_of_fits (hfits f hf) _]
    rfl
  have hshown := member?_issues "" (.ofFindings (Table.withFixable lookalikeColumns) lookalikes) []
  obtain ⟨objects, hmember, -, htells⟩ := issues_tell_findings "" lookalikeColumns lookalikes hfits
  have hissues := hmember []
  rw [hshown, hobjects] at hissues
  obtain rfl := Json.array.inj (Option.some.inj hissues)
  rw [List.append_nil, hobjects] at hshown
  exact ⟨hfits, hshown, htells⟩

end Document

end Multilint
