import Multilint.Format.Reading
import Mathlib.Data.List.TakeWhile
import Mathlib.Data.String.Basic
/-!
# Records read back

A field that holds a comma, a quote or a line break stands in quotes, and a quote inside them is written
twice. A reader of records that comes to a field therefore finds where it ends, whatever the field holds:
at a comma, at a line feed, or at the end of the text (`field?_csvField`). From fields this goes to records
(`fields?_csvRecord`) and from records to the text (`ofText?_csvRecords`).
-/

namespace Multilint

namespace Records

open Table

variable {s rest : List Char} {c : Char} {f : String} {fs : List String} {rs : List (List String)}

/-- **What follows a field**: nothing, or the sign that ends it. -/
def EndsField : List Char → Prop
  | [] => True
  | c :: _ => c = ',' ∨ c = '\n'

/-! ## Fields -/

/-- Something else than a quote belongs to a quoted field. -/
theorem quoted_cons (hc : c ≠ '"') : quoted (c :: s) = (quoted s).map fun (f, r) => (c :: f, r) := by
  rw [quoted]
  · rintro _ rfl
    exact absurd rfl hc
  · exact hc

/-- A quote with no other one behind it ends the field. -/
theorem quoted_end (hrest : EndsField rest) : quoted ('"' :: rest) = some ([], rest) := by
  rw [quoted]
  rintro _ rfl
  rcases hrest with h | h <;> cases h

/-- **The closing quote is found** behind a text with its quotes doubled. -/
theorem quoted_substitute (hrest : EndsField rest) :
    quoted (Text.substitute '"' ['"', '"'] s ++ '"' :: rest) = some (s, rest) := by
  induction s with
  | nil => exact quoted_end hrest
  | cons c s ih =>
    rw [Text.substitute, List.flatMap_cons, List.append_assoc]
    by_cases hc : c = '"'
    · -- a quote is written twice, and two quotes are read as one
      rw [if_pos hc, List.cons_append, List.cons_append, List.nil_append, quoted]
      rw [Text.substitute] at ih
      rw [ih, hc]
      rfl
    · rw [if_neg hc, List.cons_append, List.nil_append, quoted_cons hc]
      rw [Text.substitute] at ih
      rw [ih]
      rfl

/-- A field without quotes has plain characters only. -/
theorem isPlain_of_needsQuotes (hf : needsQuotes f = false) : ∀ c ∈ f.toList, isPlain c = true := by
  intro c hc
  have hnot : ((c ≠ ',' ∧ c ≠ '"') ∧ c ≠ '\n') ∧ c ≠ '\r' := by
    simpa using List.any_eq_false.1 hf c hc
  simp [isPlain, hnot]

/-- **A field is read back**, whatever it holds, up to the sign that ends it. -/
theorem field?_csvField (hrest : EndsField rest) :
    field? ((csvField f).toList ++ rest) = some (f.toList, rest) := by
  rw [csvField]
  cases hf : needsQuotes f with
  | true =>
    have htext : ("\"" ++ String.ofList (Text.substitute '"' ['"', '"'] f.toList) ++ "\"").toList ++ rest =
        '"' :: (Text.substitute '"' ['"', '"'] f.toList ++ '"' :: rest) := by simp
    rw [if_pos rfl, htext, field?, quoted_substitute hrest]
  | false =>
    have hplain := isPlain_of_needsQuotes hf
    have hend : rest.takeWhile isPlain = [] ∧ rest.dropWhile isPlain = rest := by
      cases rest with
      | nil => exact ⟨rfl, rfl⟩
      | cons d rest =>
        have hd : ¬ isPlain d = true := by rcases hrest with rfl | rfl <;> decide
        exact ⟨List.takeWhile_cons_of_neg hd, List.dropWhile_cons_of_neg hd⟩
    rw [if_neg Bool.false_ne_true, field?, List.takeWhile_append_of_pos hplain,
      List.dropWhile_append_of_pos hplain, hend.1, hend.2, List.append_nil]
    -- the text does not start with a quote
    intro r hr
    cases hlist : f.toList with
    | nil =>
      rw [hlist, List.nil_append] at hr
      rw [hr] at hrest
      rcases hrest with h | h <;> cases h
    | cons d ds =>
      rw [hlist] at hr hplain
      obtain ⟨rfl, -⟩ := List.cons.inj hr
      exact absurd (hplain _ List.mem_cons_self) (by decide)

/-! ## Records -/

/-- The text behind a record: the line feed and what follows it, if something does. -/
def behind : Option (List Char) → List Char
  | none => []
  | some rest => '\n' :: rest

theorem endsField_behind (next : Option (List Char)) : EndsField (behind next) := by
  cases next with
  | none => trivial
  | some rest => exact Or.inr rfl

theorem csvRecord_cons (hfs : fs ≠ []) :
    (csvRecord (f :: fs)).toList = (csvField f).toList ++ ',' :: (csvRecord fs).toList := by
  rw [csvRecord, List.map_cons, String.intercalate_cons_of_ne_nil (by simpa using hfs)]
  simp [csvRecord]

/-- **A record is read back**, field by field. -/
theorem fields?_csvRecord {n : ℕ} {next : Option (List Char)} (hfs : fs ≠ []) (hn : fs.length ≤ n) :
    fields? n ((csvRecord fs).toList ++ behind next) = some (fs.map String.toList, next) := by
  induction fs generalizing n with
  | nil => exact absurd rfl hfs
  | cons f fs ih =>
    obtain ⟨n, rfl⟩ : ∃ m, n = m + 1 := ⟨n - 1, by simp at hn; omega⟩
    rw [fields?]
    cases fs with
    | nil =>
      have htext : csvRecord [f] = csvField f := String.intercalate_singleton
      rw [htext, field?_csvField (endsField_behind next)]
      cases next <;> rfl
    | cons g gs =>
      have hcomma : EndsField (',' :: ((csvRecord (g :: gs)).toList ++ behind next)) := Or.inl rfl
      rw [csvRecord_cons (List.cons_ne_nil g gs), List.append_assoc, List.cons_append]
      refine Option.bind_eq_some_iff.2 ⟨_, field?_csvField hcomma, ?_⟩
      exact Option.bind_eq_some_iff.2 ⟨_, ih (List.cons_ne_nil g gs) (by simpa using hn), rfl⟩

/-- A record has no more fields than the text it is written as has characters, and one. -/
theorem length_le_csvRecord (fs : List String) : fs.length ≤ (csvRecord fs).toList.length + 1 := by
  induction fs with
  | nil => simp
  | cons f fs ih =>
    cases fs with
    | nil => simp
    | cons g gs =>
      rw [csvRecord_cons (List.cons_ne_nil g gs)]
      simp only [List.length_cons, List.length_append] at ih ⊢
      omega

/-! ## Texts -/

/-- The records of a text, one on a line. -/
def csvRecords (rs : List (List String)) : String :=
  "\n".intercalate (rs.map csvRecord)

theorem csvRecords_cons (hrs : rs ≠ []) :
    (csvRecords (fs :: rs)).toList = (csvRecord fs).toList ++ behind (some (csvRecords rs).toList) := by
  rw [csvRecords, List.map_cons, String.intercalate_cons_of_ne_nil (by simpa using hrs)]
  simp [csvRecords, behind]

theorem records?_csvRecords {n : ℕ} (hrs : rs ≠ []) (hfields : ∀ r ∈ rs, r ≠ []) (hn : rs.length ≤ n) :
    records? n (csvRecords rs).toList = some (rs.map (·.map String.toList)) := by
  induction rs generalizing n with
  | nil => exact absurd rfl hrs
  | cons r rs ih =>
    obtain ⟨n, rfl⟩ : ∃ m, n = m + 1 := ⟨n - 1, by simp at hn; omega⟩
    rw [List.forall_mem_cons] at hfields
    have hread : ∀ next, fields? (((csvRecord r).toList ++ behind next).length + 1)
        ((csvRecord r).toList ++ behind next) = some (r.map String.toList, next) := by
      intro next
      refine fields?_csvRecord hfields.1 ((length_le_csvRecord r).trans ?_)
      simp
    rw [records?]
    cases rs with
    | nil =>
      have htext : (csvRecords [r]).toList = (csvRecord r).toList ++ behind none := by
        simp [csvRecords, behind]
      rw [htext, hread none]
      rfl
    | cons q qs =>
      rw [csvRecords_cons (List.cons_ne_nil q qs)]
      refine Option.bind_eq_some_iff.2 ⟨_, hread _, ?_⟩
      have hrest := ih (List.cons_ne_nil q qs) hfields.2 (by simpa using hn)
      exact Option.bind_eq_some_iff.2 ⟨_, hrest, rfl⟩

theorem length_le_csvRecords (rs : List (List String)) :
    rs.length ≤ (csvRecords rs).toList.length + 1 := by
  induction rs with
  | nil => simp
  | cons r rs ih =>
    cases rs with
    | nil => simp
    | cons q qs =>
      rw [csvRecords_cons (List.cons_ne_nil q qs), behind]
      simp only [List.length_cons, List.length_append] at ih ⊢
      omega

/-- **The records of a text are read back**, each with its fields. -/
theorem ofText?_csvRecords (hrs : rs ≠ []) (hfields : ∀ r ∈ rs, r ≠ []) :
    ofText? (csvRecords rs) = some rs := by
  rw [ofText?, records?_csvRecords hrs hfields]
  · simp
  · rw [← String.length_toList]
    exact length_le_csvRecords rs

end Records

end Multilint
