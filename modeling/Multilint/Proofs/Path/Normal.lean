import Multilint.Path
import Mathlib.Data.List.Lex
import Mathlib.Data.String.Basic
/-!
# Normal paths

A path is normal when it starts at the root and each of its segments is a name. Such a path is its
names: `names_ofNames` reads them back, `absolute_of_normal` says that no directory changes it, and
`normal_absolute` that every path becomes one when it is resolved. `Above` is the order of normal paths
by containment, and `le` their order as a list shows them.
-/

namespace Multilint

namespace Path

/-- A segment that names an entry of a directory. -/
def IsName (s : String) : Prop := s ≠ "" ∧ s ≠ "." ∧ s ≠ ".."

instance (s : String) : Decidable (IsName s) := inferInstanceAs (Decidable (_ ∧ _ ∧ _))

/-- **A normal path**: from the root, without a segment that is empty or dots. -/
structure Normal (p : Path) : Prop where
  /-- It starts at the root. -/
  rooted : p.rooted = true
  /-- Its segments are names. -/
  isName : ∀ s ∈ p.segments, IsName s

variable {p q : Path} {ns : List String}

theorem part?_of_isName {s : String} (h : IsName s) : part? s = some (.name s) := by
  rw [part?, if_neg (by simp [h.1, h.2.1]), if_neg h.2.2]

/-- **A segment is a name** as it stands. -/
theorem part?_eq_name_iff {s t : String} : part? s = some (.name t) ↔ s = t ∧ IsName t := by
  constructor
  · intro h
    simp only [part?] at h
    split at h
    · cases h
    · split at h
      · cases h
      · rename_i h₁ h₂
        obtain rfl : s = t := by simpa using h
        simp only [Bool.or_eq_true, decide_eq_true_eq, not_or] at h₁
        exact ⟨rfl, h₁.1, h₁.2, h₂⟩
  · rintro ⟨rfl, h⟩
    exact part?_of_isName h

theorem filterMap_part? (h : ∀ s ∈ ns, IsName s) : ns.filterMap part? = ns.map .name := by
  induction ns with
  | nil => rfl
  | cons n ns ih =>
    rw [List.filterMap_cons, part?_of_isName (h n (by simp)), ih fun s hs => h s (by simp [hs])]
    rfl

/-- Names are taken as they come. -/
theorem fold_map_name (ms : List String) : fold ms (ns.map .name) = ms ++ ns := by
  induction ns generalizing ms with
  | nil => simp [fold]
  | cons n ns ih => simp [fold, ih]

/-- Parts are taken one after another. -/
theorem fold_append (ns : List String) (ps qs : List Part) : fold ns (ps ++ qs) = fold (fold ns ps) qs := by
  induction ps generalizing ns with
  | nil => rfl
  | cons part ps ih => cases part <;> exact ih _

/-- The dot a relative path may start with says nothing to those who go along it. -/
theorem fold_parts (ns : List String) (p : Path) :
    fold ns p.parts = fold (if p.rooted then [] else ns) (p.segments.filterMap part?) := by
  rw [parts]
  split
  · rfl
  · split
    · rename_i rest h
      rw [h]
      rfl
    · rfl

theorem parts_of_normal (h : p.Normal) : p.parts = .root :: p.segments.map .name := by
  rw [parts, if_pos h.rooted, filterMap_part? h.isName]

theorem names_of_normal (h : p.Normal) : p.names = p.segments := by
  rw [names, parts_of_normal h, fold, fold_map_name, List.nil_append]

theorem normal_ofNames (h : ∀ s ∈ ns, IsName s) : (ofNames ns).Normal :=
  ⟨rfl, h⟩

/-- **A path of names is read back.** -/
theorem names_ofNames (h : ∀ s ∈ ns, IsName s) : (ofNames ns).names = ns :=
  names_of_normal (normal_ofNames h)

theorem ofNames_segments (h : p.Normal) : ofNames p.segments = p := by
  have hr := h.rooted
  cases p
  simp_all [ofNames]

theorem ofNames_names (h : p.Normal) : ofNames p.names = p := by
  rw [names_of_normal h, ofNames_segments h]

/-! ## Resolving -/

/-- **A part that is a name** is a segment, and keeps to the rules for names. -/
theorem mem_segments_of_mem_parts {s : String} (h : Part.name s ∈ p.parts) :
    s ∈ p.segments ∧ IsName s := by
  have hmem : ∀ ss : List String, Part.name s ∈ ss.filterMap part? → s ∈ ss ∧ IsName s := by
    intro ss hss
    obtain ⟨t, ht, heq⟩ := List.mem_filterMap.1 hss
    obtain ⟨rfl, hname⟩ := part?_eq_name_iff.1 heq
    exact ⟨ht, hname⟩
  simp only [parts] at h
  split at h
  · exact hmem _ (by simpa using h)
  · split at h
    · rename_i rest hrest
      rw [hrest]
      exact (hmem rest (by simpa using h)).imp_left (List.mem_cons_of_mem ".")
    · exact hmem _ h

theorem isName_of_mem_parts {s : String} (h : Part.name s ∈ p.parts) : IsName s :=
  (mem_segments_of_mem_parts h).2

/-- What is left of parts is among the names there were. -/
theorem mem_of_mem_fold {s : String} {ps : List Part} :
    ∀ {ms : List String}, s ∈ fold ms ps → s ∈ ms ∨ Part.name s ∈ ps := by
  induction ps with
  | nil => exact fun h => Or.inl h
  | cons part ps ih =>
    intro ms h
    cases part with
    | root => exact (ih h).elim (fun h => absurd h (by simp)) (fun h => Or.inr (by simp [h]))
    | here => exact (ih h).imp id (fun h => by simp [h])
    | up => exact (ih h).imp (fun h => List.dropLast_subset _ h) (fun h => by simp [h])
    | name t =>
      rcases ih h with h | h
      · rcases List.mem_append.1 h with h | h
        · exact Or.inl h
        · exact Or.inr (by simp [List.mem_singleton.1 h])
      · exact Or.inr (by simp [h])

theorem isName_of_mem_names {s : String} (h : s ∈ p.names) : IsName s :=
  (mem_of_mem_fold h).elim (fun h => absurd h (by simp)) isName_of_mem_parts

/-- **A resolved path is normal.** -/
theorem normal_absolute (dir p : Path) : (absolute dir p).Normal :=
  normal_ofNames fun _ hs => (mem_of_mem_fold hs).elim isName_of_mem_names isName_of_mem_parts

/-- **A normal path means the same in every directory.** -/
theorem absolute_of_normal (dir : Path) (h : p.Normal) : absolute dir p = p := by
  rw [absolute, parts_of_normal h, fold, fold_map_name, List.nil_append, ofNames_segments h]

/-! ## Above and below -/

/-- **One path lies above another one**: it is a proper beginning of it. -/
structure Above (p q : Path) : Prop where
  /-- Both start at the root, or neither does. -/
  rooted : p.rooted = q.rooted
  /-- The segments of the other path start with those of the path. -/
  isPrefix : p.segments <+: q.segments
  /-- They go on. -/
  ne : p.segments ≠ q.segments

/-- What lies below a path is reached by a name and what follows it. -/
theorem above_iff : p.Above q ↔ ∃ n ns, q = ⟨p.rooted, p.segments ++ n :: ns⟩ := by
  constructor
  · rintro ⟨hr, ⟨t, ht⟩, hne⟩
    cases t with
    | nil => exact absurd (by simpa using ht) hne
    | cons n ns => exact ⟨n, ns, by rw [ht, hr]⟩
  · rintro ⟨n, ns, rfl⟩
    exact ⟨rfl, ⟨n :: ns, rfl⟩, by simp⟩

/-- The path of an entry of a directory. -/
def child (p : Path) (n : String) : Path := ⟨p.rooted, p.segments ++ [n]⟩

@[simp] theorem child_rooted (n : String) : (p.child n).rooted = p.rooted := rfl

@[simp] theorem child_segments (n : String) : (p.child n).segments = p.segments ++ [n] := rfl

theorem Normal.child (h : p.Normal) {n : String} (hn : IsName n) : (p.child n).Normal := by
  refine ⟨h.rooted, fun s hs => ?_⟩
  rcases List.mem_append.1 hs with hs | hs
  · exact h.isName s hs
  · exact List.mem_singleton.1 hs ▸ hn

/-- **The directory of a path**: the path without its last name. -/
def directory (p : Path) : Path := ofNames p.segments.dropLast

@[simp] theorem directory_segments (p : Path) : p.directory.segments = p.segments.dropLast := rfl

theorem Normal.directory (hp : p.Normal) : p.directory.Normal :=
  normal_ofNames fun s hs => hp.isName s (List.dropLast_subset _ hs)

theorem above_child (n : String) : p.Above (p.child n) :=
  above_iff.2 ⟨n, [], rfl⟩

theorem Above.trans {r : Path} (h : p.Above q) (h' : q.Above r) : p.Above r := by
  obtain ⟨n, ns, rfl⟩ := above_iff.1 h
  obtain ⟨m, ms, rfl⟩ := above_iff.1 h'
  exact above_iff.2 ⟨n, ns ++ m :: ms, by simp⟩

theorem above_irrefl : ¬ p.Above p := fun h => h.ne rfl

/-- **The paths between a path and one below it** start with the entry that leads there. -/
theorem above_and_above_iff {n m : String} {ms : List String} {d : Path} :
    p.Above d ∧ d.Above ⟨p.rooted, p.segments ++ n :: m :: ms⟩ ↔
      d = p.child n ∨ (p.child n).Above d ∧ d.Above ⟨p.rooted, (p.child n).segments ++ m :: ms⟩ := by
  constructor
  · rintro ⟨h, h'⟩
    obtain ⟨k, ks, rfl⟩ := above_iff.1 h
    obtain ⟨l, ls, hl⟩ := above_iff.1 h'
    simp only [mk.injEq, List.append_assoc, List.cons_append, List.append_cancel_left_eq,
      List.cons.injEq, true_and] at hl
    obtain ⟨rfl, hl⟩ := hl
    cases ks with
    | nil => exact Or.inl rfl
    | cons k' ks =>
      refine Or.inr ⟨above_iff.2 ⟨k', ks, by simp [Path.child]⟩, above_iff.2 ⟨l, ls, ?_⟩⟩
      simp [hl]
  · rintro (rfl | ⟨h, h'⟩)
    · exact ⟨above_child n, above_iff.2 ⟨m, ms, by simp [Path.child]⟩⟩
    · exact ⟨(above_child n).trans h, by simpa using h'⟩

/-- Nothing lies between a path and its entry. -/
theorem not_above_child {n : String} {d : Path} (h : p.Above d) : ¬ d.Above (p.child n) := by
  intro h'
  obtain ⟨k, ks, rfl⟩ := above_iff.1 h
  obtain ⟨l, ls, hl⟩ := above_iff.1 h'
  have hlen := congrArg (fun q => q.segments.length) hl
  simp at hlen

theorem Above.normal (h : p.Above q) (hq : q.Normal) : p.Normal :=
  ⟨h.rooted.trans hq.rooted, fun s hs => hq.isName s (h.isPrefix.subset hs)⟩

/-- **Two paths above one path** are one path, or one lies above the other. -/
theorem Above.trichotomy {r : Path} (h : p.Above r) (h' : q.Above r) :
    p = q ∨ p.Above q ∨ q.Above p := by
  have hrooted : p.rooted = q.rooted := h.rooted.trans h'.rooted.symm
  by_cases heq : p.segments = q.segments
  · left
    cases p
    cases q
    simp_all
  · right
    rcases List.prefix_or_prefix_of_prefix h.isPrefix h'.isPrefix with hpre | hpre
    · exact Or.inl ⟨hrooted, hpre, heq⟩
    · exact Or.inr ⟨hrooted.symm, hpre, Ne.symm heq⟩

/-! ## The text of a path -/

/-- **The text of a path below another one** goes on behind a slash. -/
theorem slashed_of_above (h : p.Above q) (hne : p.segments ≠ []) :
    ∃ x, q.slashed.toList = p.slashed.toList ++ '/' :: x := by
  obtain ⟨n, ns, rfl⟩ := above_iff.1 h
  have htext : toString ⟨p.rooted, p.segments ++ n :: ns⟩ =
      p.toString ++ ("/" ++ "/".intercalate (n :: ns)) := by
    simp only [toString, String.intercalate_append_of_ne_nil hne (List.cons_ne_nil n ns),
      String.append_assoc]
  refine ⟨("/".intercalate (n :: ns)).toList.map fun c => if c = '\\' then '/' else c, ?_⟩
  simp only [slashed, htext, String.toList_ofList, String.toList_append, List.map_append]
  rfl

theorem slashed_of_rooted (h : p.rooted = true) : ∃ x, p.slashed.toList = '/' :: x := by
  refine ⟨("/".intercalate p.segments).toList.map fun c => if c = '\\' then '/' else c, ?_⟩
  simp only [slashed, toString, h, if_true, String.toList_ofList, String.toList_append,
    List.map_append]
  rfl

/-! ## The order of a listing -/

/-- The order of names is the lexicographic one. -/
theorem namesLe_iff {as bs : List String} : namesLe as bs = true ↔ as ≤ bs := by
  rw [← not_lt]
  induction as generalizing bs with
  | nil => simp only [namesLe, List.not_lt_nil, not_false_eq_true]
  | cons a as ih =>
    cases bs with
    | nil => simp only [namesLe, Bool.false_eq_true, List.nil_lt_cons, not_true_eq_false]
    | cons b bs =>
      simp only [namesLe, Bool.or_eq_true, Bool.and_eq_true, decide_eq_true_eq, ih,
        List.cons_lt_cons_iff]
      rcases lt_trichotomy a b with h | rfl | h
      · simp [h, h.not_gt, h.ne']
      · simp
      · simp [h, h.not_gt, h.ne']

theorem le_iff : p.le q = true ↔ p.names ≤ q.names := namesLe_iff

/-- Normal paths differ in their names. -/
theorem eq_of_names_eq (hp : p.Normal) (hq : q.Normal) (h : p.names = q.names) : p = q := by
  rw [← ofNames_names hp, ← ofNames_names hq, h]

end Path

end Multilint
