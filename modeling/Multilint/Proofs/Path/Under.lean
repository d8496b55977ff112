import Multilint.Proofs.Path.Normal
/-!
# Paths under a directory

What lies in a directory has a path in it and, behind that of the directory, a path from the root.
`Path.under` puts the two together. The name of a file, what lies above what, and the order of a listing are
the same in both (`fileName?_under`, `above_under_iff`, `names_under_lt_iff`), and seen from the directory a
path under it is the path in it again (`relativeTo_under`).
-/

namespace Multilint

namespace Path

variable {r p q : Path} {ns ms : List String} {s : String}

/-- **The path from the root** of what has a path in a directory. -/
def under (r p : Path) : Path := ⟨true, r.segments ++ p.segments⟩

/-- A path without the slash it may start with. -/
def unrooted (p : Path) : Path := ⟨false, p.segments⟩

@[simp] theorem under_rooted : (r.under p).rooted = true := rfl

@[simp] theorem under_segments : (r.under p).segments = r.segments ++ p.segments := rfl

theorem Normal.under (hr : r.Normal) (hp : p.Normal) : (r.under p).Normal := by
  refine ⟨rfl, fun s hs => ?_⟩
  rcases List.mem_append.1 hs with hs | hs
  · exact hr.isName s hs
  · exact hp.isName s hs

theorem names_under (hr : r.Normal) (hp : p.Normal) : (r.under p).names = r.segments ++ p.segments :=
  names_of_normal (hr.under hp)

theorem under_inj (hp : p.rooted = true) (hq : q.rooted = true) (h : r.under p = r.under q) : p = q := by
  have hsegments := List.append_cancel_left (congrArg segments h)
  cases p
  cases q
  simp_all

/-! ## Above and below -/

theorem above_under_iff (hp : p.rooted = true) (hq : q.rooted = true) :
    (r.under p).Above (r.under q) ↔ p.Above q := by
  constructor
  · rintro ⟨-, hpre, hne⟩
    exact ⟨hp.trans hq.symm, (List.prefix_append_right_inj _).1 hpre, fun h => hne (by simp [h])⟩
  · rintro ⟨-, hpre, hne⟩
    exact ⟨rfl, (List.prefix_append_right_inj _).2 hpre, fun h => hne (List.append_cancel_left h)⟩

/-- What lies below something under a directory is under it too. -/
theorem exists_of_under_above {d : Path} (h : (r.under p).Above d) :
    ∃ e, d = r.under e ∧ p.Above e := by
  obtain ⟨n, ns, rfl⟩ := above_iff.1 h
  refine ⟨⟨p.rooted, p.segments ++ n :: ns⟩, ?_, above_iff.2 ⟨n, ns, rfl⟩⟩
  simp [under]

theorem Above.rooted_right (h : p.Above q) (hp : p.rooted = true) : q.rooted = true :=
  h.rooted.symm.trans hp

theorem Above.segments_ne_nil (h : p.Above q) : q.segments ≠ [] := by
  obtain ⟨n, ns, rfl⟩ := above_iff.1 h
  simp

/-! ## Names and texts -/

theorem fileName?_of_normal (hp : p.Normal) : p.fileName? = p.segments.getLast? := by
  rw [fileName?, parts_of_normal hp]
  rcases List.eq_nil_or_concat p.segments with h | ⟨ns, n, h⟩
  · rw [h]
    rfl
  · rw [h, List.concat_eq_append, List.map_append, List.map_singleton, ← List.cons_append,
      List.getLast?_concat, List.getLast?_concat]

theorem fileName?_under (hr : r.Normal) (hp : p.Normal) (hne : p.segments ≠ []) :
    (r.under p).fileName? = p.fileName? := by
  rw [fileName?_of_normal (hr.under hp), fileName?_of_normal hp, under_segments,
    List.getLast?_append_of_ne_nil _ hne]

/-- **The place of a directory**: its text as patterns see it, without the slash of the root. -/
def place (r : Path) : String :=
  if r.segments = [] then "" else r.slashed

/-- **The text of a path under a directory** is the place of the directory, a slash, and the text of the path
in it. -/
theorem slashed_under (hr : r.rooted = true) (hne : p.segments ≠ []) :
    (r.under p).slashed.toList = r.place.toList ++ '/' :: p.unrooted.slashed.toList := by
  rw [place]
  split
  · rename_i hempty
    simp [slashed, toString, under, unrooted, hempty]
  · rename_i hsegments
    simp [slashed, toString, under, unrooted, hr,
      String.intercalate_append_of_ne_nil hsegments hne]

theorem relativeTo_under (hr : r.Normal) (hp : p.Normal) : (r.under p).relativeTo r = p.unrooted := by
  have hdiverge : ∀ ns ms : List String, diverge (ns ++ ms) ns = (ms, []) := by
    intro ns ms
    induction ns with
    | nil => cases ms <;> rfl
    | cons n ns ih => rw [List.cons_append, diverge, if_pos rfl, ih]
  rw [relativeTo, names_under hr hp, names_of_normal hr, hdiverge]
  rfl

/-- **The order of a listing** is the same under every directory. -/
theorem names_under_lt_iff (hr : r.Normal) (hp : p.Normal) (hq : q.Normal) :
    (r.under p).names < (r.under q).names ↔ p.segments < q.segments := by
  rw [names_under hr hp, names_under hr hq]
  induction r.segments with
  | nil => rfl
  | cons n ns ih => simpa [List.cons_lt_cons_iff] using ih

/-! ## Resolving under a directory -/

/-- Whether each `..` among the parts of a path takes back a name of the path, so many names being there to
start with. -/
def balanced : ℕ → List Part → Bool
  | _, [] => true
  | _, .root :: _ => false
  | depth, .here :: ps => balanced depth ps
  | 0, .up :: _ => false
  | depth + 1, .up :: ps => balanced depth ps
  | depth, .name _ :: ps => balanced (depth + 1) ps

theorem fold_append_of_balanced {ps : List Part} :
    ∀ {ns : List String}, balanced ns.length ps = true → fold (ms ++ ns) ps = ms ++ fold ns ps := by
  induction ps with
  | nil => exact fun _ => rfl
  | cons part ps ih =>
    intro ns h
    cases part with
    | root => cases h
    | here => exact ih h
    | up =>
      -- there is a name to take back, so that those in front are not touched
      rcases List.eq_nil_or_concat ns with rfl | ⟨ns, n, rfl⟩
      · cases h
      · rw [List.length_concat] at h
        rw [List.concat_eq_append, fold, fold, ← List.append_assoc, List.dropLast_concat,
          List.dropLast_concat]
        exact ih h
    | name n =>
      rw [fold, fold, List.append_assoc]
      exact ih (by rw [List.length_append]; exact h)

/-- **A path that stays in a directory** resolves to a path under it. -/
theorem absolute_under (hr : r.Normal) (hp : balanced 0 p.parts = true) :
    absolute r p = r.under (absolute root p) := by
  have hfold : fold (r.segments ++ []) p.parts = r.segments ++ fold [] p.parts :=
    fold_append_of_balanced hp
  rw [List.append_nil] at hfold
  rw [absolute, names_of_normal hr, hfold]
  rfl

/-- The name a path ends with is its last part. -/
theorem exists_parts_of_concat (hs : IsName s) (hp : p.segments = ns ++ [s]) :
    ∃ ps, p.parts = ps ++ [.name s] := by
  have hlast : [s].filterMap part? = [.name s] := filterMap_part? (by simpa using hs)
  simp only [parts, hp]
  split
  · exact ⟨.root :: ns.filterMap part?, by simp [hlast]⟩
  · split
    · rename_i rest h
      cases ns with
      | nil => exact absurd (List.cons.inj h).1 hs.2.1
      | cons n ns =>
        obtain rfl : ns ++ [s] = rest := (List.cons.inj h).2
        exact ⟨.here :: ns.filterMap part?, by simp [hlast]⟩
    · exact ⟨ns.filterMap part?, by simp [hlast]⟩

/-- **A path that ends with a name** does not resolve to the root. -/
theorem segments_absolute_ne_nil {dir : Path} (hs : IsName s) (hp : p.segments = ns ++ [s]) :
    (absolute dir p).segments ≠ [] := by
  obtain ⟨ps, hps⟩ := exists_parts_of_concat hs hp
  rw [absolute, hps, fold_append]
  exact List.append_ne_nil_of_right_ne_nil _ (List.cons_ne_nil s [])

end Path

end Multilint
