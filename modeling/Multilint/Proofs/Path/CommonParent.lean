import Multilint.Proofs.Path.Relative
/-!
# The deepest directory that holds some files

A directory holds a file if the names of the directory are first names of the one the file is in, so the directories
that hold several files are the beginnings that these have in common. `Deepest` is the longest of them, and there
is only one (`Deepest.eq`). Cutting a path until it holds another one gives the deepest directory of the two
(`exists_cutUntil`), and doing so with one after another that of all (`exists_foldl_cutUntil`), in whatever order
they come.
-/

namespace Multilint

namespace Path

variable {p q c d f : Path} {ns : List String} {ds es : List Path}

/-! ## Normal paths -/

theorem core_of_normal (hp : p.Normal) : p.core = p.segments := by
  rw [core_of_rooted hp.rooted, List.rdropWhile_eq_self_iff]
  intro hne
  have hname := hp.isName _ (List.getLast_mem hne)
  simp [hname.1, hname.2.1]

/-- The parent of a path is its directory. -/
theorem parent?_of_normal (hp : p.Normal) (hne : p.segments ≠ []) : p.parent? = some p.directory := by
  obtain ⟨s, ss, hsegments⟩ := List.exists_cons_of_ne_nil hne
  have hcore : p.core = s :: ss := (core_of_normal hp).trans hsegments
  have hfront : ({ p with segments := (s :: ss).dropLast } : Path) = p.directory := by
    rw [Path.directory, ofNames, hsegments, ← hp.rooted]
  rw [parent?, hcore]
  dsimp only
  rw [hfront, core_of_normal hp.directory, hp.rooted]
  rfl

/-- A path starts with another one if its names do. -/
theorem startsWith_iff (hp : p.Normal) (hq : q.Normal) : p.startsWith q = true ↔ q.segments <+: p.segments := by
  have hinj : Function.Injective Part.name := fun _ _ h => Part.name.inj h
  rw [startsWith, List.isPrefixOf_iff_prefix, parts_of_normal hp, parts_of_normal hq, List.cons_prefix_cons,
    and_iff_right rfl, List.prefix_map_iff_of_injective hinj]

theorem isPrefix_dropLast_iff {ms : List String} (hms : ms ≠ []) : ns <+: ms.dropLast ↔ ns <+: ms ∧ ns ≠ ms := by
  obtain ⟨front, n, rfl⟩ := (List.eq_nil_or_concat' ms).resolve_left hms
  rw [List.dropLast_concat]
  constructor
  · intro h
    refine ⟨h.trans (List.prefix_append _ _), ?_⟩
    rintro rfl
    have hlength := h.length_le
    rw [List.length_append, List.length_singleton] at hlength
    omega
  · rintro ⟨h, hne⟩
    exact (List.prefix_concat_iff.1 h).resolve_left hne

/-- **What lies above a file** is its directory, or lies above that. -/
theorem above_iff_isPrefix_directory (hf : f.Normal) (hne : f.segments ≠ []) :
    d.Above f ↔ d.rooted = true ∧ d.segments <+: f.directory.segments := by
  rw [directory_segments, isPrefix_dropLast_iff hne]
  constructor
  · rintro ⟨hrooted, hpre, hproper⟩
    exact ⟨hrooted.trans hf.rooted, hpre, hproper⟩
  · rintro ⟨hrooted, hpre, hproper⟩
    exact ⟨hrooted.trans hf.rooted.symm, hpre, hproper⟩

/-- A beginning of a path is the path, or lies above it. -/
theorem eq_or_above_of_isPrefix (hrooted : d.rooted = c.rooted) (hpre : d.segments <+: c.segments) :
    d = c ∨ d.Above c := by
  by_cases heq : d.segments = c.segments
  · left
    cases d
    cases c
    exact congrArg₂ mk hrooted heq
  · exact .inr ⟨hrooted, hpre, heq⟩

/-! ## Common beginnings -/

/-- **The deepest directory of some**: its beginnings are those that they have in common. -/
structure Deepest (c : Path) (ds : List Path) : Prop where
  /-- It is a normal path. -/
  normal : c.Normal
  /-- What they all start with, it starts with, and nothing else. -/
  isPrefix_iff : ∀ ns : List String, ns <+: c.segments ↔ ∀ d ∈ ds, ns <+: d.segments

/-- **There is only one**, whatever order the directories come in and however often. -/
theorem Deepest.eq (h : Deepest c ds) (h' : Deepest d es) (hmem : ∀ e, e ∈ es ↔ e ∈ ds) : c = d := by
  have hsame : ∀ ns : List String, ns <+: c.segments ↔ ns <+: d.segments := by
    intro ns
    rw [h.isPrefix_iff, h'.isPrefix_iff]
    exact forall_congr' fun e => by rw [hmem e]
  have hpre : c.segments <+: d.segments := (hsame c.segments).1 (List.prefix_refl _)
  have hpre' : d.segments <+: c.segments := (hsame d.segments).2 (List.prefix_refl _)
  have hsegments : c.segments = d.segments := hpre.eq_of_length_le hpre'.length_le
  rw [← ofNames_segments h.normal, ← ofNames_segments h'.normal, hsegments]

theorem deepest_singleton (hd : d.Normal) : Deepest d [d] :=
  ⟨hd, by simp⟩

/-- **A path is cut to the deepest directory of two**, the other one and itself: while it does not hold the other one
its last name is in no common beginning. There are no more cuts to make than it has names. -/
theorem exists_cutUntil (hd : d.Normal) {fuel : ℕ} (hp : p.Normal) (hfuel : p.segments.length ≤ fuel) :
    ∃ c, cutUntil d fuel p = some c ∧ c.Normal ∧
      ∀ ns : List String, ns <+: c.segments ↔ ns <+: p.segments ∧ ns <+: d.segments := by
  have hheld : ∀ {p : Path}, p.Normal → d.startsWith p = true →
      ∀ ns : List String, ns <+: p.segments ↔ ns <+: p.segments ∧ ns <+: d.segments := by
    intro p hp hstarts ns
    exact (and_iff_left_of_imp fun hns => hns.trans ((startsWith_iff hd hp).1 hstarts)).symm
  have hne : ∀ {p : Path}, p.Normal → ¬ d.startsWith p = true → p.segments ≠ [] := by
    intro p hp hstarts hnil
    rw [startsWith_iff hd hp, hnil] at hstarts
    exact hstarts List.nil_prefix
  fun_induction cutUntil d fuel p with
  | case1 p hstarts => exact ⟨p, rfl, hp, hheld hp hstarts⟩
  | case2 p hstarts => exact absurd (List.eq_nil_of_length_eq_zero (Nat.le_zero.1 hfuel)) (hne hp hstarts)
  | case3 fuel p hstarts => exact ⟨p, rfl, hp, hheld hp hstarts⟩
  | case4 fuel p hstarts hparent =>
    rw [parent?_of_normal hp (hne hp hstarts)] at hparent
    cases hparent
  | case5 fuel p hstarts q hparent ih =>
    have hsegments : p.segments ≠ [] := hne hp hstarts
    have hq : q = p.directory := by
      rw [parent?_of_normal hp hsegments] at hparent
      exact (Option.some.inj hparent).symm
    have hlength : q.segments.length ≤ fuel := by
      rw [hq, directory_segments, List.length_dropLast]
      omega
    obtain ⟨c, hc, hnormal, hpre⟩ := ih (hp.parent? hparent) hlength
    refine ⟨c, hc, hnormal, fun ns => ?_⟩
    rw [hpre, hq, directory_segments, isPrefix_dropLast_iff hsegments]
    refine and_congr_left fun hns => and_iff_left_of_imp fun _ => ?_
    rintro rfl
    exact hstarts ((startsWith_iff hd hp).2 hns)

/-- The candidate is the deepest directory of those seen so far. -/
theorem exists_foldl_cutUntil (hds : ∀ d ∈ ds, d.Normal) (hc : Deepest c es) :
    ∃ c', ds.foldl (fun c d => c.bind fun c => cutUntil d c.parts.length c) (some c) = some c' ∧
      Deepest c' (es ++ ds) := by
  induction ds generalizing c es with
  | nil => exact ⟨c, rfl, by rwa [List.append_nil]⟩
  | cons d ds ih =>
    rw [List.forall_mem_cons] at hds
    have hfuel : c.segments.length ≤ c.parts.length := by
      rw [parts_of_normal hc.normal, List.length_cons, List.length_map]
      omega
    obtain ⟨c', hcut, hnormal, hpre⟩ := exists_cutUntil hds.1 hc.normal hfuel
    have hdeepest : Deepest c' (es ++ [d]) := by
      refine ⟨hnormal, fun ns => ?_⟩
      rw [hpre, hc.isPrefix_iff, List.forall_mem_append, List.forall_mem_singleton]
    obtain ⟨c'', hfold, hdeepest⟩ := ih hds.2 hdeepest
    refine ⟨c'', ?_, by rwa [List.append_assoc] at hdeepest⟩
    rw [List.foldl_cons, Option.bind_some, hcut]
    exact hfold

/-! ## Files -/

/-- **The common parent of files** is the deepest of the directories they are in. -/
theorem exists_commonParent? {files : List Path} (hne : files ≠ [])
    (hfiles : ∀ f ∈ files, f.Normal ∧ f.segments ≠ []) :
    ∃ c, commonParent? files = some c ∧ Deepest c (files.map directory) := by
  have hparents : files.filterMap parent? = files.map directory := by
    rw [← List.filterMap_eq_map]
    exact List.filterMap_congr fun f hf => parent?_of_normal (hfiles f hf).1 (hfiles f hf).2
  have hnormal : ∀ d ∈ files.map directory, d.Normal :=
    List.forall_mem_map.2 fun f hf => (hfiles f hf).1.directory
  rw [commonParent?, hparents]
  cases hds : files.map directory with
  | nil => exact absurd (List.map_eq_nil_iff.1 hds) hne
  | cons d ds =>
    rw [hds, List.forall_mem_cons] at hnormal
    exact exists_foldl_cutUntil hnormal.2 (deepest_singleton hnormal.1)

/-- **What lies above several files** is a beginning of the deepest of the directories they are in. -/
theorem Deepest.forall_above_iff {files : List Path} (h : Deepest c (files.map directory)) (hne : files ≠ [])
    (hfiles : ∀ f ∈ files, f.Normal ∧ f.segments ≠ []) :
    (∀ f ∈ files, d.Above f) ↔ d.rooted = true ∧ d.segments <+: c.segments := by
  have hfile : ∀ f ∈ files, d.Above f ↔ d.rooted = true ∧ d.segments <+: f.directory.segments := fun f hf =>
    above_iff_isPrefix_directory (hfiles f hf).1 (hfiles f hf).2
  rw [h.isPrefix_iff, List.forall_mem_map]
  constructor
  · intro habove
    obtain ⟨f, hf⟩ := List.exists_mem_of_ne_nil files hne
    exact ⟨((hfile f hf).1 (habove f hf)).1, fun f hf => ((hfile f hf).1 (habove f hf)).2⟩
  · rintro ⟨hrooted, hpre⟩ f hf
    exact (hfile f hf).2 ⟨hrooted, hpre f hf⟩

/-- **The common parent of files is the deepest directory that holds them all**: they lie below it, whatever they all
lie below is it or lies above it, and neither the order of the files nor how often each is listed changes it. -/
theorem commonParent?_deepest {files : List Path} (hne : files ≠ [])
    (hfiles : ∀ f ∈ files, f.Normal ∧ f ≠ root) :
    ∃ c, commonParent? files = some c ∧ c.Normal ∧ (∀ f ∈ files, c.Above f) ∧
      (∀ d : Path, (∀ f ∈ files, d.Above f) → d = c ∨ d.Above c) ∧
      ∀ files' : List Path, (∀ f, f ∈ files' ↔ f ∈ files) → commonParent? files' = some c := by
  have hnamed : ∀ f ∈ files, f.Normal ∧ f.segments ≠ [] := by
    intro f hf
    refine ⟨(hfiles f hf).1, fun hnil => (hfiles f hf).2 ?_⟩
    rw [← ofNames_segments (hfiles f hf).1, hnil]
    rfl
  obtain ⟨c, hc, hdeepest⟩ := exists_commonParent? hne hnamed
  have habove : ∀ d : Path, (∀ f ∈ files, d.Above f) ↔ d.rooted = true ∧ d.segments <+: c.segments := fun d =>
    hdeepest.forall_above_iff hne hnamed
  refine ⟨c, hc, hdeepest.normal, (habove c).2 ⟨hdeepest.normal.rooted, List.prefix_refl _⟩, ?_, ?_⟩
  · intro d hd
    obtain ⟨hrooted, hpre⟩ := (habove d).1 hd
    exact eq_or_above_of_isPrefix (hrooted.trans hdeepest.normal.rooted.symm) hpre
  · intro files' hmem
    have hne' : files' ≠ [] := by
      obtain ⟨f, hf⟩ := List.exists_mem_of_ne_nil files hne
      exact List.ne_nil_of_mem ((hmem f).2 hf)
    obtain ⟨c', hc', hdeepest'⟩ := exists_commonParent? hne' fun f hf => hnamed f ((hmem f).1 hf)
    rw [hc', hdeepest'.eq hdeepest fun e => ?_]
    simp only [List.mem_map, hmem]

/-- Files in two directories, the name of one of which starts with the name of the other, and one file in a
directory below them. -/
def siblings : List Path :=
  [ofNames ["r", "ab", "y.py"], ofNames ["r", "a", "x.py"], ofNames ["r", "a", "b", "z.py"]]

/-- It is names that they have in common, not characters of names. -/
theorem commonParent?_deepest_siblings : siblings ≠ [] ∧ (∀ f ∈ siblings, f.Normal ∧ f ≠ root) ∧
    commonParent? siblings = some (ofNames ["r"]) ∧
    commonParent? (siblings.reverse ++ siblings) = some (ofNames ["r"]) := by
  have hfiles : ∀ f ∈ siblings, f.Normal ∧ f ≠ root := by
    have hnames : ∀ f ∈ siblings, f.rooted = true ∧ (∀ s ∈ f.segments, IsName s) ∧ f ≠ root := by decide
    exact fun f hf => ⟨⟨(hnames f hf).1, (hnames f hf).2.1⟩, (hnames f hf).2.2⟩
  have hne : siblings ≠ [] := List.cons_ne_nil _ _
  have hparent : commonParent? siblings = some (ofNames ["r"]) := by decide +kernel
  obtain ⟨c, hc, -, -, -, hsame⟩ := commonParent?_deepest hne hfiles
  refine ⟨hne, hfiles, hparent, ?_⟩
  rw [hsame _ (by simp), ← hc, hparent]

end Path

end Multilint
