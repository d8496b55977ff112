import Multilint.Proofs.Path.Written
import Multilint.Proofs.Scope.IgnoreFile
/-!
# The verdict of an ignore file

An ignore file is about the paths below its directory, which its patterns see with slashes for backslashes:
`Below` says which those are and what their names from the directory are (`below?_eq_some_iff`). A path is
ignored if the last rule that matches one of its first names ignores (`ignores_iff`, `lastVerdict_iff`). So an
ignored directory takes along what is below it, and rules behind the others that match no directory on the way
take nothing of it back in (`ignores_by_last_match`).
-/

namespace Multilint

namespace IgnoreFile

variable {i : IgnoreFile} {dir p : Path} {text : String} {rules more : List IgnoreRule} {r : IgnoreRule}
variable {names : List String} {isDir : Bool}

/-! ## Below the directory -/

/-- **A path lies below a directory**, and has the given names from it. Both are taken as patterns see them,
so that a directory may end in empty names, and the one empty name leads to the directory itself. -/
structure Below (dir p : Path) (names : List String) : Prop where
  /-- The names of the path are those of the directory and the given ones. -/
  seen_eq : p.seen = dir.seen.rdropWhile (· = "") ++ names
  /-- There is one. -/
  ne_nil : names ≠ []
  /-- It does not lead to the directory. -/
  ne_empty : names ≠ [""]

/-- The directory of an ignore file is written as its names. -/
theorem toList_root (hdir : dir.rooted = true) : (ofText dir text).root.toList =
    Text.ledBy '/' ((dir.seen.rdropWhile (· = "")).map String.toList) := by
  have hroot : (ofText dir text).root.toList = dir.slashed.toList.rdropWhile (· = '/') := by
    simp [ofText, List.rdropWhile]
  have hempty : ((·.isEmpty) ∘ String.toList : String → Bool) = fun s => decide (s = "") := by
    funext s
    rw [Bool.eq_iff_iff, decide_eq_true_iff, Function.comp_apply, List.isEmpty_iff,
      String.toList_eq_nil_iff]
  rw [hroot, Path.toList_slashed hdir, Text.rdropWhile_ledBy Path.not_mem_of_mem_seen, List.rdropWhile,
    ← List.map_reverse, List.dropWhile_map, ← List.map_reverse, hempty]
  rfl

/-- **The names from the directory** are read off the text of a path below it. -/
theorem below?_eq_some_iff (hdir : dir.rooted = true) (hp : p.rooted = true) :
    (ofText dir text).below? p = some names ↔ Below dir p names := by
  have hslash : ∀ t ∈ (dir.seen.rdropWhile (· = "")).map String.toList, '/' ∉ t := fun t ht =>
    Path.not_mem_of_mem_seen t (List.map_subset _ (List.rdropWhile_prefix _ _).subset ht)
  have htext : ∀ {cs}, Text.after? (ofText dir text).root.toList p.slashed.toList = some ('/' :: cs) ↔
      p.seen = dir.seen.rdropWhile (· = "") ++ Text.pieces '/' (String.ofList cs) := by
    intro cs
    rw [Text.after?_eq_some_iff, toList_root hdir, Path.seen_eq_append_iff hp hslash]
  constructor
  · intro h
    unfold below? at h
    split at h
    · rename_i c cs hafter
      obtain rfl := Option.some.inj h
      refine ⟨htext.1 hafter, Text.pieces_ne_nil _, fun hempty => ?_⟩
      have hcut : Text.ledBy '/' ([""].map String.toList) = '/' :: c :: cs := by
        rw [← hempty, Text.map_toList_pieces, Text.ledBy_splitOn, String.toList_ofList]
      cases hcut
    · cases h
  · rintro ⟨hseen, hne, hempty⟩
    have hnames : names = Text.pieces '/' ("/".intercalate names) := by
      refine (Text.pieces_intercalate hne fun t ht => ?_).symm
      exact Path.not_mem_of_mem_seen t (List.map_subset _ (hseen ▸ List.subset_append_right _ _) ht)
    cases hcs : ("/".intercalate names).toList with
    | nil =>
      rw [String.toList_eq_nil_iff] at hcs
      rw [hcs] at hnames
      exact absurd hnames hempty
    | cons c cs =>
      rw [← String.ofList_toList (s := "/".intercalate names), hcs] at hnames
      rw [hnames] at hseen ⊢
      rw [below?, htext.2 hseen]
      rfl

/-- A directory without slashes and backslashes in its names ends in no empty name. -/
theorem rdropWhile_seen (hdir : dir.Normal) (hslash : dir.Unslashed) (hplain : dir.Plain) :
    dir.seen.rdropWhile (· = "") = dir.segments := by
  by_cases hroot : dir.segments = []
  · rw [Path.seen_of_root hdir.rooted hroot, hroot]
    rfl
  · rw [Path.seen_eq_segments hdir.rooted hroot hslash hplain, List.rdropWhile_eq_self_iff]
    intro hne hlast
    exact (hdir.isName _ (List.getLast_mem hne)).1 (of_decide_eq_true hlast)

/-- **Where no name holds a slash or a backslash**, what lies below a directory and how is a matter of the
segments. -/
theorem below_iff_segments (hdir : dir.Normal) (hp : p.Normal) (hslash : dir.Unslashed ∧ p.Unslashed)
    (hplain : dir.Plain ∧ p.Plain) :
    Below dir p names ↔ p.segments = dir.segments ++ names ∧ names ≠ [] := by
  have hkept := rdropWhile_seen hdir hslash.1 hplain.1
  by_cases hroot : p.segments = []
  · -- the one name that is seen of the root is empty
    have hseen := Path.seen_of_root hp.rooted hroot
    refine iff_of_false (fun h => ?_) fun h => ?_
    · have hnames := h.seen_eq
      rw [hkept, hseen, eq_comm, List.append_eq_singleton_iff] at hnames
      exact hnames.elim (fun h' => h.ne_empty h'.2) fun h' => h.ne_nil h'.2
    · rw [hroot, eq_comm, List.append_eq_nil_iff] at h
      exact h.2 h.1.2
  · have hseen := Path.seen_eq_segments hp.rooted hroot hslash.2 hplain.2
    constructor
    · rintro ⟨hnames, hne, -⟩
      rw [hkept, hseen] at hnames
      exact ⟨hnames, hne⟩
    · rintro ⟨hnames, hne⟩
      refine ⟨by rw [hkept, hseen, hnames], hne, ?_⟩
      rintro rfl
      exact (hp.isName "" (by simp [hnames])).1 rfl

/-! ## The last match -/

/-- **The last rule that matches ignores.** -/
def LastIgnores (rules : List IgnoreRule) (names : List String) (isDir : Bool) : Prop :=
  ∃ before r after, rules = before ++ r :: after ∧ r.matchesAt names isDir = true ∧
    r.negated = false ∧ ∀ r' ∈ after, r'.matchesAt names isDir = false

/-- One more rule at the end decides where it matches. -/
theorem lastIgnores_concat_iff : LastIgnores (rules ++ [r]) names isDir ↔
    if r.matchesAt names isDir = true then r.negated = false else LastIgnores rules names isDir := by
  constructor
  · rintro ⟨before, r', after, heq, hmatch, hneg, hafter⟩
    rcases List.eq_nil_or_concat after with rfl | ⟨after, l, rfl⟩
    · obtain ⟨rfl, hr⟩ := List.append_inj' heq rfl
      obtain rfl := List.singleton_inj.1 hr
      rwa [if_pos hmatch]
    · rw [List.concat_eq_append, ← List.cons_append, ← List.append_assoc] at heq
      obtain ⟨rfl, hr⟩ := List.append_inj' heq rfl
      obtain rfl := List.singleton_inj.1 hr
      rw [List.concat_eq_append, List.forall_mem_append, List.forall_mem_singleton] at hafter
      rw [if_neg (by simp [hafter.2])]
      exact ⟨before, r', after, rfl, hmatch, hneg, hafter.1⟩
  · intro h
    split at h
    · rename_i hmatch
      exact ⟨rules, r, [], rfl, hmatch, h, by simp⟩
    · rename_i hmatch
      obtain ⟨before, r', after, rfl, hmatch', hneg, hafter⟩ := h
      refine ⟨before, r', after ++ [r], by simp, hmatch', hneg, ?_⟩
      rw [List.forall_mem_append, List.forall_mem_singleton]
      exact ⟨hafter, Bool.eq_false_iff.2 hmatch⟩

/-- **The verdict is that of the last rule that matches.** The induction is on the rules from the end. -/
theorem lastVerdict_iff {root : String} :
    lastVerdict ⟨root, rules⟩ names isDir = true ↔ LastIgnores rules names isDir := by
  induction rules using List.reverseRecOn with
  | nil =>
    refine iff_of_false Bool.false_ne_true ?_
    rintro ⟨before, r, after, h, -⟩
    simp at h
  | append_singleton rules r ih =>
    rw [lastVerdict_append, lastIgnores_concat_iff, ← ih]
    by_cases hr : r.matchesAt names isDir = true
    · rw [verdictAfter_cons, if_pos hr, if_pos hr]
      exact iff_of_eq (Bool.not_eq_true' r.negated)
    · rw [verdictAfter_cons, if_neg hr, if_neg hr]
      rfl

/-- Rules that do not match change nothing behind the others. -/
theorem LastIgnores.append (h : LastIgnores rules names isDir)
    (hmore : ∀ r ∈ more, r.matchesAt names isDir = false) : LastIgnores (rules ++ more) names isDir := by
  obtain ⟨before, r, after, rfl, hmatch, hneg, hafter⟩ := h
  refine ⟨before, r, after ++ more, by simp, hmatch, hneg, fun r' hr' => ?_⟩
  exact (List.mem_append.1 hr').elim (hafter r') (hmore r')

/-! ## What is ignored -/

/-- There are names below a directory. -/
theorem below?_ne_nil (h : i.below? p = some names) : names ≠ [] := by
  unfold below? at h
  split at h
  · rw [← Option.some.inj h]
    exact Text.pieces_ne_nil _
  · cases h

/-- **A path is ignored by the last match** on one of its first names. All but the whole path are
directories. -/
theorem ignores_iff : i.ignores p isDir = true ↔
    ∃ names, i.below? p = some names ∧ ∃ ns, ns ≠ [] ∧ ns <+: names ∧
      LastIgnores i.rules ns (isDir || decide (ns ≠ names)) := by
  have hverdict : ∀ {ns isDir}, i.lastVerdict ns isDir = true ↔ LastIgnores i.rules ns isDir :=
    lastVerdict_iff
  cases hnames : i.below? p with
  | none => simp [ignores, hnames]
  | some names =>
    have hne := below?_ne_nil hnames
    have hlen := List.length_pos_iff.2 hne
    simp only [ignores, hnames, Bool.or_eq_true, List.any_eq_true, List.mem_range, hverdict]
    constructor
    · rintro (⟨k, hk, hlast⟩ | hlast)
      · have hproper : names.take (k + 1) ≠ names := by
          intro heq
          have hlength := congrArg List.length heq
          rw [List.length_take] at hlength
          omega
        refine ⟨names, rfl, names.take (k + 1), by simpa using hne, List.take_prefix _ _, ?_⟩
        simpa [hproper] using hlast
      · exact ⟨names, rfl, names, hne, List.prefix_refl names, by simpa using hlast⟩
    · rintro ⟨names', hsame, ns, hns, hpre, hlast⟩
      obtain rfl := Option.some.inj hsame
      by_cases hwhole : ns = names
      · subst hwhole
        exact Or.inr (by simpa using hlast)
      · have hshort : ns.length < names.length :=
          lt_of_le_of_ne hpre.length_le fun h => hwhole (hpre.eq_of_length h)
        have hpos := List.length_pos_iff.2 hns
        refine Or.inl ⟨ns.length - 1, by omega, ?_⟩
        rw [Nat.sub_add_cancel hpos, ← List.prefix_iff_eq_take.1 hpre]
        simpa [hwhole] using hlast

/-- **Rules behind the others** take nothing back in that they do not match on the way. -/
theorem ignores_append (hmore : ∀ names, i.below? p = some names → ∀ ns, ns ≠ [] → ns <+: names →
      ∀ r ∈ more, r.matchesAt ns true = false) (h : i.ignores p true = true) :
    ignores ⟨i.root, i.rules ++ more⟩ p true = true := by
  obtain ⟨names, hnames, ns, hns, hpre, hlast⟩ := ignores_iff.1 h
  exact ignores_iff.2 ⟨names, hnames, ns, hns, hpre, hlast.append (hmore names hnames ns hns hpre)⟩

/-- The root is not ignored. -/
theorem segments_ne_nil_of_ignores (hdir : dir.rooted = true) (hp : p.rooted = true)
    (h : (ofText dir text).ignores p isDir = true) : p.segments ≠ [] := by
  intro hroot
  obtain ⟨names, hnames, -⟩ := ignores_iff.1 h
  have hbelow := (below?_eq_some_iff hdir hp).1 hnames
  have hseen := hbelow.seen_eq
  rw [Path.seen_of_root hp hroot, eq_comm, List.append_eq_singleton_iff] at hseen
  exact hseen.elim (fun h' => hbelow.ne_empty h'.2) fun h' => hbelow.ne_nil h'.2

/-- **Ignoring goes by the last match on the way down, and downwards.** A path is ignored exactly if it lies
below the directory of the file and the last rule that matches some of its first names ignores, where all but the
whole path are directories. So what lies below an ignored directory is ignored, and stays so when rules
follow that match neither the directory nor what lies between. Below is meant as patterns see the paths,
which is as they are written where no name holds a slash or a backslash. -/
theorem ignores_by_last_match (here root path : Path) (text : String) :
    let dir := Path.absolute here root
    let p := Path.absolute here path
    (∀ isDir, (ofText dir text).ignores p isDir = true ↔
      ∃ names, Below dir p names ∧ ∃ ns, ns ≠ [] ∧ ns <+: names ∧
        LastIgnores (ofText dir text).rules ns (isDir || decide (ns ≠ names))) ∧
    (∀ q isDir, (ofText dir text).ignores p true = true → p.Above q →
      (ofText dir text).ignores q isDir = true) ∧
    (∀ more q isDir, (∀ names, Below dir p names → ∀ ns, ns ≠ [] → ns <+: names →
        ∀ r ∈ more, r.matchesAt ns true = false) →
      (ofText dir text).ignores p true = true → p.Above q →
        ignores ⟨(ofText dir text).root, (ofText dir text).rules ++ more⟩ q isDir = true) ∧
    (dir.Unslashed ∧ p.Unslashed → dir.Plain ∧ p.Plain → ∀ names,
      (Below dir p names ↔ p.segments = dir.segments ++ names ∧ names ≠ [])) := by
  intro dir p
  have hdir : dir.Normal := Path.normal_absolute here root
  have hp : p.Normal := Path.normal_absolute here path
  have hbelow : ∀ names, (ofText dir text).below? p = some names ↔ Below dir p names :=
    fun names => below?_eq_some_iff hdir.rooted hp.rooted
  refine ⟨fun isDir => ?_, fun q isDir h habove => ?_, fun more q isDir hmore h habove => ?_,
    fun hslash hplain names => below_iff_segments hdir hp hslash hplain⟩
  · simp only [ignores_iff, hbelow]
  · obtain ⟨x, hx⟩ := Path.slashed_of_above habove (segments_ne_nil_of_ignores hdir.rooted hp.rooted h)
    exact ignores_below hx h
  · obtain ⟨x, hx⟩ := Path.slashed_of_above habove (segments_ne_nil_of_ignores hdir.rooted hp.rooted h)
    exact ignores_below hx (ignores_append (fun names hnames => hmore names ((hbelow names).1 hnames)) h)

/-- In `/r` the line `out/` takes out the file `out/keep.py`, although the line behind it is about that file
and decides the other way, and a third line `!*.py` does not bring the file back. -/
theorem ignores_kept_below_out :
    let f := ofText (.ofNames ["r"]) "out/\n!out/keep.py"
    let more := (IgnoreRule.ofLine? "!*.py".toList).toList
    f.ignores (.ofNames ["r", "out"]) true = true ∧
      Below (.ofNames ["r"]) (.ofNames ["r", "out"]) ["out"] ∧
      f.ignores (.ofNames ["r", "out", "keep.py"]) false = true ∧ more ≠ [] ∧
      ignores ⟨f.root, f.rules ++ more⟩ (.ofNames ["r", "out", "keep.py"]) false = true := by
  intro f more
  obtain ⟨-, hdown, hmore, hsegments⟩ :=
    ignores_by_last_match Path.root (.ofNames ["r"]) (.ofNames ["r", "out"]) "out/\n!out/keep.py"
  have hnames := hsegments (by decide) (by decide)
  have hout : f.ignores (.ofNames ["r", "out"]) true = true := by decide
  have habove : (Path.ofNames ["r", "out"]).Above (.ofNames ["r", "out", "keep.py"]) :=
    Path.above_iff.2 ⟨"keep.py", [], by decide⟩
  refine ⟨hout, (hnames ["out"]).2 (by decide), hdown _ false hout habove, by decide,
    hmore more _ false (fun names hbelow ns hne hpre r hr => ?_) hout habove⟩
  obtain rfl : ["out"] = names := (List.cons.inj ((hnames names).1 hbelow).1).2
  obtain ⟨rest, rfl, hrest⟩ := (List.prefix_cons_iff.1 hpre).resolve_left hne
  obtain rfl := List.prefix_nil.1 hrest
  revert r
  decide

end IgnoreFile

end Multilint
