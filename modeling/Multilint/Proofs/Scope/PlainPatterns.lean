import Multilint.Proofs.Path.Written
import Multilint.Proofs.Scope.Exclusion
/-!
# Exclude patterns without wildcards

Patterns are texts and are looked for in the text of a path, while what they mean is about its segments.
`PlainMeaning` tells it for the patterns that hold no wildcard but the star of a final `/*`: a bare name is one
of the segments, `dir/*` is a block of segments, or the first ones, with more behind it, and any other pattern
is the path itself. The directory of `dir/*` is told by what stands around it in the text (`Bare`).
`excludes_plain_iff` says that this is what such a pattern excludes. Slashes in the text are the borders of
segments, and the glob of the pattern adds nothing.
-/

namespace Multilint

namespace Glob

variable {cs s : List Char} {text t : String} {g : Glob}

/-! ## Globs with a star at the end -/

/-- A text without wildcards and `/*` behind it are read as they stand. -/
theorem tokensFrom_of_plain_star {position : ℕ} {before : Option Char} {done : List GlobToken}
    (h : ∀ c ∈ cs, IsPlain c) :
    tokensFrom 0 position before done (cs ++ ['/', '*']) =
      .ok (done.reverse ++ (cs ++ ['/']).map .char ++ [.anyRun]) := by
  induction cs generalizing position before done with
  | nil => simp [tokensFrom]
  | cons c cs ih =>
    obtain ⟨hstar, hquery, hbracket⟩ := h c List.mem_cons_self
    rw [List.cons_append, tokensFrom, if_neg hquery, if_neg hstar, if_neg hbracket,
      ih fun d hd => h d (List.mem_cons_of_mem c hd)]
    simp

/-- A star at the end leaves the characters in front of it as a beginning. -/
theorem matchTokens_map_char_star :
    matchTokens .plain (cs.map .char ++ [.anyRun]) s = true ↔ cs <+: s := by
  induction cs generalizing s with
  | nil =>
    simp only [List.map_nil, List.nil_append, matchTokens, List.any_eq_true, List.nil_prefix, iff_true]
    exact ⟨[], mem_runRests_plain.2 List.nil_suffix, rfl⟩
  | cons c cs ih =>
    cases s with
    | nil => simp [matchTokens]
    | cons d s =>
      simp only [List.map_cons, List.cons_append, matchTokens, accepts, Bool.and_eq_true,
        decide_eq_true_eq, ih, List.cons_prefix_cons]

/-- **A text without wildcards and `/*` behind it** match what starts with the text and a slash. -/
theorem matchesText_of_plain_star (h : ∀ c ∈ cs, IsPlain c) (htext : text.toList = cs ++ ['/', '*'])
    (hg : ofText text = .ok g) : g.matchesText t = true ↔ cs ++ ['/'] <+: t.toList := by
  rw [ofText, htext, tokensFrom_of_plain_star h] at hg
  obtain rfl := Except.ok.inj hg
  exact matchTokens_map_char_star

end Glob

namespace Exclusion

variable {c : Char} {cs dir w d : List Char} {pattern raw : String} {ss : List String}

/-! ## What such a pattern means -/

/-- **A directory as it is written**: what is left of a text without the `./` it starts with, as often as it
does, and without the slashes it ends with then. -/
def Bare (w dir : List Char) : Prop :=
  ∃ k m, w = (List.replicate k ['.', '/']).flatten ++ (dir ++ List.replicate m '/') ∧
    ¬ ['.', '/'] <+: dir ++ List.replicate m '/' ∧ ¬ ['/'] <:+ dir

/-- **What is below a directory**, told by the names of a path from the root. -/
inductive TreeMeaning (dir : List Char) (ss : List String) : Prop
  /-- Without a name the directory is the root. -/
  | root : dir = [] → ss ≠ [] → TreeMeaning dir ss
  /-- A directory from the root is where the path starts. -/
  | fromRoot {ds : List String} {n : String} {after : List String} : ds ≠ [] →
      dir = '/' :: ("/".intercalate ds).toList → ss = ds ++ n :: after → TreeMeaning dir ss
  /-- A relative one may lie anywhere on the path. -/
  | anywhere {before ds : List String} {n : String} {after : List String} : ds ≠ [] →
      dir = ("/".intercalate ds).toList → ss = before ++ ds ++ n :: after → TreeMeaning dir ss

/-- **What a pattern without wildcards excludes**, told by the names of a path from the root. -/
inductive PlainMeaning (pattern : String) (ss : List String) : Prop
  /-- A bare name excludes what has a segment of this name. -/
  | name : '/' ∉ pattern.toList → pattern ∈ ss → PlainMeaning pattern ss
  /-- `dir/*` excludes what is below the directory. -/
  | tree {w dir : List Char} : pattern.toList = w ++ ['/', '*'] → Bare w dir → TreeMeaning dir ss →
      PlainMeaning pattern ss
  /-- Any other pattern excludes the path that it is. -/
  | path : '/' ∈ pattern.toList → ¬ ['/', '*'] <:+ pattern.toList →
      (Path.ofNames ss).toString = pattern → PlainMeaning pattern ss

/-- **Names that a path from the root can have.** -/
structure Names (ss : List String) : Prop where
  /-- There is one. -/
  ne_nil : ss ≠ []
  /-- They are names. -/
  isName : ∀ s ∈ ss, Path.IsName s
  /-- No slash is in them. -/
  unslashed : ∀ s ∈ ss, '/' ∉ s.toList

namespace Names

variable (h : Names ss)
include h

theorem not_mem_slash : ∀ p ∈ ss.map String.toList, '/' ∉ p :=
  Path.Unslashed.not_mem (p := .ofNames ss) h.unslashed

theorem nil_not_mem : [] ∉ ss.map String.toList := by
  intro hmem
  obtain ⟨s, hs, hempty⟩ := List.mem_map.1 hmem
  exact (h.isName s hs).1 (String.toList_eq_nil_iff.1 hempty)

theorem toList_toString :
    (Path.ofNames ss).toString.toList = Text.ledBy '/' (ss.map String.toList) :=
  Path.toList_toString rfl h.ne_nil

/-- **The segments of a path are its names.** -/
theorem segments_toString : segments (Path.ofNames ss).toString = ss := by
  have hkept : ss.filter (· ≠ "") = ss :=
    List.filter_eq_self.2 fun s hs => by simpa using (h.isName s hs).1
  rw [segments, Text.pieces, h.toList_toString, Text.splitOn_ledBy h.not_mem_slash]
  simpa [List.map_map] using hkept

end Names

theorem exists_toString (ss : List String) : ∃ x, (Path.ofNames ss).toString.toList = '/' :: x :=
  ⟨("/".intercalate ss).toList, by simp [Path.toString, Path.ofNames]⟩

/-! ## Directories as they are written -/

theorem dropHere_of_not_isPrefix (h : ¬ ['.', '/'] <+: cs) : dropHere cs = cs := by
  unfold dropHere
  split
  · exact absurd ⟨_, rfl⟩ h
  · rfl

theorem dropHere_flatten_append (k : ℕ) (cs : List Char) :
    dropHere ((List.replicate k ['.', '/']).flatten ++ cs) = dropHere cs := by
  induction k with
  | zero => rfl
  | succ k ih =>
    rw [List.replicate_succ, List.flatten_cons, List.append_assoc]
    exact ih

theorem exists_dropHere (cs : List Char) :
    ∃ k, cs = (List.replicate k ['.', '/']).flatten ++ dropHere cs ∧ ¬ ['.', '/'] <+: dropHere cs := by
  fun_induction dropHere cs with
  | case1 cs ih =>
    obtain ⟨k, hcs, hpre⟩ := ih
    refine ⟨k + 1, ?_, hpre⟩
    rw [List.replicate_succ, List.flatten_cons, List.append_assoc, ← hcs]
    rfl
  | case2 cs hne => exact ⟨0, rfl, fun ⟨rest, hrest⟩ => hne rest hrest.symm⟩

theorem dropEndSlashes_append (hdir : ¬ ['/'] <:+ dir) (m : ℕ) :
    dropEndSlashes (dir ++ List.replicate m '/') = dir := by
  induction m with
  | zero =>
    rw [List.replicate_zero, List.append_nil]
    refine List.rdropWhile_eq_self_iff.2 fun hne hlast => hdir ⟨dir.dropLast, ?_⟩
    rw [← of_decide_eq_true hlast, List.dropLast_append_getLast]
  | succ m ih =>
    rw [List.replicate_succ', ← List.append_assoc]
    exact (List.rdropWhile_concat_pos _ _ _ (by simp)).trans ih

theorem exists_dropEndSlashes (cs : List Char) :
    ∃ m, cs = dropEndSlashes cs ++ List.replicate m '/' ∧ ¬ ['/'] <:+ dropEndSlashes cs := by
  have hslashes : cs.rtakeWhile (· = '/') = List.replicate (cs.rtakeWhile (· = '/')).length '/' := by
    refine List.eq_replicate_iff.2 ⟨rfl, fun c hc => ?_⟩
    have hslash := List.mem_rtakeWhile_imp hc
    exact of_decide_eq_true hslash
  refine ⟨(cs.rtakeWhile (· = '/')).length, ?_, fun hsuf => ?_⟩
  · rw [← hslashes]
    exact List.rdropWhile_append_rtakeWhile.symm
  · have hne : dropEndSlashes cs ≠ [] := hsuf.ne_nil (List.cons_ne_nil _ _)
    obtain ⟨front, hfront⟩ := hsuf
    have hlast : (dropEndSlashes cs).getLast hne = '/' := by
      simp [← hfront]
    exact List.rdropWhile_last_not (· = '/') cs hne (decide_eq_true hlast)

/-- **Dropping what says nothing** leaves the directory that is written. -/
theorem bare_iff : Bare w dir ↔ dir = dropEndSlashes (dropHere w) := by
  constructor
  · rintro ⟨k, m, rfl, hpre, hsuf⟩
    rw [dropHere_flatten_append, dropHere_of_not_isPrefix hpre, dropEndSlashes_append hsuf]
  · rintro rfl
    obtain ⟨k, hw, hpre⟩ := exists_dropHere w
    obtain ⟨m, hdir, hsuf⟩ := exists_dropEndSlashes (dropHere w)
    exact ⟨k, m, by rw [← hdir, ← hw], by rwa [← hdir], hsuf⟩

/-! ## Trees without wildcards -/

theorem treeDir?_eq_some_iff :
    treeDir? cs = some dir ↔ ∃ w, cs = w ++ ['/', '*'] ∧ Bare w dir := by
  simp only [bare_iff]
  constructor
  · intro h
    unfold treeDir? at h
    split at h
    · rename_i r hr
      refine ⟨r.reverse, ?_, (Option.some.inj h).symm⟩
      rw [← List.reverse_reverse cs, hr]
      simp
    · cases h
  · rintro ⟨w, rfl, rfl⟩
    simp [treeDir?]

/-- Texts are blocks of names where their characters are. -/
theorem map_toList_eq_iff {ps : List (List Char)} :
    ss.map String.toList = ps ↔ ss = ps.map String.ofList := by
  constructor
  · rintro rfl
    simp [List.map_map]
  · rintro rfl
    simp [List.map_map]

/-- **A block of names** that another one follows, as pieces of a text and as the names it is written with. -/
theorem exists_block_iff {before : List String} (hss : ∀ s ∈ ss.map String.toList, '/' ∉ s) :
    (∃ n after, ss.map String.toList = before.map String.toList ++ Text.splitOn '/' d ++ n :: after) ↔
      ∃ ds n after, ds ≠ [] ∧ d = ("/".intercalate ds).toList ∧ ss = before ++ ds ++ n :: after := by
  constructor
  · rintro ⟨n, after, hblock⟩
    have hnames := map_toList_eq_iff.1 hblock
    simp only [List.map_append, List.map_cons, List.map_map] at hnames
    have hpieces : Text.splitOn '/' d = ((Text.splitOn '/' d).map String.ofList).map String.toList := by
      simp [List.map_map]
    have hsep : ∀ p ∈ ((Text.splitOn '/' d).map String.ofList).map String.toList, '/' ∉ p := by
      rw [← hpieces]
      exact fun p => Text.not_mem_of_mem_splitOn
    obtain ⟨hne, hd⟩ := (Text.splitOn_eq_map_iff hsep).1 hpieces
    exact ⟨_, String.ofList n, after.map String.ofList, hne, hd, by simpa using hnames⟩
  · rintro ⟨ds, n, after, hne, hd, rfl⟩
    have hsep : ∀ p ∈ ds.map String.toList, '/' ∉ p := by
      intro p hp
      exact hss p (by simp only [List.map_append, List.mem_append]; exact Or.inl (Or.inr hp))
    rw [(Text.splitOn_eq_map_iff hsep).2 ⟨hne, hd⟩]
    exact ⟨n.toList, after.map String.toList, by simp⟩

/-- **A directory above a path**: its names stand among those of the path, with more behind them. -/
theorem infix_toString_iff (h : Names ss) :
    '/' :: (d ++ ['/']) <:+: (Path.ofNames ss).toString.toList ↔
      ∃ before ds n after, ds ≠ [] ∧ d = ("/".intercalate ds).toList ∧
        ss = before ++ ds ++ n :: after := by
  rw [h.toList_toString, Text.infix_ledBy_iff h.not_mem_slash]
  constructor
  · rintro ⟨before, n, after, hblock⟩
    refine ⟨before.map String.ofList, (exists_block_iff h.not_mem_slash).1 ⟨n, after, ?_⟩⟩
    simpa [List.map_map] using hblock
  · rintro ⟨before, hblock⟩
    exact ⟨before.map String.toList, (exists_block_iff h.not_mem_slash).2 hblock⟩

/-- The same of the first names of the path. -/
theorem prefix_toString_iff (h : Names ss) :
    '/' :: (d ++ ['/']) <+: (Path.ofNames ss).toString.toList ↔
      ∃ ds n after, ds ≠ [] ∧ d = ("/".intercalate ds).toList ∧ ss = ds ++ n :: after := by
  rw [h.toList_toString, Text.prefix_ledBy_iff h.not_mem_slash]
  exact @exists_block_iff d ss [] h.not_mem_slash

/-- **No two slashes stand side by side** in the text of a path. -/
theorem not_infix_slashes (h : Names ss) : ¬ ['/', '/'] <:+: (Path.ofNames ss).toString.toList := by
  have hsplit := @Text.infix_ledBy_iff '/' (ss.map String.toList) [] h.not_mem_slash
  rw [List.nil_append] at hsplit
  rw [h.toList_toString, hsplit]
  rintro ⟨before, n, after, hss⟩
  exact h.nil_not_mem (hss ▸ by simp [Text.splitOn])

/-- **What stands at the start of a path**, with a slash behind it, is nothing or a directory from the root. -/
theorem prefix_iff (h : Names ss) : dir ++ ['/'] <+: (Path.ofNames ss).toString.toList ↔
    dir = [] ∨ ∃ ds n after, ds ≠ [] ∧ dir = '/' :: ("/".intercalate ds).toList ∧ ss = ds ++ n :: after := by
  obtain ⟨x, hroot⟩ := exists_toString ss
  cases dir with
  | nil => exact iff_of_true ⟨x, hroot.symm⟩ (Or.inl rfl)
  | cons c d =>
    simp only [List.cons_ne_nil, false_or, List.cons.injEq]
    constructor
    · intro hpre
      have hc : c = '/' := by
        rw [hroot, List.cons_append, List.cons_prefix_cons] at hpre
        exact hpre.1
      subst hc
      obtain ⟨ds, n, after, hne, hd, hss⟩ := (prefix_toString_iff h).1 hpre
      exact ⟨ds, n, after, hne, ⟨rfl, hd⟩, hss⟩
    · rintro ⟨ds, n, after, hne, ⟨rfl, hd⟩, hss⟩
      exact (prefix_toString_iff h).2 ⟨ds, n, after, hne, hd, hss⟩

/-- **What is below a directory** has the directory in its text, between slashes, or starts with it. -/
theorem treeMeaning_iff (h : Names ss) : TreeMeaning dir ss ↔
    '/' :: (dir ++ ['/']) <:+: (Path.ofNames ss).toString.toList ∨
      dir ++ ['/'] <+: (Path.ofNames ss).toString.toList := by
  rw [infix_toString_iff h, prefix_iff h]
  constructor
  · rintro (⟨hdir, -⟩ | ⟨hne, hdir, hss⟩ | ⟨hne, hdir, hss⟩)
    · exact Or.inr (Or.inl hdir)
    · exact Or.inr (Or.inr ⟨_, _, _, hne, hdir, hss⟩)
    · exact Or.inl ⟨_, _, _, _, hne, hdir, hss⟩
  · rintro (⟨before, ds, n, after, hne, hdir, hss⟩ | hdir | ⟨ds, n, after, hne, hdir, hss⟩)
    · exact .anywhere hne hdir hss
    · exact .root hdir h.ne_nil
    · exact .fromRoot hne hdir hss

/-- **What the form of a tree matches** is below its directory. -/
theorem formMatches_tree_iff (h : Names ss) :
    formMatches (Path.ofNames ss).toString (.tree (String.ofList dir) none) = true ↔
      TreeMeaning dir ss := by
  simp only [formMatches, Option.any_none, Bool.or_false, Bool.or_eq_true, Text.occursIn_iff,
    Text.isSome_after?_iff, String.toList_ofList, treeMeaning_iff h, List.cons_append]

/-- **The glob of a tree adds nothing**: what starts with the text in front of the star is below the
directory. -/
theorem treeMeaning_of_prefix (h : Names ss) (hdir : Bare w dir)
    (hpre : w ++ ['/'] <+: (Path.ofNames ss).toString.toList) : TreeMeaning dir ss := by
  -- the path starts at the root and has no two slashes side by side, so that nothing is dropped
  obtain ⟨x, hroot⟩ := exists_toString ss
  obtain ⟨k, m, rfl, -, -⟩ := hdir
  cases k with
  | succ k =>
    rw [hroot, List.replicate_succ, List.flatten_cons, List.append_assoc, List.append_assoc, List.cons_append,
      List.cons_prefix_cons] at hpre
    exact absurd hpre.1 (by decide)
  | zero =>
    cases m with
    | succ m =>
      refine absurd (List.IsInfix.trans ?_ hpre.isInfix) (not_infix_slashes h)
      exact ⟨dir ++ List.replicate m '/', [], by simp [List.replicate_succ']⟩
    | zero => exact (treeMeaning_iff h).2 (Or.inr (by simpa using hpre))

/-! ## Reading such a pattern -/

theorem mem_of_mem_dropHere (hc : c ∈ dropHere cs) : c ∈ cs := by
  fun_induction dropHere cs with
  | case1 cs ih => exact List.mem_cons_of_mem _ (List.mem_cons_of_mem _ (ih hc))
  | case2 cs => exact hc

theorem hasWildcard_of_plain (h : ∀ c ∈ cs, Glob.IsPlain c) : hasWildcard cs = false := by
  refine List.any_eq_false.2 fun c hc => ?_
  obtain ⟨hstar, hquery, hbracket⟩ := h c hc
  simp [hstar, hquery, hbracket]

theorem hasWildcard_dir (h : ∀ c ∈ w, Glob.IsPlain c) :
    hasWildcard (dropEndSlashes (dropHere w)) = false :=
  hasWildcard_of_plain fun c hc => h c (mem_of_mem_dropHere ((List.rdropWhile_prefix _ _).subset hc))

/-- A text without wildcards does not end with a star. -/
theorem not_isSuffix_of_plain (h : ∀ c ∈ cs, Glob.IsPlain c) : ¬ ['/', '*'] <:+ cs :=
  fun hsuf => (h '*' (hsuf.subset (by simp))).1 rfl

/-- A text without wildcards is no tree. -/
theorem treeDir?_of_plain (h : ∀ c ∈ cs, Glob.IsPlain c) : treeDir? cs = none := by
  cases hdir : treeDir? cs with
  | none => rfl
  | some dir =>
    obtain ⟨w, rfl, -⟩ := treeDir?_eq_some_iff.1 hdir
    exact absurd ⟨w, rfl⟩ (not_isSuffix_of_plain h)

/-- **A text without wildcards** means the path it is, or its name. -/
theorem plainMeaning_of_plain (h : ∀ c ∈ pattern.toList, Glob.IsPlain c) : PlainMeaning pattern ss ↔
    if '/' ∈ pattern.toList then (Path.ofNames ss).toString = pattern else pattern ∈ ss := by
  have hstar := not_isSuffix_of_plain h
  constructor
  · rintro (⟨hslash, hmem⟩ | ⟨hpattern, -, -⟩ | ⟨hslash, -, hpath⟩)
    · rwa [if_neg hslash]
    · exact absurd ⟨_, hpattern.symm⟩ hstar
    · rwa [if_pos hslash]
  · split
    · rename_i hslash
      exact fun hpath => .path hslash hstar hpath
    · rename_i hslash
      exact fun hmem => .name hslash hmem

/-- **A text with a slash and a star at its end** means what is below its directory. -/
theorem plainMeaning_of_tree (hpattern : pattern.toList = w ++ ['/', '*']) (hdir : Bare w dir) :
    PlainMeaning pattern ss ↔ TreeMeaning dir ss := by
  constructor
  · rintro (⟨hslash, -⟩ | ⟨hpattern', hdir', htree⟩ | ⟨-, hstar, -⟩)
    · exact absurd (by simp [hpattern]) hslash
    · obtain rfl := List.append_cancel_right (hpattern.symm.trans hpattern')
      rwa [bare_iff.1 hdir, ← bare_iff.1 hdir']
    · exact absurd ⟨w, hpattern.symm⟩ hstar
  · exact .tree hpattern hdir

/-- A text that is no empty pattern is read as its form and its glob. -/
theorem ofText_eq {form : ExclusionForm} {g : Glob} (hne : Text.trimmed raw ≠ "")
    (hform : formOf (Text.trimmed raw) = .ok form) (hg : Glob.ofText (Text.trimmed raw) = .ok g) :
    ofText raw = .ok ⟨Text.trimmed raw, form, some g⟩ := by
  simp [ofText, hform, hne, compile, hg, bind, Except.bind, pure, Except.pure]

/-- **A text without wildcards** excludes the path it is, or what has a segment of its name. -/
theorem excludes_of_plain (hplain : ∀ c ∈ (Text.trimmed raw).toList, Glob.IsPlain c) (h : Names ss) :
    ∃ e, ofText raw = .ok e ∧
      (e.excludes (Path.ofNames ss).toString = true ↔ PlainMeaning (Text.trimmed raw) ss) := by
  have hform : formOf (Text.trimmed raw) = .ok (if '/' ∈ (Text.trimmed raw).toList then .glob
      else .name (Text.trimmed raw)) := by
    simp [formOf, treeDir?_of_plain hplain, hasWildcard_of_plain hplain]
  rw [plainMeaning_of_plain hplain]
  by_cases hne : Text.trimmed raw = ""
  · -- the empty text is no name
    rw [hne] at hform ⊢
    refine ⟨⟨"", .name "", none⟩, by simp [ofText, hne, hform], ?_⟩
    exact iff_of_false (by simp [excludes]) fun hmem => (h.isName "" hmem).1 rfl
  · obtain ⟨g, hg⟩ : ∃ g, Glob.ofText (Text.trimmed raw) = .ok g := by
      rw [Glob.ofText, Glob.tokensFrom_of_plain hplain]
      exact ⟨_, rfl⟩
    refine ⟨_, ofText_eq hne hform hg, ?_⟩
    simp only [excludes, ne_eq, hne, not_false_eq_true, decide_true, Bool.true_and, Option.any_some,
      Bool.or_eq_true, List.any_eq_true, Glob.matchesText_of_plain hplain hg, exists_eq_right,
      h.segments_toString]
    by_cases hslash : '/' ∈ (Text.trimmed raw).toList
    · have hmem : Text.trimmed raw ∉ ss := fun hmem => h.unslashed _ hmem hslash
      simp [hslash, hmem, formMatches]
    · have hpath : (Path.ofNames ss).toString ≠ Text.trimmed raw := by
        obtain ⟨x, hroot⟩ := exists_toString ss
        intro heq
        rw [← heq, hroot] at hslash
        exact hslash List.mem_cons_self
      simp [hslash, hpath, formMatches, h.segments_toString]

/-- **A text without wildcards and `/*` behind it** exclude what is below the directory. -/
theorem excludes_of_plain_star (hplain : ∀ c ∈ w, Glob.IsPlain c)
    (htext : (Text.trimmed raw).toList = w ++ ['/', '*']) (h : Names ss) :
    ∃ e, ofText raw = .ok e ∧
      (e.excludes (Path.ofNames ss).toString = true ↔ PlainMeaning (Text.trimmed raw) ss) := by
  have hbare : Bare w (dropEndSlashes (dropHere w)) := bare_iff.2 rfl
  have hdir : treeDir? (Text.trimmed raw).toList = some (dropEndSlashes (dropHere w)) :=
    treeDir?_eq_some_iff.2 ⟨w, htext, hbare⟩
  have hform : formOf (Text.trimmed raw) =
      .ok (.tree (String.ofList (dropEndSlashes (dropHere w))) none) := by
    simp [formOf, hdir, hasWildcard_dir hplain]
  have hne : Text.trimmed raw ≠ "" := by
    intro hempty
    rw [hempty] at htext
    simp at htext
  obtain ⟨g, hg⟩ : ∃ g, Glob.ofText (Text.trimmed raw) = .ok g := by
    rw [Glob.ofText, htext, Glob.tokensFrom_of_plain_star hplain]
    exact ⟨_, rfl⟩
  refine ⟨_, ofText_eq hne hform hg, ?_⟩
  have hglob : ∀ t, g.matchesText t = true ↔ w ++ ['/'] <+: t.toList := fun t =>
    Glob.matchesText_of_plain_star hplain htext hg
  rw [plainMeaning_of_tree htext hbare]
  simp only [excludes, ne_eq, hne, not_false_eq_true, decide_true, Bool.true_and, Option.any_some,
    Bool.or_eq_true, List.any_eq_true, hglob, h.segments_toString, formMatches_tree_iff h]
  refine or_iff_left_of_imp ?_
  rintro (hpre | ⟨s, hs, hpre⟩)
  · exact treeMeaning_of_prefix h hbare hpre
  · exact absurd (hpre.subset (List.mem_append_right w List.mem_cons_self)) (h.unslashed s hs)

/-! ## The meaning of patterns without wildcards -/

/-- The empty pattern means no path. -/
theorem not_plainMeaning_empty (h : Names ss) : ¬ PlainMeaning "" ss := by
  rw [plainMeaning_of_plain (by simp), if_neg (by simp)]
  exact fun hmem => (h.isName "" hmem).1 rfl

/-- A relative pattern with a slash is no path from the root. -/
theorem not_plainMeaning_of_relative (hslash : '/' ∈ pattern.toList)
    (hrelative : pattern.toList.head? ≠ some '/') (hstar : ¬ ['/', '*'] <:+ pattern.toList) :
    ¬ PlainMeaning pattern ss := by
  rintro (⟨hnone, -⟩ | ⟨hpattern, -, -⟩ | ⟨-, -, hpath⟩)
  · exact hnone hslash
  · exact hstar ⟨_, hpattern.symm⟩
  · obtain ⟨x, hroot⟩ := exists_toString ss
    exact hrelative (by rw [← hpath, hroot, List.head?_cons])

/-- **What a pattern without wildcards excludes.** A pattern that holds none of them, but for the star of a
final `/*`, can be read, and of the paths from the root it excludes those that it means. So the empty pattern
excludes nothing, and neither does a relative one with a slash that does not end with `/*`. -/
theorem excludes_plain_iff {body : List Char} (hbody : ∀ c ∈ body, Glob.IsPlain c)
    (hpattern : (Text.trimmed raw).toList = body ∨ (Text.trimmed raw).toList = body ++ ['/', '*'])
    (hss : Names ss) :
    ∃ e, ofText raw = .ok e ∧
      (e.excludes (Path.ofNames ss).toString = true ↔ PlainMeaning (Text.trimmed raw) ss) ∧
      (Text.trimmed raw = "" → e.excludes (Path.ofNames ss).toString = false) ∧
      ('/' ∈ (Text.trimmed raw).toList → (Text.trimmed raw).toList.head? ≠ some '/' →
        ¬ ['/', '*'] <:+ (Text.trimmed raw).toList →
        e.excludes (Path.ofNames ss).toString = false) := by
  obtain ⟨e, he, hmeaning⟩ : ∃ e, ofText raw = .ok e ∧
      (e.excludes (Path.ofNames ss).toString = true ↔ PlainMeaning (Text.trimmed raw) ss) := by
    rcases hpattern with htext | htext
    · exact excludes_of_plain (by rwa [htext]) hss
    · exact excludes_of_plain_star hbody htext hss
  refine ⟨e, he, hmeaning, fun hempty => ?_, fun hslash hrelative hstar => ?_⟩
  · rw [Bool.eq_false_iff, Ne, hmeaning, hempty]
    exact not_plainMeaning_empty hss
  · rw [Bool.eq_false_iff, Ne, hmeaning]
    exact not_plainMeaning_of_relative hslash hrelative hstar

/-- The pattern `./src/gen//*`. -/
def generated : Exclusion :=
  ⟨"./src/gen//*", .tree "src/gen" none, some ⟨"./src/gen//*", "./src/gen//".toList.map .char ++ [.anyRun]⟩⟩

/-- It excludes a file below `src/gen`, wherever that directory lies, and neither the directory itself nor
what lies below one whose name only starts like it. -/
theorem excludes_plain_iff_block :
    (∀ c ∈ "./src/gen/".toList, Glob.IsPlain c) ∧
      (Text.trimmed " ./src/gen//* ").toList = "./src/gen/".toList ++ ['/', '*'] ∧
      Names ["r", "src", "gen", "a.py"] ∧ Names ["r", "src", "gen2", "a.py"] ∧
      ofText " ./src/gen//* " = .ok generated ∧
      generated.excludes (Path.ofNames ["r", "src", "gen", "a.py"]).toString = true ∧
      generated.excludes (Path.ofNames ["r", "src", "gen"]).toString = false ∧
      ¬ PlainMeaning (Text.trimmed " ./src/gen//* ") ["r", "src", "gen2", "a.py"] := by
  have hbody : ∀ c ∈ "./src/gen/".toList, Glob.IsPlain c := by
    simp [Glob.IsPlain]
  have hpattern : (Text.trimmed " ./src/gen//* ").toList = "./src/gen/".toList ++ ['/', '*'] := by
    decide
  have hread : ofText " ./src/gen//* " = .ok generated := rfl
  have hbelow : Names ["r", "src", "gen", "a.py"] := ⟨by decide, by decide, by decide⟩
  have hbeside : Names ["r", "src", "gen2", "a.py"] := ⟨by decide, by decide, by decide⟩
  obtain ⟨e, he, hmeaning, -, -⟩ := excludes_plain_iff hbody (Or.inr hpattern) hbelow
  obtain rfl : generated = e := Except.ok.inj (hread.symm.trans he)
  obtain ⟨e', he', hmeaning', -, -⟩ := excludes_plain_iff hbody (Or.inr hpattern) hbeside
  obtain rfl : generated = e' := Except.ok.inj (hread.symm.trans he')
  have hbare : Bare "./src/gen/".toList "src/gen".toList := by
    refine ⟨1, 1, by decide, ?_, ?_⟩
    · simp [List.prefix_iff_eq_take]
    · simp [List.suffix_iff_eq_drop]
  have hblock : TreeMeaning "src/gen".toList ["r", "src", "gen", "a.py"] :=
    @TreeMeaning.anywhere _ _ ["r"] ["src", "gen"] _ _ (by decide) (by decide) rfl
  refine ⟨hbody, hpattern, hbelow, hbeside, hread, hmeaning.2 (.tree hpattern hbare hblock), ?_, ?_⟩
  · decide +kernel
  · rw [← hmeaning']
    decide +kernel

end Exclusion

end Multilint
