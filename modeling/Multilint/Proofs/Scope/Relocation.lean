import Multilint.Proofs.FileTree.Copies
import Multilint.Proofs.Scope.Placement
import Multilint.Proofs.Scope.Pruning
/-!
# Discovery in two places

The files of a run are those of a directory, and the directory may stand anywhere. In two copies of it the
same files are found, as seen from the directory, as long as the exclude patterns do not tell the places apart
(`discover_relocated`). Patterns are matched with paths from the root, so they can: a name that is also the
name of a directory above the copy takes out all of it (`discover_depends_on_place`).
-/

namespace Multilint

namespace Scope

variable {scope : Scope} {r r' f : Path} {isDir : Bool}

/-- **A scope treats two directories alike**: no exclude pattern meets the place of either, or each place is
covered by some pattern. -/
def AlikeAt (s : Scope) (r r' : Path) : Prop :=
  (∀ e ∈ s.exclusions, e.meets r.place = false ∧ e.meets r'.place = false) ∨
    (∃ e ∈ s.exclusions, e.covers r.place = true) ∧ ∃ e ∈ s.exclusions, e.covers r'.place = true

/-- **Patterns that meet neither of two places** exclude the same paths under both. -/
theorem excludes_under_congr (hi : scope.ignoreFile = none)
    (hes : ∀ e ∈ scope.exclusions, e.meets r.place = false ∧ e.meets r'.place = false)
    (hr : r.rooted = true) (hr' : r'.rooted = true) (hne : f.segments ≠ []) :
    scope.excludes (r.under f) isDir = scope.excludes (r'.under f) isDir := by
  have heach : ∀ e ∈ scope.exclusions,
      e.excludes (r.under f).slashed = e.excludes (r'.under f).slashed := by
    intro e he
    rw [Exclusion.excludes_eq_below (hes e he).1 (Path.slashed_under hr hne),
      Exclusion.excludes_eq_below (hes e he).2 (Path.slashed_under hr' hne)]
  simp only [excludes, hi, Option.any_none, Bool.or_false]
  rw [Bool.eq_iff_iff, List.any_eq_true, List.any_eq_true]
  exact exists_congr fun e => and_congr_right fun he => by rw [heach e he]

theorem prunes_under_congr (hi : scope.ignoreFile = none)
    (hes : ∀ e ∈ scope.exclusions, e.meets r.place = false ∧ e.meets r'.place = false)
    (hr : r.Normal) (hr' : r'.Normal) (hf : f.Normal) (hne : f.segments ≠ []) :
    scope.prunes (r.under f) = scope.prunes (r'.under f) := by
  rw [prunes, prunes, Path.fileName?_under hr hf hne, Path.fileName?_under hr' hf hne,
    excludes_under_congr hi hes hr.rooted hr'.rooted hne]

theorem excludes_under_of_covers {e : Exclusion} (he : e ∈ scope.exclusions)
    (hcovers : e.covers r.place = true) (hr : r.rooted = true) (hne : f.segments ≠ []) :
    scope.excludes (r.under f) isDir = true := by
  rw [excludes, Bool.or_eq_true, List.any_eq_true]
  exact Or.inl ⟨e, he, Exclusion.excludes_of_covers hcovers (Path.slashed_under hr hne)⟩

end Scope

namespace FileTree

variable {t : FileTree} {prune prune' : Path → Bool} {start f : Path}

/-- A walk is the same walk if it passes over the same directories on the way. -/
theorem Reached.congr_prune (h : t.Reached prune start f)
    (hprune : ∀ d, start.Above d → d.Above f → prune d = prune' d) : t.Reached prune' start f := by
  refine ⟨h.normal, h.isFile, h.below, fun d hsd hdf => ?_⟩
  obtain ⟨hdir, hkept⟩ := h.between d hsd hdf
  exact ⟨hdir, hprune d hsd hdf ▸ hkept⟩

/-- **An input that stays in a tree**, both by its parts and when it is followed. -/
structure Within (t : FileTree) (p : Path) : Prop where
  /-- It is relative. -/
  relative : p.rooted = false
  /-- No `..` takes back more than there is. -/
  balanced : Path.balanced 0 p.parts = true
  /-- Following it does not leave the tree. -/
  stays : t.staysInside (linkLimit + 1) [] p.segments = true

end FileTree

namespace Discovery

open FileTree

variable {tree tree' t : FileTree} {r r' p f : Path} {scope : Scope} {inputs : List Path}
variable {includes : List Glob} {patterns : List String}

/-! ## What is found under a directory -/

/-- **An input brings in a file of a copy** that stands at a directory. -/
def BringsInUnder (t : FileTree) (r : Path) (scope : Scope) (input f : Path) : Prop :=
  (t.isFile Path.root input = true ∧ f = Path.absolute Path.root input) ∨
    (t.isDir Path.root input = true ∧
      t.Reached (fun d => scope.prunes (r.under d)) (Path.absolute Path.root input) f)

/-- Such a file has a name in the copy. -/
theorem BringsInUnder.name (hdir : t.isDirNode = true) (hp : t.Within p)
    (h : BringsInUnder t r scope p f) : f.Normal ∧ f.segments ≠ [] := by
  rcases h with ⟨hfile, rfl⟩ | ⟨-, hreached⟩
  · obtain ⟨ns, s, hns, hs⟩ := exists_name_of_isFile hp.relative hfile
    exact ⟨Path.normal_absolute _ _, Path.segments_absolute_ne_nil hs hns⟩
  · exact ⟨hreached.normal, segments_ne_nil_of_isFile hdir hreached.normal hreached.isFile⟩

theorem bringsIn_iff (hc : CopyAt tree r t) (ht : t.SelfContained) (hp : t.Within p) :
    BringsIn tree r scope p f ↔ ∃ g, f = r.under g ∧ BringsInUnder t r scope p g := by
  rw [BringsIn, hc.isFile_relative hp.relative hp.stays, hc.isDir_relative hp.relative hp.stays,
    Path.absolute_under hc.normal hp.balanced, hc.reached_iff ht (Path.normal_absolute _ _)]
  constructor
  · rintro (⟨hfile, rfl⟩ | ⟨hdir, g, rfl, hg⟩)
    · exact ⟨_, rfl, Or.inl ⟨hfile, rfl⟩⟩
    · exact ⟨g, rfl, Or.inr ⟨hdir, hg⟩⟩
  · rintro ⟨g, rfl, ⟨hfile, rfl⟩ | ⟨hdir, hg⟩⟩
    · exact Or.inl ⟨hfile, rfl⟩
    · exact Or.inr ⟨hdir, g, rfl, hg⟩

/-- **What is found in a copy** lies under its directory, by a name of its own. -/
theorem exists_of_mem_files (hc : CopyAt tree r t) (ht : t.SelfContained)
    (hinputs : ∀ p ∈ inputs, t.Within p) (hf : f ∈ files tree r scope inputs includes) :
    ∃ g, f = r.under g ∧ g.Normal ∧ g.segments ≠ [] := by
  obtain ⟨-, -, p, hp, hin⟩ := (mem_files_iff hc.wellFormed).1 hf
  obtain ⟨g, rfl, hg⟩ := (bringsIn_iff hc ht (hinputs p hp)).1 hin
  exact ⟨g, rfl, hg.name hc.isDirNode (hinputs p hp)⟩

/-- **Under a covered place** nothing is found. -/
theorem files_eq_nil_of_covers {e : Exclusion} (hc : CopyAt tree r t) (ht : t.SelfContained)
    (hinputs : ∀ p ∈ inputs, t.Within p) (he : e ∈ scope.exclusions)
    (hcovers : e.covers r.place = true) : files tree r scope inputs includes = [] := by
  refine List.eq_nil_iff_forall_not_mem.2 fun f hf => ?_
  obtain ⟨g, rfl, -, hne⟩ := exists_of_mem_files hc ht hinputs hf
  have hkept := ((mem_files_iff hc.wellFormed).1 hf).2.1
  rw [Scope.excludes_under_of_covers he hcovers hc.normal.rooted hne] at hkept
  cases hkept

/-! ## From one place to the other -/

/-- Patterns that look at names match alike under every directory. -/
theorem included_under_congr (hincludes : ∀ g ∈ includes, '/' ∉ g.text.toList) (hr : r.Normal)
    (hr' : r'.Normal) (hf : f.Normal) (hne : f.segments ≠ []) :
    Included includes (r.under f) ↔ Included includes (r'.under f) := by
  refine exists_congr fun g => and_congr_right fun hg => ?_
  simp only [hincludes g hg, false_and, false_or, Path.fileName?_under hr hf hne,
    Path.fileName?_under hr' hf hne]

/-- **A file found in one copy is found in the other one**, where patterns meet neither place. -/
theorem mem_files_relocated (hc : CopyAt tree r t) (hc' : CopyAt tree' r' t) (ht : t.SelfContained)
    (hi : scope.ignoreFile = none) (hincludes : ∀ g ∈ includes, '/' ∉ g.text.toList)
    (hinputs : ∀ p ∈ inputs, t.Within p)
    (hes : ∀ e ∈ scope.exclusions, e.meets r.place = false ∧ e.meets r'.place = false)
    (hf : f.rooted = true) (hmem : r.under f ∈ files tree r scope inputs includes) :
    r'.under f ∈ files tree' r' scope inputs includes := by
  rw [mem_files_iff hc.wellFormed] at hmem
  rw [mem_files_iff hc'.wellFormed]
  obtain ⟨hincluded, hkept, p, hp, hin⟩ := hmem
  obtain ⟨g, hg, hin⟩ := (bringsIn_iff hc ht (hinputs p hp)).1 hin
  obtain ⟨hnormal, hne⟩ := hin.name hc.isDirNode (hinputs p hp)
  obtain rfl := Path.under_inj hf hnormal.rooted hg
  -- its name decides about the include patterns, its path in the copy about the exclude patterns
  refine ⟨(included_under_congr hincludes hc.normal hc'.normal hnormal hne).1 hincluded, ?_, p, hp, ?_⟩
  · rwa [← Scope.excludes_under_congr hi hes hc.normal.rooted hc'.normal.rooted hne]
  · refine (bringsIn_iff hc' ht (hinputs p hp)).2 ⟨f, rfl, hin.imp_right ?_⟩
    rintro ⟨hdir, hreached⟩
    exact ⟨hdir, hreached.congr_prune fun d hsd hdf =>
      Scope.prunes_under_congr hi hes hc.normal hc'.normal (hdf.normal hnormal) hsd.segments_ne_nil⟩

/-- **The lists of files** are the same one, moved. -/
theorem files_relocated (hc : CopyAt tree r t) (hc' : CopyAt tree' r' t) (ht : t.SelfContained)
    (hi : scope.ignoreFile = none) (hincludes : ∀ g ∈ includes, '/' ∉ g.text.toList)
    (hinputs : ∀ p ∈ inputs, t.Within p)
    (hes : ∀ e ∈ scope.exclusions, e.meets r.place = false ∧ e.meets r'.place = false) :
    (files tree r scope inputs includes).map (fun f => r'.under (f.relativeTo r)) =
      files tree' r' scope inputs includes := by
  have hmoved : ∀ g : Path, g.Normal → r'.under ((r.under g).relativeTo r) = r'.under g := by
    intro g hg
    rw [Path.relativeTo_under hc.normal hg]
    rfl
  have hes' : ∀ e ∈ scope.exclusions, e.meets r'.place = false ∧ e.meets r.place = false :=
    fun e he => (hes e he).symm
  -- both lists are strictly sorted, so that they are equal if they have the same members
  refine eq_of_pairwise_names ?_ (pairwise_files hc'.wellFormed) fun f => ?_
  · rw [List.pairwise_map]
    refine (pairwise_files hc.wellFormed).imp_of_mem fun {p q} hp hq hlt => ?_
    obtain ⟨g, rfl, hg, -⟩ := exists_of_mem_files hc ht hinputs hp
    obtain ⟨k, rfl, hk, -⟩ := exists_of_mem_files hc ht hinputs hq
    rw [Path.names_under_lt_iff hc.normal hg hk] at hlt
    rwa [hmoved g hg, hmoved k hk, Path.names_under_lt_iff hc'.normal hg hk]
  · rw [List.mem_map]
    constructor
    · rintro ⟨p, hp, rfl⟩
      obtain ⟨g, rfl, hg, -⟩ := exists_of_mem_files hc ht hinputs hp
      rw [hmoved g hg]
      exact mem_files_relocated hc hc' ht hi hincludes hinputs hes hg.rooted hp
    · intro hf
      obtain ⟨g, rfl, hg, -⟩ := exists_of_mem_files hc' ht hinputs hf
      exact ⟨r.under g, mem_files_relocated hc' hc ht hi hincludes hinputs hes' hg.rooted hf, hmoved g hg⟩

/-- An include pattern is kept as it is written. -/
theorem text_of_includesOf {g : Glob} (h : includesOf patterns = .ok includes) (hg : g ∈ includes) :
    g.text ∈ patterns := by
  obtain ⟨p, hp, hread⟩ := Sequence.exists_of_mem_mapM h hg
  simp only [Glob.ofText] at hread
  cases htokens : Glob.tokensFrom 0 0 none [] p.toList with
  | error e =>
    rw [htokens] at hread
    cases hread
  | ok ts =>
    rw [htokens] at hread
    cases hread
    exact hp

/-- **Discovery does not depend on the place of a checkout.** In two copies of one tree that no link leads out
of, the same files are found, as seen from the directory they stand at: by include patterns for names, among
and below inputs in the tree, and with exclude patterns that meet the place of neither copy. Where each place
is covered by a pattern, nothing is found in either. -/
theorem discover_relocated (hc : CopyAt tree r t) (hc' : CopyAt tree' r' t) (ht : t.SelfContained)
    (hi : scope.ignoreFile = none) (hpatterns : ∀ p ∈ patterns, '/' ∉ p.toList)
    (hinputs : ∀ p ∈ inputs, t.Within p) (halike : scope.AlikeAt r r') :
    (discover tree r scope inputs patterns).map (List.map (·.relativeTo r)) =
      (discover tree' r' scope inputs patterns).map (List.map (·.relativeTo r')) := by
  cases hincludes : includesOf patterns with
  | error e =>
    rw [discover, discover, hincludes]
    rfl
  | ok includes =>
    rw [discover_eq hincludes, discover_eq hincludes]
    refine congrArg Except.ok ?_
    rcases halike with hes | ⟨⟨e, he, hcovers⟩, e', he', hcovers'⟩
    · have htexts : ∀ g ∈ includes, '/' ∉ g.text.toList :=
        fun g hg => hpatterns _ (text_of_includesOf hincludes hg)
      rw [← files_relocated hc hc' ht hi htexts hinputs hes, List.map_map]
      refine List.map_congr_left fun f hf => ?_
      obtain ⟨g, rfl, hg, -⟩ := exists_of_mem_files hc ht hinputs hf
      simp only [Function.comp_apply, Path.relativeTo_under hc.normal hg]
      exact (Path.relativeTo_under hc'.normal hg).symm
    · rw [files_eq_nil_of_covers hc ht hinputs he hcovers,
        files_eq_nil_of_covers hc' ht hinputs he' hcovers']
      rfl

/-- A checkout with sources, documents and a link to a source file. -/
def linkedSources : FileTree :=
  .dir [("src", .dir [("a.py", .file ByteArray.empty false)]),
    ("docs", .dir [("conf.py", .file ByteArray.empty false)]), ("main.py", .link "src/a.py")]

/-- In `/u` and in `/v/w` the same files of one checkout are found beside the documents, the linked one among
them. -/
theorem discover_relocated_beside_docs :
    CopyAt (.dir [("u", linkedSources)]) (.ofNames ["u"]) linkedSources ∧
      CopyAt (.dir [("v", .dir [("w", linkedSources)])]) (.ofNames ["v", "w"]) linkedSources ∧
      linkedSources.SelfContained ∧ Scope.exclusionsOf ["docs/*"] = .ok (scopeOf docs).exclusions ∧
      linkedSources.Within (.ofString "docs/../main.py") ∧ linkedSources.Within (.ofString ".") ∧
      (scopeOf docs).AlikeAt (.ofNames ["u"]) (.ofNames ["v", "w"]) ∧
      Lists (.dir [("u", linkedSources)]) (.ofNames ["u"]) (scopeOf docs)
        [.ofString "docs/../main.py", .ofString "."] ["*.py"] (.ofNames ["u", "main.py"]) ∧
      (discover (.dir [("u", linkedSources)]) (.ofNames ["u"]) (scopeOf docs)
          [.ofString "docs/../main.py", .ofString "."] ["*.py"]).map
            (List.map (·.relativeTo (.ofNames ["u"]))) =
        (discover (.dir [("v", .dir [("w", linkedSources)])]) (.ofNames ["v", "w"]) (scopeOf docs)
          [.ofString "docs/../main.py", .ofString "."] ["*.py"]).map
            (List.map (·.relativeTo (.ofNames ["v", "w"]))) := by
  have hc : CopyAt (.dir [("u", linkedSources)]) (.ofNames ["u"]) linkedSources :=
    copyAt_of_at? (by decide) (by decide) rfl rfl
  have hc' : CopyAt (.dir [("v", .dir [("w", linkedSources)])]) (.ofNames ["v", "w"]) linkedSources :=
    copyAt_of_at? (by decide) (by decide) rfl rfl
  have ht : linkedSources.SelfContained := selfContained_of_linksForward (by decide)
  have hmain : linkedSources.Within (.ofString "docs/../main.py") := ⟨by decide, by decide, by decide⟩
  have hall : linkedSources.Within (.ofString ".") := ⟨by decide, by decide, by decide⟩
  have halike : (scopeOf docs).AlikeAt (.ofNames ["u"]) (.ofNames ["v", "w"]) := Or.inl (by decide)
  have hfound : Lists (.dir [("u", linkedSources)]) (.ofNames ["u"]) (scopeOf docs)
      [.ofString "docs/../main.py", .ofString "."] ["*.py"] (.ofNames ["u", "main.py"]) :=
    (lists_iff hc.wellFormed).2 ⟨⟨[sources], rfl, included_iff.2 (by decide)⟩, by decide, _,
      List.mem_cons_self, Or.inl ⟨by decide, by decide⟩⟩
  exact ⟨hc, hc', ht, rfl, hmain, hall, halike, hfound,
    discover_relocated hc hc' ht rfl (by decide) (by simp [hmain, hall]) halike⟩

/-! ## Where the place decides -/

theorem ne_of_mem_files (hi : includesOf patterns = .ok includes)
    (hf : f ∈ files tree r scope inputs includes) (hnone : files tree' r' scope inputs includes = []) :
    (discover tree r scope inputs patterns).map (List.map (·.relativeTo r)) ≠
      (discover tree' r' scope inputs patterns).map (List.map (·.relativeTo r')) := by
  rw [discover_eq hi, discover_eq hi, hnone]
  intro h
  have hnil := List.map_eq_nil_iff.1 (Except.ok.inj h)
  rw [hnil] at hf
  cases hf

/-- The name `tmp`. -/
def tmpName : Exclusion :=
  ⟨"tmp", .name "tmp", some ⟨"tmp", [.char 't', .char 'm', .char 'p']⟩⟩

/-- A checkout of one source file. -/
def oneSource : FileTree :=
  .dir [("a.py", .file ByteArray.empty false)]

/-- It stands in `/home/r` and in `/tmp/r`. -/
def oneSourceTwice : FileTree :=
  .dir [("home", .dir [("r", oneSource)]), ("tmp", .dir [("r", oneSource)])]

/-- A checkout of a link that leads out of it. -/
def leadingOut : FileTree :=
  .dir [("l.py", .link "../a.py")]

/-- It stands in `/u`, where the link leads to a file, and in `/v/w`. -/
def leadingOutTwice : FileTree :=
  .dir [("a.py", .file ByteArray.empty false), ("u", leadingOut), ("v", .dir [("w", leadingOut)])]

theorem within_oneSource : ∀ p ∈ [Path.ofString "a.py"], oneSource.Within p :=
  fun _ hp => List.mem_singleton.1 hp ▸ ⟨by decide, by decide, by decide⟩

theorem within_leadingOut : ∀ p ∈ [Path.ofString "."], leadingOut.Within p :=
  fun _ hp => List.mem_singleton.1 hp ▸ ⟨by decide, by decide, by decide⟩

/-- Under `/tmp` the name takes out the file that is found under `/home`. -/
theorem ne_of_name_above :
    (discover oneSourceTwice (.ofNames ["home", "r"]) (scopeOf tmpName) [.ofString "a.py"] ["*.py"]).map
        (List.map (·.relativeTo (.ofNames ["home", "r"]))) ≠
      (discover oneSourceTwice (.ofNames ["tmp", "r"]) (scopeOf tmpName) [.ofString "a.py"] ["*.py"]).map
        (List.map (·.relativeTo (.ofNames ["tmp", "r"]))) := by
  have hw : oneSourceTwice.wellFormed = true := by decide
  have hfound : .ofNames ["home", "r", "a.py"] ∈ files oneSourceTwice (.ofNames ["home", "r"])
      (scopeOf tmpName) [.ofString "a.py"] [sources] :=
    (mem_files_iff hw).2 ⟨included_iff.2 (by decide), by decide, _, List.mem_singleton.2 rfl,
      Or.inl ⟨by decide, by decide⟩⟩
  exact ne_of_mem_files rfl hfound (files_eq_nil_of_covers (copyAt_of_at? hw (by decide) rfl rfl)
    (selfContained_of_linksForward (by decide)) within_oneSource (List.mem_singleton.2 rfl) (by decide))

/-- In `/v/w` the link leads nowhere. -/
theorem ne_of_link_out :
    (discover leadingOutTwice (.ofNames ["u"]) {} [.ofString "."] ["*.py"]).map
        (List.map (·.relativeTo (.ofNames ["u"]))) ≠
      (discover leadingOutTwice (.ofNames ["v", "w"]) {} [.ofString "."] ["*.py"]).map
        (List.map (·.relativeTo (.ofNames ["v", "w"]))) := by
  have hw : leadingOutTwice.wellFormed = true := by decide
  have hfound : .ofNames ["u", "l.py"] ∈ files leadingOutTwice (.ofNames ["u"]) {} [.ofString "."]
      [sources] :=
    (mem_files_iff hw).2 ⟨included_iff.2 (by decide), by decide, _, List.mem_singleton.2 rfl,
      (mem_candidates_iff hw).1 (by decide)⟩
  have hcandidates : candidates leadingOutTwice (.ofNames ["v", "w"]) {} (.ofString ".") = [] := by
    decide
  exact ne_of_mem_files rfl hfound (by simp [files, hcandidates, distinct])

/-- **The place of a checkout can decide.** A name that is excluded takes out every file where a directory
above the checkout has it; and a link out of a checkout can lead to a file in one place and nowhere in another
one. -/
theorem discover_depends_on_place :
    (¬ ∀ (tree tree' t : FileTree) (r r' : Path) (scope : Scope) (inputs : List Path)
        (raw patterns : List String),
      CopyAt tree r t → CopyAt tree' r' t → t.SelfContained →
      Scope.exclusionsOf raw = .ok scope.exclusions → (∀ e ∈ scope.exclusions, e.form ≠ .glob) →
      scope.ignoreFile = none → (∀ p ∈ patterns, '/' ∉ p.toList) → (∀ p ∈ inputs, t.Within p) →
      (discover tree r scope inputs patterns).map (List.map (·.relativeTo r)) =
        (discover tree' r' scope inputs patterns).map (List.map (·.relativeTo r'))) ∧
    ¬ ∀ (tree tree' t : FileTree) (r r' : Path) (scope : Scope) (inputs : List Path)
        (patterns : List String),
      CopyAt tree r t → CopyAt tree' r' t → scope.exclusions = [] → scope.ignoreFile = none →
      (∀ p ∈ patterns, '/' ∉ p.toList) → (∀ p ∈ inputs, t.Within p) →
      (discover tree r scope inputs patterns).map (List.map (·.relativeTo r)) =
        (discover tree' r' scope inputs patterns).map (List.map (·.relativeTo r')) := by
  constructor
  · intro h
    have hhome : CopyAt oneSourceTwice (.ofNames ["home", "r"]) oneSource :=
      copyAt_of_at? (by decide) (by decide) rfl rfl
    have htmp : CopyAt oneSourceTwice (.ofNames ["tmp", "r"]) oneSource :=
      copyAt_of_at? (by decide) (by decide) rfl rfl
    exact ne_of_name_above (h _ _ _ _ _ _ _ ["tmp"] _ hhome htmp
      (selfContained_of_linksForward (by decide)) rfl (by decide) rfl (by decide) within_oneSource)
  · intro h
    have hu : CopyAt leadingOutTwice (.ofNames ["u"]) leadingOut :=
      copyAt_of_at? (by decide) (by decide) rfl rfl
    have hv : CopyAt leadingOutTwice (.ofNames ["v", "w"]) leadingOut :=
      copyAt_of_at? (by decide) (by decide) rfl rfl
    exact ne_of_link_out (h _ _ _ _ _ _ _ _ hu hv rfl rfl (by decide) within_leadingOut)

end Discovery

end Multilint
