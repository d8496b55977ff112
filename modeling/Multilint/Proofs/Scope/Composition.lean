import Multilint.Proofs.Scope.Pruning
import Mathlib.Data.List.Lattice
/-!
# Vetoes do not interfere

Exclude patterns and an ignore file take files out of a run independently of each other: what a scope finds
is what each of its parts finds (`discover_eq_inter`). A file must be brought in under the whole scope, and
the parts may each bring it in by another input; of two inputs that lead to one file, the deeper one passes
fewer directories and is a way under both parts (`Reached.both`). Taking more out never brings a file in
(`Lists.of_stricter`).
-/

namespace Multilint

namespace FileTree

variable {root : FileTree} {prune prune' whole : Path → Bool} {start start' f : Path}

/-- A walk that passes over less reaches as much. -/
theorem Reached.of_imp (h : root.Reached whole start f)
    (hprune : ∀ d, prune d = true → whole d = true) : root.Reached prune start f := by
  refine ⟨h.normal, h.isFile, h.below, fun d hsd hdf => ?_⟩
  obtain ⟨hdir, hkept⟩ := h.between d hsd hdf
  exact ⟨hdir, Bool.eq_false_iff.2 fun hd => Bool.eq_false_iff.1 hkept (hprune d hd)⟩

/-- Two walks that reach one file go the same way from the lower one of their starts, and so does a walk
that passes over what either of them does. -/
theorem Reached.of_above (h : root.Reached prune start f) (h' : root.Reached prune' start' f)
    (hstart : start = start' ∨ start.Above start') (hwhole : ∀ d, whole d = (prune d || prune' d)) :
    root.Reached whole start' f := by
  refine ⟨h'.normal, h'.isFile, h'.below, fun d hsd hdf => ?_⟩
  have habove : start.Above d := by
    rcases hstart with rfl | hstart
    · exact hsd
    · exact hstart.trans hsd
  obtain ⟨hdir, hkept⟩ := h.between d habove hdf
  obtain ⟨-, hkept'⟩ := h'.between d hsd hdf
  exact ⟨hdir, by rw [hwhole, hkept, hkept', Bool.or_false]⟩

/-- A file that is the start of a walk is reached by every walk. -/
theorem Reached.of_eq_start (h : root.Reached prune f f) : root.Reached whole f f :=
  ⟨h.normal, h.isFile, Or.inl rfl, fun _ hsd hdf => absurd (hsd.trans hdf) Path.above_irrefl⟩

/-- **The deeper of two starts is good for both walks**: a file that two walks reach is reached from one of
their starts by the walk that passes over what either of them does. -/
theorem Reached.both (h : root.Reached prune start f) (h' : root.Reached prune' start' f)
    (hwhole : ∀ d, whole d = (prune d || prune' d)) :
    root.Reached whole start f ∨ root.Reached whole start' f := by
  have hwhole' : ∀ d, whole d = (prune' d || prune d) := fun d => (hwhole d).trans (Bool.or_comm _ _)
  rcases h.below with rfl | habove
  · exact Or.inl h.of_eq_start
  rcases h'.below with rfl | habove'
  · exact Or.inr h'.of_eq_start
  -- both starts are beginnings of one path, so one of them is a beginning of the other
  rcases habove.trichotomy habove' with heq | hlower | hhigher
  · exact Or.inr (h.of_above h' (Or.inl heq) hwhole)
  · exact Or.inr (h.of_above h' (Or.inr hlower) hwhole)
  · exact Or.inl (h'.of_above h (Or.inr hhigher) hwhole')

end FileTree

namespace Scope

variable {s t whole : Scope} {ps qs : List Exclusion} {i : Option IgnoreFile} {deps : Bool}

/-- **A scope is made of two parts**: it takes out what either of them takes out. -/
structure Joins (s t whole : Scope) : Prop where
  /-- Its walks pass over what a walk under either part passes over. -/
  prunes : ∀ d, whole.prunes d = (s.prunes d || t.prunes d)
  /-- It excludes what either part excludes. -/
  excludes : ∀ f, whole.excludes f false = (s.excludes f false || t.excludes f false)

/-- **A scope is stricter than another one**: it takes out whatever the other one does. -/
structure Stricter (whole s : Scope) : Prop where
  /-- Its walks pass over as much. -/
  prunes : ∀ d, s.prunes d = true → whole.prunes d = true
  /-- It excludes as much. -/
  excludes : ∀ f, s.excludes f false = true → whole.excludes f false = true

theorem Joins.stricter_left (h : s.Joins t whole) : whole.Stricter s where
  prunes d hd := by rw [h.prunes, hd, Bool.true_or]
  excludes f hf := by rw [h.excludes, hf, Bool.true_or]

theorem Joins.stricter_right (h : s.Joins t whole) : whole.Stricter t where
  prunes d hd := by rw [h.prunes, hd, Bool.or_true]
  excludes f hf := by rw [h.excludes, hf, Bool.or_true]

/-- What is excluded is passed over, beside the directories of dependencies. -/
theorem joins_of_excludes (hs : s.dependencies = whole.dependencies)
    (ht : t.dependencies = whole.dependencies)
    (h : ∀ p isDir, whole.excludes p isDir = (s.excludes p isDir || t.excludes p isDir)) :
    Joins s t whole where
  prunes d := by
    rw [Scope.prunes, Scope.prunes, Scope.prunes, hs, ht, h]
    cases !whole.dependencies && dependencyDirs.contains (d.fileName?.getD "") <;> rfl
  excludes f := h f false

theorem stricter_of_excludes (hs : s.dependencies = whole.dependencies)
    (h : ∀ p isDir, s.excludes p isDir = true → whole.excludes p isDir = true) :
    Stricter whole s where
  prunes d := by
    rw [Scope.prunes, Scope.prunes, hs, Bool.or_eq_true, Bool.or_eq_true]
    exact Or.imp_right (h d true)
  excludes f := h f false

/-- **Patterns are vetoes of their own.** -/
theorem joins_append : Joins ⟨ps, i, deps⟩ ⟨qs, none, deps⟩ ⟨ps ++ qs, i, deps⟩ := by
  refine joins_of_excludes rfl rfl fun p isDir => ?_
  simp only [excludes, List.any_append, Option.any_none, Bool.or_false]
  rw [Bool.or_assoc, Bool.or_assoc, Bool.or_comm (qs.any _)]

/-- **The patterns and the ignore file are two vetoes.** -/
theorem joins_sources : Joins ⟨ps, none, deps⟩ ⟨[], i, deps⟩ ⟨ps, i, deps⟩ := by
  refine joins_of_excludes rfl rfl fun p isDir => ?_
  simp only [excludes, List.any_nil, Option.any_none, Bool.or_false, Bool.false_or]

/-- More patterns are stricter. -/
theorem stricter_of_subset (h : ps ⊆ qs) : Stricter ⟨qs, i, deps⟩ ⟨ps, i, deps⟩ := by
  refine stricter_of_excludes rfl fun p isDir => ?_
  simp only [excludes, Bool.or_eq_true, List.any_eq_true]
  refine Or.imp_left ?_
  rintro ⟨e, he, hex⟩
  exact ⟨e, h he, hex⟩

/-- An ignore file is stricter than none, whatever it says. -/
theorem stricter_of_ignoreFile : Stricter ⟨ps, i, deps⟩ ⟨ps, none, deps⟩ := by
  refine stricter_of_excludes rfl fun p isDir => ?_
  simp only [excludes, Option.any_none, Bool.or_false, Bool.or_eq_true]
  exact Or.inl

/-- A rule that is not negated makes a scope stricter, wherever it stands in the ignore file. -/
theorem stricter_of_rule {root : String} {rs rs' : List IgnoreRule} {r : IgnoreRule}
    (hr : r.negated = false) :
    Stricter ⟨ps, some ⟨root, rs ++ r :: rs'⟩, deps⟩ ⟨ps, some ⟨root, rs ++ rs'⟩, deps⟩ := by
  refine stricter_of_excludes rfl fun p isDir => ?_
  simp only [excludes, Bool.or_eq_true, Option.any_some]
  exact Or.imp_right (IgnoreFile.ignores_insert hr)

/-- Patterns are read one by one. -/
theorem exclusionsOf_append (raw raw' : List String) :
    exclusionsOf (raw ++ raw') = do return (← exclusionsOf raw) ++ (← exclusionsOf raw') := by
  rw [exclusionsOf, List.filter_append, List.mapM_append]
  rfl

end Scope

namespace Discovery

variable {tree : FileTree} {dir p q f : Path} {s t whole : Scope} {inputs : List Path}
variable {includes : List Glob} {patterns : List String}

/-- **An input that is good for both parts**: of two that bring in a file under one part each, one does so
under the whole scope. -/
theorem BringsIn.both (h : s.Joins t whole) (hp : BringsIn tree dir s p f)
    (hq : BringsIn tree dir t q f) : BringsIn tree dir whole p f ∨ BringsIn tree dir whole q f := by
  -- an input that is the file itself asks no scope
  rcases hp with hp | ⟨hdir, hp⟩
  · exact Or.inl (Or.inl hp)
  rcases hq with hq | ⟨hdir', hq⟩
  · exact Or.inr (Or.inl hq)
  rcases hp.both hq h.prunes with hwhole | hwhole
  · exact Or.inl (Or.inr ⟨hdir, hwhole⟩)
  · exact Or.inr (Or.inr ⟨hdir', hwhole⟩)

theorem BringsIn.of_stricter (h : whole.Stricter s) (hp : BringsIn tree dir whole p f) :
    BringsIn tree dir s p f :=
  hp.imp_right fun ⟨hdir, hreached⟩ => ⟨hdir, hreached.of_imp h.prunes⟩

theorem mem_files_of_stricter (hw : tree.wellFormed = true) (h : whole.Stricter s)
    (hf : f ∈ files tree dir whole inputs includes) : f ∈ files tree dir s inputs includes := by
  rw [mem_files_iff hw] at hf ⊢
  obtain ⟨hi, hex, p, hp, hin⟩ := hf
  refine ⟨hi, Bool.eq_false_iff.2 fun hs => ?_, p, hp, hin.of_stricter h⟩
  rw [h.excludes f hs] at hex
  cases hex

/-- **What a scope finds is what its parts find.** -/
theorem files_eq_inter (hw : tree.wellFormed = true) (h : s.Joins t whole) :
    files tree dir whole inputs includes =
      files tree dir s inputs includes ∩ files tree dir t inputs includes := by
  have hsorted : (files tree dir s inputs includes ∩ files tree dir t inputs includes).Pairwise
      fun p q => p.names < q.names :=
    (pairwise_files hw).filter _
  refine eq_of_pairwise_names (pairwise_files hw) hsorted fun f => ?_
  rw [List.mem_inter_iff]
  constructor
  · intro hf
    exact ⟨mem_files_of_stricter hw h.stricter_left hf, mem_files_of_stricter hw h.stricter_right hf⟩
  · rintro ⟨hs, ht⟩
    rw [mem_files_iff hw] at hs ht ⊢
    obtain ⟨hi, hexs, p, hp, hin⟩ := hs
    obtain ⟨-, hext, q, hq, hin'⟩ := ht
    refine ⟨hi, by rw [h.excludes, hexs, hext, Bool.or_false], ?_⟩
    rcases hin.both h hin' with hwhole | hwhole
    · exact ⟨p, hp, hwhole⟩
    · exact ⟨q, hq, hwhole⟩

theorem discover_of_joins (hw : tree.wellFormed = true) (h : s.Joins t whole) :
    discover tree dir whole inputs patterns = do
      return (← discover tree dir s inputs patterns) ∩ (← discover tree dir t inputs patterns) := by
  cases hi : includesOf patterns with
  | error e =>
    rw [discover, discover, hi]
    rfl
  | ok includes =>
    rw [discover_eq hi, discover_eq hi, discover_eq hi, files_eq_inter hw h]
    rfl

/-- A stricter scope lists no other files. -/
theorem Lists.of_stricter (hw : tree.wellFormed = true) (h : whole.Stricter s)
    (hf : Lists tree dir whole inputs patterns f) : Lists tree dir s inputs patterns f := by
  obtain ⟨found, hfound, hf⟩ := hf
  cases hi : includesOf patterns with
  | error e =>
    rw [discover, hi] at hfound
    cases hfound
  | ok includes =>
    rw [discover_eq hi] at hfound
    obtain rfl := Except.ok.inj hfound
    exact ⟨_, discover_eq hi, mem_files_of_stricter hw h hf⟩

/-- **The sources of a scope are independent vetoes.** The files that are found with the patterns of two
lists and an ignore file are those found with the first list and the ignore file that are also found with
the second list alone, and the files found with a list and an ignore file are those found with each of them
alone. So more patterns never bring in a file, and neither does an ignore file, whatever rules it negates,
or one more rule in it that is not negated. (One that is negated may bring back what the rules of its own
file take out.) -/
theorem discover_eq_inter (hw : tree.wellFormed = true) :
    (∀ raw raw', Scope.exclusionsOf (raw ++ raw') = do
      return (← Scope.exclusionsOf raw) ++ (← Scope.exclusionsOf raw')) ∧
    (∀ ps qs i deps, discover tree dir ⟨ps ++ qs, i, deps⟩ inputs patterns = do
      return (← discover tree dir ⟨ps, i, deps⟩ inputs patterns) ∩
        (← discover tree dir ⟨qs, none, deps⟩ inputs patterns)) ∧
    (∀ ps i deps, discover tree dir ⟨ps, i, deps⟩ inputs patterns = do
      return (← discover tree dir ⟨ps, none, deps⟩ inputs patterns) ∩
        (← discover tree dir ⟨[], i, deps⟩ inputs patterns)) ∧
    (∀ ps qs i deps f, ps ⊆ qs → Lists tree dir ⟨qs, i, deps⟩ inputs patterns f →
      Lists tree dir ⟨ps, i, deps⟩ inputs patterns f) ∧
    (∀ ps i deps f, Lists tree dir ⟨ps, i, deps⟩ inputs patterns f →
      Lists tree dir ⟨ps, none, deps⟩ inputs patterns f) ∧
    ∀ ps root rs r rs' deps f, r.negated = false →
      Lists tree dir ⟨ps, some ⟨root, rs ++ r :: rs'⟩, deps⟩ inputs patterns f →
      Lists tree dir ⟨ps, some ⟨root, rs ++ rs'⟩, deps⟩ inputs patterns f := by
  refine ⟨Scope.exclusionsOf_append, fun ps qs i deps => ?_, fun ps i deps => ?_, ?_, ?_, ?_⟩
  · exact discover_of_joins hw Scope.joins_append
  · exact discover_of_joins hw Scope.joins_sources
  · exact fun ps qs i deps f hsubset => Lists.of_stricter hw (Scope.stricter_of_subset hsubset)
  · exact fun ps i deps f => Lists.of_stricter hw Scope.stricter_of_ignoreFile
  · exact fun ps root rs r rs' deps f hr => Lists.of_stricter hw (Scope.stricter_of_rule hr)

/-- The name `build`, which excludes what lies in a directory of that name and the directory itself. -/
def buildName : Exclusion :=
  ⟨"build", .name "build",
    some ⟨"build", [.char 'b', .char 'u', .char 'i', .char 'l', .char 'd']⟩⟩

/-- The rule `*.py`. -/
def everySource : IgnoreRule :=
  ⟨sources, false, false, false⟩

/-- The rule `!a.py`. -/
def keptSource : IgnoreRule :=
  ⟨⟨"a.py", [.char 'a', .char '.', .char 'p', .char 'y']⟩, true, false, false⟩

/-- The source file is listed behind both rules. -/
theorem lists_keptSource : Lists checkout Path.root ⟨[], some ⟨"/r", [everySource, keptSource]⟩, true⟩
    [.ofNames ["r", "a.py"]] ["*.py"] (.ofNames ["r", "a.py"]) := by
  have hw : checkout.wellFormed = true := by decide
  have hi : includesOf ["*.py"] = .ok [sources] := rfl
  refine (lists_iff hw).2 ⟨⟨_, hi, included_iff.2 (by decide)⟩, by decide, _, List.mem_singleton.2 rfl, ?_⟩
  exact Or.inl ⟨by decide, by decide⟩

/-- In a checkout named by its directory and by a directory in it, two patterns find what each of them
finds. A file that is listed behind a rule that is not negated is listed without it. -/
theorem discover_eq_inter_checkout :
    checkout.wellFormed = true ∧
      Scope.exclusionsOf ["docs/*"] = .ok [docs] ∧ Scope.exclusionsOf ["build"] = .ok [buildName] ∧
      (∃ found found',
        discover checkout Path.root ⟨[docs], none, true⟩ [.ofNames ["r"], .ofNames ["r", "build"]]
          ["*.py"] = .ok found ∧
        discover checkout Path.root ⟨[buildName], none, true⟩
          [.ofNames ["r"], .ofNames ["r", "build"]] ["*.py"] = .ok found' ∧
        discover checkout Path.root ⟨[docs, buildName], none, true⟩
          [.ofNames ["r"], .ofNames ["r", "build"]] ["*.py"] = .ok (found ∩ found')) ∧
      everySource.negated = false ∧
      Lists checkout Path.root ⟨[], some ⟨"/r", [everySource, keptSource]⟩, true⟩
        [.ofNames ["r", "a.py"]] ["*.py"] (.ofNames ["r", "a.py"]) ∧
      Lists checkout Path.root ⟨[], some ⟨"/r", [keptSource]⟩, true⟩
        [.ofNames ["r", "a.py"]] ["*.py"] (.ofNames ["r", "a.py"]) := by
  have hw : checkout.wellFormed = true := by decide
  have hi : includesOf ["*.py"] = .ok [sources] := rfl
  obtain ⟨-, happend, -⟩ := @discover_eq_inter checkout Path.root
    [.ofNames ["r"], .ofNames ["r", "build"]] ["*.py"] hw
  have hboth := happend [docs] [buildName] none true
  rw [discover_eq hi, discover_eq hi] at hboth
  obtain ⟨-, -, -, -, -, hrule⟩ := @discover_eq_inter checkout Path.root
    [.ofNames ["r", "a.py"]] ["*.py"] hw
  exact ⟨hw, rfl, rfl, ⟨_, _, discover_eq hi, discover_eq hi, hboth⟩, rfl, lists_keptSource,
    hrule [] "/r" [] everySource [keptSource] true _ rfl lists_keptSource⟩

/-- **A negated rule brings files back** that another rule of the ignore file takes out: with the line `!a.py`
behind the line `*.py` a file is listed that the line `*.py` alone leaves out. So not every rule that is added
leaves the files among those there were. -/
theorem negated_rule_lists_more :
    checkout.wellFormed = true ∧
      ¬ Lists checkout Path.root ⟨[], some (.ofText (.ofNames ["r"]) "*.py\n"), true⟩
        [.ofNames ["r", "a.py"]] ["*.py"] (.ofNames ["r", "a.py"]) ∧
      Lists checkout Path.root ⟨[], some (.ofText (.ofNames ["r"]) "*.py\n!a.py\n"), true⟩
        [.ofNames ["r", "a.py"]] ["*.py"] (.ofNames ["r", "a.py"]) := by
  have hw : checkout.wellFormed = true := by decide
  have hone : IgnoreFile.ofText (.ofNames ["r"]) "*.py\n" = ⟨"/r", [everySource]⟩ := rfl
  have htwo : IgnoreFile.ofText (.ofNames ["r"]) "*.py\n!a.py\n" = ⟨"/r", [everySource, keptSource]⟩ :=
    rfl
  rw [hone, htwo]
  refine ⟨hw, fun hlisted => ?_, lists_keptSource⟩
  obtain ⟨-, hkept, -⟩ := (lists_iff hw).1 hlisted
  exact absurd hkept (by decide)

end Discovery

end Multilint
