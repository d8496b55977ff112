import Multilint.Proofs.FileTree.WellFormed
/-!
# What a walk lists

A walk is a recursion over entries, and what it lists is a matter of paths: `mem_walk_iff` says that a
path is listed exactly if it is `Reached`, that is, leads to a file at or below the start with nothing
but directories between that are not links and are not passed over. In between stands `Listed`, the
walk as a relation over the tree.
-/

namespace Multilint

namespace FileTree

variable {root t : FileTree} {es : List (String × FileTree)} {n : String}

/-! ## The walk as a relation -/

section Listed

variable {prune isFile : List String → Bool} {names f : List String}

/-- **What a walk lists** of a node at given names: a file, a link to a file, and what it lists of the
entries of a directory that it does not pass over. -/
inductive Listed (prune isFile : List String → Bool) :
    List String → FileTree → List String → Prop
  /-- A file is listed. -/
  | file {here : List String} {content : ByteArray} {executable : Bool} :
      Listed prune isFile here (.file content executable) here
  /-- A link is listed if it leads to a file. -/
  | link {here : List String} {target : String} :
      isFile here = true → Listed prune isFile here (.link target) here
  /-- What is listed of an entry is listed of the directory. -/
  | entry {here g : List String} {entries : List (String × FileTree)} {n : String} {u : FileTree} :
      (n, u) ∈ entries → (u.isDirNode && prune (here ++ [n])) = false →
      Listed prune isFile (here ++ [n]) u g → Listed prune isFile here (.dir entries) g

theorem listed_dir_iff : Listed prune isFile names (.dir es) f ↔
    ∃ n t, (n, t) ∈ es ∧ (t.isDirNode && prune (names ++ [n])) = false ∧
      Listed prune isFile (names ++ [n]) t f := by
  constructor
  · rintro (_ | _ | ⟨hmem, hprune, h⟩)
    exact ⟨_, _, hmem, hprune, h⟩
  · rintro ⟨n, t, hmem, hprune, h⟩
    exact .entry hmem hprune h

mutual

/-- **A walk of a node lists what is listed of it.** -/
theorem mem_walkNode_iff :
    ∀ {names : List String} {t : FileTree},
      f ∈ walkNode prune isFile names t ↔ Listed prune isFile names t f
  | names, .file c x => by
    rw [walkNode, List.mem_singleton]
    constructor
    · rintro rfl
      exact .file
    · rintro ⟨⟩
      rfl
  | names, .dir es => by
    rw [walkNode, mem_walkEntries_iff, listed_dir_iff]
  | names, .link target => by
    rw [walkNode]
    constructor
    · intro h
      split at h
      · rename_i hfile
        obtain rfl : f = names := by simpa using h
        exact .link hfile
      · cases h
    · rintro (_ | hfile)
      simp [hfile]

/-- The same of the entries of a directory. -/
theorem mem_walkEntries_iff :
    ∀ {names : List String} {es : List (String × FileTree)},
      f ∈ walkEntries prune isFile names es ↔
        ∃ n t, (n, t) ∈ es ∧ (t.isDirNode && prune (names ++ [n])) = false ∧
          Listed prune isFile (names ++ [n]) t f
  | names, [] => by simp [walkEntries]
  | names, (m, u) :: es => by
    rw [walkEntries, List.mem_append, mem_walkEntries_iff]
    constructor
    · rintro (h | ⟨n, t, hmem, hprune, h⟩)
      · split at h
        · cases h
        · rename_i hprune
          exact ⟨m, u, by simp, by simpa using hprune, mem_walkNode_iff.1 h⟩
      · exact ⟨n, t, by simp [hmem], hprune, h⟩
    · rintro ⟨n, t, hmem, hprune, h⟩
      rcases List.mem_cons.1 hmem with heq | hmem
      · obtain ⟨rfl, rfl⟩ := Prod.mk.inj heq
        refine Or.inl ?_
        rw [if_neg (by simp [hprune])]
        exact mem_walkNode_iff.2 h
      · exact Or.inr ⟨n, t, hmem, hprune, h⟩

end

/-- Only of a directory is something listed that stands elsewhere. -/
theorem Listed.isDirNode (h : Listed prune isFile names t f) (hne : f ≠ names) :
    t.isDirNode = true := by
  cases h with
  | file => exact absurd rfl hne
  | link _ => exact absurd rfl hne
  | entry _ _ _ => rfl

end Listed

/-! ## The walk as a matter of paths -/

/-- **A file that a walk reaches**: a normal path that leads to a file and is the start or below it,
where each path between names a directory itself, not a link, and is not passed over. -/
structure Reached (root : FileTree) (prune : Path → Bool) (start f : Path) : Prop where
  /-- The path is normal. -/
  normal : f.Normal
  /-- It leads to a file. -/
  isFile : root.isFile Path.root f = true
  /-- It is the start or lies below it. -/
  below : f = start ∨ start.Above f
  /-- A path between the two is a directory that the walk goes into. -/
  between : ∀ d, start.Above d → d.Above f →
    root.isRealDir Path.root d = true ∧ prune d = false

section Reached

variable {prune : Path → Bool} {start p f : Path} {ns : List String}

/-- What is reached from an entry that the walk goes into is reached from the directory. -/
theorem Reached.of_child (h : Reached root prune (p.child n) f)
    (hdir : (p.child n).Above f →
      root.isRealDir Path.root (p.child n) = true ∧ prune (p.child n) = false) :
    Reached root prune p f := by
  have habove : p.Above f := h.below.elim (fun h => h ▸ p.above_child n) (p.above_child n).trans
  refine ⟨h.normal, h.isFile, Or.inr habove, fun d hpd hdf => ?_⟩
  rcases h.below with rfl | hnf
  · exact absurd hdf (Path.not_above_child hpd)
  · obtain ⟨m, ms, rfl⟩ := Path.above_iff.1 hnf
    simp only [Path.child_segments, List.append_assoc, List.singleton_append] at hdf
    rcases Path.above_and_above_iff.1 ⟨hpd, hdf⟩ with rfl | ⟨hnd, hdf⟩
    · exact hdir hnf
    · exact h.between d hnd hdf

/-- What is reached below an entry is reached from it. -/
theorem Reached.to_child {m : String} {ms : List String}
    (h : Reached root prune p ⟨p.rooted, p.segments ++ n :: m :: ms⟩) :
    root.isRealDir Path.root (p.child n) = true ∧ prune (p.child n) = false ∧
      Reached root prune (p.child n) ⟨p.rooted, p.segments ++ n :: m :: ms⟩ := by
  have hbelow : (p.child n).Above ⟨p.rooted, p.segments ++ n :: m :: ms⟩ :=
    Path.above_iff.2 ⟨m, ms, by simp [Path.child]⟩
  obtain ⟨hdir, hprune⟩ := h.between _ (p.above_child n) hbelow
  exact ⟨hdir, hprune, h.normal, h.isFile, Or.inr hbelow, fun d hd hdf =>
    h.between d ((p.above_child n).trans hd) hdf⟩

/-- **What is listed below a path is reached from it.** The induction is on the listing; a node that is
not a link stands where its path leads. -/
theorem Listed.reached {names g : List String}
    (h : Listed (fun ns => prune (Path.ofNames ns))
      (fun ns => root.isFile Path.root (Path.ofNames ns)) names t g) :
    (Path.ofNames names).Normal → t.wellFormed = true →
    ((∀ target, t ≠ .link target) → ∃ ns, root.resolve Path.root (Path.ofNames names) = .ok ⟨ns, t⟩) →
    Reached root prune (Path.ofNames names) (Path.ofNames g) := by
  induction h with
  | @file names content x =>
    intro hn _ hres
    obtain ⟨ns, hns⟩ := hres (by simp)
    exact ⟨hn, isFile_iff.2 ⟨ns, content, x, hns⟩, Or.inl rfl,
      fun d hd hd' => absurd (hd.trans hd') Path.above_irrefl⟩
  | link hfile =>
    intro hn _ _
    exact ⟨hn, hfile, Or.inl rfl, fun d hd hd' => absurd (hd.trans hd') Path.above_irrefl⟩
  | @entry names g es n u hmem hprune hlisted ih =>
    intro hn hw hres
    rw [wellFormed] at hw
    obtain ⟨hname, hwu, hentry⟩ := entry?_of_mem hw hmem
    obtain ⟨ns, hns⟩ := hres (by simp)
    have hchild : Path.ofNames (names ++ [n]) = (Path.ofNames names).child n := rfl
    have hreached := ih (hchild ▸ hn.child hname) hwu fun hlink =>
      ⟨_, resolveWith_child_of_some rfl hns hname hentry (Or.inr hlink)⟩
    rw [hchild] at hreached
    refine hreached.of_child fun habove => ?_
    have hdir : u.isDirNode = true := hlisted.isDirNode fun heq => by
      rw [heq, hchild] at habove
      exact Path.above_irrefl habove
    rw [hdir, Bool.true_and] at hprune
    refine ⟨?_, hprune⟩
    cases u with
    | dir es' =>
      have hres' := resolveWith_child_of_some rfl hns hname hentry (Or.inl rfl)
      exact isRealDir_iff.2 ⟨_, _, hres'⟩
    | file c x => cases hdir
    | link target => cases hdir

/-- **What is reached below a directory is listed of it.** The induction is on the names between. -/
theorem Reached.listed {n : String} {rest : List String}
    (h : Reached root prune p ⟨p.rooted, p.segments ++ n :: rest⟩) (hp : p.rooted = true)
    (hres : root.resolve Path.root p = .ok ⟨ns, .dir es⟩) :
    Listed (fun ns => prune (Path.ofNames ns)) (fun ns => root.isFile Path.root (Path.ofNames ns))
      p.segments (.dir es) (p.segments ++ n :: rest) := by
  have hname : Path.IsName n := h.normal.isName n (by simp)
  have hchild : ∀ q : Path, q.rooted = true → Path.ofNames (q.segments ++ [n]) = q.child n :=
    fun q hq => by rw [Path.child, hq]; rfl
  induction rest generalizing p n ns es with
  | nil =>
    obtain ⟨fs, c, x, hfile⟩ := isFile_iff.1 h.isFile
    change root.resolve Path.root (p.child n) = _ at hfile
    cases hentry : entry? (.dir es) n with
    | none =>
      rw [resolve, resolveWith_child_of_none hp hres hname hentry] at hfile
      cases hfile
    | some t =>
      cases t with
      | file c x => exact .entry (mem_of_entry?_eq_some hentry) rfl .file
      | dir es' =>
        rw [resolve, resolveWith_child_of_some hp hres hname hentry (Or.inr (by simp))] at hfile
        cases hfile
      | link target =>
        refine .entry (mem_of_entry?_eq_some hentry) rfl (.link ?_)
        rw [hchild p hp]
        exact h.isFile
  | cons m ms ih =>
    obtain ⟨hdir, hprune, hreached⟩ := h.to_child
    obtain ⟨fs, es', hentry'⟩ := isRealDir_iff.1 hdir
    cases hentry : entry? (.dir es) n with
    | none =>
      rw [resolveEntry, resolveWith_child_of_none hp hres hname hentry] at hentry'
      cases hentry'
    | some t =>
      rw [resolveEntry, resolveWith_child_of_some hp hres hname hentry (Or.inl rfl)] at hentry'
      cases hentry'
      -- the entry is a directory itself, so following links leads to the same place
      have hres' := resolveWith_child_of_some hp hres hname hentry (Or.inr (by simp) : true = false ∨ _)
      have hlisted := ih (p := p.child n) (n := m) (by simpa using hreached) hp hres'
        (h.normal.isName m (by simp)) (fun q hq => by rw [Path.child, hq]; rfl)
      refine .entry (mem_of_entry?_eq_some hentry) ?_ (by simpa using hlisted)
      rw [hchild p hp, hprune, Bool.and_false]

/-- **A walk starts where its start leads**, links included. -/
theorem walk_eq (root : FileTree) (prune : Path → Bool) (start : Path) :
    root.walk prune start =
      match root.resolve Path.root start with
      | .ok ⟨_, .dir es⟩ => (walkNode (fun ns => prune (Path.ofNames ns))
          (fun ns => root.isFile Path.root (Path.ofNames ns)) start.names (.dir es)).map Path.ofNames
      | .ok ⟨_, .file _ _⟩ => [Path.ofNames start.names]
      | _ => [] := by
  simp only [walk]
  rcases resolveEntry_or root Path.root start with ⟨ns, target, h⟩ | h
  · rw [h]
    cases hres : root.resolve Path.root start with
    | error e => rfl
    | ok found =>
      obtain ⟨ns, t⟩ := found
      cases t <;> simp only [walkNode, List.map_cons, List.map_nil]
  · rw [h]
    cases hres : root.resolve Path.root start with
    | error e => rfl
    | ok found =>
      obtain ⟨ns, t⟩ := found
      cases t with
      | file c x => simp [walkNode]
      | dir es => rfl
      | link target => rfl

/-- Where the start does not lead to a directory, at most the start itself is reached. -/
theorem reached_iff_of_not_dir (hs : start.Normal)
    (h : ∀ ns es, root.resolve Path.root start ≠ .ok ⟨ns, .dir es⟩) :
    Reached root prune start f ↔ f = start ∧ root.isFile Path.root start = true := by
  constructor
  · intro hr
    rcases hr.below with rfl | habove
    · exact ⟨rfl, hr.isFile⟩
    · obtain ⟨n, rest, rfl⟩ := Path.above_iff.1 habove
      obtain ⟨e, he⟩ := resolveWith_below_of_not_dir hs.rooted h true n rest
      obtain ⟨ns, c, x, hfile⟩ := isFile_iff.1 hr.isFile
      rw [resolve, hs.rooted, he] at hfile
      cases hfile
  · rintro ⟨rfl, hfile⟩
    exact ⟨hs, hfile, Or.inl rfl, fun d hd hd' => absurd (hd.trans hd') Path.above_irrefl⟩

/-- **A walk lists what it reaches**, in a well-formed tree. -/
theorem mem_walk_iff (hw : root.wellFormed = true) (hs : start.Normal) :
    f ∈ root.walk prune start ↔ Reached root prune start f := by
  rw [walk_eq]
  split
  · rename_i ns es hres
    have hat := at?_of_resolveWith hres
    rw [List.mem_map]
    constructor
    · rintro ⟨g, hg, rfl⟩
      rw [mem_walkNode_iff, Path.names_of_normal hs] at hg
      have hreached := hg.reached (by rwa [Path.ofNames_segments hs]) (wellFormed_of_at? hw hat)
        fun _ => ⟨ns, by rwa [Path.ofNames_segments hs]⟩
      rwa [Path.ofNames_segments hs] at hreached
    · intro hr
      refine ⟨f.segments, ?_, Path.ofNames_segments hr.normal⟩
      rw [mem_walkNode_iff, Path.names_of_normal hs]
      rcases hr.below with rfl | habove
      · obtain ⟨fs, c, x, hfile⟩ := isFile_iff.1 hr.isFile
        rw [hres] at hfile
        cases hfile
      · obtain ⟨n, rest, rfl⟩ := Path.above_iff.1 habove
        exact hr.listed hs.rooted hres
  · rename_i ns c x hres
    have hdir : ∀ ns es, root.resolve Path.root start ≠ .ok ⟨ns, .dir es⟩ := by simp [hres]
    rw [reached_iff_of_not_dir hs hdir, List.mem_singleton, Path.ofNames_names hs]
    exact ⟨fun h => ⟨h, isFile_iff.2 ⟨ns, c, x, hres⟩⟩, fun h => h.1⟩
  · rename_i hdir hfile
    rw [reached_iff_of_not_dir hs fun ns es h => hdir ns es h]
    refine ⟨fun h => absurd h List.not_mem_nil, fun h => ?_⟩
    obtain ⟨ns, c, x, hres⟩ := isFile_iff.1 h.2
    exact absurd hres (hfile ns c x)

end Reached

end FileTree

end Multilint
