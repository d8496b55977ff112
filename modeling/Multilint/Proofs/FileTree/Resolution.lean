import Multilint.FileTree
import Multilint.Proofs.Path.Normal
/-!
# Following paths

`follow_cons_cases` says what following does with one segment. By induction, what a path leads to can be
found in pieces: `followLinks_append` follows the first segments, links included, and goes on from where
they led. From this come the two steps a walk is compared with: what
the path of an entry leads to (`resolveWith_child`), and that only a link in the last place tells
`resolveEntry` and `resolve` apart (`resolveEntry_or`).
-/

namespace Multilint

namespace FileTree

variable {root t : FileTree} {dir p : Path}

/-! ## Nodes at names -/

@[simp] theorem at?_nil : t.at? [] = some t := by
  rw [at?]

theorem at?_cons (n : String) (ns : List String) :
    t.at? (n :: ns) = (t.entry? n).bind (·.at? ns) := by
  rw [at?]

theorem at?_append (ns ms : List String) : t.at? (ns ++ ms) = (t.at? ns).bind (·.at? ms) := by
  induction ns generalizing t with
  | nil => simp
  | cons n ns ih =>
    rw [List.cons_append, at?_cons, at?_cons]
    cases t.entry? n with
    | none => rfl
    | some u => exact ih

theorem at?_concat {ns : List String} (h : root.at? ns = some t) (n : String) :
    root.at? (ns ++ [n]) = t.entry? n := by
  rw [at?_append, h, Option.bind_some, at?_cons]
  cases t.entry? n <;> simp

/-! ## Following -/

section Following

variable {last : Bool} {links : ℕ} {here segments : List String}

theorem followLinks_succ : followLinks root last (links + 1) here segments =
    follow root last (followLinks root last links) here segments := by
  rw [followLinks]

/-- **What following does with a segment**, whatever comes behind it: it ends there, it goes on from
another place, or it meets a link. A link in the last place may be what is found; otherwise it leads
nowhere, or to segments that come before the rest. -/
theorem follow_cons_cases (root : FileTree) (here : List String) (s : String) :
    (∃ e, ∀ last jump rest, follow root last jump here (s :: rest) = .error e) ∨
    (∃ here', ∀ last jump rest,
      follow root last jump here (s :: rest) = follow root last jump here' rest) ∨
    ∃ target, root.at? (here ++ [s]) = some (.link target) ∧
      (∀ jump, follow root false jump here [s] = .ok ⟨here ++ [s], .link target⟩) ∧
      ((∀ last jump rest, last = true ∨ rest ≠ [] →
          follow root last jump here (s :: rest) = .error .missing) ∨
        ∃ there before, ∀ last jump rest, last = true ∨ rest ≠ [] →
          follow root last jump here (s :: rest) = jump there (before ++ rest)) := by
  simp only [follow]
  cases hat : root.at? here with
  | none => exact Or.inl ⟨.missing, fun _ _ _ => rfl⟩
  | some t =>
    by_cases hdir : t.isDirNode = true
    swap
    · exact Or.inl ⟨.notDirectory, fun _ _ _ => by simp [hdir]⟩
    simp only [hdir, Bool.not_true, Bool.false_eq_true, if_false]
    by_cases hhere : (decide (s = "") || decide (s = ".")) = true
    · exact Or.inr (Or.inl ⟨here, fun _ _ _ => by simp only [hhere, if_true]⟩)
    by_cases hup : s = ".."
    · exact Or.inr (Or.inl ⟨here.dropLast, fun _ _ _ => by simp [hup]⟩)
    simp only [hhere, hup, Bool.false_eq_true, if_false]
    cases hentry : t.entry? s with
    | none => exact Or.inl ⟨.missing, fun _ _ _ => rfl⟩
    | some u =>
      cases u with
      | file c x => exact Or.inr (Or.inl ⟨here ++ [s], fun _ _ _ => rfl⟩)
      | dir es => exact Or.inr (Or.inl ⟨here ++ [s], fun _ _ _ => rfl⟩)
      | link target =>
        have hmid : ∀ (last : Bool) (rest : List String), last = true ∨ rest ≠ [] →
            (rest.isEmpty && !last) = false := by
          rintro last rest (rfl | hrest)
          · simp
          · simp [hrest]
        refine Or.inr (Or.inr ⟨target, by rw [at?_concat hat, hentry], fun _ => rfl, ?_⟩)
        by_cases htarget : target = ""
        · exact Or.inl fun last jump rest h => by simp [hmid last rest h, htarget]
        · exact Or.inr ⟨if (Path.ofString target).rooted then [] else here,
            (Path.ofString target).segments, fun last jump rest h => by
              simp [hmid last rest h, htarget]⟩

/-- **Where a path leads stands at its names.** -/
theorem at?_of_followLinks {found : Found} :
    followLinks root last links here segments = .ok found →
      root.at? found.names = some found.node := by
  induction links generalizing here segments with
  | zero =>
    intro h
    simp [followLinks] at h
  | succ links ih =>
    rw [followLinks_succ]
    induction segments generalizing here with
    | nil =>
      intro h
      rw [follow] at h
      split at h
      · rename_i hat
        cases h
        exact hat
      · cases h
    | cons s rest ihs =>
      rcases follow_cons_cases root here s with ⟨e, h⟩ | ⟨here', h⟩ | ⟨target, hat, hlast, hmid⟩
      · simp [h]
      · rw [h]
        exact ihs
      · by_cases hend : last = true ∨ rest ≠ []
        · rcases hmid with h | ⟨there, before, h⟩
          · simp [h last _ rest hend]
          · rw [h last _ rest hend]
            exact ih
        · obtain ⟨rfl, rfl⟩ : last = false ∧ rest = [] := by simpa using hend
          rw [hlast]
          rintro ⟨⟩
          exact hat

/-- **A path is followed in pieces.** The first segments lead somewhere and the others go on from
there, with what is left of the links; or the first ones lead nowhere, and so does the whole. -/
theorem followLinks_append (root : FileTree) (links : ℕ) (here segments : List String) :
    (∃ found left, followLinks root true links here segments = .ok found ∧
      ∀ last rest, rest ≠ [] → followLinks root last links here (segments ++ rest) =
        followLinks root last (left + 1) found.names rest) ∨
    ∃ e, followLinks root true links here segments = .error e ∧
      ∀ last rest, rest ≠ [] → followLinks root last links here (segments ++ rest) = .error e := by
  induction links generalizing here segments with
  | zero => exact Or.inr ⟨.linkLoop, rfl, fun _ _ _ => rfl⟩
  | succ links ih =>
    simp only [followLinks_succ]
    induction segments generalizing here with
    | nil =>
      cases hat : root.at? here with
      | none =>
        refine Or.inr ⟨.missing, by simp [follow, hat], fun last rest hrest => ?_⟩
        cases rest with
        | nil => exact absurd rfl hrest
        | cons r rs => simp [follow, hat]
      | some t => exact Or.inl ⟨⟨here, t⟩, links, by simp [follow, hat], fun last rest _ => by simp⟩
    | cons s segments ihs =>
      -- behind the first segments there is more, so a link among them is always followed
      have hmore : ∀ (last : Bool) (rest : List String), rest ≠ [] →
          last = true ∨ segments ++ rest ≠ [] :=
        fun last rest hrest => Or.inr (by simp [hrest])
      simp only [List.cons_append]
      rcases follow_cons_cases root here s with ⟨e, h⟩ | ⟨here', h⟩ | ⟨-, -, -, h | ⟨there, before, h⟩⟩
      · exact Or.inr ⟨e, h _ _ _, fun last rest _ => h _ _ _⟩
      · simp only [h]
        exact ihs here'
      · exact Or.inr ⟨.missing, h _ _ _ (Or.inl rfl),
          fun last rest hrest => h _ _ _ (hmore last rest hrest)⟩
      · rw [h _ _ _ (Or.inl rfl)]
        rcases ih there (before ++ segments) with ⟨found, left, hf, hrest⟩ | ⟨e, he, hrest⟩
        · refine Or.inl ⟨found, left, hf, fun last rest hne => ?_⟩
          rw [h _ _ _ (hmore last rest hne), ← List.append_assoc, hrest last rest hne,
            followLinks_succ]
        · refine Or.inr ⟨e, he, fun last rest hne => ?_⟩
          rw [h _ _ _ (hmore last rest hne), ← List.append_assoc, hrest last rest hne]

/-- **Only a link in the last place** makes it matter whether that link is followed. -/
theorem followLinks_entry_or (root : FileTree) (links : ℕ) (here segments : List String) :
    (∃ ns target, followLinks root false links here segments = .ok ⟨ns, .link target⟩) ∨
      followLinks root false links here segments = followLinks root true links here segments := by
  induction links generalizing here segments with
  | zero => exact Or.inr rfl
  | succ links ih =>
    simp only [followLinks_succ]
    induction segments generalizing here with
    | nil => exact Or.inr (by simp only [follow])
    | cons s segments ihs =>
      rcases follow_cons_cases root here s with ⟨e, h⟩ | ⟨here', h⟩ | ⟨target, -, hlast, hmid⟩
      · exact Or.inr (by rw [h, h])
      · simp only [h]
        exact ihs here'
      · cases segments with
        | nil => exact Or.inl ⟨here ++ [s], target, hlast _⟩
        | cons r rs =>
          have hne : r :: rs ≠ [] := List.cons_ne_nil r rs
          rcases hmid with h | ⟨there, before, h⟩
          · exact Or.inr (by rw [h _ _ _ (Or.inr hne), h _ _ _ (Or.inr hne)])
          · rw [h _ _ _ (Or.inr hne), h _ _ _ (Or.inr hne)]
            exact ih there (before ++ r :: rs)

end Following

/-! ## Paths from the root -/

variable {last : Bool} {ns : List String} {es : List (String × FileTree)} {n : String}

theorem isFile_iff :
    root.isFile dir p = true ↔ ∃ ns content x, root.resolve dir p = .ok ⟨ns, .file content x⟩ := by
  rw [isFile]
  split
  · rename_i h
    simp [h]
  · rename_i h
    simp only [Bool.false_eq_true, false_iff, not_exists]
    exact fun ns content x h' => h ns content x h'

theorem isDir_iff :
    root.isDir dir p = true ↔ ∃ ns es, root.resolve dir p = .ok ⟨ns, .dir es⟩ := by
  rw [isDir]
  split
  · rename_i h
    simp [h]
  · rename_i h
    simp only [Bool.false_eq_true, false_iff, not_exists]
    exact fun ns es h' => h ns es h'

/-- Whether a path names a directory, and not a link to one. -/
def isRealDir (root : FileTree) (dir p : Path) : Bool :=
  match root.resolveEntry dir p with
  | .ok ⟨_, .dir _⟩ => true
  | _ => false

theorem isRealDir_iff :
    root.isRealDir dir p = true ↔ ∃ ns es, root.resolveEntry dir p = .ok ⟨ns, .dir es⟩ := by
  rw [isRealDir]
  split
  · rename_i h
    simp [h]
  · rename_i h
    simp only [Bool.false_eq_true, false_iff, not_exists]
    exact fun ns es h' => h ns es h'

theorem resolveWith_of_rooted (h : p.rooted = true) :
    root.resolveWith last dir p = followLinks root last (linkLimit + 1) [] p.segments := by
  simp [resolveWith, h]

theorem at?_of_resolveWith {found : Found} (h : root.resolveWith last dir p = .ok found) :
    root.at? found.names = some found.node := by
  rw [resolveWith] at h
  split at h
  · cases h
  · exact at?_of_followLinks h

/-- A path leads where its entry is, unless that is a link. -/
theorem resolveEntry_or (root : FileTree) (dir p : Path) :
    (∃ ns target, root.resolveEntry dir p = .ok ⟨ns, .link target⟩) ∨
      root.resolveEntry dir p = root.resolve dir p := by
  rw [resolveEntry, resolve, resolveWith, resolveWith]
  split
  · exact Or.inr rfl
  · exact followLinks_entry_or root _ _ _

/-- **Below a directory** a path goes on from where the directory is. -/
theorem resolveWith_below (hr : p.rooted = true) (h : root.resolve dir p = .ok ⟨ns, .dir es⟩)
    (last : Bool) : ∃ left, ∀ n rest, root.resolveWith last dir ⟨true, p.segments ++ n :: rest⟩ =
      follow root last (followLinks root last left) ns (n :: rest) := by
  rw [resolve, resolveWith_of_rooted hr] at h
  rcases followLinks_append root (linkLimit + 1) [] p.segments with ⟨found, left, hf, hrest⟩ | ⟨e, he, -⟩
  · obtain rfl : found = ⟨ns, .dir es⟩ := by
      rw [hf] at h
      exact Except.ok.inj h
    refine ⟨left, fun n rest => ?_⟩
    rw [resolveWith_of_rooted rfl, hrest last _ (by simp), followLinks_succ]
  · rw [he] at h
    cases h

/-- **Below anything else** there is nothing. -/
theorem resolveWith_below_of_not_dir (hr : p.rooted = true)
    (h : ∀ ns es, root.resolve dir p ≠ .ok ⟨ns, .dir es⟩) (last : Bool) (n : String)
    (rest : List String) :
    ∃ e, root.resolveWith last dir ⟨true, p.segments ++ n :: rest⟩ = .error e := by
  rw [resolveWith_of_rooted rfl]
  rcases followLinks_append root (linkLimit + 1) [] p.segments with ⟨found, left, hf, hrest⟩ | ⟨e, -, hrest⟩
  · have hat := at?_of_followLinks hf
    have hnode : found.node.isDirNode = false := by
      cases hn : found.node with
      | dir es =>
        refine absurd ?_ (h found.names es)
        rw [resolve, resolveWith_of_rooted hr, hf, ← hn]
      | file c x => rfl
      | link target => rfl
    refine ⟨.notDirectory, ?_⟩
    rw [hrest last _ (by simp), followLinks_succ, follow, hat]
    simp [hnode]
  · exact ⟨e, hrest last _ (by simp)⟩

theorem resolveWith_child_of_none (hr : p.rooted = true)
    (h : root.resolve dir p = .ok ⟨ns, .dir es⟩) (hn : Path.IsName n)
    (hentry : entry? (.dir es) n = none) :
    root.resolveWith last dir (p.child n) = .error .missing := by
  obtain ⟨left, hbelow⟩ := resolveWith_below hr h last
  have hat := at?_of_resolveWith h
  rw [Path.child, hr, hbelow n [], follow, hat]
  simp [isDirNode, hn.1, hn.2.1, hn.2.2, hentry]

/-- **The path of an entry** leads to the entry, unless a link is to be followed. -/
theorem resolveWith_child_of_some (hr : p.rooted = true)
    (h : root.resolve dir p = .ok ⟨ns, .dir es⟩) (hn : Path.IsName n)
    (hentry : entry? (.dir es) n = some t)
    (hlink : last = false ∨ ∀ target, t ≠ .link target) :
    root.resolveWith last dir (p.child n) = .ok ⟨ns ++ [n], t⟩ := by
  obtain ⟨left, hbelow⟩ := resolveWith_below hr h last
  have hat := at?_of_resolveWith h
  have hat' : root.at? (ns ++ [n]) = some t := by rw [at?_concat hat, hentry]
  rw [Path.child, hr, hbelow n [], follow, hat]
  cases t with
  | file c x => simp [isDirNode, hn.1, hn.2.1, hn.2.2, hentry, follow, hat']
  | dir es' => simp [isDirNode, hn.1, hn.2.1, hn.2.2, hentry, follow, hat']
  | link target =>
    obtain rfl : last = false := hlink.resolve_right fun h => h target rfl
    simp [isDirNode, hn.1, hn.2.1, hn.2.2, hentry]

end FileTree

end Multilint
