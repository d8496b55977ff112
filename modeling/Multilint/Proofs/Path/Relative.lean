import Multilint.Proofs.Path.Resolving
import Multilint.Proofs.Path.Under
import Multilint.Proofs.Path.Written
/-!
# Paths as seen from a directory

A path and a directory have their first names in common and part behind them (`exists_relativeTo`), so that the
path as seen from the directory goes up from there and down again. Joined to the directory it leads back to the
path (`absolute_join_relativeTo`). Its text, which has slashes for backslashes, does so only where there is no
backslash on the way down (`resolves_back_iff`): what a text without backslashes leads to from a directory has
names of the directory, and then none with a backslash in it.
-/

namespace Multilint

namespace Path

variable {here f d p q : Path} {s : String}

/-! ## Parting -/

/-- **Two lists of names part** behind their common beginning. -/
theorem exists_diverge (as bs : List String) : ∃ common, as = common ++ (diverge as bs).1 ∧
    bs = common ++ (diverge as bs).2 ∧
    ∀ a as' b bs', (diverge as bs).1 = a :: as' → (diverge as bs).2 = b :: bs' → a ≠ b := by
  fun_induction diverge as bs with
  | case1 as b bs ih =>
    obtain ⟨common, has, hbs, hne⟩ := ih
    exact ⟨b :: common, congrArg (b :: ·) has, congrArg (b :: ·) hbs, hne⟩
  | case2 a as b bs hab =>
    refine ⟨[], rfl, rfl, fun a' as' b' bs' ha hb => ?_⟩
    rwa [(List.cons.inj ha).1, (List.cons.inj hb).1] at hab
  | case3 as bs h =>
    refine ⟨[], rfl, rfl, fun a as' b bs' ha hb => ?_⟩
    exact absurd (h a as' b bs' ha) (fun h => h hb)

/-- **A path as seen from a directory** goes up from the names they have in common, and down from there by
another way. -/
theorem exists_relativeTo (hf : f.Normal) (hd : d.Normal) : ∃ common down up,
    f.segments = common ++ down ∧ d.segments = common ++ up ∧
      (∀ n ns m ms, down = n :: ns → up = m :: ms → n ≠ m) ∧
      f.relativeTo d = ⟨false, up.map (fun _ => "..") ++ down⟩ := by
  obtain ⟨common, hfile, hdir, hne⟩ := exists_diverge f.segments d.segments
  refine ⟨common, _, _, hfile, hdir, hne, ?_⟩
  rw [relativeTo, names_of_normal hf, names_of_normal hd]

/-- What a path goes through, as seen from a directory. -/
theorem mem_relativeTo (hf : f.Normal) (hd : d.Normal) (hs : s ∈ (f.relativeTo d).segments) :
    s = ".." ∨ s ∈ f.segments := by
  obtain ⟨common, down, up, hfile, -, -, hrel⟩ := exists_relativeTo hf hd
  rw [hrel] at hs
  rcases List.mem_append.1 hs with hs | hs
  · obtain ⟨_, -, rfl⟩ := List.mem_map.1 hs
    exact Or.inl rfl
  · exact Or.inr (hfile ▸ List.mem_append_right common hs)

theorem unslashed_relativeTo (hf : f.Normal) (hd : d.Normal) (hslash : f.Unslashed) :
    (f.relativeTo d).Unslashed := by
  intro s hs
  rcases mem_relativeTo hf hd hs with rfl | hs
  · decide
  · exact hslash s hs

theorem head?_relativeTo_ne (hf : f.Normal) (hd : d.Normal) :
    (f.relativeTo d).segments.head? ≠ some "" := by
  intro hhead
  rcases mem_relativeTo hf hd (List.mem_of_head? hhead) with h | h
  · exact absurd h (by decide)
  · exact (hf.isName "" h).1 rfl

/-- **A path as seen from a directory starts with a hyphen** exactly if it lies below an entry of the directory
whose name does, or is that entry. -/
theorem head?_slashed_relativeTo_iff (hf : f.Normal) (hd : d.Normal) :
    (f.relativeTo d).slashed.toList.head? = some '-' ↔
      ∃ n ns, f.segments = d.segments ++ n :: ns ∧ n.toList.head? = some '-' := by
  obtain ⟨common, down, up, hfile, hdir, hne, hrel⟩ := exists_relativeTo hf hd
  rw [hrel, hfile, hdir]
  cases up with
  | cons m ms =>
    refine iff_of_false (fun h => ?_) ?_
    · rw [head?_slashed (s := "..") rfl rfl (by decide)] at h
      exact absurd h (by decide)
    · rintro ⟨n, ns, h, -⟩
      rw [List.append_assoc, List.append_cancel_left_eq] at h
      exact hne m _ m ms h rfl rfl
  | nil =>
    cases down with
    | nil =>
      refine iff_of_false (by decide) ?_
      rintro ⟨n, ns, h, -⟩
      simp at h
    | cons n ns =>
      have hn : n ≠ "" := (hf.isName n (by simp [hfile])).1
      rw [head?_slashed (s := n) rfl rfl hn]
      have hhyphen : ∀ c : Char, (if c = '\\' then '/' else c) = '-' ↔ c = '-' := by
        intro c
        split
        · rename_i hc
          exact iff_of_false (by decide) (by rw [hc]; decide)
        · rfl
      constructor
      · intro h
        obtain ⟨c, hc, heq⟩ := Option.map_eq_some_iff.1 h
        exact ⟨n, ns, by simp, by rw [hc, (hhyphen c).1 heq]⟩
      · rintro ⟨n', ns', h, hc⟩
        obtain ⟨rfl, -⟩ : n = n' ∧ ns = ns' := by simpa using h
        rw [hc]
        rfl

/-! ## Resolving what is joined -/

/-- Going up takes back as many names. -/
theorem fold_replicate_up (ns : List String) (k : ℕ) :
    fold ns (List.replicate k .up) = ns.take (ns.length - k) := by
  induction k generalizing ns with
  | zero => simp [fold]
  | succ k ih =>
    rw [List.replicate_succ, fold, ih, List.dropLast_eq_take, List.take_take, List.length_take]
    congr 1
    omega

/-- **What is joined to a directory** goes on from the names of the directory. -/
theorem absolute_join_of_normal (hd : d.Normal) (q : Path) :
    absolute here (d.join q) = ofNames (fold d.segments q.parts) := by
  rw [absolute_join_eq, absolute_of_normal here hd, absolute, names_of_normal hd]

/-- So does a relative path, whose parts are those of its segments. -/
theorem absolute_join (hd : d.Normal) (hq : q.rooted = false) :
    absolute here (d.join q) = ofNames (fold d.segments (q.segments.filterMap part?)) := by
  rw [absolute_join_of_normal hd, fold_parts, hq, if_neg Bool.false_ne_true]

/-- **A path as seen from a directory leads back to it.** -/
theorem absolute_join_relativeTo (hf : f.Normal) (hd : d.Normal) :
    absolute here (d.join (f.relativeTo d)) = f := by
  obtain ⟨common, down, up, hfile, hdir, -, hrel⟩ := exists_relativeTo hf hd
  have hup : (up.map fun _ => "..").filterMap part? = List.replicate up.length .up := by
    rw [List.map_const', List.filterMap_replicate_of_some (by decide : part? ".." = some .up)]
  have hdown : down.filterMap part? = down.map .name :=
    filterMap_part? fun s hs => hf.isName s (hfile ▸ List.mem_append_right common hs)
  rw [hrel, absolute_join hd rfl, List.filterMap_append, hup, hdown, fold_append, fold_replicate_up,
    fold_map_name, hdir, List.length_append, Nat.add_sub_cancel, List.take_left, ← hfile,
    ofNames_segments hf]

/-! ## Resolving a text -/

/-- **What is left of parts** are names there were, and then names among the parts. The induction is on the parts,
from any names. -/
theorem exists_fold (ns : List String) (ps : List Part) :
    ∃ kept added, kept <+: ns ∧ fold ns ps = kept ++ added ∧ ∀ s ∈ added, Part.name s ∈ ps := by
  induction ps generalizing ns with
  | nil => exact ⟨ns, [], List.prefix_refl ns, (List.append_nil ns).symm, by simp⟩
  | cons part ps ih =>
    have htail : ∀ {added : List String}, (∀ s ∈ added, Part.name s ∈ ps) →
        ∀ s ∈ added, Part.name s ∈ part :: ps :=
      fun h s hs => List.mem_cons_of_mem part (h s hs)
    cases part with
    | root =>
      obtain ⟨kept, added, hkept, hfold, hadded⟩ := ih []
      exact ⟨kept, added, hkept.trans List.nil_prefix, hfold, htail hadded⟩
    | here =>
      obtain ⟨kept, added, hkept, hfold, hadded⟩ := ih ns
      exact ⟨kept, added, hkept, hfold, htail hadded⟩
    | up =>
      obtain ⟨kept, added, hkept, hfold, hadded⟩ := ih ns.dropLast
      exact ⟨kept, added, hkept.trans (List.dropLast_prefix ns), hfold, htail hadded⟩
    | name n =>
      obtain ⟨kept, added, hkept, hfold, hadded⟩ := ih (ns ++ [n])
      rcases List.prefix_concat_iff.1 hkept with rfl | hkept
      · -- the new name was kept, so it is the first of those that were added
        refine ⟨ns, n :: added, List.prefix_refl ns, by simp [fold, hfold], ?_⟩
        exact List.forall_mem_cons.2 ⟨List.mem_cons_self, htail hadded⟩
      · exact ⟨kept, added, hkept, hfold, htail hadded⟩

/-- **What is joined to a directory** leads to names of the directory and then to segments of its own. -/
theorem exists_absolute_join (hd : d.Normal) (q : Path) : ∃ kept added, kept <+: d.segments ∧
    (absolute here (d.join q)).segments = kept ++ added ∧ ∀ s ∈ added, s ∈ q.segments := by
  obtain ⟨kept, added, hkept, hfold, hadded⟩ := exists_fold d.segments q.parts
  refine ⟨kept, added, hkept, ?_, fun s hs => (mem_segments_of_mem_parts (hadded s hs)).1⟩
  rw [absolute_join_of_normal hd]
  exact hfold

/-- **The text of a path as seen from a directory** leads back to the path exactly where it holds no backslash
in the names on the way down. -/
theorem resolves_back_iff (hf : f.Normal) (hd : d.Normal) (hslash : f.Unslashed) :
    absolute here (d.join (ofString (f.relativeTo d).slashed)) = f ↔ (f.relativeTo d).Plain := by
  obtain ⟨common, down, up, hfile, hdir, hne, hrel⟩ := exists_relativeTo hf hd
  constructor
  · intro heq s hs hback
    obtain ⟨kept, added, hkept, hsegments, hadded⟩ :=
      @exists_absolute_join here d hd (ofString (f.relativeTo d).slashed)
    have hplain : s ∉ added := fun hs => plain_ofString not_mem_slashed s (hadded s hs) hback
    have hdown : s ∈ down := by
      rw [hrel] at hs
      refine (List.mem_append.1 hs).resolve_left fun hs => ?_
      obtain ⟨_, -, rfl⟩ := List.mem_map.1 hs
      exact absurd hback (by decide)
    -- the names that were kept would have to reach beyond what the two have in common
    rw [heq, hfile, List.append_eq_append_iff] at hsegments
    rcases hsegments with ⟨more, rfl, hmore⟩ | ⟨more, -, rfl⟩
    · cases more with
      | nil =>
        rw [hmore] at hdown
        exact hplain hdown
      | cons n more =>
        rw [hdir, List.prefix_append_right_inj] at hkept
        obtain ⟨rest, hrest⟩ := hkept
        exact hne n _ n _ hmore hrest.symm rfl
    · exact hplain (List.mem_append_right more hdown)
  · intro hplain
    have hread : ofString (f.relativeTo d).slashed = f.relativeTo d := by
      rw [slashed_of_plain hplain, ofString_toString rfl (unslashed_relativeTo hf hd hslash)
        (head?_relativeTo_ne hf hd)]
    rw [hread, absolute_join_relativeTo hf hd]

/-! ## The directory that holds several files -/

/-- Of a path from the root the last segments that say nothing are left out. -/
theorem core_of_rooted (hp : p.rooted = true) :
    p.core = p.segments.rdropWhile fun s => s = "" || s = "." := by
  simp [core, hp, List.rdropWhile]

/-- So only first segments are left. -/
theorem core_isPrefix (hp : p.rooted = true) : p.core <+: p.segments := by
  rw [core_of_rooted hp]
  exact List.rdropWhile_prefix _ _

theorem Normal.parent? (hp : p.Normal) (hq : p.parent? = some q) : q.Normal := by
  unfold Path.parent? at hq
  split at hq
  · cases hq
  · rename_i s ss hcore
    obtain rfl := Option.some.inj hq
    refine ⟨hp.rooted, fun n hn => hp.isName n ?_⟩
    have hsubset := (core_isPrefix (p := ⟨p.rooted, (s :: ss).dropLast⟩) hp.rooted).subset hn
    exact (core_isPrefix hp.rooted).subset (hcore ▸ List.dropLast_subset _ hsubset)

theorem Normal.cutUntil {fuel : ℕ} (hp : p.Normal) (hq : cutUntil d fuel p = some q) : q.Normal := by
  fun_induction Path.cutUntil d fuel p with
  | case1 p _ => exact Option.some.inj hq ▸ hp
  | case2 p _ => cases hq
  | case3 fuel p _ => exact Option.some.inj hq ▸ hp
  | case4 fuel p _ _ => cases hq
  | case5 fuel p _ r hr ih => exact ih (hp.parent? hr) hq

/-- **The deepest directory that holds some files** is a normal path, as they are. -/
theorem normal_commonParent? {files : List Path} (hfiles : ∀ f ∈ files, f.Normal)
    (hd : commonParent? files = some d) : d.Normal := by
  have hcut : ∀ (ds : List Path) (c : Option Path), (∀ p, c = some p → p.Normal) →
      ds.foldl (fun c dir => c.bind fun c => Path.cutUntil dir c.parts.length c) c = some d →
        d.Normal := by
    intro ds
    induction ds with
    | nil => exact fun c hc hd => hc d hd
    | cons dir ds ih =>
      refine fun c hc hd => ih _ (fun p hp => ?_) hd
      obtain ⟨q, hq, hp⟩ := Option.bind_eq_some_iff.1 hp
      exact (hc q hq).cutUntil hp
  unfold commonParent? at hd
  split at hd
  · cases hd
  · rename_i e es hes
    refine hcut es (some e) (fun p hp => ?_) hd
    obtain ⟨f, hf, hparent⟩ := List.mem_filterMap.1 (hes ▸ List.mem_cons_self : e ∈ files.filterMap _)
    exact Option.some.inj hp ▸ (hfiles f hf).parent? hparent

end Path

end Multilint
