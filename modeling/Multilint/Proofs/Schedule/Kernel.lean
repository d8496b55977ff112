import Multilint.Proofs.Schedule.Rank
import Mathlib.Data.List.Induction
/-!
# Schedules are greedy kernels

Of the tools asked for, those that run are a kernel under conflict: no two of them conflict, and each of
the others conflicts with one of higher rank among them. `Kernel` says this of a schedule, together with
what it says about those that give way. Placing one more tool, of lower rank than all before, keeps a
schedule a kernel (`Kernel.place`), so the schedule of any tools in the order of rank is one
(`kernel_ofRanked`); and there is only one (`Kernel.unique`), so a schedule depends on nothing else.
-/

namespace Multilint

namespace Schedule

variable {asked : Tool → Prop} {s s' : Schedule} {t u w : Tool}

/-- **One tool wins over another one** among those that run: it conflicts with it, ranks before it, and no
other one of these ranks higher. -/
structure Wins (kept : List Tool) (w t : Tool) : Prop where
  /-- It runs. -/
  mem : w ∈ kept
  /-- It ranks before the other one. -/
  outranks : w.Outranks t
  /-- One of the two declares a conflict with the other. -/
  conflict : w.conflictsWith t = true
  /-- No other one ranks higher. -/
  highest : ∀ k ∈ kept, k.Outranks t → k.conflictsWith t = true → k = w ∨ w.Outranks k

/-- **A kernel**: what a schedule says about the tools asked for. -/
structure Kernel (asked : Tool → Prop) (s : Schedule) : Prop where
  /-- Each of the tools asked for runs or gives way, and no other one does. -/
  mem_iff : ∀ t, t ∈ s.ordered ++ s.dropped.map Dropped.tool ↔ asked t
  /-- None is there twice. -/
  nodup : (s.ordered ++ s.dropped.map Dropped.tool).Nodup
  /-- Those that run are in the order of rank. -/
  ordered : s.ordered.Pairwise Tool.Outranks
  /-- So are those that give way. -/
  dropped : (s.dropped.map Dropped.tool).Pairwise Tool.Outranks
  /-- No two that run conflict. -/
  free : ∀ t ∈ s.ordered, ∀ u ∈ s.ordered, t ≠ u → t.conflictsWith u = false
  /-- A tool gives way exactly if one of higher rank that runs conflicts with it. -/
  gives_way_iff : ∀ t, asked t → (t ∈ s.dropped.map Dropped.tool ↔
    ∃ w ∈ s.ordered, w.Outranks t ∧ w.conflictsWith t = true)
  /-- It gives way to the one of highest rank. -/
  wins : ∀ d ∈ s.dropped, Wins s.ordered d.winner d.tool

/-! ## One more tool -/

/-- **Placing a tool**: it runs if no tool that runs conflicts with it, and otherwise gives way to the
first of those. -/
theorem place_cases (s : Schedule) (t : Tool) :
    ((∀ k ∈ s.ordered, k.conflictsWith t = false) ∧
      s.place t = { s with ordered := s.ordered ++ [t] }) ∨
    ∃ higher w lower, s.ordered = higher ++ w :: lower ∧
      (∀ k ∈ higher, k.conflictsWith t = false) ∧ w.conflictsWith t = true ∧
      s.place t = { s with dropped := s.dropped ++ [⟨t, w⟩] } := by
  rw [place]
  cases hfind : s.ordered.find? (·.conflictsWith t) with
  | none =>
    refine Or.inl ⟨fun k hk => ?_, rfl⟩
    exact Bool.eq_false_iff.2 (List.find?_eq_none.1 hfind k hk)
  | some w =>
    obtain ⟨hconflict, higher, lower, hordered, hhigher⟩ := List.find?_eq_some_iff_append.1 hfind
    refine Or.inr ⟨higher, w, lower, hordered, fun k hk => ?_, hconflict, rfl⟩
    simpa using hhigher k hk

/-- The first of some tools in the order of rank that conflicts with another one wins over it. -/
theorem wins_of_first {kept higher lower : List Tool} (hkept : kept.Pairwise Tool.Outranks)
    (heq : kept = higher ++ w :: lower) (hhigher : ∀ k ∈ higher, k.conflictsWith t = false)
    (houtranks : w.Outranks t) (hconflict : w.conflictsWith t = true) : Wins kept w t := by
  subst heq
  refine ⟨by simp, houtranks, hconflict, fun k hk _ hkt => ?_⟩
  rcases List.mem_append.1 hk with hk | hk
  · rw [hhigher k hk] at hkt
    cases hkt
  · rcases List.mem_cons.1 hk with rfl | hk
    · exact Or.inl rfl
    · have hlower : (w :: lower).Pairwise Tool.Outranks := (List.pairwise_append.1 hkept).2.1
      exact Or.inr (List.rel_of_pairwise_cons hlower hk)

/-- A tool that all those asked for outrank is none of them. -/
theorem not_asked_of_outranks (ht : ∀ u, asked u → u.Outranks t) : ¬ asked t :=
  fun hasked => (ht t hasked).irrefl

theorem map_tool_concat (ds : List Dropped) (t w : Tool) :
    (ds ++ [Dropped.mk t w]).map Dropped.tool = ds.map Dropped.tool ++ [t] :=
  List.map_append

namespace Kernel

theorem asked_of_ordered (h : s.Kernel asked) (ht : t ∈ s.ordered) : asked t :=
  (h.mem_iff t).1 (List.mem_append_left _ ht)

theorem asked_of_dropped (h : s.Kernel asked) (ht : t ∈ s.dropped.map Dropped.tool) : asked t :=
  (h.mem_iff t).1 (List.mem_append_right _ ht)

/-- **A tool without a conflict is kept**, behind those that run. -/
theorem keep (h : s.Kernel asked) (ht : ∀ u, asked u → u.Outranks t)
    (hfree : ∀ k ∈ s.ordered, k.conflictsWith t = false) :
    Kernel (fun u => asked u ∨ u = t) { s with ordered := s.ordered ++ [t] } where
  mem_iff u := by
    rw [← h.mem_iff]
    simp only [List.mem_append, List.mem_singleton]
    tauto
  nodup := by
    have hperm : (s.ordered ++ [t] ++ s.dropped.map Dropped.tool).Perm
        (t :: (s.ordered ++ s.dropped.map Dropped.tool)) := by
      rw [List.append_assoc, List.singleton_append]
      exact List.perm_middle
    refine hperm.nodup_iff.2 (List.nodup_cons.2 ⟨fun hmem => ?_, h.nodup⟩)
    exact not_asked_of_outranks ht ((h.mem_iff t).1 hmem)
  ordered := by
    refine List.pairwise_append.2 ⟨h.ordered, List.pairwise_singleton _ _, fun u hu v hv => ?_⟩
    obtain rfl := List.mem_singleton.1 hv
    exact ht u (h.asked_of_ordered hu)
  dropped := h.dropped
  free := by
    intro u hu v hv hne
    simp only [List.mem_append, List.mem_singleton] at hu hv
    rcases hu with hu | rfl <;> rcases hv with hv | rfl
    · exact h.free u hu v hv hne
    · exact hfree u hu
    · rw [Tool.conflictsWith_comm]
      exact hfree v hv
    · exact absurd rfl hne
  gives_way_iff := by
    rintro u (hu | rfl)
    · -- the new tool is no reason to give way: it outranks none of those before
      rw [h.gives_way_iff u hu]
      refine exists_congr fun w => ?_
      simp only [List.mem_append, List.mem_singleton, and_congr_left_iff, and_imp]
      refine fun hw _ => (or_iff_left ?_).symm
      rintro rfl
      exact (ht u hu).asymm hw
    · -- nor does it give way, as it does not conflict with itself
      refine iff_of_false (fun hmem => not_asked_of_outranks ht (h.asked_of_dropped hmem)) ?_
      rintro ⟨w, hw, hrank, hconflict⟩
      rcases List.mem_append.1 hw with hw | hw
      · rw [hfree w hw] at hconflict
        cases hconflict
      · obtain rfl := List.mem_singleton.1 hw
        exact hrank.irrefl
  wins d hd := by
    have hd' := h.wins d hd
    refine ⟨List.mem_append_left _ hd'.mem, hd'.outranks, hd'.conflict, fun k hk hrank => ?_⟩
    rcases List.mem_append.1 hk with hk | hk
    · exact hd'.highest k hk hrank
    · obtain rfl := List.mem_singleton.1 hk
      have hasked : asked d.tool := h.asked_of_dropped (List.mem_map_of_mem hd)
      exact absurd hrank (ht d.tool hasked).asymm

/-- **A tool with a conflict gives way** to the first tool it conflicts with. -/
theorem drop (h : s.Kernel asked) (ht : ∀ u, asked u → u.Outranks t) (hw : Wins s.ordered w t) :
    Kernel (fun u => asked u ∨ u = t) { s with dropped := s.dropped ++ [⟨t, w⟩] } where
  mem_iff u := by
    rw [← h.mem_iff, map_tool_concat]
    simp only [List.mem_append, List.mem_singleton, or_assoc]
  nodup := by
    rw [map_tool_concat, ← List.append_assoc]
    refine List.Nodup.append h.nodup (List.nodup_singleton t) (List.disjoint_singleton.2 ?_)
    exact fun hmem => not_asked_of_outranks ht ((h.mem_iff t).1 hmem)
  ordered := h.ordered
  dropped := by
    rw [map_tool_concat]
    refine List.pairwise_append.2 ⟨h.dropped, List.pairwise_singleton _ _, fun u hu v hv => ?_⟩
    obtain rfl := List.mem_singleton.1 hv
    exact ht u (h.asked_of_dropped hu)
  free := h.free
  gives_way_iff := by
    rw [map_tool_concat]
    rintro u (hu | rfl)
    · rw [← h.gives_way_iff u hu, List.mem_append, List.mem_singleton]
      refine or_iff_left ?_
      rintro rfl
      exact not_asked_of_outranks ht hu
    · exact iff_of_true (by simp) ⟨w, hw.mem, hw.outranks, hw.conflict⟩
  wins d hd := by
    rcases List.mem_append.1 hd with hd | hd
    · exact h.wins d hd
    · obtain rfl := List.mem_singleton.1 hd
      exact hw

/-- **Placing a tool of lower rank keeps a kernel.** -/
theorem place (h : s.Kernel asked) (ht : ∀ u, asked u → u.Outranks t) :
    (s.place t).Kernel fun u => asked u ∨ u = t := by
  rcases place_cases s t with ⟨hfree, heq⟩ | ⟨higher, w, lower, hordered, hhigher, hconflict, heq⟩
  · rw [heq]
    exact h.keep ht hfree
  · rw [heq]
    have hmem : w ∈ s.ordered := by
      rw [hordered]
      simp
    exact h.drop ht (wins_of_first h.ordered hordered hhigher (ht w (h.asked_of_ordered hmem))
      hconflict)

end Kernel

/-- The last of some tools is placed last. -/
theorem ofRanked_concat (ts : List Tool) (t : Tool) :
    ofRanked (ts ++ [t]) = (ofRanked ts).place t :=
  List.foldl_concat _ _ _ _

/-- **The schedule of tools in the order of rank is a kernel of them.** -/
theorem kernel_ofRanked {ts : List Tool} (hts : ts.Pairwise Tool.Outranks) :
    (ofRanked ts).Kernel (· ∈ ts) := by
  induction ts using List.reverseRecOn with
  | nil => exact ⟨by simp [ofRanked], by simp [ofRanked], .nil, .nil, by simp [ofRanked],
      by simp, by simp [ofRanked]⟩
  | append_singleton ts t ih =>
    obtain ⟨hts', -, hlast⟩ := List.pairwise_append.1 hts
    have hplace := (ih hts').place fun u hu => hlast u hu t (List.mem_singleton.2 rfl)
    rw [ofRanked_concat]
    simpa only [List.mem_append, List.mem_singleton] using hplace

/-! ## There is one kernel -/

theorem Wins.unique {kept : List Tool} {w w' : Tool} (h : Wins kept w t) (h' : Wins kept w' t) :
    w = w' := by
  rcases h.highest w' h'.mem h'.outranks h'.conflict with heq | hrank
  · exact heq.symm
  · rcases h'.highest w h.mem h.outranks h.conflict with heq | hrank'
    · exact heq
    · exact absurd hrank' hrank.asymm

namespace Kernel

/-- **A tool runs** exactly if it is asked for and no tool of higher rank that runs conflicts with it. -/
theorem mem_ordered_iff (h : s.Kernel asked) : t ∈ s.ordered ↔
    asked t ∧ ∀ w ∈ s.ordered, w.Outranks t → w.conflictsWith t = false := by
  constructor
  · intro ht
    refine ⟨h.asked_of_ordered ht, fun w hw hrank => h.free w hw t ht hrank.ne⟩
  · rintro ⟨hasked, hfree⟩
    rcases List.mem_append.1 ((h.mem_iff t).2 hasked) with ht | ht
    · exact ht
    · obtain ⟨w, hw, hrank, hconflict⟩ := (h.gives_way_iff t hasked).1 ht
      rw [hfree w hw hrank] at hconflict
      cases hconflict

theorem mem_dropped_iff (h : s.Kernel asked) :
    t ∈ s.dropped.map Dropped.tool ↔ asked t ∧ t ∉ s.ordered := by
  constructor
  · intro ht
    exact ⟨h.asked_of_dropped ht, fun hmem => (List.disjoint_of_nodup_append h.nodup) hmem ht⟩
  · rintro ⟨hasked, hnot⟩
    exact (List.mem_append.1 ((h.mem_iff t).2 hasked)).resolve_left hnot

/-- Two kernels of the same tools run the same ones, from the highest rank down. -/
theorem mem_ordered_congr {ts : List Tool} (hts : ts.Pairwise Tool.Outranks)
    (h : s.Kernel (· ∈ ts)) (h' : s'.Kernel (· ∈ ts)) {higher lower : List Tool}
    (heq : ts = higher ++ lower) : ∀ t ∈ higher, t ∈ s.ordered ↔ t ∈ s'.ordered := by
  induction higher using List.reverseRecOn generalizing lower with
  | nil => simp
  | append_singleton higher t ih =>
    rw [List.append_assoc] at heq
    intro u hu
    rcases List.mem_append.1 hu with hu | hu
    · exact ih heq u hu
    · obtain rfl := List.mem_singleton.1 hu
      -- only those before it rank higher, and of them the same ones run
      have hbefore : ∀ w ∈ ts, w.Outranks u → w ∈ higher := by
        intro w hw hrank
        rw [heq] at hw hts
        rcases List.mem_append.1 hw with hw | hw
        · exact hw
        · rcases List.mem_cons.1 hw with rfl | hw
          · exact absurd hrank Tool.Outranks.irrefl
          · exact absurd hrank (List.rel_of_pairwise_cons (List.pairwise_append.1 hts).2.1 hw).asymm
      rw [h.mem_ordered_iff, h'.mem_ordered_iff]
      refine and_congr_right fun _ => forall_congr' fun w => ?_
      constructor
      · intro hfree hw hrank
        exact hfree ((ih heq w (hbefore w (h'.asked_of_ordered hw) hrank)).2 hw) hrank
      · intro hfree hw hrank
        exact hfree ((ih heq w (hbefore w (h.asked_of_ordered hw) hrank)).1 hw) hrank

/-- Those that give way are known by their tools and winners. -/
theorem dropped_eq {ds ds' : List Dropped} {kept : List Tool}
    (hmap : ds.map Dropped.tool = ds'.map Dropped.tool)
    (h : ∀ d ∈ ds, Wins kept d.winner d.tool) (h' : ∀ d ∈ ds', Wins kept d.winner d.tool) :
    ds = ds' := by
  induction ds generalizing ds' with
  | nil => exact (List.map_eq_nil_iff.1 hmap.symm).symm
  | cons d ds ih =>
    cases ds' with
    | nil => cases hmap
    | cons d' ds' =>
      rw [List.map_cons, List.map_cons, List.cons.injEq] at hmap
      have hwins : Wins kept d.winner d.tool := h d List.mem_cons_self
      have hwins' : Wins kept d'.winner d.tool := hmap.1 ▸ h' d' List.mem_cons_self
      have hd : d = d' := by
        cases d
        cases d'
        exact congrArg₂ Dropped.mk hmap.1 (hwins.unique hwins')
      rw [hd, ih hmap.2 (fun e he => h e (List.mem_cons_of_mem d he))
        fun e he => h' e (List.mem_cons_of_mem d' he)]

/-- **There is only one kernel.** -/
theorem unique {ts : List Tool} (hts : ts.Pairwise Tool.Outranks) (h : s.Kernel (· ∈ ts))
    (h' : s'.Kernel (· ∈ ts)) : s = s' := by
  have hmem : ∀ t, t ∈ s.ordered ↔ t ∈ s'.ordered := by
    intro t
    by_cases ht : t ∈ ts
    · exact mem_ordered_congr hts h h' (List.append_nil ts).symm t ht
    · exact iff_of_false (fun hs => ht (h.asked_of_ordered hs)) fun hs => ht (h'.asked_of_ordered hs)
  have hordered : s.ordered = s'.ordered := h.ordered.eq_of_mem_iff h'.ordered hmem
  have hmap : s.dropped.map Dropped.tool = s'.dropped.map Dropped.tool := by
    refine h.dropped.eq_of_mem_iff h'.dropped fun t => ?_
    rw [h.mem_dropped_iff, h'.mem_dropped_iff, hmem]
  have hdropped : s.dropped = s'.dropped :=
    dropped_eq hmap h.wins (hordered ▸ h'.wins)
  cases s
  cases s'
  exact congrArg₂ Schedule.mk hordered hdropped

end Kernel

/-! ## The schedule of a request -/

theorem Kernel.congr {asked' : Tool → Prop} (h : s.Kernel asked) (heq : ∀ t, asked t ↔ asked' t) :
    s.Kernel asked' := by
  have hasked : asked = asked' := funext fun t => propext (heq t)
  rwa [← hasked]

/-- **The schedule of a request is the greedy kernel of the tools it asks for.** Where all its identities
resolve there is a schedule. With regard to conflicts it is the one kernel of the tools asked for;
without, all of these run, in the order of rank. -/
theorem ofRequest_greedy_kernel {box : Toolbox} {ids : List String} (hbox : box.Built)
    (hids : ∀ id ∈ ids, box.contains id = true) :
    ∃ s ranked, ofRequest box ids false = .ok s ∧ s.Kernel (Asked box ids) ∧
      (∀ s' : Schedule, s'.Kernel (Asked box ids) → s' = s) ∧
      ofRequest box ids true = .ok ⟨ranked, []⟩ ∧ ranked.Pairwise Tool.Outranks ∧
      ∀ t, t ∈ ranked ↔ Asked box ids t := by
  obtain ⟨ranked, hranked, hmem, hrequest⟩ := exists_ranked hbox hids
  have hkernel : (ofRanked ranked).Kernel (Asked box ids) := (kernel_ofRanked hranked).congr hmem
  refine ⟨ofRanked ranked, ranked, hrequest false, hkernel, fun s' hs' => ?_, hrequest true, hranked,
    hmem⟩
  exact Kernel.unique hranked (hs'.congr fun t => (hmem t).symm) (kernel_ofRanked hranked)

/-- A tool with a name, a priority and declared conflicts. -/
def rivalSpec (name : String) (priority : Int) (conflicts : List String) : ToolSpec :=
  { name, priority, conflicts }

/-- A service that finds nothing. -/
def idleAdapter : ToolAdapter :=
  ⟨fun _ => .ok [], [], fun _ => [], none⟩

/-- Three tools, each of which but the lowest declares a conflict with the next lower one. -/
def rivals : Toolbox :=
  ⟨[⟨rivalSpec "low" 1 [], idleAdapter, 0⟩, ⟨rivalSpec "mid" 2 ["low"], idleAdapter, 1⟩,
    ⟨rivalSpec "high" 3 ["mid"], idleAdapter, 2⟩]⟩

theorem built_rivals : rivals.Built := by
  have hlow := Toolbox.Built.empty.concat (rivalSpec "low" 1 []) idleAdapter (by decide)
  have hmid := hlow.concat (rivalSpec "mid" 2 ["low"]) idleAdapter (by decide)
  exact hmid.concat (rivalSpec "high" 3 ["mid"]) idleAdapter (by decide)

theorem ofRequest_rivals : ofRequest rivals ["MID", "low", "high", "mid"] false =
    .ok (ofRanked rivals.tools.reverse) :=
  ofRequest_of_ranked rfl (List.perm_append_singleton _ [_, _]) (by decide) false

/-- The middle one of three tools gives way to the highest, and so the lowest one runs. -/
theorem ofRequest_greedy_kernel_rivals :
    rivals.Built ∧ (∀ id ∈ ["MID", "low", "high", "mid"], rivals.contains id = true) ∧
      ∃ s, ofRequest rivals ["MID", "low", "high", "mid"] false = .ok s ∧
        s.Kernel (Asked rivals ["MID", "low", "high", "mid"]) ∧ s.names = ["high", "low"] := by
  have hids : ∀ id ∈ ["MID", "low", "high", "mid"], rivals.contains id = true := by decide
  obtain ⟨s, -, hs, hkernel, -⟩ := ofRequest_greedy_kernel built_rivals hids
  refine ⟨built_rivals, hids, s, hs, hkernel, ?_⟩
  obtain rfl : ofRanked rivals.tools.reverse = s := Except.ok.inj (ofRequest_rivals.symm.trans hs)
  decide

end Schedule

end Multilint
