import Multilint.Proofs.Schedule.Kernel
/-!
# Spellings of a request

A request names tools, and it may name one twice, in any order and in any spelling. Only the set of the
identities counts: it says which tools are asked for (`asked_congr`), these have one order of rank, and the
schedule is made of that (`ofRequest_respelled`).
-/

namespace Multilint

namespace Schedule

variable {box : Toolbox} {ids ids' : List String} {t : Tool} {ignoreConflicts : Bool}

/-- **Two lists name the same tools**: their identities are the same, in whatever order and spelling and
however often they stand there. -/
def SameNames (ids ids' : List String) : Prop :=
  ∀ name, name ∈ ids.map toolId ↔ name ∈ ids'.map toolId

namespace SameNames

theorem symm (h : SameNames ids ids') : SameNames ids' ids :=
  fun name => (h name).symm

/-- Each name of one list is spelled in the other. -/
theorem exists_spelling (h : SameNames ids ids') {id : String} (hid : id ∈ ids) :
    ∃ id' ∈ ids', toolId id = toolId id' := by
  obtain ⟨id', hid', heq⟩ := List.mem_map.1 ((h _).1 (List.mem_map_of_mem hid))
  exact ⟨id', hid', heq.symm⟩

/-- A name without a tool is spelled in the other list, and no tool has that spelling either. -/
theorem exists_missing (h : SameNames ids ids') (hid : ∃ id ∈ ids, box.contains id = false) :
    ∃ id ∈ ids', box.contains id = false := by
  obtain ⟨id, hid, hmissing⟩ := hid
  obtain ⟨id', hid', heq⟩ := h.exists_spelling hid
  exact ⟨id', hid', by rw [← Toolbox.contains_congr heq, hmissing]⟩

theorem asked (h : SameNames ids ids') (ht : Asked box ids t) : Asked box ids' t := by
  obtain ⟨hmem, rfl | ⟨id, hid, heq⟩⟩ := ht
  · -- a list without names has no identities, so the other one has no names either
    refine ⟨hmem, Or.inl (List.eq_nil_iff_forall_not_mem.2 fun id' hid' => ?_)⟩
    obtain ⟨id, hid, -⟩ := h.symm.exists_spelling hid'
    cases hid
  · obtain ⟨id', hid', heq'⟩ := h.exists_spelling hid
    exact ⟨hmem, Or.inr ⟨id', hid', heq.trans heq'⟩⟩

end SameNames

/-- **The same tools are asked for.** -/
theorem asked_congr (h : SameNames ids ids') : Asked box ids t ↔ Asked box ids' t :=
  ⟨h.asked, h.symm.asked⟩

/-- A request with a name that no tool has is refused, for such a name. -/
theorem exists_unknownTool (h : ∃ id ∈ ids, box.contains id = false) :
    ∃ id ∈ ids, box.contains id = false ∧ ofRequest box ids ignoreConflicts = .error (.unknownTool id) := by
  obtain ⟨id, hid, hmissing⟩ := h
  obtain ⟨f, hfails⟩ :=
    Sequence.exists_firstFails hid (Toolbox.get_eq_error_iff.2 ⟨hmissing, rfl⟩)
  have hrequest : ofRequest box ids ignoreConflicts = .error f := ofRequest_eq_error_iff.2 hfails
  obtain ⟨before, first, after, rfl, -, hfirst⟩ := hfails
  obtain ⟨hmissing', rfl⟩ := Toolbox.get_eq_error_iff.1 hfirst
  exact ⟨first, by simp, hmissing', hrequest⟩

/-- **A schedule depends only on which tools are requested.** Two requests with the same identities, in any
order, spelling and repetition, have the same schedule: the same tools run in the same order, and the same
ones give way to the same winners. If some identity has no tool, both are refused for such a one. -/
theorem ofRequest_respelled (hbox : box.Built) (hsame : SameNames ids ids') (ignoreConflicts : Bool) :
    (∀ id ∈ ids, box.contains id = true) ∧
        (∃ s, ofRequest box ids ignoreConflicts = .ok s ∧ ofRequest box ids' ignoreConflicts = .ok s) ∨
      (∃ id ∈ ids, box.contains id = false ∧
          ofRequest box ids ignoreConflicts = .error (.unknownTool id)) ∧
        ∃ id ∈ ids', box.contains id = false ∧
          ofRequest box ids' ignoreConflicts = .error (.unknownTool id) := by
  by_cases hids : ∃ id ∈ ids, box.contains id = false
  · exact Or.inr ⟨exists_unknownTool hids, exists_unknownTool (hsame.exists_missing hids)⟩
  · have hfound : ∀ id ∈ ids, box.contains id = true := by simpa using hids
    have hfound' : ∀ id ∈ ids', box.contains id = true := by
      simpa using mt hsame.symm.exists_missing hids
    obtain ⟨ranked, hranked, hmem, hrequest⟩ := exists_ranked hbox hfound
    obtain ⟨ranked', hranked', hmem', hrequest'⟩ := exists_ranked hbox hfound'
    -- the tools asked for have only one order of rank
    have hone : ranked = ranked' := by
      refine hranked.eq_of_mem_iff hranked' fun t => ?_
      rw [hmem, hmem', asked_congr hsame]
    exact Or.inl ⟨hfound, _, hrequest ignoreConflicts, hone ▸ hrequest' ignoreConflicts⟩

/-- Three tools in another order and other spellings, one of them named twice: the middle one gives way to
the highest in both requests. -/
theorem ofRequest_respelled_rivals :
    rivals.Built ∧ SameNames ["MID", "low", "high", "mid"] [" High ", "Mid", "LOW"] ∧
      ∃ s, ofRequest rivals ["MID", "low", "high", "mid"] false = .ok s ∧
        ofRequest rivals [" High ", "Mid", "LOW"] false = .ok s ∧ s.names = ["high", "low"] ∧
        s.dropped.map (fun d => (d.tool.name, d.winner.name)) = [("mid", "high")] := by
  have hsame : SameNames ["MID", "low", "high", "mid"] [" High ", "Mid", "LOW"] := by
    have hids : ["MID", "low", "high", "mid"].map toolId = ["mid", "low", "high", "mid"] := by decide
    have hids' : [" High ", "Mid", "LOW"].map toolId = ["high", "mid", "low"] := by decide
    intro name
    simp only [hids, hids', List.mem_cons, List.not_mem_nil, or_false]
    tauto
  refine ⟨built_rivals, hsame, ?_⟩
  rcases ofRequest_respelled built_rivals hsame false with ⟨-, s, hs, hs'⟩ | ⟨⟨id, -, -, hs⟩, -⟩
  · obtain rfl : ofRanked rivals.tools.reverse = s := Except.ok.inj (ofRequest_rivals.symm.trans hs)
    exact ⟨_, hs, hs', by decide, by decide⟩
  · cases ofRequest_rivals.symm.trans hs

end Schedule

end Multilint
