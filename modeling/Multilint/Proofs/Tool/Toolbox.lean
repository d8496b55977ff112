import Multilint.Tool.Toolbox
import Mathlib.Data.List.Nodup
/-!
# What registration keeps

`Built` are the toolboxes that registering tools one after another makes from the empty one. No two of
their tools share an identity, and the rank of a tool is its place, so that either of the two tells a
tool from the others. `Built.get_eq_ok_iff` is what looking a tool up comes to: the tool whose
identity is that of the spelling.
-/

namespace Multilint

namespace Toolbox

variable {b b' : Toolbox} {spec : ToolSpec} {adapter : ToolAdapter} {t u : Tool} {id : String}

/-- **The toolboxes that registration makes.** -/
inductive Built : Toolbox → Prop
  /-- There are no tools at first. -/
  | empty : Built empty
  /-- A tool that is not refused is one more. -/
  | register {b b' : Toolbox} {spec : ToolSpec} {adapter : ToolAdapter} :
      Built b → b.register spec adapter = .ok b' → Built b'

/-! ## One registration -/

/-- A name is new where no tool has its identity. -/
theorem contains_eq_false_iff : b.contains id = false ↔ ∀ t ∈ b.tools, toolId t.name ≠ toolId id := by
  simp [contains, find?]

/-- **A registration adds the tool behind the others**, or is refused. -/
theorem register_eq_ok_iff : b.register spec adapter = .ok b' ↔
    (∀ t ∈ b.tools, toolId t.name ≠ toolId spec.name) ∧
      b' = ⟨b.tools ++ [⟨spec, adapter, b.tools.length⟩]⟩ := by
  rw [register, ← contains_eq_false_iff]
  cases h : b.contains spec.name with
  | true => simp
  | false => simp [eq_comm]

namespace Built

/-- A toolbox with one more tool, whose identity is new, is made by registration. -/
theorem concat (h : b.Built) (spec : ToolSpec) (adapter : ToolAdapter)
    (hnew : ∀ t ∈ b.tools, toolId t.name ≠ toolId spec.name) :
    Built ⟨b.tools ++ [⟨spec, adapter, b.tools.length⟩]⟩ :=
  h.register (register_eq_ok_iff.2 ⟨hnew, rfl⟩)

/-- **A tool's rank is its place.** -/
theorem map_rank (h : b.Built) : b.tools.map Tool.rank = List.range b.tools.length := by
  induction h with
  | empty => rfl
  | register _ hreg ih =>
    obtain ⟨-, rfl⟩ := register_eq_ok_iff.1 hreg
    simp only [List.map_append, List.map_singleton, List.length_append, List.length_singleton,
      List.range_succ, ih]

theorem nodup_rank (h : b.Built) : (b.tools.map Tool.rank).Nodup := by
  rw [h.map_rank]
  exact List.nodup_range

/-- **No two tools share an identity.** -/
theorem nodup_id (h : b.Built) : (b.tools.map fun t => toolId t.name).Nodup := by
  induction h with
  | empty => exact List.nodup_nil
  | register _ hreg ih =>
    obtain ⟨hnew, rfl⟩ := register_eq_ok_iff.1 hreg
    rw [List.map_append, List.map_singleton]
    refine List.Nodup.append ih (List.nodup_singleton _) ?_
    rw [List.disjoint_singleton]
    intro hmem
    obtain ⟨t, ht, hid⟩ := List.mem_map.1 hmem
    exact hnew t ht hid

theorem nodup (h : b.Built) : b.tools.Nodup :=
  h.nodup_rank.of_map _

/-- The rank tells a tool from the others. -/
theorem eq_of_rank (h : b.Built) (ht : t ∈ b.tools) (hu : u ∈ b.tools) (heq : t.rank = u.rank) :
    t = u :=
  List.inj_on_of_nodup_map h.nodup_rank ht hu heq

/-- The identity tells a tool from the others. -/
theorem eq_of_toolId (h : b.Built) (ht : t ∈ b.tools) (hu : u ∈ b.tools)
    (heq : toolId t.name = toolId u.name) : t = u :=
  List.inj_on_of_nodup_map h.nodup_id ht hu heq

/-- So does the name. -/
theorem eq_of_name (h : b.Built) (ht : t ∈ b.tools) (hu : u ∈ b.tools) (heq : t.name = u.name) :
    t = u :=
  h.eq_of_toolId ht hu (by rw [heq])

/-- **Looking a tool up** finds the one whose identity is that of the spelling. -/
theorem get_eq_ok_iff (h : b.Built) : b.get id = .ok t ↔ t ∈ b.tools ∧ toolId t.name = toolId id := by
  rw [get]
  cases hfind : b.find? id with
  | none =>
    have hnone : ∀ u ∈ b.tools, toolId u.name ≠ toolId id := by
      rw [← contains_eq_false_iff, contains, hfind]
      rfl
    exact iff_of_false (by simp) fun ⟨ht, hid⟩ => hnone t ht hid
  | some u =>
    have hmem : u ∈ b.tools := List.mem_of_find?_eq_some hfind
    have hid : toolId u.name = toolId id := by simpa using List.find?_some hfind
    constructor
    · intro hok
      obtain rfl := Except.ok.inj hok
      exact ⟨hmem, hid⟩
    · rintro ⟨ht, htid⟩
      rw [h.eq_of_toolId ht hmem (htid.trans hid.symm)]

end Built

/-- A spelling resolves exactly if looking it up gives a tool. -/
theorem contains_iff_get : b.contains id = true ↔ ∃ t, b.get id = .ok t := by
  rw [contains, get]
  cases b.find? id with
  | none => simp
  | some t => simp

/-- Looking up a tool fails for one reason. -/
theorem get_eq_error_iff {f : Failure} :
    b.get id = .error f ↔ b.contains id = false ∧ f = .unknownTool id := by
  rw [get, contains]
  cases b.find? id with
  | none => simp [eq_comm]
  | some t => simp

/-- **Every spelling of a name finds the same.** -/
theorem contains_congr {id' : String} (h : toolId id = toolId id') : b.contains id = b.contains id' := by
  rw [contains, contains, find?, find?, h]

end Toolbox

/-! ## Collecting tools -/

namespace Tool

variable {κ : Type} [DecidableEq κ] {key : Tool → κ} {seen : List Tool} {t : Tool}

/-- The tools seen so far, and one more unless there is one with its key. -/
def addNew (key : Tool → κ) (seen : List Tool) (t : Tool) : List Tool :=
  if seen.any (key · = key t) then seen else seen ++ [t]

/-- What holds of the tools seen and of one more holds of those collected. -/
theorem forall_mem_addNew {P : Tool → Prop} (hseen : ∀ u ∈ seen, P u) (ht : P t) :
    ∀ u ∈ addNew key seen t, P u := by
  rw [addNew]
  split
  · exact hseen
  · exact List.forall_mem_append.2 ⟨hseen, List.forall_mem_singleton.2 ht⟩

/-- **A collected tool is there once**, where the key tells it from those seen. -/
theorem addNew_spec (hkey : ∀ u ∈ seen, key u = key t → u = t) (hnodup : seen.Nodup) :
    (addNew key seen t).Nodup ∧ ∀ u, u ∈ addNew key seen t ↔ u ∈ seen ∨ u = t := by
  rw [addNew]
  by_cases hmem : t ∈ seen
  · have hany : seen.any (key · = key t) = true := by
      simp only [List.any_eq_true, decide_eq_true_eq]
      exact ⟨t, hmem, rfl⟩
    rw [if_pos hany]
    refine ⟨hnodup, fun u => (or_iff_left_of_imp ?_).symm⟩
    rintro rfl
    exact hmem
  · have hany : ¬ seen.any (key · = key t) = true := by
      simp only [List.any_eq_true, decide_eq_true_eq]
      rintro ⟨u, hu, heq⟩
      exact hmem (hkey u hu heq ▸ hu)
    rw [if_neg hany]
    exact ⟨List.Nodup.append hnodup (List.nodup_singleton t) (List.disjoint_singleton.2 hmem),
      fun u => by simp⟩

end Tool

end Multilint
