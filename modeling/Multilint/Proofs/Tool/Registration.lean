import Multilint.Catalog.Tools
import Multilint.Proofs.Tool.Toolbox
import Mathlib.Data.List.Induction
/-!
# Registrations one after another

`Toolbox.enter` registers a tool with a toolbox at hand, which stays as it was where the tool is refused
(`enter_cases`). Tools that are registered one after another, refused or not, leave a toolbox that registration
makes (`built_after`), with the tools that were not refused in the order of their calls (`map_tools_after`). So what
is known of each toolbox that registration makes is known of what any calls leave, the catalog among them
(`built_catalog`).
-/

namespace Multilint

namespace Toolbox

/-! ## Calls -/

/-- **Registers a tool with the toolbox at hand**, which is replaced only where the tool is not refused. -/
def enter (spec : ToolSpec) (adapter : ToolAdapter) : ExceptT Failure (StateM Toolbox) Unit := do
  let b ← getThe Toolbox
  let b' ← b.register spec adapter
  set b'

/-- Registers tools one after another, whatever comes of each. -/
def enterAll (calls : List (ToolSpec × ToolAdapter)) : StateM Toolbox (List (Except Failure Unit)) :=
  calls.mapM fun c => (enter c.1 c.2).run

/-- The toolbox that calls leave where there was no tool before. -/
def after (calls : List (ToolSpec × ToolAdapter)) : Toolbox :=
  (enterAll calls empty).2

/-- What came of each of the calls. -/
def outcomes (calls : List (ToolSpec × ToolAdapter)) : List (Except Failure Unit) :=
  (enterAll calls empty).1

/-- **The calls that were not refused**, in their order. -/
def accepted (calls : List (ToolSpec × ToolAdapter)) : List (ToolSpec × ToolAdapter) :=
  ((calls.zip (outcomes calls)).filter fun c => c.2.isOk).map Prod.fst

variable {b : Toolbox} {spec : ToolSpec} {adapter : ToolAdapter}

/-! ## One call -/

/-- A call does to the toolbox at hand what registration makes of it. -/
theorem enter_eq (b : Toolbox) (spec : ToolSpec) (adapter : ToolAdapter) : (enter spec adapter).run b =
    match b.register spec adapter with
    | .ok b' => (.ok (), b')
    | .error f => (.error f, b) := by
  have hrun : (enter spec adapter).run b = ExceptT.bindCont (m := StateM Toolbox)
      (fun b' => (set b' : ExceptT Failure (StateM Toolbox) Unit)) (b.register spec adapter) b := rfl
  rw [hrun]
  cases b.register spec adapter with
  | ok b' => rfl
  | error f => rfl

/-- **A call is refused, or it adds a tool behind the others.** It is refused where there is a tool of the same
identity, and then the toolbox is as it was. -/
theorem enter_cases (b : Toolbox) (spec : ToolSpec) (adapter : ToolAdapter) :
    ((∃ t ∈ b.tools, toolId t.name = toolId spec.name) ∧
      (enter spec adapter).run b = (.error (.duplicateTool spec.name), b)) ∨
    ((∀ t ∈ b.tools, toolId t.name ≠ toolId spec.name) ∧
      (enter spec adapter).run b = (.ok (), ⟨b.tools ++ [⟨spec, adapter, b.tools.length⟩]⟩)) := by
  rw [enter_eq]
  cases hcontains : b.contains spec.name with
  | true =>
    have hrefused : b.register spec adapter = .error (.duplicateTool spec.name) := by
      rw [register, hcontains]
      rfl
    rw [hrefused]
    refine .inl ⟨?_, rfl⟩
    by_contra hnone
    have hnew : b.contains spec.name = false :=
      contains_eq_false_iff.2 fun t ht hid => hnone ⟨t, ht, hid⟩
    rw [hcontains] at hnew
    cases hnew
  | false =>
    have hnew := contains_eq_false_iff.1 hcontains
    rw [register_eq_ok_iff.2 ⟨hnew, rfl⟩]
    exact .inr ⟨hnew, rfl⟩

theorem enter_eq_error_iff : (enter spec adapter).run b = (.error (.duplicateTool spec.name), b) ↔
    ∃ t ∈ b.tools, toolId t.name = toolId spec.name := by
  rcases enter_cases b spec adapter with ⟨hsame, hrun⟩ | ⟨hnew, hrun⟩
  · exact iff_of_true hrun hsame
  · refine iff_of_false ?_ fun ⟨t, ht, hid⟩ => hnew t ht hid
    rw [hrun]
    nofun

theorem enter_eq_ok_iff : (enter spec adapter).run b = (.ok (), ⟨b.tools ++ [⟨spec, adapter, b.tools.length⟩]⟩) ↔
    ∀ t ∈ b.tools, toolId t.name ≠ toolId spec.name := by
  rcases enter_cases b spec adapter with ⟨⟨t, ht, hid⟩, hrun⟩ | ⟨hnew, hrun⟩
  · refine iff_of_false ?_ fun hnew => hnew t ht hid
    rw [hrun]
    nofun
  · exact iff_of_true hrun hnew

/-! ## Calls one after another -/

/-- One more call works on the toolbox that those before it leave. -/
theorem enterAll_concat (calls : List (ToolSpec × ToolAdapter)) (c : ToolSpec × ToolAdapter) (b : Toolbox) :
    enterAll (calls ++ [c]) b =
      ((enterAll calls b).1 ++ [((enter c.1 c.2).run (enterAll calls b).2).1],
        ((enter c.1 c.2).run (enterAll calls b).2).2) := by
  rw [enterAll, List.mapM_append, List.mapM_cons, List.mapM_nil]
  rfl

theorem after_concat (calls : List (ToolSpec × ToolAdapter)) (c : ToolSpec × ToolAdapter) :
    after (calls ++ [c]) = ((enter c.1 c.2).run (after calls)).2 := by
  rw [after, enterAll_concat]
  rfl

theorem outcomes_concat (calls : List (ToolSpec × ToolAdapter)) (c : ToolSpec × ToolAdapter) :
    outcomes (calls ++ [c]) = outcomes calls ++ [((enter c.1 c.2).run (after calls)).1] := by
  rw [outcomes, enterAll_concat]
  rfl

/-- Something comes of each call. -/
theorem length_outcomes (calls : List (ToolSpec × ToolAdapter)) : (outcomes calls).length = calls.length := by
  induction calls using List.reverseRecOn with
  | nil => rfl
  | append_singleton calls c ih =>
    rw [outcomes_concat, List.length_append, List.length_append, ih]
    rfl

/-- One more call is accepted, or the accepted ones are those before. -/
theorem accepted_concat (calls : List (ToolSpec × ToolAdapter)) (c : ToolSpec × ToolAdapter) :
    accepted (calls ++ [c]) =
      accepted calls ++ if ((enter c.1 c.2).run (after calls)).1.isOk then [c] else [] := by
  rw [accepted, outcomes_concat, List.zip_append (length_outcomes calls).symm, List.filter_append,
    List.map_append]
  refine congrArg (accepted calls ++ ·) ?_
  cases h : ((enter c.1 c.2).run (after calls)).1.isOk with
  | true => simp [h]
  | false => simp [h]

/-- **What calls leave is made by registration**, refused ones being no registrations. -/
theorem built_after (calls : List (ToolSpec × ToolAdapter)) : (after calls).Built := by
  induction calls using List.reverseRecOn with
  | nil => exact .empty
  | append_singleton calls c ih =>
    rw [after_concat]
    rcases enter_cases (after calls) c.1 c.2 with ⟨-, hrun⟩ | ⟨hnew, hrun⟩
    · rw [hrun]
      exact ih
    · rw [hrun]
      exact ih.concat c.1 c.2 hnew

/-- **The tools are those of the calls that were not refused**, in the order of the calls. -/
theorem map_tools_after (calls : List (ToolSpec × ToolAdapter)) :
    (after calls).tools.map (fun t => (t.spec, t.adapter)) = accepted calls := by
  induction calls using List.reverseRecOn with
  | nil => rfl
  | append_singleton calls c ih =>
    rw [after_concat, accepted_concat]
    rcases enter_cases (after calls) c.1 c.2 with ⟨-, hrun⟩ | ⟨-, hrun⟩
    · rw [hrun]
      exact ih.trans (List.append_nil _).symm
    · rw [hrun, List.map_append, ih]
      rfl

/-- The toolbox is the one that is left when refused calls are passed over. -/
theorem after_eq_foldl (calls : List (ToolSpec × ToolAdapter)) :
    after calls = calls.foldl (fun b c => (b.register c.1 c.2).toOption.getD b) empty := by
  induction calls using List.reverseRecOn with
  | nil => rfl
  | append_singleton calls c ih =>
    rw [after_concat, List.foldl_append, ← ih, enter_eq, List.foldl_cons, List.foldl_nil]
    cases (after calls).register c.1 c.2 with
    | ok b => rfl
    | error f => rfl

/-- **The catalog is made by registration.** -/
theorem built_catalog : Catalog.toolbox.Built := by
  have hcatalog : Catalog.toolbox = after (Catalog.entries.map fun e => (e.spec, e.adapter)) := by
    rw [after_eq_foldl, List.foldl_map]
    rfl
  rw [hcatalog]
  exact built_after _

/-! ## What calls keep -/

/-- **A toolbox that some calls account for**: it holds what they registered, and it is ready for another call and for
being asked. -/
structure Registered (calls : List (ToolSpec × ToolAdapter)) (b : Toolbox) : Prop where
  /-- No two tools share an identity. -/
  ids : (b.tools.map fun t => toolId t.name).Nodup
  /-- A tool's rank is its place. -/
  ranks : b.tools.map Tool.rank = List.range b.tools.length
  /-- The tools are those of the calls that were not refused, in the order of the calls. -/
  tools : b.tools.map (fun t => (t.spec, t.adapter)) = accepted calls
  /-- A call is refused exactly if there is a tool of the same identity, and then the toolbox is as it was. -/
  refused : ∀ spec adapter, (enter spec adapter).run b = (.error (.duplicateTool spec.name), b) ↔
    ∃ t ∈ b.tools, toolId t.name = toolId spec.name
  /-- Any other call adds its tool behind the others. -/
  added : ∀ spec adapter,
    (enter spec adapter).run b = (.ok (), ⟨b.tools ++ [⟨spec, adapter, b.tools.length⟩]⟩) ↔
      ∀ t ∈ b.tools, toolId t.name ≠ toolId spec.name
  /-- A spelling finds a tool exactly if it is known. -/
  known : ∀ id, b.contains id = true ↔ ∃ t, b.get id = .ok t
  /-- It is known exactly if a tool was registered under a name of the same identity. -/
  named : ∀ id, b.contains id = true ↔ ∃ c ∈ accepted calls, toolId c.1.name = toolId id
  /-- What it finds is the one tool of its identity. -/
  found : ∀ id t, b.get id = .ok t ↔ t ∈ b.tools ∧ toolId t.name = toolId id

/-- **Whatever tools are registered, refused or not, the toolbox accounts for it.** -/
theorem registered_after (calls : List (ToolSpec × ToolAdapter)) : Registered calls (after calls) where
  ids := (built_after calls).nodup_id
  ranks := (built_after calls).map_rank
  tools := map_tools_after calls
  refused _ _ := enter_eq_error_iff
  added _ _ := enter_eq_ok_iff
  known _ := contains_iff_get
  named id := by
    rw [contains_iff_get, ← map_tools_after]
    constructor
    · rintro ⟨t, ht⟩
      obtain ⟨hmem, hid⟩ := (built_after calls).get_eq_ok_iff.1 ht
      exact ⟨_, List.mem_map_of_mem hmem, hid⟩
    · rintro ⟨c, hc, hid⟩
      obtain ⟨t, hmem, rfl⟩ := List.mem_map.1 hc
      exact ⟨t, (built_after calls).get_eq_ok_iff.2 ⟨hmem, hid⟩⟩
  found _ _ := (built_after calls).get_eq_ok_iff

/-- Three calls, the second of which spells the name of the first in another way. -/
def respelledCalls : List (ToolSpec × ToolAdapter) :=
  ["my_tool", " My-Tool\t", "other"].map fun name => ({ name }, ⟨fun _ => .ok [], [], fun _ => [], none⟩)

/-- The second one is refused, and its spelling finds the first one. -/
theorem registered_after_respelled :
    ((after respelledCalls).tools.map fun t => (t.name, t.rank)) = [("my_tool", 0), ("other", 1)] ∧
      ∃ t, (after respelledCalls).get " My-Tool\t" = .ok t ∧ t.name = "my_tool" := by
  have htools : ((after respelledCalls).tools.map fun t => (t.name, t.rank)) = [("my_tool", 0), ("other", 1)] := by
    decide +kernel
  obtain ⟨t, ht, hname⟩ : ∃ t ∈ (after respelledCalls).tools, (t.name, t.rank) = ("my_tool", 0) :=
    List.mem_map.1 (htools ▸ List.mem_cons_self)
  have hfirst : t.name = "my_tool" := congrArg Prod.fst hname
  refine ⟨htools, t, ?_, hfirst⟩
  rw [(registered_after respelledCalls).found, hfirst]
  exact ⟨ht, by decide +kernel⟩

end Toolbox

end Multilint
