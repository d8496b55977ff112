import Multilint.Catalog.Tools
import Multilint.Proofs.Keyed
import Multilint.Proofs.Sequence
/-!
# Overrides of options

Overrides are laid over the declared options if none of them is at fault (`merge_eq_ok_iff`), and otherwise
the first one that is at fault is reported (`merge_eq_error_iff`). A value is at fault where nothing is
declared under its key or where it has another type than the default; but `null` is let through for every
option, so that it takes away a value that the tool relies on. `effectiveOptions_typed_iff` says what the
options of a tool are, and that they keep the declared types exactly if no option is cleared in this way.
-/

namespace Multilint

namespace Json

theorem isNull_iff {v : Json} : v.isNull = true ↔ v = .null := by
  cases v <;> simp [isNull]

theorem kind_eq_null_iff {v : Json} : v.kind = .null ↔ v = .null := by
  cases v <;> simp [kind]

end Json

namespace Options

variable {declared overrides o : Options} {key : String} {v d : Json} {f : OptionFault}

/-- **Options in the order of their keys**, each key once. -/
def Ordered (o : Options) : Prop :=
  Keyed.Ordered o.entries

instance : Decidable o.Ordered :=
  inferInstanceAs (Decidable (Keyed.Ordered o.entries))

theorem ordered_ofList (es : List (String × Json)) : (ofList es).Ordered :=
  Keyed.ordered_ofList es

/-! ## One override -/

/-- A value may stand for an option exactly if it has the type of a default that is not `null`, or is `null`
itself. -/
theorem admits_iff : admits d v = true ↔ (d ≠ .null → v.kind = d.kind ∨ v = .null) := by
  simp only [admits, Bool.or_eq_true, Json.isNull_iff, decide_eq_true_eq, eq_comm (a := d.kind)]
  tauto

/-- **An override is without fault** exactly if its key is declared and its value may stand there. -/
theorem fault?_eq_none_iff : fault? declared key v = none ↔
    ∃ d, declared.get? key = some d ∧ (d ≠ .null → v.kind = d.kind ∨ v = .null) := by
  simp only [← admits_iff]
  rw [fault?]
  cases declared.get? key with
  | none => simp
  | some d => simp

/-- **What a fault says**: the key and the keys there are, or the key and the two types. -/
theorem fault?_eq_some_iff : fault? declared key v = some f ↔
    declared.get? key = none ∧ f = .unknown key declared.keys ∨
      ∃ d, declared.get? key = some d ∧ d ≠ .null ∧ v ≠ .null ∧ v.kind ≠ d.kind ∧
        f = .wrongKind key d.kind v.kind := by
  rw [fault?]
  cases declared.get? key with
  | none => simp [eq_comm]
  | some d =>
    simp only [reduceCtorEq, false_and, false_or, Option.some.injEq, exists_eq_left']
    split
    · rename_i hadmits
      rw [admits_iff] at hadmits
      exact iff_of_false (by simp) fun ⟨hd, hv, hkind, _⟩ => (hadmits hd).elim hkind hv
    · rename_i hnot
      rw [admits_iff, Classical.not_imp, not_or] at hnot
      obtain ⟨hd, hkind, hv⟩ := hnot
      rw [Option.some.injEq, eq_comm, and_iff_right hd, and_iff_right hv, and_iff_right hkind]

/-! ## All overrides -/

/-- What an override comes to: nothing, or a fault. -/
def judge (declared : Options) (e : String × Json) : Except OptionFault Unit :=
  match fault? declared e.1 e.2 with
  | some f => .error f
  | none => .ok ()

theorem judge_eq_ok_iff {e : String × Json} :
    judge declared e = .ok () ↔ fault? declared e.1 e.2 = none := by
  rw [judge]
  cases fault? declared e.1 e.2 <;> simp

theorem judge_eq_error_iff {e : String × Json} :
    judge declared e = .error f ↔ fault? declared e.1 e.2 = some f := by
  rw [judge]
  cases fault? declared e.1 e.2 <;> simp

/-- One more override is laid over the options, if it is without fault. -/
def mergeOne (declared merged : Options) (e : String × Json) : Except OptionFault Options :=
  (judge declared e).map fun _ => merged.insert e.1 e.2

theorem merge_eq_foldlM : declared.merge overrides = overrides.entries.foldlM (mergeOne declared) declared := by
  rw [merge]
  congr 1
  funext merged e
  rw [mergeOne, judge]
  cases fault? declared e.1 e.2 <;> rfl

theorem foldlM_mergeOne_eq_ok_iff {es : List (String × Json)} {merged : Options} :
    es.foldlM (mergeOne declared) merged = .ok o ↔
      (∀ e ∈ es, fault? declared e.1 e.2 = none) ∧ o = ⟨Keyed.overlay merged.entries es⟩ := by
  induction es generalizing merged with
  | nil => simp [Keyed.overlay, pure, Except.pure, eq_comm]
  | cons e es ih =>
    rw [List.foldlM_cons, Sequence.bind_eq_ok_iff, List.forall_mem_cons, ← judge_eq_ok_iff, mergeOne]
    cases judge declared e with
    | error f => simp [Except.map]
    | ok _ =>
      simp only [Except.map, Except.ok.injEq, exists_eq_left', ih, true_and]
      rfl

theorem foldlM_mergeOne_eq_error_iff {es : List (String × Json)} {merged : Options} :
    es.foldlM (mergeOne declared) merged = .error f ↔ Sequence.FirstFails (judge declared) es f := by
  induction es generalizing merged with
  | nil => exact iff_of_false (fun h => by cases h) Sequence.not_firstFails_nil
  | cons e es ih =>
    rw [List.foldlM_cons, Sequence.firstFails_cons_iff, mergeOne]
    cases judge declared e with
    | error f' => simp [bind, Except.bind, Except.map]
    | ok _ => simpa [bind, Except.bind, Except.map] using ih

/-- **Overrides without fault are laid over the declared options.** -/
theorem merge_eq_ok_iff : declared.merge overrides = .ok o ↔
    (∀ e ∈ overrides.entries, fault? declared e.1 e.2 = none) ∧
      o = ⟨Keyed.overlay declared.entries overrides.entries⟩ := by
  rw [merge_eq_foldlM, foldlM_mergeOne_eq_ok_iff]

/-- **The first override at fault** is the one that is reported. -/
theorem merge_eq_error_iff : declared.merge overrides = .error f ↔
    Sequence.FirstFails (judge declared) overrides.entries f := by
  rw [merge_eq_foldlM, foldlM_mergeOne_eq_error_iff]

/-! ## Declared types -/

/-- **Overrides of the declared types**: each key is declared, and where its default is not `null` the value
has the type of the default. -/
def Typed (declared overrides : Options) : Prop :=
  ∀ key v, overrides.get? key = some v →
    ∃ d, declared.get? key = some d ∧ (d ≠ .null → v.kind = d.kind)

/-- **An option is cleared**: `null` is given for it, and its default is not `null`. -/
def Clears (declared overrides : Options) (key : String) : Prop :=
  overrides.get? key = some .null ∧ ∃ d, declared.get? key = some d ∧ d ≠ .null

theorem not_clears_of_typed (h : Typed declared overrides) (key : String) :
    ¬ Clears declared overrides key := by
  rintro ⟨hnull, d, hd, hne⟩
  obtain ⟨d', hd', hkind⟩ := h key .null hnull
  obtain rfl := Option.some.inj (hd.symm.trans hd')
  exact hne (Json.kind_eq_null_iff.1 (hkind hne).symm)

/-- **Overrides are merged** exactly if each key is declared and each value has the type of a default that is
not `null`, or is `null`. -/
theorem exists_merge_iff (hoverrides : overrides.Ordered) :
    (∃ o, declared.merge overrides = .ok o) ↔ ∀ key v, overrides.get? key = some v →
      ∃ d, declared.get? key = some d ∧ (d ≠ .null → v.kind = d.kind ∨ v = .null) := by
  simp only [merge_eq_ok_iff, fault?_eq_none_iff, exists_and_left, exists_eq, and_true]
  constructor
  · intro h key v hv
    exact h (key, v) ((Keyed.get?_eq_some_iff hoverrides).1 hv)
  · rintro h ⟨key, v⟩ hv
    exact h key v ((Keyed.get?_eq_some_iff hoverrides).2 hv)

/-- Merged overrides are of the declared types exactly if they clear nothing. -/
theorem typed_iff_of_merged (hoverrides : overrides.Ordered) (ho : declared.merge overrides = .ok o) :
    Typed declared overrides ↔ ∀ key, ¬ Clears declared overrides key := by
  refine ⟨not_clears_of_typed, fun hclears key v hv => ?_⟩
  obtain ⟨d, hd, hkind⟩ := (exists_merge_iff hoverrides).1 ⟨o, ho⟩ key v hv
  refine ⟨d, hd, fun hne => (hkind hne).resolve_right ?_⟩
  rintro rfl
  exact hclears key ⟨hv, d, hd, hne⟩

theorem exists_merge_of_typed (hoverrides : overrides.Ordered) (h : Typed declared overrides) :
    ∃ o, declared.merge overrides = .ok o := by
  refine (exists_merge_iff hoverrides).2 fun key v hv => ?_
  obtain ⟨d, hd, hkind⟩ := h key v hv
  exact ⟨d, hd, fun hne => Or.inl (hkind hne)⟩

/-- **The declared types decide** whether overrides are merged, unless these clear an option. -/
theorem exists_merge_iff_typed_iff (hoverrides : overrides.Ordered) :
    ((∃ o, declared.merge overrides = .ok o) ↔ Typed declared overrides) ↔
      ¬ ((∃ o, declared.merge overrides = .ok o) ∧ ∃ key, Clears declared overrides key) := by
  by_cases hok : ∃ o, declared.merge overrides = .ok o
  · rw [iff_true_left hok, and_iff_right hok, not_exists]
    obtain ⟨o, ho⟩ := hok
    exact typed_iff_of_merged hoverrides ho
  · have hnot : ¬ Typed declared overrides := mt (exists_merge_of_typed hoverrides) hok
    exact iff_of_true (iff_of_false hok hnot) fun h => hok h.1

/-- **What overrides are merged to**: the declared keys, each with its override or else its default. -/
theorem merged_spec (hdeclared : declared.Ordered) (hoverrides : overrides.Ordered)
    (ho : declared.merge overrides = .ok o) :
    o.keys = declared.keys ∧ ∀ key, o.get? key = (overrides.get? key).or (declared.get? key) := by
  obtain ⟨hfaults, rfl⟩ := merge_eq_ok_iff.1 ho
  refine ⟨Keyed.keys_overlay hdeclared fun e he => ?_, fun key => Keyed.get?_overlay hoverrides⟩
  obtain ⟨d, hd, -⟩ := fault?_eq_none_iff.1 (hfaults e he)
  exact Keyed.mem_keys_iff.2 ⟨d, hd⟩

/-- **The options keep the types of their defaults** exactly if none is cleared. -/
theorem kinds_kept_iff (hdeclared : declared.Ordered) (hoverrides : overrides.Ordered)
    (ho : declared.merge overrides = .ok o) :
    (∀ key d, declared.get? key = some d → d ≠ .null → ∃ v, o.get? key = some v ∧ v.kind = d.kind) ↔
      ∀ key, ¬ Clears declared overrides key := by
  obtain ⟨-, hget⟩ := merged_spec hdeclared hoverrides ho
  constructor
  · rintro hkept key ⟨hnull, d, hd, hne⟩
    obtain ⟨v, hv, hkind⟩ := hkept key d hd hne
    rw [hget, hnull, Option.some_or, Option.some.injEq] at hv
    subst hv
    exact hne (Json.kind_eq_null_iff.1 hkind.symm)
  · intro hclears key d hd hne
    rw [hget, hd]
    cases hv : overrides.get? key with
    | none => exact ⟨d, rfl, rfl⟩
    | some v =>
      obtain ⟨d', hd', hkind⟩ := (typed_iff_of_merged hoverrides ho).2 hclears key v hv
      obtain rfl := Option.some.inj (hd.symm.trans hd')
      exact ⟨v, rfl, hkind hne⟩

end Options

namespace ToolSpec

variable {spec : ToolSpec} {overrides o : Options} {f : Failure}

theorem effectiveOptions_eq_ok_iff :
    spec.effectiveOptions overrides = .ok o ↔ spec.defaults.merge overrides = .ok o := by
  rw [effectiveOptions]
  cases spec.defaults.merge overrides <;> simp

theorem effectiveOptions_eq_error_iff : spec.effectiveOptions overrides = .error f ↔
    ∃ fault, f = .invalidOption spec.name fault ∧ spec.defaults.merge overrides = .error fault := by
  rw [effectiveOptions]
  cases spec.defaults.merge overrides <;> simp [eq_comm]

/-- **What overrides make of the options of a tool.** They are accepted exactly if each key is declared and
each value has the type of its default wherever the default is not `null`, or is `null`; so they are accepted
where they should be, by the declared types alone, unless they clear an option. The options have the declared
keys, each with its override or else its default, and they have the types of the defaults that are not `null`
exactly if no option is cleared. Otherwise the failure names an override at fault, by its key and the
declared ones or by the two types, and holds no option. -/
theorem effectiveOptions_typed_iff (hdefaults : spec.defaults.Ordered) (hoverrides : overrides.Ordered) :
    ((∃ o, spec.effectiveOptions overrides = .ok o) ↔
      ∀ key v, overrides.get? key = some v →
        ∃ d, spec.defaults.get? key = some d ∧ (d ≠ .null → v.kind = d.kind ∨ v = .null)) ∧
    (((∃ o, spec.effectiveOptions overrides = .ok o) ↔ Options.Typed spec.defaults overrides) ↔
      ¬ ((∃ o, spec.effectiveOptions overrides = .ok o) ∧
        ∃ key, Options.Clears spec.defaults overrides key)) ∧
    (∀ o, spec.effectiveOptions overrides = .ok o →
      o.keys = spec.defaults.keys ∧
      (∀ key, o.get? key = (overrides.get? key).or (spec.defaults.get? key)) ∧
      ((∀ key d, spec.defaults.get? key = some d → d ≠ .null →
          ∃ v, o.get? key = some v ∧ v.kind = d.kind) ↔
        ∀ key, ¬ Options.Clears spec.defaults overrides key)) ∧
    (∀ f, spec.effectiveOptions overrides = .error f →
      ∃ fault key v, f = .invalidOption spec.name fault ∧ overrides.get? key = some v ∧
        (spec.defaults.get? key = none ∧ fault = .unknown key spec.defaults.keys ∨
          ∃ d, spec.defaults.get? key = some d ∧ d ≠ .null ∧ v ≠ .null ∧ v.kind ≠ d.kind ∧
            fault = .wrongKind key d.kind v.kind)) := by
  simp only [effectiveOptions_eq_ok_iff]
  refine ⟨Options.exists_merge_iff hoverrides, Options.exists_merge_iff_typed_iff hoverrides,
    fun o ho => ?_, fun f hf => ?_⟩
  · obtain ⟨hkeys, hget⟩ := Options.merged_spec hdefaults hoverrides ho
    exact ⟨hkeys, hget, Options.kinds_kept_iff hdefaults hoverrides ho⟩
  · obtain ⟨fault, rfl, hmerge⟩ := effectiveOptions_eq_error_iff.1 hf
    obtain ⟨before, ⟨key, v⟩, after, hentries, -, hjudge⟩ := Options.merge_eq_error_iff.1 hmerge
    refine ⟨fault, key, v, rfl, ?_, Options.fault?_eq_some_iff.1 (Options.judge_eq_error_iff.1 hjudge)⟩
    exact (Keyed.get?_eq_some_iff hoverrides).2 (by simp [hentries])

/-- Overrides of a flag and of an option without a default value. -/
def strictOverrides : Options :=
  .ofList [("strict", .bool true), ("python_version", .string "3.11")]

/-- A flag is set and an option gets its first value, and all options keep their types. -/
theorem effectiveOptions_typed_iff_strict :
    Catalog.mypy.spec.defaults.Ordered ∧ strictOverrides.Ordered ∧
      ∃ o, Catalog.mypy.spec.effectiveOptions strictOverrides = .ok o ∧
        o.keys = ["config_file", "ignore_missing_imports", "python_version", "strict"] ∧
        o.get? "strict" = some (.bool true) ∧
        (∀ key d, Catalog.mypy.spec.defaults.get? key = some d → d ≠ .null →
          ∃ v, o.get? key = some v ∧ v.kind = d.kind) := by
  have hdefaults : Catalog.mypy.spec.defaults.Ordered := Options.ordered_ofList _
  have hoverrides : strictOverrides.Ordered := Options.ordered_ofList _
  have hmerged : Catalog.mypy.spec.effectiveOptions strictOverrides = .ok ⟨[("config_file", .null),
    ("ignore_missing_imports", .bool true), ("python_version", .string "3.11"),
    ("strict", .bool true)]⟩ := by rfl
  obtain ⟨-, -, hok, -⟩ := effectiveOptions_typed_iff hdefaults hoverrides
  obtain ⟨hkeys, -, hkinds⟩ := hok _ hmerged
  refine ⟨hdefaults, hoverrides, _, hmerged, by decide, by rfl, hkinds.2 ?_⟩
  rintro key ⟨hnull, -⟩
  have hmem : (key, Json.null) ∈ strictOverrides.entries := (Keyed.get?_eq_some_iff hoverrides).1 hnull
  have hentries : strictOverrides.entries =
    [("python_version", .string "3.11"), ("strict", .bool true)] := by rfl
  rw [hentries] at hmem
  simp at hmem

/-- **`null` takes the place of a flag that is set**: it is accepted, though it is no truth value. -/
theorem null_accepted_for_flag :
    ¬ ∀ (spec : ToolSpec) (overrides : Options), spec.defaults.Ordered → overrides.Ordered →
      ((∃ o, spec.effectiveOptions overrides = .ok o) ↔ Options.Typed spec.defaults overrides) := by
  intro htypedIff
  have hmerged : Catalog.mypy.spec.effectiveOptions (.ofList [("ignore_missing_imports", .null)]) =
    .ok ⟨[("config_file", .null), ("ignore_missing_imports", .null), ("python_version", .null),
      ("strict", .bool false)]⟩ := by rfl
  have htyped := (htypedIff _ _ (Options.ordered_ofList _) (Options.ordered_ofList _)).1 ⟨_, hmerged⟩
  obtain ⟨d, hd, hkind⟩ := htyped "ignore_missing_imports" .null (by rfl)
  obtain rfl : Json.bool true = d := Option.some.inj hd
  have hkind' : JsonKind.null = .boolean := hkind (by simp)
  cases hkind'

end ToolSpec

end Multilint
