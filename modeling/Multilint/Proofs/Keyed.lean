import Multilint.Keyed
import Mathlib.Data.String.Basic
import Mathlib.Data.List.Basic
/-!
# Lists under keys

Where the keys of a list increase, each key has one value. Putting a value in changes what is found under its
key and nothing else (`get?_insert`), keeps the keys increasing (`Ordered.insert`) and keeps them as they are
where the key is among them (`keys_insert`). Putting in a whole list lays it over the other one
(`get?_overlay`, `keys_overlay`).
-/

namespace Multilint

namespace Keyed

variable {α : Type} {es base : List (String × α)} {e : String × α} {key k : String} {v w : α}

/-- The keys of a list. -/
def keys (es : List (String × α)) : List String :=
  es.map (·.1)

/-- **The keys increase**, so that each is there once. -/
def Ordered (es : List (String × α)) : Prop :=
  (keys es).Pairwise (· < ·)

instance : Decidable (Ordered es) :=
  inferInstanceAs (Decidable ((keys es).Pairwise (· < ·)))

/-- One list laid over another one: its values are put in, one after the other. -/
def overlay (base es : List (String × α)) : List (String × α) :=
  es.foldl (fun acc e => insert e.1 e.2 acc) base

theorem ofList_eq_overlay : ofList es = overlay [] es :=
  rfl

theorem ordered_cons_iff : Ordered (e :: es) ↔ (∀ k ∈ keys es, e.1 < k) ∧ Ordered es :=
  List.pairwise_cons

/-! ## What is found -/

theorem get?_cons : get? (e :: es) k = if e.1 = k then some e.2 else get? es k := by
  by_cases h : e.1 = k <;> simp [get?, h]

/-- **Something is found under the keys** and nowhere else. -/
theorem get?_eq_none_iff : get? es k = none ↔ k ∉ keys es := by
  simp only [get?, keys, Option.map_eq_none_iff, List.find?_eq_none, decide_eq_true_eq, List.mem_map,
    not_exists, not_and]

theorem mem_keys_iff : k ∈ keys es ↔ ∃ v, get? es k = some v := by
  rw [← Option.ne_none_iff_exists', Ne, get?_eq_none_iff, not_not]

/-- A key that is smaller than the others finds nothing among them. -/
theorem get?_eq_none_of_lt (h : ∀ k' ∈ keys es, k < k') : get? es k = none :=
  get?_eq_none_iff.2 fun hk => lt_irrefl k (h k hk)

/-- **The entries are what is found**, where the keys increase. -/
theorem get?_eq_some_iff (h : Ordered es) : get? es k = some v ↔ (k, v) ∈ es := by
  induction es with
  | nil => simp [get?]
  | cons e es ih =>
    obtain ⟨hlt, hes⟩ := ordered_cons_iff.1 h
    rw [get?_cons, List.mem_cons]
    by_cases hk : e.1 = k
    · subst hk
      -- the key of the first entry is no other one's
      have hnone : (e.1, v) ∉ es := by
        rw [← ih hes, get?_eq_none_of_lt hlt]
        simp
      rw [if_pos rfl, or_iff_left hnone, Option.some.injEq, Prod.ext_iff]
      simp [eq_comm]
    · rw [if_neg hk, ih hes, or_iff_right]
      rintro rfl
      exact hk rfl

/-! ## One more value -/

/-- **A value that is put in** is found under its key, and nothing else changes. -/
theorem get?_insert : get? (insert key v es) k = if key = k then some v else get? es k := by
  fun_induction insert key v es with
  | case1 => rw [get?_cons]
  | case2 k' w es _ => rw [get?_cons]
  | case3 w es _ =>
    rw [get?_cons, get?_cons]
    split <;> rfl
  | case4 k' w es _ hne ih =>
    rw [get?_cons, get?_cons, ih]
    by_cases hk : k' = k
    · subst hk
      rw [if_pos rfl, if_pos rfl, if_neg hne]
    · rw [if_neg hk, if_neg hk]

theorem mem_keys_insert : k ∈ keys (insert key v es) ↔ k = key ∨ k ∈ keys es := by
  rw [mem_keys_iff, mem_keys_iff, get?_insert]
  by_cases h : key = k
  · simp [h]
  · simp [h, Ne.symm h]

/-- **The keys still increase.** -/
theorem Ordered.insert (h : Ordered es) (key : String) (v : α) : Ordered (Keyed.insert key v es) := by
  induction es with
  | nil => exact List.pairwise_singleton _ _
  | cons e es ih =>
    obtain ⟨hlt, hes⟩ := ordered_cons_iff.1 h
    rw [Keyed.insert]
    split
    · rename_i hkey
      refine ordered_cons_iff.2 ⟨fun k hk => ?_, h⟩
      rcases List.mem_cons.1 hk with rfl | hk
      · exact hkey
      · exact hkey.trans (hlt k hk)
    · split
      · rename_i heq
        exact ordered_cons_iff.2 ⟨heq ▸ hlt, hes⟩
      · rename_i hnot hne
        refine ordered_cons_iff.2 ⟨fun k hk => ?_, ih hes⟩
        rcases mem_keys_insert.1 hk with rfl | hk
        · exact lt_of_le_of_ne (not_lt.1 hnot) (Ne.symm hne)
        · exact hlt k hk

/-- A value under a key that is there already adds no key. -/
theorem keys_insert (h : Ordered es) (hkey : key ∈ keys es) : keys (insert key v es) = keys es := by
  induction es with
  | nil => cases hkey
  | cons e es ih =>
    obtain ⟨hlt, hes⟩ := ordered_cons_iff.1 h
    rw [insert]
    rcases List.mem_cons.1 hkey with rfl | hmem
    · rw [if_neg (lt_irrefl _), if_pos rfl]
      rfl
    · have hgt : e.1 < key := hlt key hmem
      rw [if_neg hgt.not_gt, if_neg hgt.ne']
      exact congrArg (e.1 :: ·) (ih hes hmem)

/-! ## One list over another one -/

/-- **Under each key the upper list counts** where it has a value, and else the lower one. -/
theorem get?_overlay (h : Ordered es) : get? (overlay base es) k = (get? es k).or (get? base k) := by
  induction es generalizing base with
  | nil => rfl
  | cons e es ih =>
    obtain ⟨hlt, hes⟩ := ordered_cons_iff.1 h
    have hstep : overlay base (e :: es) = overlay (insert e.1 e.2 base) es := rfl
    rw [hstep, ih hes, get?_insert, get?_cons]
    by_cases hk : e.1 = k
    · subst hk
      rw [get?_eq_none_of_lt hlt, if_pos rfl, if_pos rfl]
      rfl
    · rw [if_neg hk, if_neg hk]

theorem Ordered.overlay (h : Ordered base) : Ordered (overlay base es) := by
  induction es generalizing base with
  | nil => exact h
  | cons e es ih => exact ih (h.insert e.1 e.2)

theorem ordered_ofList (es : List (String × α)) : Ordered (ofList es) :=
  ofList_eq_overlay ▸ Ordered.overlay List.Pairwise.nil

/-- Values under keys that are there already add no key. -/
theorem keys_overlay (h : Ordered base) (hkeys : ∀ e ∈ es, e.1 ∈ keys base) :
    keys (overlay base es) = keys base := by
  induction es generalizing base with
  | nil => rfl
  | cons e es ih =>
    rw [List.forall_mem_cons] at hkeys
    have hinsert : keys (insert e.1 e.2 base) = keys base := keys_insert h hkeys.1
    have hstep : overlay base (e :: es) = overlay (insert e.1 e.2 base) es := rfl
    rw [hstep, ih (h.insert e.1 e.2) (hinsert ▸ hkeys.2), hinsert]

end Keyed

end Multilint
