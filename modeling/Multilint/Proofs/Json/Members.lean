import Multilint.Json.Basic
import Mathlib.Data.List.Induction
import Mathlib.Data.List.Nodup
/-!
# Members of objects

What a document says at a path is what its members say, one key after another. Members that are put in one by
one are found under their keys: a later one of a key replaces an earlier one (`member?_put`), and where no
key comes twice the object is just the list of them (`putAll_of_nodup`).
-/

namespace Multilint

namespace Json

variable {ms ms' : List (String × Json)} {key k : String} {v : Json}

/-- **What a document says at a path** of keys. -/
def at? (v : Json) (path : List String) : Option Json :=
  path.foldlM member? v

@[simp] theorem at?_nil : v.at? [] = some v := rfl

@[simp] theorem at?_cons {path : List String} :
    v.at? (key :: path) = (v.member? key).bind (at? · path) := rfl

/-! ## Listed members -/

@[simp] theorem member?_nil : (object []).member? k = none := rfl

/-- Members are looked through from the front. -/
@[simp] theorem member?_cons :
    (object ((key, v) :: ms)).member? k = if key = k then some v else (object ms).member? k := by
  by_cases hkey : key = k <;> simp [member?, object?, hkey]

theorem member?_append :
    (object (ms ++ ms')).member? k = ((object ms).member? k).or ((object ms').member? k) := by
  induction ms with
  | nil => rfl
  | cons m ms ih =>
    rw [List.cons_append, member?_cons, member?_cons, ih]
    split <;> rfl

/-- There is a member under the keys that are listed. -/
theorem isSome_member?_iff : ((object ms).member? k).isSome = true ↔ k ∈ ms.map Prod.fst := by
  induction ms with
  | nil => simp
  | cons m ms ih =>
    rw [member?_cons, List.map_cons, List.mem_cons]
    by_cases hkey : m.1 = k
    · simp [hkey]
    · rw [if_neg hkey, ih, or_iff_right (Ne.symm hkey)]

/-! ## Members put in one by one -/

/-- A value that is replaced is found, if it was there. -/
theorem member?_replace (hkey : key ∈ ms.map Prod.fst) :
    (object (ms.map fun m => if m.1 = key then (key, v) else m)).member? key = some v := by
  induction ms with
  | nil => cases hkey
  | cons m ms ih =>
    rw [List.map_cons, List.mem_cons] at hkey
    rw [List.map_cons]
    by_cases hm : m.1 = key
    · rw [if_pos hm, member?_cons, if_pos rfl]
    · rw [if_neg hm, member?_cons, if_neg hm, ih (hkey.resolve_left (Ne.symm hm))]

theorem member?_replace_of_ne (hk : key ≠ k) :
    (object (ms.map fun m => if m.1 = key then (key, v) else m)).member? k =
      (object ms).member? k := by
  induction ms with
  | nil => rfl
  | cons m ms ih =>
    rw [List.map_cons]
    by_cases hm : m.1 = key
    · rw [if_pos hm, member?_cons, member?_cons, ih, if_neg hk, if_neg (hm ▸ hk)]
    · rw [if_neg hm, member?_cons, member?_cons, ih]

/-- **A member that is put in** is found under its key, and the others where they were. -/
theorem member?_put :
    (object (put ms key v)).member? k = if key = k then some v else (object ms).member? k := by
  have hlisted : ms.any (·.1 = key) = true ↔ key ∈ ms.map Prod.fst := by simp
  rw [put]
  split
  · rename_i hany
    split
    · rename_i hk
      rw [← hk]
      exact member?_replace (hlisted.1 hany)
    · rename_i hk
      exact member?_replace_of_ne hk
  · rename_i hany
    rw [member?_append, member?_cons, member?_nil]
    split
    · rename_i hk
      have hnone : (object ms).member? k = none := by
        rwa [← Option.not_isSome_iff_eq_none, isSome_member?_iff, ← hk, ← hlisted]
      rw [hnone]
      rfl
    · exact Option.or_none

/-- The members of an object that a list of them has been put in. -/
def putAll (es : List (String × Json)) : List (String × Json) :=
  es.foldl (fun ms e => put ms e.1 e.2) []

theorem putAll_concat (es : List (String × Json)) (e : String × Json) :
    putAll (es ++ [e]) = put (putAll es) e.1 e.2 := by
  rw [putAll, List.foldl_append]
  rfl

variable {es : List (String × Json)}

/-- **Members put in one by one are found** where all of a key have one value. -/
theorem member?_putAll (hk : k ∈ es.map Prod.fst) (hv : ∀ e ∈ es, e.1 = k → e.2 = v) :
    (object (putAll es)).member? k = some v := by
  induction es using List.reverseRecOn with
  | nil => cases hk
  | append_singleton es e ih =>
    rw [putAll_concat, member?_put]
    by_cases hkey : e.1 = k
    · rw [if_pos hkey, hv e (by simp) hkey]
    · rw [if_neg hkey]
      refine ih ?_ fun e he => hv e (List.mem_append_left _ he)
      simpa [Ne.symm hkey] using hk

/-- And nothing else is. -/
theorem isSome_member?_putAll_iff :
    ((object (putAll es)).member? k).isSome = true ↔ k ∈ es.map Prod.fst := by
  induction es using List.reverseRecOn with
  | nil => simp [putAll]
  | append_singleton es e ih =>
    rw [putAll_concat, member?_put, List.map_append, List.mem_append, ← ih]
    by_cases hkey : e.1 = k
    · simp [hkey]
    · simp [hkey, Ne.symm hkey]

/-- **Members of different keys** stand as they were put in. -/
theorem putAll_of_nodup (hes : (es.map Prod.fst).Nodup) : putAll es = es := by
  induction es using List.reverseRecOn with
  | nil => rfl
  | append_singleton es e ih =>
    rw [List.map_append, List.nodup_append] at hes
    obtain ⟨hnodup, -, hdisjoint⟩ := hes
    have hnew : ¬ es.any (·.1 = e.1) = true := by
      rw [List.any_eq_true]
      rintro ⟨d, hd, heq⟩
      exact hdisjoint d.1 (List.mem_map_of_mem hd) e.1 (by simp) (by simpa using heq)
    rw [putAll_concat, ih hnodup, put, if_neg hnew]

end Json

end Multilint
