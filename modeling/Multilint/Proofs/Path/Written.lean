import Multilint.Proofs.Path.Normal
import Multilint.Proofs.Text.Pieces
/-!
# The text of a path

A path from the root is written as its segments with a slash in front of each (`toList_toString`), and a
relative path is read back from its text (`ofString_toString`). Patterns see the text with slashes for
backslashes, so that a name with a backslash is several names to them: `Path.seen` are the names they see, and
the segments themselves where no name holds either of the two (`seen_eq_segments`).
-/

namespace Multilint

namespace Path

variable {p : Path} {s : String} {c : Char}

/-- **No segment holds a slash**, as in every path that is read from a text. -/
def Unslashed (p : Path) : Prop := ∀ s ∈ p.segments, '/' ∉ s.toList

/-- **No segment holds a backslash.** -/
def Plain (p : Path) : Prop := ∀ s ∈ p.segments, '\\' ∉ s.toList

instance (p : Path) : Decidable p.Unslashed := inferInstanceAs (Decidable (∀ s ∈ p.segments, _))

instance (p : Path) : Decidable p.Plain := inferInstanceAs (Decidable (∀ s ∈ p.segments, _))

theorem Unslashed.not_mem (h : p.Unslashed) : ∀ t ∈ p.segments.map String.toList, '/' ∉ t := by
  intro t ht
  obtain ⟨s, hs, rfl⟩ := List.mem_map.1 ht
  exact h s hs

/-! ## Paths from the root -/

/-- **A path from the root** is written with a slash in front of each segment. -/
theorem toList_toString (hr : p.rooted = true) (hne : p.segments ≠ []) :
    p.toString.toList = Text.ledBy '/' (p.segments.map String.toList) := by
  rw [Text.ledBy_eq_cons_intercalate (by simpa using hne)]
  simp [toString, hr]

/-- A character of a path that is no slash is one of a segment. -/
theorem exists_of_mem_toString (hc : c ∈ p.toString.toList) : c = '/' ∨ ∃ s ∈ p.segments, c ∈ s.toList := by
  rw [toString, String.toList_append, List.mem_append, String.toList_intercalate] at hc
  rcases hc with hc | hc
  · left
    split at hc
    · exact List.mem_singleton.1 hc
    · cases hc
  · rcases Text.mem_intercalate_imp hc with hc | ⟨u, hu, hc⟩
    · exact Or.inl (List.mem_singleton.1 hc)
    · obtain ⟨s, hs, rfl⟩ := List.mem_map.1 hu
      exact Or.inr ⟨s, hs, hc⟩

/-- A path without backslashes is seen as it is written. -/
theorem slashed_of_plain (h : p.Plain) : p.slashed = p.toString := by
  have hchars : ∀ d ∈ p.toString.toList, (if d = '\\' then '/' else d) = d := by
    intro d hd
    refine if_neg ?_
    rintro rfl
    rcases exists_of_mem_toString hd with h' | ⟨s, hs, h'⟩
    · exact absurd h' (by decide)
    · exact h s hs h'
  rw [slashed, List.map_congr_left hchars, List.map_id', String.ofList_toList]

/-! ## Reading a text -/

/-- **A path without backslashes** is read from a text without them. -/
theorem plain_ofString (h : '\\' ∉ s.toList) : (ofString s).Plain := by
  have hpieces : ∀ cs : List Char, cs <:+ s.toList →
      ∀ n ∈ (Text.splitOn '/' cs).map String.ofList, '\\' ∉ n.toList := by
    intro cs hcs n hn hback
    obtain ⟨u, hu, rfl⟩ := List.mem_map.1 hn
    rw [String.toList_ofList] at hback
    exact h (hcs.subset (Text.mem_of_mem_splitOn hu hback))
  rw [ofString]
  split
  · exact fun n hn => absurd hn List.not_mem_nil
  · exact fun n hn => absurd hn List.not_mem_nil
  · rename_i cs _ hs
    exact hpieces cs (hs ▸ List.suffix_cons '/' cs)
  · exact hpieces _ (List.suffix_refl _)

/-- The text of a relative path starts with its first segment. -/
theorem exists_toList_toString {ns : List String} (hr : p.rooted = false) (hp : p.segments = s :: ns) :
    ∃ x, p.toString.toList = s.toList ++ x := by
  rw [toString, hr, hp]
  cases ns with
  | nil => exact ⟨[], by simp⟩
  | cons n ns => exact ⟨'/' :: ("/".intercalate (n :: ns)).toList, by simp [String.intercalate_cons_cons]⟩

/-- **A relative path is read back** from its text, if its first segment is not empty. -/
theorem ofString_toString (hr : p.rooted = false) (hslash : p.Unslashed)
    (hfirst : p.segments.head? ≠ some "") : ofString p.toString = p := by
  obtain ⟨rooted, segments⟩ := p
  subst hr
  cases segments with
  | nil => decide
  | cons n ns =>
    obtain ⟨x, hx⟩ := exists_toList_toString (p := ⟨false, n :: ns⟩) rfl rfl
    have hread : Text.pieces '/' (toString ⟨false, n :: ns⟩) = n :: ns := by
      rw [toString, if_neg Bool.false_ne_true, String.empty_append]
      exact Text.pieces_intercalate (List.cons_ne_nil n ns) hslash.not_mem
    cases hn : n.toList with
    | nil => exact absurd (congrArg some (String.toList_eq_nil_iff.1 hn)) hfirst
    | cons c cs =>
      have hc : c ≠ '/' := by
        rintro rfl
        exact hslash n List.mem_cons_self (hn ▸ List.mem_cons_self)
      rw [hn, List.cons_append] at hx
      have hstart : ∀ y, (toString ⟨false, n :: ns⟩).toList ≠ '/' :: y := by
        intro y hy
        rw [hx] at hy
        exact hc (List.cons.inj hy).1
      rw [ofString]
      split
      · rename_i hempty
        rw [hempty] at hx
        cases hx
      · rename_i hroot
        exact absurd hroot (hstart [])
      · rename_i y _ hy
        exact absurd hy (hstart y)
      · exact congrArg (mk false) hread

/-- The text of a relative path that patterns see starts like its first segment. -/
theorem head?_slashed {ns : List String} (hr : p.rooted = false) (hp : p.segments = s :: ns) (hs : s ≠ "") :
    p.slashed.toList.head? = s.toList.head?.map fun c => if c = '\\' then '/' else c := by
  obtain ⟨x, hx⟩ := exists_toList_toString hr hp
  obtain ⟨c, cs, hcs⟩ := List.exists_cons_of_ne_nil fun h => hs (String.toList_eq_nil_iff.1 h)
  rw [slashed, String.toList_ofList, hx, hcs]
  rfl

/-! ## The names that patterns see -/

/-- What patterns see holds no backslash. -/
theorem not_mem_slashed : '\\' ∉ p.slashed.toList := by
  rw [slashed, String.toList_ofList, List.mem_map]
  rintro ⟨c, -, hc⟩
  split at hc
  · cases hc
  · rename_i hne
    exact hne hc

/-- **The names of a path from the root as patterns see them**: a backslash is a slash. -/
def seen (p : Path) : List String :=
  (Text.pieces '/' p.slashed).tail

theorem toList_slashed (hr : p.rooted = true) :
    p.slashed.toList = Text.ledBy '/' (p.seen.map String.toList) := by
  obtain ⟨x, hx⟩ := slashed_of_rooted hr
  have hseen : p.seen.map String.toList = Text.splitOn '/' x := by
    rw [seen, List.map_tail, Text.map_toList_pieces, hx, Text.splitOn, if_pos rfl, List.tail_cons]
  rw [hseen, Text.ledBy_splitOn, hx]

/-- No name that is seen holds a slash. -/
theorem not_mem_of_mem_seen : ∀ t ∈ p.seen.map String.toList, '/' ∉ t := fun t ht =>
  Text.not_mem_of_mem_pieces t (List.map_subset _ (fun _ => List.mem_of_mem_tail) ht)

/-- Of the root one empty name is seen. -/
theorem seen_of_root (hr : p.rooted = true) (hroot : p.segments = []) : p.seen = [""] := by
  obtain ⟨rooted, segments⟩ := p
  subst hr hroot
  decide

/-- **A path goes on behind given names** where its text does behind theirs. -/
theorem seen_eq_append_iff {ns : List String} {cs : List Char} (hr : p.rooted = true)
    (hns : ∀ t ∈ ns.map String.toList, '/' ∉ t) :
    p.seen = ns ++ Text.pieces '/' (String.ofList cs) ↔
      p.slashed.toList = Text.ledBy '/' (ns.map String.toList) ++ '/' :: cs := by
  have hcut : Text.ledBy '/' ((ns ++ Text.pieces '/' (String.ofList cs)).map String.toList) =
      Text.ledBy '/' (ns.map String.toList) ++ '/' :: cs := by
    rw [List.map_append, Text.ledBy_append, Text.map_toList_pieces, Text.ledBy_splitOn,
      String.toList_ofList]
  rw [toList_slashed hr, ← hcut]
  refine ⟨fun h => by rw [h], fun h => ?_⟩
  refine List.map_injective_iff.2 (fun _ _ => String.toList_inj.1)
    (Text.ledBy_inj not_mem_of_mem_seen (fun t ht => ?_) h)
  rw [List.map_append, List.mem_append] at ht
  exact ht.elim (hns t) (Text.not_mem_of_mem_pieces t)

/-- **Where no name holds a backslash**, the names that are seen are the names. -/
theorem seen_eq_segments (hr : p.rooted = true) (hne : p.segments ≠ []) (hslash : p.Unslashed)
    (hplain : p.Plain) : p.seen = p.segments := by
  have hsame : Text.ledBy '/' (p.seen.map String.toList) =
      Text.ledBy '/' (p.segments.map String.toList) := by
    rw [← toList_slashed hr, slashed_of_plain hplain, toList_toString hr hne]
  have hnames := Text.ledBy_inj not_mem_of_mem_seen hslash.not_mem hsame
  exact List.map_injective_iff.2 (fun _ _ => String.toList_inj.1) hnames

end Path

end Multilint
