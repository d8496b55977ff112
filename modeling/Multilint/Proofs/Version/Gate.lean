import Multilint.Proofs.Run.Serving
import Multilint.Proofs.Schedule.Kernel
import Multilint.Proofs.Version.Comparison
import Multilint.Proofs.Version.Token
/-!
# What the version gate lets through

The gate compares the numbers it reads in the output of a version command, and these need not be all the
numbers of the version. `verdict_of_digitsIn` says what it decides where the output has one version text. A
version below the least one is stopped where its first number is read (`gate_belowMinimum_iff`), because
fewer numbers never make a greater version; one that is not below it passes where all its numbers are read
(`gate_eq_none_iff`).
-/

namespace Multilint

namespace Version

open Execution

variable {σ : Type} {h : Host σ} {t : Tool} {seconds : Nat} {s : Session σ}
  {spec : ToolSpec} {minimum output token : String} {before after : List Char} {v m : Version}

/-- **A tool that answers for its version**: it declares a least version and a version command, brings no
expression for the version, and the command succeeds and prints a text. -/
structure Answered (h : Host σ) (t : Tool) (seconds : Nat) (s : Session σ) (minimum output : String) :
    Prop where
  /-- The least version. -/
  minVersion : t.spec.minVersion = some minimum
  /-- There is a version command. -/
  versionCommand : t.spec.versionCommand ≠ []
  /-- There is no expression. -/
  versionPattern : t.spec.versionPattern = none
  /-- What the command prints. -/
  call : (h.call (versionCall t seconds) s.world).1 = .completed true output

/-- The gate decides by what the command printed. -/
theorem Answered.gate_eq (ha : Answered h t seconds s minimum output) :
    (gate h t.spec seconds s).1 = verdict t.spec minimum output := by
  rw [gate_of_declared ha.minVersion ha.versionCommand, ha.call]
  rfl

/-! ## One version text -/

/-- The verdict is on the version that is found. -/
theorem verdict_congr {a b : String} (hpattern : spec.versionPattern = none)
    (hab : extract? a none = extract? b none) : verdict spec minimum a = verdict spec minimum b := by
  rw [verdict, verdict, hpattern, hab]

/-- What is found is compared with the least version. -/
theorem verdict_of_found {found : String} {o : Ordering} (hpattern : spec.versionPattern = none)
    (hfound : extract? output none = some found) (ho : compareTexts? found minimum = some o) :
    verdict spec minimum output = if o = .lt then some (.belowMinimum found minimum) else none := by
  rw [verdict, hpattern, hfound]
  simp only [ho]
  cases o <;> rfl

/-- **The verdict on one version text**, which is on the numbers that are read of it, or on what stands
behind its first number if none are. -/
theorem verdict_of_digitsIn (hpattern : spec.versionPattern = none)
    (htoken : DigitsIn token output before after) (hv : ofText? token = some v)
    (hm : ofText? minimum = some m) :
    verdict spec minimum output =
      if readGroups token.toList = 0 then
        verdict spec minimum (String.ofList (behindFirst token.toList))
      else if compareNumbers (v.numbers.take (readGroups token.toList)) m.numbers = .lt then
        some (.belowMinimum (String.ofList (readPart token.toList)) minimum)
      else none := by
  rw [verdict_congr hpattern (extract?_of_digitsIn htoken)]
  split
  · rename_i hzero
    exact verdict_congr hpattern (extract?_of_readGroups_eq_zero htoken.token_blank hv hzero)
  · rename_i hread
    have hcompare : compareTexts? (String.ofList (readPart token.toList)) minimum =
        some (compareNumbers (v.numbers.take (readGroups token.toList)) m.numbers) :=
      compareTexts?_eq_some_iff.2 ⟨_, _, ofText?_readPart htoken.token_blank hv hread, hm, rfl⟩
    exact verdict_of_found hpattern (extract?_of_readGroups_ne_zero hread) hcompare

/-- Whether the first number of a text is a word: the text starts with it, and no word character stands
directly behind it. -/
def firstIsWord (s : List Char) : Bool :=
  s.head?.any Text.isNumeral && endsWord (s.dropWhile Text.isNumeral)

theorem firstIsWord_iff {s : List Char} : firstIsWord s = true ↔ readGroups s ≠ 0 := by
  rw [firstIsWord, Bool.and_eq_true, readGroups_ne_zero_iff]

/-! ## Versions below the least one -/

/-- A tool that must have a version. -/
def gated (minimum : String) : Tool :=
  ⟨{ name := "linter", versionCommand := ["linter", "--version"], minVersion := some minimum },
    Schedule.idleAdapter, 0⟩

/-- A host on which every command prints the same. -/
def printing (output : String) : Host Unit where
  call := fun _ w => (.completed true output, w)
  tree := fun _ => .dir []
  dir := Path.root

theorem answered_printing (minimum output : String) :
    Answered (printing output) (gated minimum) 30 ⟨(), []⟩ minimum output :=
  ⟨rfl, List.cons_ne_nil _ _, rfl, rfl⟩

/-- **A tool below its least version is stopped** exactly if the first number of its version text is a word,
or else if what stands behind that number is found to be below the least version too. -/
theorem gate_belowMinimum_iff (ha : Answered h t seconds s minimum output)
    (htoken : DigitsIn token output before after) (hlt : compareTexts? token minimum = some .lt) :
    ((∃ found, (gate h t.spec seconds s).1 = some (.belowMinimum found minimum)) ↔
      firstIsWord token.toList = true ∨
        ∃ found, verdict t.spec minimum (String.ofList (behindFirst token.toList)) =
          some (.belowMinimum found minimum)) ∧
    (firstIsWord token.toList = false → (gate h t.spec seconds s).1 =
      verdict t.spec minimum (String.ofList (behindFirst token.toList))) := by
  obtain ⟨v, m, hv, hm, hcompare⟩ := compareTexts?_eq_some_iff.1 hlt
  rw [ha.gate_eq, verdict_of_digitsIn ha.versionPattern htoken hv hm]
  by_cases hzero : readGroups token.toList = 0
  · have hfirst : ¬ firstIsWord token.toList = true := fun h => firstIsWord_iff.1 h hzero
    rw [if_pos hzero, or_iff_right hfirst]
    exact ⟨Iff.rfl, fun _ => rfl⟩
  · have hfirst : firstIsWord token.toList = true := firstIsWord_iff.2 hzero
    -- leaving out the last numbers does not lift a version to the least one
    have hbelow : compareNumbers (v.numbers.take (readGroups token.toList)) m.numbers = .lt := by
      have hfirst : v.numbers.take (readGroups token.toList) <+: v.numbers := List.take_prefix _ _
      have hlt : places v.numbers < places m.numbers := compareNumbers_eq_lt_iff.1 hcompare
      exact compareNumbers_eq_lt_iff.2 ((places_le_of_isPrefix hfirst).trans_lt hlt)
    rw [if_neg hzero, if_pos hbelow]
    refine ⟨iff_of_true ⟨_, rfl⟩ (Or.inl hfirst), fun hnot => ?_⟩
    rw [hfirst] at hnot
    cases hnot

/-- The first number stands as a word, and so the older version is stopped. -/
theorem gate_belowMinimum_iff_plain :
    compareTexts? "1.2.3" "2.0" = some .lt ∧ firstIsWord "1.2.3".toList = true ∧
      ∃ found, (gate (printing "linter 1.2.3\n") (gated "2.0").spec 30 ⟨(), []⟩).1 =
        some (.belowMinimum found "2.0") := by
  have htoken : DigitsIn "1.2.3" "linter 1.2.3\n" "linter ".toList "\n".toList := by
    decide +kernel
  have hlt : compareTexts? "1.2.3" "2.0" = some .lt := compareTexts?_eq_some_iff.2
    ⟨⟨[1, 2, 3]⟩, ⟨[2, 0]⟩, by rfl, by rfl, by simp [Version.compare, compareNumbers]⟩
  have hfirst : firstIsWord "1.2.3".toList = true := by decide +kernel
  have hiff := (gate_belowMinimum_iff (answered_printing "2.0" "linter 1.2.3\n") htoken hlt).1
  exact ⟨hlt, hfirst, hiff.2 (Or.inl hfirst)⟩

/-- **A mark in front of the first number hides it**, and an older tool passes by its other numbers. -/
theorem gate_passes_older_behind_mark :
    ¬ ∀ (h : Host Unit) (t : Tool) (seconds : Nat) (s : Session Unit) (minimum output token : String)
      (before after : List Char), Answered h t seconds s minimum output →
      DigitsIn token output before after → compareTexts? token minimum = some .lt →
      ∃ found, (gate h t.spec seconds s).1 = some (.belowMinimum found minimum) := by
  intro hstops
  have htoken : DigitsIn "v1.2.3" "tool v1.2.3" "tool ".toList [] := by
    decide +kernel
  have hlt : compareTexts? "v1.2.3" "2.0" = some .lt := compareTexts?_eq_some_iff.2
    ⟨⟨[1, 2, 3]⟩, ⟨[2, 0]⟩, by rfl, by rfl, by simp [Version.compare, compareNumbers]⟩
  have ha := answered_printing "2.0" "tool v1.2.3"
  obtain ⟨found, hstopped⟩ := hstops _ _ _ _ _ _ _ _ _ ha htoken hlt
  have hfound : extract? "tool v1.2.3" none = some "2.3" := by decide +kernel
  have hgt : compareTexts? "2.3" "2.0" = some .gt := compareTexts?_eq_some_iff.2
    ⟨⟨[2, 3]⟩, ⟨[2, 0]⟩, by rfl, by rfl, by simp [Version.compare, compareNumbers]⟩
  rw [ha.gate_eq, verdict_of_found rfl hfound hgt] at hstopped
  cases hstopped

/-! ## Versions not below the least one -/

/-- **A tool that is not below its least version passes** exactly if the numbers that are read of its version
text are not below it either, or, where none are read, if what stands behind the first number passes. It
passes where all numbers are read: at most four, and no word character directly behind them. -/
theorem gate_eq_none_iff (ha : Answered h t seconds s minimum output)
    (htoken : DigitsIn token output before after)
    (hdigit : token.toList.head?.any Text.isNumeral = true) (hv : ofText? token = some v)
    (hm : ofText? minimum = some m) (hge : v.compare m ≠ .lt) :
    ((gate h t.spec seconds s).1 = none ↔
      firstIsWord token.toList = true ∧
          compareNumbers (v.numbers.take (readGroups token.toList)) m.numbers ≠ .lt ∨
        firstIsWord token.toList = false ∧
          verdict t.spec minimum (String.ofList (behindFirst token.toList)) = none) ∧
    (v.numbers.length ≤ 4 → endsWord (behindNumbers token.toList) = true →
      (gate h t.spec seconds s).1 = none) := by
  rw [ha.gate_eq, verdict_of_digitsIn ha.versionPattern htoken hv hm]
  constructor
  · by_cases hzero : readGroups token.toList = 0
    · have hfirst : firstIsWord token.toList = false := by
        rw [Bool.eq_false_iff, Ne, firstIsWord_iff]
        exact not_not_intro hzero
      rw [if_pos hzero, hfirst]
      simp
    · rw [if_neg hzero, firstIsWord_iff.2 hzero]
      simp
  · intro hmost hend
    have hlength := readGroups_eq_length htoken.token_blank hv hdigit hmost hend
    have hne : v.numbers.length ≠ 0 := fun hnone =>
      numbers_ne_nil htoken.token_blank hv (List.length_eq_zero_iff.1 hnone)
    rw [Version.compare] at hge
    rw [hlength, List.take_length, if_neg hne, if_neg hge]

/-- What follows the numbers behind a hyphen keeps none of them from being read. -/
theorem gate_eq_none_iff_candidate :
    endsWord (behindNumbers "1.2.3-rc1".toList) = true ∧
      (gate (printing "linter 1.2.3-rc1 (built)") (gated "1.2").spec 30 ⟨(), []⟩).1 = none := by
  have htoken : DigitsIn "1.2.3-rc1" "linter 1.2.3-rc1 (built)" "linter ".toList " (built)".toList := by
    decide +kernel
  have hend : endsWord (behindNumbers "1.2.3-rc1".toList) = true := by decide +kernel
  have hv : ofText? "1.2.3-rc1" = some ⟨[1, 2, 3]⟩ := by decide +kernel
  have hm : ofText? "1.2" = some ⟨[1, 2]⟩ := by decide +kernel
  have hge : (⟨[1, 2, 3]⟩ : Version).compare ⟨[1, 2]⟩ = .gt := by
    simp [Version.compare, compareNumbers]
  have hpasses := (gate_eq_none_iff (answered_printing "1.2" "linter 1.2.3-rc1 (built)") htoken
    (by decide +kernel) hv hm (by simp [hge])).2
  exact ⟨hend, hpasses (by decide) hend⟩

/-- **A suffix directly behind the numbers hides the last of them**, and a tool that has its least version
is skipped. -/
theorem gate_stops_suffixed :
    ¬ ∀ (h : Host Unit) (t : Tool) (seconds : Nat) (s : Session Unit) (minimum output token : String)
      (before after : List Char) (v m : Version), Answered h t seconds s minimum output →
      DigitsIn token output before after → token.toList.head?.any Text.isNumeral = true →
      ofText? token = some v → ofText? minimum = some m → v.compare m ≠ .lt →
      (gate h t.spec seconds s).1 = none := by
  intro hpasses
  have htoken : DigitsIn "1.2.3rc1" "tool 1.2.3rc1" "tool ".toList [] := by
    decide +kernel
  have hv : ofText? "1.2.3rc1" = some ⟨[1, 2, 3]⟩ := by decide +kernel
  have hm : ofText? "1.2.3" = some ⟨[1, 2, 3]⟩ := by decide +kernel
  have hge : (⟨[1, 2, 3]⟩ : Version).compare ⟨[1, 2, 3]⟩ = .eq := by
    simp [Version.compare, compareNumbers]
  have ha := answered_printing "1.2.3" "tool 1.2.3rc1"
  have hpassed := hpasses _ _ _ _ _ _ _ _ _ _ _ ha htoken (by decide +kernel) hv hm (by simp [hge])
  have hfound : extract? "tool 1.2.3rc1" none = some "1.2" := by decide +kernel
  have hlt : compareTexts? "1.2" "1.2.3" = some .lt := compareTexts?_eq_some_iff.2
    ⟨⟨[1, 2]⟩, ⟨[1, 2, 3]⟩, by rfl, by rfl, by simp [Version.compare, compareNumbers]⟩
  rw [ha.gate_eq, verdict_of_found rfl hfound hlt] at hpassed
  cases hpassed

end Version

end Multilint
