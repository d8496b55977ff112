import Multilint.Text.Classes
import Multilint.Text.Numeral
import Mathlib.Data.String.Basic
import Mathlib.Order.Basic
/-!
# Digits, words and blanks

How the classes of characters lie to each other: an ASCII digit is a digit and a word character, and a
blank is neither a word character nor a digit of any script. That blanks and words do not meet is a fact
about the table of words (`apart_wordRanges`), looked up once for each of its ranges and not for each
character; `apart_digitRanges` is the same for digits. The digits in which a number is written out are ASCII
digits, and they are read as that number again (`Numeral.digits64?_repr`).
-/

namespace Multilint

/-- **A character of a set** lies in one of its ranges. -/
theorem CharRanges.exists_of_has {rs : CharRanges} {c : Char} (h : rs.has c = true) :
    ∃ r ∈ rs, r.1 ≤ c.toNat ∧ c.toNat ≤ r.2 := by
  induction rs with
  | nil => cases h
  | cons s rs ih =>
    simp only [has, Bool.and_eq_true, Bool.or_eq_true, decide_eq_true_eq] at h
    obtain ⟨hlo, hhi | hrest⟩ := h
    · exact ⟨s, List.mem_cons_self, hlo, hhi⟩
    · obtain ⟨r, hr, hin⟩ := ih hrest
      exact ⟨r, List.mem_cons_of_mem s hr, hin⟩

namespace Text

variable {c : Char}

/-! ## ASCII digits -/

theorem isDigit_of_isDigit (h : Numeral.isDigit c = true) : c.isDigit = true := by
  simpa [Numeral.isDigit, Char.isDigit, Char.le_def] using h

/-- An ASCII digit is a digit. -/
theorem isNumeral_of_isDigit (h : Numeral.isDigit c = true) : isNumeral c = true := by
  rw [isNumeral, isDigit_of_isDigit h, Bool.true_or]

/-- **An ASCII digit is a word character.** -/
theorem isWord_of_isDigit (h : Numeral.isDigit c = true) : isWord c = true := by
  rw [isWord, Char.isAlphanum, isDigit_of_isDigit h, Bool.or_true, Bool.true_or, Bool.true_or]

/-! ## Blanks -/

/-- The ranges of blanks. -/
def blankRanges : CharRanges :=
  [(0x9, 0xD), (0x20, 0x20), (0x85, 0x85), (0xA0, 0xA0), (0x1680, 0x1680), (0x2000, 0x200A),
    (0x2028, 0x2029), (0x202F, 0x202F), (0x205F, 0x205F), (0x3000, 0x3000)]

theorem exists_blankRange (h : isBlank c = true) :
    ∃ r ∈ blankRanges, r.1 ≤ c.toNat ∧ c.toNat ≤ r.2 := by
  simp only [isBlank, Bool.or_eq_true, Bool.and_eq_true, decide_eq_true_eq, beq_iff_eq] at h
  simp only [blankRanges, List.mem_cons, List.not_mem_nil, or_false, exists_eq_or_imp, exists_eq_left]
  omega

/-- Whether no range of blanks meets one of these. -/
def apartFromBlanks (rs : CharRanges) : Bool :=
  rs.all fun r => blankRanges.all fun s => Nat.blt r.2 s.1 || Nat.blt s.2 r.1

theorem apart_wordRanges : apartFromBlanks wordRanges = true := by
  decide +kernel

theorem apart_digitRanges : apartFromBlanks digitRanges = true := by
  decide +kernel

/-- **A blank lies in no range** of a table that is apart from the blanks. -/
theorem not_mem_of_isBlank {rs : CharRanges} (hapart : apartFromBlanks rs = true)
    (h : isBlank c = true) : ¬ ∃ r ∈ rs, r.1 ≤ c.toNat ∧ c.toNat ≤ r.2 := by
  simp only [apartFromBlanks, List.all_eq_true, Bool.or_eq_true, Nat.blt_eq] at hapart
  rintro ⟨r, hr, hlo, hhi⟩
  obtain ⟨s, hs, hlo', hhi'⟩ := exists_blankRange h
  have := hapart r hr s hs
  omega

/-- Every word character stands in the table, the ASCII ones too. -/
theorem exists_wordRange (h : isWord c = true) :
    ∃ r ∈ wordRanges, r.1 ≤ c.toNat ∧ c.toNat ≤ r.2 := by
  have hascii : ∀ r ∈ [(0x30, 0x39), (0x41, 0x5a), (0x5f, 0x5f), (0x61, 0x7a)], r ∈ wordRanges := by
    decide +kernel
  have hclasses : isWord c = (decide (0x41 ≤ c.val ∧ c.val ≤ 0x5a) ||
      (0x61 ≤ c.val && c.val ≤ 0x7a) || (0x30 ≤ c.val && c.val ≤ 0x39) || c == '_' ||
      wordRanges.has c) := rfl
  rw [hclasses] at h
  simp only [Bool.or_eq_true, Bool.and_eq_true, decide_eq_true_eq, beq_iff_eq,
    UInt32.le_iff_toNat_le] at h
  rcases h with (((⟨hlo, hhi⟩ | ⟨hlo, hhi⟩) | ⟨hlo, hhi⟩) | rfl) | hhas
  · exact ⟨(0x41, 0x5a), hascii _ (by simp), hlo, hhi⟩
  · exact ⟨(0x61, 0x7a), hascii _ (by simp), hlo, hhi⟩
  · exact ⟨(0x30, 0x39), hascii _ (by simp), hlo, hhi⟩
  · exact ⟨(0x5f, 0x5f), hascii _ (by simp), by decide, by decide⟩
  · exact CharRanges.exists_of_has hhas

/-- **A blank is no word character.** -/
theorem isWord_of_isBlank (h : isBlank c = true) : isWord c = false := by
  by_contra hword
  exact not_mem_of_isBlank apart_wordRanges h (exists_wordRange (by simpa using hword))

/-- Every digit stands in the table, the ASCII ones too. -/
theorem exists_digitRange (h : isNumeral c = true) :
    ∃ r ∈ digitRanges, r.1 ≤ c.toNat ∧ c.toNat ≤ r.2 := by
  rw [isNumeral, Bool.or_eq_true] at h
  rcases h with hascii | hhas
  · have hbounds : 0x30 ≤ c.toNat ∧ c.toNat ≤ 0x39 := by
      simpa [Char.isDigit, UInt32.le_iff_toNat_le] using hascii
    exact ⟨(0x30, 0x39), List.mem_cons_self, hbounds.1, hbounds.2⟩
  · exact CharRanges.exists_of_has hhas

/-- **A digit is no blank**, whatever its script. -/
theorem isBlank_of_isNumeral (h : isNumeral c = true) : isBlank c = false := by
  by_contra hblank
  exact not_mem_of_isBlank apart_digitRanges (by simpa using hblank) (exists_digitRange h)

end Text

namespace Numeral

variable {n : ℕ} {c : Char}

/-! ## Numbers that are written out -/

theorem isDigit_of_mem_repr (hc : c ∈ n.repr.toList) : isDigit c = true := by
  rw [Nat.toList_repr] at hc
  have hdigit := Nat.isDigit_of_mem_toDigits (by decide) le_rfl hc
  simpa [isDigit, Char.isDigit, Char.le_def] using hdigit

theorem isNumeral_of_mem_repr (hc : c ∈ n.repr.toList) : Text.isNumeral c = true :=
  Text.isNumeral_of_isDigit (isDigit_of_mem_repr hc)

theorem toList_repr_ne_nil (n : ℕ) : n.repr.toList ≠ [] := by
  rw [Nat.toList_repr]
  exact Nat.toDigits_ne_nil

/-- The digits of a number have its value. -/
theorem value_repr (n : ℕ) : value n.repr.toList = n := by
  have hfold : value (Nat.toDigits 10 n) = Nat.ofDigitChars 10 (Nat.toDigits 10 n) 0 := by
    rw [Nat.ofDigitChars_eq_foldl, value]
    simp only [digitValue, Nat.mul_comm]
  rw [Nat.toList_repr, hfold, Nat.ofDigitChars_ten_toDigits]

/-- **The digits of a number of 64 bits are read as that number.** -/
theorem digits64?_repr (hn : n < bound64) : digits64? n.repr.toList = some n := by
  have hne : n.repr.toList.isEmpty = false := List.isEmpty_eq_false_iff.2 (toList_repr_ne_nil n)
  have hdigits : n.repr.toList.all isDigit = true := List.all_eq_true.2 fun _ hd => isDigit_of_mem_repr hd
  rw [digits64?, hne, hdigits, value_repr]
  exact if_pos hn

end Numeral

end Multilint
