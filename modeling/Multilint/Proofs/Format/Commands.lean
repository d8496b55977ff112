import Multilint.Format.Reading
import Multilint.Proofs.Text.Pieces
import Multilint.Proofs.Sequence
import Mathlib.Data.List.TakeWhile
/-!
# Commands read back

A workflow command has three signs of its own: two colons end the properties, a comma ends a property and an
equals sign ends a key. Values and messages are escaped, so that none of these signs and no line break is
left where it would end something (`not_mem_escapeProperty`, `not_mem_escapeData`), and undoing the escapes
gives back what was written. A command whose own names are words is therefore read back as it was meant
(`ofLine?_written`), and it is one line (`not_mem_written`).
-/

namespace Multilint

namespace Workflow

variable {s rest : List Char} {c : Char} {u : Understood} {key value : String}

/-- The text of a command. -/
def written (u : Understood) : String :=
  "::" ++ u.level ++ " " ++
    ",".intercalate (u.properties.map fun p => p.1 ++ "=" ++ escapeProperty p.2) ++ "::" ++
    escapeData u.message

/-- **A name is a word** of small letters. -/
def IsWord (name : String) : Prop :=
  ∀ c ∈ name.toList, c.isLower = true

/-- **The names of a command are words**, whatever its values say. -/
structure Understood.Named (u : Understood) : Prop where
  /-- The name of the command. -/
  level : IsWord u.level
  /-- The keys of the properties. -/
  key : ∀ p ∈ u.properties, IsWord p.1

/-- A word has no other character. -/
theorem IsWord.not_mem (hkey : IsWord key) (hc : c.isLower = false) : c ∉ key.toList := by
  intro hmem
  rw [hkey c hmem] at hc
  cases hc

/-! ## Escapes -/

/-- What undoes the escape of each character undoes the escape of a text. -/
theorem unescape_join {unescape : List Char → List Char} {escape : Char → String}
    (hnil : unescape [] = [])
    (hchar : ∀ c rest, unescape ((escape c).toList ++ rest) = c :: unescape rest) (s : List Char) :
    unescape (String.join (s.map escape)).toList = s := by
  induction s with
  | nil => exact hnil
  | cons c s ih => rw [List.map_cons, String.join_cons, String.toList_append, hchar, ih]

/-- The characters of an escaped text are those of the escapes. -/
theorem mem_join_iff {escape : Char → String} {s : List Char} :
    c ∈ (String.join (s.map escape)).toList ↔ ∃ d ∈ s, c ∈ (escape d).toList := by
  rw [String.toList_join, List.mem_flatMap]
  simp

/-- The escape of a character of a message, case by case. -/
theorem escapeDataChar_cases (c : Char) :
    c = '%' ∧ (escapeDataChar c).toList = ['%', '2', '5'] ∨
      c = '\r' ∧ (escapeDataChar c).toList = ['%', '0', 'D'] ∨
      c = '\n' ∧ (escapeDataChar c).toList = ['%', '0', 'A'] ∨
      c ≠ '%' ∧ c ≠ '\r' ∧ c ≠ '\n' ∧ (escapeDataChar c).toList = [c] := by
  rw [escapeDataChar]
  split
  · exact Or.inl ⟨by assumption, by decide⟩
  · split
    · exact Or.inr (Or.inl ⟨by assumption, by decide⟩)
    · split
      · exact Or.inr (Or.inr (Or.inl ⟨by assumption, by decide⟩))
      · exact Or.inr (Or.inr (Or.inr ⟨by assumption, by assumption, by assumption, by simp⟩))

/-- The escape of a character of a property, case by case. -/
theorem escapePropertyChar_cases (c : Char) :
    c = ':' ∧ (escapePropertyChar c).toList = ['%', '3', 'A'] ∨
      c = ',' ∧ (escapePropertyChar c).toList = ['%', '2', 'C'] ∨
      c ≠ ':' ∧ c ≠ ',' ∧ escapePropertyChar c = escapeDataChar c := by
  rw [escapePropertyChar]
  split
  · exact Or.inl ⟨by assumption, by decide⟩
  · split
    · exact Or.inr (Or.inl ⟨by assumption, by decide⟩)
    · exact Or.inr (Or.inr ⟨by assumption, by assumption, rfl⟩)

theorem unescapeData_cons (hc : c ≠ '%') : unescapeData (c :: rest) = c :: unescapeData rest := by
  rw [unescapeData] <;> (rintro _ rfl; exact absurd rfl hc)

theorem unescapeProperty_cons (hc : c ≠ '%') :
    unescapeProperty (c :: rest) = c :: unescapeProperty rest := by
  rw [unescapeProperty] <;> (rintro _ rfl; exact absurd rfl hc)

/-- **A message comes back** from its escapes. -/
theorem unescapeData_escapeData (text : String) :
    unescapeData (escapeData text).toList = text.toList := by
  refine unescape_join rfl (fun c rest => ?_) text.toList
  rcases escapeDataChar_cases c with ⟨rfl, h⟩ | ⟨rfl, h⟩ | ⟨rfl, h⟩ | ⟨hc, -, -, h⟩
  · rw [h]; rfl
  · rw [h]; rfl
  · rw [h]; rfl
  · rw [h, List.singleton_append, unescapeData_cons hc]

/-- **A value comes back** from its escapes. -/
theorem unescapeProperty_escapeProperty (value : String) :
    unescapeProperty (escapeProperty value).toList = value.toList := by
  refine unescape_join rfl (fun c rest => ?_) value.toList
  rcases escapePropertyChar_cases c with ⟨rfl, h⟩ | ⟨rfl, h⟩ | ⟨-, -, h⟩
  · rw [h]; rfl
  · rw [h]; rfl
  · rw [h]
    rcases escapeDataChar_cases c with ⟨rfl, h⟩ | ⟨rfl, h⟩ | ⟨rfl, h⟩ | ⟨hc, -, -, h⟩
    · rw [h]; rfl
    · rw [h]; rfl
    · rw [h]; rfl
    · rw [h, List.singleton_append, unescapeProperty_cons hc]

theorem not_mem_escapeDataChar {d : Char} (hc : c = '\r' ∨ c = '\n') :
    c ∉ (escapeDataChar d).toList := by
  rcases escapeDataChar_cases d with ⟨-, h⟩ | ⟨-, h⟩ | ⟨-, h⟩ | ⟨-, hr, hn, h⟩
  · rcases hc with rfl | rfl <;> simp [h]
  · rcases hc with rfl | rfl <;> simp [h]
  · rcases hc with rfl | rfl <;> simp [h]
  · rcases hc with rfl | rfl <;> simp [h, Ne.symm hr, Ne.symm hn]

theorem not_mem_escapePropertyChar {d : Char} (hc : c = ':' ∨ c = ',' ∨ c = '\r' ∨ c = '\n') :
    c ∉ (escapePropertyChar d).toList := by
  rcases escapePropertyChar_cases d with ⟨-, h⟩ | ⟨-, h⟩ | ⟨hcolon, hcomma, h⟩
  · rcases hc with rfl | rfl | rfl | rfl <;> simp [h]
  · rcases hc with rfl | rfl | rfl | rfl <;> simp [h]
  · rw [h]
    -- an escape has neither sign, and a character that stays as it is is none of them
    rcases hc with hsign | hsign | hbreak
    · rcases escapeDataChar_cases d with ⟨-, h⟩ | ⟨-, h⟩ | ⟨-, h⟩ | ⟨-, -, -, h⟩ <;>
        simp [h, hsign, Ne.symm hcolon]
    · rcases escapeDataChar_cases d with ⟨-, h⟩ | ⟨-, h⟩ | ⟨-, h⟩ | ⟨-, -, -, h⟩ <;>
        simp [h, hsign, Ne.symm hcomma]
    · exact not_mem_escapeDataChar hbreak

/-- **No line break** is left in a message. -/
theorem not_mem_escapeData (text : String) (hc : c = '\r' ∨ c = '\n') :
    c ∉ (escapeData text).toList := by
  rw [escapeData, mem_join_iff]
  rintro ⟨d, -, hd⟩
  exact not_mem_escapeDataChar hc hd

/-- **No sign of a command** and no line break is left in a value. -/
theorem not_mem_escapeProperty (value : String) (hc : c = ':' ∨ c = ',' ∨ c = '\r' ∨ c = '\n') :
    c ∉ (escapeProperty value).toList := by
  rw [escapeProperty, mem_join_iff]
  rintro ⟨d, -, hd⟩
  exact not_mem_escapePropertyChar hc hd

/-- A value without any of these signs stays as it is. -/
theorem escapeProperty_eq_self (hvalue : ∀ c ∈ value.toList,
    c ≠ '%' ∧ c ≠ ':' ∧ c ≠ ',' ∧ c ≠ '\r' ∧ c ≠ '\n') : escapeProperty value = value := by
  have hchar : ∀ c ∈ value.toList, (escapePropertyChar c).toList = [c] := by
    intro c hc
    obtain ⟨hpercent, hcolon, hcomma, hr, hn⟩ := hvalue c hc
    simp [escapePropertyChar, escapeDataChar, hpercent, hcolon, hcomma, hr, hn]
  rw [← String.toList_inj, escapeProperty, String.toList_join, List.flatMap_map,
    List.flatMap_congr hchar, List.flatMap_singleton']

/-! ## Properties -/

/-- The text of a property. -/
def propertyText (p : String × String) : List Char :=
  p.1.toList ++ '=' :: (escapeProperty p.2).toList

/-- **A property is read back**, whatever its value is. -/
theorem property?_propertyText {p : String × String} (hkey : IsWord p.1) :
    property? (propertyText p) = some p := by
  have hplain : ∀ c ∈ p.1.toList, decide (c ≠ '=') = true := by
    intro c hc
    rw [decide_eq_true_eq]
    rintro rfl
    exact hkey.not_mem (by decide) hc
  have hdrop : ∀ rest, ('=' :: rest).dropWhile (fun c => decide (c ≠ '=')) = '=' :: rest :=
    fun _ => rfl
  have htake : ∀ rest, ('=' :: rest).takeWhile (fun c => decide (c ≠ '=')) = [] := fun _ => rfl
  rw [property?, propertyText, List.dropWhile_append_of_pos hplain,
    List.takeWhile_append_of_pos hplain, hdrop, htake, List.append_nil, String.ofList_toList]
  have hvalue := unescapeProperty_escapeProperty p.2
  exact congrArg (fun value => some (p.1, value)) (by rw [hvalue, String.ofList_toList])

theorem not_mem_propertyText {p : String × String} (hkey : IsWord p.1)
    (hc : c = ':' ∨ c = ',' ∨ c = '\r' ∨ c = '\n') : c ∉ propertyText p := by
  rw [propertyText, List.mem_append, List.mem_cons, not_or, not_or]
  refine ⟨hkey.not_mem ?_, ?_, not_mem_escapeProperty p.2 hc⟩
  · rcases hc with rfl | rfl | rfl | rfl <;> decide
  · rcases hc with rfl | rfl | rfl | rfl <;> decide

/-- The text of the properties of a command. -/
def propertiesText (ps : List (String × String)) : List Char :=
  [','].intercalate (ps.map propertyText)

theorem not_mem_propertiesText {ps : List (String × String)} (hkeys : ∀ p ∈ ps, IsWord p.1)
    (hc : c = ':' ∨ c = '\r' ∨ c = '\n') : c ∉ propertiesText ps := by
  intro hmem
  rcases Text.mem_intercalate_imp hmem with hcomma | ⟨_, htext, hcp⟩
  · rw [List.mem_singleton] at hcomma
    rw [hcomma] at hc
    exact absurd hc (by decide)
  · obtain ⟨p, hp, rfl⟩ := List.mem_map.1 htext
    exact not_mem_propertyText (hkeys p hp) (hc.imp_right Or.inr) hcp

/-- **The properties are read back**, one for each comma. -/
theorem mapM_property? {ps : List (String × String)} (hkeys : ∀ p ∈ ps, IsWord p.1) (hps : ps ≠ []) :
    (Text.splitOn ',' (propertiesText ps)).mapM property? = some ps := by
  have hcomma : ∀ p ∈ ps.map propertyText, ',' ∉ p := by
    intro _ htext
    obtain ⟨p, hp, rfl⟩ := List.mem_map.1 htext
    exact not_mem_propertyText (hkeys p hp) (Or.inr (Or.inl rfl))
  rw [propertiesText, Text.splitOn_intercalate (by simpa using hps) hcomma,
    Sequence.mapM_eq_some_iff, List.forall₂_map_left_iff, List.forall₂_same]
  exact fun p hp => property?_propertyText (hkeys p hp)

/-- The text of the properties starts with no blank, and there is none only without properties. -/
theorem head?_propertiesText {ps : List (String × String)} (hkeys : ∀ p ∈ ps, IsWord p.1)
    (hps : ps ≠ []) : ∃ c rest, propertiesText ps = c :: rest ∧ c ≠ ' ' := by
  obtain ⟨p, ps, rfl⟩ := List.exists_cons_of_ne_nil hps
  have hfirst : ∃ rest, propertiesText (p :: ps) = propertyText p ++ rest := by
    by_cases h : ps = []
    · exact ⟨[], by rw [h, propertiesText, List.map_singleton, List.intercalate_singleton, List.append_nil]⟩
    · exact ⟨_, by
        rw [propertiesText, List.map_cons, List.intercalate_cons_of_ne_nil (by simpa using h),
          List.append_assoc]⟩
  obtain ⟨rest, hrest⟩ := hfirst
  rw [hrest, propertyText]
  cases hkey : p.1.toList with
  | nil => exact ⟨'=', _, rfl, by decide⟩
  | cons d ds =>
    refine ⟨d, _, rfl, ?_⟩
    rintro rfl
    have hlower := hkeys p List.mem_cons_self ' ' (by rw [hkey]; exact List.mem_cons_self)
    cases hlower

/-! ## Commands -/

/-- The first two colons end what has none. -/
theorem untilColons_append (hs : ':' ∉ s) :
    untilColons (s ++ ':' :: ':' :: rest) = some (s, rest) := by
  induction s with
  | nil => rfl
  | cons c s ih =>
    rw [List.mem_cons, not_or] at hs
    rw [List.cons_append, untilColons, ih hs.2]
    · rfl
    · rintro _ rfl
      exact absurd rfl hs.1

/-- The characters of a command. -/
theorem toList_written (u : Understood) : (written u).toList =
    ':' :: ':' :: (u.level.toList ++ ' ' :: propertiesText u.properties ++
      ':' :: ':' :: (escapeData u.message).toList) := by
  have hproperties : ∀ ps : List (String × String),
      (",".intercalate (ps.map fun p => p.1 ++ "=" ++ escapeProperty p.2)).toList =
        propertiesText ps := by
    intro ps
    rw [String.toList_intercalate, propertiesText, List.map_map]
    congr 1
    refine List.map_congr_left fun p _ => ?_
    simp [propertyText]
  simp [written, hproperties]

/-- The name of a command ends at the first blank. -/
theorem takeWhile_level (hlevel : IsWord u.level) :
    (u.level.toList ++ ' ' :: rest).takeWhile (fun c => decide (c ≠ ' ')) = u.level.toList := by
  have hplain : ∀ c ∈ u.level.toList, decide (c ≠ ' ') = true := by
    intro c hc
    rw [decide_eq_true_eq]
    rintro rfl
    exact hlevel.not_mem (by decide) hc
  have hblank : (' ' :: rest).takeWhile (fun c => decide (c ≠ ' ')) = [] := rfl
  rw [List.takeWhile_append_of_pos hplain, hblank, List.append_nil]

/-- The properties start behind it. -/
theorem dropWhile_propertiesText {ps : List (String × String)} (hkeys : ∀ p ∈ ps, IsWord p.1) :
    (' ' :: propertiesText ps).dropWhile (fun c => decide (c = ' ')) = propertiesText ps := by
  have hblank : (' ' :: propertiesText ps).dropWhile (fun c => decide (c = ' ')) =
      (propertiesText ps).dropWhile (fun c => decide (c = ' ')) := rfl
  rw [hblank]
  by_cases hps : ps = []
  · rw [hps]
    rfl
  · obtain ⟨c, rest, heq, hc⟩ := head?_propertiesText hkeys hps
    rw [heq, List.dropWhile_cons_of_neg (by simpa using hc)]

/-- **A command is read back**: its name, its properties and its message. -/
theorem ofLine?_written (hu : u.Named) : ofLine? (written u).toList = some u := by
  have hfront : ':' ∉ u.level.toList ++ ' ' :: propertiesText u.properties := by
    rw [List.mem_append, List.mem_cons, not_or, not_or]
    exact ⟨hu.level.not_mem (by decide), by decide, not_mem_propertiesText hu.key (Or.inl rfl)⟩
  have hread : (⟨String.ofList u.level.toList, u.properties,
      String.ofList (unescapeData (escapeData u.message).toList)⟩ : Understood) = u := by
    rw [unescapeData_escapeData, String.ofList_toList, String.ofList_toList]
  rw [toList_written, ofLine?]
  -- neither the name nor the properties have a colon, so that the first two end them
  refine Option.bind_eq_some_iff.2 ⟨_, untilColons_append hfront, ?_⟩
  dsimp only
  rw [takeWhile_level hu.level, List.drop_left, dropWhile_propertiesText hu.key]
  split
  · rename_i hempty
    have hps : u.properties = [] := by
      by_contra hps
      obtain ⟨c, rest, heq, -⟩ := head?_propertiesText hu.key hps
      rw [heq] at hempty
      cases hempty
    rw [hps] at hread
    exact congrArg some hread
  · rename_i hsome
    have hps : u.properties ≠ [] := by
      intro hps
      rw [hps] at hsome
      exact hsome rfl
    exact Option.bind_eq_some_iff.2 ⟨_, mapM_property? hu.key hps, congrArg some hread⟩

/-- **A command is one line.** -/
theorem not_mem_written (hu : u.Named) (hc : c = '\r' ∨ c = '\n') : c ∉ (written u).toList := by
  have hc' : c ≠ ':' ∧ c ≠ ' ' ∧ c.isLower = false := by
    rcases hc with rfl | rfl <;> decide
  obtain ⟨hcolon, hblank, hlower⟩ := hc'
  rw [toList_written]
  simp only [List.mem_cons, List.mem_append, not_or]
  exact ⟨hcolon, hcolon, ⟨hu.level.not_mem hlower, hblank,
    not_mem_propertiesText hu.key (Or.inr hc)⟩, hcolon, hcolon, not_mem_escapeData u.message hc⟩

end Workflow

end Multilint
