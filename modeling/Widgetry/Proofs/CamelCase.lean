import Widgetry.Text.Identifier
import Mathlib.Data.List.Chain

/-! Camel casing. What becomes of a character can be told from its neighbours: an underscore in
front of a small letter goes, the letter behind it is raised, and everything else stays. A raised
letter is no small one, so that nothing is left to fold; and as both characters of a folded pair
may stand in an identifier, like the letter that replaces them, a name is an identifier before
exactly if it is one after. -/

namespace Widgetry.Text

/-! ### Letters -/

theorem ne_underscore_of_isLower {c : Char} (h : c.isLower) : c ≠ '_' := by
  rintro rfl
  cases h

theorem range_of_isLower {c : Char} (h : c.isLower) : 'a'.val ≤ c.val ∧ c.val ≤ 'z'.val := by
  obtain ⟨hfirst, hlast⟩ := Bool.and_eq_true_iff.1 h
  exact ⟨of_decide_eq_true hfirst, of_decide_eq_true hlast⟩

/-- A small letter is raised to a capital. -/
theorem isUpper_toUpper {c : Char} (h : c.isLower) : c.toUpper.isUpper := by
  have hsmall := range_of_isLower h
  have hraised : c.toUpper.val = c.val + ('A'.val - 'a'.val) := by
    delta Char.toUpper
    rw [dif_pos hsmall]
  apply decide_eq_true
  rw [hraised]
  simp only [Char.reduceVal, ge_iff_le, UInt32.le_iff_toNat_le, UInt32.toNat_add, UInt32.reduceSub,
    UInt32.reduceToNat] at hsmall ⊢
  omega

theorem not_isLower_of_isUpper {c : Char} (h : c.isUpper) : ¬c.isLower := by
  intro hlower
  have hcapital : 'A'.val ≤ c.val ∧ c.val ≤ 'Z'.val := of_decide_eq_true h
  have hsmall := range_of_isLower hlower
  simp only [Char.reduceVal, UInt32.le_iff_toNat_le, UInt32.reduceToNat] at hcapital hsmall
  omega

/-! ### Nothing is left to fold -/

/-- No underscore stands in front of a small letter. -/
def Folded (s : List Char) : Prop := s.IsChain fun c d => ¬(c = '_' ∧ d.isLower)

/-- A small letter at the head has been there before. -/
theorem head?_camelChars {s : List Char} {c : Char} (h : (camelChars s).head? = some c)
    (hc : c.isLower) : s.head? = some c := by
  fun_cases camelChars s with
  | case1 => exact h
  | case2 d => exact h
  | case3 d e rest hfolds =>
    rw [camelChars, if_pos hfolds, List.head?_cons, Option.some.injEq] at h
    exact absurd (h ▸ hc) (not_isLower_of_isUpper (isUpper_toUpper hfolds.2))
  | case4 d e rest hstays =>
    rwa [camelChars, if_neg hstays] at h

theorem folded_camelChars (s : List Char) : Folded (camelChars s) := by
  unfold Folded
  fun_induction camelChars s with
  | case1 => exact .nil
  | case2 c => exact .singleton c
  | case3 c d rest hfolds ih =>
    refine List.isChain_cons.2 ⟨fun e _ hpair => ?_, ih⟩
    -- a capital is no underscore
    have hupper := isUpper_toUpper hfolds.2
    rw [hpair.1] at hupper
    cases hupper
  | case4 c d rest hstays ih =>
    refine List.isChain_cons.2 ⟨fun e he hpair => hstays ⟨hpair.1, ?_⟩, ih⟩
    have hhead : some d = some e := head?_camelChars he hpair.2
    rw [Option.some.inj hhead]
    exact hpair.2

/-- A text without anything to fold stays as it is. -/
theorem Folded.camelChars_eq {s : List Char} (h : Folded s) : camelChars s = s := by
  unfold Folded at h
  fun_induction camelChars s with
  | case1 => rfl
  | case2 c => rfl
  | case3 c d rest hfolds ih => exact absurd hfolds (List.isChain_cons_cons.1 h).1
  | case4 c d rest hstays ih => rw [ih (List.isChain_cons_cons.1 h).2]

/-! ### Identifiers -/

theorem isIdentifierPart_underscore : isIdentifierPart '_' = true := rfl

theorem isIdentifierPart_of_isLower {c : Char} (h : c.isLower) :
    isIdentifierPart c = true ∧ isIdentifierStart c.toUpper = true ∧
      isIdentifierPart c.toUpper = true := by
  have halpha : c.isAlpha = true := Bool.or_eq_true_iff.2 (.inr h)
  have hraised : c.toUpper.isAlpha = true := Bool.or_eq_true_iff.2 (.inl (isUpper_toUpper h))
  simp [isIdentifierPart, isIdentifierStart, Char.isAlphanum, halpha, hraised]

theorem all_camelChars (s : List Char) :
    (camelChars s).all isIdentifierPart = s.all isIdentifierPart := by
  fun_induction camelChars s with
  | case1 => rfl
  | case2 c => rfl
  | case3 c d rest hfolds ih =>
    obtain ⟨rfl, hlower⟩ := hfolds
    obtain ⟨hletter, -, hraised⟩ := isIdentifierPart_of_isLower hlower
    simp [isIdentifierPart_underscore, hletter, hraised, ih]
  | case4 c d rest hstays ih =>
    rw [List.all_cons, ih]
    rfl

theorem identifierChars_camelChars (s : List Char) :
    identifierChars (camelChars s) = identifierChars s := by
  fun_cases camelChars s with
  | case1 => rfl
  | case2 c => rfl
  | case3 c d rest hfolds =>
    obtain ⟨rfl, hlower⟩ := hfolds
    obtain ⟨hletter, hraised, -⟩ := isIdentifierPart_of_isLower hlower
    have hstart : isIdentifierStart '_' = true := rfl
    simp [identifierChars, hstart, hletter, hraised, all_camelChars]
  | case4 c d rest hstays =>
    rw [identifierChars, identifierChars, all_camelChars]

/-! ### Neighbours -/

/-- Every character of a text with the one in front of it and the one behind it. -/
def neighbours : Option Char → List Char → List (Option Char × Char × Option Char)
  | _, [] => []
  | before, c :: cs => (before, c, cs.head?) :: neighbours (some c) cs

/-- What becomes of a character, by its neighbours. -/
def camelChar : Option Char × Char × Option Char → List Char
  | (before, c, behind) =>
    if c = '_' ∧ behind.any Char.isLower then []
    else if before = some '_' ∧ c.isLower then [c.toUpper]
    else [c]

/-- Behind anything but an underscore that folds with it, every character has its own fate. -/
theorem camelChars_eq_flatMap {s : List Char} (before : Option Char)
    (h : ¬(before = some '_' ∧ s.head?.any Char.isLower)) :
    camelChars s = (neighbours before s).flatMap camelChar := by
  fun_induction camelChars s generalizing before with
  | case1 => rfl
  | case2 c =>
    have hc : ¬(before = some '_' ∧ c.isLower) := by simpa using h
    simp [neighbours, camelChar, hc]
  | case3 c d rest hfolds ih =>
    obtain ⟨rfl, hlower⟩ := hfolds
    have hd := ne_underscore_of_isLower hlower
    have hrest := ih (some d) (by simp [hd])
    simp [neighbours, camelChar, hlower, hd, hrest]
  | case4 c d rest hstays ih =>
    have hc : ¬(before = some '_' ∧ c.isLower) := by simpa using h
    have hrest := ih (some c) (by simpa using hstays)
    have hfate : camelChar (before, c, some d) = [c] := by
      simp only [camelChar, Option.any_some, if_neg hstays, if_neg hc]
    have hpairs : neighbours before (c :: d :: rest) =
        (before, c, some d) :: neighbours (some c) (d :: rest) := rfl
    rw [hrest, hpairs, List.flatMap_cons, hfate, List.singleton_append]

/-! ### Names -/

/-- In a name in camel case no underscore is in front of a small letter, so that it is in camel case
for good; it is an identifier exactly if the name was one; and it differs from the name only where
an underscore is in front of a small letter: the underscore is gone and the letter raised. -/
theorem camelCase_folds_pairs (s : String) :
    Folded (camelCase s).toList ∧ camelCase (camelCase s) = camelCase s ∧
      isIdentifier (camelCase s) = isIdentifier s ∧
      (camelCase s).toList = (neighbours none s.toList).flatMap camelChar := by
  have hchars : (camelCase s).toList = camelChars s.toList := by simp [camelCase]
  have hfolded := folded_camelChars s.toList
  refine ⟨?_, ?_, ?_, ?_⟩
  · rwa [hchars]
  · rw [camelCase, hchars, hfolded.camelChars_eq, camelCase]
  · rw [isIdentifier, hchars, identifierChars_camelChars, isIdentifier]
  · rw [hchars, camelChars_eq_flatMap none (by simp)]

-- of a run of underscores only the last one folds, and a raised letter folds with nothing
example : camelCase "__main_window_B_2_é" = "_MainWindow_B_2_é" := by decide +kernel

end Widgetry.Text
