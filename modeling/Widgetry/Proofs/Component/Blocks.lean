import Widgetry.Component.Section
import Mathlib.Data.List.Basic
import Mathlib.Data.List.TakeWhile
import Mathlib.Tactic.SplitIfs

/-! Blocks found again. What a search for a block finds depends on two things only: that no tag
opens in front of the block, and that its body does not hold a closing tag. A block for which the
latter is true is whole, and is found whatever stands behind it. -/

namespace Widgetry.Component

open Text (fold afterFolded? endsWord isBlank isWord)

variable {word : List Char}

/-! ### Words at the head of a text -/

/-- The word stands at the head of the text, in letters of either case. -/
def standsAt (word s : List Char) : Bool := (afterFolded? word s).isSome

/-- The character is none of the word's, in either case. -/
def Foreign (word : List Char) (c : Char) : Prop := ∀ w ∈ word, fold c ≠ fold w

-- over the word, and not over all characters there are
instance (word : List Char) (c : Char) : Decidable (Foreign word c) :=
  List.decidableBAll (fun w => fold c ≠ fold w) word

/-- A character whose small letter is one of the alphabet is a word character. -/
theorem isWord_of_isLower_fold {c : Char} (h : (fold c).isLower) : isWord c := by
  have hcovers : ∀ {low high : Nat}, (low, high) ∈ Text.wordRanges → low ≤ c.toNat →
      c.toNat ≤ high → isWord c := fun hrange hlow hhigh =>
    List.any_eq_true.2 ⟨_, hrange, by simp [hlow, hhigh]⟩
  unfold fold at h
  split_ifs at h with hs hk
  · subst hs
    decide +kernel
  · subst hk
    decide +kernel
  · unfold Char.toLower at h
    split_ifs at h with hupper
    · exact @hcovers 0x41 0x5A (by decide +kernel) (UInt32.le_iff_toNat_le.1 hupper.1)
        (UInt32.le_iff_toNat_le.1 hupper.2)
    · obtain ⟨hlow, hhigh⟩ := Bool.and_eq_true_iff.1 h
      exact @hcovers 0x61 0x7A (by decide +kernel)
        (UInt32.le_iff_toNat_le.1 (of_decide_eq_true hlow))
        (UInt32.le_iff_toNat_le.1 (of_decide_eq_true hhigh))

/-- The word is made of letters of the alphabet, in either case. -/
def Lettered (word : List Char) : Prop := ∀ w ∈ word, (fold w).isLower

instance (word : List Char) : Decidable (Lettered word) :=
  List.decidableBAll (fun w => (fold w).isLower) word

/-- A name of one letter or more. -/
structure IsName (word : List Char) : Prop where
  ne_nil : word ≠ []
  letters : Lettered word

/-- What is no word character is foreign to words of letters. -/
theorem foreign_of_not_isWord (hword : Lettered word) {c : Char}
    (hc : isWord c = false) : Foreign word c := by
  intro w hw hfold
  rw [isWord_of_isLower_fold (hfold ▸ hword w hw)] at hc
  cases hc

theorem isWord_eq_false_of_isBlank {c : Char} (h : isBlank c) : isWord c = false := by
  obtain ⟨⟨low, high⟩, hrange, hc⟩ := List.any_eq_true.1 h
  have hall : ∀ range ∈ Text.blankRanges, ∀ n ∈ List.range' range.1 (range.2 + 1 - range.1),
      isWord (Char.ofNat n) = false := by decide +kernel
  have hmem : c.toNat ∈ List.range' low (high + 1 - low) := by
    simp only [Bool.and_eq_true, decide_eq_true_eq] at hc
    exact List.mem_range'_1.2 (by omega)
  simpa using hall (low, high) hrange c.toNat hmem

/-- No word can reach over the seam between two texts. -/
def Parted (word u v : List Char) : Prop :=
  (∀ c ∈ u.getLast?, Foreign word c) ∨ ∀ c ∈ v.head?, Foreign word c

theorem afterFolded?_append {name : List Char} (h : afterFolded? word name = some [])
    (rest : List Char) : afterFolded? word (name ++ rest) = some rest := by
  fun_induction afterFolded? word name with
  | case1 s =>
    cases h
    rfl
  | case2 => cases h
  | case3 w word c s hfold ih => simpa [afterFolded?, hfold] using ih h
  | case4 => cases h

theorem afterFolded?_eq_some {s rest : List Char} :
    afterFolded? word s = some rest ↔
      ∃ name, s = name ++ rest ∧ name.length = word.length ∧ afterFolded? word name = some [] := by
  constructor
  · intro h
    fun_induction afterFolded? word s with
    | case1 s =>
      cases h
      exact ⟨[], rfl, rfl, rfl⟩
    | case2 => cases h
    | case3 w word c s hfold ih =>
      obtain ⟨name, rfl, hlength, hname⟩ := ih h
      exact ⟨c :: name, rfl, by simp [hlength], by simp [afterFolded?, hfold, hname]⟩
    | case4 => cases h
  · rintro ⟨name, rfl, -, hname⟩
    exact afterFolded?_append hname rest

theorem exists_fold_eq {name : List Char} (h : afterFolded? word name = some []) {c : Char}
    (hc : c ∈ name) : ∃ w ∈ word, fold c = fold w := by
  fun_induction afterFolded? word name with
  | case1 s =>
    cases h
    cases hc
  | case2 => cases h
  | case3 w word d s hfold ih =>
    rcases List.mem_cons.1 hc with rfl | hc
    · exact ⟨w, List.mem_cons_self, hfold⟩
    · obtain ⟨w', hw', hc⟩ := ih h hc
      exact ⟨w', List.mem_cons_of_mem w hw', hc⟩
  | case4 => cases h

/-- The two texts are the same in letters of either case. -/
def SameLetters (s t : List Char) : Prop := s.map fold = t.map fold

instance (s t : List Char) : Decidable (SameLetters s t) :=
  inferInstanceAs (Decidable (s.map fold = t.map fold))

theorem sameLetters_cons {c d : Char} {s t : List Char} :
    SameLetters (c :: s) (d :: t) ↔ fold c = fold d ∧ SameLetters s t := by
  simp [SameLetters]

theorem SameLetters.length_eq {s t : List Char} (h : SameLetters s t) : s.length = t.length := by
  simpa using congrArg List.length h

theorem afterFolded?_eq_nil {name : List Char} :
    afterFolded? word name = some [] ↔ SameLetters name word := by
  unfold SameLetters
  fun_induction afterFolded? word name with
  | case1 s => simp
  | case2 w word => simp
  | case3 w word c s hfold ih => simp [ih, hfold]
  | case4 w word c s hfold => simp [hfold]

theorem standsAt_cons (w c : Char) (s : List Char) :
    standsAt (w :: word) (c :: s) = (decide (fold c = fold w) && standsAt word s) := by
  simp only [standsAt, afterFolded?]
  split_ifs with hfold <;> simp [hfold]

theorem standsAt_append {s : List Char} (h : standsAt word s) (t : List Char) :
    standsAt word (s ++ t) := by
  obtain ⟨rest, hrest⟩ := Option.isSome_iff_exists.1 h
  obtain ⟨name, rfl, -, hname⟩ := afterFolded?_eq_some.1 hrest
  simp [standsAt, List.append_assoc, afterFolded?_append hname]

/-- Only as many characters count as the word has. -/
theorem standsAt_append_of_le {s : List Char} (hs : word.length ≤ s.length) (t : List Char) :
    standsAt word (s ++ t) = standsAt word s := by
  induction word generalizing s with
  | nil => rfl
  | cons w word ih =>
    cases s with
    | nil => simp at hs
    | cons c s =>
      have hrest := ih (s := s) (by simpa using hs)
      simp only [standsAt] at hrest
      simp only [standsAt, List.cons_append, afterFolded?]
      split_ifs
      · exact hrest
      · rfl

theorem length_le_of_standsAt {s : List Char} (h : standsAt word s) : word.length ≤ s.length := by
  obtain ⟨rest, hrest⟩ := Option.isSome_iff_exists.1 h
  obtain ⟨name, rfl, hlength, -⟩ := afterFolded?_eq_some.1 hrest
  simp [hlength]

/-- At the seam of parted texts only the first of them counts. -/
theorem standsAt_parted {u v : List Char} (hu : u ≠ []) (h : Parted word u v) :
    standsAt word (u ++ v) = standsAt word u := by
  induction u generalizing word with
  | nil => exact absurd rfl hu
  | cons c u ih =>
    cases word with
    | nil => rfl
    | cons w word =>
      simp only [standsAt, List.cons_append, afterFolded?]
      split_ifs with hfold
      · cases u with
        | nil =>
          -- the word has to go on behind the seam
          have hhead : ∀ c ∈ v.head?, Foreign (w :: word) c :=
            h.resolve_left fun hlast => hlast c rfl w List.mem_cons_self hfold
          cases word with
          | nil => rfl
          | cons w' word =>
            cases v with
            | nil => rfl
            | cons d v =>
              have hne : fold d ≠ fold w' := hhead d rfl w' (by simp)
              simp [afterFolded?, hne]
        | cons d u =>
          refine ih (List.cons_ne_nil d u) (h.imp (fun hlast x hx y hy => ?_)
            (fun hhead x hx y hy => hhead x hx y (List.mem_cons_of_mem w hy)))
          exact hlast x (by simpa using hx) y (List.mem_cons_of_mem w hy)
      · rfl

/-! ### Words somewhere in a text -/

/-- The word stands somewhere in the text. -/
def holds (word s : List Char) : Bool := (beforeFirst? word s).isSome

theorem beforeFirst?_cons (c : Char) (s : List Char) :
    beforeFirst? word (c :: s) =
      if standsAt word (c :: s) then some [] else (beforeFirst? word s).map (c :: ·) := rfl

theorem beforeFirst?_cons_eq_cons {c d : Char} {s before : List Char} :
    beforeFirst? word (c :: s) = some (d :: before) ↔
      standsAt word (c :: s) = false ∧ c = d ∧ beforeFirst? word s = some before := by
  rw [beforeFirst?_cons]
  split_ifs with hstands
  · simp [hstands]
  · cases hs : beforeFirst? word s <;> simp [hstands]

theorem beforeFirst?_nil (hword : word ≠ []) : beforeFirst? word [] = none := by
  cases word with
  | nil => exact absurd rfl hword
  | cons w word => rfl

theorem holds_cons (c : Char) (s : List Char) :
    holds word (c :: s) = (standsAt word (c :: s) || holds word s) := by
  unfold holds
  rw [beforeFirst?_cons]
  split_ifs with hstands <;> simp [hstands]

/-- Where the text before the word ends, the word stands. -/
theorem standsAt_of_beforeFirst? {s before : List Char} (h : beforeFirst? word s = some before) :
    ∃ rest, s = before ++ rest ∧ standsAt word rest := by
  induction s generalizing before with
  | nil =>
    cases word with
    | nil =>
      cases h
      exact ⟨[], rfl, rfl⟩
    | cons w word => cases h
  | cons c s ih =>
    rw [beforeFirst?_cons] at h
    split_ifs at h with hstands
    · cases h
      exact ⟨c :: s, rfl, hstands⟩
    · obtain ⟨before, hbefore, rfl⟩ := Option.map_eq_some_iff.1 h
      obtain ⟨rest, rfl, hrest⟩ := ih hbefore
      exact ⟨rest, rfl, hrest⟩

theorem length_lt_of_beforeFirst? (hword : word ≠ []) {s before : List Char}
    (h : beforeFirst? word s = some before) : before.length < s.length := by
  obtain ⟨rest, rfl, hrest⟩ := standsAt_of_beforeFirst? h
  cases rest with
  | nil =>
    cases word with
    | nil => exact absurd rfl hword
    | cons w word => simp [standsAt, afterFolded?] at hrest
  | cons c rest => simp

/-- What stands behind the first word does not matter. -/
theorem beforeFirst?_append_of_some {s before : List Char} (hword : word ≠ [])
    (h : beforeFirst? word s = some before) (t : List Char) :
    beforeFirst? word (s ++ t) = some before := by
  induction s generalizing before with
  | nil => simp [beforeFirst?_nil hword] at h
  | cons c s ih =>
    rw [List.cons_append, beforeFirst?_cons]
    rw [beforeFirst?_cons] at h
    split_ifs at h with hstands
    · cases h
      have hhead := standsAt_append hstands t
      rw [List.cons_append] at hhead
      rw [if_pos hhead]
    · -- the word fits in behind, so that it does not reach beyond the text at the head either
      obtain ⟨before, hbefore, rfl⟩ := Option.map_eq_some_iff.1 h
      obtain ⟨rest, hrest, hlater⟩ := standsAt_of_beforeFirst? hbefore
      have hlength := length_le_of_standsAt hlater
      have hle : word.length ≤ (c :: s).length := by
        rw [hrest, List.length_cons, List.length_append]
        omega
      have hhead := standsAt_append_of_le hle t
      rw [List.cons_append] at hhead
      rw [hhead, if_neg hstands, ih hbefore, Option.map_some]

/-- The first word of parted texts stands in the first of them, or else in the second. -/
theorem beforeFirst?_parted (hword : word ≠ []) {u v : List Char} (h : Parted word u v) :
    beforeFirst? word (u ++ v) =
      (beforeFirst? word u).or ((beforeFirst? word v).map (u ++ ·)) := by
  induction u with
  | nil => simp [beforeFirst?_nil hword]
  | cons c u ih =>
    have hstands := standsAt_parted (List.cons_ne_nil c u) h
    have hrest : Parted word u v := by
      refine h.imp_left fun hlast x hx => hlast x ?_
      cases u with
      | nil => simp at hx
      | cons d u => simpa using hx
    rw [List.cons_append, beforeFirst?_cons, beforeFirst?_cons, ← List.cons_append, hstands,
      ih hrest]
    split_ifs
    · rfl
    · cases beforeFirst? word u with
      | some before => rfl
      | none => cases beforeFirst? word v <;> rfl

theorem holds_parted (hword : word ≠ []) {u v : List Char} (h : Parted word u v) :
    holds word (u ++ v) = (holds word u || holds word v) := by
  unfold holds
  rw [beforeFirst?_parted hword h]
  cases beforeFirst? word u <;> simp

/-- What stands in front of a word may be dropped. -/
theorem beforeFirst?_of_append {u s before : List Char}
    (h : beforeFirst? word (u ++ s) = some (u ++ before)) : beforeFirst? word s = some before := by
  induction u with
  | nil => exact h
  | cons c u ih => exact ih (beforeFirst?_cons_eq_cons.1 h).2.2

/-- Where the word comes first at the end of a text, it does so whatever stands behind. -/
theorem beforeFirst?_last (hword : word ≠ []) {u name : List Char}
    (hname : name.length = word.length) (t : List Char) :
    beforeFirst? word (u ++ name ++ t) = some u ↔ beforeFirst? word (u ++ name) = some u := by
  refine ⟨fun h => ?_, fun h => beforeFirst?_append_of_some hword h t⟩
  induction u with
  | nil =>
    obtain ⟨rest, hrest, hstands⟩ := standsAt_of_beforeFirst? h
    obtain rfl : name ++ t = rest := by simpa using hrest
    rw [standsAt_append_of_le (Nat.le_of_eq hname.symm)] at hstands
    cases name with
    | nil => exact absurd (List.length_eq_zero_iff.1 hname.symm) hword
    | cons c name => rw [List.nil_append, beforeFirst?_cons, if_pos hstands]
  | cons c u ih =>
    have hle : word.length ≤ (c :: (u ++ name)).length := by
      rw [List.length_cons, List.length_append]
      omega
    obtain ⟨hstands, -, hrest⟩ := beforeFirst?_cons_eq_cons.1 h
    have hhead : standsAt word (c :: (u ++ name)) = false :=
      (standsAt_append_of_le hle t).symm.trans hstands
    exact beforeFirst?_cons_eq_cons.2 ⟨hhead, rfl, ih hrest⟩

theorem holds_append_of_holds {v : List Char} (h : holds word v) (u : List Char) :
    holds word (u ++ v) := by
  induction u with
  | nil => exact h
  | cons c u ih => rw [List.cons_append, holds_cons, ih, Bool.or_true]

/-! ### Whole blocks -/

variable {tag : List Char}

/-- The closing tag of a block. -/
def closingTag (tag : List Char) : List Char := ['<', '/'] ++ tag ++ ['>']

theorem closingTag_eq (tag : List Char) : closingTag tag = ['<', '/'] ++ tag ++ ['>'] := rfl

theorem closingTag_ne_nil : closingTag tag ≠ [] := by simp [closingTag]

theorem tagRest?_eq_some {s attributes behind : List Char} :
    tagRest? s = some (attributes, behind) ↔
      s = attributes ++ '>' :: behind ∧ '>' ∉ attributes ∧ endsWord s := by
  unfold tagRest?
  constructor
  · intro h
    split_ifs at h with hends
    split at h
    · rename_i c rest hdrop
      cases h
      have hc : c = '>' := by
        have hhead := List.head?_dropWhile_not (fun x => decide (x ≠ '>')) s
        rw [hdrop] at hhead
        simpa using hhead
      have hsplit := List.takeWhile_append_dropWhile (p := fun x => decide (x ≠ '>')) (l := s)
      rw [hdrop, hc] at hsplit
      refine ⟨hsplit.symm, fun hmem => ?_, hends⟩
      simpa using List.mem_takeWhile_imp hmem
    · cases h
  · rintro ⟨rfl, hnot, hends⟩
    have hall : ∀ c ∈ attributes, decide (c ≠ '>') = true := fun c hc => by
      simpa using ne_of_mem_of_not_mem hc hnot
    rw [if_pos hends, List.dropWhile_append_of_pos hall, List.takeWhile_append_of_pos hall]
    simp

/-- A block as it is found: an opening tag, a body without a closing tag and a closing tag. -/
structure Block.Whole (tag : List Char) (b : Block) : Prop where
  opening : ∃ name attributes, b.opening = name ++ attributes ++ ['>'] ∧
    name.length = tag.length + 1 ∧ afterFolded? ('<' :: tag) name = some [] ∧
    '>' ∉ attributes ∧ endsWord (attributes ++ ['>'])
  closing : b.closing.length = (closingTag tag).length
  body : beforeFirst? (closingTag tag) (b.body ++ b.closing) = some b.body

theorem endsWord_append {s : List Char} (hs : s ≠ []) (t : List Char) :
    endsWord (s ++ t) = endsWord s := by
  cases s with
  | nil => exact absurd rfl hs
  | cons c s => rfl

theorem take_opening {name attributes : List Char} (h : name.length = tag.length + 1)
    (rest : List Char) :
    (name ++ (attributes ++ '>' :: rest)).take (tag.length + attributes.length + 2) =
      name ++ attributes ++ ['>'] := by
  have hlength : (name ++ attributes ++ ['>']).length = tag.length + attributes.length + 2 := by
    rw [List.length_append, List.length_append, h, List.length_singleton]
    omega
  have htext : name ++ (attributes ++ '>' :: rest) = name ++ attributes ++ ['>'] ++ rest := by simp
  rw [htext, ← hlength, List.take_left]

/-- A block that is found is whole. -/
theorem whole_of_blockAt? {start : Nat} {s : List Char} {b : Block}
    (h : blockAt? tag start s = some b) :
    b.Whole tag ∧ b.start = start ∧ ∃ rest, s = b.characters ++ rest := by
  simp only [blockAt?, Option.bind_eq_bind, Option.bind_eq_some_iff, Prod.exists] at h
  obtain ⟨rest, hrest, attributes, behind, htag, body, hbody, h⟩ := h
  cases h
  obtain ⟨name, rfl, hlength, hname⟩ := afterFolded?_eq_some.1 hrest
  obtain ⟨rfl, hnot, hends⟩ := tagRest?_eq_some.1 htag
  obtain ⟨rest, rfl, hstands⟩ := standsAt_of_beforeFirst? hbody
  obtain ⟨behind, hbehind⟩ := Option.isSome_iff_exists.1 hstands
  obtain ⟨closing, rfl, hclosing, -⟩ := afterFolded?_eq_some.1 hbehind
  have htake : (closing ++ behind).take (tag.length + 3) = closing := by
    have hlast : closing.length = tag.length + 3 := by simpa [closingTag] using hclosing
    rw [← hlast, List.take_left]
  have hopening := @take_opening tag name attributes hlength (body ++ (closing ++ behind))
  have hboundary : endsWord (attributes ++ ['>']) = true := by
    rw [← endsWord_append (by simp) (body ++ (closing ++ behind))]
    simpa using hends
  simp only [List.drop_left, htake, hopening]
  refine ⟨⟨⟨name, attributes, rfl, by simpa using hlength, hname, hnot, hboundary⟩, hclosing, ?_⟩,
    trivial, behind, by simp [Block.characters]⟩
  refine (beforeFirst?_last closingTag_ne_nil hclosing behind).1 ?_
  rw [List.append_assoc]
  exact hbody

/-- A whole block is found again, whatever stands behind it. -/
theorem blockAt?_of_whole {b : Block} (h : b.Whole tag) (start : Nat) (rest : List Char) :
    blockAt? tag start (b.characters ++ rest) = some { b with start } := by
  obtain ⟨name, attributes, hopening, hlength, hname, hnot, hends⟩ := h.opening
  have htext : b.characters ++ rest =
      name ++ (attributes ++ '>' :: (b.body ++ (b.closing ++ rest))) := by
    simp [Block.characters, hopening]
  have hboundary : endsWord (attributes ++ '>' :: (b.body ++ (b.closing ++ rest))) = true := by
    rw [← endsWord_append (by simp) (b.body ++ (b.closing ++ rest))] at hends
    simpa using hends
  have hbody : beforeFirst? (closingTag tag) (b.body ++ (b.closing ++ rest)) = some b.body := by
    rw [← List.append_assoc]
    exact (beforeFirst?_last closingTag_ne_nil h.closing rest).2 h.body
  have htag : tagRest? (attributes ++ '>' :: (b.body ++ (b.closing ++ rest))) =
      some (attributes, b.body ++ (b.closing ++ rest)) := tagRest?_eq_some.2 ⟨rfl, hnot, hboundary⟩
  have hclosing : (b.closing ++ rest).take (tag.length + 3) = b.closing := by
    have hlast : b.closing.length = tag.length + 3 := by simpa [closingTag] using h.closing
    rw [← hlast, List.take_left]
  have hfound :
      blockAt? tag start (name ++ (attributes ++ '>' :: (b.body ++ (b.closing ++ rest)))) =
      some ⟨start, name ++ attributes ++ ['>'], b.body, b.closing⟩ := by
    simp only [blockAt?, afterFolded?_append hname, Option.bind_eq_bind, Option.bind_some, htag]
    rw [← closingTag_eq, hbody, Option.bind_some,
      List.drop_left, hclosing, take_opening hlength]
    rfl
  rw [htext, hfound, hopening]

/-! ### The first block -/

/-- The first block of a tag. -/
def firstBlock? (tag : List Char) : Nat → List Char → Option Block
  | _, [] => none
  | start, c :: s => (blockAt? tag start (c :: s)).or (firstBlock? tag (start + 1) s)

theorem head?_blocksFrom (tag : List Char) (start : Nat) (s : List Char) :
    (blocksFrom tag start 0 s).head? = firstBlock? tag start s := by
  induction s generalizing start with
  | nil => rfl
  | cons c s ih =>
    rw [blocksFrom, firstBlock?]
    cases blockAt? tag start (c :: s) with
    | none => exact ih (start + 1)
    | some b => rfl

theorem whole_of_firstBlock? {start : Nat} {s : List Char} {b : Block}
    (h : firstBlock? tag start s = some b) : b.Whole tag := by
  induction s generalizing start with
  | nil => cases h
  | cons c s ih =>
    rw [firstBlock?, Option.or_eq_some_iff] at h
    rcases h with h | ⟨-, h⟩
    · exact (whole_of_blockAt? h).1
    · exact ih h

/-- A tag of the name opens at the head of the text. -/
def opensAt (tag s : List Char) : Bool := (afterFolded? ('<' :: tag) s).any endsWord

/-- A tag of the name opens somewhere in the text. -/
def opens (tag : List Char) : List Char → Bool
  | [] => false
  | c :: s => opensAt tag (c :: s) || opens tag s

theorem blockAt?_eq_none {s : List Char} (h : opensAt tag s = false) (start : Nat) :
    blockAt? tag start s = none := by
  unfold opensAt at h
  unfold blockAt?
  cases hrest : afterFolded? ('<' :: tag) s with
  | none => rfl
  | some rest =>
    have hends : endsWord rest = false := by simpa [hrest] using h
    simp [tagRest?, hends]

/-- The text begins with a character that neither continues a word nor stands in the tag. -/
def Aside (tag s : List Char) : Prop := ∀ c ∈ s.head?, Foreign tag c ∧ Text.isWord c = false

theorem aside_cons {c : Char} {s : List Char} :
    Aside tag (c :: s) ↔ Foreign tag c ∧ Text.isWord c = false := by
  simp [Aside]

theorem endsWord_of_aside {s t : List Char} (hs : endsWord s) (ht : Aside tag t) :
    endsWord (s ++ t) := by
  cases s with
  | nil =>
    cases t with
    | nil => rfl
    | cons c t => simp [endsWord, (ht c rfl).2]
  | cons c s => exact hs

theorem any_afterFolded?_aside {u v : List Char} (h : Aside word v) :
    (afterFolded? word (u ++ v)).any endsWord = (afterFolded? word u).any endsWord := by
  induction u generalizing word with
  | nil =>
    cases v with
    | nil => rfl
    | cons d v =>
      obtain ⟨hforeign, hbreak⟩ := h d rfl
      cases word with
      | nil => simp [afterFolded?, endsWord, hbreak]
      | cons w word => simp [afterFolded?, hforeign w List.mem_cons_self]
  | cons c u ih =>
    cases word with
    | nil => rfl
    | cons w word =>
      simp only [List.cons_append, afterFolded?]
      split_ifs
      · exact ih fun d hd => ⟨fun x hx => (h d hd).1 x (List.mem_cons_of_mem w hx), (h d hd).2⟩
      · rfl

theorem opensAt_aside {u v : List Char} (hu : u ≠ []) (h : Aside tag v) :
    opensAt tag (u ++ v) = opensAt tag u := by
  cases u with
  | nil => exact absurd rfl hu
  | cons c u =>
    simp only [opensAt, List.cons_append, afterFolded?]
    split_ifs
    · exact any_afterFolded?_aside h
    · rfl

theorem opens_aside {u v : List Char} (h : Aside tag v) :
    opens tag (u ++ v) = (opens tag u || opens tag v) := by
  induction u with
  | nil => rfl
  | cons c u ih =>
    have hhead := opensAt_aside (List.cons_ne_nil c u) h
    rw [List.cons_append] at hhead
    rw [List.cons_append, opens, opens, hhead, ih, Bool.or_assoc]

theorem any_afterFolded?_foreign {u v : List Char} (hu : u ≠ [])
    (h : ∀ c ∈ u.getLast?, Foreign word c) :
    (afterFolded? word (u ++ v)).any endsWord = (afterFolded? word u).any endsWord := by
  induction u generalizing word with
  | nil => exact absurd rfl hu
  | cons c u ih =>
    cases word with
    | nil => rfl
    | cons w word =>
      simp only [List.cons_append, afterFolded?]
      split_ifs with hfold
      · cases u with
        | nil => exact absurd hfold (h c rfl w List.mem_cons_self)
        | cons d u =>
          refine ih (List.cons_ne_nil d u) fun x hx y hy => ?_
          exact h x (by simpa using hx) y (List.mem_cons_of_mem w hy)
      · rfl

/-- No tag reaches over the end of a text whose last character is part of no opening. -/
theorem opens_foreign {u v : List Char} (h : ∀ c ∈ u.getLast?, Foreign ('<' :: tag) c) :
    opens tag (u ++ v) = (opens tag u || opens tag v) := by
  induction u with
  | nil => rfl
  | cons c u ih =>
    have hhead : opensAt tag (c :: (u ++ v)) = opensAt tag (c :: u) :=
      any_afterFolded?_foreign (List.cons_ne_nil c u) h
    have hrest : ∀ d ∈ u.getLast?, Foreign ('<' :: tag) d := by
      intro d hd
      cases u with
      | nil => cases hd
      | cons e u => exact h d (by simpa using hd)
    rw [List.cons_append, opens, opens, hhead, ih hrest, Bool.or_assoc]

/-- In front of a text aside, where no tag opens, no block is found. -/
theorem firstBlock?_append {u v : List Char} (hu : opens tag u = false) (h : Aside tag v)
    (start : Nat) :
    firstBlock? tag start (u ++ v) = firstBlock? tag (start + u.length) v := by
  induction u generalizing start with
  | nil => rfl
  | cons c u ih =>
    rw [opens, Bool.or_eq_false_iff] at hu
    have hhead := opensAt_aside (List.cons_ne_nil c u) h
    rw [List.cons_append, hu.1] at hhead
    rw [List.cons_append, firstBlock?, blockAt?_eq_none hhead, Option.none_or, ih hu.2,
      List.length_cons]
    congr 1
    omega

/-- A tag that opens in front of a whole block opens a block. -/
theorem isSome_blockAt? {u : List Char} (hu : opensAt tag u) {b : Block} (hb : b.Whole tag)
    {rest : List Char} (haside : Aside tag (b.characters ++ rest)) (start : Nat) :
    (blockAt? tag start (u ++ (b.characters ++ rest))).isSome := by
  obtain ⟨name, attributes, hopening, -⟩ := hb.opening
  cases hinside : afterFolded? ('<' :: tag) u with
  | none => simp [opensAt, hinside] at hu
  | some inside =>
    obtain ⟨word, rfl, -, hword⟩ := afterFolded?_eq_some.1 hinside
    have hends : endsWord (inside ++ (b.characters ++ rest)) = true :=
      endsWord_of_aside (by simpa [opensAt, hinside] using hu) haside
    -- the tag ends at the first `>`, which is not behind the one that ends the block's own
    obtain ⟨own, between, hsplit, hown⟩ : ∃ own between,
        inside ++ (name ++ attributes) ++ ['>'] = own ++ '>' :: between ∧ '>' ∉ own :=
      List.eq_append_cons_of_mem (by simp)
    have htext : inside ++ (b.characters ++ rest) =
        own ++ '>' :: (between ++ (b.body ++ b.closing ++ rest)) := by
      have hwhole := congrArg (· ++ (b.body ++ b.closing ++ rest)) hsplit
      simpa [Block.characters, hopening] using hwhole
    have htag := tagRest?_eq_some.2 ⟨htext, hown, hends⟩
    have hbody : holds (closingTag tag) (between ++ (b.body ++ b.closing ++ rest)) = true := by
      refine holds_append_of_holds ?_ between
      rw [holds, (beforeFirst?_last closingTag_ne_nil hb.closing rest).2 hb.body]
      rfl
    obtain ⟨body, hbody⟩ := Option.isSome_iff_exists.1 hbody
    rw [List.append_assoc]
    simp only [blockAt?, afterFolded?_append hword, htag, Option.bind_eq_bind, Option.bind_some]
    rw [← closingTag_eq, hbody]
    rfl

/-- Where a tag opens in front of a whole block, a block begins in front of it. -/
theorem firstBlock?_of_opens {u : List Char} (hu : opens tag u) {b : Block} (hb : b.Whole tag)
    {rest : List Char} (haside : Aside tag (b.characters ++ rest)) (start : Nat) :
    ∃ b', firstBlock? tag start (u ++ (b.characters ++ rest)) = some b' ∧
      b'.start < start + u.length := by
  induction u generalizing start with
  | nil => cases hu
  | cons c u ih =>
    rw [List.cons_append, firstBlock?]
    cases hfound : blockAt? tag start (c :: (u ++ (b.characters ++ rest))) with
    | some b' =>
      have hstart := (whole_of_blockAt? hfound).2.1
      exact ⟨b', rfl, by simp [hstart]⟩
    | none =>
      have hnot : opensAt tag (c :: u) = false := by
        by_contra hopens
        have hsome := isSome_blockAt? (u := c :: u) (by simpa using hopens) hb haside start
        rw [List.cons_append, hfound] at hsome
        cases hsome
      rw [opens, hnot, Bool.false_or] at hu
      obtain ⟨b', hb', hlt⟩ := ih hu (start + 1)
      rw [Option.none_or]
      refine ⟨b', hb', ?_⟩
      rw [List.length_cons]
      omega

end Widgetry.Component
