import Widgetry.Component.Compile
import Widgetry.Proofs.Component.Blocks

/-! The script of a compiled component, read again. Generated code is put into the author's block
between characters that are part of no closing tag, so that the block is found again, as it was
written, exactly if the template opens no script and the generated code closes none. -/

namespace Widgetry.Component

open Text (fold afterFolded? endsWord)

/-! ### Closing tags of scripts -/

def scriptTag : List Char := "script".toList

/-- A closing tag of a script stands in the text. -/
def closesScript (s : List Char) : Bool := holds (closingTag scriptTag) s

theorem fold_eq_less {c : Char} (h : fold c = '<') : c = '<' := by
  unfold fold at h
  split_ifs at h
  · exact absurd h (by decide)
  · exact absurd h (by decide)
  · unfold Char.toLower at h
    split_ifs at h with hupper
    · -- a capital letter turns into a letter
      have hcode := congrArg (fun d : Char => d.val.toNat) h
      have hlower := UInt32.le_iff_toNat_le.1 hupper.1
      have hhigher := UInt32.le_iff_toNat_le.1 hupper.2
      simp at hcode hlower hhigher
      omega
    · exact h

theorem closesScript_cons {c : Char} (hc : c ≠ '<') (s : List Char) :
    closesScript (c :: s) = closesScript s := by
  have hfold : fold c ≠ fold '<' := fun h => hc (fold_eq_less h)
  have hstands : standsAt (closingTag scriptTag) (c :: s) = false := by
    simp [standsAt, closingTag, afterFolded?, hfold]
  rw [closesScript, holds_cons, hstands, Bool.false_or]
  rfl

/-- In front of a text, what holds no `<` makes no difference. -/
theorem closesScript_append {u : List Char} (hu : '<' ∉ u) (v : List Char) :
    closesScript (u ++ v) = closesScript v := by
  induction u with
  | nil => rfl
  | cons c u ih =>
    rw [List.mem_cons, not_or] at hu
    rw [List.cons_append, closesScript_cons (Ne.symm hu.1), ih hu.2]

theorem closesScript_eq_false {u : List Char} (hu : '<' ∉ u) : closesScript u = false := by
  have happend := closesScript_append hu []
  rw [List.append_nil] at happend
  rw [happend]
  rfl

/-- What ends in a character that no closing tag has is parted from what follows. -/
theorem parted_of_getLast? {u : List Char} {c : Char} (hu : u.getLast? = some c)
    (hc : Foreign (closingTag scriptTag) c) (v : List Char) :
    Parted (closingTag scriptTag) u v := by
  refine .inl fun d hd => ?_
  rw [hu, Option.mem_some] at hd
  exact hd ▸ hc

theorem closesScript_parted {u v : List Char} (h : Parted (closingTag scriptTag) u v) :
    closesScript (u ++ v) = (closesScript u || closesScript v) :=
  holds_parted closingTag_ne_nil h

/-- A character that no closing tag has parts texts. -/
theorem closesScript_append_cons {c : Char} (hc : Foreign (closingTag scriptTag) c)
    (u v : List Char) : closesScript (u ++ c :: v) = (closesScript u || closesScript v) := by
  have hless : c ≠ '<' := by
    rintro rfl
    exact hc '<' (by simp [closingTag]) rfl
  rw [closesScript_parted (.inr (by simpa using hc)), closesScript_cons hless]

theorem whole_of_scriptBlock? {text : String} {b : Block} (h : scriptBlock? text = some b) :
    b.Whole scriptTag :=
  whole_of_firstBlock? ((head?_blocksFrom scriptTag 0 text.toList).symm.trans h)

/-! ### The spliced block -/

namespace ScriptBlock

theorem whole_of_ofText {text : String} {s : ScriptBlock} (h : ofText text = .ok s) :
    s.block.Whole scriptTag := by
  unfold ofText at h
  cases hb : scriptBlock? text with
  | none => simp [hb] at h
  | some b =>
    simp only [hb] at h
    split at h
    · cases h
      exact whole_of_scriptBlock? hb
    · cases h

variable (s : ScriptBlock) (parts : Script.Parts)

/-- The author's block with generated code in its body. -/
def spliced (start : Nat) : Block where
  start := start
  opening := s.block.opening
  body := '\n' :: (parts.importsCode.toList ++ s.splicedBody parts.mixinCode.toList)
  closing := s.block.closing

theorem text_spliced (start : Nat) : (s.spliced parts start).text = s.splice parts := by
  simp [Block.text, Block.characters, spliced, splice, ← String.toList_inj]

variable {s}

/-- No closing tag stands at the front of the body of a whole block. -/
theorem closesScript_of_body {b : Block} (h : b.Whole scriptTag) {u v : List Char}
    (hb : b.body = u ++ v) : closesScript u = false := by
  by_contra hcloses
  obtain ⟨before, hbefore⟩ := Option.isSome_iff_exists.1 (Bool.not_eq_false _ ▸ hcloses)
  have hshort := length_lt_of_beforeFirst? closingTag_ne_nil hbefore
  have hfirst := beforeFirst?_append_of_some closingTag_ne_nil hbefore (v ++ b.closing)
  have hbody := h.body
  rw [hb, List.append_assoc, hfirst, Option.some.injEq] at hbody
  rw [hbody, List.length_append] at hshort
  omega

/-- An insertion stands apart from the code around it, and closes a script if the mixin does. -/
theorem insertion_apart {mixin : List Char} (hmixin : mixin.head? = some '{') :
    (∃ c, (s.insertion mixin).head? = some c ∧ Foreign (closingTag scriptTag) c) ∧
      (∃ c, (s.insertion mixin).getLast? = some c ∧ Foreign (closingTag scriptTag) c) ∧
      closesScript (s.insertion mixin) = closesScript mixin := by
  have hbehind : ∀ {c : Char} {v : List Char}, Foreign (closingTag scriptTag) c → '<' ∉ v →
      closesScript (mixin ++ c :: v) = closesScript mixin := fun hc hv => by
    rw [closesScript_append_cons hc, closesScript_eq_false hv, Bool.or_false]
  unfold insertion
  split
  · split_ifs
    · refine ⟨⟨'[', rfl, by decide⟩, ⟨']', List.getLast?_append.trans rfl, by decide⟩, ?_⟩
      rw [List.append_assoc, closesScript_append (by decide), hbehind (by decide) (by decide)]
    · exact ⟨⟨'{', by simp [List.head?_append, hmixin], by decide⟩,
        ⟨' ', List.getLast?_append.trans rfl, by decide⟩, hbehind (by decide) (by decide)⟩
  · refine ⟨⟨'\n', rfl, by decide⟩, ⟨',', List.getLast?_append.trans rfl, by decide⟩, ?_⟩
    rw [List.append_assoc, closesScript_append (by decide), hbehind (by decide) (by decide)]

theorem importsCode_apart (v : List Char) :
    Parted (closingTag scriptTag) parts.importsCode.toList v := by
  unfold Script.Parts.importsCode
  split_ifs
  · exact .inl (by simp)
  · refine @parted_of_getLast? _ '\n' ?_ (by decide) v
    rw [String.toList_append, List.getLast?_append]
    rfl

/-- The spliced block is whole exactly if no generated code closes a script. -/
theorem whole_spliced_iff (h : s.block.Whole scriptTag) (start : Nat) :
    (s.spliced parts start).Whole scriptTag ↔
      closesScript parts.importsCode.toList = false ∧
        closesScript parts.mixinCode.toList = false := by
  obtain ⟨⟨c, hhead, hc⟩, ⟨d, hlast, hd⟩, hmixin⟩ :=
    @insertion_apart s parts.mixinCode.toList (by simp [Script.Parts.mixinCode])
  -- the body up to the end of the insertion, and the author's text behind it
  generalize hcode : '\n' :: (parts.importsCode.toList ++
    (s.block.body.take s.gap.1 ++ s.insertion parts.mixinCode.toList)) = code
  have hbody : (s.spliced parts start).body = code ++ s.block.body.drop s.gap.2 := by
    simp [spliced, splicedBody, ← hcode]
  have hcloses : closesScript code =
      (closesScript parts.importsCode.toList || closesScript parts.mixinCode.toList) := by
    rw [← hcode, closesScript_cons (by decide), closesScript_parted (importsCode_apart parts _),
      closesScript_parted (.inr (by simpa [hhead] using hc)), hmixin,
      closesScript_of_body h (List.take_append_drop s.gap.1 _).symm, Bool.false_or]
  rw [← Bool.or_eq_false_iff, ← hcloses]
  refine ⟨fun hwhole => closesScript_of_body hwhole hbody, fun hnot => ⟨h.opening, h.closing, ?_⟩⟩
  have hbehind : beforeFirst? (closingTag scriptTag)
      (s.block.body.drop s.gap.2 ++ s.block.closing) = some (s.block.body.drop s.gap.2) := by
    refine @beforeFirst?_of_append _ (s.block.body.take s.gap.2) _ _ ?_
    rw [← List.append_assoc, List.take_append_drop]
    exact h.body
  have hend : code.getLast? = some d := by
    rw [← hcode, List.getLast?_cons, List.getLast?_append, List.getLast?_append, hlast]
    rfl
  have hnone : beforeFirst? (closingTag scriptTag) code = none := by
    simpa [closesScript, holds] using hnot
  have hclosing : (s.spliced parts start).closing = s.block.closing := rfl
  rw [hbody, hclosing, List.append_assoc,
    beforeFirst?_parted closingTag_ne_nil (parted_of_getLast? hend hd _), hnone, hbehind]
  rfl

end ScriptBlock

/-! ### The compiled component -/

theorem less_of_whole {b : Block} (h : b.Whole scriptTag) :
    ∃ rest, b.characters = '<' :: rest := by
  obtain ⟨name, attributes, hopening, -, hname, -⟩ := h.opening
  cases name with
  | nil => cases hname
  | cons c name =>
    rw [afterFolded?] at hname
    split_ifs at hname with hfold
    obtain rfl : c = '<' := fold_eq_less hfold
    exact ⟨name ++ attributes ++ ['>'] ++ b.body ++ b.closing, by simp [Block.characters, hopening]⟩

/-- A block of a script is aside of what stands in front of it. -/
theorem aside_of_whole {b : Block} (h : b.Whole scriptTag) (rest : List Char) :
    Aside scriptTag (b.characters ++ rest) := by
  obtain ⟨inside, hless⟩ := less_of_whole h
  rw [hless, List.cons_append, aside_cons]
  decide +kernel

/-- Whatever stands around it, a block of a script is found at its place exactly if it is whole and
no script opens in front of it. -/
theorem scriptBlock?_eq_iff {source : String} {before behind : List Char} {b : Block}
    (hsource : source.toList = before ++ (b.characters ++ behind))
    (hstart : b.start = before.length) :
    scriptBlock? source = some b ↔ b.Whole scriptTag ∧ opens scriptTag before = false := by
  have hfirst : scriptBlock? source =
      firstBlock? scriptTag 0 (before ++ (b.characters ++ behind)) := by
    rw [← hsource]
    exact head?_blocksFrom scriptTag 0 source.toList
  rw [hfirst]
  constructor
  · intro h
    have hwhole := whole_of_firstBlock? h
    refine ⟨hwhole, ?_⟩
    by_contra hopens
    obtain ⟨b', hb', hlt⟩ := firstBlock?_of_opens (by simpa using hopens) hwhole
      (aside_of_whole hwhole behind) 0
    rw [h] at hb'
    cases hb'
    omega
  · rintro ⟨hwhole, hopens⟩
    obtain ⟨inside, hless⟩ := less_of_whole hwhole
    have hfound := blockAt?_of_whole hwhole b.start behind
    rw [firstBlock?_append hopens (aside_of_whole hwhole behind), Nat.zero_add, ← hstart]
    rw [hless, List.cons_append] at hfound ⊢
    rw [firstBlock?, hfound]
    rfl

theorem opening_of_whole {b : Block} (h : b.Whole scriptTag) :
    ∃ inside, b.opening = inside ++ ['>'] ∧ '>' ∉ inside := by
  obtain ⟨name, attributes, hopening, -, hname, hattributes, -⟩ := h.opening
  refine ⟨name ++ attributes, hopening, ?_⟩
  rw [List.mem_append, not_or]
  refine ⟨fun hmem => ?_, hattributes⟩
  obtain ⟨w, hw, hfold⟩ := exists_fold_eq hname hmem
  have hforeign : Foreign ('<' :: scriptTag) '>' := by decide
  exact hforeign w hw hfold

/-- Whole blocks of the same characters are cut at the same places. -/
theorem pieces_eq_of_characters_eq {a b : Block} (h : a.characters = b.characters)
    (ha : a.Whole scriptTag) (hopening : ∃ inside, b.opening = inside ++ ['>'] ∧ '>' ∉ inside)
    (hclosing : b.closing.length = (closingTag scriptTag).length) :
    a.opening = b.opening ∧ a.body = b.body ∧ a.closing = b.closing := by
  obtain ⟨inside, hinside, hnot⟩ := opening_of_whole ha
  obtain ⟨inside', hinside', hnot'⟩ := hopening
  have htake : ∀ {u : List Char} (v : List Char), '>' ∉ u →
      (u ++ '>' :: v).takeWhile (· ≠ '>') = u := fun v hu => by
    rw [List.takeWhile_append_of_pos fun c hc => by simpa using ne_of_mem_of_not_mem hc hu]
    simp
  have htext :
      inside ++ '>' :: (a.body ++ a.closing) = inside' ++ '>' :: (b.body ++ b.closing) := by
    simpa [Block.characters, hinside, hinside'] using h
  obtain rfl : inside = inside' := by
    rw [← htake (a.body ++ a.closing) hnot, htext, htake _ hnot']
  have hrest : a.body ++ a.closing = b.body ++ b.closing := by simpa using htext
  obtain ⟨hbody, hclosing⟩ := List.append_inj' hrest (ha.closing.trans hclosing.symm)
  exact ⟨hinside.trans hinside'.symm, hbody, hclosing⟩

namespace ScriptBlock

variable {s : ScriptBlock} (parts : Script.Parts) {source : String} {before behind : List Char}

/-- The spliced block is found at its place exactly if no script opens in front of it and no
generated code closes one. -/
theorem scriptBlock?_eq_spliced_iff (h : s.block.Whole scriptTag)
    (hsource : source.toList = before ++ ((s.splice parts).toList ++ behind)) :
    scriptBlock? source = some (s.spliced parts before.length) ↔
      opens scriptTag before = false ∧ closesScript parts.importsCode.toList = false ∧
        closesScript parts.mixinCode.toList = false := by
  rw [← text_spliced s parts before.length, Block.text, String.toList_ofList] at hsource
  rw [scriptBlock?_eq_iff hsource rfl, whole_spliced_iff parts h, and_comm]

/-- Where no script opens in front of it, the text of the first script is the spliced text exactly
if the spliced block is found. -/
theorem text_scriptBlock?_iff (h : s.block.Whole scriptTag)
    (hsource : source.toList = before ++ ((s.splice parts).toList ++ behind))
    (hopens : opens scriptTag before = false) :
    (scriptBlock? source).map Block.text = some (s.splice parts) ↔
      scriptBlock? source = some (s.spliced parts before.length) := by
  refine ⟨fun htext => ?_, fun hfound => by rw [hfound, Option.map_some, text_spliced]⟩
  obtain ⟨b, hb, htext⟩ := Option.map_eq_some_iff.1 htext
  have hwhole := whole_of_scriptBlock? hb
  have hcharacters : b.characters = (s.spliced parts before.length).characters := by
    rw [← text_spliced s parts before.length] at htext
    exact String.ofList_injective htext
  obtain ⟨-, hbody, hclosing⟩ :=
    pieces_eq_of_characters_eq hcharacters hwhole (@opening_of_whole s.block h) h.closing
  rw [← text_spliced s parts before.length, Block.text, String.toList_ofList] at hsource
  refine (scriptBlock?_eq_iff hsource rfl).2 ⟨⟨h.opening, h.closing, ?_⟩, hopens⟩
  rw [← hbody, ← hclosing]
  exact hwhole.body

end ScriptBlock

end Widgetry.Component
