import Widgetry.Proofs.Component.Places

/-! Sections put together and split again. A source is laid out as a template, possibly a script,
and styles, with other text around them. If no piece of it holds a delimiter of a section that is
not its own, splitting the source gives these sections back. -/

namespace Widgetry.Component

open Text (fold after? afterFolded? endsWord isBlank isWord)

/-! ### Words that begin at a mark -/

section Marks

variable {α : Type} {a : α} {w x v : List α}

/-- A word that has its first letter only once does not reach over a place where this letter
stands. -/
theorem prefix_of_append_cons (hw : a ∉ w) (hx : x ≠ []) (h : a :: w <+: x ++ a :: v) :
    a :: w <+: x := by
  rcases List.prefix_or_prefix_of_prefix h (List.prefix_append x (a :: v)) with hword | ⟨y, hy⟩
  · exact hword
  obtain ⟨z, hz⟩ := h
  obtain ⟨b, x, rfl⟩ := List.exists_cons_of_ne_nil hx
  rw [← hy, List.append_assoc, List.append_cancel_left_eq] at hz
  cases y with
  | nil => exact ⟨[], by simpa using hy.symm⟩
  | cons c y =>
    -- the letter stands a second time
    obtain ⟨rfl, -⟩ := List.cons.inj hz
    obtain ⟨-, rfl⟩ := List.cons.inj hy
    simp at hw

theorem infix_of_append (hx : a ∉ x) (h : a :: w <:+: x ++ v) : a :: w <:+: v := by
  induction x with
  | nil => exact h
  | cons b x ih =>
    rw [List.mem_cons, not_or] at hx
    rcases List.infix_cons_iff.1 h with hprefix | hinfix
    · exact absurd (List.cons_prefix_cons.1 hprefix).1 hx.1
    · exact ih hx.2 hinfix

end Marks

/-! ### Words in letters of either case -/

/-- The word stands in the text, in letters of either case. -/
def Contains (word s : List Char) : Prop := word.map fold <:+: s.map fold

instance (word s : List Char) : Decidable (Contains word s) :=
  inferInstanceAs (Decidable (word.map fold <:+: s.map fold))

variable {tag word : List Char}

theorem Contains.cons {s : List Char} (h : Contains word s) (c : Char) : Contains word (c :: s) :=
  h.trans (List.suffix_cons (fold c) (s.map fold)).isInfix

theorem prefix_of_standsAt {s : List Char} (h : standsAt word s) :
    word.map fold <+: s.map fold := by
  obtain ⟨rest, hrest⟩ := Option.isSome_iff_exists.1 h
  obtain ⟨name, rfl, -, hname⟩ := afterFolded?_eq_some.1 hrest
  have hsame : name.map fold = word.map fold := afterFolded?_eq_nil.1 hname
  rw [List.map_append, hsame]
  exact List.prefix_append _ _

theorem opens_eq_false_of_not_contains {s : List Char} (h : ¬ Contains ('<' :: tag) s) :
    opens tag s = false := by
  induction s with
  | nil => rfl
  | cons c s ih =>
    have hhead : opensAt tag (c :: s) = false := by
      by_contra hopens
      refine h (prefix_of_standsAt ?_).isInfix
      unfold opensAt at hopens
      unfold standsAt
      cases hafter : afterFolded? ('<' :: tag) (c :: s) with
      | none => simp [hafter] at hopens
      | some rest => rfl
    have hrest : ¬ Contains ('<' :: tag) s := fun hcontains => h (hcontains.cons c)
    rw [opens, hhead, ih hrest, Bool.or_false]

theorem isName_scriptTag : IsName scriptTag := ⟨by decide, by decide⟩

theorem isName_styleTag : IsName styleTag := ⟨by decide, by decide⟩

/-- A body without a closing tag ends at the closing tag. -/
theorem beforeFirst?_closingTag (htag : Lettered tag) {s : List Char}
    (hs : ¬ Contains (closingTag tag) s) :
    beforeFirst? (closingTag tag) (s ++ closingTag tag) = some s := by
  have hself : standsAt (closingTag tag) (closingTag tag) = true := by
    rw [standsAt, afterFolded?_eq_nil.2 rfl]
    rfl
  have hfold : (closingTag tag).map fold = '<' :: ('/' :: (tag.map fold ++ ['>'])) := by
    simp [closingTag]
    decide
  have hmark : '<' ∉ '/' :: (tag.map fold ++ ['>']) := by
    simp only [List.mem_cons, List.mem_append, List.mem_map, List.not_mem_nil, or_false, not_or,
      not_exists, not_and]
    refine ⟨by decide, fun w hw h => ?_, by decide⟩
    exact absurd (h ▸ htag w hw) (by decide)
  induction s with
  | nil =>
    rw [List.nil_append]
    exact (beforeFirst?_cons '<' _).trans (if_pos hself)
  | cons c s ih =>
    have hrest : ¬ Contains (closingTag tag) s := fun hcontains => hs (hcontains.cons c)
    have hhead : standsAt (closingTag tag) (c :: (s ++ closingTag tag)) = false := by
      by_contra hstands
      have hprefix := prefix_of_standsAt (Bool.not_eq_false _ ▸ hstands)
      rw [← List.cons_append, List.map_append, hfold] at hprefix
      have hinside := prefix_of_append_cons hmark (by simp) hprefix
      rw [← hfold] at hinside
      exact hs hinside.isInfix
    rw [List.cons_append, beforeFirst?_cons, hhead, ih hrest]
    rfl

/-! ### Texts without opening tags -/

theorem aside_of_not_isWord (htag : Lettered tag) {c : Char} (hc : isWord c = false)
    (s : List Char) : Aside tag (c :: s) :=
  aside_cons.2 ⟨foreign_of_not_isWord htag hc, hc⟩

theorem opens_cons {c : Char} (hc : c ≠ '<') (s : List Char) :
    opens tag (c :: s) = opens tag s := by
  have hfold : fold c ≠ fold '<' := fun h => hc (fold_eq_less h)
  simp [opens, opensAt, afterFolded?, hfold]

theorem opens_append {u : List Char} (hu : '<' ∉ u) (s : List Char) :
    opens tag (u ++ s) = opens tag s := by
  induction u with
  | nil => rfl
  | cons c u ih =>
    rw [List.mem_cons, not_or] at hu
    rw [List.cons_append, opens_cons (Ne.symm hu.1), ih hu.2]

/-- Where no tag opens no block is found. -/
theorem blocksFrom_passes {u v : List Char} (hu : opens tag u = false) (h : Aside tag v)
    (start : Nat) :
    blocksFrom tag start 0 (u ++ v) = blocksFrom tag (start + u.length) 0 v := by
  induction u generalizing start with
  | nil => rfl
  | cons c u ih =>
    rw [opens, Bool.or_eq_false_iff] at hu
    have hhead := opensAt_aside (List.cons_ne_nil c u) h
    rw [List.cons_append, hu.1] at hhead
    simp only [List.cons_append, blocksFrom, blockAt?_eq_none hhead]
    rw [ih hu.2, List.length_cons]
    congr 1
    omega

theorem blocksFrom_skip (start : Nat) (u v : List Char) :
    blocksFrom tag start u.length (u ++ v) = blocksFrom tag (start + u.length) 0 v := by
  induction u generalizing start with
  | nil => rfl
  | cons c u ih =>
    rw [List.length_cons, List.cons_append, blocksFrom, ih]
    congr 1
    omega

/-- A whole block is found at its place, and the blocks behind it follow. -/
theorem blocksFrom_whole {b : Block} (h : b.Whole tag) (v : List Char) :
    blocksFrom tag b.start 0 (b.characters ++ v) =
      b :: blocksFrom tag (b.start + b.characters.length) 0 v := by
  have hfound := blockAt?_of_whole h b.start v
  obtain ⟨c, s, hs⟩ := List.exists_cons_of_ne_nil
    (List.ne_nil_of_length_pos (length_pos_of_whole h))
  rw [hs, List.cons_append] at hfound ⊢
  rw [blocksFrom, hfound]
  simp only [hs, List.length_cons, Nat.add_sub_cancel]
  rw [blocksFrom_skip]
  congr 2
  omega

/-! ### Elements -/

/-- An element of a source and the text behind it, up to the next element or the end. -/
structure Piece where
  attributes : List Char
  body : List Char
  gap : List Char

namespace Piece

/-- The element, tags included. -/
def element (tag : List Char) (p : Piece) : List Char :=
  '<' :: (tag ++ (p.attributes ++ '>' :: (p.body ++ closingTag tag)))

/-- The element and the text behind it. -/
def text (tag : List Char) (p : Piece) : List Char := p.element tag ++ p.gap

/-- The element as a block of a source. -/
def block (tag : List Char) (start : Nat) (p : Piece) : Block where
  start := start
  opening := '<' :: (tag ++ (p.attributes ++ ['>']))
  body := p.body
  closing := closingTag tag

/-- The attributes are set off from the name of the tag, and do not end it. -/
def Tagged (p : Piece) : Prop := (∀ c ∈ p.attributes.head?, isBlank c) ∧ '>' ∉ p.attributes

/-- The word stands neither in the element's tag nor in its body nor behind it. -/
def Lacks (word : List Char) (p : Piece) : Prop :=
  ¬ Contains word p.attributes ∧ ¬ Contains word p.body ∧ ¬ Contains word p.gap

-- over the first character, and not over all characters there are
instance (p : Piece) : Decidable p.Tagged :=
  @instDecidableAnd _ _ (@Option.decidableForallMem Char (fun c => isBlank c) inferInstance
    p.attributes.head?) inferInstance

instance (word : List Char) (p : Piece) : Decidable (p.Lacks word) :=
  inferInstanceAs (Decidable (¬ Contains word p.attributes ∧ ¬ Contains word p.body ∧
    ¬ Contains word p.gap))

theorem characters_block (tag : List Char) (start : Nat) (p : Piece) :
    (p.block tag start).characters = p.element tag := by
  simp [Block.characters, block, element]

theorem endsWord_attributes {p : Piece} (h : p.Tagged) (s : List Char) :
    endsWord (p.attributes ++ '>' :: s) := by
  cases hattributes : p.attributes with
  | nil =>
    have hmore : isWord '>' = false := by decide +kernel
    simp [endsWord, hmore]
  | cons c rest =>
    have hc := isWord_eq_false_of_isBlank (h.1 c (by simp [hattributes]))
    simp [endsWord, hc]

theorem whole_block (htag : Lettered tag) {p : Piece} (h : p.Tagged)
    (hbody : ¬ Contains (closingTag tag) p.body) (start : Nat) :
    (p.block tag start).Whole tag where
  opening := ⟨'<' :: tag, p.attributes, by simp [block], rfl, afterFolded?_eq_nil.2 rfl, h.2,
    endsWord_attributes h []⟩
  closing := rfl
  body := beforeFirst?_closingTag htag hbody

/-- A tag of another name opens in an element only if it does so in one of its parts. -/
theorem opens_element (htag : IsName tag) {other : List Char} (hother : '<' ∉ other)
    (hdiffer : ∀ s, standsAt tag (other ++ s) = false) (p : Piece) (s : List Char) :
    opens tag (p.element other ++ s) =
      (opens tag p.attributes || (opens tag p.body || opens tag s)) := by
  have hmore : Aside tag ('>' :: (p.body ++ (closingTag other ++ s))) :=
    aside_of_not_isWord htag.letters (by decide +kernel) _
  have hless : Aside tag (closingTag other ++ s) :=
    aside_of_not_isWord htag.letters (by decide +kernel) _
  have hopening : ∀ s, opensAt tag ('<' :: (other ++ s)) = false := by
    intro s
    have hnone : afterFolded? tag (other ++ s) = none := by simpa [standsAt] using hdiffer s
    simp [opensAt, afterFolded?, hnone]
  have hslash : ∀ s, opensAt tag ('<' :: '/' :: s) = false := by
    intro s
    obtain ⟨w, rest, htext⟩ := List.exists_cons_of_ne_nil htag.ne_nil
    have hfold : fold '/' ≠ fold w :=
      foreign_of_not_isWord htag.letters (by decide +kernel) w (by simp [htext])
    simp [opensAt, afterFolded?, htext, hfold]
  have hclosing : opens tag (closingTag other ++ s) = opens tag s := by
    have htext : closingTag other ++ s = '<' :: '/' :: (other ++ '>' :: s) := by
      simp [closingTag]
    rw [htext, opens, hslash, Bool.false_or, opens_cons (by decide), opens_append hother,
      opens_cons (by decide)]
  unfold element
  simp only [List.cons_append, List.append_assoc]
  rw [opens, hopening, Bool.false_or, opens_append hother, opens_aside hmore,
    opens_cons (by decide), opens_aside hless, hclosing]

theorem aside_text (htag : Lettered tag) (other : List Char) (p : Piece) (s : List Char) :
    Aside tag (p.text other ++ s) :=
  aside_of_not_isWord htag (by decide +kernel) _

/-- A piece that lacks a tag can be passed over in the search for it. -/
theorem opens_text (htag : IsName tag) {other : List Char} (hother : '<' ∉ other)
    (hdiffer : ∀ s, standsAt tag (other ++ s) = false) {p : Piece} (hp : p.Lacks ('<' :: tag))
    {s : List Char} (hs : Aside tag s) : opens tag (p.text other ++ s) = opens tag s := by
  rw [text, List.append_assoc, opens_element htag hother hdiffer, opens_aside hs,
    opens_eq_false_of_not_contains hp.1, opens_eq_false_of_not_contains hp.2.1,
    opens_eq_false_of_not_contains hp.2.2, Bool.false_or, Bool.false_or, Bool.false_or]

end Piece

/-! ### Templates -/

def templateTag : List Char := "template".toList

theorem after?_eq_some {s rest : List Char} : after? word s = some rest ↔ s = word ++ rest := by
  fun_induction after? word s with
  | case1 s => simp
  | case2 w word => simp
  | case3 word c s ih => simp [ih]
  | case4 w word c s hne => simp [hne]

theorem templateFrom?_passes {u : List Char} (hu : ¬ '<' :: templateTag <:+: u) (start : Nat)
    (v : List Char) :
    templateFrom? start (u ++ '<' :: v) = templateFrom? (start + u.length) ('<' :: v) := by
  induction u generalizing start with
  | nil => rfl
  | cons c u ih =>
    have hnone : after? ('<' :: templateTag) (c :: (u ++ '<' :: v)) = none := by
      refine Option.eq_none_iff_forall_ne_some.2 fun rest hrest => hu ?_
      have hprefix : '<' :: templateTag <+: (c :: u) ++ '<' :: v :=
        ⟨rest, (after?_eq_some.1 hrest).symm⟩
      exact (prefix_of_append_cons (by decide) (by simp) hprefix).isInfix
    have hhead : templateAt? start (c :: (u ++ '<' :: v)) = none := by
      unfold templateAt?
      rw [show after? "<template".toList (c :: (u ++ '<' :: v)) = none from hnone]
      rfl
    have hrest : ¬ '<' :: templateTag <:+: u := fun h => hu (h.trans (List.suffix_cons c u).isInfix)
    rw [List.cons_append, templateFrom?, hhead, Option.none_or, ih hrest, List.length_cons]
    congr 1
    omega

theorem beforeLast?_eq_none (hword : word ≠ []) {s : List Char} (h : ¬ word <:+: s) :
    beforeLast? word s = none := by
  induction s with
  | nil => simp [beforeLast?, hword]
  | cons c s ih =>
    have hrest : ¬ word <:+: s := fun hs => h (hs.trans (List.suffix_cons c s).isInfix)
    have hnone : after? word (c :: s) = none :=
      Option.eq_none_iff_forall_ne_some.2 fun rest hs => h ⟨[], rest, (after?_eq_some.1 hs).symm⟩
    rw [beforeLast?, ih hrest]
    simp [hnone]

theorem beforeLast?_append {s : List Char} (h : beforeLast? word s = some []) (u : List Char) :
    beforeLast? word (u ++ s) = some u := by
  induction u with
  | nil => exact h
  | cons c u ih => rw [List.cons_append, beforeLast?, ih]

/-- The last closing tag is the one behind which there is none. -/
theorem beforeLast?_closingTag {v : List Char} (hv : ¬ closingTag templateTag <:+: v) :
    beforeLast? (closingTag templateTag) (closingTag templateTag ++ v) = some [] := by
  have htext : closingTag templateTag ++ v = '<' :: ('/' :: (templateTag ++ ['>']) ++ v) := by
    simp [closingTag]
  have hbehind : ¬ closingTag templateTag <:+: '/' :: (templateTag ++ ['>']) ++ v := fun h =>
    hv (infix_of_append (by decide) h)
  have hhere : (after? (closingTag templateTag) (closingTag templateTag ++ v)).isSome := by
    rw [after?_eq_some.2 rfl]
    rfl
  rw [htext] at hhere ⊢
  rw [beforeLast?, beforeLast?_eq_none closingTag_ne_nil hbehind]
  exact if_pos hhere

/-- A template is found up to the last closing tag. -/
theorem templateFrom?_element {p : Piece} (h : p.Tagged) {v : List Char}
    (hv : ¬ closingTag templateTag <:+: v) (start : Nat) :
    templateFrom? start (p.element templateTag ++ v) =
      some ⟨start, String.ofList (Text.trim p.attributes),
        String.ofList (p.element templateTag)⟩ := by
  have htext : p.element templateTag ++ v = ('<' :: templateTag) ++
      (p.attributes ++ '>' :: (p.body ++ (closingTag templateTag ++ v))) := by
    simp [Piece.element]
  have hafter := after?_eq_some.2 htext
  have htag : tagRest? (p.attributes ++ '>' :: (p.body ++ (closingTag templateTag ++ v))) =
      some (p.attributes, p.body ++ (closingTag templateTag ++ v)) :=
    tagRest?_eq_some.2 ⟨rfl, h.2, p.endsWord_attributes h _⟩
  have hbody := beforeLast?_append (beforeLast?_closingTag hv) p.body
  have hlength : "<template".length + p.attributes.length + 1 + p.body.length +
      "</template>".length = (p.element templateTag).length := by
    have hopening : "<template".length = 9 := by decide
    have hclosing : "</template>".length = 11 := by decide
    have hname : templateTag.length = 8 := by decide
    simp only [Piece.element, closingTag, List.length_cons, List.length_append, List.length_nil]
    omega
  have hfound : templateAt? start (p.element templateTag ++ v) =
      some ⟨start, String.ofList (Text.trim p.attributes),
        String.ofList (p.element templateTag)⟩ := by
    unfold templateAt?
    rw [show "<template".toList = '<' :: templateTag from rfl,
      show "</template>".toList = closingTag templateTag from rfl, hafter]
    simp only [Option.bind_eq_bind, Option.bind_some, htag, hbody, hlength, List.take_left]
    rfl
  rw [Piece.element, List.cons_append] at hfound ⊢
  rw [templateFrom?, hfound]
  rfl

/-! ### Layouts -/

/-- A source put together: some text, the template, possibly the script, and styles. Where there is
no script, the text behind the template reaches up to the first style. -/
structure Layout where
  front : List Char
  template : Piece
  script : Option Piece
  styles : List Piece

namespace Layout

/-- The text behind the template. -/
def behind (l : Layout) : List Char :=
  l.template.gap ++ ((l.script.map (·.text scriptTag)).getD [] ++
    l.styles.flatMap (·.text styleTag))

def text (l : Layout) : List Char := l.front ++ (l.template.element templateTag ++ l.behind)

/-- No piece of the source holds a delimiter of a section that is not its own. -/
structure Separable (l : Layout) : Prop where
  template_tagged : l.template.Tagged
  script_tagged : ∀ p ∈ l.script, p.Tagged
  styles_tagged : ∀ p ∈ l.styles, p.Tagged
  front_template : ¬ '<' :: templateTag <:+: l.front
  behind_template : ¬ closingTag templateTag <:+: l.behind
  front_lacks : ¬ Contains ('<' :: scriptTag) l.front ∧ ¬ Contains ('<' :: styleTag) l.front
  template_lacks : l.template.Lacks ('<' :: scriptTag) ∧ l.template.Lacks ('<' :: styleTag)
  script_lacks : ∀ p ∈ l.script, p.Lacks ('<' :: styleTag)
  script_body : ∀ p ∈ l.script, ¬ Contains (closingTag scriptTag) p.body
  styles_gap : ∀ p ∈ l.styles, ¬ Contains ('<' :: styleTag) p.gap
  styles_body : ∀ p ∈ l.styles, ¬ Contains (closingTag styleTag) p.body
  /-- Without a script, the styles do not open one either. -/
  styles_lack : l.script = none → ∀ p ∈ l.styles, p.Lacks ('<' :: scriptTag)

/-- The blocks of pieces that stand one behind the other. -/
def styleBlocks : Nat → List Piece → List Block
  | _, [] => []
  | start, p :: ps => p.block styleTag start :: styleBlocks (start + (p.text styleTag).length) ps

/-- The number of characters up to the end of the gap behind the template. -/
def scriptStart (l : Layout) : Nat := l.front.length + (l.template.text templateTag).length

/-- The sections as they were put together. -/
def sections (l : Layout) : Sections where
  template := some ⟨l.front.length, String.ofList (Text.trim l.template.attributes),
    String.ofList (l.template.element templateTag)⟩
  script := l.script.map (·.block scriptTag l.scriptStart)
  styles :=
    styleBlocks (l.scriptStart + ((l.script.map (·.text scriptTag)).getD []).length) l.styles

theorem aside_pieces (htag : Lettered tag) (other : List Char) (ps : List Piece) :
    Aside tag (ps.flatMap (·.text other)) := by
  cases ps with
  | nil => simp [Aside]
  | cons p ps => exact p.aside_text htag other _

theorem blocksFrom_styles {ps : List Piece} (htagged : ∀ p ∈ ps, p.Tagged)
    (hgap : ∀ p ∈ ps, ¬ Contains ('<' :: styleTag) p.gap)
    (hbody : ∀ p ∈ ps, ¬ Contains (closingTag styleTag) p.body) (start : Nat) :
    blocksFrom styleTag start 0 (ps.flatMap (·.text styleTag)) = styleBlocks start ps := by
  induction ps generalizing start with
  | nil => rfl
  | cons p ps ih =>
    rw [List.forall_mem_cons] at htagged hgap hbody
    have hwhole := p.whole_block isName_styleTag.letters htagged.1 hbody.1 start
    have hfirst := blocksFrom_whole hwhole (p.gap ++ ps.flatMap (·.text styleTag))
    rw [p.characters_block] at hfirst
    rw [List.flatMap_cons, styleBlocks, Piece.text, List.append_assoc]
    refine hfirst.trans ?_
    rw [blocksFrom_passes (opens_eq_false_of_not_contains hgap.1)
      (aside_pieces isName_styleTag.letters styleTag ps), ← ih htagged.2 hgap.2 hbody.2,
      List.length_append, ← Nat.add_assoc]
    rfl

/-- No tag opens up to the end of the gap behind the template. -/
theorem opens_front {l : Layout} (htag : IsName tag)
    (hdiffer : ∀ s, standsAt tag (templateTag ++ s) = false)
    (hfront : ¬ Contains ('<' :: tag) l.front) (hlacks : l.template.Lacks ('<' :: tag)) :
    opens tag (l.front ++ l.template.text templateTag) = false := by
  rw [← List.append_nil (l.template.text templateTag),
    opens_aside (l.template.aside_text htag.letters templateTag []),
    opens_eq_false_of_not_contains hfront,
    Piece.opens_text htag (by decide) hdiffer hlacks (by simp [Aside])]
  rfl

theorem opens_pieces (htag : IsName tag) {other : List Char} (hother : '<' ∉ other)
    (hdiffer : ∀ s, standsAt tag (other ++ s) = false) {ps : List Piece}
    (hlacks : ∀ p ∈ ps, p.Lacks ('<' :: tag)) : opens tag (ps.flatMap (·.text other)) = false := by
  induction ps with
  | nil => rfl
  | cons p ps ih =>
    rw [List.forall_mem_cons] at hlacks
    rw [List.flatMap_cons, Piece.opens_text htag hother hdiffer hlacks.1
      (aside_pieces htag.letters other ps), ih hlacks.2]

theorem text_eq (l : Layout) :
    l.text = (l.front ++ l.template.text templateTag) ++
      ((l.script.map (·.text scriptTag)).getD [] ++ l.styles.flatMap (·.text styleTag)) := by
  simp [text, behind, Piece.text]

variable {l : Layout}

theorem Separable.templateFrom? (h : l.Separable) :
    Component.templateFrom? 0 l.text = l.sections.template := by
  have hfront := templateFrom?_passes h.front_template 0
    (templateTag ++ (l.template.attributes ++ '>' ::
      (l.template.body ++ closingTag templateTag)) ++ l.behind)
  rw [Nat.zero_add] at hfront
  exact hfront.trans (templateFrom?_element h.template_tagged h.behind_template l.front.length)

theorem Separable.head?_scripts (h : l.Separable) :
    (blocksFrom scriptTag 0 0 l.text).head? = l.sections.script := by
  have hfront := opens_front isName_scriptTag (fun _ => rfl) h.front_lacks.1 h.template_lacks.1
  have hstart : 0 + (l.front ++ l.template.text templateTag).length = l.scriptStart := by
    rw [Nat.zero_add, List.length_append, scriptStart]
  rw [text_eq]
  unfold Layout.sections
  cases hscript : l.script with
  | none =>
    have hstyles := @opens_pieces scriptTag isName_scriptTag styleTag (by decide) (fun _ => rfl)
      l.styles (h.styles_lack hscript)
    have haside := aside_pieces isName_scriptTag.letters styleTag l.styles
    simp only [Option.map_none, Option.getD_none, List.nil_append]
    rw [blocksFrom_passes hfront haside, ← List.append_nil (l.styles.flatMap _),
      blocksFrom_passes hstyles (by simp [Aside])]
    rfl
  | some p =>
    have hwhole := p.whole_block isName_scriptTag.letters (h.script_tagged p hscript)
      (h.script_body p hscript) l.scriptStart
    have hfound := blocksFrom_whole hwhole (p.gap ++ l.styles.flatMap (·.text styleTag))
    rw [p.characters_block, ← List.append_assoc] at hfound
    have haside := p.aside_text isName_scriptTag.letters scriptTag
      (l.styles.flatMap (·.text styleTag))
    simp only [Option.map_some, Option.getD_some]
    rw [blocksFrom_passes hfront haside, hstart]
    exact congrArg List.head? hfound

theorem Separable.styles (h : l.Separable) :
    blocksFrom styleTag 0 0 l.text = l.sections.styles := by
  have hhead : opens styleTag ((l.front ++ l.template.text templateTag) ++
      (l.script.map (·.text scriptTag)).getD []) = false := by
    have hfront := opens_front isName_styleTag (fun _ => rfl) h.front_lacks.2 h.template_lacks.2
    cases hscript : l.script with
    | none => simpa using hfront
    | some p =>
      have hscript : opens styleTag (p.text scriptTag ++ []) = opens styleTag [] :=
        Piece.opens_text isName_styleTag (by decide) (fun _ => rfl) (h.script_lacks p hscript)
          (by simp [Aside])
      rw [Option.map_some, Option.getD_some, ← List.append_nil (p.text scriptTag),
        opens_aside (p.aside_text isName_styleTag.letters scriptTag []), hfront, hscript]
      rfl
  rw [text_eq, ← List.append_assoc,
    blocksFrom_passes hhead (aside_pieces isName_styleTag.letters styleTag l.styles),
    blocksFrom_styles h.styles_tagged h.styles_gap h.styles_body, List.length_append,
    List.length_append, Nat.zero_add]
  rfl

theorem map_text_styleBlocks (start : Nat) (ps : List Piece) :
    (styleBlocks start ps).map Block.text = ps.map fun p => String.ofList (p.element styleTag) := by
  induction ps generalizing start with
  | nil => rfl
  | cons p ps ih =>
    rw [styleBlocks, List.map_cons, List.map_cons, ih, Block.text, p.characters_block]

end Layout

/-- Splitting a source that was put together from separable pieces gives its sections back: the
attributes and the whole of the template, the script if there is one, and all styles in order. -/
theorem sections_assembled {l : Layout} (h : l.Separable) :
    sections (String.ofList l.text) = l.sections ∧
      l.sections.script.map Block.text =
        l.script.map (fun p => String.ofList (p.element scriptTag)) ∧
      l.sections.styles.map Block.text =
        l.styles.map fun p => String.ofList (p.element styleTag) := by
  refine ⟨?_, ?_, Layout.map_text_styleBlocks _ _⟩
  · have hsections : sections (String.ofList l.text) = ⟨templateFrom? 0 l.text,
        (blocksFrom scriptTag 0 0 l.text).head?, blocksFrom styleTag 0 0 l.text⟩ := by
      simp only [sections, scriptBlock?, blocks, String.toList_ofList]
      rfl
    rw [hsections, h.templateFrom?, h.head?_scripts, h.styles]
  · simp [Layout.sections, Block.text, Piece.characters_block, Function.comp_def]

/-- A template in a template, a script with other closing tags in it, and two styles with a script
in a comment between them. -/
def nestedTemplate : Layout where
  front := "<!-- <Template> -->\n".toList
  template := ⟨" lang=\"blui\"\n".toList, "<template #row><Text/></template>".toList, ['\n']⟩
  script := some ⟨[], "export default 1 < 2 // </style> </scripts>".toList, "\n</script>".toList⟩
  styles := [
    ⟨" scoped".toList, "/* <style> */ .a > .b".toList, "\n<!-- <script>late</script> -->".toList⟩,
    ⟨[], [], []⟩]

/-- All of it comes apart again. -/
theorem nestedTemplate_split :
    nestedTemplate.Separable ∧
      sections (String.ofList nestedTemplate.text) = nestedTemplate.sections ∧
      nestedTemplate.sections.styles.map Block.text =
        ["<style scoped>/* <style> */ .a > .b</style>", "<style></style>"] := by
  have hseparable : nestedTemplate.Separable := by
    constructor <;> decide +kernel
  have hsplit := sections_assembled hseparable
  exact ⟨hseparable, hsplit.1, hsplit.2.2.trans (by decide +kernel)⟩

end Widgetry.Component
