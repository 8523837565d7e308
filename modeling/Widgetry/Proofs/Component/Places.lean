import Widgetry.Proofs.Component.Recovery

/-! Where the sections of a component come from. Template, script and styles are each looked for in
the whole source, so that one of them may be found inside another. They come from disjoint places
exactly if leaving one of them out of the source makes no difference to what else is found. -/

namespace Widgetry.Component

/-! ### Stretches of a source -/

/-- A stretch of a text: the number of characters in front of it, and up to its end. -/
structure Stretch where
  start : Nat
  stop : Nat
  deriving DecidableEq

namespace Stretch

def Apart (a b : Stretch) : Prop := a.stop ≤ b.start ∨ b.stop ≤ a.start

instance (a b : Stretch) : Decidable (a.Apart b) :=
  inferInstanceAs (Decidable (a.stop ≤ b.start ∨ b.stop ≤ a.start))

/-- The characters in the stretch. -/
def within (r : Stretch) (s : List Char) : List Char := (s.take r.stop).drop r.start

theorem within_append (u m v : List Char) :
    within ⟨u.length, u.length + m.length⟩ (u ++ (m ++ v)) = m := by
  unfold within
  rw [← List.append_assoc, ← List.length_append, List.take_left, List.drop_left]

end Stretch

/-- Where the block stands. -/
def Block.stretch (b : Block) : Stretch := ⟨b.start, b.start + b.characters.length⟩

/-- Where the template stands. -/
def TemplateSection.stretch (t : TemplateSection) : Stretch :=
  ⟨t.start, t.start + t.markup.toList.length⟩

/-- The places that the sections come from. -/
def Sections.stretches (s : Sections) : List Stretch :=
  s.template.toList.map (·.stretch) ++ (s.script.toList.map (·.stretch) ++ s.styles.map (·.stretch))

/-- The sections come from disjoint places. -/
def Sections.Apart (s : Sections) : Prop := s.stretches.Pairwise Stretch.Apart

instance (s : Sections) : Decidable s.Apart :=
  inferInstanceAs (Decidable (s.stretches.Pairwise Stretch.Apart))

/-- The blocks of a tag in what is left of a text without a stretch: those in front of it, and those
behind it. -/
def blocksAround (tag : List Char) (cut : Stretch) (s : List Char) : List Block :=
  blocksFrom tag 0 0 (s.take cut.start) ++ blocksFrom tag cut.stop 0 (s.drop cut.stop)

/-! ### Blocks in a longer text -/

variable {tag : List Char}

theorem length_pos_of_whole {b : Block} (h : b.Whole tag) : 0 < b.characters.length := by
  obtain ⟨name, attributes, hopening, -⟩ := h.opening
  simp only [Block.characters, hopening, List.length_append, List.length_singleton]
  omega

/-- A block is found whatever stands behind it. -/
theorem blockAt?_append {start : Nat} {u : List Char} {b : Block}
    (h : blockAt? tag start u = some b) (v : List Char) :
    blockAt? tag start (u ++ v) = some b := by
  obtain ⟨hwhole, rfl, rest, rfl⟩ := whole_of_blockAt? h
  rw [List.append_assoc]
  exact blockAt?_of_whole hwhole b.start (rest ++ v)

/-- A block is found where its text ends. -/
theorem blockAt?_of_append {start : Nat} {u v : List Char} {b : Block}
    (h : blockAt? tag start (u ++ v) = some b) (hle : b.characters.length ≤ u.length) :
    blockAt? tag start u = some b := by
  obtain ⟨hwhole, rfl, rest, htext⟩ := whole_of_blockAt? h
  obtain ⟨rest, rfl⟩ : b.characters <+: u :=
    List.prefix_of_prefix_length_le ⟨rest, htext.symm⟩ (List.prefix_append u v) hle
  exact blockAt?_of_whole hwhole b.start rest

/-- Where the blocks of a text stand in it. -/
theorem place_of_mem_blocksFrom {start skip : Nat} {s : List Char} {b : Block}
    (h : b ∈ blocksFrom tag start skip s) :
    b.Whole tag ∧ ∃ u v, s = u ++ (b.characters ++ v) ∧ b.start = start + u.length ∧
      skip ≤ u.length := by
  induction s generalizing start skip with
  | nil => simp [blocksFrom] at h
  | cons c s ih =>
    -- a block that is found behind the first character
    have hlater : ∀ {skip' : Nat}, b ∈ blocksFrom tag (start + 1) skip' s → skip ≤ skip' + 1 →
        b.Whole tag ∧ ∃ u v, c :: s = u ++ (b.characters ++ v) ∧ b.start = start + u.length ∧
          skip ≤ u.length := by
      intro skip' hb hskip
      obtain ⟨hwhole, u, v, rfl, hstart, hle⟩ := ih hb
      exact ⟨hwhole, c :: u, v, rfl, by rw [hstart, List.length_cons]; omega,
        by rw [List.length_cons]; omega⟩
    cases skip with
    | succ skip => exact hlater h le_rfl
    | zero =>
      rw [blocksFrom] at h
      split at h
      · rename_i found hfound
        rcases List.mem_cons.1 h with rfl | h
        · obtain ⟨hwhole, rfl, rest, htext⟩ := whole_of_blockAt? hfound
          exact ⟨hwhole, [], rest, htext, rfl, Nat.zero_le _⟩
        · exact hlater h (Nat.zero_le _)
      · exact hlater h (Nat.zero_le _)

/-- The blocks of a text stand one behind the other. -/
theorem pairwise_blocksFrom (tag : List Char) (start skip : Nat) (s : List Char) :
    (blocksFrom tag start skip s).Pairwise fun a b => a.stretch.stop ≤ b.stretch.start := by
  induction s generalizing start skip with
  | nil => simp [blocksFrom]
  | cons c s ih =>
    cases skip with
    | succ skip => exact ih (start + 1) skip
    | zero =>
      rw [blocksFrom]
      split
      · rename_i b hb
        refine List.pairwise_cons.2 ⟨fun b' hb' => ?_, ih (start + 1) _⟩
        obtain ⟨-, u, v, -, hstart, hskip⟩ := place_of_mem_blocksFrom hb'
        obtain ⟨-, rfl, -⟩ := whole_of_blockAt? hb
        simp only [Block.stretch]
        omega
      · exact ih (start + 1) 0

theorem bounds_of_mem_blocksFrom {start : Nat} {s : List Char} {b : Block}
    (h : b ∈ blocksFrom tag start 0 s) :
    start ≤ b.stretch.start ∧ b.stretch.start < b.stretch.stop ∧
      b.stretch.stop ≤ start + s.length := by
  obtain ⟨hwhole, u, v, rfl, hstart, -⟩ := place_of_mem_blocksFrom h
  have hpos := length_pos_of_whole hwhole
  simp only [Block.stretch, List.length_append]
  omega

theorem bounds_of_firstBlock? {start : Nat} {s : List Char} {b : Block}
    (h : firstBlock? tag start s = some b) :
    start ≤ b.stretch.start ∧ b.stretch.start < b.stretch.stop ∧
      b.stretch.stop ≤ start + s.length := by
  rw [← head?_blocksFrom] at h
  exact bounds_of_mem_blocksFrom (List.mem_of_head? h)

/-! ### Seams -/

/-- The stretch does not reach over a place. -/
def Stretch.Spares (r : Stretch) (place : Nat) : Prop := r.stop ≤ place ∨ place ≤ r.start

theorem blockAt?_spares {start : Nat} {u v : List Char} (hu : u ≠ [])
    (h : ∀ b ∈ blockAt? tag start (u ++ v), b.stretch.Spares (start + u.length)) :
    blockAt? tag start (u ++ v) = blockAt? tag start u := by
  cases hfound : blockAt? tag start (u ++ v) with
  | some b =>
    obtain ⟨-, hstart, -⟩ := whole_of_blockAt? hfound
    have hpos := List.length_pos_iff.2 hu
    have hle : b.characters.length ≤ u.length := by
      have hseam := h b hfound
      simp only [Stretch.Spares, Block.stretch] at hseam
      omega
    exact (blockAt?_of_append hfound hle).symm
  | none =>
    cases hb : blockAt? tag start u with
    | none => rfl
    | some b =>
      rw [blockAt?_append hb v] at hfound
      cases hfound

/-- Where no block reaches over a seam, the blocks are those in front of it and those behind it. -/
theorem blocksFrom_spares {start skip : Nat} {u v : List Char} (hskip : skip ≤ u.length)
    (h : ∀ b ∈ blocksFrom tag start skip (u ++ v), b.stretch.Spares (start + u.length)) :
    blocksFrom tag start skip (u ++ v) =
      blocksFrom tag start skip u ++ blocksFrom tag (start + u.length) 0 v := by
  induction u generalizing start skip with
  | nil =>
    obtain rfl : skip = 0 := by simpa using hskip
    rfl
  | cons c u ih =>
    have hlength : start + (c :: u).length = start + 1 + u.length := by
      rw [List.length_cons]
      omega
    cases skip with
    | succ skip =>
      rw [hlength] at h ⊢
      exact ih (Nat.le_of_succ_le_succ hskip) h
    | zero =>
      have hhead : blockAt? tag start (c :: (u ++ v)) = blockAt? tag start (c :: u) := by
        refine blockAt?_spares (List.cons_ne_nil c u) fun b hb => h b ?_
        rw [List.cons_append] at hb ⊢
        rw [blocksFrom, show blockAt? tag start (c :: (u ++ v)) = some b from hb]
        exact List.mem_cons_self
      rw [hlength] at h ⊢
      rw [List.cons_append, blocksFrom, hhead] at h ⊢
      rw [blocksFrom]
      cases hfound : blockAt? tag start (c :: u) with
      | some b =>
        simp only [hfound, List.mem_cons, forall_eq_or_imp] at h
        obtain ⟨-, -, rest, htext⟩ := whole_of_blockAt? hfound
        have hle : b.characters.length ≤ u.length + 1 := by
          have hsize := congrArg List.length htext
          simp only [List.length_cons, List.length_append] at hsize
          omega
        simp only [List.cons_append]
        rw [ih (by omega) h.2]
      | none =>
        simp only [hfound] at h
        exact ih (Nat.zero_le _) h

theorem firstBlock?_spares {start : Nat} {u v : List Char}
    (h : ∀ b ∈ firstBlock? tag start (u ++ v), b.stretch.Spares (start + u.length)) :
    firstBlock? tag start (u ++ v) =
      (firstBlock? tag start u).or (firstBlock? tag (start + u.length) v) := by
  induction u generalizing start with
  | nil => rfl
  | cons c u ih =>
    have hlength : start + (c :: u).length = start + 1 + u.length := by
      rw [List.length_cons]
      omega
    have hhead : blockAt? tag start (c :: (u ++ v)) = blockAt? tag start (c :: u) := by
      refine blockAt?_spares (List.cons_ne_nil c u) fun b hb => h b ?_
      rw [List.cons_append] at hb ⊢
      rw [firstBlock?, show blockAt? tag start (c :: (u ++ v)) = some b from hb]
      rfl
    rw [hlength] at h ⊢
    rw [List.cons_append, firstBlock?, hhead] at h ⊢
    rw [firstBlock?, Option.or_assoc]
    cases hfound : blockAt? tag start (c :: u) with
    | some b => rfl
    | none =>
      simp only [hfound, Option.none_or] at h ⊢
      exact ih h

/-! ### Blocks around a stretch -/

section Around

variable {u m v : List Char}

theorem blocksAround_append (tag u m v : List Char) :
    blocksAround tag ⟨u.length, u.length + m.length⟩ (u ++ (m ++ v)) =
      blocksFrom tag 0 0 u ++ blocksFrom tag (u.length + m.length) 0 v := by
  unfold blocksAround
  rw [List.take_left, ← List.append_assoc, ← List.length_append, List.drop_left]

theorem apart_of_mem_blocksAround {b : Block}
    (h : b ∈ blocksAround tag ⟨u.length, u.length + m.length⟩ (u ++ (m ++ v))) :
    b.stretch.Apart ⟨u.length, u.length + m.length⟩ := by
  rw [blocksAround_append, List.mem_append] at h
  rcases h with h | h
  · have hbounds := bounds_of_mem_blocksFrom h
    exact .inl (by simpa using hbounds.2.2)
  · exact .inr (bounds_of_mem_blocksFrom h).1

/-- The blocks stand apart from a stretch exactly if they are those that are found without it. -/
theorem blocksFrom_apart_iff (hm : m ≠ []) :
    (∀ b ∈ blocksFrom tag 0 0 (u ++ (m ++ v)),
        b.stretch.Apart ⟨u.length, u.length + m.length⟩) ↔
      blocksFrom tag 0 0 (u ++ (m ++ v)) =
        blocksAround tag ⟨u.length, u.length + m.length⟩ (u ++ (m ++ v)) := by
  refine ⟨fun h => ?_, fun h b hb => apart_of_mem_blocksAround (h ▸ hb)⟩
  have hpos := List.length_pos_iff.2 hm
  have hfront := @blocksFrom_spares tag 0 0 u (m ++ v) (Nat.zero_le _) fun b hb => by
    have hapart := h b hb
    simp only [Stretch.Apart, Stretch.Spares] at hapart ⊢
    omega
  -- what is found behind the front begins behind the stretch
  have hlate : ∀ b ∈ blocksFrom tag u.length 0 (m ++ v),
      u.length + m.length ≤ b.stretch.start := by
    intro b hb
    have hapart := h b (by rw [hfront, Nat.zero_add]; exact List.mem_append_right _ hb)
    have hbounds := bounds_of_mem_blocksFrom hb
    simp only [Stretch.Apart] at hapart
    omega
  have hbehind := @blocksFrom_spares tag u.length 0 m v (Nat.zero_le _) fun b hb =>
    .inr (hlate b hb)
  have hinside : blocksFrom tag u.length 0 m = [] := by
    refine List.eq_nil_iff_forall_not_mem.2 fun b hb => ?_
    have hbounds := bounds_of_mem_blocksFrom hb
    have hstart := hlate b (by rw [hbehind]; exact List.mem_append_left _ hb)
    omega
  rw [blocksAround_append, hfront, Nat.zero_add, hbehind, hinside, List.nil_append]

/-- The first block stands apart from a stretch exactly if it is the one that is found without. -/
theorem firstBlock_apart_iff (hm : m ≠ []) :
    (∀ b ∈ (blocksFrom tag 0 0 (u ++ (m ++ v))).head?,
        b.stretch.Apart ⟨u.length, u.length + m.length⟩) ↔
      (blocksFrom tag 0 0 (u ++ (m ++ v))).head? =
        (blocksAround tag ⟨u.length, u.length + m.length⟩ (u ++ (m ++ v))).head? := by
  refine ⟨fun h => ?_, fun h b hb => apart_of_mem_blocksAround (List.mem_of_head? (h ▸ hb))⟩
  have hpos := List.length_pos_iff.2 hm
  rw [blocksAround_append, List.head?_append]
  simp only [head?_blocksFrom] at h ⊢
  have hfront := @firstBlock?_spares tag 0 u (m ++ v) fun b hb => by
    have hapart := h b hb
    simp only [Stretch.Apart, Stretch.Spares] at hapart ⊢
    omega
  rw [Nat.zero_add] at hfront
  cases hfirst : firstBlock? tag 0 u with
  | some b => rw [hfront, hfirst]; rfl
  | none =>
    rw [hfirst, Option.none_or] at hfront
    have hlate : ∀ b ∈ firstBlock? tag u.length (m ++ v),
        u.length + m.length ≤ b.stretch.start := by
      intro b hb
      have hapart := h b (hfront.trans hb)
      have hbounds := bounds_of_firstBlock? hb
      simp only [Stretch.Apart] at hapart
      omega
    have hbehind := @firstBlock?_spares tag u.length m v fun b hb => .inr (hlate b hb)
    have hinside : firstBlock? tag u.length m = none := by
      refine Option.eq_none_iff_forall_ne_some.2 fun b hb => ?_
      have hbounds := bounds_of_firstBlock? hb
      have hstart := hlate b (by rw [hbehind, hb]; rfl)
      omega
    rw [hfront, hbehind, hinside, Option.none_or]

end Around

/-! ### The sections of a source -/

theorem prefix_of_templateAt? {start : Nat} {s : List Char} {t : TemplateSection}
    (h : templateAt? start s = some t) :
    t.start = start ∧ t.markup.toList ≠ [] ∧ t.markup.toList <+: s := by
  simp only [templateAt?, Option.bind_eq_bind, Option.bind_eq_some_iff, Prod.exists] at h
  obtain ⟨rest, hrest, attributes, behind, -, body, -, h⟩ := h
  cases h
  rw [String.toList_ofList]
  refine ⟨rfl, ?_, List.take_prefix _ _⟩
  cases s with
  | nil => cases hrest
  | cons c s => simp

theorem place_of_templateFrom? {start : Nat} {s : List Char} {t : TemplateSection}
    (h : templateFrom? start s = some t) :
    ∃ u v, s = u ++ (t.markup.toList ++ v) ∧ t.start = start + u.length ∧
      t.markup.toList ≠ [] := by
  induction s generalizing start with
  | nil => cases h
  | cons c s ih =>
    rw [templateFrom?, Option.or_eq_some_iff] at h
    rcases h with h | ⟨-, h⟩
    · obtain ⟨hstart, hmarkup, rest, htext⟩ := prefix_of_templateAt? h
      exact ⟨[], rest, htext.symm, hstart, hmarkup⟩
    · obtain ⟨u, v, rfl, hstart, hmarkup⟩ := ih h
      refine ⟨c :: u, v, rfl, ?_, hmarkup⟩
      rw [hstart, List.length_cons]
      omega

def styleTag : List Char := "style".toList

/-- The template of a source, with what stands around it. -/
theorem template_cut {source : String} {t : TemplateSection}
    (h : (sections source).template = some t) :
    ∃ u v, source.toList = u ++ (t.markup.toList ++ v) ∧ t.markup.toList ≠ [] ∧
      t.stretch = ⟨u.length, u.length + t.markup.toList.length⟩ := by
  obtain ⟨u, v, hsource, hstart, hmarkup⟩ := place_of_templateFrom? h
  rw [Nat.zero_add] at hstart
  exact ⟨u, v, hsource, hmarkup, by rw [TemplateSection.stretch, hstart]⟩

/-- A block of a source, with what stands around it. -/
theorem block_cut {source : String} {b : Block} (h : b ∈ blocksFrom tag 0 0 source.toList) :
    ∃ u v, source.toList = u ++ (b.characters ++ v) ∧ b.characters ≠ [] ∧
      b.stretch = ⟨u.length, u.length + b.characters.length⟩ := by
  obtain ⟨hwhole, u, v, hsource, hstart, -⟩ := place_of_mem_blocksFrom h
  rw [Nat.zero_add] at hstart
  exact ⟨u, v, hsource, List.ne_nil_of_length_pos (length_pos_of_whole hwhole),
    by rw [Block.stretch, hstart]⟩

/-- Sections are apart if the template is apart from the rest and the script from the styles, for no
style overlaps another. -/
theorem Sections.apart_iff {s : Sections}
    (hstyles : s.styles.Pairwise fun a b => a.stretch.stop ≤ b.stretch.start) :
    s.Apart ↔
      (∀ t ∈ s.template, (∀ b ∈ s.script, b.stretch.Apart t.stretch) ∧
        ∀ b ∈ s.styles, b.stretch.Apart t.stretch) ∧
      ∀ b ∈ s.script, ∀ b' ∈ s.styles, b'.stretch.Apart b.stretch := by
  have hpairs : (s.styles.map (·.stretch)).Pairwise Stretch.Apart :=
    List.pairwise_map.2 (hstyles.imp fun h => .inl h)
  have hcomm : ∀ a b : Stretch, a.Apart b ↔ b.Apart a := fun a b => or_comm
  unfold Sections.Apart Sections.stretches
  cases s.template <;> cases s.script <;>
    simp [hpairs, hcomm, or_imp, forall_and]

/-- Each section stands at its place in the source, and each style behind the one before. The places
are disjoint exactly if the script and the styles are those that are found without the template, and
the styles are those that are found without the script. -/
theorem sections_apart_iff (source : String) :
    (∀ t ∈ (sections source).template,
      t.stretch.within source.toList = t.markup.toList) ∧
    (∀ b ∈ (sections source).script, b.stretch.within source.toList = b.characters) ∧
    (∀ b ∈ (sections source).styles, b.stretch.within source.toList = b.characters) ∧
    ((sections source).styles.Pairwise fun a b => a.stretch.stop ≤ b.stretch.start) ∧
    ((sections source).Apart ↔
      (∀ t ∈ (sections source).template,
        (sections source).script = (blocksAround scriptTag t.stretch source.toList).head? ∧
        (sections source).styles = blocksAround styleTag t.stretch source.toList) ∧
      ∀ b ∈ (sections source).script,
        (sections source).styles = blocksAround styleTag b.stretch source.toList) := by
  have hpairs : (sections source).styles.Pairwise fun a b => a.stretch.stop ≤ b.stretch.start :=
    pairwise_blocksFrom styleTag 0 0 source.toList
  have hscript : ∀ b ∈ (sections source).script, b ∈ blocksFrom scriptTag 0 0 source.toList :=
    fun b hb => List.mem_of_head? hb
  have hblock : ∀ {tag : List Char} {b : Block}, b ∈ blocksFrom tag 0 0 source.toList →
      b.stretch.within source.toList = b.characters := by
    intro tag b hb
    obtain ⟨u, v, hsource, -, hstretch⟩ := block_cut hb
    rw [hsource, hstretch, Stretch.within_append]
  refine ⟨fun t ht => ?_, fun b hb => hblock (hscript b hb), fun b hb => hblock hb, hpairs, ?_⟩
  · obtain ⟨u, v, hsource, -, hstretch⟩ := template_cut ht
    rw [hsource, hstretch, Stretch.within_append]
  rw [Sections.apart_iff hpairs]
  refine and_congr (forall₂_congr fun t ht => ?_) (forall₂_congr fun b hb => ?_)
  · obtain ⟨u, v, hsource, hmarkup, hstretch⟩ := template_cut ht
    rw [hstretch]
    simp only [sections, scriptBlock?, blocks, hsource]
    exact and_congr (firstBlock_apart_iff hmarkup) (blocksFrom_apart_iff hmarkup)
  · obtain ⟨u, v, hsource, hcharacters, hstretch⟩ := block_cut (hscript b hb)
    rw [hstretch]
    simp only [sections, blocks, hsource]
    exact blocksFrom_apart_iff hcharacters

/-- A template with an old script in a comment. -/
def commentedTemplate : TemplateSection where
  start := 0
  attributes := "lang=\"blui\""
  markup := "<template lang=\"blui\"><!-- <script>old</script> --><Window/></template>"

/-- A component with this template. -/
def commentedScript : String :=
  commentedTemplate.markup ++ "<script>export default {}</script>"

/-- The old script is taken for the component's script, from inside the template. -/
theorem commentedScript_overlaps :
    (sections commentedScript).template = some commentedTemplate ∧
      (sections commentedScript).script.map Block.text = some "<script>old</script>" ∧
      ¬ (sections commentedScript).Apart := by
  have htemplate : (sections commentedScript).template = some commentedTemplate := by
    decide +kernel
  have hfound : (sections commentedScript).script ≠
      (blocksAround scriptTag commentedTemplate.stretch commentedScript.toList).head? := by
    decide +kernel
  refine ⟨htemplate, by decide +kernel, fun hapart => ?_⟩
  have halone := (sections_apart_iff commentedScript).2.2.2.2.1 hapart
  exact hfound (halone.1 commentedTemplate htemplate).1

end Widgetry.Component
