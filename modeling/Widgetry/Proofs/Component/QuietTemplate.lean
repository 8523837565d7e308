import Widgetry.Proofs.Component.QuotedTags

/-! Script tags in templates. Attribute values are escaped in a template, and names of instances are
identifiers, so that with a registry whose own words open no script no template does. -/

namespace Widgetry.Component

open Text (fold pad attributeChar attributeValue)
open Template (Mark)

/-! ### Silent texts -/

/-- No script opens in the text. -/
def Silent (s : String) : Prop := opens scriptTag s.toList = false

instance (s : String) : Decidable (Silent s) :=
  inferInstanceAs (Decidable (opens scriptTag s.toList = false))

theorem opens_eq_false {u : List Char} (hu : '<' ∉ u) : opens scriptTag u = false := by
  induction u with
  | nil => rfl
  | cons c u ih =>
    rw [List.mem_cons, not_or] at hu
    have hfold : fold c ≠ fold '<' := fun hfold => hu.1 (fold_eq_less hfold).symm
    have hhead : opensAt scriptTag (c :: u) = false := by simp [opensAt, Text.afterFolded?, hfold]
    rw [opens, hhead, ih hu.2]
    rfl

theorem silent_of_plain {s : String} (h : Plain s) : Silent s := opens_eq_false h

/-- The text ends in a character that is part of no opening of a script. -/
def EndsApart (s : String) : Prop := ∀ c ∈ s.toList.getLast?, Foreign ('<' :: scriptTag) c

instance (s : String) : Decidable (EndsApart s) :=
  decidable_of_iff (s.toList.getLast?.all fun c => decide (Foreign ('<' :: scriptTag) c))
    (by simp [EndsApart, Option.all_eq_true])

theorem Silent.append_apart {s t : String} (hs : Silent s) (ht : Silent t) (h : EndsApart s) :
    Silent (s ++ t) := by
  rw [Silent, String.toList_append, opens_foreign h, hs, ht]
  rfl

theorem Silent.append_aside {s t : String} (hs : Silent s) (ht : Silent t)
    (h : Aside scriptTag t.toList) : Silent (s ++ t) := by
  rw [Silent, String.toList_append, opens_aside h, hs, ht]
  rfl

theorem endsApart_pad (width : Nat) : EndsApart (pad width) := by
  intro c hc
  have hmem : c ∈ List.replicate width ' ' := List.mem_of_getLast? (by simpa [pad] using hc)
  obtain rfl : c = ' ' := List.eq_of_mem_replicate hmem
  decide

/-! ### Marks -/

theorem plain_attributeValue (value : String) : Plain (attributeValue value) := by
  have hchar : ∀ c, '<' ∉ attributeChar c := by
    intro c
    unfold attributeChar
    split_ifs with hand hquote hless
    · decide
    · decide
    · decide
    · simpa using Ne.symm hless
  simp [Plain, attributeValue, hchar]

theorem aside_pad_append (width : Nat) (s : List Char) :
    Aside scriptTag ((pad width).toList ++ '<' :: s) := by
  cases width with
  | zero => exact aside_cons.2 (by decide +kernel)
  | succ width =>
    have hpad : (pad (width + 1)).toList = ' ' :: (pad width).toList := by
      simp [pad, List.replicate_succ]
    rw [hpad]
    exact aside_cons.2 (by decide +kernel)

/-- Every mark begins with a character that is part of no tag's name. -/
theorem aside_mark (mark : Mark) (rest : List Char) :
    Aside scriptTag (mark.text.toList ++ rest) := by
  have hfeed : ∀ s, Aside scriptTag ('\n' :: s) := fun s => aside_cons.2 (by decide +kernel)
  cases mark with
  | openSlot indent slot => simpa [Mark.text] using aside_pad_append indent _
  | openTag indent tag => simpa [Mark.text] using aside_pad_append indent _
  | bindInstance indent name => simpa [Mark.text] using hfeed _
  | prop indent name value => simpa [Mark.text] using hfeed _
  | bindClass indent cssClass => simpa [Mark.text] using hfeed _
  | endOpenTag => exact aside_cons.2 (by decide +kernel)
  | closeTag indent tag => simpa [Mark.text] using aside_pad_append indent _
  | closeSlot indent => simpa [Mark.text] using aside_pad_append indent _

/-- Marks that open no script open none together. -/
theorem opens_render {marks : List Mark} (h : ∀ mark ∈ marks, Silent mark.text)
    {rest : List Char} (hrest : Aside scriptTag rest) :
    Aside scriptTag ((Template.render marks).toList ++ rest) ∧
      opens scriptTag ((Template.render marks).toList ++ rest) = opens scriptTag rest := by
  induction marks with
  | nil => simpa using hrest
  | cons mark marks ih =>
    rw [List.forall_mem_cons] at h
    obtain ⟨haside, hopens⟩ := ih h.2
    have htext : (Template.render (mark :: marks)).toList ++ rest =
        mark.text.toList ++ ((Template.render marks).toList ++ rest) := by simp
    rw [htext]
    refine ⟨aside_mark mark _, ?_⟩
    rw [opens_aside haside, hopens, h.1, Bool.false_or]

theorem silent_pad_append (indent : Nat) {s : String} (h : Silent s) : Silent (pad indent ++ s) :=
  (silent_of_plain (plain_pad indent)).append_apart h (endsApart_pad indent)

/-- A word of the registry between quotes. -/
theorem silent_quoted {front word back : String} (hfront : Silent front) (hends : EndsApart front)
    (hword : Silent word) (hback : Plain back) (haside : Aside scriptTag back.toList) :
    Silent (front ++ (word ++ back)) :=
  hfront.append_apart (hword.append_aside (silent_of_plain hback) haside) hends

theorem silent_openSlot (indent : Nat) {slot : String} (h : Silent slot) :
    Silent (Mark.openSlot indent slot).text := by
  have htext : (Mark.openSlot indent slot).text =
      pad indent ++ ("<template slot=\"" ++ (slot ++ "\">\n")) := by
    simp [Mark.text, String.append_assoc]
  rw [htext]
  exact silent_pad_append indent (silent_quoted (by decide +kernel) (by decide) h (by decide)
    (aside_cons.2 (by decide +kernel)))

theorem silent_openTag (indent : Nat) {tag : String} (h : Silent ("<" ++ tag)) :
    Silent (Mark.openTag indent tag).text := by
  have htext : (Mark.openTag indent tag).text = pad indent ++ ("<" ++ tag) := by
    simp [Mark.text, String.append_assoc]
  rw [htext]
  exact silent_pad_append indent h

theorem silent_closeTag (indent : Nat) {tag : String} (h : Silent ("<" ++ tag)) :
    Silent (Mark.closeTag indent tag).text := by
  have htext : (Mark.closeTag indent tag).text = pad indent ++ ("</" ++ (tag ++ ">\n")) := by
    simp [Mark.text, String.append_assoc]
  have htag : Silent tag := by
    rw [Silent, String.toList_append] at h
    exact (Bool.or_eq_false_iff.1 h).2
  rw [htext]
  exact silent_pad_append indent (silent_quoted (by decide +kernel) (by decide) htag (by decide)
    (aside_cons.2 (by decide +kernel)))

theorem silent_bindInstance (indent : Nat) {name : String} (h : Plain name) :
    Silent (Mark.bindInstance indent name).text :=
  silent_of_plain (by simpa [Mark.text, h] using (by decide))

theorem silent_prop (indent : Nat) {name : String} (h : Silent name) (value : String) :
    Silent (Mark.prop indent name value).text := by
  have htext : (Mark.prop indent name value).text =
      "\n" ++ (pad indent ++ ("  " ++ (name ++ ("=\"" ++ attributeValue value ++ "\"")))) := by
    simp [Mark.text, String.append_assoc]
  have hvalue : Plain ("=\"" ++ attributeValue value ++ "\"") := by
    simpa [plain_attributeValue] using (by decide)
  have haside : Aside scriptTag ("=\"" ++ attributeValue value ++ "\"").toList := by
    rw [String.toList_append, String.toList_append]
    exact aside_cons.2 (by decide +kernel)
  have hfeed : Silent "\n" := by decide +kernel
  rw [htext]
  exact hfeed.append_apart (silent_pad_append indent
    (silent_quoted (by decide +kernel) (by decide) h hvalue haside)) (by decide)

theorem silent_bindClass (indent : Nat) {cssClass : String} (h : Silent cssClass) :
    Silent (Mark.bindClass indent cssClass).text := by
  have htext : (Mark.bindClass indent cssClass).text =
      "\n" ++ (pad indent ++ ("  :class=\"" ++ (cssClass ++ "\""))) := by
    simp [Mark.text, String.append_assoc]
  have hfeed : Silent "\n" := by decide +kernel
  rw [htext]
  exact hfeed.append_apart (silent_pad_append indent (silent_quoted (by decide +kernel) (by decide)
    h (by decide) (aside_cons.2 (by decide +kernel)))) (by decide)

theorem silent_closeSlot (indent : Nat) : Silent (Mark.closeSlot indent).text :=
  silent_pad_append indent (by decide +kernel)

end Widgetry.Component

namespace Widgetry

open Component

/-! ### Quiet registries -/

/-- The tags that a mapping opens. -/
def Mapping.tags (m : Mapping) : List String :=
  m.emittedComponent.toList ++ m.hostSubstitution.toList.map (·.element)

/-- The words that a mapping brings into opening tags. -/
def Mapping.words (m : Mapping) : List String :=
  m.slotName.toList ++ m.passthroughProps ++ m.hostSubstitution.toList.map (·.cssClass)

/-- The names that a registry brings into scripts can be read, and its other words neither open nor
close a script. -/
structure Registry.Quiet (r : Registry) : Prop extends Registry.Spelled r where
  tags : ∀ e ∈ r.elements.entries, ∀ tag ∈ e.2.tags, Silent ("<" ++ tag)
  words : ∀ e ∈ r.elements.entries, ∀ word ∈ e.2.words, Silent word
  package : closesScript r.runtimePackage.toList = false

theorem Registry.quiet_builtin : Registry.builtin.Quiet where
  toSpelled := spelled_builtin
  tags := by decide +kernel
  words := by decide +kernel
  package := by decide +kernel

theorem Mapping.mem_tags {m : Mapping} {hosted : Bool} {tag : String}
    (h : m.openedTag hosted = some tag) : tag ∈ m.tags := by
  unfold openedTag at h
  unfold tags
  split_ifs at h
  · obtain ⟨host, hhost, rfl⟩ := Option.map_eq_some_iff.1 h
    simp [hhost]
  · simp [h]

variable {r : Registry}

/-! ### Templates -/

namespace Template

/-- No script opens in what has been written. -/
def State.Silent (s : State) : Prop := ∀ mark ∈ s.marks, Component.Silent mark.text

theorem State.Silent.write {s : State} (hs : s.Silent) {marks : List Mark}
    (h : ∀ mark ∈ marks, Component.Silent mark.text) : (s.write marks).Silent := by
  intro mark hmark
  rcases List.mem_append.1 hmark with hmark | hmark
  · exact hs mark hmark
  · exact h mark hmark

section Steps

variable {m : Mapping} {p : Place} {s s' : State}

theorem silent_openSlot (hwords : ∀ word ∈ m.words, Component.Silent word) (hs : s.Silent) :
    (openSlot m p s).Silent := by
  unfold openSlot
  split
  · rename_i slot hslot
    split_ifs
    · exact hs
    · have hdeeper : s.deeper.Silent := hs
      have hword := hwords slot (by simp [Mapping.words, hslot])
      exact hdeeper.write (by simpa using Component.silent_openSlot _ hword)
  · exact hs

theorem silent_openTag {tag : Option String} (htag : ∀ name ∈ tag, Component.Silent ("<" ++ name))
    (hs : s.Silent) : (openTag tag s).Silent := by
  cases tag with
  | none => exact hs
  | some name =>
    have hdeeper : s.deeper.Silent := hs
    exact hdeeper.write (by simpa using Component.silent_openTag _ (htag name rfl))

theorem silent_bindInstance (hs : s.Silent) (h : bindInstance r m p s = .ok s') : s'.Silent := by
  unfold bindInstance at h
  split at h
  · cases h
    exact hs
  split at h
  · cases h
    exact hs
  split at h
  · cases h
    exact hs
  obtain ⟨⟨name, namer⟩, hname, h⟩ := bind_eq_ok.1 h
  cases h
  have hplain := plain_of_isIdentifier (Namer.isIdentifier_of_name hname)
  exact hs.write (by simpa using Component.silent_bindInstance _ hplain)

theorem silent_attributeMarks (hwords : ∀ word ∈ m.words, Component.Silent word) (column : Nat) :
    ∀ mark ∈ attributeMarks m p column, Component.Silent mark.text := by
  intro mark hmark
  rcases List.mem_append.1 hmark with hmark | hmark
  · obtain ⟨name, hname, hvalue⟩ := List.mem_filterMap.1 hmark
    obtain ⟨value, -, rfl⟩ := Option.map_eq_some_iff.1 hvalue
    exact Component.silent_prop column (hwords name (by simp [Mapping.words, hname])) value
  · cases hhost : m.hostSubstitution with
    | none => simp [hhost] at hmark
    | some host =>
      rw [hhost] at hmark
      obtain ⟨-, rfl⟩ : p.hosted ∧ mark = .bindClass column host.cssClass := by simpa using hmark
      exact Component.silent_bindClass column (hwords _ (by simp [Mapping.words, hhost]))

/-- With a quiet registry entering a place opens no script. -/
theorem silent_enter (hr : r.Quiet) (hs : s.Silent) (h : enter r p s = .ok s') : s'.Silent := by
  obtain ⟨m, hm, h⟩ := bind_eq_ok.1 h
  obtain ⟨bound, hbound, h⟩ := bind_eq_ok.1 h
  cases h
  have hmem := Table.mem_of_get? (Registry.require_eq_ok.1 hm)
  have hwords := hr.words _ hmem
  have htag : ∀ name ∈ (if s.skip.active then none else m.openedTag p.hosted),
      Component.Silent ("<" ++ name) := by
    intro name hname
    split_ifs at hname
    · cases hname
    · exact hr.tags _ hmem name (Mapping.mem_tags hname)
  generalize (if s.skip.active then none else m.openedTag p.hosted) = tag at htag hbound ⊢
  have hopened := silent_bindInstance (silent_openTag htag (silent_openSlot hwords hs)) hbound
  split_ifs
  · exact hopened
  · refine hopened.write fun mark hmark => ?_
    rcases List.mem_append.1 hmark with hmark | hmark
    · exact silent_attributeMarks hwords _ mark hmark
    · obtain rfl := List.mem_singleton.1 hmark
      decide +kernel

theorem silent_closeTag {tag : Option String} (htag : ∀ name ∈ tag, Component.Silent ("<" ++ name))
    (hs : s.Silent) : (closeTag tag s).Silent := by
  cases tag with
  | none => exact hs
  | some name =>
    have hmark := Component.silent_closeTag s.indent (htag name rfl)
    have hclosed : (s.write [.closeTag s.indent name]).Silent := hs.write (by simpa using hmark)
    exact hclosed

theorem silent_closeSlot (hs : s.Silent) : (closeSlot m p s).Silent := by
  unfold closeSlot
  split_ifs
  · have hmark := Component.silent_closeSlot s.indent
    have hclosed : (s.write [.closeSlot s.indent]).Silent := hs.write (by simpa using hmark)
    exact hclosed
  · exact hs

theorem silent_leave (hr : r.Quiet) (hs : s.Silent) (h : leave r p s = .ok s') : s'.Silent := by
  obtain ⟨m, hm, h⟩ := bind_eq_ok.1 h
  cases h
  have hmem := Table.mem_of_get? (Registry.require_eq_ok.1 hm)
  split_ifs
  · exact hs
  · refine silent_closeSlot (silent_closeTag (fun name hname => ?_) hs)
    exact hr.tags _ hmem name (Mapping.mem_tags hname)

end Steps

/-- The template of a tree opens no script if the registry is quiet. -/
theorem silent_template (hr : r.Quiet) {t : Tree} {withBanner : Bool} {text : String}
    (h : template r t withBanner = .ok text) : Component.Silent text := by
  obtain ⟨body, hbody, h⟩ := bind_eq_ok.1 h
  cases h
  obtain ⟨marks, hmarks, hbody⟩ := bind_eq_ok.1 hbody
  cases hbody
  obtain ⟨s, hwalk, hmarks⟩ := bind_eq_ok.1 hmarks
  cases hmarks
  have hempty : State.Silent {} := by simp [State.Silent]
  have hsilent : s.Silent := (visitor r).walk_invariant (fun _ _ _ hs => silent_enter hr hs)
    (fun _ _ _ hs => silent_leave hr hs) hempty hwalk
  have hopening : Component.Silent
      ("<template>\n" ++ if withBanner then "  " ++ banner ++ "\n" else "") := by
    cases withBanner <;> decide +kernel
  have hclosing : Aside scriptTag "</template>\n".toList := aside_cons.2 (by decide +kernel)
  obtain ⟨haside, hopens⟩ := opens_render hsilent hclosing
  rw [← String.toList_append] at haside hopens
  have hbody : Component.Silent (render s.marks ++ "</template>\n") :=
    hopens.trans (by decide +kernel)
  unfold document
  rw [String.append_assoc]
  exact hopening.append_aside hbody haside

end Template

end Widgetry
