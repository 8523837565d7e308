import Widgetry.Proofs.Naming

/-! The template of an accepted tree, read off the tree. A widget shows a slot around a tag, the tag
with its attributes around what the widgets below it show, and a menu shows nothing below it. Blocks
are such nested slots and tags, and their text is set in two columns a level. The walk that writes
the template writes the text of these blocks. -/

namespace Widgetry.Template

open Structure
open Text (pad attributeValue)

/-! ### Blocks -/

/-- What stands inside an opening tag, a line each. -/
inductive Attribute where
  | bound (name : String)
  | prop (key value : String)
  | hostClass (cssClass : String)
  deriving DecidableEq

/-- Attributes stand two columns past their tag. -/
def Attribute.text (column : Nat) : Attribute → String
  | bound name => "\n" ++ pad (column + 2) ++ ":instance=\"" ++ name ++ "\""
  | prop key value => "\n" ++ pad (column + 2) ++ key ++ "=\"" ++ attributeValue value ++ "\""
  | hostClass cssClass => "\n" ++ pad (column + 2) ++ ":class=\"" ++ cssClass ++ "\""

/-- A slot or a tag with what is inside it. -/
inductive Block where
  | slot (name : String) (content : List Block)
  | tag (name : String) (attributes : List Attribute) (content : List Block)

namespace Block

mutual

/-- The text of a block that is opened and closed at a column. -/
def text (column : Nat) : Block → String
  | slot name content =>
    pad column ++ "<template slot=\"" ++ name ++ "\">\n" ++ texts (column + 2) content ++
      pad column ++ "</template>\n"
  | tag name attributes content =>
    pad column ++ "<" ++ name ++ String.join (attributes.map (Attribute.text column)) ++ ">\n" ++
      texts (column + 2) content ++ pad column ++ "</" ++ name ++ ">\n"

def texts (column : Nat) : List Block → String
  | [] => ""
  | b :: bs => text column b ++ texts column bs

end

end Block

/-- A block around some blocks where there is a slot, and the blocks alone where there is none. -/
def inSlot (slot : Option String) (content : List Block) : List Block :=
  match slot with
  | some name => [.slot name content]
  | none => content

def inTag (tag : Option String) (attributes : List Attribute) (content : List Block) :
    List Block :=
  match tag with
  | some name => [.tag name attributes content]
  | none => content

/-! ### Outlines -/

/-- The slot around a widget; right below the host there is none. -/
def shownSlot (m : Mapping) (p : Place) : Option String :=
  if p.parentHosted then none else m.slotName

/-- The instance unless the widget is the host, the attributes that are passed through as far as
they are there, in the order of the table, and the class of the host. -/
def shownAttributes (m : Mapping) (name : Nat → String) (p : Place) : List Attribute :=
  (if m.requiresInstance && !p.hosted then [.bound (name p.index)] else []) ++
  (m.passthroughProps.filterMap fun key => (p.attribute? key).map (.prop key)) ++
  if p.hosted then m.hostSubstitution.toList.map (.hostClass ·.cssClass) else []

variable (r : Registry) (name : Nat → String)

mutual

/-- What a widget shows, where the instances have the names given by their indices. -/
def outlineNode (hosted : Bool) (ancestors : List Ancestor) (index : Nat) : Node → List Block
  | ⟨kind, attributes, children⟩ =>
    let here : Place := ⟨index, ⟨kind, attributes, children⟩, hosted, ancestors⟩
    match r.mapping? kind with
    | some m =>
      inSlot (shownSlot m here) <| inTag (m.openedTag hosted) (shownAttributes m name here) <|
        if kind = r.menu.menuKind then []
        else outlineNodes (here.asAncestor :: ancestors) (index + 1) children
    | none => []

def outlineNodes (ancestors : List Ancestor) (index : Nat) : List Node → List Block
  | [] => []
  | n :: ns =>
    outlineNode false ancestors index n ++ outlineNodes ancestors (index + n.size) ns

end

/-- What the widget at a place shows. -/
def outline (p : Place) : List Block := outlineNode r name p.hosted p.ancestors p.index p.node

/-- The template of a tree without the outer element. -/
def rendering (t : Tree) : String := Block.texts 2 (outline r name t.rootPlace)

theorem outlineNodes_eq (ancestors : List Ancestor) (first : Nat) (ns : List Node) :
    outlineNodes r name ancestors first ns =
      (Place.siblings ancestors first ns).flatMap (outline r name) := by
  induction ns generalizing first with
  | nil => rfl
  | cons n ns ih => rw [outlineNodes, ih, Place.siblings, List.flatMap_cons, outline]

variable {r name}

theorem outline_eq {p : Place} {m : Mapping} (hm : r.mapping? p.kind = some m) :
    outline r name p =
      inSlot (shownSlot m p) (inTag (m.openedTag p.hosted) (shownAttributes m name p)
        (if p.kind = r.menu.menuKind then [] else p.children.flatMap (outline r name))) := by
  obtain ⟨index, ⟨kind, attributes, nodes⟩, hosted, ancestors⟩ := p
  change r.mapping? kind = some m at hm
  rw [outline, outlineNode, hm, Place.children, ← outlineNodes_eq]
  rfl

/-! ### Marks of blocks -/

def Attribute.mark (column : Nat) : Attribute → Mark
  | bound name => .bindInstance column name
  | prop key value => .prop column key value
  | hostClass cssClass => .bindClass column cssClass

namespace Block

mutual

def marks (column : Nat) : Block → List Mark
  | slot name content =>
    .openSlot column name :: (marksAll (column + 2) content ++ [.closeSlot column])
  | tag name attributes content =>
    .openTag column name :: (attributes.map (Attribute.mark column) ++
      .endOpenTag :: (marksAll (column + 2) content ++ [.closeTag column name]))

def marksAll (column : Nat) : List Block → List Mark
  | [] => []
  | b :: bs => marks column b ++ marksAll column bs

end

theorem marksAll_append (column : Nat) (bs cs : List Block) :
    marksAll column (bs ++ cs) = marksAll column bs ++ marksAll column cs := by
  induction bs with
  | nil => rfl
  | cons b bs ih => simp [marksAll, ih]

end Block

@[simp] theorem render_nil : render [] = "" := by simp [render]

@[simp] theorem render_cons (mark : Mark) (marks : List Mark) :
    render (mark :: marks) = mark.text ++ render marks := by simp [render]

@[simp] theorem render_append (first rest : List Mark) :
    render (first ++ rest) = render first ++ render rest := by simp [render]

theorem pad_add_two (column : Nat) : pad (column + 2) = pad column ++ "  " := by
  rw [pad, List.replicate_add, String.ofList_append]
  rfl

theorem Attribute.text_mark (column : Nat) (a : Attribute) :
    (a.mark column).text = a.text column := by
  cases a <;> simp [mark, text, Mark.text, pad_add_two, String.append_assoc]

mutual

/-- The text of a block's marks is the text of the block. -/
theorem Block.render_marks (column : Nat) : ∀ b : Block, render (b.marks column) = b.text column
  | .slot name content => by
    simp [marks, text, Mark.text, render_marksAll, String.append_assoc]
  | .tag name attributes content => by
    have hattributes : render (attributes.map (Attribute.mark column)) =
        String.join (attributes.map (Attribute.text column)) := by
      simp [render, Function.comp_def, Attribute.text_mark]
    simp [marks, text, Mark.text, render_marksAll, hattributes, String.append_assoc]

theorem Block.render_marksAll (column : Nat) :
    ∀ bs : List Block, render (marksAll column bs) = texts column bs
  | [] => by simp [marksAll, texts]
  | b :: bs => by simp [marksAll, texts, render_marks, render_marksAll]

end

/-! ### The walk -/

/-- The marks inside an opening tag, with its end. -/
def insideTag (tag : Option String) (attributes : List Attribute) (column : Nat) : List Mark :=
  match tag with
  | some _ => attributes.map (Attribute.mark column) ++ [.endOpenTag]
  | none => []

/-- The state in which the slot and the tag of a widget have just been opened. -/
def opened (m : Mapping) (p : Place) (s : State) : State :=
  openTag (m.openedTag p.hosted) (openSlot m p s)

/-- The marks up to the end of a widget's opening tag. -/
def openedMarks (m : Mapping) (name : Nat → String) (p : Place) (s : State) : List Mark :=
  (opened m p s).marks ++
    insideTag (m.openedTag p.hosted) (shownAttributes m name p) (opened m p s).indent

/-- Between opening and closing a slot and a tag, the marks of the content stand. -/
theorem close_opened {m : Mapping} {p : Place} {s : State} (hs : s.skip = {})
    (name : Nat → String) (content : List Block) (namer : Namer) :
    closeSlot m p (closeTag (m.openedTag p.hosted)
      ⟨openedMarks m name p s ++ Block.marksAll ((opened m p s).indent + 2) content,
        (opened m p s).indent, namer, {}⟩) =
      ⟨s.marks ++ Block.marksAll (s.indent + 2) (inSlot (shownSlot m p)
        (inTag (m.openedTag p.hosted) (shownAttributes m name p) content)),
        s.indent, namer, {}⟩ := by
  unfold openedMarks opened
  generalize m.openedTag p.hosted = tag
  cases hslot : m.slotName <;> cases hhost : p.parentHosted <;> cases tag <;>
    simp [closeSlot, closeTag, openSlot, openTag, shownSlot, inSlot, inTag, insideTag, State.write,
      State.deeper, State.shallower, Block.marksAll, Block.marks, hslot, hhost, hs]

theorem map_mark_shownAttributes (m : Mapping) (p : Place) (column : Nat) :
    (shownAttributes m name p).map (Attribute.mark column) =
      (if m.requiresInstance && !p.hosted then [.bindInstance column (name p.index)] else []) ++
        attributeMarks m p column := by
  simp only [shownAttributes, attributeMarks, List.map_append, List.append_assoc]
  congr 1
  · split_ifs <;> rfl
  · congr 1
    · simp [List.map_filterMap, Function.comp_def, Attribute.mark]
    · cases m.hostSubstitution <;> cases p.hosted <;> rfl

@[simp] theorem openSlot_namer (m : Mapping) (p : Place) (s : State) :
    (openSlot m p s).namer = s.namer := congrArg Ledger.namer (ledger_openSlot m p s)

@[simp] theorem openSlot_skip (m : Mapping) (p : Place) (s : State) :
    (openSlot m p s).skip = s.skip := congrArg Ledger.skip (ledger_openSlot m p s)

@[simp] theorem openTag_namer (tag : Option String) (s : State) :
    (openTag tag s).namer = s.namer := congrArg Ledger.namer (ledger_openTag tag s)

@[simp] theorem openTag_skip (tag : Option String) (s : State) :
    (openTag tag s).skip = s.skip := congrArg Ledger.skip (ledger_openTag tag s)

/-- Where nothing is skipped a slot and a tag are opened and the attributes are written, among them
the binding to a new instance unless the widget is the host. -/
theorem enter_open (hr : r.Consistent) {p : Place} {m : Mapping}
    (hm : r.mapping? p.kind = some m) {s : State} (hs : s.skip = {}) (name : Nat → String) :
    enter r p s =
      if m.requiresInstance && !p.hosted then do
        let (given, namer) ← s.namer.name p
        return ⟨openedMarks m (fun _ => given) p s, (opened m p s).indent, namer,
          if p.kind = r.menu.menuKind then .begin else {}⟩
      else .ok ⟨openedMarks m name p s, (opened m p s).indent, s.namer, {}⟩ := by
  have hskip : (opened m p s).skip = {} := by simp [opened, hs]
  have hnamer : (opened m p s).namer = s.namer := by simp [opened]
  have henter : enter r p s = bindInstance r m p (opened m p s) >>= fun s =>
      .ok (if (m.openedTag p.hosted).isNone then s
        else s.write (attributeMarks m p s.indent ++ [.endOpenTag])) := by
    simp [enter, Registry.require_eq_ok.2 hm, hs, opened]
  rw [henter]
  cases hbound : m.requiresInstance && !p.hosted with
  | true =>
    obtain ⟨hi, hh⟩ : m.requiresInstance = true ∧ p.hosted = false := by simpa using hbound
    obtain ⟨tag, htag⟩ := Option.isSome_iff_exists.1 (hr.component hm hi)
    have hbind : bindInstance r m p (opened m p s) = do
        let (given, namer) ← s.namer.name p
        return ⟨(opened m p s).marks ++ [.bindInstance (opened m p s).indent given],
          (opened m p s).indent, namer, if p.kind = r.menu.menuKind then .begin else {}⟩ := by
      simp [bindInstance, hi, hh, hskip, hnamer, State.write]
    rw [hbind, if_pos rfl, bind_assoc]
    congr 1
    funext named
    simp [openedMarks, Mapping.openedTag, hh, htag, insideTag, map_mark_shownAttributes, hi,
      State.write]
  | false =>
    have hbind : bindInstance r m p (opened m p s) = .ok (opened m p s) := by
      cases hi : m.requiresInstance <;> cases hh : p.hosted <;> simp_all [bindInstance]
    rw [hbind, if_neg Bool.false_ne_true, ok_bind]
    cases htag : m.openedTag p.hosted <;>
      simp [openedMarks, insideTag, map_mark_shownAttributes, hbound, htag, State.write, ← hskip,
        ← hnamer]

/-- Outside menus, and not at a hosted menu, the binding is to the name that comes next. -/
theorem enter_outside (hr : r.Consistent) {p : Place} {m : Mapping}
    (hm : r.mapping? p.kind = some m) (hout : menuAbove r p.ancestors = false)
    (hmenu : ¬(p.hosted = true ∧ p.kind = r.menu.menuKind)) {s : State} (hs : s.skip = {})
    {namer : Namer} (hn : s.namer.nameAll (if r.needsName p then [p] else []) =
      .ok (if r.needsName p then [name p.index] else [], namer)) :
    enter r p s = .ok ⟨openedMarks m name p s, (opened m p s).indent, namer,
      if p.kind = r.menu.menuKind then .begin else {}⟩ := by
  have hbound : r.needsName p = (m.requiresInstance && !p.hosted) := by
    simp [Registry.needsName, hm, hout]
  rw [enter_open hr hm hs name, ← hbound]
  cases hname : r.needsName p with
  | true =>
    simp only [hname, if_true] at hn
    obtain ⟨⟨given, rest⟩, hnamed, hn⟩ := bind_eq_ok.1 hn
    obtain ⟨rfl, rfl⟩ : given = name p.index ∧ rest = namer := by simpa [Namer.nameAll] using hn
    rw [hnamed]
    rfl
  | false =>
    have hkind : p.kind ≠ r.menu.menuKind := by
      intro hk
      rw [needsName_menu hr hk (by simpa [hk] using hmenu) hout] at hname
      cases hname
    simp only [hname, Bool.false_eq_true, if_false] at hn
    cases hn
    simp [hkind]

/-- In a menu nothing is written. -/
theorem fixed_inMenu {s : State} (hs : s.skip = .begin) {p : Place} (hp : Sound r p)
    (hin : MenuSkip.parentInMenu r p) : enter r p s = .ok s ∧ leave r p s = .ok s := by
  obtain ⟨marks, indent, namer, skip⟩ := s
  obtain rfl : skip = .begin := hs
  obtain ⟨m, hm, -⟩ := hp
  constructor
  · cases hi : m.requiresInstance <;> cases hslot : m.slotName <;>
      simp [enter, Registry.require_eq_ok.2 hm, bindInstance, openTag, openSlot, MenuSkip.begin,
        MenuSkip.enter, hi, hin, hslot]
  · simp [leave, Registry.require_eq_ok.2 hm, MenuSkip.leave, hin, MenuSkip.begin]

/-- Once the skip has begun, nothing right below a menu is written. -/
theorem walkAll_skipped {p : Place} (h : Accepted r p) (hk : p.kind = r.menu.menuKind)
    {ps : List Place} (hps : ps ⊆ p.children) {s : State} (hs : s.skip = .begin) :
    (visitor r).walkAll ps s = .ok s :=
  h.walkAll_belowMenu _ (fun _ hq hin => fixed_inMenu hs hq hin) hk hps

theorem walkAll_outline {ps : List Place}
    (h : ∀ p ∈ ps, ∀ (s : State) (namer : Namer), s.skip = {} →
      s.namer.nameAll (p.instances r) = .ok ((p.instances r).map (name ·.index), namer) →
      (visitor r).walk p s =
        .ok ⟨s.marks ++ Block.marksAll (s.indent + 2) (outline r name p), s.indent, namer, {}⟩)
    {s : State} {namer : Namer} (hs : s.skip = {})
    (hn : s.namer.nameAll (ps.flatMap (Place.instances r)) =
      .ok ((ps.flatMap (Place.instances r)).map (name ·.index), namer)) :
    (visitor r).walkAll ps s =
      .ok ⟨s.marks ++ Block.marksAll (s.indent + 2) (ps.flatMap (outline r name)), s.indent, namer,
        {}⟩ := by
  induction ps generalizing s with
  | nil =>
    obtain ⟨marks, indent, given, skip⟩ := s
    obtain rfl : skip = {} := hs
    obtain rfl : given = namer := by simpa [Namer.nameAll] using hn
    simp [Block.marksAll]
  | cons p ps ih =>
    rw [List.flatMap_cons] at hn
    obtain ⟨namer₁, hfirst, hrest⟩ := Namer.nameAll_append_map hn
    rw [Visitor.walkAll_cons, h p List.mem_cons_self s namer₁ hs hfirst, ok_bind]
    rw [ih (fun q hq => h q (List.mem_cons_of_mem p hq)) rfl hrest]
    simp [Block.marksAll_append]

/-- Outside menus, and not from a hosted menu, the walk writes what the widgets show and comes back
to its indentation. -/
theorem walk_outline (hr : r.Consistent) {p : Place} (h : Accepted r p)
    (hout : menuAbove r p.ancestors = false)
    (hmenu : ¬(p.hosted = true ∧ p.kind = r.menu.menuKind)) {s : State} {namer : Namer}
    (hs : s.skip = {})
    (hn : s.namer.nameAll (p.instances r) = .ok ((p.instances r).map (name ·.index), namer)) :
    (visitor r).walk p s =
      .ok ⟨s.marks ++ Block.marksAll (s.indent + 2) (outline r name p), s.indent, namer, {}⟩ := by
  induction p using Place.induction generalizing s namer with
  | step p ih =>
    obtain ⟨m, hm, -⟩ := h.here
    rw [Place.instances_eq] at hn
    obtain ⟨namer₁, hfirst, hrest⟩ := Namer.nameAll_append_map hn
    have hhere : s.namer.nameAll (if r.needsName p then [p] else []) =
        .ok (if r.needsName p then [name p.index] else [], namer₁) := by
      rw [hfirst]
      split_ifs <;> rfl
    have henter : (visitor r).enter p s = _ := enter_outside hr hm hout hmenu hs hhere
    have hleave : ∀ s : State, (visitor r).leave p s =
        .ok (closeSlot m p (closeTag (m.openedTag p.hosted) { s with skip := {} })) := fun s => by
      change leave r p s = _
      rw [leave, Registry.require_eq_ok.2 hm, ok_bind, MenuSkip.leave, h.settled.parentInMenu, hout]
      rfl
    rw [Visitor.walk_eq, henter, ok_bind, outline_eq hm]
    by_cases hk : p.kind = r.menu.menuKind
    · -- the walk does not move below a menu
      obtain rfl : namer₁ = namer := by
        simpa [Place.instances_belowMenu hk, Namer.nameAll] using hrest
      have hclose := close_opened hs (m := m) (p := p) name [] namer₁
      rw [Block.marksAll, List.append_nil] at hclose
      rw [walkAll_skipped h hk (List.Subset.refl _) (if_pos hk), ok_bind, hleave, hclose]
      simp only [if_pos hk]
    · have hstill : ∀ c ∈ p.children, menuAbove r c.ancestors = false := fun c hc => by
        simp [menuAbove_child hc, hk, hout]
      rw [walkAll_outline (fun c hc s namer hs hn => ih c hc (h.child hc) (hstill c hc)
        (by simp [Place.hosted_of_mem hc]) hs hn) (if_neg hk) hrest, ok_bind, hleave]
      simp only [if_neg hk]
      exact congrArg Except.ok (close_opened hs name _ namer)

/-- A walk over an accepted tree that comes to an end has written what the tree shows. -/
theorem walk_eq_outline (hr : r.Consistent) {t : Tree} (ht : Accepted r t.rootPlace)
    (hmenu : ¬(t.hosted = true ∧ t.root.kind = r.menu.menuKind)) {s : State}
    (h : (visitor r).walk t.rootPlace {} = .ok s) :
    ∃ (name : Nat → String) (namer : Namer),
      Namer.nameAll {} (t.rootPlace.instances r) =
        .ok ((t.rootPlace.instances r).map (name ·.index), namer) ∧
      s = ⟨Block.marksAll 2 (outline r name t.rootPlace), 0, namer, {}⟩ := by
  have hledger : (Ledger.visitor r).walk t.rootPlace {} = .ok s.ledger := ledger_walk h
  rw [Ledger.walk_outside hr ht rfl hmenu rfl] at hledger
  obtain ⟨⟨names, namer⟩, hnames, -⟩ := bind_eq_ok.1 hledger
  obtain ⟨name, rfl⟩ := exists_name t.rootPlace.nodup_instances (Namer.length_of_nameAll hnames)
  have hwalk := walk_outline hr ht rfl hmenu (s := {}) rfl hnames
  rw [h] at hwalk
  cases hwalk
  exact ⟨name, namer, hnames, rfl⟩

/-- The text that the template of an accepted tree has is the rendering of the tree, in which the
instances have the names that one namer gives them in document order. A hosted menu is left out. -/
theorem body_eq_rendering {r : Registry} {t : Tree} (hr : r.check = .ok ())
    (ht : Structure.check r t = .ok ())
    (hmenu : ¬(t.hosted = true ∧ t.root.kind = r.menu.menuKind)) {text : String}
    (h : body r t = .ok text) :
    ∃ (name : Nat → String) (namer : Namer),
      Namer.nameAll {} (t.rootPlace.instances r) =
        .ok ((t.rootPlace.instances r).map (name ·.index), namer) ∧
      text = rendering r name t := by
  obtain ⟨marks, hmarks, htext⟩ := bind_eq_ok.1 h
  cases htext
  obtain ⟨s, hs, hmarks⟩ := bind_eq_ok.1 hmarks
  cases hmarks
  obtain ⟨name, namer, hnames, rfl⟩ :=
    walk_eq_outline (Registry.consistent_of_check hr) (accepted_of_check ht) hmenu hs
  exact ⟨name, namer, hnames, Block.render_marksAll 2 _⟩

/-- A window with a nested menu, a toolbar with an item, and a button. -/
def editorWindow : Tree where
  root := ⟨"Window", .empty,
    [⟨"Menu", .ofList [("instance", "main_menu")],
      [⟨"MenuItem", .empty, [⟨"Menu", .empty, [⟨"MenuItem", .empty, []⟩]⟩]⟩]⟩,
     ⟨"Toolbar", .empty, [⟨"ToolbarItem", .ofList [("label", "A & \"B\"")], []⟩]⟩,
     ⟨"Button", .empty, []⟩]⟩
  hosted := false

set_option maxRecDepth 10000 in
theorem editorWindow_rendering :
    ∃ (name : Nat → String) (namer : Namer),
      Namer.nameAll {} (editorWindow.rootPlace.instances .builtin) =
        .ok ((editorWindow.rootPlace.instances .builtin).map (name ·.index), namer) ∧
      "  <bl-window\n    :instance=\"rt0\">\n    <template slot=\"menuBar\">\n      <bl-menu\n" ++
      "        :instance=\"mainMenu\">\n      </bl-menu>\n    </template>\n" ++
      "    <template slot=\"toolbar\">\n      <bl-toolbar-item\n" ++
      "        label=\"A &amp; &quot;B&quot;\">\n      </bl-toolbar-item>\n    </template>\n" ++
      "    <bl-button\n      :instance=\"rt1\">\n    </bl-button>\n  </bl-window>\n" =
        rendering .builtin name editorWindow :=
  body_eq_rendering Registry.check_builtin (by decide +kernel) (by decide +kernel)
    (by decide +kernel)

end Widgetry.Template
