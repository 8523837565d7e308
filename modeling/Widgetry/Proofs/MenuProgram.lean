import Widgetry.Menu
import Widgetry.Proofs.Acceptance
import Widgetry.Proofs.Program.Syntax

/-! The program of a menu, read off the tree: every widget below the menu is a block that declares
its object, holds the blocks of the widgets right below it and ends with the link to the object
around it. The walk writes the lines of these blocks, and their text is read as these statements. -/

namespace Widgetry.Menu

open Program
open Structure (Accepted menuAbove_of_mem menuAbove_of_menu)

variable (r : Registry)

/-! ### Lines -/

def className (q : Place) : String := (r.runtimeClass? q.kind).getD ""

def title (q : Place) : String := (q.attribute? r.menu.titleAttribute).getD ""

/-- The namespace of the constant for a submenu. -/
def space : String := r.submenuNamespace?.getD ""

/-- The line that declares the object behind a place. -/
def declarationLine (indent : Nat) (q : Place) : Line :=
  if q.kind = r.menu.menuKind then
    .letSubmenu indent (className r q) (space r) r.menu.submenuConstant (title r q)
  else .letItem indent (className r q) (title r q)

/-- An object can be declared for the place. -/
structure Buildable (q : Place) : Prop where
  kind : r.isMenuKind q.kind
  className : (r.runtimeClass? q.kind).isSome
  title : (q.attribute? r.menu.titleAttribute).isSome

/-- The lines of a place below the menu and of everything below it. -/
def blockLines (root : Place) (rootName : String) : Place → Nat → List Line :=
  Place.fold fun q inner indent =>
    .openBlock indent :: declarationLine r (indent + 2) q ::
      (inner.flatMap (· (indent + 2)) ++ [link r root rootName (indent + 2) q, .closeBlock indent])

variable {r}

/-- Below a menu of an accepted tree there are menus and items with classes. -/
theorem declarable_of_mem (hr : r.Consistent) {m : Place} (h : Accepted r m)
    (hk : m.kind = r.menu.menuKind) {q : Place} (hq : q ∈ m.descendants) :
    r.isMenuKind q.kind ∧ (r.runtimeClass? q.kind).isSome := by
  obtain ⟨c, hc, hplace⟩ := List.mem_flatMap.1 hq
  have hkind : r.isMenuKind q.kind = true :=
    ((h.child hc).of_mem hplace).isMenuKind_of_menuAbove
      (menuAbove_of_mem (menuAbove_of_menu hk hc) hplace)
  exact ⟨hkind, hr.runtimeClass hkind⟩

theorem declaration_eq_ok {q : Place} (h : Buildable r q) (indent : Nat) :
    declaration r indent q = .ok (declarationLine r indent q) := by
  obtain ⟨name, hname⟩ := Option.isSome_iff_exists.1 h.className
  obtain ⟨text, htext⟩ := Option.isSome_iff_exists.1 h.title
  have hkind := h.kind
  simp only [Registry.isMenuKind, Bool.or_eq_true, beq_iff_eq] at hkind
  unfold declaration declarationLine className title space
  rw [hname, htext]
  by_cases hmenu : q.kind = r.menu.menuKind
  · simp [hmenu]
  · have hitem := hkind.resolve_left hmenu
    simp only [if_neg hmenu, if_pos hitem, Option.getD_some]

theorem blockLines_eq (root : Place) (rootName : String) (q : Place) (indent : Nat) :
    blockLines r root rootName q indent =
      .openBlock indent :: declarationLine r (indent + 2) q ::
        (q.children.flatMap (blockLines r root rootName · (indent + 2)) ++
          [link r root rootName (indent + 2) q, .closeBlock indent]) := by
  rw [blockLines, Place.fold_eq, List.flatMap_map]

theorem walkAll_blockLines (root : Place) (rootName : String) {ps : List Place}
    (h : ∀ p ∈ ps, ∀ s : State, (visitor r root rootName).walk p s =
      .ok ⟨s.lines ++ blockLines r root rootName p s.indent, s.indent⟩) (s : State) :
    (visitor r root rootName).walkAll ps s =
      .ok ⟨s.lines ++ ps.flatMap (blockLines r root rootName · s.indent), s.indent⟩ := by
  induction ps generalizing s with
  | nil => simp
  | cons p ps ih =>
    rw [List.forall_mem_cons] at h
    rw [Visitor.walkAll_cons, h.1, ok_bind, ih h.2]
    simp

/-- Below the menu the walk writes the lines of a block and comes back to its indentation. -/
theorem walk_blockLines {root : Place} (rootName : String) {p : Place}
    (hroot : ∀ q ∈ p.places, q.index ≠ root.index) (h : ∀ q ∈ p.places, Buildable r q)
    (s : State) :
    (visitor r root rootName).walk p s =
      .ok ⟨s.lines ++ blockLines r root rootName p s.indent, s.indent⟩ := by
  induction p using Place.induction generalizing s with
  | step p ih =>
    rw [Place.forall_mem_places] at hroot h
    have hchildren := walkAll_blockLines root rootName fun c hc =>
      ih c hc (hroot.2 c hc) (h.2 c hc)
    have henter : (visitor r root rootName).enter p s =
        .ok ⟨s.lines ++ [.openBlock s.indent, declarationLine r (s.indent + 2) p],
          s.indent + 2⟩ := by
      simp [visitor, hroot.1, declaration_eq_ok h.1, State.write]
    have hleave : ∀ s : State, (visitor r root rootName).leave p s =
        .ok ⟨s.lines ++ [link r root rootName s.indent p, .closeBlock (s.indent - 2)],
          s.indent - 2⟩ := fun s => by
      simp [visitor, hroot.1, State.write]
    rw [Visitor.walk_eq, henter, ok_bind, hchildren, ok_bind, hleave, blockLines_eq]
    simp

/-- Where every place below the menu can be built, the program is a block for each place right
below. -/
theorem lines_eq_blockLines {root : Place} (rootName : String)
    (h : ∀ q ∈ root.descendants, Buildable r q) :
    lines r root rootName = .ok (root.children.flatMap (blockLines r root rootName · 0)) := by
  have hindex : ∀ c ∈ root.children, ∀ q ∈ c.places, q.index ≠ root.index := fun c hc q hq =>
    Nat.ne_of_gt (Place.forall_mem_descendants.1 root.lt_index_descendants c hc q hq)
  have hchildren := walkAll_blockLines root rootName (s := {}) fun c hc =>
    walk_blockLines rootName (hindex c hc) (Place.forall_mem_descendants.1 h c hc)
  rw [lines, Visitor.walk_eq]
  simp only [visitor, if_true, ok_bind] at hchildren ⊢
  rw [hchildren]
  rfl

/-! ### Statements -/

variable (r)

/-- The statement that declares the object behind a place. -/
def declarationStatement (q : Place) : Statement :=
  if q.kind = r.menu.menuKind then
    .declare submenuVariable (.parse (className r q))
      [.path (.parse (space r ++ "." ++ r.menu.submenuConstant)),
        .text (withoutReturns (title r q))]
  else .declare itemVariable (.parse (className r q)) [.text (withoutReturns (title r q))]

/-- The list that an item is pushed onto. -/
def listPath (root : Place) (rootName : String) (q : Place) : Path :=
  if q.parent?.map (·.index) = some root.index then
    ⟨"this", rootName :: segments r.menu.itemsField⟩
  else ⟨submenuVariable, segments r.menu.itemsField⟩

/-- The statement that ties the object behind a place to the one around it. -/
def linkStatement (root : Place) (rootName : String) (q : Place) : Statement :=
  if q.kind = r.menu.menuItemKind then
    .push (listPath r root rootName q) (.path ⟨itemVariable, []⟩)
  else .assign ⟨itemVariable, segments r.menu.submenuField⟩ (.path ⟨submenuVariable, []⟩)

/-- The block of a place below the menu. -/
def blockStatement (root : Place) (rootName : String) : Place → Statement :=
  Place.fold fun q inner =>
    .block (declarationStatement r q :: (inner ++ [linkStatement r root rootName q]))

/-- The names with which a registry builds menus: classes, a namespace and members. -/
def names : List String :=
  (r.runtimeClass? r.menu.menuKind).toList ++ (r.runtimeClass? r.menu.menuItemKind).toList ++
    r.submenuNamespace?.toList ++ [r.menu.submenuConstant, r.menu.itemsField, r.menu.submenuField]

/-- A path that begins with a name of the language, and none of the two that menu programs
declare. -/
def isGlobalPath (path : String) : Bool :=
  isPath path && isName (Path.parse path).head &&
    (Path.parse path).head != submenuVariable && (Path.parse path).head != itemVariable

/-- The names with which a registry builds menus are paths, and those of classes and constants begin
with what the code can import. -/
structure WellNamed : Prop where
  menuClass : (r.runtimeClass? r.menu.menuKind).all isGlobalPath
  itemClass : (r.runtimeClass? r.menu.menuItemKind).all isGlobalPath
  space : r.submenuNamespace?.all isGlobalPath
  constant : isPath r.menu.submenuConstant
  items : isPath r.menu.itemsField
  submenu : isPath r.menu.submenuField

/-- The names with which a registry builds menus can be read. -/
structure Spelled : Prop where
  className : ∀ q, Buildable r q → isPath (className r q)
  constant : isPath (space r ++ "." ++ r.menu.submenuConstant)
  items : isPath r.menu.itemsField
  submenu : isPath r.menu.submenuField

variable {r}

theorem blockStatement_eq (root : Place) (rootName : String) (q : Place) :
    blockStatement r root rootName q =
      .block (declarationStatement r q ::
        (q.children.map (blockStatement r root rootName) ++
          [linkStatement r root rootName q])) := by
  rw [blockStatement, Place.fold_eq]

theorem WellNamed.className (hr : WellNamed r) {q : Place} (h : Buildable r q) :
    isGlobalPath (className r q) := by
  obtain ⟨name, hname⟩ := Option.isSome_iff_exists.1 h.className
  have hkind := h.kind
  simp only [Registry.isMenuKind, Bool.or_eq_true, beq_iff_eq] at hkind
  rw [Menu.className, hname]
  rcases hkind with hk | hk
  · simpa [← hk, hname] using hr.menuClass
  · simpa [← hk, hname] using hr.itemClass

theorem isPath_of_isGlobalPath {path : String} (h : isGlobalPath path) : isPath path := by
  simp only [isGlobalPath, Bool.and_eq_true] at h
  exact h.1.1.1

theorem isGlobalPath_append {path rest : String} (h : isGlobalPath path) (h' : isPath rest) :
    isGlobalPath (path ++ "." ++ rest) := by
  simp only [isGlobalPath, Bool.and_eq_true, Path.parse_append] at h ⊢
  exact ⟨⟨⟨isPath_append h.1.1.1 h', h.1.1.2⟩, h.1.2⟩, h.2⟩

/-- The constant for a submenu is global as its namespace is. -/
theorem WellNamed.constantPath (hr : WellNamed r) (hspace : r.submenuNamespace?.isSome) :
    isGlobalPath (Menu.space r ++ "." ++ r.menu.submenuConstant) := by
  obtain ⟨name, hname⟩ := Option.isSome_iff_exists.1 hspace
  have hglobal := hr.space
  rw [hname, Option.all_some] at hglobal
  rw [Menu.space, hname]
  exact isGlobalPath_append hglobal hr.constant

/-- Names that are paths can be read. -/
theorem spelled_of_names (h : ∀ name ∈ names r, isPath name)
    (hspace : r.submenuNamespace?.isSome) : Spelled r where
  className q hq := by
    obtain ⟨name, hname⟩ := Option.isSome_iff_exists.1 hq.className
    have hkind := hq.kind
    simp only [Registry.isMenuKind, Bool.or_eq_true, beq_iff_eq] at hkind
    rw [Menu.className, hname]
    refine h name ?_
    rcases hkind with hk | hk <;> simp [names, ← hk, hname]
  constant := by
    obtain ⟨name, hname⟩ := Option.isSome_iff_exists.1 hspace
    rw [space, hname]
    exact isPath_append (h name (by simp [names, hname])) (h _ (by simp [names]))
  items := h _ (by simp [names])
  submenu := h _ (by simp [names])

theorem WellNamed.isPath_names (hr : WellNamed r) : ∀ name ∈ names r, isPath name := by
  have hglobal : ∀ {found : Option String}, found.all isGlobalPath →
      ∀ name ∈ found.toList, isPath name := by
    intro found hfound name hname
    obtain rfl := Option.mem_toList.1 hname
    exact isPath_of_isGlobalPath (by simpa using hfound)
  simp only [names, List.forall_mem_append]
  refine ⟨⟨⟨hglobal hr.menuClass, hglobal hr.itemClass⟩, hglobal hr.space⟩, ?_⟩
  simpa using ⟨hr.constant, hr.items, hr.submenu⟩

/-- The text of a declaration is read as its statement. -/
theorem scan_declarationLine (hr : Spelled r) {q : Place} (h : Buildable r q) (indent : Nat)
    (cs : List Char) :
    scan .blank ((declarationLine r indent q).text.toList ++ cs) =
      front (declarationStatement r q).tokens (scan .blank cs) := by
  have hclass := hr.className q h
  unfold declarationLine declarationStatement
  split_ifs
  · rw [Line.text, String.toList_append, List.append_assoc, scan_pad,
      scan_declare (by decide +kernel) hclass]
    exact .cons (spells_path hr.constant) (.cons (spells_literal _) .nil)
  · rw [Line.text, String.toList_append, List.append_assoc, scan_pad,
      scan_declare (by decide +kernel) hclass]
    exact .cons (spells_literal _) .nil

@[simp] theorem render_nil : render [] = "" := by simp [render]

@[simp] theorem render_cons (line : Line) (lines : List Line) :
    render (line :: lines) = line.text ++ render lines := by simp [render]

@[simp] theorem render_append (first rest : List Line) :
    render (first ++ rest) = render first ++ render rest := by simp [render]

/-- The text of an item's link is read as a push. -/
theorem scan_push {target : String} (htarget : isPath target) {field : String}
    (hfield : isPath field) (cs : List Char) :
    scan .blank ((target ++ "." ++ field ++ ".push(" ++ itemVariable ++ ");\n").toList ++ cs) =
      front (Statement.push
        ⟨(Path.parse target).head, (Path.parse target).members ++ segments field⟩
        (.path ⟨itemVariable, []⟩)).tokens (scan .blank cs) := by
  have hcallee : isPath (target ++ "." ++ field ++ "." ++ "push") :=
    isPath_append (isPath_append htarget hfield) (isPath_identifier (by decide +kernel))
  have htokens : Path.tokens ⟨(Path.parse target).head,
      (Path.parse target).members ++ segments field ++ ["push"]⟩ =
        pathTokens (segments (target ++ "." ++ field ++ "." ++ "push")) := by
    have hpush : segments "push" = ["push"] := segments_identifier (by decide +kernel)
    rw [← Path.tokens_parse, Path.parse_append, Path.parse_append, hpush]
  have htext : (target ++ "." ++ field ++ ".push(" ++ itemVariable ++ ");\n").toList ++ cs =
      (target ++ "." ++ field ++ "." ++ "push").toList ++ '(' ::
        (itemVariable.toList ++ ')' :: ';' :: '\n' :: cs) := by
    simp
  rw [htext, scan_path hcallee (by decide), scan_mark (by decide),
    scan_word_text (by decide +kernel) (by decide), scan_mark (by decide), scan_mark (by decide),
    scan_blank (.inr rfl)]
  rw [Statement.tokens, callTokens, htokens]
  simp [Operand.tokens, Path.tokens, pathTokens]

/-- The text of a submenu's link is read as an assignment. -/
theorem scan_attach {field : String} (hfield : isPath field) (cs : List Char) :
    scan .blank ((itemVariable ++ "." ++ field ++ " = " ++ submenuVariable ++ ";\n").toList ++ cs) =
      front (Statement.assign ⟨itemVariable, segments field⟩
        (.path ⟨submenuVariable, []⟩)).tokens (scan .blank cs) := by
  have hitem : Text.isIdentifier itemVariable := by decide +kernel
  have htarget : isPath (itemVariable ++ "." ++ field) :=
    isPath_append (isPath_identifier hitem) hfield
  have htext : (itemVariable ++ "." ++ field ++ " = " ++ submenuVariable ++ ";\n").toList ++ cs =
      (itemVariable ++ "." ++ field).toList ++ ' ' :: '=' :: ' ' ::
        (submenuVariable.toList ++ ';' :: '\n' :: cs) := by
    simp
  rw [htext, scan_path htarget (by decide), scan_blank (.inl rfl), scan_mark (by decide),
    scan_blank (.inl rfl), scan_word_text (by decide +kernel) (by decide), scan_mark (by decide),
    scan_blank (.inr rfl), segments_append, segments_identifier hitem]
  simp [Statement.tokens, Operand.tokens, Path.tokens, pathTokens]

theorem scan_link (hr : Spelled r) {root : Place} {rootName : String}
    (hname : Text.isIdentifier rootName) (q : Place) (indent : Nat) (cs : List Char) :
    scan .blank ((link r root rootName indent q).text.toList ++ cs) =
      front (linkStatement r root rootName q).tokens (scan .blank cs) := by
  unfold link linkStatement listPath
  by_cases hitem : q.kind = r.menu.menuItemKind
  · by_cases hroot : q.parent?.map (·.index) = some root.index
    · have hthis : Text.isIdentifier "this" := by decide +kernel
      have hpath : isPath ("this" ++ "." ++ rootName) :=
        isPath_append (isPath_identifier hthis) (isPath_identifier hname)
      have hparse : Path.parse ("this" ++ "." ++ rootName) = ⟨"this", [rootName]⟩ := by
        rw [Path.parse_append, Path.parse_identifier hthis, segments_identifier hname]
        rfl
      have hpush := scan_push hpath hr.items cs
      rw [hparse] at hpush
      simp only [if_pos hitem, if_pos hroot, Line.text, pushTarget]
      simpa [scan_pad] using hpush
    · have hsubmenu : Text.isIdentifier submenuVariable := by decide +kernel
      have hpush := scan_push (isPath_identifier hsubmenu) hr.items cs
      rw [Path.parse_identifier hsubmenu] at hpush
      simp only [if_pos hitem, if_neg hroot, Line.text, pushTarget]
      simpa [scan_pad] using hpush
  · simp only [if_neg hitem, Line.text]
    simpa [scan_pad] using scan_attach hr.submenu cs

theorem scan_brace (brace : String) {c : Char} (hbrace : brace.toList = [c]) (hc : c ∈ marks)
    (indent : Nat) (cs : List Char) :
    scan .blank ((Text.pad indent ++ brace ++ "\n").toList ++ cs) =
      front [.mark c] (scan .blank cs) := by
  rw [String.toList_append, String.toList_append, hbrace, List.append_assoc, List.append_assoc,
    scan_pad, List.singleton_append, scan_mark hc]
  exact congrArg (front [.mark c]) (scan_blank (.inr rfl) cs)

theorem scan_openBlock (indent : Nat) (cs : List Char) :
    scan .blank ((Line.openBlock indent).text.toList ++ cs) =
      front [.mark '{'] (scan .blank cs) :=
  scan_brace r"{" rfl (by decide) indent cs

theorem scan_closeBlock (indent : Nat) (cs : List Char) :
    scan .blank ((Line.closeBlock indent).text.toList ++ cs) =
      front [.mark '}'] (scan .blank cs) :=
  scan_brace r"}" rfl (by decide) indent cs

theorem scan_blocks {root : Place} {rootName : String} {ps : List Place}
    (h : ∀ p ∈ ps, ∀ indent cs,
      scan .blank ((render (blockLines r root rootName p indent)).toList ++ cs) =
        front (blockStatement r root rootName p).tokens (scan .blank cs)) (indent : Nat)
    (cs : List Char) :
    scan .blank ((render (ps.flatMap (blockLines r root rootName · indent))).toList ++ cs) =
      front (Statement.tokensAll (ps.map (blockStatement r root rootName))) (scan .blank cs) := by
  induction ps with
  | nil => simp [Statement.tokensAll]
  | cons p ps ih =>
    rw [List.forall_mem_cons] at h
    rw [List.flatMap_cons, render_append, String.toList_append, List.append_assoc, h.1, ih h.2]
    simp [Statement.tokensAll]

/-- The text of a place's lines is read as its block. -/
theorem scan_blockLines (hr : Spelled r) (root : Place) {rootName : String}
    (hname : Text.isIdentifier rootName) {p : Place} (h : ∀ q ∈ p.places, Buildable r q)
    (indent : Nat) (cs : List Char) :
    scan .blank ((render (blockLines r root rootName p indent)).toList ++ cs) =
      front (blockStatement r root rootName p).tokens (scan .blank cs) := by
  induction p using Place.induction generalizing indent cs with
  | step p ih =>
    rw [Place.forall_mem_places] at h
    have hchildren := scan_blocks fun c hc => ih c hc (h.2 c hc)
    rw [blockLines_eq, blockStatement_eq]
    simp only [render_cons, render_append, render_nil, String.toList_append, List.append_assoc]
    rw [scan_openBlock, scan_declarationLine hr h.1, hchildren, scan_link hr hname,
      scan_closeBlock]
    simp [Statement.tokens, Statement.tokensAll, Statement.tokensAll_append]

/-! ### The whole program -/

theorem valid_of_isGlobalPath {path : String} (h : isGlobalPath path) :
    (Path.parse path).Valid := by
  simp only [isGlobalPath, Bool.and_eq_true] at h
  exact Path.valid_parse h.1.1.1 h.1.1.2

theorem valid_declarationStatement (hr : WellNamed r) (hspace : r.submenuNamespace?.isSome)
    {q : Place} (h : Buildable r q) : (declarationStatement r q).Valid := by
  have hclass := valid_of_isGlobalPath (hr.className h)
  have hconstant := valid_of_isGlobalPath (hr.constantPath hspace)
  unfold declarationStatement
  split_ifs
  · exact ⟨by decide +kernel, hclass, by simpa [Operand.Valid] using hconstant⟩
  · exact ⟨by decide +kernel, hclass, by simp [Operand.Valid]⟩

theorem valid_linkStatement (hr : WellNamed r) {root : Place} {rootName : String}
    (hname : Text.isIdentifier rootName) (q : Place) :
    (linkStatement r root rootName q).Valid := by
  have hitem : Path.Valid ⟨itemVariable, []⟩ := ⟨.inl (by decide +kernel), rfl⟩
  have hsubmenu : Path.Valid ⟨submenuVariable, []⟩ := ⟨.inl (by decide +kernel), rfl⟩
  unfold linkStatement listPath
  split_ifs
  · exact ⟨⟨.inr rfl, by simpa [hname] using List.all_eq_true.1 hr.items⟩, hitem⟩
  · exact ⟨⟨hsubmenu.1, hr.items⟩, hitem⟩
  · exact ⟨⟨hitem.1, hr.submenu⟩, hsubmenu⟩

theorem valid_blockStatement (hr : WellNamed r) (hspace : r.submenuNamespace?.isSome) {root : Place}
    {rootName : String} (hname : Text.isIdentifier rootName) {p : Place}
    (h : ∀ q ∈ p.places, Buildable r q) : (blockStatement r root rootName p).Valid := by
  induction p using Place.induction with
  | step p ih =>
    rw [Place.forall_mem_places] at h
    rw [blockStatement_eq, Statement.Valid, Statement.validAll_iff]
    intro t ht
    simp only [List.mem_cons, List.mem_append, List.mem_map, List.not_mem_nil, or_false] at ht
    rcases ht with rfl | ⟨c, hc, rfl⟩ | rfl
    · exact valid_declarationStatement hr hspace h.1
    · exact ih c hc (h.2 c hc)
    · exact valid_linkStatement hr hname p

/-- The tokens of a menu program are those of one block for each place right below the menu. -/
theorem tokens_blockLines (hr : Spelled r) {root : Place} {rootName : String}
    (hname : Text.isIdentifier rootName) (h : ∀ q ∈ root.descendants, Buildable r q) :
    tokens (render (root.children.flatMap (blockLines r root rootName · 0))) =
      some (Statement.tokensAll (root.children.map (blockStatement r root rootName))) := by
  have hbelow := Place.forall_mem_descendants.1 h
  have hscan := scan_blocks (fun c hc => scan_blockLines hr root hname (hbelow c hc)) 0 []
  rw [List.append_nil] at hscan
  simpa [tokens, scan, front, Mode.finish] using hscan

/-- The text of a menu program is read as one block for each place right below the menu. -/
theorem read_blockLines (hr : WellNamed r) (hspace : r.submenuNamespace?.isSome) {root : Place}
    {rootName : String} (hname : Text.isIdentifier rootName)
    (h : ∀ q ∈ root.descendants, Buildable r q) :
    read (render (root.children.flatMap (blockLines r root rootName · 0))) =
      some (root.children.map (blockStatement r root rootName)) := by
  have hvalid : Statement.ValidAll (root.children.map (blockStatement r root rootName)) := by
    rw [Statement.validAll_iff]
    intro t ht
    obtain ⟨c, hc, rfl⟩ := List.mem_map.1 ht
    exact valid_blockStatement hr hspace hname (Place.forall_mem_descendants.1 h c hc)
  rw [Program.read, tokens_blockLines (spelled_of_names hr.isPath_names hspace) hname h]
  exact readTokens_tokensAll.2 ⟨hvalid, rfl⟩

end Widgetry.Menu
