import Widgetry.Proofs.Faults
import Widgetry.Proofs.Tours

/-! The layout of menu programs. Whatever place the program is written for, and whatever stands
below it, a program that comes about is the layout of the forest below the place: a block for every
place, with the blocks of its children inside, two columns further in. The column is kept in a
counter that goes up and down on the walk; it is the depth of the walk, so that it is never taken
below zero. -/

namespace Widgetry.Menu

open Text (pad literal)

variable (r : Registry)

/-! ### Stanzas -/

/-- A block of a menu program: a declaration, the blocks inside and a link. -/
inductive Stanza where
  | mk (declaration : String) (inner : List Stanza) (link : String)

namespace Stanza

mutual

/-- A block laid out at a column: its braces stand there, and what it holds two columns in. -/
def layout (column : Nat) : Stanza → String
  | ⟨declaration, inner, link⟩ =>
    pad column ++ r"{" ++ "\n" ++
      pad (column + 2) ++ declaration ++ "\n" ++
      layoutAll (column + 2) inner ++
      pad (column + 2) ++ link ++ "\n" ++
      pad column ++ r"}" ++ "\n"

def layoutAll (column : Nat) : List Stanza → String
  | [] => ""
  | b :: bs => layout column b ++ layoutAll column bs

end

end Stanza

/-- The declaration of the object behind a place. -/
def declarationText (q : Place) : String :=
  if q.kind = r.menu.menuKind then
    "let _submenu = new " ++ className r q ++ "(" ++ space r ++ "." ++ r.menu.submenuConstant ++
      ", " ++ literal (title r q) ++ ");"
  else "let _menuItem = new " ++ className r q ++ "(" ++ literal (title r q) ++ ");"

/-- The link of a menu to the item around it, or of an item to the menu around it. -/
def linkText (around : String) (q : Place) : String :=
  if q.kind = r.menu.menuKind then "_menuItem." ++ r.menu.submenuField ++ " = _submenu;"
  else around ++ "." ++ r.menu.itemsField ++ ".push(_menuItem);"

/-- The block of a place; `around` is what an item right there is pushed onto. Further below it is
the submenu around the item. -/
def stanza : Place → (around : String) → Stanza :=
  Place.fold fun q inner around =>
    ⟨declarationText r q, inner.map (· "_submenu"), linkText r around q⟩

/-- The program for a place whose object has the given name: the blocks of the places right below. -/
def forestText (root : Place) (rootName : String) : String :=
  Stanza.layoutAll 0 (root.children.map (stanza r · ("this." ++ rootName)))

variable {r}

theorem stanza_eq (q : Place) (around : String) :
    stanza r q around =
      ⟨declarationText r q, q.children.map (stanza r · "_submenu"), linkText r around q⟩ := by
  rw [stanza, Place.fold_eq, List.map_map]
  rfl

theorem text_declarationLine (column : Nat) (q : Place) :
    (declarationLine r column q).text = pad column ++ declarationText r q ++ "\n" := by
  unfold declarationLine declarationText
  split_ifs
  · simp [Line.text, Script.declare, Script.creation, submenuVariable, ← String.toList_inj]
  · simp [Line.text, Script.declare, Script.creation, itemVariable, ← String.toList_inj]

/-- What an item is pushed onto: the root right below the root, and the submenu elsewhere. -/
def around (root : Place) (rootName : String) (q : Place) : String :=
  if q.parent?.map (·.index) = some root.index then "this." ++ rootName else "_submenu"

theorem text_link (hdistinct : r.menu.menuKind ≠ r.menu.menuItemKind) {root q : Place}
    {rootName : String} (hkind : r.isMenuKind q.kind) (column : Nat) :
    (link r root rootName column q).text =
      pad column ++ linkText r (around root rootName q) q ++ "\n" := by
  simp only [Registry.isMenuKind, Bool.or_eq_true, beq_iff_eq] at hkind
  unfold link linkText around
  rcases hkind with hmenu | hitem
  · simp [hmenu, hdistinct, Line.text, itemVariable, submenuVariable, ← String.toList_inj]
  · have hmenu : q.kind ≠ r.menu.menuKind := fun h => hdistinct (h.symm.trans hitem)
    by_cases hroot : q.parent?.map (·.index) = some root.index
    · simp only [if_pos hitem, if_neg hmenu, if_pos hroot]
      simp [Line.text, pushTarget, itemVariable, ← String.toList_inj]
    · simp only [if_pos hitem, if_neg hmenu, if_neg hroot]
      simp [Line.text, pushTarget, itemVariable, submenuVariable, ← String.toList_inj]

theorem render_blocks {root : Place} {rootName around : String} {ps : List Place} {column : Nat}
    (h : ∀ p ∈ ps, render (blockLines r root rootName p column) =
      (stanza r p around).layout column) :
    render (ps.flatMap (blockLines r root rootName · column)) =
      Stanza.layoutAll column (ps.map (stanza r · around)) := by
  induction ps with
  | nil => simp [Stanza.layoutAll]
  | cons p ps ih =>
    rw [List.forall_mem_cons] at h
    rw [List.flatMap_cons, render_append, h.1, ih h.2, List.map_cons, Stanza.layoutAll]

/-- The lines of a place below the root are the layout of its block. -/
theorem render_blockLines (hdistinct : r.menu.menuKind ≠ r.menu.menuItemKind) {root : Place}
    (rootName : String) {p : Place} (hroot : ∀ q ∈ p.places, q.index ≠ root.index)
    (hkind : ∀ q ∈ p.places, r.isMenuKind q.kind) (column : Nat) :
    render (blockLines r root rootName p column) =
      (stanza r p (around root rootName p)).layout column := by
  induction p using Place.induction generalizing column with
  | step p ih =>
    rw [Place.forall_mem_places] at hroot hkind
    have haround : ∀ c ∈ p.children, around root rootName c = "_submenu" := by
      intro c hc
      simp [around, Place.parent_of_mem hc, Place.asAncestor, hroot.1]
    have hchildren : render (p.children.flatMap (blockLines r root rootName · (column + 2))) =
        Stanza.layoutAll (column + 2) (p.children.map (stanza r · "_submenu")) := by
      refine render_blocks fun c hc => ?_
      rw [ih c hc (hroot.2 c hc) (hkind.2 c hc), haround c hc]
    rw [blockLines_eq, stanza_eq, Stanza.layout]
    simp only [render_cons, render_append, render_nil, hchildren, text_declarationLine,
      text_link hdistinct hkind.1]
    simp only [Line.text, String.append_assoc, String.append_empty]

/-! ### The column -/

/-- How far a chain of nodes reaches below the children of the root, in columns. -/
def column (root : Place) (chain : List Ancestor) : Nat :=
  2 * (chain.length - (root.ancestors.length + 1))

theorem length_ancestors_lt {root q : Place} (h : q ∈ root.descendants) :
    root.ancestors.length < q.ancestors.length := by
  obtain ⟨c, hc, hq⟩ := List.mem_flatMap.1 h
  refine Place.of_mem_places (P := fun q => root.ancestors.length < q.ancestors.length) ?_ ?_ hq
  · intro p hp d hd
    rw [Place.ancestors_of_mem hd, List.length_cons]
    omega
  · rw [Place.ancestors_of_mem hc, List.length_cons]
    omega

theorem eq_root_or_deeper {root p : Place} (hp : p ∈ root.places) :
    p = root ∨ p.index ≠ root.index ∧ root.ancestors.length < p.ancestors.length := by
  rcases Place.mem_places_iff.1 hp with rfl | hbelow
  · exact .inl rfl
  · exact .inr ⟨Nat.ne_of_gt (root.lt_index_descendants p hbelow), length_ancestors_lt hbelow⟩

/-- Every event of the walk takes the counter from the depth before it to the depth behind it. -/
theorem indent_of_step {root : Place} {rootName : String} (e : Event) (he : e ∈ root.tour)
    (s s' : State) (hs : s.indent = column root e.chainBefore)
    (h : (visitor r root rootName).step e s = .ok s') : s'.indent = column root e.chainAfter := by
  rw [Place.mem_tour_iff] at he
  cases e with
  | enter p =>
    simp only [Visitor.step, visitor] at h
    rcases eq_root_or_deeper (p := p) he with rfl | ⟨hindex, hdepth⟩
    · obtain rfl : s = s' := by simpa using h
      simpa [column, Event.chainBefore, Event.chainAfter] using hs
    · rw [if_neg hindex] at h
      obtain ⟨line, -, h⟩ := bind_eq_ok.1 h
      cases h
      simp only [column, Event.chainBefore, Event.chainAfter, List.length_cons] at hs ⊢
      omega
  | leave p =>
    simp only [Visitor.step, visitor] at h
    rcases eq_root_or_deeper (p := p) he with rfl | ⟨hindex, hdepth⟩
    · obtain rfl : s = s' := by simpa using h
      simpa [column, Event.chainBefore, Event.chainAfter] using hs
    · rw [if_neg hindex] at h
      cases h
      simp only [column, Event.chainBefore, Event.chainAfter, List.length_cons] at hs ⊢
      omega

/-- The counter is the depth of the walk at every event that it comes to. -/
theorem indent_before {root : Place} {rootName : String} {before after : List Event} {e : Event}
    (htour : root.tour = before ++ e :: after) {s : State}
    (h : (visitor r root rootName).run before {} = .ok s) :
    s.indent = column root e.chainBefore :=
  Visitor.holds_before (I := fun chain (s : State) => s.indent = column root chain) indent_of_step
    htour (by simp [column]) h

theorem indent_of_walk {root : Place} {rootName : String} {s : State}
    (h : (visitor r root rootName).walk root {} = .ok s) : s.indent = 0 := by
  rw [Visitor.walk_eq_run] at h
  have hend := Visitor.run_along (I := fun chain (s : State) => s.indent = column root chain)
    indent_of_step (Event.leads_tour root) (by simp [column]) h
  rw [hend]
  simp [column]

/-! ### Whole programs -/

/-- A program that comes about for a place is the layout of the forest below it. -/
theorem render_lines (hdistinct : r.menu.menuKind ≠ r.menu.menuItemKind) {root : Place}
    {rootName : String} {program : List Line} (h : lines r root rootName = .ok program) :
    render program = forestText r root rootName := by
  have hbuild := exists_lines_iff.1 ⟨program, h⟩
  rw [lines_eq_blockLines rootName hbuild] at h
  cases h
  refine render_blocks fun c hc => ?_
  have hbelow : ∀ q ∈ c.places, q ∈ root.descendants := fun q hq =>
    List.mem_flatMap.2 ⟨c, hc, hq⟩
  have haround : around root rootName c = "this." ++ rootName := by
    simp [around, Place.parent_of_mem hc, Place.asAncestor]
  rw [← haround]
  exact render_blockLines hdistinct rootName
    (fun q hq => Nat.ne_of_gt (root.lt_index_descendants q (hbelow q hq)))
    (fun q hq => (hbuild q (hbelow q hq)).kind) 0

/-- A program that comes about for a place is the layout of the forest below it, and it comes about
exactly if all that is below the place is a menu or an item with a class and a title. Where the
counter is taken down it is two or more, and at the end it is zero. -/
theorem program_is_forest (hdistinct : r.menu.menuKind ≠ r.menu.menuItemKind) (root : Place)
    (rootName : String) :
    (∀ program, lines r root rootName = .ok program →
      render program = forestText r root rootName) ∧
    ((∃ program, lines r root rootName = .ok program) ↔
      ∀ q ∈ root.descendants, (q.kind = r.menu.menuKind ∨ q.kind = r.menu.menuItemKind) ∧
        (r.runtimeClass? q.kind).isSome ∧ (q.attribute? r.menu.titleAttribute).isSome) ∧
    (∀ before p after s, root.tour = before ++ .leave p :: after → p.index ≠ root.index →
      (visitor r root rootName).run before {} = .ok s → 2 ≤ s.indent) ∧
    ∀ s, (visitor r root rootName).walk root {} = .ok s → s.indent = 0 := by
  refine ⟨fun program h => render_lines hdistinct h, ?_, ?_, fun s h => indent_of_walk h⟩
  · rw [exists_lines_iff]
    refine forall₂_congr fun q _ => ?_
    have hkind : r.isMenuKind q.kind = true ↔
        q.kind = r.menu.menuKind ∨ q.kind = r.menu.menuItemKind := by simp [Registry.isMenuKind]
    exact ⟨fun h => ⟨hkind.1 h.kind, h.className, h.title⟩,
      fun h => ⟨hkind.2 h.1, h.2.1, h.2.2⟩⟩
  · intro before p after s htour hp hrun
    have hmem : p ∈ root.places := Event.place_mem_of_tour htour
    have hdeeper := (eq_root_or_deeper hmem).resolve_left fun h => hp (congrArg Place.index h)
    have hindent := indent_before htour hrun
    simp only [column, Event.chainBefore, List.length_cons] at hindent
    omega

/-- Menu items right in a window, which no accepted tree holds. -/
def looseItems : Tree where
  root := ⟨"Window", .empty,
    [⟨"MenuItem", .ofList [("title", "File")],
      [⟨"Menu", .ofList [("title", "Files")], [⟨"MenuItem", .ofList [("title", "Open")], []⟩]⟩]⟩,
     ⟨"MenuItem", .ofList [("title", "Help")], []⟩]⟩
  hosted := false

/-- The items directly in the window are pushed onto it, and the one further in onto its menu. -/
theorem looseItems_laidOut :
    Structure.check .builtin looseItems ≠ .ok () ∧
      ∃ program, lines .builtin looseItems.rootPlace "view" = .ok program ∧
        render program =
          r"{" ++ "\n  let _menuItem = new MenuItem('File');\n" ++
          r"  {" ++ "\n    let _submenu = new Menu(Menu.MenuType.Submenu, 'Files');\n" ++
          r"    {" ++ "\n      let _menuItem = new MenuItem('Open');\n" ++
          "      _submenu.items.push(_menuItem);\n" ++ r"    }" ++ "\n" ++
          "    _menuItem.submenu = _submenu;\n" ++ r"  }" ++ "\n" ++
          "  this.view.items.push(_menuItem);\n" ++ r"}" ++ "\n" ++
          r"{" ++ "\n  let _menuItem = new MenuItem('Help');\n" ++
          "  this.view.items.push(_menuItem);\n" ++ r"}" ++ "\n" := by
  have hdistinct : Registry.builtin.menu.menuKind ≠ Registry.builtin.menu.menuItemKind := by
    decide +kernel
  obtain ⟨hforest, hcomesAbout, -⟩ := program_is_forest hdistinct looseItems.rootPlace "view"
  obtain ⟨program, hprogram⟩ := hcomesAbout.2 (by decide +kernel)
  exact ⟨by decide +kernel, program, hprogram, (hforest program hprogram).trans (by decide +kernel)⟩

end Widgetry.Menu
