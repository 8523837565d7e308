import Widgetry.Proofs.Records
import Widgetry.Proofs.Table
import Widgetry.Proofs.Tours

/-! What a script imports. Entering an instance imports its class, in a menu and at the host as
well, and a menu that is built brings the class of its items with it. So the imports are the classes
listed in document order, each at its first place, and every class that a statement of the script
constructs is among them; for any registry and any tree. -/

namespace Widgetry

/-! ### Events before an entrance -/

namespace Place

/-- The events of a tour up to the entrance of a place. -/
def eventsBefore (root p : Place) : List Event :=
  root.tour.takeWhile fun e => e.entered?.map index != some p.index

theorem eventsBefore_eq {root p : Place} {first rest : List Event}
    (h : root.tour = first ++ .enter p :: rest) : root.eventsBefore p = first := by
  have hplaces : (root.places.map index).Nodup := by
    rw [map_index_places]
    exact List.nodup_range'
  have hentered : root.places =
      first.filterMap Event.entered? ++ p :: rest.filterMap Event.entered? := by
    rw [← filterMap_entered?_tour, h]
    simp [Event.entered?]
  rw [hentered, List.map_append, List.map_cons, List.nodup_append] at hplaces
  -- a place that was entered before has another index
  have hother : ∀ e ∈ first, (e.entered?.map index != some p.index) = true := by
    intro e he
    cases hentered : e.entered? with
    | none => rfl
    | some q =>
      have hq : q.index ∈ (first.filterMap Event.entered?).map index :=
        List.mem_map_of_mem (List.mem_filterMap.2 ⟨e, he, hentered⟩)
      simpa using hplaces.2.2 q.index hq p.index List.mem_cons_self
  rw [eventsBefore, h, List.takeWhile_append_of_pos hother,
    List.takeWhile_cons_of_neg (by simp [Event.entered?]), List.append_nil]

end Place

/-! ### Classes in document order -/

/-- The class of the instance behind a place; it is empty where the registry names none. -/
def Registry.instanceClass? (r : Registry) (p : Place) : Option String :=
  match r.mapping? p.kind with
  | some m => if m.requiresInstance then some (m.runtimeClass.getD "") else none
  | none => none

namespace Script

variable (r : Registry)

/-- On its way through the tree the script comes to the place and builds its menu there: the place
is a menu with a new instance, and it is not skipped. -/
def buildsMenu (t : Tree) (p : Place) : Bool :=
  match (visitor r).run (t.rootPlace.eventsBefore p) {} with
  | .ok u =>
    (r.instanceClass? p).isSome && !u.skip.active && !p.hosted && p.kind == r.menu.menuKind
  | .error _ => false

/-- The classes that a place brings: that of its instance, and that of the items of a menu that is
built there. -/
def classesAt (t : Tree) (p : Place) : List String :=
  (r.instanceClass? p).toList ++
    if buildsMenu r t p then (r.runtimeClass? r.menu.menuItemKind).toList else []

/-! ### Entrances -/

variable {r}

/-- Imports with some classes more; what is imported already is not imported again. -/
def importing (imports classes : List String) : List String :=
  classes.foldl (fun imports c => if imports.contains c then imports else imports ++ [c]) imports

theorem importing_eraseDups (l classes : List String) :
    importing l.eraseDups classes = (l ++ classes).eraseDups := by
  induction classes generalizing l with
  | nil => rw [List.append_nil]; rfl
  | cons c classes ih =>
    have hstep : importing l.eraseDups (c :: classes) =
        importing (l ++ [c]).eraseDups classes := by
      rw [eraseDups_concat]
      simp [importing]
    rw [hstep, ih, List.append_assoc, List.singleton_append]

theorem addImport_eq (u : State) (c : String) :
    u.addImport c = { u with imports := importing u.imports [c] } := by
  simp only [State.addImport, importing, List.foldl_cons, List.foldl_nil]
  split_ifs <;> rfl

/-- The ways in which the script enters a place without a fault. -/
inductive Entered (r : Registry) (p : Place) (u : State) : State → Prop
  | plain {m : Mapping} (mapping : r.mapping? p.kind = some m)
      (required : m.requiresInstance = false) : Entered r p u u
  | skipped {m : Mapping} (mapping : r.mapping? p.kind = some m) (required : m.requiresInstance)
      (active : u.skip.active) :
      Entered r p u ⟨u.namer, u.skip.enter r p,
        importing u.imports [m.runtimeClass.getD ""], u.records⟩
  | host {m : Mapping} {d : Record} (mapping : r.mapping? p.kind = some m)
      (required : m.requiresInstance) (active : u.skip.active = false) (hosted : p.hosted)
      (record : hostRecord r m (m.runtimeClass.getD "") p = .ok d) :
      Entered r p u ⟨u.namer, u.skip,
        importing u.imports [m.runtimeClass.getD ""], u.records ++ [d]⟩
  | widget {m : Mapping} {name : String} {namer : Namer} {d : Record}
      (mapping : r.mapping? p.kind = some m) (required : m.requiresInstance)
      (active : u.skip.active = false) (hosted : p.hosted = false)
      (kind : p.kind ≠ r.menu.menuKind)
      (record : newRecord m (m.runtimeClass.getD "") name p = .ok d) :
      Entered r p u ⟨namer, u.skip,
        importing u.imports [m.runtimeClass.getD ""], u.records ++ [d]⟩
  | menu {m : Mapping} {name : String} {namer : Namer} {d : Record} {program : List Menu.Line}
      (mapping : r.mapping? p.kind = some m) (required : m.requiresInstance)
      (active : u.skip.active = false) (hosted : p.hosted = false)
      (kind : p.kind = r.menu.menuKind)
      (record : newRecord m (m.runtimeClass.getD "") name p = .ok d)
      (built : Menu.lines r p name = .ok program) :
      Entered r p u ⟨namer, .begin,
        importing u.imports
          (m.runtimeClass.getD "" :: (r.runtimeClass? r.menu.menuItemKind).toList),
        u.records ++ [{ d with menu := program }]⟩

theorem entered_of_enter {p : Place} {u u' : State} (h : enter r p u = .ok u') :
    Entered r p u u' := by
  obtain ⟨m, hm, h⟩ := bind_eq_ok.1 h
  have hmapping := Registry.require_eq_ok.1 hm
  simp only [addImport_eq] at h
  split_ifs at h with hrequired hactive hhosted hkind
  · cases h
    exact .plain hmapping (by simpa using hrequired)
  · cases h
    exact .skipped hmapping (by simpa using hrequired) hactive
  · obtain ⟨d, hd, h⟩ := bind_eq_ok.1 h
    cases h
    exact .host hmapping (by simpa using hrequired) (by simpa using hactive) hhosted hd
  all_goals
    obtain ⟨⟨name, namer⟩, -, h⟩ := bind_eq_ok.1 h
    obtain ⟨d, hd, h⟩ := bind_eq_ok.1 h
  · obtain ⟨program, hprogram, h⟩ := bind_eq_ok.1 h
    rw [(name_newRecord hd).1] at hprogram
    have hmenu := @Entered.menu r p u m name namer d program hmapping (by simpa using hrequired)
      (by simpa using hactive) (by simpa using hhosted) hkind hd hprogram
    cases h
    cases hitem : r.runtimeClass? r.menu.menuItemKind <;>
      simpa [hitem, addImport_eq, State.addRecord, importing] using hmenu
  · cases h
    exact .widget hmapping (by simpa using hrequired) (by simpa using hactive)
      (by simpa using hhosted) hkind hd

/-- A place brings its classes to the imports. -/
theorem imports_enter {t : Tree} {p : Place} {u u' : State}
    (harrival : (visitor r).run (t.rootPlace.eventsBefore p) {} = .ok u)
    (h : enter r p u = .ok u') : u'.imports = importing u.imports (classesAt r t p) := by
  simp only [classesAt, buildsMenu, harrival]
  cases entered_of_enter h with
  | plain mapping required => simp [Registry.instanceClass?, mapping, required, importing]
  | skipped mapping required active =>
    simp [Registry.instanceClass?, mapping, required, active]
  | host mapping required active hosted record =>
    simp [Registry.instanceClass?, mapping, required, active, hosted]
  | widget mapping required active hosted kind record =>
    simp [Registry.instanceClass?, mapping, required, active, hosted, kind]
  | menu mapping required active hosted kind record built =>
    rw [kind] at mapping
    simp [Registry.instanceClass?, mapping, required, active, hosted, kind]

/-- What the script has imported on its way are the classes of the places that it has entered. -/
theorem imports_run {t : Tree} {first rest : List Event} (htour : t.rootPlace.tour = first ++ rest)
    {u : State} (h : (visitor r).run first {} = .ok u) :
    u.imports = ((first.filterMap Event.entered?).flatMap (classesAt r t)).eraseDups := by
  induction first using List.reverseRecOn generalizing rest u with
  | nil =>
    cases h
    rfl
  | append_singleton first e ih =>
    rw [List.append_assoc, List.singleton_append] at htour
    rw [Visitor.run_append] at h
    obtain ⟨w, hw, h⟩ := bind_eq_ok.1 h
    obtain ⟨w', hstep, h⟩ := bind_eq_ok.1 h
    cases h
    have hbefore := ih htour hw
    cases e with
    | enter p =>
      have harrival : (visitor r).run (t.rootPlace.eventsBefore p) {} = .ok w := by
        rw [Place.eventsBefore_eq htour, hw]
      rw [imports_enter harrival hstep, hbefore, importing_eraseDups]
      simp [Event.entered?]
    | leave p =>
      cases hstep
      simp [hbefore, Event.entered?, List.filterMap_cons]

end Script

/-! ### Constructed classes -/

/-- The class of the object that a line of a menu program declares. -/
def Menu.Line.constructed? : Menu.Line → Option String
  | letSubmenu _ className .. => some className
  | letItem _ className _ => some className
  | _ => none

/-- The classes of the objects that a record constructs, statement by statement. -/
def Script.Record.constructed (d : Script.Record) : List String :=
  (d.construction.map fun _ => d.className).toList ++ d.menu.filterMap Menu.Line.constructed?

namespace Script

/-- A line of a record's code: the comment, or a statement. -/
inductive Piece where
  | comment (name className : String)
  | construction (name className : String) (arguments : List Argument)
  | assignment (name key : String) (value : Argument)
  | menu (line : Menu.Line)

namespace Piece

def text : Piece → String
  | comment name className => "// Init " ++ name ++ ": " ++ className ++ ".\n"
  | construction name className arguments => construct name className (arguments.map Argument.code)
  | assignment name key value => assign name key value.code
  | menu line => line.text

/-- The class of the object that a piece constructs. -/
def constructed? : Piece → Option String
  | construction _ className _ => some className
  | menu line => line.constructed?
  | _ => none

end Piece

/-- A statement that gives a new object of a class to the component or to a variable. -/
def Constructs (statement className : String) : Prop :=
  ∃ name arguments, statement = construct name className arguments ∨
    ∃ indent, statement = Text.pad indent ++ declare name className arguments

theorem Piece.constructs {piece : Piece} {c : String} (h : piece.constructed? = some c) :
    Constructs piece.text c := by
  cases piece with
  | comment => cases h
  | construction name className arguments =>
    cases h
    exact ⟨name, _, .inl rfl⟩
  | assignment => cases h
  | menu line =>
    cases line with
    | letSubmenu indent className space constant title =>
      cases h
      exact ⟨Menu.submenuVariable, _, .inr ⟨indent, rfl⟩⟩
    | letItem indent className title =>
      cases h
      exact ⟨Menu.itemVariable, _, .inr ⟨indent, rfl⟩⟩
    | openBlock | push | attach | closeBlock => cases h

/-- The pieces of a record's code, in order. -/
def Record.pieces (d : Record) : List Piece :=
  .comment d.name d.className ::
    (d.construction.toList.map (.construction d.name d.className) ++
      d.assignments.map (fun x => .assignment d.name x.1 x.2) ++ d.menu.map .menu)

/-- The code of a record is the text of its pieces. -/
theorem Record.code_eq_pieces (d : Record) : d.code = String.join (d.pieces.map Piece.text) := by
  rw [code_eq]
  cases hd : d.construction <;>
    simp [pieces, hd, Piece.text, Menu.render, Function.comp_def, String.append_assoc]

/-- What a record constructs is what its pieces construct, one after the other. -/
theorem Record.constructed_eq_pieces (d : Record) :
    d.constructed = d.pieces.filterMap Piece.constructed? := by
  cases hd : d.construction <;>
    simp [constructed, pieces, hd, Piece.constructed?, List.filterMap_cons, List.filterMap_append,
      List.filterMap_map, Function.comp_def]

end Script

namespace Menu

variable {r : Registry}

/-- What the lines construct is a menu or an item. -/
def ConstructsMenus (r : Registry) (lines : List Line) : Prop :=
  ∀ line ∈ lines, ∀ c, line.constructed? = some c →
    r.runtimeClass? r.menu.menuKind = some c ∨ r.runtimeClass? r.menu.menuItemKind = some c

theorem ConstructsMenus.append {first rest : List Line} (hfirst : ConstructsMenus r first)
    (hrest : ConstructsMenus r rest) : ConstructsMenus r (first ++ rest) := by
  intro line hline
  rcases List.mem_append.1 hline with hline | hline
  · exact hfirst line hline
  · exact hrest line hline

theorem constructed?_declaration {indent : Nat} {p : Place} {line : Line}
    (h : declaration r indent p = .ok line) {c : String} (hc : line.constructed? = some c) :
    r.runtimeClass? r.menu.menuKind = some c ∨ r.runtimeClass? r.menu.menuItemKind = some c := by
  unfold declaration at h
  cases hclass : r.runtimeClass? p.kind with
  | none => simp [hclass] at h
  | some className =>
    cases htitle : p.attribute? r.menu.titleAttribute with
    | none => simp [hclass, htitle] at h
    | some title =>
      simp only [hclass, htitle] at h
      split_ifs at h with hmenu hitem
      all_goals
        cases h
        cases hc
      · exact .inl (hmenu ▸ hclass)
      · exact .inr (hitem ▸ hclass)

theorem constructed?_link (root : Place) (rootName : String) (indent : Nat) (p : Place) :
    (link r root rootName indent p).constructed? = none := by
  unfold link
  split_ifs <;> rfl

/-- A menu program constructs menus and items only. -/
theorem constructsMenus_lines {p : Place} {rootName : String} {program : List Line}
    (h : lines r p rootName = .ok program) : ConstructsMenus r program := by
  obtain ⟨s, hwalk, h⟩ := bind_eq_ok.1 h
  cases h
  refine (visitor r p rootName).walk_invariant (P := fun s => ConstructsMenus r s.lines)
    (fun q s s' hs h => ?_) (fun q s s' hs h => ?_) (by simp [ConstructsMenus]) hwalk
  · simp only [visitor] at h
    split_ifs at h
    · cases h
      exact hs
    · obtain ⟨line, hline, h⟩ := bind_eq_ok.1 h
      cases h
      refine hs.append fun written hwritten c hc => ?_
      rcases List.mem_pair.1 hwritten with rfl | rfl
      · cases hc
      · exact constructed?_declaration hline hc
  · simp only [visitor] at h
    split_ifs at h
    · cases h
      exact hs
    · cases h
      refine hs.append fun written hwritten c hc => ?_
      rcases List.mem_pair.1 hwritten with rfl | rfl
      · rw [constructed?_link] at hc
        cases hc
      · cases hc

end Menu

namespace Script

variable {r : Registry}

theorem mem_importing {imports classes : List String} {c : String} :
    c ∈ importing imports classes ↔ c ∈ imports ∨ c ∈ classes := by
  induction classes generalizing imports with
  | nil => simp [importing]
  | cons first classes ih =>
    rw [importing, List.foldl_cons, ← importing, ih]
    split_ifs with h
    · have hfirst : first ∈ imports := List.contains_iff_mem.1 h
      grind
    · grind

/-- Every class that the records construct is imported. -/
def State.Complete (u : State) : Prop := ∀ d ∈ u.records, ∀ c ∈ d.constructed, c ∈ u.imports

theorem constructed_hostRecord {m : Mapping} {className : String} {p : Place} {d : Record}
    (h : hostRecord r m className p = .ok d) : d.constructed = [] := by
  obtain ⟨initial, -, h⟩ := bind_eq_ok.1 h
  cases h
  rfl

theorem constructed_newRecord {m : Mapping} {className name : String} {p : Place} {d : Record}
    (h : newRecord m className name p = .ok d) : d.constructed = [className] := by
  obtain ⟨constructed, -, h⟩ := bind_eq_ok.1 h
  obtain ⟨initial, -, h⟩ := bind_eq_ok.1 h
  cases h
  rfl

theorem Record.constructed_withMenu {d : Record} (h : d.menu = []) (program : List Menu.Line) :
    { d with menu := program }.constructed =
      d.constructed ++ program.filterMap Menu.Line.constructed? := by
  simp [Record.constructed, h]

/-- New records come with the classes that they construct. -/
theorem State.Complete.add {u u' : State} (hu : u.Complete) {classes : List String}
    (himports : u'.imports = importing u.imports classes) {ds : List Record}
    (hrecords : u'.records = u.records ++ ds) (hnew : ∀ d ∈ ds, d.constructed ⊆ classes) :
    u'.Complete := by
  intro d hd c hc
  rw [himports, mem_importing]
  rw [hrecords] at hd
  rcases List.mem_append.1 hd with hd | hd
  · exact .inl (hu d hd c hc)
  · exact .inr (hnew d hd hc)

theorem complete_enter {p : Place} {u u' : State} (hu : u.Complete) (h : enter r p u = .ok u') :
    u'.Complete := by
  cases entered_of_enter h with
  | plain mapping required => exact hu
  | skipped mapping required active =>
    exact hu.add rfl (List.append_nil _).symm (by simp)
  | host mapping required active hosted record =>
    exact hu.add rfl rfl (by simp [constructed_hostRecord record])
  | widget mapping required active hosted kind record =>
    exact hu.add rfl rfl (by simp [constructed_newRecord record])
  | @menu m name namer d program mapping required active hosted kind record built =>
    refine hu.add rfl rfl (List.forall_mem_singleton.2 fun c hc => ?_)
    rw [Record.constructed_withMenu (name_newRecord record).2, constructed_newRecord record,
      List.mem_append, List.mem_singleton, List.mem_filterMap] at hc
    rcases hc with rfl | ⟨line, hline, hc⟩
    · exact List.mem_cons_self
    · -- menus have the class of the menu that is built, and the class of items comes with it
      rcases Menu.constructsMenus_lines built line hline c hc with hclass | hclass
      · rw [← kind, Registry.runtimeClass?, mapping] at hclass
        have hmenu : m.runtimeClass = some c := hclass
        simp [hmenu]
      · simp [hclass]

theorem complete_run {events : List Event} {u : State} (h : (visitor r).run events {} = .ok u) :
    u.Complete := by
  refine (visitor r).run_invariant (P := State.Complete) (fun e w w' hw hstep => ?_)
    (by simp [State.Complete]) h
  cases e with
  | enter p => exact complete_enter hw hstep
  | leave p =>
    cases hstep
    exact hw

/-- The imports of a script are the classes that its places bring, in document order and each at its
first place. No class is imported twice, and every class that the code of a record constructs, its
menu included, is imported. -/
theorem imports_eq_classes (r : Registry) (t : Tree) {script : Script}
    (h : Script.ofTree r t = .ok script) :
    script.parts.imports.Nodup ∧
      (∀ code ∈ script.parts.initStatements, ∃ d ∈ script.records,
        code = d.code ∧ (∀ c ∈ d.constructed, c ∈ script.parts.imports) ∧
        code = String.join (d.pieces.map Piece.text) ∧
        ∀ piece ∈ d.pieces, ∀ c, piece.constructed? = some c →
          Constructs piece.text c ∧ c ∈ script.parts.imports) ∧
      script.parts.imports = (t.places.flatMap (classesAt r t)).eraseDups := by
  obtain ⟨u, hwalk, h⟩ := bind_eq_ok.1 h
  cases h
  rw [Visitor.walk_eq_run] at hwalk
  have himports : u.imports = (t.places.flatMap (classesAt r t)).eraseDups := by
    have hrun := imports_run (List.append_nil _).symm hwalk
    rwa [Place.filterMap_entered?_tour] at hrun
  refine ⟨?_, fun code hcode => ?_, himports⟩
  · change u.imports.Nodup
    rw [himports]
    exact nodup_eraseDups _
  · obtain ⟨d, hd, rfl⟩ := List.mem_map.1 hcode
    have hcomplete := complete_run hwalk d hd
    refine ⟨d, hd, rfl, hcomplete, d.code_eq_pieces, fun piece hpiece c hc => ?_⟩
    refine ⟨Piece.constructs hc, hcomplete c ?_⟩
    rw [d.constructed_eq_pieces]
    exact List.mem_filterMap.2 ⟨piece, hpiece, hc⟩

/-- A hosted window with a menu in a menu and another menu behind it. -/
def layeredWindow : Tree where
  root := ⟨"Window", .empty,
    [⟨"Menu", .ofList [("type", "Popup")],
      [⟨"MenuItem", .ofList [("title", "Recent")],
        [⟨"Menu", .ofList [("title", "Recent")], []⟩]⟩]⟩,
     ⟨"Menu", .ofList [("type", "Popup")], []⟩]⟩
  hosted := true

/-- The inner menu is listed and not built: its items come with the menu around it. -/
theorem layeredWindow_imports :
    ∃ script, Script.ofTree .builtin layeredWindow = .ok script ∧
      layeredWindow.places.flatMap (classesAt .builtin layeredWindow) =
        ["ApplicationWindow", "Menu", "MenuItem", "Menu", "Menu", "MenuItem"] ∧
      script.parts.imports = ["ApplicationWindow", "Menu", "MenuItem"] ∧
      script.records.map Record.constructed = [[], ["Menu", "MenuItem", "Menu"], ["Menu"]] := by
  have hok : (Script.ofTree .builtin layeredWindow).toOption.map
      (fun script => script.records.map Record.constructed) =
        some [[], ["Menu", "MenuItem", "Menu"], ["Menu"]] := by
    decide +kernel
  have hclasses : layeredWindow.places.flatMap (classesAt .builtin layeredWindow) =
      ["ApplicationWindow", "Menu", "MenuItem", "Menu", "Menu", "MenuItem"] := by
    decide +kernel
  obtain ⟨script, hscript, hconstructed⟩ := Option.map_eq_some_iff.1 hok
  have hofTree := toOption_eq_some.1 hscript
  obtain ⟨-, -, himports⟩ := imports_eq_classes .builtin layeredWindow hofTree
  rw [hclasses] at himports
  exact ⟨script, hofTree, hclasses, himports.trans (by decide), hconstructed⟩

end Script

end Widgetry
