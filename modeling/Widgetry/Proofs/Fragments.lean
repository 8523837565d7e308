import Widgetry.Proofs.FreshNames
import Widgetry.Proofs.Verdict

/-! The fragments of a script, read off the tree. The host, where an instance stands behind it, and
every new instance outside menus has one fragment, in document order, and nothing else has any. A
fragment opens with a comment and sets the initial values whose attributes are there; that of a new
instance constructs an object in between, and that of a menu ends with the menu's program. -/

namespace Widgetry

open Structure

variable {r : Registry}

/-- An instance stands behind the place, the host's or a new one, and no menu is above it. -/
def Registry.initialises (r : Registry) (p : Place) : Bool :=
  (r.mapping? p.kind).any (·.requiresInstance) && !menuAbove r p.ancestors

namespace Script

/-! ### Texts of fragments -/

/-- The expression for the value of an argument's attribute. -/
def expression (m : Mapping) (a : ArgumentSpec) (value : String) : String :=
  match a.kind with
  | .string => Text.literal value
  | .constant => (m.namespace? a.key).getD "" ++ "." ++ value

/-- The arguments whose attributes are there, in the order of the table, each with its key. -/
def expressions (m : Mapping) (p : Place) (as : List ArgumentSpec) : List (String × String) :=
  as.filterMap fun a => (p.attribute? a.key).map fun value => (a.key, expression m a value)

/-- The line that a fragment opens with. -/
def comment (name className : String) : String := "// Init " ++ name ++ ": " ++ className ++ ".\n"

/-- One construction, with the constructor arguments that are there. -/
def constructed (m : Mapping) (p : Place) (name className : String) : String :=
  construct name className ((expressions m p m.constructorArgs).map Prod.snd)

/-- One assignment for each initial value that is there. -/
def initialised (m : Mapping) (p : Place) (name : String) : String :=
  String.join ((expressions m p m.postInit).map fun (key, value) => assign name key value)

/-- The code that initialises the instance at a place, where the new instances have the names given
by their indices. -/
inductive Fragment (r : Registry) (name : Nat → String) (p : Place) : String → Prop
  | host {m : Mapping} {className : String} (mapping : r.mapping? p.kind = some m)
      (runtimeClass : m.runtimeClass = some className) (hosted : p.hosted) :
      Fragment r name p (comment r.ambientInstance className ++ initialised m p r.ambientInstance)
  | widget {m : Mapping} {className : String} (mapping : r.mapping? p.kind = some m)
      (runtimeClass : m.runtimeClass = some className) (hosted : p.hosted = false)
      (kind : p.kind ≠ r.menu.menuKind) :
      Fragment r name p (comment (name p.index) className ++
        constructed m p (name p.index) className ++ initialised m p (name p.index))
  | menu {m : Mapping} {className : String} {program : List Menu.Line}
      (mapping : r.mapping? p.kind = some m) (runtimeClass : m.runtimeClass = some className)
      (hosted : p.hosted = false) (kind : p.kind = r.menu.menuKind)
      (built : Menu.lines r p (name p.index) = .ok program) :
      Fragment r name p (comment (name p.index) className ++
        constructed m p (name p.index) className ++ initialised m p (name p.index) ++
        Menu.render program)

/-! ### Codes of records -/

theorem code_argument {m : Mapping} {role : Role} {p : Place} {a : ArgumentSpec}
    {value : Option Argument} (h : argument m role p a = .ok value) :
    value.map Argument.code = (p.attribute? a.key).map (expression m a) := by
  unfold argument at h
  cases hvalue : p.attribute? a.key with
  | none =>
    simp only [hvalue] at h
    split_ifs at h
    cases h
    rfl
  | some text =>
    simp only [hvalue] at h
    cases hkind : a.kind with
    | string =>
      rw [hkind] at h
      cases h
      simp [expression, hkind, Argument.code]
    | constant =>
      simp only [hkind] at h
      split_ifs at h
      cases h
      simp [expression, hkind, Argument.code]

/-- The arguments that are read are those whose attributes are there. -/
theorem code_arguments {m : Mapping} {role : Role} {p : Place} {as : List ArgumentSpec}
    {values : List (String × Argument)} (h : arguments m role p as = .ok values) :
    values.map (fun (key, value) => (key, value.code)) = expressions m p as := by
  induction as generalizing values with
  | nil =>
    cases h
    rfl
  | cons a as ih =>
    obtain ⟨value, hvalue, h⟩ := bind_eq_ok.1 h
    obtain ⟨rest, hrest, h⟩ := bind_eq_ok.1 h
    cases h
    have hhere := code_argument hvalue
    simp only [expressions] at ih ⊢
    cases hattribute : p.attribute? a.key with
    | none =>
      obtain rfl : value = none := by simpa [hattribute] using hhere
      simpa [hattribute] using ih hrest
    | some text =>
      obtain ⟨v, rfl, hv⟩ : ∃ v, value = some v ∧ v.code = expression m a text := by
        simpa [hattribute] using hhere
      simp [hattribute, hv, ← ih hrest]

theorem code_assignments (name : String) {m : Mapping} {role : Role} {p : Place}
    {values : List (String × Argument)} (h : arguments m role p m.postInit = .ok values) :
    String.join (values.map fun (key, value) => assign name key value.code) =
      initialised m p name := by
  rw [initialised, ← code_arguments h, List.map_map]
  rfl

theorem code_hostRecord {m : Mapping} {className : String} {p : Place} {d : Record}
    (h : hostRecord r m className p = .ok d) :
    d.code = comment r.ambientInstance className ++ initialised m p r.ambientInstance := by
  obtain ⟨initial, hinitial, h⟩ := bind_eq_ok.1 h
  cases h
  change comment r.ambientInstance className ++ "" ++ String.join (initial.map _) ++ "" = _
  rw [code_assignments _ hinitial, String.append_empty, String.append_empty]

theorem code_newRecord {m : Mapping} {className name : String} {p : Place} {d : Record}
    (h : newRecord m className name p = .ok d) (menu : List Menu.Line) :
    { d with menu }.code = comment name className ++ constructed m p name className ++
      initialised m p name ++ Menu.render menu := by
  obtain ⟨arguments, harguments, h⟩ := bind_eq_ok.1 h
  obtain ⟨initial, hinitial, h⟩ := bind_eq_ok.1 h
  cases h
  have hconstructed : (arguments.map Prod.snd).map Argument.code =
      (expressions m p m.constructorArgs).map Prod.snd := by
    rw [← code_arguments harguments, List.map_map, List.map_map]
    rfl
  change comment name className ++ construct name className ((arguments.map Prod.snd).map _) ++
    String.join (initial.map _) ++ Menu.render menu = _
  rw [hconstructed, code_assignments _ hinitial, constructed]

/-- The record of an instance is its fragment under the name that the record has. -/
theorem fragment_of_note {m : Mapping} {className : String} {p : Place} {namer namer' : Namer}
    {d : Record} (hm : r.mapping? p.kind = some m) (hclass : m.runtimeClass = some className)
    (h : note r m p namer = .ok (d, namer')) {name : Nat → String}
    (hname : p.hosted = false → d.name = name p.index) : Fragment r name p d.code := by
  rcases note_cases r h with ⟨hh, hd, -⟩ | ⟨hh, given, d₀, menu, -, hd, hmenu, rfl⟩
  · rw [hclass, Option.getD_some] at hd
    rw [code_hostRecord hd]
    exact .host hm hclass hh
  · rw [hclass, Option.getD_some] at hd
    obtain rfl : given = name p.index := (name_newRecord hd).1.symm.trans (hname hh)
    rw [code_newRecord hd]
    unfold menuLines at hmenu
    split_ifs at hmenu with hk
    · exact .menu hm hclass hh hk hmenu
    · cases hmenu
      simpa [Menu.render] using Fragment.widget hm hclass hh hk

/-- Records that are taken down in turn are the fragments of their places, under the names that the
namer gives to the new instances. -/
theorem fragments_of_noteAll (hr : r.Consistent) {ps : List Place}
    (hps : ∀ p ∈ ps, (r.mapping? p.kind).any (·.requiresInstance)) {namer namer' : Namer}
    {ds : List Record} (h : noteAll r namer ps = .ok (ds, namer')) {name : Nat → String}
    (hname : ds.filterMap Record.dataField? = (ps.filter (!·.hosted)).map (name ·.index)) :
    List.Forall₂ (Fragment r name) ps (ds.map Record.code) := by
  induction ps generalizing namer ds with
  | nil =>
    cases h
    exact .nil
  | cons p ps ih =>
    rw [List.forall_mem_cons] at hps
    obtain ⟨m, hm, h⟩ := bind_eq_ok.1 h
    obtain ⟨⟨d, namer₁⟩, hnote, h⟩ := bind_eq_ok.1 h
    obtain ⟨⟨rest, namer₂⟩, hrest, h⟩ := bind_eq_ok.1 h
    cases h
    have hmapping := Registry.require_eq_ok.1 hm
    have hi : m.requiresInstance = true := by simpa [hmapping] using hps.1
    obtain ⟨className, hclass⟩ := Option.isSome_iff_exists.1 (hr.classOf hmapping hi)
    have hd := dataField?_of_note hnote
    cases hh : p.hosted with
    | true =>
      rw [if_pos hh] at hd
      rw [List.filterMap_cons_none hd.1, List.filter_cons_of_neg (by simp [hh])] at hname
      exact .cons (fragment_of_note hmapping hclass hnote (by simp [hh])) (ih hps.2 hrest hname)
    | false =>
      rw [if_neg (by simp [hh])] at hd
      rw [List.filterMap_cons_some hd.1, List.filter_cons_of_pos (by simp [hh]), List.map_cons,
        List.cons.injEq] at hname
      exact .cons (fragment_of_note hmapping hclass hnote fun _ => hname.1)
        (ih hps.2 hrest hname.2)

end Script

/-! ### Scripts of accepted trees -/

/-- Below no hosted menu the records are those of the initialised instances. -/
theorem Place.recorded_eq_filter {p : Place} (hp : p.Unhosted r) :
    p.recorded r = p.places.filter r.initialises :=
  List.filter_congr fun q hq => by
    rw [Registry.isRecorded, Registry.initialises, (hp.of_mem hq).skips_eq]

/-- The script of an accepted tree has the fragments of the initialised instances, in document
order, and its data fields are the names of the new ones among them. A hosted menu is left out. -/
theorem Script.parts_are_fragments {r : Registry} {t : Tree} (hr : r.check = .ok ())
    (ht : Structure.check r t = .ok ())
    (hmenu : ¬(t.hosted = true ∧ t.root.kind = r.menu.menuKind)) {script : Script}
    (h : Script.ofTree r t = .ok script) :
    ∃ (name : Nat → String) (namer : Namer),
      Namer.nameAll {} (t.rootPlace.instances r) =
        .ok ((t.rootPlace.instances r).map (name ·.index), namer) ∧
      script.parts.dataFields = (t.rootPlace.instances r).map (name ·.index) ∧
      List.Forall₂ (Fragment r name) (t.places.filter r.initialises)
        script.parts.initStatements := by
  have hconsistent := Registry.consistent_of_check hr
  have hunhosted := Tree.unhosted hmenu
  obtain ⟨namer, hnoted⟩ := noteAll_of_ofTree hconsistent (accepted_of_check ht) h
  have hnamed := nameAll_of_noteAll hnoted
  rw [← Place.instances_eq_filter hunhosted] at hnamed
  obtain ⟨name, hname⟩ :=
    exists_name t.rootPlace.nodup_instances (Namer.length_of_nameAll hnamed)
  refine ⟨name, namer, hname ▸ hnamed, hname, ?_⟩
  rw [Place.instances_eq_filter hunhosted] at hname
  rw [Place.recorded_eq_filter hunhosted] at hnoted hname
  refine fragments_of_noteAll hconsistent (fun p hp => ?_) hnoted hname
  have hinitialises := (List.mem_filter.1 hp).2
  exact (Bool.and_eq_true_iff.1 hinitialises).1

/-- A hosted window with a menu that has no title, an item in it, a toolbar and a button. -/
def toolWindow : Tree where
  root := ⟨"Window", .ofList [("title", "Main")],
    [⟨"Menu", .ofList [("type", "Popup"), ("instance", "main_menu")],
      [⟨"MenuItem", .ofList [("title", "It's")], []⟩]⟩,
     ⟨"Toolbar", .empty, []⟩,
     ⟨"Button", .ofList [("title", "Go"), ("type", "Push")], []⟩]⟩
  hosted := true

def toolWindowCode : List String :=
  ["// Init instance: ApplicationWindow.\nthis.instance.title = 'Main';\n",
   "// Init mainMenu: Menu.\nthis.mainMenu = new Menu(Menu.MenuType.Popup);\n" ++
     r"{" ++ "\n  let _menuItem = new MenuItem('It\\'s');\n" ++
     "  this.mainMenu.items.push(_menuItem);\n" ++ r"}" ++ "\n",
   "// Init rt0: Button.\nthis.rt0 = new Button(Button.ButtonType.Push, 'Go');\n"]

theorem toolWindow_fragments :
    ∃ (script : Script) (name : Nat → String), Script.ofTree .builtin toolWindow = .ok script ∧
      script.parts.dataFields = ["mainMenu", "rt0"] ∧
      List.Forall₂ (Script.Fragment .builtin name)
        (toolWindow.places.filter Registry.builtin.initialises) toolWindowCode := by
  have hok : (Script.ofTree .builtin toolWindow).toOption.map
      (fun script => (script.parts.dataFields, script.parts.initStatements)) =
        some (["mainMenu", "rt0"], toolWindowCode) := by
    decide +kernel
  obtain ⟨script, hscript, htexts⟩ := Option.map_eq_some_iff.1 hok
  obtain ⟨hfields, hinit⟩ := Prod.mk.inj htexts
  have hofTree := toOption_eq_some.1 hscript
  obtain ⟨name, -, -, -, hfragments⟩ := Script.parts_are_fragments Registry.check_builtin
    (by decide +kernel) (by decide) hofTree
  rw [hinit] at hfragments
  exact ⟨script, name, hofTree, hfields, hfragments⟩

end Widgetry
