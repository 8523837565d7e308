import Widgetry.Proofs.Acceptance
import Widgetry.Script.Extract
import Widgetry.Template

/-! Template and script name instances alike. Each of the two walks carries a namer, a menu flag and
the names it has put down; seen through these three both are the same walk, the ledger. So as far as
the script's walk comes the template's comes too, and at every event of the two walks flags, namers
and names are equal, for any registry and any tree. -/

namespace Widgetry

/-- What both walks keep of instances. -/
structure Ledger where
  namer : Namer := {}
  skip : MenuSkip := {}
  names : List String := []
  deriving DecidableEq

namespace Ledger

variable (r : Registry)

/-- An instance outside menus is named, unless it is the host; a menu starts a skip. -/
def record (m : Mapping) (p : Place) (l : Ledger) : Except Fault Ledger :=
  if !m.requiresInstance then .ok l
  else if l.skip.active then .ok { l with skip := l.skip.enter r p }
  else if p.hosted then .ok l
  else do
    let (name, namer) ← l.namer.name p
    return ⟨namer, if p.kind = r.menu.menuKind then .begin else l.skip, l.names ++ [name]⟩

def enter (p : Place) (l : Ledger) : Except Fault Ledger := do
  let m ← r.require p
  l.record r m p

def leave (p : Place) (l : Ledger) : Except Fault Ledger := .ok { l with skip := .leave r p }

def visitor : Visitor Fault Ledger := ⟨enter r, leave r⟩

end Ledger

/-! ### The template's ledger -/

namespace Template

/-- The instance names that stand in bindings, in the order in which they are written. -/
def boundNames (marks : List Mark) : List String :=
  marks.filterMap fun
    | .bindInstance _ name => some name
    | _ => none

@[simp] theorem boundNames_append (first rest : List Mark) :
    boundNames (first ++ rest) = boundNames first ++ boundNames rest := List.filterMap_append

def State.ledger (s : State) : Ledger := ⟨s.namer, s.skip, boundNames s.marks⟩

@[simp] theorem ledger_namer (s : State) : s.ledger.namer = s.namer := rfl

@[simp] theorem ledger_skip (s : State) : s.ledger.skip = s.skip := rfl

variable (r : Registry)

@[simp] theorem boundNames_attributeMarks (m : Mapping) (p : Place) (indent : Nat) :
    boundNames (attributeMarks m p indent) = [] := by
  simp only [attributeMarks, boundNames_append, List.append_eq_nil_iff]
  constructor
  · simp [boundNames, List.filterMap_filterMap]
  · cases m.hostSubstitution with
    | none => rfl
    | some host => cases p.hosted <;> rfl

@[simp] theorem ledger_openSlot (m : Mapping) (p : Place) (s : State) :
    (openSlot m p s).ledger = s.ledger := by
  unfold openSlot
  split
  · split
    · rfl
    · simp [State.ledger, State.write, State.deeper, boundNames]
  · rfl

@[simp] theorem ledger_openTag (tag : Option String) (s : State) :
    (openTag tag s).ledger = s.ledger := by
  cases tag
  · rfl
  · simp [openTag, State.ledger, State.write, State.deeper, boundNames]

/-- Binding an instance is what the ledger records. -/
theorem map_ledger_bindInstance (m : Mapping) (p : Place) (s : State) :
    (bindInstance r m p s).map State.ledger = s.ledger.record r m p := by
  unfold bindInstance Ledger.record
  rw [ledger_skip, ledger_namer]
  split_ifs
  · rfl
  · rfl
  · rfl
  -- a menu and any other instance differ in the flag only
  all_goals
    cases s.namer.name p with
    | error fault => rfl
    | ok named => simp [Except.map, State.ledger, State.write, boundNames]

theorem map_ledger_enter (p : Place) (s : State) :
    (enter r p s).map State.ledger = Ledger.enter r p s.ledger := by
  unfold enter Ledger.enter
  cases r.require p with
  | error fault => rfl
  | ok m =>
    simp only [ok_bind]
    set tag := if s.skip.active then none else m.openedTag p.hosted
    have hbind := map_ledger_bindInstance r m p (openTag tag (openSlot m p s))
    rw [ledger_openTag, ledger_openSlot] at hbind
    rw [← hbind]
    cases bindInstance r m p (openTag tag (openSlot m p s)) with
    | error fault => rfl
    | ok s' =>
      cases tag with
      | none => rfl
      | some name =>
        -- the attributes of a tag hold no binding
        have hneutral : boundNames (attributeMarks m p s'.indent ++ [.endOpenTag]) = [] := by
          rw [boundNames_append, boundNames_attributeMarks]
          rfl
        simp [Except.map, State.ledger, State.write, hneutral]

theorem ledger_closeTag (tag : Option String) (s : State) :
    (closeTag tag s).ledger = s.ledger := by
  cases tag
  · rfl
  · simp [closeTag, State.ledger, State.write, State.shallower, boundNames]

theorem ledger_closeSlot (m : Mapping) (p : Place) (s : State) :
    (closeSlot m p s).ledger = s.ledger := by
  unfold closeSlot
  split_ifs
  · simp [State.ledger, State.write, State.shallower, boundNames]
  · rfl

theorem map_ledger_leave {p : Place} {m : Mapping} (hm : r.mapping? p.kind = some m) (s : State) :
    (leave r p s).map State.ledger = Ledger.leave r p s.ledger := by
  unfold leave
  rw [Registry.require_eq_ok.2 hm]
  simp only [ok_bind, pure_eq_ok, Except.map, Ledger.leave]
  split_ifs
  · rfl
  · rw [ledger_closeSlot, ledger_closeTag]
    rfl

end Template

/-! ### The script's ledger -/

namespace Script

def State.ledger (u : State) : Ledger := ⟨u.namer, u.skip, u.records.filterMap Record.dataField?⟩

@[simp] theorem ledger_namer (u : State) : u.ledger.namer = u.namer := rfl

@[simp] theorem ledger_skip (u : State) : u.ledger.skip = u.skip := rfl

@[simp] theorem addImport_namer (u : State) (className : String) :
    (u.addImport className).namer = u.namer := by
  unfold State.addImport
  split_ifs <;> rfl

@[simp] theorem addImport_skip (u : State) (className : String) :
    (u.addImport className).skip = u.skip := by
  unfold State.addImport
  split_ifs <;> rfl

@[simp] theorem addImport_records (u : State) (className : String) :
    (u.addImport className).records = u.records := by
  unfold State.addImport
  split_ifs <;> rfl

theorem ledger_addRecord (u : State) (d : Record) :
    (u.addRecord d).ledger = ⟨u.namer, u.skip, u.ledger.names ++ d.dataField?.toList⟩ := by
  cases hd : d.dataField? <;> simp [State.ledger, State.addRecord, hd]

variable (r : Registry)

/-- The record of a host needs no data field. -/
theorem dataField_hostRecord {m : Mapping} {className : String} {p : Place} {d : Record}
    (h : hostRecord r m className p = .ok d) : d.dataField? = none := by
  obtain ⟨initial, -, hd⟩ := bind_eq_ok.1 h
  cases hd
  rfl

/-- The record of a new instance needs a data field of the instance's name. -/
theorem dataField_newRecord {m : Mapping} {className name : String} {p : Place} {d : Record}
    (h : newRecord m className name p = .ok d) : d.dataField? = some name := by
  obtain ⟨constructed, -, hrest⟩ := bind_eq_ok.1 h
  obtain ⟨initial, -, hd⟩ := bind_eq_ok.1 hrest
  cases hd
  rfl

theorem ledger_addMenu {p : Place} {d : Record} {u u' : State} (h : addMenu r p d u = .ok u') :
    u'.ledger = ⟨u.namer, .begin, u.ledger.names ++ d.dataField?.toList⟩ := by
  obtain ⟨lines, -, hu⟩ := bind_eq_ok.1 h
  cases hu
  rw [ledger_addRecord]
  cases r.runtimeClass? r.menu.menuItemKind <;>
    simp [State.ledger, Record.dataField?]

/-- Entering a place without a fault, the script's ledger goes where the ledger goes. -/
theorem ledger_enter {p : Place} {u u' : State} (h : enter r p u = .ok u') :
    Ledger.enter r p u.ledger = .ok u'.ledger := by
  obtain ⟨m, hm, h⟩ := bind_eq_ok.1 h
  unfold Ledger.enter Ledger.record
  rw [hm, ok_bind, ledger_skip, ledger_namer]
  simp only [addImport_skip, addImport_namer] at h
  split_ifs at h ⊢ with hi hs hh hk
  · cases h
    rfl
  · cases h
    simp [State.ledger]
  · obtain ⟨d, hd, h⟩ := bind_eq_ok.1 h
    cases h
    rw [ledger_addRecord, dataField_hostRecord r hd]
    simp [State.ledger]
  all_goals
    obtain ⟨⟨name, namer⟩, hn, h⟩ := bind_eq_ok.1 h
    obtain ⟨d, hd, h⟩ := bind_eq_ok.1 h
    rw [hn, ok_bind]
  · rw [ledger_addMenu r h, dataField_newRecord hd]
    simp [State.ledger]
  · cases h
    rw [ledger_addRecord, dataField_newRecord hd]
    simp [State.ledger]

end Script

/-! ### Both walks -/

/-- The places that a script's walk has come to are mapped. -/
theorem Script.mapped_of_run {r : Registry} {p : Place} {before : List Event} {u u' : Script.State}
    (h : (Script.visitor r).run before u = .ok u') (hbefore : before <+: p.tour) {e : Event}
    (he : e ∈ before) : ∃ m, r.mapping? e.place.kind = some m := by
  have henter : .enter e.place ∈ before := by
    cases e with
    | enter q => exact he
    | leave q => exact p.entersFirst_tour before hbefore q he
  obtain ⟨w, w', hw⟩ := (Script.visitor r).step_ok_of_run h henter
  obtain ⟨m, hm, -⟩ := bind_eq_ok.1 hw
  exact ⟨m, Registry.require_eq_ok.1 hm⟩

/-- Taken through mapped events, the template's ledger is the run of the ledger. -/
theorem Template.map_ledger_run {r : Registry} {events : List Event}
    (hm : ∀ e ∈ events, ∃ m, r.mapping? e.place.kind = some m) (s : Template.State) :
    ((Template.visitor r).run events s).map Template.State.ledger =
      (Ledger.visitor r).run events s.ledger := by
  refine (Template.visitor r).run_map (Ledger.visitor r) Template.State.ledger (fun e he s => ?_) s
  cases e with
  | enter p => exact Template.map_ledger_enter r p s
  | leave p =>
    obtain ⟨m, hm⟩ := hm _ he
    exact Template.map_ledger_leave r hm s

/-- A run that writes a template without a fault takes its ledger through the same events. -/
theorem Template.ledger_run {r : Registry} {events : List Event} {s s' : Template.State}
    (h : (Template.visitor r).run events s = .ok s') :
    (Ledger.visitor r).run events s.ledger = .ok s'.ledger := by
  refine (Template.visitor r).run_image (Ledger.visitor r) Template.State.ledger
    (fun e _ w w' hw => ?_) h
  cases e with
  | enter q =>
    have hmap := Template.map_ledger_enter r q w
    rw [show Template.enter r q w = .ok w' from hw] at hmap
    exact hmap.symm
  | leave q =>
    obtain ⟨m, hm, -⟩ := bind_eq_ok.1 hw
    have hmap := Template.map_ledger_leave r (Registry.require_eq_ok.1 hm) w
    rw [show Template.leave r q w = .ok w' from hw] at hmap
    exact hmap.symm

theorem Template.ledger_walk {r : Registry} {p : Place} {s s' : Template.State}
    (h : (Template.visitor r).walk p s = .ok s') :
    (Ledger.visitor r).walk p s.ledger = .ok s'.ledger := by
  rw [Visitor.walk_eq_run] at h ⊢
  exact Template.ledger_run h

theorem Script.ledger_run {r : Registry} {events : List Event} {u u' : Script.State}
    (h : (Script.visitor r).run events u = .ok u') :
    (Ledger.visitor r).run events u.ledger = .ok u'.ledger := by
  refine (Script.visitor r).run_image (Ledger.visitor r) Script.State.ledger
    (fun e _ w w' hw => ?_) h
  cases e with
  | enter p => exact Script.ledger_enter r hw
  | leave p =>
    cases hw
    rfl

/-- As far as a script's walk comes without a fault, the template's walk comes too, and both ledgers
are equal there. -/
theorem exists_run_ledger_eq {r : Registry} {t : Tree} {before after : List Event}
    (htour : t.rootPlace.tour = before ++ after) {u : Script.State}
    (h : (Script.visitor r).run before {} = .ok u) :
    ∃ s, (Template.visitor r).run before {} = .ok s ∧ s.ledger = u.ledger := by
  have hmapped : ∀ e ∈ before, ∃ m, r.mapping? e.place.kind = some m := fun e he =>
    Script.mapped_of_run h ⟨after, htour.symm⟩ he
  have hmap := Template.map_ledger_run hmapped {}
  have hledger : (Ledger.visitor r).run before {} = .ok u.ledger := Script.ledger_run h
  change _ = (Ledger.visitor r).run before {} at hmap
  rw [hledger] at hmap
  cases hs : (Template.visitor r).run before {} with
  | error fault => simp [hs, Except.map] at hmap
  | ok s => exact ⟨s, rfl, by simpa [hs, Except.map] using hmap⟩

/-- Wherever the script of a tree comes about, its template does too and binds exactly the script's
data fields, in order. Whether it does or not, after every event that the script's walk gets through
the template's walk has come as far, and their menu flags, namers and names are equal. -/
theorem template_agrees_with_script (r : Registry) (t : Tree) :
    (∀ script, Script.ofTree r t = .ok script →
      ∃ marks, Template.marks r t = .ok marks ∧ Template.body r t = .ok (Template.render marks) ∧
        Template.boundNames marks = script.parts.dataFields ∧
        ∀ before after, t.rootPlace.tour = before ++ after →
          ∃ u, (Script.visitor r).run before {} = .ok u) ∧
    ∀ before after u, t.rootPlace.tour = before ++ after →
      (Script.visitor r).run before {} = .ok u →
      ∃ s, (Template.visitor r).run before {} = .ok s ∧ s.skip = u.skip ∧ s.namer = u.namer ∧
        Template.boundNames s.marks = u.records.filterMap Script.Record.dataField? := by
  constructor
  · intro script h
    obtain ⟨u, hu, hscript⟩ := bind_eq_ok.1 h
    cases hscript
    rw [Visitor.walk_eq_run] at hu
    obtain ⟨s, hs, hsu⟩ := exists_run_ledger_eq (List.append_nil _).symm hu
    have hmarks : Template.marks r t = .ok s.marks := by
      unfold Template.marks
      rw [Visitor.walk_eq_run, hs]
      rfl
    refine ⟨s.marks, hmarks, ?_, congrArg Ledger.names hsu, fun before after htour => ?_⟩
    · unfold Template.body
      rw [hmarks]
      rfl
    · exact (Script.visitor r).run_ok_of_append (htour ▸ hu)
  · intro before after u htour hu
    obtain ⟨s, hs, hsu⟩ := exists_run_ledger_eq htour hu
    exact ⟨s, hs, congrArg Ledger.skip hsu, congrArg Ledger.namer hsu, congrArg Ledger.names hsu⟩

/-- A hosted menu holding a button and a window: the flag is down at the button and up behind it. -/
def hostedMenu : Tree where
  root := ⟨"Menu", .empty,
    [⟨"Button", .ofList [("type", "Push"), ("title", "Go"), ("instance", "go_button")], []⟩,
     ⟨"Window", .empty, [⟨"Button", .empty, []⟩]⟩]⟩
  hosted := true

theorem hostedMenu_agrees :
    ∃ script marks, Script.ofTree .builtin hostedMenu = .ok script ∧
      Template.marks .builtin hostedMenu = .ok marks ∧
      Template.boundNames marks = script.parts.dataFields ∧
      script.parts.dataFields = ["goButton"] := by
  have h : Script.ofTree .builtin hostedMenu =
      .ok ⟨["Menu", "Button", "ApplicationWindow"],
        [⟨"instance", "Menu", none, [], []⟩,
         ⟨"goButton", "Button", some [.constant "Button.ButtonType" "Push", .text "Go"], [], []⟩],
        "@hardboiled65/vuetk"⟩ := by rfl
  obtain ⟨marks, hmarks, -, hnames, -⟩ :=
    (template_agrees_with_script .builtin hostedMenu).1 _ h
  exact ⟨_, marks, h, hmarks, hnames, rfl⟩

end Widgetry
