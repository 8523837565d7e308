import Widgetry.Proofs.ScriptText

/-! Texts that are never missing. For a script the class of an instance, the namespace of a constant
and the namespace of a submenu are looked up, and the empty text is taken where there is none. With
a checked registry none of them is missing: whatever stands in for the empty text, be it a fault,
the script is the same. With a checked tree, moreover, every instance is bound inside an opened tag,
and no pass fails for an unmapped kind or for the shape of the tree. -/

namespace Widgetry

open Structure

/-! ### Missing texts -/

/-- A text, or what stands in for it where it is missing. -/
def textOr (standIn : Except Fault String) : Option String → Except Fault String
  | some text => .ok text
  | none => standIn

namespace Menu

variable (standIn : Except Fault String) (r : Registry)

/-- The declaration of the object behind a place, for any text in place of a missing namespace. -/
def declarationWith (indent : Nat) (p : Place) : Except Fault Line :=
  match r.runtimeClass? p.kind with
  | none => .error (p.fault .noMenuClass)
  | some className =>
    match p.attribute? r.menu.titleAttribute with
    | none => .error (p.fault (.missingTitle r.menu.titleAttribute))
    | some title =>
      if p.kind = r.menu.menuKind then do
        let space ← textOr standIn r.submenuNamespace?
        return .letSubmenu indent className space r.menu.submenuConstant title
      else if p.kind = r.menu.menuItemKind then .ok (.letItem indent className title)
      else .error (p.fault (.notMenuKind p.kind))

def visitorWith (root : Place) (rootName : String) : Visitor Fault State where
  enter p s :=
    if p.index = root.index then .ok s
    else do
      let line ← declarationWith standIn r (s.indent + 2) p
      return { s.write [.openBlock s.indent, line] with indent := s.indent + 2 }
  leave := (visitor r root rootName).leave

def linesWith (root : Place) (rootName : String) : Except Fault (List Line) := do
  return (← (visitorWith standIn r root rootName).walk root {}).lines

end Menu

namespace Script

variable (standIn : Except Fault String) (r : Registry)

/-- The expression of one argument, for any text in place of a missing namespace. -/
def argumentWith (m : Mapping) (role : Role) (p : Place) (a : ArgumentSpec) :
    Except Fault (Option Argument) :=
  match p.attribute? a.key with
  | none => if a.optional then .ok none else .error (p.fault (.missing p.kind a.key role))
  | some value =>
    match a.kind with
    | .string => .ok (some (.text value))
    | .constant =>
      if Text.isIdentifier value then do
        return some (.constant (← textOr standIn (m.namespace? a.key)) value)
      else .error (p.fault (.notConstant a.key value))

def argumentsWith (m : Mapping) (role : Role) (p : Place) :
    List ArgumentSpec → Except Fault (List (String × Argument))
  | [] => .ok []
  | a :: as => do
    let value ← argumentWith standIn m role p a
    let rest ← argumentsWith m role p as
    return (value.map fun v => (a.key, v)).toList ++ rest

def hostRecordWith (m : Mapping) (className : String) (p : Place) : Except Fault Record := do
  return ⟨r.ambientInstance, className, none, ← argumentsWith standIn m .initial p m.postInit, []⟩

def newRecordWith (m : Mapping) (className name : String) (p : Place) : Except Fault Record := do
  let constructed ← argumentsWith standIn m .constructor p m.constructorArgs
  return ⟨name, className, some (constructed.map Prod.snd),
    ← argumentsWith standIn m .initial p m.postInit, []⟩

def addMenuWith (p : Place) (d : Record) (s : State) : Except Fault State := do
  let s :=
    match r.runtimeClass? r.menu.menuItemKind with
    | some itemClass => s.addImport itemClass
    | none => s
  let menu ← Menu.linesWith standIn r p d.name
  return { s with skip := .begin }.addRecord { d with menu }

/-- Entering a place, for any text in place of a missing class or namespace. -/
def enterWith (p : Place) (s : State) : Except Fault State := do
  let m ← r.require p
  if !m.requiresInstance then return s
  let className ← textOr standIn m.runtimeClass
  let s := s.addImport className
  if s.skip.active then return { s with skip := s.skip.enter r p }
  if p.hosted then return s.addRecord (← hostRecordWith standIn r m className p)
  let (name, namer) ← s.namer.name p
  let d ← newRecordWith standIn m className name p
  let s := { s with namer }
  if p.kind = r.menu.menuKind then addMenuWith standIn r p d s else return s.addRecord d

def visitorWith : Visitor Fault State := ⟨enterWith standIn r, leave r⟩

/-- The script of a tree, for any text in place of a missing class or namespace. -/
def ofTreeWith (t : Tree) : Except Fault Script := do
  let s ← (visitorWith standIn r).walk t.rootPlace {}
  return ⟨s.imports, s.records, r.runtimePackage⟩

end Script

/-- No class and no namespace that a script asks for is missing. -/
structure Registry.Complete (r : Registry) : Prop where
  className : ∀ {kind m}, r.mapping? kind = some m → m.requiresInstance → m.runtimeClass.isSome
  space : ∀ {kind m}, r.mapping? kind = some m → ∀ a ∈ m.constructorArgs ++ m.postInit,
    a.kind = .constant → (m.namespace? a.key).isSome
  submenu : r.submenuNamespace?.isSome

theorem Registry.complete_of_check {r : Registry} (h : r.check = .ok ()) : r.Complete where
  className := (consistent_of_check h).classOf
  space := fun hm _ ha hkind => isSome_namespace h hm ha hkind
  submenu := (consistent_of_check h).submenu

/-! ### Scripts without stand-ins

In each of these the text that stands in is the empty one, as scripts have it, or is not asked
for. -/

variable {standIn : Except Fault String} {r : Registry}

theorem textOr_eq {text : Option String} (h : standIn = .ok "" ∨ text.isSome) :
    textOr standIn text = .ok (text.getD "") := by
  cases text with
  | some text => rfl
  | none => exact h.resolve_right Bool.false_ne_true

namespace Menu

theorem declarationWith_eq (h : standIn = .ok "" ∨ r.Complete) (indent : Nat) (p : Place) :
    declarationWith standIn r indent p = declaration r indent p := by
  unfold declarationWith declaration
  rw [textOr_eq (h.imp_right (·.submenu))]
  rfl

theorem linesWith_eq (h : standIn = .ok "" ∨ r.Complete) (root : Place) (rootName : String) :
    linesWith standIn r root rootName = lines r root rootName := by
  have hvisitor : visitorWith standIn r root rootName = visitor r root rootName := by
    simp only [visitorWith, visitor, declarationWith_eq h]
  rw [linesWith, hvisitor, lines]

end Menu

namespace Script

theorem argumentWith_eq {m : Mapping} {a : ArgumentSpec}
    (h : standIn = .ok "" ∨ (a.kind = .constant → (m.namespace? a.key).isSome)) (role : Role)
    (p : Place) : argumentWith standIn m role p a = argument m role p a := by
  unfold argumentWith argument
  cases p.attribute? a.key with
  | none => rfl
  | some value =>
    cases hkind : a.kind with
    | string => rfl
    | constant =>
      rw [textOr_eq (h.imp_right (· hkind))]
      rfl

theorem argumentsWith_eq {m : Mapping} {as : List ArgumentSpec}
    (h : standIn = .ok "" ∨ ∀ a ∈ as, a.kind = .constant → (m.namespace? a.key).isSome)
    (role : Role) (p : Place) : argumentsWith standIn m role p as = arguments m role p as := by
  induction as with
  | nil => rfl
  | cons a as ih =>
    rw [argumentsWith, arguments, argumentWith_eq (h.imp_right (· a List.mem_cons_self)),
      ih (h.imp_right fun hall b hb => hall b (List.mem_cons_of_mem a hb))]

/-- The records at a place ask for the namespaces of its mapping. -/
theorem recordsWith_eq {m : Mapping} (h : standIn = .ok "" ∨
      ∀ a ∈ m.constructorArgs ++ m.postInit, a.kind = .constant → (m.namespace? a.key).isSome)
    (className : String) (p : Place) :
    hostRecordWith standIn r m className p = hostRecord r m className p ∧
      ∀ name, newRecordWith standIn m className name p = newRecord m className name p := by
  have hconstructor := argumentsWith_eq
    (h.imp_right fun hall a ha => hall a (List.mem_append_left m.postInit ha)) .constructor p
  have hinitial := argumentsWith_eq
    (h.imp_right fun hall a ha => hall a (List.mem_append_right m.constructorArgs ha)) .initial p
  constructor
  · rw [hostRecordWith, hinitial, hostRecord]
  · intro name
    rw [newRecordWith, hconstructor, hinitial, newRecord]

theorem addMenuWith_eq (h : standIn = .ok "" ∨ r.Complete) (p : Place) (d : Record) (s : State) :
    addMenuWith standIn r p d s = addMenu r p d s := by
  have hlines := Menu.linesWith_eq h p d.name
  cases hitem : r.runtimeClass? r.menu.menuItemKind with
  | none => simp only [addMenuWith, addMenu, hitem, hlines]
  | some itemClass => simp only [addMenuWith, addMenu, hitem, hlines]

theorem enterWith_eq (h : standIn = .ok "" ∨ r.Complete) (p : Place) (s : State) :
    enterWith standIn r p s = enter r p s := by
  unfold enterWith enter
  cases hm : r.require p with
  | error fault => rfl
  | ok m =>
    rw [Registry.require_eq_ok] at hm
    cases hi : m.requiresInstance with
    | false => simp [hi]
    | true =>
      have hclass := textOr_eq (h.imp_right (·.className hm hi))
      have hrecords :=
        recordsWith_eq (r := r) (h.imp_right (·.space hm)) (m.runtimeClass.getD "") p
      simp only [ok_bind, hi, hclass, hrecords.1, hrecords.2, addMenuWith_eq h]

theorem ofTreeWith_eq (h : standIn = .ok "" ∨ r.Complete) (t : Tree) :
    ofTreeWith standIn r t = ofTree r t := by
  have hvisitor : visitorWith standIn r = visitor r := by
    unfold visitorWith visitor
    congr 1
    funext p s
    exact enterWith_eq h p s
  rw [ofTreeWith, hvisitor, ofTree]

end Script

/-! ### Codes of faults -/

/-- If there is a fault, its code is one of these. -/
def FailsOnly {α : Type} (codes : List Code) (x : Except Fault α) : Prop :=
  ∀ f, x = .error f → f.cause.code ∈ codes

namespace FailsOnly

variable {α β σ : Type} {codes : List Code}

theorem ok (a : α) : FailsOnly codes (.ok a) := by
  intro f h
  cases h

theorem mono {fewer : List Code} (hcodes : fewer ⊆ codes) {x : Except Fault α}
    (h : FailsOnly fewer x) : FailsOnly codes x :=
  fun f hf => hcodes (h f hf)

theorem bind {x : Except Fault α} {g : α → Except Fault β} (hx : FailsOnly codes x)
    (hg : ∀ a, FailsOnly codes (g a)) : FailsOnly codes (x >>= g) := by
  cases x with
  | error fault =>
    intro f hf
    cases hf
    exact hx fault rfl
  | ok a => exact hg a

theorem ite {c : Prop} [Decidable c] {x y : Except Fault α} (hx : c → FailsOnly codes x)
    (hy : FailsOnly codes y) : FailsOnly codes (if c then x else y) := by
  split_ifs with hc
  · exact hx hc
  · exact hy

theorem run {v : Visitor Fault σ} {events : List Event}
    (hstep : ∀ e ∈ events, ∀ s, FailsOnly codes (v.step e s)) (s : σ) :
    FailsOnly codes (v.run events s) := by
  induction events generalizing s with
  | nil => exact ok s
  | cons e events ih =>
    rw [List.forall_mem_cons] at hstep
    rw [Visitor.run_cons]
    exact (hstep.1 s).bind (ih hstep.2)

/-- A walk fails as its visitor fails at one of the places. -/
theorem walk {v : Visitor Fault σ} {p : Place}
    (henter : ∀ q ∈ p.places, ∀ s, FailsOnly codes (v.enter q s))
    (hleave : ∀ q ∈ p.places, ∀ s, FailsOnly codes (v.leave q s)) (s : σ) :
    FailsOnly codes (v.walk p s) := by
  rw [Visitor.walk_eq_run]
  refine run (fun e he => ?_) s
  have hplace := Place.mem_tour_iff.1 he
  cases e with
  | enter q => exact henter q hplace
  | leave q => exact hleave q hplace

theorem name (namer : Namer) (p : Place) : FailsOnly [.invalidInstance] (namer.name p) := by
  intro f hf
  simp only [Namer.name] at hf
  split_ifs at hf
  · cases hf
    exact List.mem_singleton.2 rfl
  · cases hf
    exact List.mem_singleton.2 rfl

end FailsOnly

/-- A menu of an accepted tree fails only for want of a title. -/
theorem Menu.failsOnly_lines (hr : r.Consistent) {p : Place} (h : Accepted r p)
    (hk : p.kind = r.menu.menuKind) (name : String) :
    FailsOnly [.missingAttribute] (lines r p name) := by
  intro f hf
  have hfault := fault?_lines hr h hk name
  rw [hf, fault?_error, eq_comm, List.findSome?_eq_some_iff] at hfault
  obtain ⟨-, q, -, -, hq, -⟩ := hfault
  unfold titleFault? at hq
  split_ifs at hq
  cases hq
  exact List.mem_singleton.2 rfl

namespace Script

/-- What a script of an accepted tree may fail for: names, and attributes that cannot be read. -/
def codes : List Code := [.invalidInstance, .missingAttribute, .invalidConstant]

theorem failsOnly_arguments (m : Mapping) (role : Role) (p : Place) (as : List ArgumentSpec) :
    FailsOnly codes (arguments m role p as) := by
  intro f hf
  have hfault := fault?_arguments m role p as
  rw [hf, fault?_error, eq_comm, Option.map_eq_some_iff] at hfault
  obtain ⟨cause, hcause, rfl⟩ := hfault
  obtain ⟨-, a, -, -, ha, -⟩ := List.findSome?_eq_some_iff.1 hcause
  unfold argumentCause? at ha
  split at ha
  · split_ifs at ha
    cases ha
    simp [codes, Place.fault, Cause.code]
  · split_ifs at ha
    cases ha
    simp [codes, Place.fault, Cause.code]

theorem failsOnly_hostRecord (m : Mapping) (className : String) (p : Place) :
    FailsOnly codes (hostRecord r m className p) :=
  (failsOnly_arguments m .initial p m.postInit).bind fun _ => .ok _

theorem failsOnly_newRecord (m : Mapping) (className name : String) (p : Place) :
    FailsOnly codes (newRecord m className name p) :=
  (failsOnly_arguments m .constructor p m.constructorArgs).bind fun _ =>
    (failsOnly_arguments m .initial p m.postInit).bind fun _ => .ok _

theorem failsOnly_enter (hr : r.Consistent) {p : Place} (h : Accepted r p) (s : State) :
    FailsOnly codes (enter r p s) := by
  obtain ⟨m, hm, -⟩ := h.here
  have hname : ∀ namer : Namer, FailsOnly codes (namer.name p) := fun namer =>
    (FailsOnly.name namer p).mono (by simp [codes])
  have hmenu : ∀ d u, p.kind = r.menu.menuKind → FailsOnly codes (addMenu r p d u) := by
    intro d u hk
    exact ((Menu.failsOnly_lines hr h hk d.name).mono (by simp [codes])).bind fun _ => .ok _
  rw [enter, Registry.require_eq_ok.2 hm, ok_bind]
  refine .ite (fun _ => .ok _) (.ite (fun _ => .ok _) (.ite (fun _ => ?_) ?_))
  · exact (failsOnly_hostRecord m _ p).bind fun _ => .ok _
  · exact (hname _).bind fun _ => (failsOnly_newRecord m _ _ p).bind fun d =>
      .ite (hmenu d _) (.ok _)

theorem failsOnly_ofTree (hr : r.Consistent) {t : Tree} (h : Accepted r t.rootPlace) :
    FailsOnly codes (ofTree r t) :=
  (FailsOnly.walk (fun _ hq => failsOnly_enter hr (h.of_mem hq)) (fun _ _ _ => .ok _) _).bind
    fun _ => .ok _

end Script

namespace Template

theorem failsOnly_enter {p : Place} (h : Sound r p) (s : State) :
    FailsOnly [.invalidInstance] (enter r p s) := by
  obtain ⟨m, hm, -⟩ := h
  have hbind : ∀ s, FailsOnly [.invalidInstance] (bindInstance r m p s) := by
    intro s
    exact .ite (fun _ => .ok _) (.ite (fun _ => .ok _) (.ite (fun _ => .ok _)
      ((FailsOnly.name s.namer p).bind fun _ => .ok _)))
  rw [enter, Registry.require_eq_ok.2 hm, ok_bind]
  exact (hbind _).bind fun _ => .ok _

theorem failsOnly_leave {p : Place} (h : Sound r p) (s : State) :
    FailsOnly [.invalidInstance] (leave r p s) := by
  obtain ⟨m, hm, -⟩ := h
  rw [leave, Registry.require_eq_ok.2 hm, ok_bind]
  exact .ok _

theorem failsOnly_template {t : Tree} (h : Accepted r t.rootPlace) (withBanner : Bool) :
    FailsOnly [.invalidInstance] (template r t withBanner) := by
  have hwalk : FailsOnly [.invalidInstance] ((visitor r).walk t.rootPlace {}) :=
    .walk (fun q hq => failsOnly_enter (h.sound q hq))
      (fun q hq => failsOnly_leave (h.sound q hq)) _
  have hmarks : FailsOnly [.invalidInstance] (marks r t) := hwalk.bind fun _ => .ok _
  have hbody : FailsOnly [.invalidInstance] (body r t) := hmarks.bind fun _ => .ok _
  exact hbody.bind fun _ => .ok _

/-! ### Opening tags -/

/-- Whether an opening tag is still open behind a mark. Attributes and the end of the tag belong
inside one and everything else outside; a mark elsewhere has no result. -/
def Mark.tagOpen : Mark → Bool → Option Bool
  | openTag .., false => some true
  | bindInstance .., true => some true
  | prop .., true => some true
  | bindClass .., true => some true
  | endOpenTag, true => some false
  | openSlot .., false => some false
  | closeTag .., false => some false
  | closeSlot _, false => some false
  | _, _ => none

/-- Whether an opening tag is still open behind marks that start outside of tags. -/
def tagOpen (marks : List Mark) : Option Bool :=
  marks.foldlM (fun inside mark => mark.tagOpen inside) false

theorem tagOpen_append {first : List Mark} {inside : Bool} (h : tagOpen first = some inside)
    (rest : List Mark) :
    tagOpen (first ++ rest) = rest.foldlM (fun inside mark => mark.tagOpen inside) inside := by
  unfold tagOpen at h ⊢
  rw [List.foldlM_append, h]
  rfl

/-- A binding that belongs where it is stands inside an opening tag. -/
theorem tagOpen_of_binding {marks first rest : List Mark} {indent : Nat} {name : String}
    {inside : Bool} (h : tagOpen marks = some inside)
    (hmarks : marks = first ++ .bindInstance indent name :: rest) : tagOpen first = some true := by
  subst hmarks
  cases hfirst : tagOpen first with
  | none =>
    unfold tagOpen at h hfirst
    rw [List.foldlM_append, hfirst] at h
    cases h
  | some within =>
    cases within with
    | true => rfl
    | false =>
      rw [tagOpen_append hfirst] at h
      cases h

theorem tagOpen_attributes {marks : List Mark} (h : tagOpen marks = some true) (m : Mapping)
    (p : Place) (indent : Nat) : tagOpen (marks ++ attributeMarks m p indent) = some true := by
  have hattribute : ∀ mark ∈ attributeMarks m p indent, mark.tagOpen true = some true := by
    intro mark hmark
    rcases List.mem_append.1 hmark with hmark | hmark
    · obtain ⟨key, -, hkey⟩ := List.mem_filterMap.1 hmark
      obtain ⟨value, -, rfl⟩ := Option.map_eq_some_iff.1 hkey
      rfl
    · cases hhost : m.hostSubstitution with
      | none => simp [hhost] at hmark
      | some host =>
        rw [hhost] at hmark
        simp only [List.mem_ite_nil_right, List.mem_singleton] at hmark
        rw [hmark.2]
        rfl
  rw [tagOpen_append h]
  generalize attributeMarks m p indent = marks at hattribute
  induction marks with
  | nil => rfl
  | cons mark marks ih =>
    rw [List.forall_mem_cons] at hattribute
    rw [List.foldlM_cons, hattribute.1]
    exact ih hattribute.2

section Steps

variable {m : Mapping} {p : Place} {s s' : State}

theorem tagOpen_openSlot (hs : tagOpen s.marks = some false) :
    tagOpen (openSlot m p s).marks = some false := by
  unfold openSlot
  split
  · split_ifs
    · exact hs
    · exact tagOpen_append hs _
  · exact hs

theorem tagOpen_openTag (hs : tagOpen s.marks = some false) (tag : Option String) :
    tagOpen (openTag tag s).marks = some tag.isSome := by
  cases tag with
  | none => exact hs
  | some tag => exact tagOpen_append hs _

/-- A binding is written at most for an instance that is neither skipped nor hosted. -/
theorem marks_bindInstance (h : bindInstance r m p s = .ok s') :
    s'.marks = s.marks ∨ m.requiresInstance ∧ s.skip.active = false ∧ p.hosted = false ∧
      ∃ name, s'.marks = s.marks ++ [.bindInstance s.indent name] := by
  cases hinstance : m.requiresInstance with
  | false =>
    obtain rfl : s = s' := by simpa [bindInstance, hinstance] using h
    exact .inl rfl
  | true =>
    cases hskip : s.skip.active with
    | true =>
      simp only [bindInstance, hinstance, hskip, Bool.not_true, Bool.false_eq_true, if_false,
        if_true] at h
      cases h
      exact .inl rfl
    | false =>
      cases hhost : p.hosted with
      | true =>
        obtain rfl : s = s' := by simpa [bindInstance, hinstance, hskip, hhost] using h
        exact .inl rfl
      | false =>
        simp only [bindInstance, hinstance, hskip, hhost, Bool.not_true, Bool.false_eq_true,
          if_false] at h
        obtain ⟨⟨name, namer⟩, -, h⟩ := bind_eq_ok.1 h
        cases h
        exact .inr ⟨rfl, rfl, rfl, name, rfl⟩

/-- An instance has a component, so that its binding stands in the tag of the component. -/
theorem tagOpen_enter (hr : r.Consistent) (hs : tagOpen s.marks = some false)
    (h : enter r p s = .ok s') : tagOpen s'.marks = some false := by
  obtain ⟨m, hm, h⟩ := bind_eq_ok.1 h
  rw [Registry.require_eq_ok] at hm
  obtain ⟨u, hu, h⟩ := bind_eq_ok.1 h
  set tag := if s.skip.active then none else m.openedTag p.hosted with htag
  have hopen := tagOpen_openTag (tagOpen_openSlot (m := m) (p := p) hs) tag
  have hbound : tagOpen u.marks = some tag.isSome := by
    rcases marks_bindInstance hu with hmarks | ⟨hinstance, hskip, hhost, name, hmarks⟩
    · rw [hmarks, hopen]
    · rw [openTag_skip, openSlot_skip] at hskip
      have hsome : tag.isSome = true := by
        rw [htag, hskip, hhost]
        exact hr.component hm hinstance
      rw [hsome] at hopen
      rw [hmarks, hsome]
      exact tagOpen_append hopen _
  cases htagged : tag with
  | none =>
    rw [htagged] at h hbound
    cases h
    exact hbound
  | some name =>
    rw [htagged] at h hbound
    cases h
    have hattributes := tagOpen_attributes hbound m p u.indent
    change tagOpen (u.marks ++ (attributeMarks m p u.indent ++ [.endOpenTag])) = some false
    rw [← List.append_assoc]
    exact tagOpen_append hattributes _

theorem tagOpen_leave (hs : tagOpen s.marks = some false) (h : leave r p s = .ok s') :
    tagOpen s'.marks = some false := by
  obtain ⟨m, -, h⟩ := bind_eq_ok.1 h
  have hclose : tagOpen (closeTag (m.openedTag p.hosted)
      { s with skip := MenuSkip.leave r p }).marks = some false := by
    unfold closeTag
    split
    · exact tagOpen_append hs _
    · exact hs
  cases h
  split_ifs
  · exact hs
  · unfold closeSlot
    split_ifs
    · exact tagOpen_append hclose _
    · exact hclose

end Steps

/-- At any time of a walk all opening tags have come to their end. -/
theorem tagOpen_run (hr : r.Consistent) {events : List Event} {s : State}
    (h : (visitor r).run events {} = .ok s) : tagOpen s.marks = some false := by
  refine (visitor r).run_invariant (P := fun s => tagOpen s.marks = some false) ?_ rfl h
  intro e u u' hu hstep
  cases e with
  | enter p => exact tagOpen_enter hr hu hstep
  | leave p => exact tagOpen_leave hu hstep

end Template

/-! ### Checked registries and trees -/

/-- With a checked registry and a checked tree nothing stands in for a missing text, whether the
script is made or not. At any time of the template's walk every binding is inside an opening tag.
The passes fail only for names and for attributes that cannot be read, menus only for titles. -/
theorem nothing_missing_of_check {r : Registry} {t : Tree} (hr : r.check = .ok ())
    (ht : Structure.check r t = .ok ()) :
    (∀ other u, Script.ofTreeWith (.ok "") other u = Script.ofTree other u) ∧
    (∀ standIn, Script.ofTreeWith standIn r t = Script.ofTree r t) ∧
    r.Complete ∧
    (∀ events s, events <+: t.rootPlace.tour → (Template.visitor r).run events {} = .ok s →
      ∀ first indent name rest, s.marks = first ++ .bindInstance indent name :: rest →
        Template.tagOpen first = some true) ∧
    (∀ withBanner, FailsOnly [.invalidInstance] (Template.template r t withBanner)) ∧
    FailsOnly [.invalidInstance, .missingAttribute, .invalidConstant] (Script.ofTree r t) ∧
    ∀ p ∈ t.places, p.kind = r.menu.menuKind → ∀ name,
      FailsOnly [.missingAttribute] (Menu.lines r p name) := by
  have hconsistent := Registry.consistent_of_check hr
  have hcomplete := Registry.complete_of_check hr
  have haccepted := accepted_of_check ht
  refine ⟨fun _ u => Script.ofTreeWith_eq (.inl rfl) u,
    fun _ => Script.ofTreeWith_eq (.inr hcomplete) t, hcomplete, ?_,
    Template.failsOnly_template haccepted, Script.failsOnly_ofTree hconsistent haccepted, ?_⟩
  · intro events s _ hrun first indent name rest hmarks
    exact Template.tagOpen_of_binding (Template.tagOpen_run hconsistent hrun) hmarks
  · intro p hp hk name
    exact Menu.failsOnly_lines hconsistent (haccepted.of_mem hp) hk name

/-- A window with a menu in a menu, in which the innermost item has no title. -/
def untitledWindow : Tree where
  root := ⟨"Window", .ofList [("type", "Main")],
    [⟨"Menu", .ofList [("type", "Popup")],
      [⟨"MenuItem", .ofList [("title", "Recent")],
        [⟨"Menu", .ofList [("title", "Recent")], [⟨"MenuItem", .empty, []⟩]⟩]⟩]⟩]⟩
  hosted := false

/-- The script fails for the title, behind classes and namespaces that are all there. -/
theorem untitledWindow_nothing_missing :
    Registry.builtin.check = .ok () ∧ Structure.check .builtin untitledWindow = .ok () ∧
      ∀ standIn, Script.ofTreeWith standIn .builtin untitledWindow = .error
        ⟨.missingTitle "title", some ["Window", "Menu", "MenuItem", "Menu", "MenuItem"]⟩ := by
  have ht : Structure.check .builtin untitledWindow = .ok () := by
    decide +kernel
  refine ⟨Registry.check_builtin, ht, fun standIn => ?_⟩
  rw [(nothing_missing_of_check Registry.check_builtin ht).2.1]
  decide +kernel

/-- Where the class of a button is missing, what stands in for it is seen. -/
example :
    let r : Registry := { Registry.builtin with
      elements := .ofList [("Button", { Registry.buttonMapping with runtimeClass := none })] }
    let t : Tree := ⟨⟨"Button", .ofList [("type", "Push"), ("title", "Go")], []⟩, false⟩
    fault? (Script.ofTreeWith (.error (.of .noElement)) r t) = some (.of .noElement) ∧
      fault? (Script.ofTree r t) = none := by
  decide +kernel

end Widgetry
