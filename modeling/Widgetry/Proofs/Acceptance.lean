import Widgetry.Proofs.Walk
import Widgetry.Registry.Builtin
import Widgetry.Registry.Check
import Widgetry.MenuSkip
import Widgetry.Structure
import Mathlib.Tactic.SplitIfs

/-! What an accepted registry and an accepted tree guarantee. A consistent registry maps the menu
kinds as menus need them; an accepted tree is sound at each of its places, looking no further than
parent and children. From these local rules follows what is true of whole chains of ancestors: right
below a menu kind is the same as anywhere below a menu. -/

namespace Widgetry

/-- A place of a mapped kind is found in the registry. -/
theorem Registry.require_eq_ok {r : Registry} {p : Place} {m : Mapping} :
    r.require p = .ok m ↔ r.mapping? p.kind = some m := by
  unfold Registry.require
  cases r.mapping? p.kind <;> simp

/-! ### Registries -/

/-- An entry that is found is in the table. -/
theorem Table.mem_of_get? {β : Type} {t : Table β} {key : String} {value : β}
    (h : t.get? key = some value) : (key, value) ∈ t.entries := by
  unfold Table.get? at h
  rw [List.lookup_eq_some_iff] at h
  obtain ⟨first, rest, heq, -⟩ := h
  rw [heq]
  simp

namespace Registry

/-- What the check of a registry looks for. -/
structure Consistent (r : Registry) : Prop where
  classOf : ∀ {kind m}, r.mapping? kind = some m → m.requiresInstance → m.runtimeClass.isSome
  component : ∀ {kind m}, r.mapping? kind = some m → m.requiresInstance →
    m.emittedComponent.isSome
  menu : ∃ m, r.mapping? r.menu.menuKind = some m ∧ m.requiresInstance
  submenu : r.submenuNamespace?.isSome
  item : ∃ m, r.mapping? r.menu.menuItemKind = some m ∧ m.runtimeClass.isSome

variable {r : Registry}

/-- Menus and items have a class. -/
theorem Consistent.runtimeClass (h : r.Consistent) {kind : String} (hkind : r.isMenuKind kind) :
    (r.runtimeClass? kind).isSome := by
  simp only [isMenuKind, Bool.or_eq_true, beq_iff_eq] at hkind
  rcases hkind with rfl | rfl
  · obtain ⟨m, hm, hi⟩ := h.menu
    simpa [runtimeClass?, hm] using h.classOf hm hi
  · obtain ⟨m, hm, hclass⟩ := h.item
    simpa [runtimeClass?, hm] using hclass

theorem mappingFaults_eq_nil {kind : String} {m : Mapping} (h : mappingFaults kind m = [])
    (hi : m.requiresInstance) : m.runtimeClass.isSome ∧ m.emittedComponent.isSome := by
  simp only [mappingFaults, List.append_eq_nil_iff, hi, Bool.true_and] at h
  obtain ⟨⟨hclass, hcomponent⟩, -⟩ := h
  cases hc : m.runtimeClass <;> cases he : m.emittedComponent <;> simp_all

theorem menuFaults_eq_nil (h : r.menuFaults = []) :
    (∃ m, r.mapping? r.menu.menuKind = some m ∧ m.requiresInstance) ∧
      r.submenuNamespace?.isSome := by
  unfold menuFaults at h
  cases hm : r.mapping? r.menu.menuKind with
  | none => simp [hm] at h
  | some m =>
    simp only [hm, List.append_eq_nil_iff] at h
    obtain ⟨hinstance, hsubmenu⟩ := h
    exact ⟨⟨m, rfl, by simpa using hinstance⟩, by simpa [Option.isSome_iff_ne_none] using hsubmenu⟩

theorem menuItemFaults_eq_nil (h : r.menuItemFaults = []) :
    ∃ m, r.mapping? r.menu.menuItemKind = some m ∧ m.runtimeClass.isSome := by
  unfold menuItemFaults at h
  cases hm : r.mapping? r.menu.menuItemKind with
  | none => simp [hm] at h
  | some m => exact ⟨m, rfl, by simpa [hm, Option.isSome_iff_ne_none] using h⟩

theorem faults_eq_nil_of_check (h : r.check = .ok ()) : r.faults = [] := by
  unfold check at h
  cases hf : r.faults with
  | nil => rfl
  | cons fault faults => simp [hf] at h

theorem consistent_of_check (h : r.check = .ok ()) : r.Consistent := by
  have hfaults := faults_eq_nil_of_check h
  simp only [faults, List.append_eq_nil_iff, List.flatMap_eq_nil_iff] at hfaults
  obtain ⟨⟨⟨-, hentries⟩, hmenu⟩, hitem⟩ := hfaults
  have hmapping : ∀ {kind m}, r.mapping? kind = some m → mappingFaults kind m = [] :=
    fun hm => hentries _ (Table.mem_of_get? hm)
  obtain ⟨hm, hs⟩ := menuFaults_eq_nil hmenu
  exact ⟨fun hm hi => (mappingFaults_eq_nil (hmapping hm) hi).1,
    fun hm hi => (mappingFaults_eq_nil (hmapping hm) hi).2, hm, hs, menuItemFaults_eq_nil hitem⟩

theorem check_builtin : builtin.check = .ok () := by
  decide +kernel

end Registry

/-! ### Sound places -/

namespace Structure

variable (r : Registry)

/-- The kind of the place is mapped and nothing is wrong with the place. -/
def Sound (p : Place) : Prop := ∃ m, r.mapping? p.kind = some m ∧ cause? r p m = none

variable {r}

/-- The three ways in which a place may stand in its tree. -/
inductive Position (r : Registry) (p : Place) : Prop
  | item (kind : p.kind = r.menu.menuItemKind) (parent : p.parentKind? = some r.menu.menuKind)
      (children : p.node.children.length ≤ 1)
  | menu (kind : p.kind = r.menu.menuKind) (notItem : p.kind ≠ r.menu.menuItemKind)
      (parent : p.parentKind? ≠ some r.menu.menuKind)
  | other (kind : r.isMenuKind p.kind = false) (parent : MenuSkip.parentInMenu r p = false)

theorem Sound.position {p : Place} (h : Sound r p) : Position r p := by
  obtain ⟨m, -, hcause⟩ := h
  simp only [cause?] at hcause
  split_ifs at hcause with hhost hitem hparent hcount hmenu hnested hforeign
  · exact .item hitem (by simpa using hparent) (by omega)
  · exact .menu hmenu hitem hnested
  · exact .other (by simp [Registry.isMenuKind, hitem, hmenu])
      (by simpa [MenuSkip.parentInMenu] using hforeign)

/-- Right below a menu there are items, and at most one node in each. -/
theorem Sound.item_of_parent {p : Place} (h : Sound r p)
    (hparent : p.parentKind? = some r.menu.menuKind) :
    p.kind = r.menu.menuItemKind ∧ p.node.children.length ≤ 1 := by
  cases h.position with
  | item kind parent children => exact ⟨kind, children⟩
  | menu kind notItem parent => exact absurd hparent parent
  | other kind parent => simp [MenuSkip.parentInMenu, hparent, Registry.isMenuKind] at parent

/-- An item has at most one node right below it. -/
theorem Sound.children_of_item {p : Place} (h : Sound r p) (hk : p.kind = r.menu.menuItemKind) :
    p.node.children.length ≤ 1 := by
  cases h.position with
  | item kind parent children => exact children
  | menu kind notItem parent => exact absurd hk notItem
  | other kind parent => simp [Registry.isMenuKind, hk] at kind

/-- Right below an item there are menus. -/
theorem Sound.menu_of_parent {p : Place} (h : Sound r p)
    (hdistinct : r.menu.menuKind ≠ r.menu.menuItemKind)
    (hparent : p.parentKind? = some r.menu.menuItemKind) : p.kind = r.menu.menuKind := by
  cases h.position with
  | item kind parent children => simp [hparent, hdistinct.symm] at parent
  | menu kind notItem parent => exact kind
  | other kind parent => simp [MenuSkip.parentInMenu, hparent, Registry.isMenuKind] at parent

theorem parentInMenu_of_mem {p c : Place} (hc : c ∈ p.children) :
    MenuSkip.parentInMenu r c = r.isMenuKind p.kind := by
  rw [MenuSkip.parentInMenu, Place.parentKind_of_mem hc]
  rfl

theorem parentInMenu_of_menu {p c : Place} (hk : p.kind = r.menu.menuKind) (hc : c ∈ p.children) :
    MenuSkip.parentInMenu r c = true := by
  simp [parentInMenu_of_mem hc, Registry.isMenuKind, hk]

/-- Every place of an accepted tree is sound. -/
theorem sound_of_check {t : Tree} (h : check r t = .ok ()) {p : Place}
    (hp : p ∈ t.rootPlace.places) : Sound r p := by
  unfold check at h
  rw [Visitor.walk_eq_run] at h
  obtain ⟨_, _, hstep⟩ := (visitor r).step_ok_of_run h (Place.mem_tour_iff (e := .enter p).2 hp)
  obtain ⟨m, hm, hcause⟩ := bind_eq_ok.1 hstep
  refine ⟨m, Registry.require_eq_ok.1 hm, ?_⟩
  cases hc : cause? r p m with
  | none => rfl
  | some cause => simp [hc] at hcause

/-! ### Chains of ancestors -/

/-- Somewhere in a chain of ancestors is a menu. -/
def menuAbove (r : Registry) (ancestors : List Ancestor) : Bool :=
  ancestors.any fun a => a.kind == r.menu.menuKind

/-- The chain of ancestors of a place in an accepted tree: its first node tells whether a menu is in
it, and menus come only where items are no menus. -/
structure Settled (r : Registry) (ancestors : List Ancestor) : Prop where
  flag : (ancestors.head?.any fun a => r.isMenuKind a.kind) = menuAbove r ancestors
  distinct : menuAbove r ancestors → r.menu.menuKind ≠ r.menu.menuItemKind

theorem settled_nil : Settled r [] := ⟨rfl, by simp [menuAbove]⟩

theorem Settled.parentInMenu {p : Place} (h : Settled r p.ancestors) :
    MenuSkip.parentInMenu r p = menuAbove r p.ancestors := by
  rw [← h.flag]
  simp only [MenuSkip.parentInMenu, Place.parentKind?, Place.parent?]
  cases p.ancestors.head? <;> rfl

/-- Below a sound place the chain is settled again. -/
theorem Settled.cons {p : Place} (h : Settled r p.ancestors) (hp : Sound r p) :
    Settled r (p.asAncestor :: p.ancestors) := by
  have hflag := h.parentInMenu
  cases hp.position with
  | item kind parent children =>
    have hin : MenuSkip.parentInMenu r p = true := by
      simp [MenuSkip.parentInMenu, parent, Registry.isMenuKind]
    have habove : menuAbove r p.ancestors = true := hflag ▸ hin
    refine ⟨?_, fun _ => h.distinct habove⟩
    simp only [menuAbove] at habove
    simp [Registry.isMenuKind, Place.asAncestor, kind, menuAbove, habove]
  | menu kind notItem parent =>
    refine ⟨?_, fun _ => kind ▸ notItem⟩
    simp [Registry.isMenuKind, Place.asAncestor, kind, menuAbove]
  | other kind parent =>
    have habove : menuAbove r p.ancestors = false := hflag ▸ parent
    have hmenu : (p.kind == r.menu.menuKind) = false := by
      simp only [Registry.isMenuKind, Bool.or_eq_false_iff] at kind
      exact kind.1
    have hcons : menuAbove r (p.asAncestor :: p.ancestors) = false := by
      simp only [menuAbove, List.any_cons, Place.asAncestor, hmenu, Bool.false_or]
      exact habove
    exact ⟨by rw [hcons]; exact kind, by simp [hcons]⟩

theorem menuAbove_child {p c : Place} (hc : c ∈ p.children) :
    menuAbove r c.ancestors = (p.kind == r.menu.menuKind || menuAbove r p.ancestors) := by
  rw [Place.ancestors_of_mem hc]
  rfl

theorem menuAbove_of_menu {p c : Place} (hk : p.kind = r.menu.menuKind) (hc : c ∈ p.children) :
    menuAbove r c.ancestors = true := by
  simp [menuAbove_child hc, hk]

/-- What is in a menu stays in it. -/
theorem menuAbove_of_mem {p q : Place} (hin : menuAbove r p.ancestors) (hq : q ∈ p.places) :
    menuAbove r q.ancestors := by
  refine Place.of_mem_places (P := fun q => menuAbove r q.ancestors) ?_ hin hq
  intro p hin c hc
  rw [menuAbove_child hc, hin, Bool.or_true]

/-- A place with everything below it is sound and the chain above it is settled. -/
structure Accepted (r : Registry) (p : Place) : Prop where
  settled : Settled r p.ancestors
  sound : ∀ q ∈ p.places, Sound r q

theorem accepted_of_check {t : Tree} (h : check r t = .ok ()) : Accepted r t.rootPlace :=
  ⟨settled_nil, fun _ hp => sound_of_check h hp⟩

namespace Accepted

variable {p : Place}

theorem here (h : Accepted r p) : Sound r p := (Place.forall_mem_places.1 h.sound).1

theorem child (h : Accepted r p) {c : Place} (hc : c ∈ p.children) : Accepted r c where
  settled := by
    rw [Place.ancestors_of_mem hc]
    exact h.settled.cons h.here
  sound := (Place.forall_mem_places.1 h.sound).2 c hc

theorem of_mem (h : Accepted r p) {q : Place} (hq : q ∈ p.places) : Accepted r q :=
  Place.of_mem_places (fun _ hp _ hc => hp.child hc) h hq

/-- Below a menu there are items, and at most one node in each. -/
theorem item_of_mem (h : Accepted r p) (hk : p.kind = r.menu.menuKind) {c : Place}
    (hc : c ∈ p.children) : c.kind = r.menu.menuItemKind ∧ c.node.children.length ≤ 1 :=
  (h.child hc).here.item_of_parent ((Place.parentKind_of_mem hc).trans (congrArg some hk))

/-- Below an item there are menus. -/
theorem menu_of_mem (h : Accepted r p) (hdistinct : r.menu.menuKind ≠ r.menu.menuItemKind)
    (hk : p.kind = r.menu.menuItemKind) {c : Place} (hc : c ∈ p.children) :
    c.kind = r.menu.menuKind :=
  (h.child hc).here.menu_of_parent hdistinct
    ((Place.parentKind_of_mem hc).trans (congrArg some hk))

/-- A menu with something below it tells menus from items. -/
theorem distinct_of_mem (h : Accepted r p) (hk : p.kind = r.menu.menuKind) {c : Place}
    (hc : c ∈ p.children) : r.menu.menuKind ≠ r.menu.menuItemKind :=
  (h.child hc).settled.distinct (menuAbove_of_menu hk hc)

/-- Below a menu there are only menus and items. -/
theorem isMenuKind_of_menuAbove (h : Accepted r p) (hin : menuAbove r p.ancestors) :
    r.isMenuKind p.kind := by
  have hparent := h.settled.parentInMenu
  cases h.here.position with
  | item kind parent children => simp [Registry.isMenuKind, kind]
  | menu kind notItem parent => simp [Registry.isMenuKind, kind]
  | other kind parent => simp [parent, hin] at hparent

/-- A visitor that no place in a menu moves stands still in menus. -/
theorem walk_inMenu {ε σ : Type} (v : Visitor ε σ) {s : σ}
    (hstep : ∀ q : Place, Sound r q → MenuSkip.parentInMenu r q →
      v.enter q s = .ok s ∧ v.leave q s = .ok s)
    (h : Accepted r p) (hin : menuAbove r p.ancestors) : v.walk p s = .ok s :=
  v.walk_fixed fun q hq => hstep q (h.sound q hq)
    ((h.of_mem hq).settled.parentInMenu.trans (menuAbove_of_mem hin hq))

/-- Such a visitor stands still right below a menu. -/
theorem walkAll_belowMenu {ε σ : Type} (v : Visitor ε σ) {s : σ}
    (hstep : ∀ q : Place, Sound r q → MenuSkip.parentInMenu r q →
      v.enter q s = .ok s ∧ v.leave q s = .ok s)
    (h : Accepted r p) (hk : p.kind = r.menu.menuKind) {ps : List Place} (hps : ps ⊆ p.children) :
    v.walkAll ps s = .ok s :=
  v.walkAll_fixed fun _ hc =>
    (h.child (hps hc)).walk_inMenu v hstep (menuAbove_of_menu hk (hps hc))

end Accepted

end Structure

end Widgetry
