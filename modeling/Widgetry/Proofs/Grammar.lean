import Widgetry.Proofs.Faults

/-! The grammar of widget trees. A widget outside menus is of any other kind and holds such widgets,
or it is a menu and holds items; an item holds nothing or one menu, whose content are items again.
The check of a tree looks at each place with its parent and its number of children only, and still
accepts exactly the trees of the grammar. Where it refuses one it reports the first place, in
document order, that breaks a rule. -/

namespace Widgetry.Structure

variable {r : Registry}

mutual

/-- A widget outside menus: `widget ::= other(widget*) | menu(item*)`. -/
inductive IsWidget (r : Registry) : Node → Prop
  | other {n : Node} (kind : r.isMenuKind n.kind = false)
      (children : ∀ c ∈ n.children, IsWidget r c) : IsWidget r n
  | menu {n : Node} (kind : n.kind = r.menu.menuKind) (children : ∀ c ∈ n.children, IsItem r c) :
      IsWidget r n

/-- An item of a menu: `item ::= item() | item(menu(item*))`. -/
inductive IsItem (r : Registry) : Node → Prop
  | bare {n : Node} (kind : n.kind = r.menu.menuItemKind) (children : n.children = []) : IsItem r n
  | nested {n menu : Node} (kind : n.kind = r.menu.menuItemKind) (child : n.children = [menu])
      (menuKind : menu.kind = r.menu.menuKind) (children : ∀ c ∈ menu.children, IsItem r c) :
      IsItem r n

end

/-! ### Rules -/

/-- A place breaks one of the rules that a single place can break. -/
inductive Breaks (r : Registry) (p : Place) : Prop
  | unmapped (mapping : r.mapping? p.kind = none)
  | noHost {m : Mapping} (mapping : r.mapping? p.kind = some m) (hosted : p.hosted)
      (host : m.hostSubstitution = none)
  | strayItem (kind : p.kind = r.menu.menuItemKind) (parent : p.parentKind? ≠ some r.menu.menuKind)
  | crowdedItem (kind : p.kind = r.menu.menuItemKind) (children : 1 < p.node.children.length)
  | nestedMenu (kind : p.kind = r.menu.menuKind) (parent : p.parentKind? = some r.menu.menuKind)
  | foreign (kind : r.isMenuKind p.kind = false) (parent : MenuSkip.parentInMenu r p)

theorem placeFault?_eq_none {p : Place} : placeFault? r p = none ↔ Sound r p := by
  unfold placeFault? Sound
  cases r.mapping? p.kind <;> simp

/-- A place is sound if it is mapped, has a host where it is hosted, and stands in one of the three
ways. -/
theorem sound_iff {p : Place} :
    Sound r p ↔ (∃ m, r.mapping? p.kind = some m ∧ (p.hosted → m.hostSubstitution.isSome)) ∧
      Position r p := by
  constructor
  · intro h
    obtain ⟨m, hm, hcause⟩ := id h
    refine ⟨⟨m, hm, fun hh => ?_⟩, h.position⟩
    by_contra hhost
    have hnone : m.hostSubstitution.isNone = true := by simpa using hhost
    simp [cause?, hh, hnone] at hcause
  · rintro ⟨⟨m, hm, hhost⟩, hposition⟩
    have hhosted : (p.hosted && m.hostSubstitution.isNone) = false := by
      cases hh : p.hosted with
      | false => rfl
      | true => simpa [Option.isSome_iff_ne_none] using hhost hh
    refine ⟨m, hm, ?_⟩
    simp only [cause?, hhosted, Bool.false_eq_true, if_false]
    cases hposition with
    | item kind parent children => simp [kind, parent, Nat.not_lt.2 children]
    | menu kind notItem parent => rw [if_neg notItem, if_pos kind, if_neg parent]
    | other kind parent =>
      obtain ⟨hmenu, hitem⟩ : p.kind ≠ r.menu.menuKind ∧ p.kind ≠ r.menu.menuItemKind := by
        simpa [Registry.isMenuKind] using kind
      simpa [hmenu, hitem, MenuSkip.parentInMenu] using parent

/-- Where menus are no items, a place stands right if it does so for its kind. -/
theorem position_iff (hdistinct : r.menu.menuKind ≠ r.menu.menuItemKind) {p : Place} :
    Position r p ↔
      (p.kind = r.menu.menuItemKind →
        p.parentKind? = some r.menu.menuKind ∧ p.node.children.length ≤ 1) ∧
      (p.kind = r.menu.menuKind → p.parentKind? ≠ some r.menu.menuKind) ∧
      (r.isMenuKind p.kind = false → MenuSkip.parentInMenu r p = false) := by
  constructor
  · intro h
    cases h with
    | item kind parent children =>
      exact ⟨fun _ => ⟨parent, children⟩, fun hk => absurd (hk.symm.trans kind) hdistinct,
        fun hk => by simp [Registry.isMenuKind, kind] at hk⟩
    | menu kind notItem parent =>
      exact ⟨fun hk => absurd hk notItem, fun _ => parent,
        fun hk => by simp [Registry.isMenuKind, kind] at hk⟩
    | other kind parent =>
      exact ⟨fun hk => by simp [Registry.isMenuKind, hk] at kind,
        fun hk => by simp [Registry.isMenuKind, hk] at kind, fun _ => parent⟩
  · rintro ⟨hitem, hmenu, hother⟩
    by_cases hk : p.kind = r.menu.menuItemKind
    · exact .item hk (hitem hk).1 (hitem hk).2
    · by_cases hk' : p.kind = r.menu.menuKind
      · exact .menu hk' hk (hmenu hk')
      · have hkind : r.isMenuKind p.kind = false := by simp [Registry.isMenuKind, hk, hk']
        exact .other hkind (hother hkind)

/-- A place is sound or breaks a rule. -/
theorem breaks_iff (hdistinct : r.menu.menuKind ≠ r.menu.menuItemKind) {p : Place} :
    Breaks r p ↔ ¬Sound r p := by
  rw [sound_iff, position_iff hdistinct]
  constructor
  · rintro h ⟨⟨m, hm, hhost⟩, hitem, hmenu, hother⟩
    cases h with
    | unmapped mapping => simp [hm] at mapping
    | noHost mapping hosted host =>
      rw [hm, Option.some.injEq] at mapping
      simpa [mapping, host] using hhost hosted
    | strayItem kind parent => exact parent (hitem kind).1
    | crowdedItem kind children => exact absurd (hitem kind).2 (by omega)
    | nestedMenu kind parent => exact hmenu kind parent
    | foreign kind parent => simp [hother kind] at parent
  · intro h
    by_contra hkeeps
    apply h
    cases hm : r.mapping? p.kind with
    | none => exact absurd (.unmapped hm) hkeeps
    | some m =>
      refine ⟨⟨m, rfl, fun hh => ?_⟩, fun hk => ⟨?_, ?_⟩, fun hk hparent => ?_, fun hk => ?_⟩
      · by_contra hhost
        exact hkeeps (.noHost hm hh (by simpa using hhost))
      · by_contra hparent
        exact hkeeps (.strayItem hk hparent)
      · by_contra hcount
        exact hkeeps (.crowdedItem hk (by omega))
      · exact hkeeps (.nestedMenu hk hparent)
      · by_contra hparent
        exact hkeeps (.foreign hk (by simpa using hparent))

/-! ### Accepted trees are derivable -/

/-- What is accepted is an item or a widget outside menus, as its kind says. -/
theorem Accepted.derivable (hdistinct : r.menu.menuKind ≠ r.menu.menuItemKind) {p : Place}
    (h : Accepted r p) :
    (p.kind = r.menu.menuItemKind → IsItem r p.node) ∧
      (p.kind ≠ r.menu.menuItemKind → IsWidget r p.node) := by
  induction p using Place.induction with
  | step p ih =>
    have hbelow : ∀ n ∈ p.node.children, ∃ c ∈ p.children, c.node = n := fun n hn => by
      rw [← p.map_node_children] at hn
      exact List.mem_map.1 hn
    constructor
    · intro hk
      have hcount := (((position_iff hdistinct).1 h.here.position).1 hk).2
      cases hnodes : p.node.children with
      | nil => exact .bare hk hnodes
      | cons n ns =>
        obtain rfl : ns = [] := by simpa [hnodes] using hcount
        obtain ⟨c, hc, rfl⟩ := hbelow n (by simp [hnodes])
        have hmenu := h.menu_of_mem hdistinct hk hc
        have hwidget := (ih c hc (h.child hc)).2 (hmenu.trans_ne hdistinct)
        cases hwidget with
        | other kind children =>
          have hkind : r.isMenuKind c.kind = false := kind
          simp [Registry.isMenuKind, hmenu] at hkind
        | menu kind children => exact .nested hk hnodes kind children
    · intro hk
      by_cases hmenu : p.kind = r.menu.menuKind
      · refine .menu hmenu fun n hn => ?_
        obtain ⟨c, hc, rfl⟩ := hbelow n hn
        exact (ih c hc (h.child hc)).1 (h.item_of_mem hmenu hc).1
      · have hkind : r.isMenuKind p.kind = false := by simp [Registry.isMenuKind, hk, hmenu]
        refine .other hkind fun n hn => ?_
        obtain ⟨c, hc, rfl⟩ := hbelow n hn
        refine (ih c hc (h.child hc)).2 fun hitem => hmenu ?_
        -- an item stands right below a menu
        have hparent := (((position_iff hdistinct).1 (h.child hc).here.position).1 hitem).1
        rwa [Place.parentKind_of_mem hc, Option.some.injEq] at hparent

/-! ### Derivable trees are accepted -/

/-- The node of a place is derivable and its parent is one below which such a node may stand. -/
inductive Fits (r : Registry) (p : Place) : Prop
  | other (kind : r.isMenuKind p.kind = false) (parent : MenuSkip.parentInMenu r p = false)
      (children : ∀ n ∈ p.node.children, IsWidget r n)
  | menu (kind : p.kind = r.menu.menuKind) (parent : p.parentKind? ≠ some r.menu.menuKind)
      (children : ∀ n ∈ p.node.children, IsItem r n)
  | item (derivable : IsItem r p.node) (parent : p.parentKind? = some r.menu.menuKind)

theorem Fits.of_isWidget {p : Place} (h : IsWidget r p.node)
    (hparent : MenuSkip.parentInMenu r p = false) : Fits r p := by
  cases h with
  | other kind children => exact .other kind hparent children
  | menu kind children =>
    refine .menu kind (fun hmenu => ?_) children
    simp [MenuSkip.parentInMenu, hmenu, Registry.isMenuKind] at hparent

/-- What may stand below a place is told by the derivation of its node. -/
theorem Fits.child (hdistinct : r.menu.menuKind ≠ r.menu.menuItemKind) {p c : Place}
    (h : Fits r p) (hc : c ∈ p.children) : Fits r c := by
  have hnode : c.node ∈ p.node.children := (Place.of_mem_siblings hc).2.2
  have hparent := Place.parentKind_of_mem hc
  cases h with
  | other kind parent children =>
    exact .of_isWidget (children _ hnode) ((parentInMenu_of_mem hc).trans kind)
  | menu kind parent children => exact .item (children _ hnode) (by rw [hparent, kind])
  | item derivable parent =>
    cases derivable with
    | bare kind children => simp [children] at hnode
    | nested kind child menuKind children =>
      obtain rfl : c.node = _ := by simpa [child] using hnode
      refine .menu menuKind (fun hmenu => hdistinct ?_) children
      rw [hparent, Option.some.injEq] at hmenu
      exact hmenu.symm.trans kind

theorem Fits.position (hdistinct : r.menu.menuKind ≠ r.menu.menuItemKind) {p : Place}
    (h : Fits r p) : Position r p := by
  cases h with
  | other kind parent children => exact .other kind parent
  | menu kind parent children => exact .menu kind (kind.trans_ne hdistinct) parent
  | item derivable parent =>
    cases derivable with
    | bare kind children => exact .item kind parent (by simp [children])
    | nested kind child menuKind children => exact .item kind parent (by simp [child])

/-- A tree is accepted exactly if all its kinds are mapped, a hosted root has a host, and its root
is a widget of the grammar. -/
theorem check_eq_ok_iff (hdistinct : r.menu.menuKind ≠ r.menu.menuItemKind) (t : Tree) :
    check r t = .ok () ↔
      (∀ p ∈ t.places, (r.mapping? p.kind).isSome) ∧
      (t.hosted → ∃ m, r.mapping? t.root.kind = some m ∧ m.hostSubstitution.isSome) ∧
      IsWidget r t.root := by
  constructor
  · intro h
    have haccepted := accepted_of_check h
    refine ⟨fun p hp => ?_, fun hh => ?_, ?_⟩
    · obtain ⟨m, hm, -⟩ := haccepted.sound p hp
      simp [hm]
    · obtain ⟨⟨m, hm, hhost⟩, -⟩ := sound_iff.1 haccepted.here
      exact ⟨m, hm, hhost hh⟩
    · refine (haccepted.derivable hdistinct).2 fun hitem => ?_
      -- the root has no parent
      have hrules := (position_iff hdistinct).1 haccepted.here.position
      cases (hrules.1 hitem).1
  · rintro ⟨hmapped, hhost, hwidget⟩
    have hfits : ∀ p ∈ t.rootPlace.places, Fits r p := fun p hp =>
      Place.of_mem_places (fun _ hp _ hc => hp.child hdistinct hc)
        (Fits.of_isWidget (p := t.rootPlace) hwidget rfl) hp
    have hsound : ∀ p ∈ t.places, placeFault? r p = none := fun p hp => by
      obtain ⟨m, hm⟩ := Option.isSome_iff_exists.1 (hmapped p hp)
      refine placeFault?_eq_none.2 (sound_iff.2 ⟨⟨m, hm, fun hh => ?_⟩,
        (hfits p hp).position hdistinct⟩)
      obtain rfl := Tree.eq_rootPlace_of_hosted hp hh
      obtain ⟨m', hm', hhost⟩ := hhost hh
      rw [show r.mapping? t.root.kind = some m from hm, Option.some.injEq] at hm'
      rwa [hm']
    have hnone : fault? (check r t) = none := by
      rw [fault?_check, List.findSome?_eq_none_iff]
      exact hsound
    obtain ⟨_, hok⟩ := fault?_eq_none.1 hnone
    exact hok

/-! ### The first fault -/

/-- The code under which a place is reported is told by whether its kind is mapped. -/
theorem diagnostic_of_placeFault? {p : Place} {fault : Fault} (h : placeFault? r p = some fault) :
    fault.diagnostic.context = some (Fault.pathText p.path) ∧
      fault.diagnostic.code = if (r.mapping? p.kind).isNone then .unmappedKind else .shape := by
  unfold placeFault? at h
  cases hm : r.mapping? p.kind with
  | none =>
    rw [hm, Option.some.injEq] at h
    subst h
    exact ⟨rfl, rfl⟩
  | some m =>
    simp only [hm] at h
    obtain ⟨cause, hcause, rfl⟩ := Option.map_eq_some_iff.1 h
    have hcode : cause.code = .shape := by
      unfold cause? at hcause
      simp only at hcause
      split_ifs at hcause <;> cases hcause <;> rfl
    exact ⟨rfl, hcode⟩

/-- Of the places of a tree the earlier have the smaller indices. -/
theorem index_le_of_places {t : Tree} {before after : List Place} {p q : Place}
    (h : t.places = before ++ p :: after) (hq : q ∈ t.places) (hnot : q ∉ before) :
    p.index ≤ q.index := by
  have hincreasing : (t.places.map Place.index).Pairwise (· < ·) := by
    rw [show t.places.map Place.index = _ from t.rootPlace.map_index_places]
    exact List.pairwise_lt_range'
  rw [h, List.map_append, List.map_cons, List.pairwise_append, List.pairwise_cons] at hincreasing
  rw [h, List.mem_append, List.mem_cons] at hq
  rcases hq with hq | rfl | hq
  · exact absurd hq hnot
  · exact Nat.le_refl _
  · exact Nat.le_of_lt (hincreasing.2.1.1 _ (List.mem_map_of_mem hq))

/-- What the check reports is the first place that breaks a rule. -/
theorem first_of_check (hdistinct : r.menu.menuKind ≠ r.menu.menuItemKind) {t : Tree}
    {fault : Fault} (h : check r t = .error fault) :
    ∃ p ∈ t.places, Breaks r p ∧ (∀ q ∈ t.places, Breaks r q → p.index ≤ q.index) ∧
      placeFault? r p = some fault := by
  have hfault : t.places.findSome? (placeFault? r) = some fault := by
    rw [← fault?_check, h]
    rfl
  obtain ⟨before, p, after, hplaces, hp, hbefore⟩ := List.findSome?_eq_some_iff.1 hfault
  have hbreaks : ∀ q, Breaks r q ↔ placeFault? r q ≠ none := fun q => by
    rw [breaks_iff hdistinct, ← placeFault?_eq_none]
  refine ⟨p, by simp [hplaces], (hbreaks p).2 (by simp [hp]), fun q hq hbroken => ?_, hp⟩
  exact index_le_of_places hplaces hq fun hmem => (hbreaks q).1 hbroken (hbefore q hmem)

/-- The check accepts exactly the trees of the grammar whose kinds are mapped and whose root has a
host if it is hosted. Otherwise it reports, with its path, the first place in document order that
breaks a rule, and tells unmapped kinds from wrong shapes. -/
theorem check_decides_grammar {r : Registry} (hdistinct : r.menu.menuKind ≠ r.menu.menuItemKind)
    (t : Tree) :
    (check r t = .ok () ↔
      (∀ p ∈ t.places, (r.mapping? p.kind).isSome) ∧
      (t.hosted → ∃ m, r.mapping? t.root.kind = some m ∧ m.hostSubstitution.isSome) ∧
      IsWidget r t.root) ∧
    ∀ fault, check r t = .error fault →
      ∃ p ∈ t.places, Breaks r p ∧ (∀ q ∈ t.places, Breaks r q → p.index ≤ q.index) ∧
        fault.diagnostic.context = some (Fault.pathText p.path) ∧
        fault.diagnostic.code.text =
          if (r.mapping? p.kind).isNone then "BLUI-UNMAPPED-KIND" else "BLUI-STRUCTURE" := by
  refine ⟨check_eq_ok_iff hdistinct t, fun fault h => ?_⟩
  obtain ⟨p, hp, hbreaks, hfirst, hfault⟩ := first_of_check hdistinct h
  obtain ⟨hcontext, hcode⟩ := diagnostic_of_placeFault? hfault
  refine ⟨p, hp, hbreaks, hfirst, hcontext, ?_⟩
  rw [hcode]
  split_ifs <;> rfl

/-- A window with a menu in an item of its menu. -/
def nestingWindow : Tree where
  root := ⟨"Window", .empty,
    [⟨"Menu", .empty, [⟨"MenuItem", .empty, [⟨"Menu", .empty, [⟨"MenuItem", .empty, []⟩]⟩]⟩]⟩]⟩
  hosted := true

/-- A window with a button in a menu and, behind it, an unmapped kind. -/
def mixedWindow : Tree where
  root := ⟨"Window", .empty, [⟨"Menu", .empty, [⟨"Button", .empty, []⟩]⟩, ⟨"Label", .empty, []⟩]⟩
  hosted := false

theorem nestingWindow_derivable :
    IsWidget .builtin nestingWindow.root ∧
      ∃ fault p, check .builtin mixedWindow = .error fault ∧ Breaks .builtin p ∧
        fault.diagnostic.context = some "Window > Menu > Button" ∧
        fault.diagnostic.code.text = "BLUI-STRUCTURE" := by
  have hdistinct : Registry.builtin.menu.menuKind ≠ Registry.builtin.menu.menuItemKind := by decide
  have hok : check .builtin nestingWindow = .ok () := by decide +kernel
  have hreported : fault? (check .builtin mixedWindow) =
      some ⟨.foreignInMenu "Button", some ["Window", "Menu", "Button"]⟩ := by
    decide +kernel
  refine ⟨((check_decides_grammar hdistinct nestingWindow).1.1 hok).2.2, ?_⟩
  cases hcheck : check .builtin mixedWindow with
  | ok _ => simp [hcheck] at hreported
  | error fault =>
    obtain ⟨p, -, hbreaks, -⟩ := (check_decides_grammar hdistinct mixedWindow).2 fault hcheck
    rw [hcheck, fault?_error, Option.some.injEq] at hreported
    subst hreported
    exact ⟨_, p, rfl, hbreaks, by decide +kernel, rfl⟩

end Widgetry.Structure
