import Widgetry.Proofs.Tours
import Widgetry.Proofs.Verdict

/-! The menu flag of the two walks. It is one bit, set where a menu gets its instance and found
again from the parent's kind wherever a place is left; yet in an accepted tree it tells at every
event what is true of the whole chain of ancestors, at any depth: whether a menu is above. -/

namespace Widgetry

open Structure

variable {r : Registry}

/-! ### One event -/

/-- On the way down through an accepted tree the flag tells whether a menu is above. -/
theorem Ledger.skip_of_enter (hr : r.Consistent) {p : Place} (h : Accepted r p)
    (hmenu : p.kind = r.menu.menuKind → p.hosted = false) {l l' : Ledger}
    (hl : l.skip = ⟨menuAbove r p.ancestors⟩) (henter : Ledger.enter r p l = .ok l') :
    l'.skip = ⟨menuAbove r (p.asAncestor :: p.ancestors)⟩ := by
  have hcons : menuAbove r (p.asAncestor :: p.ancestors) =
      (p.kind == r.menu.menuKind || menuAbove r p.ancestors) := rfl
  cases habove : menuAbove r p.ancestors with
  | true =>
    have hparent : MenuSkip.parentInMenu r p = true := h.settled.parentInMenu.trans habove
    rw [habove] at hl
    rw [(fixed_inMenu hl h.here hparent).1] at henter
    cases henter
    rw [hl, hcons, habove, Bool.or_true]
  | false =>
    obtain ⟨m, hm, -⟩ := h.here
    rw [habove] at hl
    rw [enter_outside hl hm habove] at henter
    rw [hcons, habove, Bool.or_false]
    by_cases hk : p.kind = r.menu.menuKind
    · rw [needsName_menu hr hk (hmenu hk) habove, if_pos rfl] at henter
      obtain ⟨named, -, hl'⟩ := bind_eq_ok.1 henter
      cases hl'
      simp [hk, MenuSkip.begin]
    · have hflag : (p.kind == r.menu.menuKind) = false := by simpa using hk
      rw [hflag]
      split_ifs at henter
      · obtain ⟨named, -, hl'⟩ := bind_eq_ok.1 henter
        cases hl'
        simp
      · cases henter
        exact hl

/-- Behind an accepted place the flag is again that of its ancestors. -/
theorem leave_eq_menuAbove {p : Place} (h : Accepted r p) :
    MenuSkip.leave r p = ⟨menuAbove r p.ancestors⟩ := by
  rw [MenuSkip.leave, h.settled.parentInMenu]

/-- Every event of an accepted tree takes the flag from the chain before it to the chain behind. -/
theorem Ledger.skip_of_step (hr : r.Consistent) {e : Event} (h : Accepted r e.place)
    (hmenu : e.place.kind = r.menu.menuKind → e.place.hosted = false) {l l' : Ledger}
    (hl : l.skip = ⟨menuAbove r e.chainBefore⟩) (hstep : (Ledger.visitor r).step e l = .ok l') :
    l'.skip = ⟨menuAbove r e.chainAfter⟩ := by
  cases e with
  | enter p => exact skip_of_enter hr h hmenu hl hstep
  | leave p =>
    cases hstep
    exact leave_eq_menuAbove h

/-! ### Whole walks -/

/-- Some menu of the tree has the place below it. -/
def Tree.InMenu (r : Registry) (t : Tree) (p : Place) : Prop :=
  ∃ q ∈ t.places, q.kind = r.menu.menuKind ∧ p ∈ q.descendants

theorem Tree.inMenu_iff {t : Tree} {p : Place} (hp : p ∈ t.places) :
    t.InMenu r p ↔ menuAbove r p.ancestors = true := by
  simp only [menuAbove, List.any_eq_true, beq_iff_eq, Tree.mem_ancestors_iff p hp]
  constructor
  · rintro ⟨q, hq, hkind, hbelow⟩
    exact ⟨q.asAncestor, ⟨q, hq, hbelow, rfl⟩, hkind⟩
  · rintro ⟨_, ⟨q, hq, hbelow, rfl⟩, hkind⟩
    exact ⟨q, hq, hkind, hbelow⟩

/-- In the walk of a visitor over a tree, as far as it comes without a fault, the flag tells whether
the walk is in a menu. -/
structure Visitor.TracksMenus {σ : Type} (r : Registry) (t : Tree) (v : Visitor Fault σ) (start : σ)
    (flag : σ → MenuSkip) : Prop where
  /-- A place is entered with the flag up exactly if a menu is above it. -/
  enter {before after : List Event} {p : Place} {s : σ} :
    t.rootPlace.tour = before ++ .enter p :: after → v.run before start = .ok s →
      ((flag s).active = true ↔ t.InMenu r p)
  /-- What is done with the flag where an instance is entered in a menu leaves it as it is. -/
  resume {before after : List Event} {p : Place} {s : σ} :
    t.rootPlace.tour = before ++ .enter p :: after → v.run before start = .ok s →
      (flag s).enter r p = flag s
  /-- Behind a place the flag is up exactly if its parent is a menu or an item, and so exactly if a
  menu is above it. -/
  leave {before after : List Event} {p : Place} {s : σ} :
    t.rootPlace.tour = before ++ .leave p :: after → v.run (before ++ [.leave p]) start = .ok s →
      ((flag s).active = true ↔ ∃ kind, p.parentKind? = some kind ∧
        (kind = r.menu.menuKind ∨ kind = r.menu.menuItemKind)) ∧
      ((flag s).active = true ↔ t.InMenu r p)
  /-- Behind the root the flag is down. -/
  root {s : σ} : v.run t.rootPlace.tour start = .ok s → (flag s).active = false

theorem MenuSkip.parentInMenu_iff {p : Place} :
    parentInMenu r p = true ↔ ∃ kind, p.parentKind? = some kind ∧
      (kind = r.menu.menuKind ∨ kind = r.menu.menuItemKind) := by
  simp [parentInMenu, Option.any_eq_true, Registry.isMenuKind]

/-- A walk that is seen as the ledger's tracks menus. -/
theorem Ledger.tracksMenus {σ : Type} (hr : r.Consistent) {t : Tree} (ht : Accepted r t.rootPlace)
    (hmenu : t.rootPlace.Unhosted r) {v : Visitor Fault σ} {start : σ} (view : σ → Ledger)
    (hview : ∀ {events s}, v.run events start = .ok s →
      (Ledger.visitor r).run events {} = .ok (view s)) :
    v.TracksMenus r t start fun s => (view s).skip := by
  have hstep : ∀ e ∈ t.rootPlace.tour, ∀ l l' : Ledger, l.skip = ⟨menuAbove r e.chainBefore⟩ →
      (Ledger.visitor r).step e l = .ok l' → l'.skip = ⟨menuAbove r e.chainAfter⟩ := by
    intro e he l l' hl h
    have hplace := Place.mem_tour_iff.1 he
    exact skip_of_step hr (ht.of_mem hplace) (hmenu.of_mem hplace _ List.mem_cons_self) hl h
  have henter : ∀ {before after : List Event} {p : Place} {s : σ},
      t.rootPlace.tour = before ++ .enter p :: after → v.run before start = .ok s →
      p ∈ t.places ∧ (view s).skip = ⟨menuAbove r p.ancestors⟩ := by
    intro before after p s htour h
    have hplace : p ∈ t.rootPlace.places := Event.place_mem_of_tour htour
    exact ⟨hplace, Visitor.holds_before (I := fun chain l => l.skip = ⟨menuAbove r chain⟩) hstep
      htour rfl (hview h)⟩
  constructor
  case enter =>
    intro before after p s htour h
    obtain ⟨hplace, hflag⟩ := henter htour h
    rw [hflag, Tree.inMenu_iff hplace]
  case resume =>
    intro before after p s htour h
    obtain ⟨hplace, hflag⟩ := henter htour h
    rw [hflag, MenuSkip.enter, (ht.of_mem hplace).settled.parentInMenu, Bool.and_self]
  case leave =>
    intro before after p s htour h
    have hplace : p ∈ t.rootPlace.places := Event.place_mem_of_tour htour
    have hlast := hview h
    rw [Visitor.run_append, bind_eq_ok] at hlast
    obtain ⟨l, -, hlast⟩ := hlast
    have hflag : (view s).skip = .leave r p := (congrArg Ledger.skip (Except.ok.inj hlast)).symm
    rw [hflag, Tree.inMenu_iff hplace, ← (ht.of_mem hplace).settled.parentInMenu,
      ← MenuSkip.parentInMenu_iff]
    exact ⟨Iff.rfl, Iff.rfl⟩
  case root =>
    intro s h
    have hend := Visitor.run_along (I := fun chain l => l.skip = ⟨menuAbove r chain⟩) hstep
      (Event.leads_tour t.rootPlace) rfl (hview h)
    rw [hend]
    rfl

/-- In the walks of template and script over an accepted tree the flag tells whether a menu is
above, unless the root is a menu that is the host. -/
theorem menu_flag_tells_ancestry (hr : r.check = .ok ()) {t : Tree}
    (ht : Structure.check r t = .ok ())
    (hmenu : ¬(t.hosted = true ∧ t.root.kind = r.menu.menuKind)) :
    (Template.visitor r).TracksMenus r t {} Template.State.skip ∧
      (Script.visitor r).TracksMenus r t {} Script.State.skip := by
  have hconsistent := Registry.consistent_of_check hr
  have haccepted := accepted_of_check ht
  have hunhosted := Tree.unhosted hmenu
  exact ⟨Ledger.tracksMenus hconsistent haccepted hunhosted Template.State.ledger
      fun h => Template.ledger_run h,
    Ledger.tracksMenus hconsistent haccepted hunhosted Script.State.ledger
      fun h => Script.ledger_run h⟩

/-- A window with menus three deep, and a button behind them. -/
def deepWindow : Tree where
  root := ⟨"Window", .ofList [("type", "Normal"), ("title", "Deep")],
    [⟨"Menu", .ofList [("type", "MenuBar")],
      [⟨"MenuItem", .ofList [("title", "File")],
        [⟨"Menu", .ofList [("title", "File")],
          [⟨"MenuItem", .ofList [("title", "Recent")],
            [⟨"Menu", .ofList [("title", "Recent")],
              [⟨"MenuItem", .ofList [("title", "a.txt")], []⟩]⟩]⟩]⟩]⟩]⟩,
     ⟨"Button", .ofList [("type", "Push"), ("title", "Go")], []⟩]⟩
  hosted := false

/-- Both walks come to their ends and track the menus on the way. -/
theorem deepWindow_tracked :
    Structure.check .builtin deepWindow = .ok () ∧
      (Script.ofTree .builtin deepWindow).toOption.isSome ∧
      (Template.visitor .builtin).TracksMenus .builtin deepWindow {} Template.State.skip ∧
      (Script.visitor .builtin).TracksMenus .builtin deepWindow {} Script.State.skip := by
  have hcheck : Structure.check .builtin deepWindow = .ok () := by decide +kernel
  exact ⟨hcheck, by decide +kernel,
    menu_flag_tells_ancestry Registry.check_builtin hcheck (by decide +kernel)⟩

end Widgetry
