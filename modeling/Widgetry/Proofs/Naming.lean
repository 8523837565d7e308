import Widgetry.Proofs.Agreement

/-! The instances of an accepted tree. One namer, taken in document order over the places that stand
for a new instance outside every menu, gives exactly the names that the walks put down: the menu
flag is up at a place just when a menu is above it. -/

namespace Widgetry

open Structure

/-! ### Names in turn -/

namespace Namer

/-- The names of several instances in turn, up to the first fault. -/
def nameAll : Namer → List Place → Except Fault (List String × Namer)
  | m, [] => .ok ([], m)
  | m, p :: ps => do
    let (name, m) ← m.name p
    let (names, m) ← nameAll m ps
    return (name :: names, m)

theorem nameAll_append (m : Namer) (ps qs : List Place) :
    m.nameAll (ps ++ qs) = do
      let (first, m) ← m.nameAll ps
      let (rest, m) ← m.nameAll qs
      return (first ++ rest, m) := by
  induction ps generalizing m with
  | nil =>
    simp only [List.nil_append, nameAll, ok_bind]
    exact (bind_pure _).symm
  | cons p ps ih => simp only [List.cons_append, nameAll, ih, bind_assoc, pure_bind]

theorem length_of_nameAll {m m' : Namer} {ps : List Place} {names : List String}
    (h : m.nameAll ps = .ok (names, m')) : names.length = ps.length := by
  induction ps generalizing m names with
  | nil =>
    cases h
    rfl
  | cons p ps ih =>
    obtain ⟨⟨name, m₁⟩, -, h⟩ := bind_eq_ok.1 h
    obtain ⟨⟨rest, m₂⟩, hrest, h⟩ := bind_eq_ok.1 h
    cases h
    rw [List.length_cons, List.length_cons, ih hrest]

/-- Names that a function gives to places in turn it gives to the first of them and to the rest. -/
theorem nameAll_append_map {m m' : Namer} {ps qs : List Place} {f : Place → String}
    (h : m.nameAll (ps ++ qs) = .ok ((ps ++ qs).map f, m')) :
    ∃ m₁, m.nameAll ps = .ok (ps.map f, m₁) ∧ m₁.nameAll qs = .ok (qs.map f, m') := by
  rw [nameAll_append] at h
  obtain ⟨⟨first, m₁⟩, hfirst, h⟩ := bind_eq_ok.1 h
  obtain ⟨⟨rest, m₂⟩, hrest, h⟩ := bind_eq_ok.1 h
  obtain ⟨happend, rfl⟩ : first ++ rest = ps.map f ++ qs.map f ∧ m₂ = m' := by
    simpa using h
  have hlength : first.length = (ps.map f).length := by
    rw [length_of_nameAll hfirst, List.length_map]
  obtain ⟨rfl, rfl⟩ := List.append_inj happend hlength
  exact ⟨m₁, hfirst, hrest⟩

end Namer

/-- A new instance stands behind the place: its kind requires one, it is no host, and no menu is
above it. -/
def Registry.needsName (r : Registry) (p : Place) : Bool :=
  (r.mapping? p.kind).any (·.requiresInstance) && !p.hosted && !menuAbove r p.ancestors

/-- The new instances from a place on, in document order. -/
def Place.instances (r : Registry) (p : Place) : List Place := p.places.filter r.needsName

variable {r : Registry}

theorem Place.instances_eq (p : Place) :
    p.instances r = (if r.needsName p then [p] else []) ++ p.children.flatMap (instances r) := by
  rw [instances, places_eq, List.filter_cons, List.filter_flatMap]
  split_ifs <;> rfl

theorem Place.nodup_instances (p : Place) : ((p.instances r).map index).Nodup := by
  have hplaces : (p.places.map index).Nodup := by
    rw [map_index_places]
    exact List.nodup_range'
  exact hplaces.sublist (List.filter_sublist.map index)

/-- Names for places with different indices are given by a function of the index. -/
theorem exists_name {ps : List Place} (hp : (ps.map Place.index).Nodup) :
    ∀ {names : List String}, names.length = ps.length →
      ∃ name : Nat → String, names = ps.map (name ·.index) := by
  induction ps with
  | nil => exact fun h => ⟨fun _ => "", List.length_eq_zero_iff.1 h⟩
  | cons p ps ih =>
    intro names h
    rw [List.map_cons, List.nodup_cons] at hp
    obtain ⟨first, rest, rfl⟩ := List.exists_cons_of_length_eq_add_one h
    obtain ⟨name, rfl⟩ := ih hp.2 (Nat.succ.inj h)
    refine ⟨Function.update name p.index first, ?_⟩
    rw [List.map_cons, Function.update_self]
    congr 1
    refine List.map_congr_left fun q hq => ?_
    have hne : q.index ≠ p.index := fun heq => hp.1 (heq ▸ List.mem_map_of_mem hq)
    rw [Function.update_of_ne hne]

/-- Below a menu nothing has an instance of its own. -/
theorem Place.instances_inMenu {p : Place} (hin : menuAbove r p.ancestors) :
    p.instances r = [] := by
  rw [instances, List.filter_eq_nil_iff]
  intro q hq
  have habove : menuAbove r q.ancestors = true := menuAbove_of_mem hin hq
  simp [Registry.needsName, habove]

theorem Place.instances_belowMenu {p : Place} (hk : p.kind = r.menu.menuKind) :
    p.children.flatMap (Place.instances r) = [] :=
  List.flatMap_eq_nil_iff.2 fun _ hc => instances_inMenu (menuAbove_of_menu hk hc)

/-- A menu outside menus is a new instance unless it is the host. -/
theorem needsName_menu (hr : r.Consistent) {p : Place} (hk : p.kind = r.menu.menuKind)
    (hh : p.hosted = false) (hout : menuAbove r p.ancestors = false) : r.needsName p = true := by
  obtain ⟨m, hm, hi⟩ := hr.menu
  simp [Registry.needsName, hk, hm, hi, hh, hout]

/-! ### The ledger of an accepted tree -/

namespace Ledger

/-- In a menu the ledger does not move. -/
theorem fixed_inMenu {l : Ledger} (hl : l.skip = .begin) {p : Place} (hs : Sound r p)
    (hin : MenuSkip.parentInMenu r p) : enter r p l = .ok l ∧ leave r p l = .ok l := by
  obtain ⟨namer, skip, names⟩ := l
  obtain rfl : skip = .begin := hl
  obtain ⟨m, hm, -⟩ := hs
  constructor
  · unfold enter record
    rw [Registry.require_eq_ok.2 hm, ok_bind]
    cases hi : m.requiresInstance <;> simp [MenuSkip.enter, MenuSkip.begin, hin]
  · simp [leave, MenuSkip.leave, hin, MenuSkip.begin]

/-- Outside menus exactly the new instances are named. -/
theorem enter_outside {l : Ledger} (hl : l.skip = {}) {p : Place} {m : Mapping}
    (hm : r.mapping? p.kind = some m) (hout : menuAbove r p.ancestors = false) :
    enter r p l =
      if r.needsName p then do
        let (name, namer) ← l.namer.name p
        return ⟨namer, if p.kind = r.menu.menuKind then .begin else {}, l.names ++ [name]⟩
      else .ok l := by
  unfold enter record
  rw [Registry.require_eq_ok.2 hm, ok_bind, hl]
  cases hi : m.requiresInstance <;> cases hh : p.hosted <;>
    simp [Registry.needsName, hm, hi, hh, hout]

/-- The names that the ledger takes down on a walk over several places. -/
theorem walkAll_names {ps : List Place}
    (h : ∀ p ∈ ps, ∀ l : Ledger, l.skip = {} → (visitor r).walk p l = do
      let (names, namer) ← l.namer.nameAll (p.instances r)
      return ⟨namer, {}, l.names ++ names⟩) {l : Ledger} (hl : l.skip = {}) :
    (visitor r).walkAll ps l = do
      let (names, namer) ← l.namer.nameAll (ps.flatMap (Place.instances r))
      return ⟨namer, {}, l.names ++ names⟩ := by
  induction ps generalizing l with
  | nil =>
    obtain ⟨namer, skip, names⟩ := l
    obtain rfl : skip = {} := hl
    simp [Namer.nameAll]
  | cons p ps ih =>
    have hrest := fun l : Ledger => ih (fun q hq => h q (List.mem_cons_of_mem p hq)) (l := l)
    rw [Visitor.walkAll_cons, h p List.mem_cons_self l hl, List.flatMap_cons, Namer.nameAll_append]
    simp only [bind_assoc, pure_bind]
    congr 1
    funext named
    rw [hrest _ rfl]
    simp only [List.append_assoc]

/-- Outside menus, and not from a hosted menu, the ledger takes down the names of the new instances
and comes back to where it was. -/
theorem walk_outside (hr : r.Consistent) {p : Place} (h : Accepted r p)
    (hout : menuAbove r p.ancestors = false)
    (hmenu : ¬(p.hosted = true ∧ p.kind = r.menu.menuKind)) {l : Ledger} (hl : l.skip = {}) :
    (visitor r).walk p l = do
      let (names, namer) ← l.namer.nameAll (p.instances r)
      return ⟨namer, {}, l.names ++ names⟩ := by
  induction p using Place.induction generalizing l with
  | step p ih =>
    obtain ⟨m, hm, -⟩ := h.here
    have henter : (visitor r).enter p l = _ := enter_outside hl hm hout
    have hleave : ∀ l : Ledger, (visitor r).leave p l = .ok ⟨l.namer, {}, l.names⟩ := fun l => by
      change leave r p l = _
      rw [leave, MenuSkip.leave, h.settled.parentInMenu, hout]
    rw [Visitor.walk_eq, henter, Place.instances_eq]
    by_cases hk : p.kind = r.menu.menuKind
    · -- a menu is named, and nothing below it
      have hname : r.needsName p = true := needsName_menu hr hk (by simpa [hk] using hmenu) hout
      have hstill : ∀ l : Ledger, l.skip = .begin → (visitor r).walkAll p.children l = .ok l :=
        fun l hl => h.walkAll_belowMenu _ (fun _ hq hin => fixed_inMenu hl hq hin) hk
          (List.Subset.refl _)
      simp only [hname, if_true, if_pos hk, Place.instances_belowMenu hk, Namer.nameAll, bind_assoc, pure_bind,
        List.append_nil, hstill, ok_bind, hleave]
      rfl
    · have hstill : ∀ c ∈ p.children, menuAbove r c.ancestors = false := fun c hc => by
        simp [menuAbove_child hc, hk, hout]
      have hchildren : ∀ l : Ledger, l.skip = {} → (visitor r).walkAll p.children l = _ :=
        fun l hl => walkAll_names (fun c hc l hl =>
          ih c hc (h.child hc) (hstill c hc) (by simp [Place.hosted_of_mem hc]) hl) hl
      cases hname : r.needsName p with
      | false =>
        simp only [Bool.false_eq_true, if_false, ok_bind, List.nil_append]
        rw [hchildren l hl]
        simp [hleave]
      | true =>
        simp only [if_true, if_neg hk, Namer.nameAll, bind_assoc, pure_bind, List.singleton_append]
        congr 1
        funext named
        rw [hchildren _ rfl]
        simp [hleave]

end Ledger

end Widgetry
