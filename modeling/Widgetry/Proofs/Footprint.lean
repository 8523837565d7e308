import Widgetry.Proofs.MenuFlag

/-! What a compilation reads of its markup. Two containers of the same shape compile alike, to the
same template and script or to the same fault, if at every place they agree on a few attributes: the
title below a menu, the shown attributes elsewhere, and the name and the arguments of an instance.
The two compilations are walked side by side; the menu flag tells at every place which of its
attributes are read next. -/

namespace Widgetry

open Structure

variable {r : Registry} {ε σ : Type}

/-! ### Shapes -/

namespace Markup.Element

mutual

/-- The element with no attributes, neither here nor inside. -/
def bare : Element → Element
  | ⟨tag, _, children⟩ => ⟨tag, [], bares children⟩

def bares : List Element → List Element
  | [] => []
  | e :: es => bare e :: bares es

end

theorem bares_eq_map (es : List Element) : bares es = es.map bare := by
  induction es with
  | nil => rfl
  | cons e es ih => rw [bares, ih, List.map_cons]

theorem tag_of_bare {e e' : Element} (h : e.bare = e'.bare) : e.tag = e'.tag := by
  have htag : ∀ e : Element, e.bare.tag = e.tag := fun e => by cases e; rfl
  rw [← htag e, h, htag]

theorem children_of_bare {e e' : Element} (h : e.bare = e'.bare) :
    List.Forall₂ (fun c c' => c.bare = c'.bare) e.children e'.children := by
  have hchildren : ∀ e : Element, e.bare.children = e.children.map bare := fun e => by
    cases e
    exact bares_eq_map _
  have hmap : e.children.map bare = e'.children.map bare := by
    rw [← hchildren e, h, hchildren]
  rwa [← List.forall₂_eq_eq_eq, List.forall₂_map_left_iff, List.forall₂_map_right_iff] at hmap

end Markup.Element

namespace Node

mutual

/-- The node with no attributes, neither here nor below. -/
def bare : Node → Node
  | ⟨kind, _, children⟩ => ⟨kind, .empty, bares children⟩

def bares : List Node → List Node
  | [] => []
  | n :: ns => bare n :: bares ns

end

mutual

theorem size_bare : ∀ n : Node, n.bare.size = n.size
  | ⟨kind, attributes, children⟩ => by rw [bare, size, size, sizes_bares children]

theorem sizes_bares : ∀ ns : List Node, sizes (bares ns) = sizes ns
  | [] => rfl
  | n :: ns => by rw [bares, sizes, sizes, size_bare n, sizes_bares ns]

end

mutual

theorem bare_ofElement : ∀ e : Markup.Element, (ofElement e).bare = ofElement e.bare
  | ⟨tag, attributes, children⟩ => by
    rw [ofElement, bare, Markup.Element.bare, ofElement, bares_ofElements children]
    rfl

theorem bares_ofElements :
    ∀ es : List Markup.Element, bares (ofElements es) = ofElements (Markup.Element.bares es)
  | [] => rfl
  | e :: es => by
    rw [ofElements, bares, Markup.Element.bares, ofElements, bare_ofElement e, bares_ofElements es]

end

end Node

namespace Place

def bare (p : Place) : Place := { p with node := p.node.bare }

/-- Two places differ in attributes only, their own and those below. -/
def Alike (p q : Place) : Prop := p.bare = q.bare

theorem siblings_bares (ancestors : List Ancestor) (first : Nat) (ns : List Node) :
    siblings ancestors first (Node.bares ns) = (siblings ancestors first ns).map bare := by
  induction ns generalizing first with
  | nil => rfl
  | cons n ns ih => rw [Node.bares, siblings, siblings, List.map_cons, Node.size_bare, ih, bare]

theorem children_bare (p : Place) : p.bare.children = p.children.map bare := by
  obtain ⟨index, ⟨kind, attributes, nodes⟩, hosted, ancestors⟩ := p
  exact siblings_bares ..

namespace Alike

variable {p q : Place}

theorem index (h : p.Alike q) : p.index = q.index :=
  congrArg (·.index) (show p.bare = q.bare from h)

theorem hosted (h : p.Alike q) : p.hosted = q.hosted :=
  congrArg (·.hosted) (show p.bare = q.bare from h)

theorem ancestors (h : p.Alike q) : p.ancestors = q.ancestors :=
  congrArg (·.ancestors) (show p.bare = q.bare from h)

theorem kind (h : p.Alike q) : p.kind = q.kind := by
  have hkind : ∀ n : Node, n.bare.kind = n.kind := fun n => by cases n; rfl
  rw [Place.kind, Place.kind, ← hkind p.node, ← hkind q.node]
  exact congrArg (·.node.kind) h

theorem children (h : p.Alike q) : List.Forall₂ Alike p.children q.children := by
  have hmap : p.children.map bare = q.children.map bare := by
    rw [← children_bare, ← children_bare, h]
  rwa [← List.forall₂_eq_eq_eq, List.forall₂_map_left_iff, List.forall₂_map_right_iff] at hmap

theorem length_children (h : p.Alike q) : p.node.children.length = q.node.children.length := by
  rw [← p.map_node_children, ← q.map_node_children, List.length_map, List.length_map]
  exact h.children.length_eq

theorem parent? (h : p.Alike q) : p.parent? = q.parent? := by
  rw [Place.parent?, Place.parent?, h.ancestors]

theorem parentKind? (h : p.Alike q) : p.parentKind? = q.parentKind? := by
  rw [Place.parentKind?, Place.parentKind?, h.parent?]

theorem parentHosted (h : p.Alike q) : p.parentHosted = q.parentHosted := by
  rw [Place.parentHosted, Place.parentHosted, h.parent?]

theorem fault (h : p.Alike q) : p.fault = q.fault := by
  funext cause
  rw [Place.fault, Place.fault, Place.path, Place.path, h.kind, h.ancestors]

theorem parentInMenu (h : p.Alike q) :
    MenuSkip.parentInMenu r p = MenuSkip.parentInMenu r q := by
  rw [MenuSkip.parentInMenu, MenuSkip.parentInMenu, h.parentKind?]

theorem require (h : p.Alike q) : r.require p = r.require q := by
  rw [Registry.require, Registry.require, h.kind, h.fault]

end Alike

end Place

/-! ### Walks side by side -/

namespace Visitor

variable {v : Visitor ε σ} {I : List Ancestor → σ → Prop}

theorem walkAll_alike {ancestors : List Ancestor} {ps qs : List Place}
    (h : List.Forall₂ (fun p q => ∀ s, I ancestors s → v.walk p s = v.walk q s ∧
      ∀ s', v.walk p s = .ok s' → I ancestors s') ps qs) {s : σ} (hs : I ancestors s) :
    v.walkAll ps s = v.walkAll qs s := by
  induction h generalizing s with
  | nil => rfl
  | cons hhere _ ih =>
    obtain ⟨hwalk, hkeep⟩ := hhere s hs
    rw [walkAll_cons, walkAll_cons, ← hwalk]
    cases hend : v.walk _ s with
    | error fault => rfl
    | ok s' => exact ih (hkeep s' hend)

/-- Over places of the same shape a visitor goes the same way if it enters and leaves corresponding
places alike. For its entrances something may be taken for granted that depends on the ancestors of
a place: entering the place passes it down, and leaving the place brings it back. -/
theorem walk_alike {p q : Place} (hpq : p.Alike q)
    (henter : ∀ p' ∈ p.places, ∀ q' ∈ q.places, p'.Alike q' → ∀ s, I p'.ancestors s →
      v.enter p' s = v.enter q' s)
    (hdown : ∀ p' ∈ p.places, ∀ s s', I p'.ancestors s → v.enter p' s = .ok s' →
      I (p'.asAncestor :: p'.ancestors) s')
    (hleave : ∀ p' ∈ p.places, ∀ q' ∈ q.places, p'.Alike q' → ∀ s, v.leave p' s = v.leave q' s)
    (hback : ∀ p' ∈ p.places, ∀ s s', v.leave p' s = .ok s' → I p'.ancestors s')
    {s : σ} (hs : I p.ancestors s) : v.walk p s = v.walk q s := by
  induction p using Place.induction generalizing q s with
  | step p ih =>
    have hchildren : List.Forall₂ (fun c d => ∀ s, I (p.asAncestor :: p.ancestors) s →
        v.walk c s = v.walk d s ∧
          ∀ s', v.walk c s = .ok s' → I (p.asAncestor :: p.ancestors) s')
        p.children q.children := by
      obtain ⟨hlength, halike⟩ := List.forall₂_iff_zip.1 hpq.children
      refine List.forall₂_iff_zip.2 ⟨hlength, fun {c d} hmem s hs => ?_⟩
      obtain ⟨hc, hd⟩ := List.of_mem_zip hmem
      have hplace : ∀ {p'}, p' ∈ c.places → p' ∈ p.places := Place.mem_places_of_child hc
      have hplace' : ∀ {q'}, q' ∈ d.places → q' ∈ q.places := Place.mem_places_of_child hd
      rw [← Place.ancestors_of_mem hc] at hs ⊢
      refine ⟨ih c hc (halike hmem) (fun p' hp q' hq => henter p' (hplace hp) q' (hplace' hq))
        (fun p' hp => hdown p' (hplace hp))
        (fun p' hp q' hq => hleave p' (hplace hp) q' (hplace' hq))
        (fun p' hp => hback p' (hplace hp)) hs, fun s' hwalk => ?_⟩
      rw [walk_eq] at hwalk
      obtain ⟨_, -, hwalk⟩ := bind_eq_ok.1 hwalk
      obtain ⟨s₂, -, hwalk⟩ := bind_eq_ok.1 hwalk
      exact hback c (hplace c.mem_places_self) s₂ s' hwalk
    rw [walk_eq, walk_eq, ← henter p p.mem_places_self q q.mem_places_self hpq s hs]
    cases hentered : v.enter p s with
    | error fault => rfl
    | ok s' =>
      have hinside := hdown p p.mem_places_self s s' hs hentered
      rw [ok_bind, ok_bind, walkAll_alike hchildren hinside]
      congr 1
      funext s
      exact hleave p p.mem_places_self q q.mem_places_self hpq s

/-- Where nothing has to be taken for granted it is enough that corresponding places are entered and
left alike. -/
theorem walk_alike_of_forall {p q : Place} (hpq : p.Alike q)
    (henter : ∀ p' ∈ p.places, ∀ q' ∈ q.places, p'.Alike q' → ∀ s, v.enter p' s = v.enter q' s)
    (hleave : ∀ p' ∈ p.places, ∀ q' ∈ q.places, p'.Alike q' → ∀ s, v.leave p' s = v.leave q' s)
    (s : σ) : v.walk p s = v.walk q s :=
  walk_alike (I := fun _ _ => True) hpq (fun p' hp q' hq h s _ => henter p' hp q' hq h s)
    (fun _ _ _ _ _ _ => trivial) hleave (fun _ _ _ _ _ => trivial) trivial

end Visitor

/-! ### Footprints -/

/-- The attributes that are read at a place: the title below a menu; elsewhere those that are shown,
the initial values of a host, and the declared name and all arguments of a new instance. -/
def Registry.footprint (r : Registry) (p : Place) : List String :=
  if menuAbove r p.ancestors then [r.menu.titleAttribute]
  else
    match r.mapping? p.kind with
    | none => []
    | some m =>
      if p.hosted then m.postInit.map (·.key) ++ m.passthroughProps
      else if m.requiresInstance then
        Namer.declaration :: ((m.constructorArgs ++ m.postInit).map (·.key) ++ m.passthroughProps)
      else m.passthroughProps

/-- Two places agree on what is read at the first. -/
def Place.Agrees (r : Registry) (p q : Place) : Prop :=
  ∀ key ∈ r.footprint p, p.attribute? key = q.attribute? key

instance (r : Registry) (p q : Place) : Decidable (p.Agrees r q) :=
  inferInstanceAs (Decidable (∀ key ∈ r.footprint p, p.attribute? key = q.attribute? key))

namespace Place.Agrees

variable {p q : Place} {m : Mapping}

theorem title (h : p.Agrees r q) (hin : menuAbove r p.ancestors) :
    p.attribute? r.menu.titleAttribute = q.attribute? r.menu.titleAttribute :=
  h _ (by simp [Registry.footprint, hin])

theorem shown (h : p.Agrees r q) (hout : menuAbove r p.ancestors = false)
    (hm : r.mapping? p.kind = some m) :
    ∀ key ∈ m.passthroughProps, p.attribute? key = q.attribute? key := by
  intro key hkey
  apply h
  cases hh : p.hosted <;> cases hi : m.requiresInstance <;>
    simp [Registry.footprint, hout, hm, hh, hi, hkey]

theorem initial (h : p.Agrees r q) (hout : menuAbove r p.ancestors = false)
    (hm : r.mapping? p.kind = some m) (hi : m.requiresInstance) :
    ∀ a ∈ m.postInit, p.attribute? a.key = q.attribute? a.key := by
  intro a ha
  have hkey : a.key ∈ m.postInit.map (·.key) := List.mem_map_of_mem ha
  apply h
  cases hh : p.hosted <;> simp only [Registry.footprint, hout, hm, hh, hi] <;> simp [hkey]

theorem constructor (h : p.Agrees r q) (hout : menuAbove r p.ancestors = false)
    (hm : r.mapping? p.kind = some m) (hi : m.requiresInstance) (hh : p.hosted = false) :
    ∀ a ∈ m.constructorArgs, p.attribute? a.key = q.attribute? a.key := by
  intro a ha
  have hkey : a.key ∈ m.constructorArgs.map (·.key) := List.mem_map_of_mem ha
  apply h
  simp only [Registry.footprint, hout, hm, hh, hi]
  simp [hkey]

theorem declaration (h : p.Agrees r q) (hout : menuAbove r p.ancestors = false)
    (hm : r.mapping? p.kind = some m) (hi : m.requiresInstance) (hh : p.hosted = false) :
    p.attribute? Namer.declaration = q.attribute? Namer.declaration :=
  h _ (by simp [Registry.footprint, hout, hm, hh, hi])

end Place.Agrees

/-! ### The passes -/

section Passes

variable {p q : Place} {m : Mapping}

theorem Namer.name_alike (hpq : p.Alike q)
    (h : p.attribute? declaration = q.attribute? declaration) (namer : Namer) :
    namer.name p = namer.name q := by
  rw [name, name, h, hpq.fault]

theorem Structure.check_alike {t t' : Tree} (h : t.rootPlace.Alike t'.rootPlace) :
    check r t = check r t' := by
  refine Visitor.walk_alike_of_forall h (fun p _ q _ hpq s => ?_) (fun _ _ _ _ _ _ => rfl) ()
  have hcause : ∀ m, cause? r p m = cause? r q m := fun m => by
    rw [cause?, cause?, hpq.kind, hpq.hosted, hpq.parentKind?, hpq.length_children]
  simp only [visitor, hpq.require, hcause, hpq.fault]

namespace Template

theorem attributeMarks_alike (hpq : p.Alike q)
    (h : ∀ key ∈ m.passthroughProps, p.attribute? key = q.attribute? key) (column : Nat) :
    attributeMarks m p column = attributeMarks m q column := by
  unfold attributeMarks
  rw [hpq.hosted]
  congr 1
  refine List.filterMap_congr fun key hkey => ?_
  rw [h key hkey]

theorem openSlot_alike (hpq : p.Alike q) (s : State) : openSlot m p s = openSlot m q s := by
  unfold openSlot
  rw [hpq.parentHosted]

theorem bindInstance_alike (hpq : p.Alike q) (h : p.Agrees r q) (hm : r.mapping? p.kind = some m)
    {s : State} (hs : s.skip = ⟨menuAbove r p.ancestors⟩) :
    bindInstance r m p s = bindInstance r m q s := by
  unfold bindInstance MenuSkip.enter
  rw [← hpq.hosted, ← hpq.kind, ← hpq.parentInMenu]
  split_ifs with hi hskip hh
  · rfl
  · rfl
  · rfl
  all_goals
    have hout : menuAbove r p.ancestors = false := by simpa [hs] using hskip
    have hname := h.declaration hout hm (by simpa using hi) (by simpa using hh)
    rw [Namer.name_alike hpq hname]

/-- Where the flag tells whether a menu is above, entering a place reads its footprint only. -/
theorem enter_alike (hpq : p.Alike q) (h : p.Agrees r q) {s : State}
    (hs : s.skip = ⟨menuAbove r p.ancestors⟩) : enter r p s = enter r q s := by
  unfold enter
  rw [← hpq.require, ← hpq.hosted]
  cases hm : r.require p with
  | error fault => rfl
  | ok m =>
    have hmapping := Registry.require_eq_ok.1 hm
    have hopened : ∀ tag, (openTag tag (openSlot m p s)).skip = ⟨menuAbove r p.ancestors⟩ :=
      fun tag => by simp [hs]
    simp only [ok_bind, ← openSlot_alike hpq, ← bindInstance_alike hpq h hmapping (hopened _)]
    congr 1
    funext s'
    cases hout : menuAbove r p.ancestors with
    | true => simp [hs, hout]
    | false => rw [attributeMarks_alike hpq (h.shown hout hmapping)]

theorem leave_alike (hpq : p.Alike q) (s : State) : leave r p s = leave r q s := by
  unfold leave MenuSkip.leave closeSlot
  rw [hpq.require, hpq.hosted, hpq.parentInMenu, hpq.parentHosted]

end Template

namespace Script

theorem argument_alike (hpq : p.Alike q) {a : ArgumentSpec}
    (h : p.attribute? a.key = q.attribute? a.key) (role : Role) :
    argument m role p a = argument m role q a := by
  unfold argument
  rw [h, hpq.kind, hpq.fault]

theorem arguments_alike (hpq : p.Alike q) {as : List ArgumentSpec}
    (h : ∀ a ∈ as, p.attribute? a.key = q.attribute? a.key) (role : Role) :
    arguments m role p as = arguments m role q as := by
  induction as with
  | nil => rfl
  | cons a as ih =>
    rw [List.forall_mem_cons] at h
    rw [arguments, arguments, argument_alike hpq h.1, ih h.2]

end Script

namespace Menu

theorem declaration_alike (hpq : p.Alike q)
    (h : p.attribute? r.menu.titleAttribute = q.attribute? r.menu.titleAttribute) (indent : Nat) :
    declaration r indent p = declaration r indent q := by
  unfold declaration
  rw [h, hpq.kind, hpq.fault]

theorem link_alike (hpq : p.Alike q) (root : Place) (name : String) (indent : Nat) :
    link r root name indent p = link r root name indent q := by
  unfold link
  rw [hpq.kind, hpq.parent?]

/-- The program of a menu reads the titles below it. -/
theorem lines_alike (hpq : p.Alike q) (hk : p.kind = r.menu.menuKind)
    (h : ∀ p' ∈ p.places, ∀ q' ∈ q.places, p'.Alike q' → p'.Agrees r q') (name : String) :
    lines r p name = lines r q name := by
  have hvisitor : visitor r p name = visitor r q name := by
    unfold visitor link
    rw [hpq.index]
  have henter : ∀ p' ∈ p.places, ∀ q' ∈ q.places, p'.Alike q' → ∀ s,
      (visitor r p name).enter p' s = (visitor r p name).enter q' s := by
    intro p' hp q' hq halike s
    simp only [visitor, ← halike.index]
    split_ifs with hroot
    · rfl
    · -- below the menu the title is in the footprint
      rw [Place.places_eq, List.mem_cons, List.mem_flatMap] at hp
      rcases hp with rfl | ⟨c, hc, hp⟩
      · exact absurd rfl hroot
      · have hin := menuAbove_of_mem (menuAbove_of_menu hk hc) hp
        have hagrees := h p' (Place.mem_places_of_child hc hp) q' hq halike
        rw [declaration_alike halike (hagrees.title hin)]
  have hleave : ∀ p' ∈ p.places, ∀ q' ∈ q.places, p'.Alike q' → ∀ s,
      (visitor r p name).leave p' s = (visitor r p name).leave q' s := by
    intro p' _ q' _ halike s
    simp only [visitor, halike.index, link_alike halike]
  unfold lines
  rw [← hvisitor, Visitor.walk_alike_of_forall hpq henter hleave]

end Menu

namespace Script

theorem addMenu_alike {d : Record} {u : State}
    (h : Menu.lines r p d.name = Menu.lines r q d.name) : addMenu r p d u = addMenu r q d u := by
  unfold addMenu
  rw [h]

/-- Where the flag tells whether a menu is above, entering a place reads its footprint only, and
that of everything below a menu. -/
theorem enter_alike (hpq : p.Alike q)
    (h : ∀ p' ∈ p.places, ∀ q' ∈ q.places, p'.Alike q' → p'.Agrees r q') {u : State}
    (hu : u.skip = ⟨menuAbove r p.ancestors⟩) : enter r p u = enter r q u := by
  have hhere := h p p.mem_places_self q q.mem_places_self hpq
  unfold enter
  rw [← hpq.require]
  cases hm : r.require p with
  | error fault => rfl
  | ok m =>
    have hmapping := Registry.require_eq_ok.1 hm
    simp only [ok_bind, addImport_skip, addImport_namer]
    rw [← hpq.hosted, ← hpq.kind]
    split_ifs with hi hskip hh hk
    · rfl
    · unfold MenuSkip.enter
      rw [hpq.parentInMenu]
    all_goals
      have hout : menuAbove r p.ancestors = false := by simpa [hu] using hskip
      have hinstance : m.requiresInstance = true := by simpa using hi
      have hinitial := arguments_alike (m := m) hpq (hhere.initial hout hmapping hinstance) .initial
    · unfold hostRecord
      rw [hinitial]
    all_goals
      have hnew : p.hosted = false := by simpa using hh
      have hname := hhere.declaration hout hmapping hinstance hnew
      have hconstructor := arguments_alike (m := m) hpq
        (hhere.constructor hout hmapping hinstance hnew) .constructor
      unfold newRecord
      rw [Namer.name_alike hpq hname, hconstructor, hinitial]
    simp only [addMenu_alike (Menu.lines_alike hpq hk h _)]

theorem leave_alike (hpq : p.Alike q) (u : State) : leave r p u = leave r q u := by
  unfold leave MenuSkip.leave
  rw [hpq.parentInMenu]

end Script

end Passes

/-! ### Compilation -/

section Compilation

variable {t t' : Tree}

/-- The template of an accepted tree is told by its footprints. -/
theorem Template.marks_alike (hr : r.Consistent) (ht : Accepted r t.rootPlace)
    (hmenu : t.rootPlace.Unhosted r) (hshape : t.rootPlace.Alike t'.rootPlace)
    (h : ∀ p ∈ t.places, ∀ q ∈ t'.places, p.Alike q → p.Agrees r q) :
    marks r t = marks r t' := by
  have hwalk : (visitor r).walk t.rootPlace {} = (visitor r).walk t'.rootPlace {} := by
    refine Visitor.walk_alike (I := fun ancestors s => s.skip = ⟨menuAbove r ancestors⟩) hshape
      (fun p hp q hq hpq s hs => enter_alike hpq (h p hp q hq hpq) hs)
      (fun p hp s s' hs henter => ?_) (fun _ _ _ _ hpq s => leave_alike hpq s)
      (fun p hp s s' hleave => ?_) rfl
    · have hledger := map_ledger_enter r p s
      rw [show enter r p s = .ok s' from henter] at hledger
      exact Ledger.skip_of_enter hr (ht.of_mem hp) ((hmenu.of_mem hp) _ List.mem_cons_self)
        (l := s.ledger) hs hledger.symm
    · obtain ⟨m, hm, -⟩ := (ht.of_mem hp).here
      have hledger := map_ledger_leave r hm s
      rw [show leave r p s = .ok s' from hleave] at hledger
      have hskip := congrArg Ledger.skip (Except.ok.inj hledger)
      exact hskip.trans (leave_eq_menuAbove (ht.of_mem hp))
  unfold marks
  rw [hwalk]

/-- The script of an accepted tree is told by its footprints. -/
theorem Script.ofTree_alike (hr : r.Consistent) (ht : Accepted r t.rootPlace)
    (hmenu : t.rootPlace.Unhosted r) (hshape : t.rootPlace.Alike t'.rootPlace)
    (h : ∀ p ∈ t.places, ∀ q ∈ t'.places, p.Alike q → p.Agrees r q) :
    Script.ofTree r t = Script.ofTree r t' := by
  have hwalk : (visitor r).walk t.rootPlace {} = (visitor r).walk t'.rootPlace {} := by
    refine Visitor.walk_alike (I := fun ancestors u => u.skip = ⟨menuAbove r ancestors⟩) hshape
      (fun p hp q hq hpq u hu => enter_alike hpq ?_ hu)
      (fun p hp u u' hu henter => ?_) (fun _ _ _ _ hpq u => leave_alike hpq u)
      (fun p hp u u' hleave => ?_) rfl
    · exact fun p' hp' q' hq' => h p' (Place.mem_places_trans hp hp') q'
        (Place.mem_places_trans hq hq')
    · exact Ledger.skip_of_enter hr (ht.of_mem hp) ((hmenu.of_mem hp) _ List.mem_cons_self)
        (l := u.ledger) hu (ledger_enter r henter)
    · cases hleave
      exact leave_eq_menuAbove (ht.of_mem hp)
  unfold Script.ofTree
  rw [hwalk]

/-- Containers of the same shape hold no tree for the same reason, or trees of the same shape. -/
theorem Tree.ofContainer_alike {container container' : Markup.Element}
    (h : container.bare = container'.bare) (hosted : Bool) :
    (∃ fault, ofContainer container hosted = .error fault ∧
      ofContainer container' hosted = .error fault) ∨
    ∃ t t', ofContainer container hosted = .ok t ∧ ofContainer container' hosted = .ok t' ∧
      t.rootPlace.Alike t'.rootPlace := by
  have htag := Markup.Element.tag_of_bare h
  have hchildren := Markup.Element.children_of_bare h
  unfold ofContainer
  rw [htag]
  generalize container.children = es at hchildren ⊢
  generalize container'.children = es' at hchildren ⊢
  cases hchildren with
  | nil => exact .inl ⟨_, rfl, rfl⟩
  | @cons e e' _ _ hroot hrest =>
    cases hrest with
    | nil =>
      refine .inr ⟨_, _, rfl, rfl, ?_⟩
      rw [Place.Alike, Place.bare, Place.bare]
      simp only [rootPlace, Node.bare_ofElement, hroot]
    | cons hsecond hrest =>
      refine .inl ⟨_, rfl, ?_⟩
      simp only [Markup.Element.tag_of_bare hsecond, hrest.length_eq]

/-- Places of two trees with the same index agree on what is read at the first. -/
def Tree.Agrees (r : Registry) (t t' : Tree) : Prop :=
  ∀ p ∈ t.places, ∀ q ∈ t'.places, p.index = q.index → p.Agrees r q

instance (r : Registry) (t t' : Tree) : Decidable (t.Agrees r t') :=
  inferInstanceAs (Decidable (∀ p ∈ t.places, ∀ q ∈ t'.places, p.index = q.index → p.Agrees r q))

end Compilation

/-- Containers of the same shape compile alike if they agree on the footprint of every place: to the
same template and the same script, or to the same fault. A hosted menu is left out. -/
theorem compile_eq_of_agrees {o : Options} {r : Registry} (hr : o.checkedRegistry = .ok r)
    {container container' : Markup.Element} (hshape : container.bare = container'.bare)
    (hmenu : ∀ root, container.children = [root] →
      ¬(o.hosted.getD false = true ∧ root.tag = r.menu.menuKind))
    (hagrees : ∀ t t', Tree.ofContainer container (o.hosted.getD false) = .ok t →
      Tree.ofContainer container' (o.hosted.getD false) = .ok t' → t.Agrees r t') :
    compile o container = compile o container' := by
  have hconsistent := Template.consistent_of_checkedRegistry hr
  unfold compile
  rw [hr, ok_bind, ok_bind]
  rcases Tree.ofContainer_alike hshape (o.hosted.getD false) with
    ⟨fault, hfault, hfault'⟩ | ⟨t, t', ht, ht', halike⟩
  · rw [hfault, hfault']
  · have hagree : ∀ p ∈ t.places, ∀ q ∈ t'.places, p.Alike q → p.Agrees r q :=
      fun p hp q hq hpq => hagrees t t' ht ht' p hp q hq hpq.index
    rw [ht, ht', ok_bind, ok_bind, Structure.check_alike halike]
    cases hcheck : Structure.check r t' with
    | error fault => rfl
    | ok accepted =>
      have haccepted := accepted_of_check ((Structure.check_alike halike).trans hcheck)
      have hunhosted : t.rootPlace.Unhosted r := by
        obtain ⟨root, hroot, rfl⟩ := Tree.ofContainer_eq_ok.1 ht
        refine Tree.unhosted ?_
        cases root
        exact hmenu _ hroot
      unfold Template.template Template.body
      rw [Template.marks_alike hconsistent haccepted hunhosted halike hagree,
        Script.ofTree_alike hconsistent haccepted hunhosted halike hagree]

/-- A hosted window with a nested menu, a toolbar and a button. -/
def plainWindow : Markup.Element :=
  ⟨"Window", [⟨"title", "Main"⟩],
    [⟨"Menu", [⟨"type", "Popup"⟩],
      [⟨"MenuItem", [⟨"title", "File"⟩],
        [⟨"Menu", [⟨"title", "Recent"⟩], [⟨"MenuItem", [⟨"title", "Open"⟩], []⟩]⟩]⟩]⟩,
     ⟨"Toolbar", [], [⟨"ToolbarItem", [⟨"label", "Go"⟩], []⟩]⟩,
     ⟨"Button", [⟨"type", "Push"⟩, ⟨"title", "Go"⟩], []⟩]⟩

/-- The same window with names where none is asked for, attributes that nothing reads, and the
button's attributes in another order and one of them given twice. -/
def adornedWindow : Markup.Element :=
  ⟨"Window", [⟨"instance", "rt0"⟩, ⟨"type", "1st"⟩, ⟨"title", "Main"⟩],
    [⟨"Menu", [⟨"id", "menu"⟩, ⟨"type", "Popup"⟩],
      [⟨"MenuItem", [⟨"instance", "rt0"⟩, ⟨"title", "File"⟩],
        [⟨"Menu", [⟨"title", "Recent"⟩, ⟨"instance", "2nd"⟩, ⟨"type", "3rd"⟩],
          [⟨"MenuItem", [⟨"title", "Open"⟩, ⟨"instance", "rt0"⟩], []⟩]⟩]⟩]⟩,
     ⟨"Toolbar", [⟨"instance", "rt1"⟩],
      [⟨"ToolbarItem", [⟨"instance", "rt1"⟩, ⟨"label", "Go"⟩], []⟩]⟩,
     ⟨"Button", [⟨"title", "Stop"⟩, ⟨"type", "Push"⟩, ⟨"title", "Go"⟩], []⟩]⟩

theorem adornedWindow_compiles_alike :
    compile ⟨some true, none, false⟩ ⟨"template", [], [plainWindow]⟩ =
        compile ⟨some true, none, false⟩ ⟨"template", [], [adornedWindow]⟩ ∧
      ((compile ⟨some true, none, false⟩ ⟨"template", [], [adornedWindow]⟩).toOption.map
        (·.script.parts.dataFields)) = some ["rt0", "rt1"] := by
  have hroot : ∀ root, [plainWindow] = [root] → ¬((true : Bool) = true ∧ root.tag = "Menu") := by
    rintro root hroot
    cases hroot
    decide
  refine ⟨compile_eq_of_agrees (r := .builtin) rfl rfl hroot ?_, by decide +kernel⟩
  intro t t' ht ht'
  cases ht
  cases ht'
  decide +kernel

end Widgetry
