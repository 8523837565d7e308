import Widgetry.Tree.Walk
import Mathlib.Data.List.Basic

/-! Walks place by place and event by event. A walk over a place enters it, walks its children and
leaves it; it is also the run of the visitor over the tour of the place. So what holds of every step
holds of a whole walk, and what is known of a walk is known at each of its events. -/

namespace Widgetry

variable {ε σ : Type}

/-! ### Results -/

section Results

variable {α β : Type}

@[simp] theorem ok_bind (a : α) (f : α → Except ε β) : (Except.ok a >>= f) = f a := rfl

@[simp] theorem error_bind (e : ε) (f : α → Except ε β) : (Except.error e >>= f) = .error e := rfl

@[simp] theorem pure_eq_ok (a : α) : (pure a : Except ε α) = .ok a := rfl

theorem bind_eq_ok {x : Except ε α} {f : α → Except ε β} {b : β} :
    (x >>= f) = .ok b ↔ ∃ a, x = .ok a ∧ f a = .ok b := by
  cases x <;> simp

theorem toOption_eq_some {x : Except ε α} {a : α} : x.toOption = some a ↔ x = .ok a := by
  cases x <;> simp [Except.toOption]

end Results

/-! ### Children -/

namespace Place

/-- Siblings in their tree; the first has the index `first`. -/
def siblings (ancestors : List Ancestor) (first : Nat) : List Node → List Place
  | [] => []
  | n :: ns => ⟨first, n, false, ancestors⟩ :: siblings ancestors (first + n.size) ns

/-- The places right below. -/
def children (p : Place) : List Place :=
  siblings (p.asAncestor :: p.ancestors) (p.index + 1) p.node.children

/-- The place and all places below it, in document order. -/
def places (p : Place) : List Place := p.node.places p.hosted p.ancestors p.index

theorem of_mem_siblings {ancestors : List Ancestor} {first : Nat} {ns : List Node} {c : Place}
    (h : c ∈ siblings ancestors first ns) :
    c.ancestors = ancestors ∧ c.hosted = false ∧ c.node ∈ ns := by
  induction ns generalizing first with
  | nil => simp [siblings] at h
  | cons n ns ih =>
    rcases List.mem_cons.1 h with rfl | h
    · exact ⟨rfl, rfl, List.mem_cons_self⟩
    · obtain ⟨ha, hh, hn⟩ := ih h
      exact ⟨ha, hh, List.mem_cons_of_mem n hn⟩

theorem ancestors_of_mem {p c : Place} (h : c ∈ p.children) :
    c.ancestors = p.asAncestor :: p.ancestors := (of_mem_siblings h).1

theorem hosted_of_mem {p c : Place} (h : c ∈ p.children) : c.hosted = false :=
  (of_mem_siblings h).2.1

theorem map_node_siblings (ancestors : List Ancestor) (first : Nat) (ns : List Node) :
    (siblings ancestors first ns).map node = ns := by
  induction ns generalizing first with
  | nil => rfl
  | cons n ns ih => rw [siblings, List.map_cons, ih]

theorem map_node_children (p : Place) : p.children.map node = p.node.children :=
  map_node_siblings ..

theorem index_of_children_eq {p c : Place} {cs : List Place} (h : p.children = c :: cs) :
    c.index = p.index + 1 := by
  unfold children at h
  cases hnodes : p.node.children with
  | nil => simp [hnodes, siblings] at h
  | cons n ns =>
    rw [hnodes, siblings, List.cons.injEq] at h
    rw [← h.1]

theorem parent_of_mem {p c : Place} (h : c ∈ p.children) : c.parent? = some p.asAncestor := by
  rw [parent?, ancestors_of_mem h, List.head?_cons]

theorem parentKind_of_mem {p c : Place} (h : c ∈ p.children) : c.parentKind? = some p.kind := by
  rw [parentKind?, parent_of_mem h]
  rfl

mutual

theorem induction_node {P : Place → Prop} (h : ∀ p, (∀ c ∈ p.children, P c) → P p) :
    ∀ (n : Node) (hosted : Bool) (ancestors : List Ancestor) (index : Nat),
      P ⟨index, n, hosted, ancestors⟩
  | ⟨_, _, children⟩, _, _, _ => h _ (induction_nodes h children _ _)

theorem induction_nodes {P : Place → Prop} (h : ∀ p, (∀ c ∈ p.children, P c) → P p) :
    ∀ (ns : List Node) (ancestors : List Ancestor) (first : Nat),
      ∀ c ∈ siblings ancestors first ns, P c
  | [], _, _ => by simp [siblings]
  | n :: ns, ancestors, first => by
    intro c hc
    rcases List.mem_cons.1 hc with rfl | hc
    · exact induction_node h n false ancestors first
    · exact induction_nodes h ns ancestors _ c hc

end

/-- What passes from the children of a place to the place holds of every place. -/
@[elab_as_elim]
theorem induction {P : Place → Prop} (step : ∀ p, (∀ c ∈ p.children, P c) → P p) (p : Place) :
    P p :=
  induction_node step p.node p.hosted p.ancestors p.index

theorem placesList_eq (ancestors : List Ancestor) (first : Nat) (ns : List Node) :
    Node.placesList ancestors first ns = (siblings ancestors first ns).flatMap places := by
  induction ns generalizing first with
  | nil => rfl
  | cons n ns ih => rw [Node.placesList, ih, siblings, List.flatMap_cons, places]

theorem places_eq (p : Place) : p.places = p :: p.children.flatMap places := by
  obtain ⟨index, ⟨kind, attributes, nodes⟩, hosted, ancestors⟩ := p
  rw [children, ← placesList_eq]
  rfl

theorem forall_mem_places {P : Place → Prop} {p : Place} :
    (∀ q ∈ p.places, P q) ↔ P p ∧ ∀ c ∈ p.children, ∀ q ∈ c.places, P q := by
  rw [places_eq, List.forall_mem_cons, List.forall_mem_flatMap]

/-- What passes from every place to its children passes to all places below. -/
theorem of_mem_places {P : Place → Prop} (hchild : ∀ p, P p → ∀ c ∈ p.children, P c) {p q : Place}
    (hp : P p) (hq : q ∈ p.places) : P q := by
  induction p using Place.induction with
  | step p ih =>
    rw [places_eq, List.mem_cons, List.mem_flatMap] at hq
    rcases hq with rfl | ⟨c, hc, hq⟩
    · exact hp
    · exact ih c hc (hchild p hp c hc) hq

theorem map_index_siblings {ancestors : List Ancestor} {first : Nat} {ns : List Node}
    (h : ∀ c ∈ siblings ancestors first ns,
      c.places.map index = List.range' c.index c.node.size) :
    ((siblings ancestors first ns).flatMap places).map index =
      List.range' first (Node.sizes ns) := by
  induction ns generalizing first with
  | nil => rfl
  | cons n ns ih =>
    rw [siblings, List.forall_mem_cons] at h
    rw [siblings, List.flatMap_cons, List.map_append, h.1, ih h.2, Node.sizes, List.range'_append_1]

/-- The places are numbered in document order, without a gap. -/
theorem map_index_places (p : Place) :
    p.places.map index = List.range' p.index p.node.size := by
  induction p using Place.induction with
  | step p ih =>
    rw [places_eq, List.map_cons, children, map_index_siblings ih]
    obtain ⟨index, ⟨kind, attributes, nodes⟩, hosted, ancestors⟩ := p
    rw [Node.size, Nat.add_comm 1, List.range'_succ]

theorem length_places (p : Place) : p.places.length = p.node.size := by
  rw [← List.length_map index, map_index_places, List.length_range']

/-- All places below, in document order. -/
def descendants (p : Place) : List Place := p.children.flatMap places

theorem forall_mem_descendants {P : Place → Prop} {p : Place} :
    (∀ q ∈ p.descendants, P q) ↔ ∀ c ∈ p.children, ∀ q ∈ c.places, P q :=
  List.forall_mem_flatMap

theorem map_index_descendants (p : Place) :
    p.descendants.map index = List.range' (p.index + 1) p.descendants.length := by
  have hindices : p.index :: p.descendants.map index = List.range' p.index p.node.size := by
    rw [← map_index_places, places_eq]
    rfl
  have hsize : p.node.size = p.descendants.length + 1 := by
    have hlength := congrArg List.length hindices
    simpa using hlength.symm
  rw [hsize, List.range'_succ, List.cons.injEq] at hindices
  exact hindices.2

theorem lt_index_descendants (p : Place) : ∀ q ∈ p.descendants, p.index < q.index := by
  intro q h
  have hmem : q.index ∈ List.range' (p.index + 1) p.descendants.length := by
    rw [← map_index_descendants]
    exact List.mem_map_of_mem h
  exact (List.mem_range'_1.1 hmem).1

/-- The index of a place tells where it stands below another one. -/
theorem getElem?_descendants {p q : Place} (h : q ∈ p.descendants) :
    p.descendants[q.index - (p.index + 1)]? = some q := by
  obtain ⟨i, hi⟩ := List.mem_iff_getElem?.1 h
  have hlt : i < p.descendants.length := (List.getElem?_eq_some_iff.1 hi).1
  have hindex : (p.descendants.map index)[i]? = some q.index := by
    rw [List.getElem?_map, hi]
    rfl
  rw [map_index_descendants, List.getElem?_range' hlt, Option.some.injEq] at hindex
  have hposition : q.index - (p.index + 1) = i := by omega
  rw [hposition, hi]

theorem mem_places_self (p : Place) : p ∈ p.places := by
  rw [places_eq]
  exact List.mem_cons_self

theorem mem_places_of_child {p c q : Place} (hc : c ∈ p.children) (hq : q ∈ c.places) :
    q ∈ p.places := by
  rw [places_eq]
  exact List.mem_cons_of_mem p (List.mem_flatMap.2 ⟨c, hc, hq⟩)

theorem child_mem_places {root p c : Place} (hp : p ∈ root.places) (hc : c ∈ p.children) :
    c ∈ root.places := by
  induction root using Place.induction with
  | step root ih =>
    rw [places_eq, List.mem_cons, List.mem_flatMap] at hp
    rcases hp with rfl | ⟨d, hd, hp⟩
    · exact mem_places_of_child hc c.mem_places_self
    · exact mem_places_of_child hd (ih d hd hp)

theorem mem_places_trans {root p q : Place} (hp : p ∈ root.places) (hq : q ∈ p.places) :
    q ∈ root.places :=
  of_mem_places (P := (· ∈ root.places)) (fun _ hp _ hc => child_mem_places hp hc) hp hq

theorem mem_places_of_mem_descendants {root p q : Place} (hp : p ∈ root.places)
    (hq : q ∈ p.descendants) : q ∈ root.places := by
  obtain ⟨c, hc, hq⟩ := List.mem_flatMap.1 hq
  exact mem_places_trans (child_mem_places hp hc) hq

/-- Below the root nothing is hosted. -/
theorem hosted_of_mem_below {p c q : Place} (hc : c ∈ p.children) (hq : q ∈ c.places) :
    q.hosted = false :=
  of_mem_places (P := fun q => q.hosted = false) (fun _ _ _ hd => hosted_of_mem hd)
    (hosted_of_mem hc) hq

theorem tours_eq (ancestors : List Ancestor) (first : Nat) (ns : List Node) :
    Node.tours ancestors first ns = (siblings ancestors first ns).flatMap tour := by
  induction ns generalizing first with
  | nil => rfl
  | cons n ns ih => rw [Node.tours, ih, siblings, List.flatMap_cons, tour]

theorem tour_eq (p : Place) :
    p.tour = .enter p :: (p.children.flatMap tour ++ [.leave p]) := by
  obtain ⟨index, ⟨kind, attributes, nodes⟩, hosted, ancestors⟩ := p
  rw [children, ← tours_eq]
  rfl

end Place

/-- Only the root of a tree is hosted. -/
theorem Tree.eq_rootPlace_of_hosted {t : Tree} {p : Place} (hp : p ∈ t.places) (hh : p.hosted) :
    p = t.rootPlace := by
  have hplaces : p ∈ t.rootPlace.places := hp
  rw [Place.places_eq, List.mem_cons, List.mem_flatMap] at hplaces
  rcases hplaces with rfl | ⟨c, hc, hp⟩
  · rfl
  · simp [Place.hosted_of_mem_below hc hp] at hh

/-! ### Folds -/

namespace Node

mutual

/-- What a node gives, from what the nodes right below it give. -/
def fold {α : Type} (f : Place → List α → α) (hosted : Bool) (ancestors : List Ancestor)
    (index : Nat) : Node → α
  | ⟨kind, attributes, children⟩ =>
    let here : Place := ⟨index, ⟨kind, attributes, children⟩, hosted, ancestors⟩
    f here (foldAll f (here.asAncestor :: ancestors) (index + 1) children)

def foldAll {α : Type} (f : Place → List α → α) (ancestors : List Ancestor) (index : Nat) :
    List Node → List α
  | [] => []
  | n :: ns => fold f false ancestors index n :: foldAll f ancestors (index + n.size) ns

end

end Node

namespace Place

def fold {α : Type} (f : Place → List α → α) (p : Place) : α :=
  p.node.fold f p.hosted p.ancestors p.index

theorem foldAll_eq {α : Type} (f : Place → List α → α) (ancestors : List Ancestor) (first : Nat)
    (ns : List Node) :
    Node.foldAll f ancestors first ns = (siblings ancestors first ns).map (fold f) := by
  induction ns generalizing first with
  | nil => rfl
  | cons n ns ih => rw [Node.foldAll, ih, siblings, List.map_cons, fold]

theorem fold_eq {α : Type} (f : Place → List α → α) (p : Place) :
    p.fold f = f p (p.children.map (fold f)) := by
  obtain ⟨index, ⟨kind, attributes, nodes⟩, hosted, ancestors⟩ := p
  rw [children, ← foldAll_eq]
  rfl

end Place

/-! ### Walks and runs -/

namespace Visitor

variable (v : Visitor ε σ)

/-- The walk over several places in turn. -/
def walkAll (ps : List Place) (s : σ) : Except ε σ := ps.foldlM (fun s p => v.walk p s) s

@[simp] theorem walkAll_nil (s : σ) : v.walkAll [] s = .ok s := rfl

@[simp] theorem walkAll_cons (p : Place) (ps : List Place) (s : σ) :
    v.walkAll (p :: ps) s = v.walk p s >>= v.walkAll ps := by
  simp only [walkAll, List.foldlM_cons]
  rfl

theorem walkNodes_eq (ancestors : List Ancestor) (first : Nat) (ns : List Node) (s : σ) :
    v.walkNodes ancestors first ns s = v.walkAll (Place.siblings ancestors first ns) s := by
  induction ns generalizing first s with
  | nil => rfl
  | cons n ns ih =>
    rw [walkNodes, Place.siblings, walkAll_cons, walk]
    congr 1
    funext s
    exact ih _ s

/-- A place is entered, then the places below it are walked, then it is left. -/
theorem walk_eq (p : Place) (s : σ) :
    v.walk p s = v.enter p s >>= fun s => v.walkAll p.children s >>= v.leave p := by
  obtain ⟨index, ⟨kind, attributes, nodes⟩, hosted, ancestors⟩ := p
  rw [walk, walkNode]
  congr 1
  funext s
  rw [walkNodes_eq]
  rfl

theorem walkAll_fixed {ps : List Place} {s : σ} (h : ∀ p ∈ ps, v.walk p s = .ok s) :
    v.walkAll ps s = .ok s := by
  induction ps with
  | nil => rfl
  | cons p ps ih =>
    rw [walkAll_cons, h p List.mem_cons_self]
    exact ih fun q hq => h q (List.mem_cons_of_mem p hq)

/-- The visitor goes through a list of events and stops at its first fault. -/
def run (events : List Event) (s : σ) : Except ε σ := events.foldlM (fun s e => v.step e s) s

@[simp] theorem run_nil (s : σ) : v.run [] s = .ok s := rfl

@[simp] theorem run_cons (e : Event) (events : List Event) (s : σ) :
    v.run (e :: events) s = v.step e s >>= v.run events := by
  simp only [run, List.foldlM_cons]
  rfl

@[simp] theorem run_append (first rest : List Event) (s : σ) :
    v.run (first ++ rest) s = v.run first s >>= v.run rest := by
  simp only [run, List.foldlM_append]
  rfl

theorem walkAll_eq_run {ps : List Place} (h : ∀ p ∈ ps, ∀ s, v.walk p s = v.run p.tour s) (s : σ) :
    v.walkAll ps s = v.run (ps.flatMap Place.tour) s := by
  induction ps generalizing s with
  | nil => rfl
  | cons p ps ih =>
    rw [walkAll_cons, List.flatMap_cons, run_append, h p List.mem_cons_self]
    congr 1
    funext s
    exact ih (fun q hq => h q (List.mem_cons_of_mem p hq)) s

/-- A walk is the run over the tour of its start. -/
theorem walk_eq_run (p : Place) (s : σ) : v.walk p s = v.run p.tour s := by
  induction p using Place.induction generalizing s with
  | step p ih =>
    rw [walk_eq, Place.tour_eq, run_cons]
    congr 1
    funext s
    rw [v.walkAll_eq_run ih, run_append]
    congr 1
    funext s
    exact (bind_pure (v.leave p s)).symm

/-- In a run without a fault every event is taken without one. -/
theorem step_ok_of_run {events : List Event} {s s' : σ} (h : v.run events s = .ok s') {e : Event}
    (he : e ∈ events) : ∃ u u', v.step e u = .ok u' := by
  induction events generalizing s with
  | nil => simp at he
  | cons d events ih =>
    rw [run_cons, bind_eq_ok] at h
    obtain ⟨u, hu, hrest⟩ := h
    rcases List.mem_cons.1 he with rfl | hmem
    · exact ⟨s, u, hu⟩
    · exact ih hrest hmem

/-- A run without a fault has none in any of its beginnings. -/
theorem run_ok_of_append {first rest : List Event} {s s' : σ}
    (h : v.run (first ++ rest) s = .ok s') : ∃ u, v.run first s = .ok u := by
  rw [run_append, bind_eq_ok] at h
  obtain ⟨u, hu, -⟩ := h
  exact ⟨u, hu⟩

/-- What holds at the beginning of a run and is preserved by every step holds at its end. -/
theorem run_invariant {P : σ → Prop} (hstep : ∀ e s s', P s → v.step e s = .ok s' → P s')
    {events : List Event} {s s' : σ} (hs : P s) (h : v.run events s = .ok s') : P s' := by
  induction events generalizing s with
  | nil =>
    cases h
    exact hs
  | cons e events ih =>
    rw [run_cons, bind_eq_ok] at h
    obtain ⟨u, hu, hrest⟩ := h
    exact ih (hstep e s u hs hu) hrest

theorem walk_invariant {P : σ → Prop} (henter : ∀ p s s', P s → v.enter p s = .ok s' → P s')
    (hleave : ∀ p s s', P s → v.leave p s = .ok s' → P s') {p : Place} {s s' : σ} (hs : P s)
    (h : v.walk p s = .ok s') : P s' := by
  rw [walk_eq_run] at h
  refine v.run_invariant (fun e s s' hs hstep => ?_) hs h
  cases e with
  | enter p => exact henter p s s' hs hstep
  | leave p => exact hleave p s s' hs hstep

section Image

variable {τ : Type} (w : Visitor ε τ) (f : σ → τ)

/-- A view of the state that commutes with every step commutes with the run. -/
theorem run_map {events : List Event}
    (hstep : ∀ e ∈ events, ∀ s, (v.step e s).map f = w.step e (f s)) (s : σ) :
    (v.run events s).map f = w.run events (f s) := by
  induction events generalizing s with
  | nil => rfl
  | cons e events ih =>
    have hrest := ih fun d hd => hstep d (List.mem_cons_of_mem e hd)
    have he := hstep e List.mem_cons_self s
    rw [run_cons, run_cons, ← he]
    cases v.step e s with
    | error fault => rfl
    | ok u => exact hrest u

/-- A view that follows every step without a fault follows the run without a fault. -/
theorem run_image {events : List Event}
    (hstep : ∀ e ∈ events, ∀ s s', v.step e s = .ok s' → w.step e (f s) = .ok (f s')) {s s' : σ}
    (h : v.run events s = .ok s') : w.run events (f s) = .ok (f s') := by
  induction events generalizing s with
  | nil =>
    cases h
    rfl
  | cons e events ih =>
    rw [run_cons, bind_eq_ok] at h
    obtain ⟨u, hu, hrest⟩ := h
    rw [run_cons, hstep e List.mem_cons_self s u hu]
    exact ih (fun d hd => hstep d (List.mem_cons_of_mem e hd)) hrest

end Image

/-- A state that no event changes is the end of the run. -/
theorem run_fixed {events : List Event} {s : σ} (h : ∀ e ∈ events, v.step e s = .ok s) :
    v.run events s = .ok s := by
  induction events with
  | nil => rfl
  | cons e events ih =>
    rw [run_cons, h e List.mem_cons_self]
    exact ih fun d hd => h d (List.mem_cons_of_mem e hd)

end Visitor

/-! ### Events of a tour -/

/-- Where an event happens. -/
def Event.place : Event → Place
  | .enter p => p
  | .leave p => p

/-- The events of a tour are the entries and exits of the places from its start on. -/
theorem Place.mem_tour_iff {p : Place} {e : Event} : e ∈ p.tour ↔ e.place ∈ p.places := by
  induction p using Place.induction with
  | step p ih =>
    have hbelow : (∃ c ∈ p.children, e ∈ c.tour) ↔ ∃ c ∈ p.children, e.place ∈ c.places :=
      exists_congr fun c => and_congr_right fun hc => ih c hc
    rw [tour_eq, places_eq]
    simp only [List.mem_cons, List.mem_append, List.mem_flatMap, List.not_mem_nil, or_false, hbelow]
    cases e <;> simp [Event.place, or_comm]

/-- Each beginning of the events enters the places that it leaves. -/
def Event.EntersFirst (events : List Event) : Prop :=
  ∀ before, before <+: events → ∀ p, .leave p ∈ before → .enter p ∈ before

theorem Event.EntersFirst.append {first rest : List Event} (hfirst : EntersFirst first)
    (hrest : EntersFirst rest) : EntersFirst (first ++ rest) := by
  rintro before ⟨after, h⟩ p hp
  rcases List.append_eq_append_iff.1 h with ⟨behind, rfl, -⟩ | ⟨more, rfl, rfl⟩
  · exact hfirst before (List.prefix_append ..) p hp
  · rw [List.mem_append] at hp ⊢
    exact hp.imp (hfirst first List.prefix_rfl p) (hrest more (List.prefix_append ..) p)

theorem Event.entersFirst_flatMap {ps : List Place} (h : ∀ p ∈ ps, EntersFirst p.tour) :
    EntersFirst (ps.flatMap Place.tour) := by
  induction ps with
  | nil =>
    intro before hbefore p hp
    simp [List.prefix_nil.1 hbefore] at hp
  | cons p ps ih =>
    rw [List.forall_mem_cons] at h
    exact h.1.append (ih h.2)

/-- A tour leaves no place that it has not entered before. -/
theorem Place.entersFirst_tour (p : Place) : Event.EntersFirst p.tour := by
  induction p using Place.induction with
  | step p ih =>
    have hinside := Event.entersFirst_flatMap ih
    rw [tour_eq]
    intro before hbefore q hq
    rcases List.prefix_cons_iff.1 hbefore with rfl | ⟨inner, rfl, hinner⟩
    · simp at hq
    -- the place itself is left only at the end
    rcases List.prefix_concat_iff.1 hinner with rfl | hinner
    · simp only [List.mem_cons, List.mem_append, List.not_mem_nil, or_false, reduceCtorEq,
        false_or, Event.leave.injEq, Event.enter.injEq] at hq ⊢
      exact hq.symm.imp_right (hinside _ List.prefix_rfl q)
    · simp only [List.mem_cons, reduceCtorEq, false_or] at hq
      exact List.mem_cons_of_mem _ (hinside inner hinner q hq)

/-- A visitor that no place of a walk moves stands still. -/
theorem Visitor.walk_fixed (v : Visitor ε σ) {s : σ} {p : Place}
    (h : ∀ q ∈ p.places, v.enter q s = .ok s ∧ v.leave q s = .ok s) : v.walk p s = .ok s := by
  rw [walk_eq_run]
  apply v.run_fixed
  intro e he
  have hplace := h _ (Place.mem_tour_iff.1 he)
  cases e with
  | enter q => exact hplace.1
  | leave q => exact hplace.2

end Widgetry
