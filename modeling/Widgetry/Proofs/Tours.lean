import Widgetry.Proofs.Arena
import Mathlib.Data.List.Perm.Basic

/-! Tours of a tree. A walk is the run of its visitor over the tour of its start: every place from
there on is entered once, in document order, and left once, behind all that is below it. A walk that
fails has seen the tour up to the event at which it fails. A recursion through the indices of
children ends with the same result, so that the walk does not depend on how the tree is stored.
Between two events a walk stands below a chain of nodes, and what every event carries over from the
chain before it to the chain behind it is true wherever the walk stands. -/

namespace Widgetry

variable {ε σ : Type}

/-! ### Entrances and exits -/

namespace Event

/-- The place that an event enters. -/
def entered? : Event → Option Place
  | .enter p => some p
  | .leave _ => none

/-- The place that an event leaves. -/
def left? : Event → Option Place
  | .enter _ => none
  | .leave p => some p

end Event

namespace Place

/-- The places of a tour are entered in document order. -/
theorem filterMap_entered?_tour (p : Place) : p.tour.filterMap Event.entered? = p.places := by
  induction p using Place.induction with
  | step p ih =>
    have hchildren : (p.children.flatMap tour).filterMap Event.entered? =
        p.children.flatMap places := by
      rw [List.filterMap_flatMap]
      exact List.flatMap_congr ih
    rw [tour_eq, places_eq]
    simp [Event.entered?, hchildren]

/-- Every place of a tour is left once. -/
theorem filterMap_left?_tour (p : Place) : (p.tour.filterMap Event.left?).Perm p.places := by
  induction p using Place.induction with
  | step p ih =>
    have hchildren : ((p.children.flatMap tour).filterMap Event.left?).Perm
        (p.children.flatMap places) := by
      rw [List.filterMap_flatMap]
      exact List.Perm.flatMap_left _ ih
    have htour : p.tour.filterMap Event.left? =
        (p.children.flatMap tour).filterMap Event.left? ++ [p] := by
      rw [tour_eq, List.filterMap_cons_none rfl, List.filterMap_append]
      rfl
    rw [htour, places_eq]
    exact (List.perm_append_singleton p _).trans (hchildren.cons p)

end Place

/-! ### Above and below -/

namespace Place

theorem mem_places_iff {p q : Place} : q ∈ p.places ↔ q = p ∨ q ∈ p.descendants := by
  rw [places_eq, List.mem_cons]
  rfl

theorem mem_descendants_of_child {root p c : Place} (hp : p ∈ root.places) (hc : c ∈ p.children) :
    c ∈ root.descendants := by
  rcases mem_places_iff.1 hp with rfl | hp
  · exact List.mem_flatMap.2 ⟨c, hc, c.mem_places_self⟩
  · obtain ⟨d, hd, hp⟩ := List.mem_flatMap.1 hp
    exact List.mem_flatMap.2 ⟨d, hd, child_mem_places hp hc⟩

/-- What is below a place is right below it or below something below it. -/
theorem exists_parent_of_mem_descendants {root c : Place} (h : c ∈ root.descendants) :
    ∃ p ∈ root.places, c ∈ p.children := by
  induction root using Place.induction with
  | step root ih =>
    obtain ⟨d, hd, hc⟩ := List.mem_flatMap.1 h
    rcases mem_places_iff.1 hc with rfl | hc
    · exact ⟨root, root.mem_places_self, hd⟩
    · obtain ⟨p, hp, hc⟩ := ih d hd hc
      exact ⟨p, mem_places_of_child hd hp, hc⟩

end Place

namespace Tree

variable {t : Tree}

theorem mem_places_of_mem {p q : Place} (hp : p ∈ t.places) (hq : q ∈ p.places) : q ∈ t.places := by
  have hroot : p ∈ t.rootPlace.places := hp
  exact Place.mem_places_trans hroot hq

/-- The ancestors of a place are the places that have it below them. -/
theorem mem_ancestors_iff {a : Ancestor} : ∀ p ∈ t.places,
    (a ∈ p.ancestors ↔ ∃ q ∈ t.places, p ∈ q.descendants ∧ q.asAncestor = a) := by
  refine forall_places ?_ ?_
  · refine ⟨fun h => absurd h List.not_mem_nil, ?_⟩
    rintro ⟨q, -, hbelow, -⟩
    exact absurd (q.lt_index_descendants _ hbelow) (Nat.not_lt_zero _)
  · intro p hp ih c hc
    rw [Place.ancestors_of_mem hc, List.mem_cons, ih]
    constructor
    · rintro (rfl | ⟨q, hq, hbelow, rfl⟩)
      · exact ⟨p, hp, Place.mem_descendants_of_child p.mem_places_self hc, rfl⟩
      · exact ⟨q, hq, Place.mem_descendants_of_child (Place.mem_places_iff.2 (.inr hbelow)) hc, rfl⟩
    · rintro ⟨q, hq, hbelow, rfl⟩
      obtain ⟨p', hp', hc'⟩ := Place.exists_parent_of_mem_descendants hbelow
      -- a place is right below one place only
      have hsame : p.asAncestor = p'.asAncestor :=
        Option.some.inj ((Place.parent_of_mem hc).symm.trans (Place.parent_of_mem hc'))
      obtain rfl := eq_of_index_eq hp (mem_places_of_mem hq hp') (congrArg Ancestor.index hsame)
      rcases Place.mem_places_iff.1 hp' with rfl | hp'
      · exact .inl rfl
      · exact .inr ⟨q, hq, hp', rfl⟩

/-- A place is in the subtree of another exactly if the other is on the chain down to it. -/
theorem mem_places_iff_indices {p q : Place} (hp : p ∈ t.places) :
    q ∈ p.places ↔ q ∈ t.places ∧ p.index ∈ q.indices := by
  constructor
  · intro h
    have hq := mem_places_of_mem hp h
    refine ⟨hq, ?_⟩
    rw [Place.indices, List.mem_append, List.mem_reverse, List.mem_map, List.mem_singleton]
    rcases Place.mem_places_iff.1 h with rfl | hbelow
    · exact .inr rfl
    · exact .inl ⟨p.asAncestor, (mem_ancestors_iff q hq).2 ⟨p, hp, hbelow, rfl⟩, rfl⟩
  · rintro ⟨hq, h⟩
    rw [Place.indices, List.mem_append, List.mem_reverse, List.mem_map, List.mem_singleton] at h
    rw [Place.mem_places_iff]
    rcases h with ⟨a, ha, hindex⟩ | hindex
    · obtain ⟨p', hp', hbelow, rfl⟩ := (mem_ancestors_iff q hq).1 ha
      obtain rfl := eq_of_index_eq hp' hp hindex
      exact .inr hbelow
    · exact .inl (eq_of_index_eq hq hp hindex.symm)

end Tree

/-! ### Where a walk stands -/

namespace Event

/-- The nodes around a walk before an event, the nearest first. -/
def chainBefore : Event → List Ancestor
  | .enter p => p.ancestors
  | .leave p => p.asAncestor :: p.ancestors

/-- The nodes around a walk behind an event. -/
def chainAfter : Event → List Ancestor
  | .enter p => p.asAncestor :: p.ancestors
  | .leave p => p.ancestors

/-- Events lead from a chain to a chain: each happens where the one before it has led. -/
def Leads (start : List Ancestor) : List Event → List Ancestor → Prop
  | [], stop => start = stop
  | e :: events, stop => e.chainBefore = start ∧ Leads e.chainAfter events stop

theorem leads_append {start stop : List Ancestor} {first rest : List Event} :
    Leads start (first ++ rest) stop ↔ ∃ chain, Leads start first chain ∧ Leads chain rest stop := by
  induction first generalizing start with
  | nil => simp [Leads]
  | cons e first ih =>
    simp only [List.cons_append, Leads, ih]
    constructor
    · rintro ⟨hstart, chain, hfirst, hrest⟩
      exact ⟨chain, ⟨hstart, hfirst⟩, hrest⟩
    · rintro ⟨chain, ⟨hstart, hfirst⟩, hrest⟩
      exact ⟨hstart, chain, hfirst, hrest⟩

theorem leads_flatMap {chain : List Ancestor} {ps : List Place}
    (h : ∀ p ∈ ps, Leads chain p.tour chain) : Leads chain (ps.flatMap Place.tour) chain := by
  induction ps with
  | nil => rfl
  | cons p ps ih =>
    rw [List.forall_mem_cons] at h
    rw [List.flatMap_cons, leads_append]
    exact ⟨chain, h.1, ih h.2⟩

theorem place_mem_of_tour {p : Place} {before after : List Event} {e : Event}
    (h : p.tour = before ++ e :: after) : e.place ∈ p.places := by
  rw [← Place.mem_tour_iff, h]
  simp

/-- A tour comes back to where it began. -/
theorem leads_tour (p : Place) : Leads p.ancestors p.tour p.ancestors := by
  induction p using Place.induction with
  | step p ih =>
    have hchildren : Leads (p.asAncestor :: p.ancestors) (p.children.flatMap Place.tour)
        (p.asAncestor :: p.ancestors) := by
      refine leads_flatMap fun c hc => ?_
      rw [← Place.ancestors_of_mem hc]
      exact ih c hc
    rw [Place.tour_eq]
    exact ⟨rfl, leads_append.2 ⟨_, hchildren, rfl, rfl⟩⟩

end Event

namespace Visitor

variable {v : Visitor ε σ} {I : List Ancestor → σ → Prop}

/-- What every event carries over from chain to chain, a run carries over. -/
theorem run_along {events : List Event}
    (hstep : ∀ e ∈ events, ∀ s s', I e.chainBefore s → v.step e s = .ok s' → I e.chainAfter s')
    {start stop : List Ancestor} (hleads : Event.Leads start events stop) {s s' : σ}
    (hs : I start s) (h : v.run events s = .ok s') : I stop s' := by
  induction events generalizing start s with
  | nil =>
    cases h
    exact hleads ▸ hs
  | cons e events ih =>
    obtain ⟨rfl, hrest⟩ := hleads
    rw [List.forall_mem_cons] at hstep
    rw [run_cons, bind_eq_ok] at h
    obtain ⟨u, hu, h⟩ := h
    exact ih hstep.2 hrest (hstep.1 s u hs hu) h

/-- So it holds before each event that a walk comes to. -/
theorem holds_before {p : Place}
    (hstep : ∀ e ∈ p.tour, ∀ s s', I e.chainBefore s → v.step e s = .ok s' → I e.chainAfter s')
    {before after : List Event} {e : Event} (htour : p.tour = before ++ e :: after) {s u : σ}
    (hs : I p.ancestors s) (h : v.run before s = .ok u) : I e.chainBefore u := by
  have hleads := Event.leads_tour p
  rw [htour, Event.leads_append] at hleads
  obtain ⟨chain, hbefore, hevent, -⟩ := hleads
  rw [hevent]
  refine run_along (fun d hd => hstep d ?_) hbefore hs h
  rw [htour]
  exact List.mem_append_left _ hd

end Visitor

/-! ### The first fault -/

namespace Visitor

variable (v : Visitor ε σ)

/-- The visitor takes an event down before it takes it. -/
def log (e : Event) (s : List Event × σ) : Except (ε × List Event) (List Event × σ) :=
  match v.step e s.2 with
  | .ok u => .ok (s.1 ++ [e], u)
  | .error fault => .error (fault, s.1 ++ [e])

/-- The visitor with the list of the events that it has seen; a fault brings the list along. -/
def logging : Visitor (ε × List Event) (List Event × σ) where
  enter p := v.log (.enter p)
  leave p := v.log (.leave p)

theorem step_logging (e : Event) (s : List Event × σ) : v.logging.step e s = v.log e s := by
  cases e <;> rfl

theorem run_logging_eq_ok {events seen seen' : List Event} {s s' : σ} :
    v.logging.run events (seen, s) = .ok (seen', s') ↔
      v.run events s = .ok s' ∧ seen' = seen ++ events := by
  induction events generalizing seen s with
  | nil => simp [eq_comm, and_comm]
  | cons e events ih =>
    rw [run_cons, run_cons, step_logging, log]
    cases v.step e s with
    | error fault => simp
    | ok u => simp [ih]

/-- A run fails at an event in front of which it does not fail, and has seen no event behind. -/
theorem run_logging_eq_error {events seen seen' : List Event} {s : σ} {fault : ε} :
    v.logging.run events (seen, s) = .error (fault, seen') ↔
      ∃ before e after u, events = before ++ e :: after ∧ seen' = seen ++ (before ++ [e]) ∧
        v.run before s = .ok u ∧ v.step e u = .error fault := by
  constructor
  · intro h
    induction events generalizing seen s with
    | nil => simp at h
    | cons e events ih =>
      rw [run_cons, step_logging, log] at h
      cases hstep : v.step e s with
      | error fault' =>
        rw [hstep, error_bind, Except.error.injEq, Prod.mk.injEq] at h
        obtain ⟨rfl, rfl⟩ := h
        exact ⟨[], e, events, s, rfl, rfl, rfl, hstep⟩
      | ok u =>
        rw [hstep] at h
        obtain ⟨before, d, after, w, rfl, rfl, hrun, hfault⟩ := ih h
        exact ⟨e :: before, d, after, w, rfl, by simp, by simp [hstep, hrun], hfault⟩
  · rintro ⟨before, e, after, u, rfl, rfl, hrun, hfault⟩
    rw [run_append, v.run_logging_eq_ok.2 ⟨hrun, rfl⟩, ok_bind, run_cons, step_logging, log, hfault,
      error_bind, List.append_assoc]

/-- Taking events down changes nothing else. -/
theorem run_eq_error_iff_logging {events seen : List Event} {s : σ} {fault : ε} :
    v.run events s = .error fault ↔
      ∃ seen', v.logging.run events (seen, s) = .error (fault, seen') := by
  induction events generalizing seen s with
  | nil => simp
  | cons e events ih =>
    rw [run_cons, run_cons, step_logging, log]
    cases v.step e s with
    | error fault' => simp
    | ok u =>
      rw [ok_bind, ok_bind]
      exact ih

end Visitor

/-! ### Recursion through indices -/

namespace Tree

section Walks

variable (t : Tree) (v : Visitor ε σ)

mutual

/-- The walk from an index comes to an end: the node is looked up and entered, the indices of its
children are walked in turn, and it is left. -/
inductive Walks : Nat → σ → Except ε σ → Prop
  | stopped {i : Nat} {p : Place} {s : σ} {fault : ε} (here : t.place? i = some p)
      (enter : v.enter p s = .error fault) : Walks i s (.error fault)
  | entered {i : Nat} {p : Place} {s s' : σ} {inside : Except ε σ} (here : t.place? i = some p)
      (enter : v.enter p s = .ok s') (below : WalksAll p.childIndices s' inside) :
      Walks i s (inside >>= v.leave p)

/-- The walks from several indices in turn come to an end. -/
inductive WalksAll : List Nat → σ → Except ε σ → Prop
  | done (s : σ) : WalksAll [] s (.ok s)
  | stopped {i : Nat} {is : List Nat} {s : σ} {fault : ε} (first : Walks i s (.error fault)) :
      WalksAll (i :: is) s (.error fault)
  | next {i : Nat} {is : List Nat} {s s' : σ} {result : Except ε σ} (first : Walks i s (.ok s'))
      (rest : WalksAll is s' result) : WalksAll (i :: is) s result

end

end Walks

variable {t : Tree} {v : Visitor ε σ}

theorem walksAll_iff {ps : List Place}
    (h : ∀ p ∈ ps, ∀ s result, t.Walks v p.index s result ↔ result = v.walk p s) {s : σ}
    {result : Except ε σ} :
    t.WalksAll v (ps.map Place.index) s result ↔ result = v.walkAll ps s := by
  induction ps generalizing s result with
  | nil =>
    constructor
    · rintro ⟨⟩
      rfl
    · rintro rfl
      exact .done s
  | cons p ps ih =>
    rw [List.forall_mem_cons] at h
    rw [List.map_cons, Visitor.walkAll_cons]
    constructor
    · intro hwalks
      cases hwalks with
      | stopped first => rw [← (h.1 _ _).1 first, error_bind]
      | next first rest =>
        rw [← (h.1 _ _).1 first, ok_bind]
        exact (ih h.2).1 rest
    · rintro rfl
      cases hfirst : v.walk p s with
      | error fault => exact .stopped ((h.1 _ _).2 hfirst.symm)
      | ok s' =>
        rw [ok_bind]
        exact .next ((h.1 _ _).2 hfirst.symm) ((ih h.2).2 rfl)

/-- The recursion from a place ends with the walk over the place, and with nothing else. -/
theorem walks_iff {p : Place} (hp : p ∈ t.places) {s : σ} {result : Except ε σ} :
    t.Walks v p.index s result ↔ result = v.walk p s := by
  induction p using Place.induction generalizing s result with
  | step p ih =>
    have hbelow : ∀ {s result}, t.WalksAll v p.childIndices s result ↔
        result = v.walkAll p.children s := by
      intro s result
      rw [Place.childIndices_eq]
      exact walksAll_iff fun c hc s result => ih c hc (child_mem hp hc)
    have hplace : ∀ {q}, t.place? p.index = some q → q = p := by
      intro q hq
      rw [place_index hp] at hq
      exact (Option.some.inj hq).symm
    rw [Visitor.walk_eq]
    constructor
    · intro hwalks
      cases hwalks with
      | stopped here enter =>
        obtain rfl := hplace here
        rw [enter, error_bind]
      | entered here enter below =>
        obtain rfl := hplace here
        rw [enter, ok_bind, hbelow.1 below]
    · rintro rfl
      cases henter : v.enter p s with
      | error fault => exact .stopped (place_index hp) henter
      | ok s' => exact .entered (place_index hp) henter (hbelow.2 rfl)

theorem map_place?_childIndices {p : Place} (hp : p ∈ t.places) :
    p.childIndices.map t.place? = p.children.map some := by
  rw [Place.childIndices_eq, List.map_map]
  exact List.map_congr_left fun c hc => place_index (child_mem hp hc)

end Tree

/-! ### Walks -/

/-- A walk from a node ends, and it is the fold of the visitor over the tour of the node, which
enters the nodes of its subtree in document order and leaves each of them once. A walk without a
fault sees the whole tour, and a walk that fails sees it up to the event at which it fails. -/
theorem Visitor.walk_folds_tour (v : Visitor ε σ) {t : Tree} {start : Nat} {p : Place}
    (hp : t.place? start = some p) (s : σ) :
    (∀ result, t.Walks v start s result ↔ result = v.walk p s) ∧
    v.walk p s = p.tour.foldlM (fun s e => v.step e s) s ∧
    (p.tour = .enter p :: (p.children.flatMap Place.tour ++ [.leave p]) ∧
      p.children.map some = p.childIndices.map t.place?) ∧
    (p.tour.filterMap Event.entered?).map Place.index = List.range' start p.node.size ∧
    ((p.tour.filterMap Event.left?).map Place.index).Perm (List.range' start p.node.size) ∧
    (∀ e, e ∈ p.tour ↔ e.place ∈ t.places ∧ start ∈ e.place.indices) ∧
    (start = 0 → (p.tour.filterMap Event.entered?).map Place.index = List.range t.size) ∧
    (∀ s', v.walk p s = .ok s' ↔ v.logging.walk p ([], s) = .ok (p.tour, s')) ∧
    (∀ fault, v.walk p s = .error fault ↔
      ∃ seen, v.logging.walk p ([], s) = .error (fault, seen)) ∧
    ∀ fault seen, v.logging.walk p ([], s) = .error (fault, seen) ↔
      ∃ before e after u, p.tour = before ++ e :: after ∧ seen = before ++ [e] ∧
        v.run before s = .ok u ∧ v.step e u = .error fault := by
  obtain ⟨hmem, rfl⟩ := Tree.place?_eq_some_iff.1 hp
  have hindices := p.map_index_places
  rw [← p.filterMap_entered?_tour] at hindices
  refine ⟨fun result => Tree.walks_iff hmem, v.walk_eq_run p s,
    ⟨p.tour_eq, (Tree.map_place?_childIndices hmem).symm⟩, hindices, ?_, fun e => ?_, fun hzero => ?_,
    fun s' => ?_, fun fault => ?_, fun fault seen => ?_⟩
  · rw [← p.map_index_places]
    exact p.filterMap_left?_tour.map Place.index
  · rw [Place.mem_tour_iff, Tree.mem_places_iff_indices hmem]
  · obtain rfl := Tree.eq_of_index_eq hmem t.rootPlace_mem hzero
    rw [hindices, List.range_eq_range']
    rfl
  · rw [walk_eq_run, walk_eq_run, run_logging_eq_ok]
    simp
  · rw [walk_eq_run, walk_eq_run]
    exact v.run_eq_error_iff_logging
  · rw [walk_eq_run, run_logging_eq_error]
    simp only [List.nil_append]

/-- A window with a bar of two items and a button. -/
def barWindow : Tree where
  root := ⟨"Window", .empty,
    [⟨"Toolbar", .empty, [⟨"ToolbarItem", .empty, []⟩, ⟨"Button", .empty, []⟩]⟩,
     ⟨"Button", .empty, []⟩]⟩
  hosted := false

/-- Counts entrances and stops where a button is left. -/
def stopAtButton : Visitor String Nat where
  enter _ n := .ok (n + 1)
  leave p n := if p.kind = "Button" then .error "stopped" else .ok n

/-- From the bar on, the walk stops at the button in the bar and sees no event behind it. -/
theorem barWindow_stopped :
    ∃ bar, barWindow.place? 1 = some bar ∧
      (∀ result, barWindow.Walks stopAtButton 1 0 result ↔ result = .error "stopped") ∧
      ∃ seen, stopAtButton.logging.walk bar ([], 0) = .error ("stopped", seen) ∧
        seen.map (·.place.index) = [1, 2, 2, 3, 3] ∧ seen <+: bar.tour := by
  obtain ⟨bar, hbar⟩ : ∃ bar, barWindow.place? 1 = some bar := ⟨_, rfl⟩
  have hwalk : stopAtButton.walk bar 0 = .error "stopped" := by
    cases hbar
    rfl
  obtain ⟨hends, -, -, -, -, -, -, -, hfails, hstopped⟩ := stopAtButton.walk_folds_tour hbar 0
  obtain ⟨seen, hseen⟩ := (hfails "stopped").1 hwalk
  refine ⟨bar, hbar, fun result => by rw [hends, hwalk], seen, hseen, ?_, ?_⟩
  · cases hbar
    cases hseen
    rfl
  · obtain ⟨before, e, after, u, htour, rfl, -⟩ := (hstopped _ _).1 hseen
    exact ⟨after, by rw [htour]; simp⟩

end Widgetry
