import Widgetry.Proofs.Table
import Widgetry.Proofs.Walk
import Mathlib.Data.List.Forall2

/-! Trees as arenas. An arena is built row by row: an element gets the next row, its index goes to
the end of its parent's children, and then the elements inside it follow. The places of the tree of
an element are that arena, and an arena that is built so stands for the element: its rows are the
elements in document order, the indices of parents and of children say the same, and what is read
back along the children is the element. -/

namespace Widgetry

/-! ### Arenas -/

/-- A node in an arena, with the indices of the node above and of those right below. -/
structure Row where
  kind : String
  attributes : Table String
  parent : Option Nat
  children : List Nat
  hosted : Bool

abbrev Arena := List Row

namespace Arena

/-- The indices go to the end of a row's children. -/
def adopt (a : Arena) (i : Nat) (indices : List Nat) : Arena :=
  a.modify i fun row => { row with children := row.children ++ indices }

/-- A new row is linked to the row of its parent, if it has one. -/
def link (a : Arena) (parent : Option Nat) (index : Nat) : Arena :=
  match parent with
  | some i => adopt a i [index]
  | none => a

mutual

/-- Gives an element the next row, links the row to its parent, and goes on inside the element. -/
def attach (parent : Option Nat) : Markup.Element → Arena → Arena
  | ⟨tag, attributes, children⟩, a =>
    let row : Row :=
      ⟨tag, .ofList (attributes.map fun x => (x.name, x.value)), parent, [], false⟩
    attachAll a.length children (link (a ++ [row]) parent a.length)

def attachAll (parent : Nat) : List Markup.Element → Arena → Arena
  | [], a => a
  | e :: es, a => attachAll parent es (attach (some parent) e a)

end

/-- The arena of a container's single element; its first row may be hosted. -/
def ofContainer (container : Markup.Element) (hosted : Bool) : Except Fault Arena :=
  match container.children with
  | [] => .error (.of (.noRoot container.tag))
  | [root] => .ok ((attach none root []).modify 0 fun row => { row with hosted })
  | _ :: second :: rest =>
    .error (.of (.manyRoots container.tag (rest.length + 2) second.tag))

end Arena

/-! ### Places as rows -/

/-- What an arena keeps of a place. -/
def Place.row (p : Place) : Row :=
  ⟨p.kind, p.node.attributes, p.parent?.map (·.index), p.childIndices, p.hosted⟩

/-- The places of a tree as an arena. -/
def Tree.arena (t : Tree) : Arena := t.places.map Place.row

namespace Place

theorem siblingIndices_eq (ancestors : List Ancestor) (first : Nat) (ns : List Node) :
    siblingIndices first ns = (siblings ancestors first ns).map index := by
  induction ns generalizing first with
  | nil => rfl
  | cons n ns ih => rw [siblingIndices, siblings, List.map_cons, ih]

theorem childIndices_eq (p : Place) : p.childIndices = p.children.map index :=
  siblingIndices_eq ..

theorem row_children (p : Place) : p.row.children = p.children.map index := p.childIndices_eq

theorem sublist_flatMap_places (ps : List Place) : ps.Sublist (ps.flatMap places) := by
  induction ps with
  | nil => exact .slnil
  | cons p ps ih =>
    rw [List.flatMap_cons, places_eq, List.cons_append]
    exact (ih.trans (List.sublist_append_right _ _)).cons_cons p

/-- Children are numbered upwards. -/
theorem childIndices_increasing (p : Place) : p.childIndices.Pairwise (· < ·) := by
  have hsublist : (p.children.map index).Sublist (p.descendants.map index) :=
    (sublist_flatMap_places p.children).map index
  rw [map_index_descendants, ← childIndices_eq] at hsublist
  exact List.Pairwise.sublist hsublist List.pairwise_lt_range'

end Place

namespace Arena

theorem adopt_nil (a : Arena) (i : Nat) : adopt a i [] = a := by
  simp only [adopt, List.append_nil]
  exact List.modify_id i a

theorem adopt_adopt (a : Arena) (i : Nat) (first rest : List Nat) :
    adopt (adopt a i first) i rest = adopt a i (first ++ rest) := by
  rw [adopt, adopt, List.modify_modify_eq, adopt]
  congr 1
  funext row
  simp

theorem length_adopt (a : Arena) (i : Nat) (indices : List Nat) :
    (adopt a i indices).length = a.length := List.length_modify ..

theorem length_link (a : Arena) (parent : Option Nat) (index : Nat) :
    (link a parent index).length = a.length := by
  cases parent with
  | none => rfl
  | some i => exact length_adopt ..

theorem adopt_append {a : Arena} {i : Nat} (h : i < a.length) (b : Arena) (indices : List Nat) :
    adopt (a ++ b) i indices = adopt a i indices ++ b := modify_append_left h b

/-- A link touches no row behind. -/
theorem link_append {a : Arena} {parent : Option Nat} (h : ∀ i ∈ parent, i < a.length) (b : Arena)
    (index : Nat) : link (a ++ b) parent index = link a parent index ++ b := by
  cases parent with
  | none => rfl
  | some i => exact adopt_append (h i rfl) b _

mutual

/-- Attaching an element links the next row and adds the rows of its places. The row of the element
itself comes in without a host. -/
theorem attach_eq (hosted : Bool) {parent : Option Nat} {ancestors : List Ancestor}
    (hparent : ancestors.head?.map (·.index) = parent) :
    ∀ (e : Markup.Element) {a : Arena}, (∀ i ∈ parent, i < a.length) →
      attach parent e a = link a parent a.length ++
        { (Place.mk a.length (.ofElement e) hosted ancestors).row with hosted := false } ::
          (Place.mk a.length (.ofElement e) hosted ancestors).descendants.map Place.row
  | ⟨tag, attributes, children⟩, a, ha => by
    set row : Row :=
      ⟨tag, .ofList (attributes.map fun x => (x.name, x.value)), parent, [], false⟩ with hrow
    have hlength : (link a parent a.length).length = a.length := length_link ..
    have hin : a.length < (link a parent a.length ++ [row]).length := by simp [hlength]
    have hbelow : (⟨a.length, tag, hosted⟩ :: ancestors : List Ancestor).head?.map (·.index) =
        some a.length := rfl
    have hadopt : ∀ indices, adopt (link a parent a.length ++ [row]) a.length indices =
        link a parent a.length ++ [{ row with children := indices }] := by
      intro indices
      have hmodify := modify_length (f := fun row : Row =>
        { row with children := row.children ++ indices }) (link a parent a.length) row []
      rwa [hlength] at hmodify
    rw [attach, link_append ha, attachAll_eq hbelow children hin, hadopt, List.append_assoc,
      List.length_append, hlength]
    subst hparent
    rfl

/-- Elements that are attached one after the other become the children of a row, and the rows of
their places follow. -/
theorem attachAll_eq {i : Nat} {ancestors : List Ancestor}
    (hparent : ancestors.head?.map (·.index) = some i) :
    ∀ (es : List Markup.Element) {a : Arena}, i < a.length →
      attachAll i es a = adopt a i (Place.siblingIndices a.length (Node.ofElements es)) ++
        ((Place.siblings ancestors a.length (Node.ofElements es)).flatMap Place.places).map
          Place.row
  | [], a, hi => by
    rw [attachAll, Node.ofElements, Place.siblingIndices, adopt_nil]
    exact (List.append_nil a).symm
  | e :: es, a, hi => by
    have hin : ∀ k ∈ some i, k < a.length := by simpa using hi
    set p : Place := ⟨a.length, .ofElement e, false, ancestors⟩ with hp
    have hfirst : attach (some i) e a = adopt a i [a.length] ++ p.places.map Place.row := by
      rw [attach_eq false hparent e hin, Place.places_eq]
      rfl
    have hlength : (adopt a i [a.length] ++ p.places.map Place.row).length =
        a.length + (Node.ofElement e).size := by
      rw [List.length_append, length_adopt, List.length_map, Place.length_places]
    have hi' : i < (adopt a i [a.length] ++ p.places.map Place.row).length := by omega
    rw [attachAll, hfirst, attachAll_eq hparent es hi', hlength,
      adopt_append (by rwa [length_adopt]), adopt_adopt, Node.ofElements, Place.siblingIndices,
      Place.siblings, List.flatMap_cons, List.map_append, List.append_assoc, List.singleton_append]

end

/-- The arena of an element alone is that of its tree. -/
theorem attach_root (root : Markup.Element) (hosted : Bool) :
    (attach none root []).modify 0 (fun row => { row with hosted }) =
      Tree.arena ⟨.ofElement root, hosted⟩ := by
  have htop : ([] : List Ancestor).head?.map (·.index) = none := rfl
  have hnone : ∀ i ∈ (none : Option Nat), i < ([] : Arena).length := by simp
  have hplaces : Tree.places ⟨.ofElement root, hosted⟩ =
      Place.places ⟨0, .ofElement root, hosted, []⟩ := rfl
  rw [attach_eq hosted htop root hnone, Tree.arena, hplaces, Place.places_eq]
  rfl

/-- The arena that is built row by row is the arena of the tree. -/
theorem ofContainer_eq (container : Markup.Element) (hosted : Bool) :
    ofContainer container hosted = (Tree.ofContainer container hosted).map Tree.arena := by
  obtain ⟨tag, attributes, children⟩ := container
  match children with
  | [] => rfl
  | [root] => exact congrArg Except.ok (attach_root root hosted)
  | _ :: _ :: _ => rfl

end Arena

/-! ### What an arena stands for -/

/-- Attributes as a table: each key at its first place, with its last value. -/
structure Collects (table : Table String) (attributes : List Markup.Attribute) : Prop where
  keys : table.keys = (attributes.map (·.name)).eraseDups
  values : ∀ key, table.get? key = (attributes.map fun x => (x.name, x.value)).reverse.lookup key

namespace Arena

/-- Reading from a row along the children gives the element. -/
inductive Reads (a : Arena) : Nat → Markup.Element → Prop
  | row {i : Nat} {row : Row} {e : Markup.Element} (here : a[i]? = some row)
      (kind : row.kind = e.tag) (attributes : Collects row.attributes e.attributes)
      (children : List.Forall₂ (Reads a) row.children e.children) : Reads a i e

/-- Rows from the first one down, each among the children of the one before. -/
inductive Chain (a : Arena) : Nat → List Nat → Prop
  | root : Chain a 0 [0]
  | down {i c : Nat} {row : Row} {chain : List Nat} (above : Chain a i chain)
      (here : a[i]? = some row) (child : c ∈ row.children) : Chain a c (chain ++ [c])

/-- The loop that collects the kinds of a row and of those above it comes to an end with these. -/
inductive Climb (a : Arena) : List String → Option Nat → List String → Prop
  | top (kinds : List String) : Climb a kinds none kinds
  | up {kinds found : List String} {i : Nat} {row : Row} (here : a[i]? = some row)
      (above : Climb a (kinds ++ [row.kind]) row.parent found) : Climb a kinds (some i) found

/-- The kind in a row. -/
def kind? (a : Arena) (i : Nat) : Option String := a[i]?.map (·.kind)

/-- An arena stands for an element whose row may be hosted. -/
structure Represents (a : Arena) (root : Markup.Element) (hosted : Bool) : Prop where
  /-- The rows are the elements in document order. -/
  listing : List.Forall₂ (fun row x => row.kind = x.2.tag ∧ Collects row.attributes x.2.attributes)
    a (root.listing 0)
  parent_lt {i k : Nat} {row : Row} : a[i]? = some row → row.parent = some k → k < i
  parent_none {i : Nat} {row : Row} : a[i]? = some row → (row.parent = none ↔ i = 0)
  mem_children {i c : Nat} {row : Row} : a[i]? = some row →
    (c ∈ row.children ↔ ∃ child, a[c]? = some child ∧ child.parent = some i)
  increasing {i : Nat} {row : Row} : a[i]? = some row → row.children.Pairwise (· < ·)
  readBack : Reads a 0 root
  hosted_iff {i : Nat} {row : Row} : a[i]? = some row → (row.hosted ↔ i = 0 ∧ hosted)
  /-- One chain leads down to a row, and the loop collects the kinds along it. -/
  path {i : Nat} : i < a.length → ∃ (chain : List Nat) (kinds : List String),
    (∀ c, Chain a i c ↔ c = chain) ∧ chain.map a.kind? = kinds.map some ∧
      ∀ found, Climb a [] (some i) found ↔ found = kinds.reverse

end Arena

/-! ### Places of a tree -/

namespace Tree

variable {t : Tree} {p : Place}

/-- A place stands at its index. -/
theorem place?_eq_some_iff {i : Nat} : t.place? i = some p ↔ p ∈ t.places ∧ p.index = i := by
  have hindex : ∀ {j : Nat} {q : Place}, t.places[j]? = some q → q.index = j := by
    intro j q hq
    have hin : j < t.rootPlace.node.size := by
      rw [← Place.length_places]
      exact (List.getElem?_eq_some_iff.1 hq).1
    have hmap : (t.rootPlace.places.map Place.index)[j]? = some q.index := by
      rw [List.getElem?_map]
      exact congrArg (Option.map Place.index) hq
    rw [Place.map_index_places, List.getElem?_range' hin, Option.some.injEq] at hmap
    have hroot : t.rootPlace.index = 0 := rfl
    omega
  constructor
  · intro h
    exact ⟨List.mem_of_getElem? h, hindex h⟩
  · rintro ⟨hp, rfl⟩
    obtain ⟨j, hj⟩ := List.mem_iff_getElem?.1 hp
    rw [place?, hindex hj]
    exact hj

theorem place_index (hp : p ∈ t.places) : t.place? p.index = some p :=
  place?_eq_some_iff.2 ⟨hp, rfl⟩

theorem eq_of_index_eq {q : Place} (hp : p ∈ t.places) (hq : q ∈ t.places)
    (h : p.index = q.index) : p = q := by
  have hsame := place_index hq
  rw [← h, place_index hp] at hsame
  exact Option.some.inj hsame

theorem rootPlace_mem (t : Tree) : t.rootPlace ∈ t.places := Place.mem_places_self _

theorem child_mem {c : Place} (hp : p ∈ t.places) (hc : c ∈ p.children) : c ∈ t.places := by
  have hroot : p ∈ t.rootPlace.places := hp
  exact Place.child_mem_places hroot hc

/-- What holds of the root and passes to children holds of every place. -/
theorem forall_places {P : Place → Prop} (hroot : P t.rootPlace)
    (hchild : ∀ p ∈ t.places, P p → ∀ c ∈ p.children, P c) : ∀ p ∈ t.places, P p := by
  intro p hp
  have hboth : p ∈ t.places ∧ P p :=
    Place.of_mem_places (P := fun p => p ∈ t.places ∧ P p)
      (fun q hq c hc => ⟨child_mem hq.1 hc, hchild q hq.1 hq.2 c hc⟩)
      ⟨t.rootPlace_mem, hroot⟩ hp
  exact hboth.2

/-- Every place but the root is right below another. -/
theorem eq_root_or_child (hp : p ∈ t.places) :
    p = t.rootPlace ∨ ∃ q ∈ t.places, p ∈ q.children :=
  forall_places (P := fun p => p = t.rootPlace ∨ ∃ q ∈ t.places, p ∈ q.children) (.inl rfl)
    (fun q hq _ _ hc => .inr ⟨q, hq, hc⟩) p hp

/-! ### Rows of a tree -/

theorem getElem?_arena_iff {i : Nat} {row : Row} :
    t.arena[i]? = some row ↔ ∃ p ∈ t.places, p.index = i ∧ p.row = row := by
  have hmap : t.arena[i]? = (t.place? i).map Place.row := List.getElem?_map ..
  rw [hmap, Option.map_eq_some_iff]
  simp only [place?_eq_some_iff, and_assoc]

theorem row_of_mem (hp : p ∈ t.places) : t.arena[p.index]? = some p.row :=
  getElem?_arena_iff.2 ⟨p, hp, rfl, rfl⟩

theorem row_parent_of_child {c : Place} (hc : c ∈ p.children) : c.row.parent = some p.index := by
  rw [Place.row, Place.parent_of_mem hc]
  rfl

theorem index_lt_of_child {c : Place} (hc : c ∈ p.children) : p.index < c.index :=
  p.lt_index_descendants c (List.mem_flatMap.2 ⟨c, hc, c.mem_places_self⟩)

/-- The row of a place names no parent exactly at the root, and else the place right above. -/
theorem row_parent (hp : p ∈ t.places) :
    (p.row.parent = none ∧ p.index = 0) ∨
      ∃ q ∈ t.places, p ∈ q.children ∧ p.row.parent = some q.index ∧ q.index < p.index := by
  rcases eq_root_or_child hp with rfl | ⟨q, hq, hc⟩
  · exact .inl ⟨rfl, rfl⟩
  · exact .inr ⟨q, hq, hc, row_parent_of_child hc, index_lt_of_child hc⟩

theorem mem_row_children {c : Nat} (hp : p ∈ t.places) :
    c ∈ p.row.children ↔ ∃ child, t.arena[c]? = some child ∧ child.parent = some p.index := by
  rw [Place.row_children, List.mem_map]
  constructor
  · rintro ⟨d, hd, rfl⟩
    exact ⟨d.row, row_of_mem (child_mem hp hd), row_parent_of_child hd⟩
  · rintro ⟨_, hrow, hparent⟩
    obtain ⟨d, hd, rfl, rfl⟩ := getElem?_arena_iff.1 hrow
    -- only the root has no parent, and every other place is a child of the one it names
    rcases row_parent hd with ⟨hnone, -⟩ | ⟨q, hq, hchild, habove, -⟩
    · rw [hnone] at hparent
      cases hparent
    · rw [habove, Option.some.injEq] at hparent
      obtain rfl := eq_of_index_eq hq hp hparent
      exact ⟨d, hchild, rfl⟩

end Tree

/-! ### Chains and paths -/

namespace Place

/-- The indices from the root down. -/
def indices (p : Place) : List Nat := (p.ancestors.map (·.index)).reverse ++ [p.index]

variable {p c : Place}

theorem indices_of_child (hc : c ∈ p.children) : c.indices = p.indices ++ [c.index] := by
  rw [indices, ancestors_of_mem hc, List.map_cons, List.reverse_cons]
  rfl

theorem path_of_child (hc : c ∈ p.children) : c.path = p.path ++ [c.kind] := by
  rw [path, ancestors_of_mem hc, List.map_cons, List.reverse_cons]
  rfl

end Place

namespace Arena

variable {a : Arena} {kinds found : List String}

theorem climb_none : Climb a kinds none found ↔ found = kinds := by
  constructor
  · rintro ⟨⟩
    rfl
  · rintro rfl
    exact .top found

theorem climb_some {i : Nat} {row : Row} (here : a[i]? = some row) :
    Climb a kinds (some i) found ↔ Climb a (kinds ++ [row.kind]) row.parent found := by
  constructor
  · rintro (_ | ⟨here', above⟩)
    rw [here, Option.some.injEq] at here'
    subst here'
    exact above
  · exact .up here

end Arena

namespace Tree

variable {t : Tree} {p : Place}

/-- Each chain is the one of indices from the root down. -/
theorem chain_eq {i : Nat} {chain : List Nat} (h : t.arena.Chain i chain) :
    ∀ p ∈ t.places, p.index = i → chain = p.indices := by
  induction h with
  | root =>
    intro p hp hindex
    obtain rfl := eq_of_index_eq hp t.rootPlace_mem hindex
    rfl
  | @down i c row chain above here child ih =>
    intro p hp hindex
    obtain ⟨q, hq, rfl, rfl⟩ := getElem?_arena_iff.1 here
    rw [Place.row_children, List.mem_map] at child
    obtain ⟨d, hd, rfl⟩ := child
    obtain rfl := eq_of_index_eq hp (child_mem hq hd) hindex
    rw [ih q hq rfl, Place.indices_of_child hd]

theorem chain_indices : ∀ p ∈ t.places, t.arena.Chain p.index p.indices := by
  refine forall_places .root ?_
  intro p hp hchain c hc
  rw [Place.indices_of_child hc]
  refine .down hchain (row_of_mem hp) ?_
  rw [Place.row_children]
  exact List.mem_map_of_mem hc

theorem kinds_indices : ∀ p ∈ t.places, p.indices.map t.arena.kind? = p.path.map some := by
  have hkind : ∀ p ∈ t.places, t.arena.kind? p.index = some p.kind := by
    intro p hp
    rw [Arena.kind?, row_of_mem hp]
    rfl
  refine forall_places ?_ ?_
  · exact congrArg ([·]) (hkind t.rootPlace t.rootPlace_mem)
  · intro p hp hkinds c hc
    rw [Place.indices_of_child hc, Place.path_of_child hc, List.map_append, List.map_append,
      hkinds, List.map_singleton, List.map_singleton, hkind c (child_mem hp hc)]

/-- The loop from a place upwards ends, with the kinds of the path behind what it had. -/
theorem climb_iff : ∀ p ∈ t.places, ∀ kinds found,
    t.arena.Climb kinds (some p.index) found ↔ found = kinds ++ p.path.reverse := by
  refine forall_places ?_ ?_
  · intro kinds found
    rw [Arena.climb_some (row_of_mem t.rootPlace_mem)]
    exact Arena.climb_none
  · intro p hp hclimb c hc kinds found
    rw [Arena.climb_some (row_of_mem (child_mem hp hc)), row_parent_of_child hc, hclimb,
      Place.path_of_child hc, List.reverse_append, List.append_assoc]
    rfl

end Tree

/-! ### Elements read back -/

theorem collects_ofList (attributes : List Markup.Attribute) :
    Collects (.ofList (attributes.map fun x => (x.name, x.value))) attributes where
  keys := by
    rw [Table.keys_ofList, List.map_map]
    rfl
  values := Table.get?_ofList _

theorem Node.ofElements_eq (es : List Markup.Element) : ofElements es = es.map ofElement := by
  induction es with
  | nil => rfl
  | cons e es ih => rw [ofElements, ih, List.map_cons]

theorem Node.ofElement_eq (e : Markup.Element) :
    ofElement e =
      ⟨e.tag, .ofList (e.attributes.map fun x => (x.name, x.value)), e.children.map ofElement⟩ := by
  obtain ⟨tag, attributes, children⟩ := e
  rw [ofElement, ofElements_eq]

theorem Markup.Element.listings_eq (depth : Nat) (es : List Element) :
    listings depth es = es.flatMap (listing depth) := by
  induction es with
  | nil => rfl
  | cons e es ih => rw [listings, ih, List.flatMap_cons]

/-- The node at the place is the one of the element. -/
def Place.Shows (p : Place) (e : Markup.Element) : Prop := p.node = .ofElement e

namespace Place.Shows

variable {p : Place} {e : Markup.Element}

theorem node (h : p.Shows e) : p.node =
    ⟨e.tag, .ofList (e.attributes.map fun x => (x.name, x.value)), e.children.map .ofElement⟩ :=
  h.trans (Node.ofElement_eq e)

theorem kind (h : p.Shows e) : p.row.kind = e.tag := congrArg Node.kind h.node

theorem attributes (h : p.Shows e) : Collects p.row.attributes e.attributes := by
  have hattributes : p.row.attributes = _ := congrArg Node.attributes h.node
  rw [hattributes]
  exact collects_ofList e.attributes

/-- The places right below show the elements inside, in their order. -/
theorem children (h : p.Shows e) :
    List.Forall₂ (fun c x => c ∈ p.children ∧ c.Shows x) p.children e.children := by
  have hnodes : p.children.map Place.node = e.children.map Node.ofElement := by
    rw [Place.map_node_children, h.node]
  rw [← List.forall₂_eq_eq_eq, List.forall₂_map_left_iff, List.forall₂_map_right_iff] at hnodes
  exact (List.forall₂_and_left _ _).2 ⟨fun _ hc => hc, hnodes⟩

/-- The places from a place on show the elements from its element on. -/
theorem listing (h : p.Shows e) (depth : Nat) :
    List.Forall₂ (fun q x => q.Shows x.2) p.places (e.listing depth) := by
  induction p using Place.induction generalizing e depth with
  | step p ih =>
    obtain ⟨tag, attributes, elements⟩ := e
    rw [Place.places_eq, Markup.Element.listing, Markup.Element.listings_eq]
    refine .cons h (List.rel_flatMap h.children ?_)
    intro c x hc
    exact ih c hc.1 hc.2 (depth + 1)

theorem reads {t : Tree} (hp : p ∈ t.places) (h : p.Shows e) : t.arena.Reads p.index e := by
  induction p using Place.induction generalizing e with
  | step p ih =>
    refine .row (Tree.row_of_mem hp) h.kind h.attributes ?_
    rw [Place.row_children, List.forall₂_map_left_iff]
    refine h.children.imp ?_
    intro c x hc
    exact ih c hc.1 (Tree.child_mem hp hc.1) hc.2

end Place.Shows

/-- The arena of the tree of an element stands for it. -/
theorem Tree.represents (root : Markup.Element) (hosted : Bool) :
    (Tree.mk (.ofElement root) hosted).arena.Represents root hosted := by
  set t : Tree := ⟨.ofElement root, hosted⟩ with ht
  have hroot : t.rootPlace.Shows root := rfl
  constructor
  case listing =>
    rw [Tree.arena, List.forall₂_map_left_iff]
    exact (hroot.listing 0).imp fun _ _ h => ⟨h.kind, h.attributes⟩
  case parent_lt =>
    intro i k row hrow hparent
    obtain ⟨p, hp, rfl, rfl⟩ := getElem?_arena_iff.1 hrow
    rcases row_parent hp with ⟨hnone, -⟩ | ⟨q, -, -, habove, hlt⟩
    · simp [hnone] at hparent
    · rw [habove, Option.some.injEq] at hparent
      omega
  case parent_none =>
    intro i row hrow
    obtain ⟨p, hp, rfl, rfl⟩ := getElem?_arena_iff.1 hrow
    rcases row_parent hp with ⟨hnone, hzero⟩ | ⟨q, -, -, habove, hlt⟩
    · simp [hnone, hzero]
    · simp [habove, Nat.ne_of_gt (Nat.zero_lt_of_lt hlt)]
  case mem_children =>
    intro i c row hrow
    obtain ⟨p, hp, rfl, rfl⟩ := getElem?_arena_iff.1 hrow
    exact mem_row_children hp
  case increasing =>
    intro i row hrow
    obtain ⟨p, hp, rfl, rfl⟩ := getElem?_arena_iff.1 hrow
    exact p.childIndices_increasing
  case readBack => exact hroot.reads t.rootPlace_mem
  case hosted_iff =>
    intro i row hrow
    obtain ⟨p, hp, rfl, rfl⟩ := getElem?_arena_iff.1 hrow
    constructor
    · intro hhosted
      obtain rfl := eq_rootPlace_of_hosted hp hhosted
      exact ⟨rfl, hhosted⟩
    · rintro ⟨hzero, hhosted⟩
      obtain rfl := eq_of_index_eq hp t.rootPlace_mem hzero
      exact hhosted
  case path =>
    intro i hi
    obtain ⟨row, hrow⟩ : ∃ row, t.arena[i]? = some row := ⟨_, List.getElem?_eq_getElem hi⟩
    obtain ⟨p, hp, rfl, rfl⟩ := getElem?_arena_iff.1 hrow
    refine ⟨p.indices, p.path, ?_, kinds_indices p hp, fun found => climb_iff p hp [] found⟩
    intro chain
    constructor
    · intro hchain
      exact chain_eq hchain p hp rfl
    · rintro rfl
      exact chain_indices p hp

namespace Arena

/-- A container with one element becomes the arena that stands for the element, with the paths that
faults at its places report; any other container is refused. -/
theorem ofContainer_faithful (container : Markup.Element) (hosted : Bool) :
    ofContainer container hosted = (Tree.ofContainer container hosted).map Tree.arena ∧
    (∀ root, container.children = [root] → ∃ t, Tree.ofContainer container hosted = .ok t ∧
      t.arena.Represents root hosted ∧
      ∀ i p, t.place? i = some p → Climb t.arena [] (some i) p.path.reverse ∧
        ∀ cause, (p.fault cause).diagnostic.context = some (String.intercalate " > " p.path)) ∧
    (container.children = [] → ∃ f, Tree.ofContainer container hosted = .error f ∧
      f.diagnostic.code = .parse) ∧
    (2 ≤ container.children.length → ∃ f, Tree.ofContainer container hosted = .error f ∧
      f.diagnostic.code = .shape) := by
  refine ⟨ofContainer_eq container hosted, ?_, ?_, ?_⟩
  · intro root hroot
    refine ⟨⟨.ofElement root, hosted⟩, ?_, Tree.represents root hosted, ?_⟩
    · rw [Tree.ofContainer, hroot]
    · intro i p hp
      obtain ⟨hmem, rfl⟩ := Tree.place?_eq_some_iff.1 hp
      exact ⟨(Tree.climb_iff p hmem [] _).2 rfl, fun cause => rfl⟩
  · intro hnone
    exact ⟨_, by rw [Tree.ofContainer, hnone], rfl⟩
  · intro hmany
    match hchildren : container.children with
    | [] => simp [hchildren] at hmany
    | [_] => simp [hchildren] at hmany
    | _ :: _ :: _ => exact ⟨_, by rw [Tree.ofContainer, hchildren], rfl⟩

end Arena

end Widgetry
