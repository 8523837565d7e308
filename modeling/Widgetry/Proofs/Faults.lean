import Widgetry.Proofs.MenuProgram
import Widgetry.Script.Extract

/-! First faults. A visitor whose entrances fail as the places say, whatever its state, fails on a
walk as the first failing place in document order says. So the checks of shapes, arguments and menus
are told by what is wrong with a single place. -/

namespace Widgetry

open Structure

variable {ε σ α β : Type}

/-! ### Faults of results -/

/-- The fault of a result, if it has one. -/
def fault? : Except ε α → Option ε
  | .error e => some e
  | .ok _ => none

@[simp] theorem fault?_ok (a : α) : fault? (.ok a : Except ε α) = none := rfl

@[simp] theorem fault?_error (e : ε) : fault? (.error e : Except ε α) = some e := rfl

theorem fault?_eq_none {x : Except ε α} : fault? x = none ↔ ∃ a, x = .ok a := by
  cases x <;> simp

theorem fault?_map (x : Except ε α) (f : α → β) : fault? (x.map f) = fault? x := by
  cases x <;> rfl

/-- One step after the other fails as the first of them that fails. -/
theorem fault?_bind {x : Except ε α} {f : α → Except ε β} {e : Option ε}
    (h : ∀ a, x = .ok a → fault? (f a) = e) : fault? (x >>= f) = (fault? x).or e := by
  cases x with
  | error fault => rfl
  | ok a => simpa using h a rfl

theorem fault?_bind_pure (x : Except ε α) (f : α → β) :
    fault? (x >>= fun a => pure (f a)) = fault? x := by
  cases x <;> rfl

theorem findSome?_cons_or (f : α → Option β) (a : α) (as : List α) :
    (a :: as).findSome? f = (f a).or (as.findSome? f) := by
  rw [List.findSome?_cons]
  cases f a <;> rfl

/-- Two searches that agree on every part agree on the whole. -/
theorem findSome?_flatMap_congr {γ : Type} {as : List α} {first second : α → List β}
    {f g : β → Option γ} (h : ∀ a ∈ as, (first a).findSome? f = (second a).findSome? g) :
    (as.flatMap first).findSome? f = (as.flatMap second).findSome? g := by
  induction as with
  | nil => rfl
  | cons a as ih =>
    rw [List.forall_mem_cons] at h
    rw [List.flatMap_cons, List.flatMap_cons, List.findSome?_append, List.findSome?_append, h.1,
      ih h.2]

theorem findSome?_congr {as : List α} {f g : α → Option β} (h : ∀ a ∈ as, f a = g a) :
    as.findSome? f = as.findSome? g := by
  induction as with
  | nil => rfl
  | cons a as ih =>
    rw [List.forall_mem_cons] at h
    rw [findSome?_cons_or, findSome?_cons_or, h.1, ih h.2]

/-! ### Walks -/

namespace Visitor

variable {v : Visitor ε σ} {fault : Place → Option ε}

theorem fault?_walkAll {ps : List Place}
    (h : ∀ p ∈ ps, ∀ s, fault? (v.walk p s) = p.places.findSome? fault) (s : σ) :
    fault? (v.walkAll ps s) = (ps.flatMap Place.places).findSome? fault := by
  induction ps generalizing s with
  | nil => rfl
  | cons p ps ih =>
    rw [List.forall_mem_cons] at h
    rw [walkAll_cons, List.flatMap_cons, List.findSome?_append,
      fault?_bind fun s' _ => ih h.2 s', h.1]

/-- A walk fails as the first place says at which the visitor fails. -/
theorem fault?_walk {p : Place} (henter : ∀ q ∈ p.places, ∀ s, fault? (v.enter q s) = fault q)
    (hleave : ∀ q ∈ p.places, ∀ s, fault? (v.leave q s) = none) (s : σ) :
    fault? (v.walk p s) = p.places.findSome? fault := by
  induction p using Place.induction generalizing s with
  | step p ih =>
    rw [Place.forall_mem_places] at henter hleave
    have hchildren : ∀ s, fault? (v.walkAll p.children s >>= v.leave p) =
        (p.children.flatMap Place.places).findSome? fault := fun s => by
      rw [fault?_bind fun s' _ => hleave.1 s', Option.or_none]
      exact fault?_walkAll (fun c hc => ih c hc (henter.2 c hc) (hleave.2 c hc)) s
    rw [walk_eq, Place.places_eq, findSome?_cons_or, fault?_bind fun s' _ => hchildren s', henter.1]

end Visitor

/-! ### Shapes -/

namespace Structure

/-- What is wrong with a place, looking no further than its parent and children. -/
def placeFault? (r : Registry) (p : Place) : Option Fault :=
  match r.mapping? p.kind with
  | none => some (p.fault (.unmapped p.kind r.elements.keys))
  | some m => (cause? r p m).map p.fault

/-- The check of a tree reports what is wrong with the first place at which something is. -/
theorem fault?_check (r : Registry) (t : Tree) :
    fault? (check r t) = t.places.findSome? (placeFault? r) := by
  refine Visitor.fault?_walk (fun q _ _ => ?_) (fun _ _ _ => rfl) ()
  cases hm : r.mapping? q.kind with
  | none => simp [placeFault?, visitor, Registry.require, hm]
  | some m =>
    simp only [placeFault?, visitor, Registry.require, hm, ok_bind]
    cases cause? r q m <;> rfl

end Structure

/-! ### Arguments -/

namespace Script

/-- The attribute of an argument is there or may be absent, and a constant is an identifier. -/
structure Readable (p : Place) (a : ArgumentSpec) : Prop where
  present : (p.attribute? a.key).isSome ∨ a.optional
  identifier : ∀ value, p.attribute? a.key = some value → a.kind = .constant →
    Text.isIdentifier value

/-- What is wrong with an argument at a place. -/
def argumentCause? (role : Role) (p : Place) (a : ArgumentSpec) : Option Cause :=
  match p.attribute? a.key with
  | none => if a.optional then none else some (.missing p.kind a.key role)
  | some value =>
    if a.kind = .constant ∧ ¬Text.isIdentifier value then some (.notConstant a.key value) else none

theorem argumentCause?_eq_none {role : Role} {p : Place} {a : ArgumentSpec} :
    argumentCause? role p a = none ↔ Readable p a := by
  unfold argumentCause?
  cases hvalue : p.attribute? a.key with
  | none =>
    refine ⟨fun h => ⟨.inr (by simpa using h), by simp [hvalue]⟩, fun h => ?_⟩
    simpa [hvalue] using h.present
  | some value =>
    refine ⟨fun h => ⟨.inl (by simp [hvalue]), ?_⟩, fun h => ?_⟩
    · simpa [hvalue] using h
    · simpa using h.identifier value hvalue

theorem fault?_argument (m : Mapping) (role : Role) (p : Place) (a : ArgumentSpec) :
    fault? (argument m role p a) = (argumentCause? role p a).map p.fault := by
  unfold argument argumentCause?
  cases p.attribute? a.key with
  | none => cases a.optional <;> rfl
  | some value =>
    cases a.kind with
    | string => rfl
    | constant => cases h : Text.isIdentifier value <;> simp [h]

/-- Arguments are read in order, up to the first of them with which something is wrong. -/
theorem fault?_arguments (m : Mapping) (role : Role) (p : Place) (as : List ArgumentSpec) :
    fault? (arguments m role p as) = (as.findSome? (argumentCause? role p)).map p.fault := by
  induction as with
  | nil => rfl
  | cons a as ih =>
    rw [arguments, findSome?_cons_or, Option.map_or, ← ih, ← fault?_argument m]
    exact fault?_bind fun value _ => fault?_bind_pure ..

end Script

/-! ### Menus -/

namespace Menu

variable {r : Registry}

/-- A place below a menu lacks its title. -/
def titleFault? (r : Registry) (q : Place) : Option Fault :=
  if (q.attribute? r.menu.titleAttribute).isSome then none
  else some (q.fault (.missingTitle r.menu.titleAttribute))

theorem titleFault?_eq_none {q : Place} :
    titleFault? r q = none ↔ (q.attribute? r.menu.titleAttribute).isSome := by
  unfold titleFault?
  split_ifs with h <;> simp [h]

/-- A menu or an item fails to be declared only for want of a title. -/
theorem fault?_declaration {q : Place} (hkind : r.isMenuKind q.kind)
    (hclass : (r.runtimeClass? q.kind).isSome) (indent : Nat) :
    fault? (declaration r indent q) = titleFault? r q := by
  unfold titleFault?
  split_ifs with htitle
  · rw [declaration_eq_ok ⟨hkind, hclass, htitle⟩]
    rfl
  · obtain ⟨name, hname⟩ := Option.isSome_iff_exists.1 hclass
    have hnone : q.attribute? r.menu.titleAttribute = none := by simpa using htitle
    simp [declaration, hname, hnone]

/-- An object is declared exactly where one can be built. -/
theorem fault?_declaration_eq_none {q : Place} {indent : Nat} :
    fault? (declaration r indent q) = none ↔ Buildable r q := by
  refine ⟨fun h => ?_, fun h => by rw [declaration_eq_ok h]; rfl⟩
  unfold declaration at h
  cases hclass : r.runtimeClass? q.kind with
  | none => simp [hclass] at h
  | some className =>
    cases htitle : q.attribute? r.menu.titleAttribute with
    | none => simp [hclass, htitle] at h
    | some title =>
      have hkind : r.isMenuKind q.kind := by
        by_contra hkind
        simp only [Registry.isMenuKind, Bool.or_eq_true, beq_iff_eq, not_or] at hkind
        simp [hclass, htitle, hkind.1, hkind.2] at h
      exact ⟨hkind, by simp [hclass], by simp [htitle]⟩

/-- Whether an object can be declared does not depend on the column. -/
theorem fault?_declaration_indent (q : Place) (indent : Nat) :
    fault? (declaration r indent q) = fault? (declaration r 0 q) := by
  unfold declaration
  cases r.runtimeClass? q.kind with
  | none => rfl
  | some className =>
    cases q.attribute? r.menu.titleAttribute with
    | none => rfl
    | some title =>
      simp only
      split_ifs <;> rfl

/-- The program for a place fails at the first place below it that cannot be declared. -/
theorem fault?_lines_eq (root : Place) (rootName : String) :
    fault? (lines r root rootName) =
      root.descendants.findSome? fun q => fault? (declaration r 0 q) := by
  have henter : ∀ q ∈ root.descendants, ∀ s,
      fault? ((visitor r root rootName).enter q s) = fault? (declaration r 0 q) := fun q hq s => by
    have hindex : q.index ≠ root.index := Nat.ne_of_gt (root.lt_index_descendants q hq)
    simp only [visitor, if_neg hindex]
    rw [fault?_bind_pure, fault?_declaration_indent]
  have hleave : ∀ q, ∀ s, fault? ((visitor r root rootName).leave q s) = none := fun q s => by
    simp only [visitor]
    split_ifs <;> rfl
  have hwalk : ∀ c ∈ root.children, ∀ s, fault? ((visitor r root rootName).walk c s) =
      c.places.findSome? fun q => fault? (declaration r 0 q) := fun c hc =>
    Visitor.fault?_walk (fun q hq => henter q (List.mem_flatMap.2 ⟨c, hc, hq⟩)) fun q _ => hleave q
  have hroot : ∀ s, (visitor r root rootName).enter root s = .ok s := fun s => by simp [visitor]
  rw [lines, fault?_bind_pure, Visitor.walk_eq, hroot, ok_bind,
    fault?_bind fun s _ => hleave root s, Option.or_none, Visitor.fault?_walkAll hwalk]
  rfl

/-- A program comes about exactly if everything below its root can be built. -/
theorem exists_lines_iff {root : Place} {rootName : String} :
    (∃ program, lines r root rootName = .ok program) ↔ ∀ q ∈ root.descendants, Buildable r q := by
  rw [← fault?_eq_none, fault?_lines_eq, List.findSome?_eq_none_iff]
  simp only [fault?_declaration_eq_none]

/-- The program of a menu fails at the first place below the menu that has no title. -/
theorem fault?_lines (hr : r.Consistent) {m : Place} (h : Accepted r m)
    (hk : m.kind = r.menu.menuKind) (rootName : String) :
    fault? (lines r m rootName) = m.descendants.findSome? (titleFault? r) := by
  rw [fault?_lines_eq]
  refine findSome?_congr fun q hq => ?_
  obtain ⟨hkind, hclass⟩ := declarable_of_mem hr h hk hq
  exact fault?_declaration hkind hclass 0

end Menu

end Widgetry
