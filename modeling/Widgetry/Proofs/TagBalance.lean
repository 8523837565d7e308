import Widgetry.Compile
import Widgetry.Proofs.Rendering
import Mathlib.Algebra.Ring.Int.Defs

/-! Balance of the template. The marks are read with a stack of what stands open, and every mark
that closes has to match the top of it. The template of an accepted tree is balanced unless its root
is a hosted menu that shows something for its first item: a host begins no skip, so the item is
opened, and leaving it sets the flag and nothing closes it. -/

namespace Widgetry.Template

open Structure

variable {r : Registry}

/-! ### Balanced marks -/

/-- A slot or a tag that stands open. -/
inductive Opened where
  | slot
  | tag (name : String)
  deriving DecidableEq

/-- What stands open behind a mark, the innermost first; a closing mark without its opening one has
no result. -/
def Mark.nest : Mark → List Opened → Option (List Opened)
  | openSlot .., stack => some (.slot :: stack)
  | openTag _ tag, stack => some (.tag tag :: stack)
  | closeSlot _, .slot :: stack => some stack
  | closeTag _ tag, .tag name :: stack => if tag = name then some stack else none
  | closeSlot _, _ => none
  | closeTag .., _ => none
  | bindInstance .., stack => some stack
  | prop .., stack => some stack
  | bindClass .., stack => some stack
  | endOpenTag, stack => some stack

def nesting (marks : List Mark) (stack : List Opened) : Option (List Opened) :=
  marks.foldlM (fun stack mark => mark.nest stack) stack

/-- Everything that is opened is closed by its own closing mark, in stack order. -/
def Balanced (marks : List Mark) : Prop := nesting marks [] = some []

@[simp] theorem nesting_nil (stack : List Opened) : nesting [] stack = some stack := rfl

@[simp] theorem nesting_cons (mark : Mark) (marks : List Mark) (stack : List Opened) :
    nesting (mark :: marks) stack = mark.nest stack >>= nesting marks := by
  simp [nesting]
  rfl

@[simp] theorem nesting_append (first rest : List Mark) (stack : List Opened) :
    nesting (first ++ rest) stack = nesting first stack >>= nesting rest := by
  simp [nesting]
  rfl

theorem nesting_attributes (column : Nat) (attributes : List Attribute) (stack : List Opened) :
    nesting (attributes.map (Attribute.mark column)) stack = some stack := by
  induction attributes with
  | nil => rfl
  | cons a attributes ih => cases a <;> simpa [Attribute.mark, Mark.nest] using ih

mutual

/-- The marks of a block close what they open. -/
theorem Block.nesting_marks (column : Nat) (stack : List Opened) :
    ∀ b : Block, nesting (b.marks column) stack = some stack
  | .slot name content => by
    simp [marks, Mark.nest, nesting_marksAll]
  | .tag name attributes content => by
    simp [marks, Mark.nest, nesting_attributes, nesting_marksAll]

theorem Block.nesting_marksAll (column : Nat) (stack : List Opened) :
    ∀ bs : List Block, nesting (marksAll column bs) stack = some stack
  | [] => rfl
  | b :: bs => by simp [marksAll, nesting_marks, nesting_marksAll]

end

/-! ### Levels -/

/-- By how much a mark changes the number of slots and tags that stand open. -/
def Mark.rise : Mark → Int
  | openSlot .. | openTag .. => 1
  | closeSlot _ | closeTag .. => -1
  | _ => 0

def rise (marks : List Mark) : Int := (marks.map Mark.rise).sum

@[simp] theorem rise_nil : rise [] = 0 := rfl

@[simp] theorem rise_cons (mark : Mark) (marks : List Mark) :
    rise (mark :: marks) = mark.rise + rise marks := by simp [rise]

@[simp] theorem rise_append (first rest : List Mark) :
    rise (first ++ rest) = rise first + rise rest := by simp [rise]

theorem Mark.length_of_nest {mark : Mark} {stack stack' : List Opened}
    (h : mark.nest stack = some stack') : (stack'.length : Int) = stack.length + mark.rise := by
  unfold nest at h
  split at h
  case h_4 tag name rest =>
    -- only a closing tag looks at the name on top of the stack
    split_ifs at h
    cases h
    simp only [rise, List.length_cons]
    omega
  all_goals
    cases h <;> simp only [rise, List.length_cons] <;> omega

theorem length_of_nesting {marks : List Mark} {stack stack' : List Opened}
    (h : nesting marks stack = some stack') :
    (stack'.length : Int) = stack.length + rise marks := by
  induction marks generalizing stack with
  | nil => simp_all [rise]
  | cons mark marks ih =>
    rw [nesting_cons] at h
    obtain ⟨next, hnext, hrest⟩ := Option.bind_eq_some_iff.1 h
    rw [ih hrest, Mark.length_of_nest hnext, rise_cons, Int.add_assoc]

theorem Balanced.rise_eq_zero {marks : List Mark} (h : Balanced marks) : rise marks = 0 := by
  simpa using (length_of_nesting h).symm

/-- The number of slots and tags that a widget opens where nothing is skipped. -/
def levels (m : Mapping) (p : Place) : Nat :=
  (shownSlot m p).toList.length + (m.openedTag p.hosted).toList.length

/-- So many slots and tags stand open, and the indentation is two columns for each. -/
structure Level (s : State) (n : Nat) : Prop where
  indent : s.indent = 2 * n
  rise : rise s.marks = n

theorem rise_insideTag (tag : Option String) (attributes : List Attribute) (column : Nat) :
    rise (insideTag tag attributes column) = 0 := by
  have hneutral : nesting (insideTag tag attributes column) [] = some [] := by
    cases tag <;> simp [insideTag, nesting_attributes, Mark.nest]
  exact Balanced.rise_eq_zero hneutral

/-- Up to the end of the opening tag a widget adds its levels. -/
theorem Level.opened {s : State} {n : Nat} (h : Level s n) (hs : s.skip = {}) (m : Mapping)
    (name : Nat → String) (p : Place) (namer : Namer) (skip : MenuSkip) :
    Level ⟨openedMarks m name p s, (opened m p s).indent, namer, skip⟩ (n + levels m p) := by
  obtain ⟨hindent, hrise⟩ := h
  constructor <;>
    simp only [openedMarks, rise_append, rise_insideTag, Int.add_zero, Template.opened, levels] <;>
    generalize m.openedTag p.hosted = tag <;>
    cases hslot : m.slotName <;> cases hhost : p.parentHosted <;> cases tag <;>
    simp [openSlot, openTag, shownSlot, State.write, State.deeper, hslot, hhost, hs, hindent,
      hrise, Mark.rise] <;>
    omega

theorem Level.closed {s : State} {n : Nat} {m : Mapping} {p : Place}
    (h : Level s (n + levels m p)) :
    Level (closeSlot m p (closeTag (m.openedTag p.hosted) s)) n := by
  obtain ⟨hindent, hrise⟩ := h
  unfold levels at hindent hrise
  generalize m.openedTag p.hosted = tag at *
  cases hslot : m.slotName <;> cases hhost : p.parentHosted <;> cases tag <;>
    constructor <;>
      simp_all [closeSlot, closeTag, shownSlot, State.write, State.shallower, Mark.rise] <;>
      omega

/-- Where nothing is skipped a widget adds its levels, and a menu with an instance begins to
skip. -/
theorem Level.enter (hr : r.Consistent) {p : Place} {m : Mapping}
    (hm : r.mapping? p.kind = some m) {s s' : State} {n : Nat} (h : Level s n) (hs : s.skip = {})
    (henter : Template.enter r p s = .ok s') :
    Level s' (n + levels m p) ∧
      s'.skip = ⟨m.requiresInstance && !p.hosted && p.kind == r.menu.menuKind⟩ := by
  rw [enter_open hr hm hs fun _ => ""] at henter
  cases hbound : m.requiresInstance && !p.hosted with
  | true =>
    rw [hbound, if_pos rfl] at henter
    obtain ⟨⟨given, namer⟩, -, hs'⟩ := bind_eq_ok.1 henter
    cases hs'
    refine ⟨h.opened hs m _ p namer _, ?_⟩
    by_cases hk : p.kind = r.menu.menuKind <;> simp [hk, MenuSkip.begin]
  | false =>
    rw [hbound, if_neg Bool.false_ne_true] at henter
    cases henter
    exact ⟨h.opened hs m _ p _ _, rfl⟩

/-! ### A hosted menu -/

/-- Leaving a place in a menu closes nothing. -/
theorem leave_inMenu {p : Place} {m : Mapping} (hm : r.mapping? p.kind = some m)
    (hin : MenuSkip.parentInMenu r p) (s : State) :
    leave r p s = .ok { s with skip := .begin } := by
  simp [leave, Registry.require_eq_ok.2 hm, MenuSkip.leave, hin, MenuSkip.begin]

/-- A menu in an item that is not skipped is opened and not closed. -/
theorem Level.walk_menu (hr : r.Consistent) {p : Place} (h : Accepted r p)
    (hk : p.kind = r.menu.menuKind) (hp : p.hosted = false) (hin : MenuSkip.parentInMenu r p)
    {s s' : State} {n : Nat} (hn : Level s n) (hs : s.skip = {})
    (hwalk : (visitor r).walk p s = .ok s') : ∃ k, n < k ∧ Level s' k := by
  obtain ⟨m, hm, hi⟩ := hr.menu
  rw [← hk] at hm
  rw [Visitor.walk_eq] at hwalk
  obtain ⟨s₁, henter, hwalk⟩ := bind_eq_ok.1 hwalk
  obtain ⟨hlevel, hskip⟩ := hn.enter hr hm hs henter
  have hbegin : s₁.skip = .begin := by simp [hskip, hi, hp, hk, MenuSkip.begin]
  have hleave : (visitor r).leave p s₁ = .ok { s₁ with skip := .begin } := leave_inMenu hm hin s₁
  rw [walkAll_skipped h hk (List.Subset.refl _) hbegin, ok_bind, hleave] at hwalk
  cases hwalk
  have hpos : 0 < levels m p := by
    obtain ⟨tag, htag⟩ := Option.isSome_iff_exists.1 (hr.component hm hi)
    simp [levels, Mapping.openedTag, hp, htag]
  exact ⟨n + levels m p, by omega, hlevel.indent, hlevel.rise⟩

/-- An item that is not skipped is opened and not closed, and the menu in it neither. -/
theorem Level.walk_item (hr : r.Consistent) {menu p : Place} (hmenu : Accepted r menu)
    (hmenuKind : menu.kind = r.menu.menuKind) (hp : p ∈ menu.children) {m : Mapping}
    (hm : r.mapping? p.kind = some m) {s s' : State} {n : Nat} (hn : Level s n)
    (hs : s.skip = {}) (hwalk : (visitor r).walk p s = .ok s') :
    s'.skip = .begin ∧ ∃ k, Level s' k ∧ n + levels m p ≤ k ∧
      (p.children ≠ [] → n + levels m p < k) := by
  have h : Accepted r p := hmenu.child hp
  have hdistinct := hmenu.distinct_of_mem hmenuKind hp
  obtain ⟨hk, hcount⟩ := hmenu.item_of_mem hmenuKind hp
  have hin : MenuSkip.parentInMenu r p = true := parentInMenu_of_menu hmenuKind hp
  rw [Visitor.walk_eq] at hwalk
  obtain ⟨s₁, henter, hwalk⟩ := bind_eq_ok.1 hwalk
  obtain ⟨s₂, hchildren, hwalk⟩ := bind_eq_ok.1 hwalk
  obtain ⟨hlevel, hskip⟩ := hn.enter hr hm hs henter
  have hnone : s₁.skip = {} := by simp [hskip, hk, hdistinct.symm]
  have hleave : (visitor r).leave p s₂ = .ok { s₂ with skip := .begin } := leave_inMenu hm hin s₂
  rw [hleave] at hwalk
  cases hwalk
  refine ⟨rfl, ?_⟩
  rw [← p.map_node_children, List.length_map] at hcount
  cases hchild : p.children with
  | nil =>
    rw [hchild] at hchildren
    cases hchildren
    exact ⟨n + levels m p, ⟨hlevel.indent, hlevel.rise⟩, Nat.le_refl _, absurd rfl⟩
  | cons d rest =>
    have hd : d ∈ p.children := by simp [hchild]
    have hkind := h.menu_of_mem hdistinct hk hd
    have hinItem : MenuSkip.parentInMenu r d = true := by
      simp [parentInMenu_of_mem hd, Registry.isMenuKind, hk]
    obtain rfl : rest = [] := by simpa [hchild] using hcount
    rw [hchild, Visitor.walkAll_cons] at hchildren
    obtain ⟨s₃, hnested, hs₃⟩ := bind_eq_ok.1 hchildren
    cases hs₃
    obtain ⟨k, hlt, hk⟩ :=
      hlevel.walk_menu hr (h.child hd) hkind (Place.hosted_of_mem hd) hinItem hnone hnested
    exact ⟨k, ⟨hk.indent, hk.rise⟩, by omega, fun _ => hlt⟩

/-- An item of the host that opens nothing and holds nothing leaves no trace. -/
theorem walk_bareItem (hr : r.Consistent) {p : Place} {m : Mapping}
    (hm : r.mapping? p.kind = some m) (hin : MenuSkip.parentInMenu r p) (hp : p.hosted = false)
    (hhost : p.parentHosted) (htag : m.emittedComponent = none) (hchild : p.children = [])
    {s : State} (hs : s.skip = {}) : (visitor r).walk p s = .ok { s with skip := .begin } := by
  have hbound : m.requiresInstance = false := by
    by_contra hi
    simpa [htag] using hr.component hm (by simpa using hi)
  have htag : m.openedTag p.hosted = none := by simp [Mapping.openedTag, hp, htag]
  have hslot : openSlot m p s = s := by
    unfold openSlot
    cases m.slotName <;> simp [hhost]
  have hopened : opened m p s = s := by rw [opened, htag, hslot, openTag]
  have henter : (visitor r).enter p s = .ok s := by
    change enter r p s = .ok s
    rw [enter_open hr hm hs fun _ => ""]
    simp [hbound, openedMarks, hopened, htag, insideTag, ← hs]
  have hleave : (visitor r).leave p s = .ok { s with skip := .begin } := leave_inMenu hm hin s
  rw [Visitor.walk_eq, henter, ok_bind, hchild, Visitor.walkAll_nil, ok_bind, hleave]

/-- The root is a hosted menu, and its first item holds a menu or shows a component of its own. -/
def Leaks (r : Registry) (t : Tree) : Prop :=
  t.hosted ∧ t.root.kind = r.menu.menuKind ∧ ∃ first ∈ t.root.children.head?,
    first.children ≠ [] ∨ (r.mapping? r.menu.menuItemKind).any (·.emittedComponent.isSome)

/-- The walk from a hosted menu: its tag is opened and closed around what the items leave behind. -/
theorem walk_hostedMenu (hr : r.Consistent) {t : Tree} {m : Mapping}
    (hm : r.mapping? t.rootPlace.kind = some m) (hp : t.hosted) (name : Nat → String) :
    (visitor r).walk t.rootPlace {} =
      (visitor r).walkAll t.rootPlace.children ⟨openedMarks m name t.rootPlace {},
        (opened m t.rootPlace {}).indent, {}, {}⟩ >>= fun s =>
      .ok (closeSlot m t.rootPlace
        (closeTag (m.openedTag t.rootPlace.hosted) { s with skip := {} })) := by
  have henter : (visitor r).enter t.rootPlace {} = .ok ⟨openedMarks m name t.rootPlace {},
      (opened m t.rootPlace {}).indent, {}, {}⟩ := by
    change enter r t.rootPlace {} = _
    rw [enter_open hr hm rfl name]
    simp [Tree.rootPlace, hp]
  have hleave : ∀ s : State, (visitor r).leave t.rootPlace s =
      .ok (closeSlot m t.rootPlace
        (closeTag (m.openedTag t.rootPlace.hosted) { s with skip := {} })) := fun s => by
    change leave r t.rootPlace s = _
    rw [leave, Registry.require_eq_ok.2 hm, ok_bind]
    simp [MenuSkip.leave, MenuSkip.parentInMenu, Place.parentKind?, Place.parent?, Tree.rootPlace]
  rw [Visitor.walk_eq, henter, ok_bind]
  exact congrArg _ (funext hleave)

/-- The first item of a hosted menu, and what it leaves behind. -/
theorem leaks_iff_first {t : Tree} (hp : t.hosted) (hk : t.root.kind = r.menu.menuKind) {c : Place}
    {cs : List Place} (hchild : t.rootPlace.children = c :: cs) {m : Mapping}
    (hm : r.mapping? r.menu.menuItemKind = some m) :
    Leaks r t ↔ c.children ≠ [] ∨ m.emittedComponent.isSome := by
  have hnodes : t.root.children = (c :: cs).map Place.node := by
    rw [← hchild]
    exact t.rootPlace.map_node_children.symm
  have hempty : c.node.children = [] ↔ c.children = [] := by
    rw [← c.map_node_children, List.map_eq_nil_iff]
  simp [Leaks, hp, hk, hnodes, hm, hempty]

theorem balanced_hostedMenu (hr : r.Consistent) {t : Tree} (h : Accepted r t.rootPlace)
    (hp : t.hosted) (hk : t.root.kind = r.menu.menuKind) (hleaks : ¬Leaks r t) {s : State}
    (hwalk : (visitor r).walk t.rootPlace {} = .ok s) : Balanced s.marks ∧ s.indent = 0 := by
  obtain ⟨m, hm, -⟩ := h.here
  have hstill : ∀ s₁ : State, s₁.skip = {} → ∃ skip,
      (visitor r).walkAll t.rootPlace.children s₁ = .ok { s₁ with skip } := by
    intro s₁ hs₁
    cases hchild : t.rootPlace.children with
    | nil => exact ⟨s₁.skip, rfl⟩
    | cons c cs =>
      have hc : c ∈ t.rootPlace.children := by simp [hchild]
      obtain ⟨mc, hmc, -⟩ := (h.child hc).here
      obtain ⟨hitem, -⟩ := h.item_of_mem hk hc
      obtain ⟨hempty, htag⟩ : c.children = [] ∧ mc.emittedComponent = none := by
        simpa [leaks_iff_first hp hk hchild (hitem ▸ hmc)] using hleaks
      have hhost : c.parentHosted := by
        simp [Place.parentHosted, Place.parent_of_mem hc, Place.asAncestor, Tree.rootPlace, hp]
      have hin : MenuSkip.parentInMenu r c = true :=
        parentInMenu_of_menu (p := t.rootPlace) hk hc
      have hfirst := walk_bareItem hr hmc hin (Place.hosted_of_mem hc) hhost htag hempty hs₁
      refine ⟨.begin, ?_⟩
      rw [Visitor.walkAll_cons, hfirst, ok_bind]
      exact walkAll_skipped h hk (by simp [hchild]) rfl
  rw [walk_hostedMenu hr hm hp fun _ => ""] at hwalk
  obtain ⟨skip, hchildren⟩ := hstill ⟨openedMarks m (fun _ => "") t.rootPlace {},
    (opened m t.rootPlace {}).indent, {}, {}⟩ rfl
  rw [hchildren, ok_bind] at hwalk
  have hclose := close_opened (s := {}) (m := m) (p := t.rootPlace) rfl (fun _ => "") [] {}
  rw [Block.marksAll, List.append_nil] at hclose
  cases hwalk.symm.trans (congrArg Except.ok hclose)
  exact ⟨Block.nesting_marksAll 2 [] _, rfl⟩

theorem level_hostedMenu (hr : r.Consistent) {t : Tree} (h : Accepted r t.rootPlace)
    (hleaks : Leaks r t) {s : State} (hwalk : (visitor r).walk t.rootPlace {} = .ok s) :
    ∃ n, 0 < n ∧ Level s n := by
  obtain ⟨hp, hk, -⟩ := id hleaks
  obtain ⟨m, hm, -⟩ := h.here
  rw [walk_hostedMenu hr hm hp fun _ => ""] at hwalk
  obtain ⟨s₂, hchildren, hwalk⟩ := bind_eq_ok.1 hwalk
  cases hwalk
  cases hchild : t.rootPlace.children with
  | nil =>
    obtain ⟨-, -, first, hfirst, -⟩ := hleaks
    have hnodes := t.rootPlace.map_node_children
    rw [hchild] at hnodes
    simp [show t.root.children = [] from hnodes.symm] at hfirst
  | cons c cs =>
    have hc : c ∈ t.rootPlace.children := by simp [hchild]
    obtain ⟨mc, hmc, -⟩ := (h.child hc).here
    obtain ⟨hitem, -⟩ := h.item_of_mem hk hc
    rw [hchild, Visitor.walkAll_cons] at hchildren
    obtain ⟨s₁, hfirst, hrest⟩ := bind_eq_ok.1 hchildren
    have hlevel := Level.opened (s := {}) (n := 0) ⟨rfl, rfl⟩ rfl m (fun _ => "") t.rootPlace {} {}
    obtain ⟨hbegin, k, hlevel₁, hle, hlt⟩ :=
      hlevel.walk_item hr h hk hc hmc rfl hfirst
    rw [walkAll_skipped h hk (by simp [hchild]) hbegin] at hrest
    cases hrest
    have hmore : levels m t.rootPlace < k := by
      rcases (leaks_iff_first hp hk hchild (hitem ▸ hmc)).1 hleaks with hbelow | htag
      · have hopen := hlt hbelow
        omega
      · have hpos : 0 < levels mc c := by
          obtain ⟨tag, htag⟩ := Option.isSome_iff_exists.1 htag
          simp [levels, Mapping.openedTag, Place.hosted_of_mem hc, htag]
        omega
    refine ⟨k - levels m t.rootPlace, by omega, Level.closed ⟨?_, ?_⟩⟩
    · rw [Nat.sub_add_cancel (Nat.le_of_lt hmore)]
      exact hlevel₁.indent
    · rw [Nat.sub_add_cancel (Nat.le_of_lt hmore)]
      exact hlevel₁.rise

/-! ### Compiled templates -/

theorem balanced_iff (hr : r.Consistent) {t : Tree} (h : Accepted r t.rootPlace) {s : State}
    (hwalk : (visitor r).walk t.rootPlace {} = .ok s) :
    (Balanced s.marks ↔ ¬Leaks r t) ∧ (s.indent = 0 ↔ ¬Leaks r t) := by
  by_cases hleaks : Leaks r t
  · obtain ⟨n, hpos, hlevel⟩ := level_hostedMenu hr h hleaks hwalk
    have hindent := hlevel.indent
    have hrise := hlevel.rise
    refine ⟨iff_of_false (fun hbalanced => ?_) (not_not.2 hleaks),
      iff_of_false (by omega) (not_not.2 hleaks)⟩
    have hzero := hbalanced.rise_eq_zero
    omega
  · have hgood : Balanced s.marks ∧ s.indent = 0 := by
      by_cases hmenu : t.hosted = true ∧ t.root.kind = r.menu.menuKind
      · exact balanced_hostedMenu hr h hmenu.1 hmenu.2 hleaks hwalk
      · obtain ⟨name, namer, -, rfl⟩ := walk_eq_outline hr h hmenu hwalk
        exact ⟨Block.nesting_marksAll 2 [] _, rfl⟩
    exact ⟨iff_of_true hgood.1 hleaks, iff_of_true hgood.2 hleaks⟩

theorem check_of_checkedRegistry {o : Options} {r : Registry} (h : o.checkedRegistry = .ok r) :
    r.check = .ok () := by
  unfold Options.checkedRegistry at h
  cases hr : o.registry with
  | none =>
    rw [hr] at h
    cases h
    exact Registry.check_builtin
  | some r' =>
    rw [hr] at h
    obtain ⟨_, hcheck, h⟩ := bind_eq_ok.1 h
    cases h
    exact hcheck

theorem consistent_of_checkedRegistry {o : Options} {r : Registry}
    (h : o.checkedRegistry = .ok r) : r.Consistent :=
  Registry.consistent_of_check (check_of_checkedRegistry h)

/-- A compiled template is the text of marks that are balanced, and whose indentation has come back
to zero, exactly if no hosted menu leaves its first item open. -/
theorem compile_balanced_iff {o : Options} {container : Markup.Element} {out : Compiled}
    (h : compile o container = .ok out) :
    ∃ r t s, o.checkedRegistry = .ok r ∧ Tree.ofContainer container (o.hosted.getD false) = .ok t ∧
      (visitor r).walk t.rootPlace {} = .ok s ∧ out.template = document o.banner (render s.marks) ∧
      (Balanced s.marks ↔ ¬Leaks r t) ∧ (s.indent = 0 ↔ ¬Leaks r t) := by
  obtain ⟨r, hr, h⟩ := bind_eq_ok.1 h
  obtain ⟨t, ht, h⟩ := bind_eq_ok.1 h
  obtain ⟨_, hcheck, h⟩ := bind_eq_ok.1 h
  obtain ⟨text, htext, h⟩ := bind_eq_ok.1 h
  obtain ⟨script, -, h⟩ := bind_eq_ok.1 h
  cases h
  obtain ⟨body, hbody, htext⟩ := bind_eq_ok.1 htext
  cases htext
  obtain ⟨marks, hmarks, hbody⟩ := bind_eq_ok.1 hbody
  cases hbody
  obtain ⟨s, hs, hmarks⟩ := bind_eq_ok.1 hmarks
  cases hmarks
  have hbalanced :=
    balanced_iff (consistent_of_checkedRegistry hr) (accepted_of_check hcheck) hs
  exact ⟨r, t, s, hr, ht, hs, rfl, hbalanced.1, hbalanced.2⟩

/-- A registry in which a hosted menu is shown as a list. -/
def listRegistry : Registry :=
  { Registry.builtin with
    elements := .ofList
      [("Menu", { Registry.menuMapping with hostSubstitution := some ⟨"ul", "menuClass"⟩ }),
       ("MenuItem", Registry.menuItemMapping)] }

/-- A menu with a menu in its only item. -/
def contextMenu : Markup.Element :=
  ⟨"Menu", [], [⟨"MenuItem", [⟨"title", "Open"⟩],
    [⟨"Menu", [⟨"type", "Popup"⟩, ⟨"title", "Recent"⟩], []⟩]⟩]⟩

theorem contextMenu_unbalanced :
    ∃ out r t s,
      compile ⟨some true, some listRegistry, false⟩ ⟨"template", [], [contextMenu]⟩ = .ok out ∧
      Leaks r t ∧ (visitor r).walk t.rootPlace {} = .ok s ∧
      out.template = document false (render s.marks) ∧ ¬Balanced s.marks ∧ s.indent ≠ 0 := by
  have hok : (compile ⟨some true, some listRegistry, false⟩
      ⟨"template", [], [contextMenu]⟩).toOption.isSome := by
    decide +kernel
  have hcheck : listRegistry.check = .ok () := by decide +kernel
  have hleaks : Leaks listRegistry ⟨.ofElement contextMenu, true⟩ :=
    ⟨rfl, rfl, _, rfl, .inl (List.cons_ne_nil _ _)⟩
  cases hout : compile ⟨some true, some listRegistry, false⟩ ⟨"template", [], [contextMenu]⟩ with
  | error fault => simp [hout, Except.toOption] at hok
  | ok out =>
    obtain ⟨r, t, s, hr, ht, hwalk, htext, hbalanced, hindent⟩ := compile_balanced_iff hout
    obtain rfl : listRegistry = r := by simpa [Options.checkedRegistry, hcheck] using hr
    cases ht
    exact ⟨out, listRegistry, _, s, rfl, hleaks, hwalk, htext, fun h => hbalanced.1 h hleaks,
      fun h => hindent.1 h hleaks⟩

end Widgetry.Template
