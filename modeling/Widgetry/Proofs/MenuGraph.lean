import Widgetry.Proofs.MenuProgram
import Widgetry.Proofs.Program.Run

/-! The objects that a menu program builds. The program constructs one object for each place below
the menu, in document order, so that the index of a place tells the number of its construction.
When it is done every nested menu lists the items right below it, every item with a menu below it
holds that menu, and the items right below the menu itself stand behind those it had before. -/

namespace Widgetry.Menu

open Program
open Structure (Accepted)

variable (w : Setting) (r : Registry)

/-! ### Objects of places -/

/-- The value of the constant for a submenu, and the title. -/
def arguments (q : Place) : List Value :=
  (if q.kind = r.menu.menuKind then
    [.global (.parse (space r ++ "." ++ r.menu.submenuConstant))] else []) ++
  [.text (withoutReturns (title r q))]

/-- The object behind a place when it has just been constructed, as the `n`-th object. -/
def newObject (n : Nat) (q : Place) : Object := w.new (.parse (className r q)) (arguments r q) n

/-- The objects behind places, by the numbers of their constructions. -/
def objects (number : Place → Nat) (qs : List Place) : List Value :=
  qs.map fun q => .object ⟨number q, []⟩

/-- The object behind a place with its links: a menu lists its items, and an item holds its menu. -/
def linkedObject (number : Place → Nat) (q : Place) : Object :=
  if q.kind = r.menu.menuKind then
    (newObject w r (number q) q).setOwn (segments r.menu.itemsField)
      (.list (objects number q.children))
  else
    match q.children with
    | [] => newObject w r (number q) q
    | d :: _ =>
      (newObject w r (number q) q).setOwn (segments r.menu.submenuField)
        (.value (.object ⟨number d, []⟩))

/-- Places from the index `first` on have the constructions from `base` on. -/
def number (base first : Nat) (q : Place) : Nat := base + (q.index - first)

/-! ### Declarations -/

/-- Nothing is declared but the variables of menu programs. -/
def Clear (scopes : List Scope) : Prop :=
  ∀ name, name ≠ submenuVariable → name ≠ itemVariable → lookup scopes name = none

/-- The variable for the object behind a place. -/
def variableName (q : Place) : String :=
  if q.kind = r.menu.menuKind then submenuVariable else itemVariable

variable {w r}

theorem Clear.only {scopes : List Scope} (h : Clear scopes) (q : Place) (held : Option Address) :
    Clear (only (variableName r q) held :: scopes) := by
  intro name hsubmenu hitem
  have hne : name ≠ variableName r q := by
    unfold variableName
    split_ifs
    · exact hsubmenu
    · exact hitem
  rw [lookup_only_of_ne hne, h name hsubmenu hitem]

theorem isGlobal_parse {path : String} (h : isGlobalPath path) {s : Program.State}
    (hs : Clear s.scopes) : s.isGlobal (.parse path) := by
  simp only [isGlobalPath, Bool.and_eq_true, bne_iff_ne] at h
  obtain ⟨⟨⟨-, hname⟩, hsubmenu⟩, hitem⟩ := h
  have hthis : (Path.parse path).head ≠ "this" := by
    intro heq
    rw [heq] at hname
    exact absurd hname (by decide +kernel)
  simp [Program.State.isGlobal, hthis, hs _ hsubmenu hitem]

/-- The scopes in the block of a place when its object has been constructed as the `n`-th one. -/
def inBlock (r : Registry) (q : Place) (n : Nat) (scopes : List Scope) : List Scope :=
  only (variableName r q) (some ⟨n, []⟩) :: scopes

theorem lookup_inBlock (q : Place) (n : Nat) (scopes : List Scope) :
    lookup (inBlock r q n scopes) (variableName r q) = some (some ⟨n, []⟩) := lookup_only ..

theorem Clear.inBlock {scopes : List Scope} (h : Clear scopes) (q : Place) (n : Nat) :
    Clear (inBlock r q n scopes) := h.only q _

/-- The declaration of a place gives its variable the new object. -/
theorem exec_declaration (hr : WellNamed r) (hspace : r.submenuNamespace?.isSome) {q : Place}
    (h : Buildable r q) {scopes : List Scope} (hs : Clear scopes) (heap : Heap) :
    exec w (declarationStatement r q) ⟨heap, only (variableName r q) none :: scopes⟩ =
      some ⟨heap ++ [newObject w r heap.length q], inBlock r q heap.length scopes⟩ := by
  have hclear := hs.only (r := r) q none
  have hclass := isGlobal_parse (hr.className h) (s := ⟨heap, _⟩) hclear
  have hconstant := isGlobal_parse (hr.constantPath hspace) (s := ⟨heap, _⟩) hclear
  unfold declarationStatement newObject arguments inBlock variableName at *
  split_ifs at * with hk
  · exact exec_declare hclass (by simp [Program.State.value?, hconstant])
  · exact exec_declare hclass (by simp [Program.State.value?])

/-! ### Blocks -/

@[simp] theorem declared_blockStatement (root : Place) (rootName : String) (q : Place) :
    (blockStatement r root rootName q).declared? = none := by
  rw [blockStatement_eq]
  rfl

/-- The only variable of a place's block is that of its object. -/
theorem declared_block (root : Place) (rootName : String) (q : Place) :
    (declarationStatement r q :: (q.children.map (blockStatement r root rootName) ++
      [linkStatement r root rootName q])).filterMap Statement.declared? = [variableName r q] := by
  have hlink : (linkStatement r root rootName q).declared? = none := by
    unfold linkStatement
    split_ifs <;> rfl
  have hdeclaration : (declarationStatement r q).declared? = some (variableName r q) := by
    unfold declarationStatement variableName
    split_ifs <;> rfl
  simp [hdeclaration, hlink]

/-- A block is its declaration, the blocks inside and the link. -/
theorem exec_blockStatement (hr : WellNamed r) (hspace : r.submenuNamespace?.isSome) (root : Place)
    (rootName : String) {q : Place} (h : Buildable r q) {scopes : List Scope} (hs : Clear scopes)
    {heap built : Heap} {after : Program.State}
    (hinner : execAll w (q.children.map (blockStatement r root rootName))
      ⟨heap ++ [newObject w r heap.length q], inBlock r q heap.length scopes⟩ =
        some ⟨built, inBlock r q heap.length scopes⟩)
    (hlink : exec w (linkStatement r root rootName q)
      ⟨built, inBlock r q heap.length scopes⟩ = some after) :
    exec w (blockStatement r root rootName q) ⟨heap, scopes⟩ = some ⟨after.heap, scopes⟩ := by
  rw [blockStatement_eq, exec_block (declared_block root rootName q), execAll,
    exec_declaration hr hspace h hs]
  simp [execAll_append, hinner, hlink, execAll]

/-- Executed where `_menuItem` holds an item from which the member for its menu can be reached, the
block of a menu gives the item its menu and builds the objects of the menu and of everything below
it. -/
def MenuRuns (w : Setting) (r : Registry) (root : Place) (rootName : String)
    (number : Place → Nat) (q : Place) : Prop :=
  ∀ (heap : Heap) (scopes : List Scope) (item holder : Address) (name : String), Clear scopes →
    heap.length = number q → lookup scopes itemVariable = some (some item) →
    heap.holder? item (segments r.menu.submenuField) = some (holder, name) →
    holder.construction < heap.length →
    exec w (blockStatement r root rootName q) ⟨heap, scopes⟩ =
      some ⟨heap.put holder name (.value (.object ⟨number q, []⟩)) ++
        q.places.map (linkedObject w r number), scopes⟩

/-- Executed where its path leads to a list, the block of an item pushes the item onto the list and
builds the objects of the item and of everything below it. -/
def ItemRuns (w : Setting) (r : Registry) (root : Place) (rootName : String)
    (number : Place → Nat) (q : Place) : Prop :=
  ∀ (heap : Heap) (scopes : List Scope) (menu holder : Address) (name : String)
    (items : List Value), Clear scopes → heap.length = number q →
    Program.State.locate w ⟨heap, scopes⟩ (listPath r root rootName q) =
      some (menu, segments r.menu.itemsField) →
    heap.holder? menu (segments r.menu.itemsField) = some (holder, name) →
    heap.member? holder name = some (.list items) →
    exec w (blockStatement r root rootName q) ⟨heap, scopes⟩ =
      some ⟨heap.put holder name (.list (items ++ [.object ⟨number q, []⟩])) ++
        q.places.map (linkedObject w r number), scopes⟩

theorem linkedObject_places (number : Place → Nat) (q : Place) :
    q.places.map (linkedObject w r number) =
      linkedObject w r number q :: q.descendants.map (linkedObject w r number) := by
  rw [Place.places_eq, List.map_cons]
  rfl

/-- The block of an item, from that of the menu in it. -/
theorem itemRuns (hr : WellNamed r) (hspace : r.submenuNamespace?.isSome) {root : Place}
    {rootName : String} {number : Place → Nat} {q : Place} (h : Buildable r q)
    (hk : q.kind = r.menu.menuItemKind) (hmenu : q.kind ≠ r.menu.menuKind)
    (hcount : q.children.length ≤ 1)
    (hnumber : ∀ d ∈ q.children, number d = number q + 1)
    (howns : q.children ≠ [] → ∀ n, (newObject w r n q).Owns n (segments r.menu.submenuField))
    (hruns : ∀ d ∈ q.children, MenuRuns w r root rootName number d) :
    ItemRuns w r root rootName number q := by
  intro heap scopes menu holder name items hs hlength hlist hholder hitems
  have hvariable : variableName r q = itemVariable := if_neg hmenu
  have hlinked : linkedObject w r number q =
      match q.children with
      | [] => newObject w r (number q) q
      | d :: _ =>
        (newObject w r (number q) q).setOwn (segments r.menu.submenuField)
          (.value (.object ⟨number d, []⟩)) :=
    if_neg hmenu
  have hinner : execAll w (q.children.map (blockStatement r root rootName))
      ⟨heap ++ [newObject w r heap.length q], inBlock r q heap.length scopes⟩ =
        some ⟨heap ++ q.places.map (linkedObject w r number), inBlock r q heap.length scopes⟩ := by
    rw [linkedObject_places, hlinked, Place.descendants]
    cases hchild : q.children with
    | nil => simp [execAll, hlength]
    | cons d rest =>
      obtain rfl : rest = [] := by simpa [hchild] using hcount
      have hd : d ∈ q.children := by simp [hchild]
      have hreached := Heap.holder?_of_owns (List.getElem?_concat_length (l := heap))
        (howns (by simp [hchild]) heap.length) (segments_ne_nil r.menu.submenuField)
      have hrun := hruns d hd (heap ++ [newObject w r heap.length q])
        (inBlock r q heap.length scopes) _ _ _ (hs.inBlock q _) (by simp [hlength, hnumber d hd])
        (by rw [← hvariable, lookup_inBlock]) hreached (by simp)
      rw [Heap.put_length] at hrun
      simp [execAll, hrun, ← hlength, Object.setOwn]
  have hhead : (listPath r root rootName q).head ≠ variableName r q := by
    rw [hvariable]
    unfold listPath
    split_ifs
    · exact (by decide +kernel : "this" ≠ itemVariable)
    · exact (by decide +kernel : submenuVariable ≠ itemVariable)
  have hlt := Heap.lt_length_of_member? hitems
  have hlink : exec w (linkStatement r root rootName q)
      ⟨heap ++ q.places.map (linkedObject w r number), inBlock r q heap.length scopes⟩ =
      some ⟨Heap.put (heap ++ q.places.map (linkedObject w r number)) holder name
          (.list (items ++ [.object ⟨heap.length, []⟩])), inBlock r q heap.length scopes⟩ := by
    rw [linkStatement, if_pos hk]
    refine exec_push ?_ (Heap.holder?_append hholder _) (Heap.member?_append hitems _) ?_
    · rw [inBlock, locate_only_of_ne hhead, hlist]
    · exact value?_variable (by decide +kernel) (by rw [← hvariable, lookup_inBlock])
  rw [exec_blockStatement hr hspace root rootName h hs hinner hlink, Heap.put_append hlt, hlength]

/-- Siblings that are items, one after the other. -/
theorem itemsRun {root : Place} {rootName : String} {base first : Nat} {ancestors : List Ancestor}
    {ns : List Node} {start : Nat} (hstart : first ≤ start)
    (h : ∀ q ∈ Place.siblings ancestors start ns,
      ItemRuns w r root rootName (number base first) q)
    {heap : Heap} {scopes : List Scope} (hs : Clear scopes) {menu holder : Address} {name : String}
    (hlist : ∀ q ∈ Place.siblings ancestors start ns, ∀ heap,
      Program.State.locate w ⟨heap, scopes⟩ (listPath r root rootName q) =
        some (menu, segments r.menu.itemsField)) {items : List Value}
    (hlength : heap.length = base + (start - first))
    (hholder : heap.holder? menu (segments r.menu.itemsField) = some (holder, name))
    (hitems : heap.member? holder name = some (.list items)) :
    execAll w ((Place.siblings ancestors start ns).map (blockStatement r root rootName))
      ⟨heap, scopes⟩ =
      some ⟨heap.put holder name (.list (items ++
          objects (number base first) (Place.siblings ancestors start ns))) ++
        ((Place.siblings ancestors start ns).flatMap Place.places).map
          (linkedObject w r (number base first)), scopes⟩ := by
  induction ns generalizing start heap items with
  | nil => simp [Place.siblings, objects, execAll, Heap.put_member? hitems]
  | cons n ns ih =>
    rw [Place.siblings, List.forall_mem_cons] at h hlist
    set q : Place := ⟨start, n, false, ancestors⟩
    set heap' := heap.put holder name (.list (items ++ [.object ⟨number base first q, []⟩])) ++
      q.places.map (linkedObject w r (number base first)) with hheap'
    have hlt := Heap.lt_length_of_member? hitems
    have hfirst : exec w (blockStatement r root rootName q) ⟨heap, scopes⟩ =
        some ⟨heap', scopes⟩ :=
      h.1 heap scopes menu holder name items hs hlength (hlist.1 heap) hholder hitems
    have hlength' : heap'.length = base + (start + n.size - first) := by
      simp [hheap', q, Place.length_places, hlength]
      omega
    have hholder' : heap'.holder? menu (segments r.menu.itemsField) = some (holder, name) :=
      Heap.holder?_append (by rw [Heap.holder?_put_list hitems, hholder]) _
    have hitems' : heap'.member? holder name =
        some (.list (items ++ [.object ⟨number base first q, []⟩])) :=
      Heap.member?_append (Heap.member?_put hlt) _
    have hrest := ih (Nat.le_trans hstart (Nat.le_add_right start n.size)) h.2 hlist.2 hlength'
      hholder' hitems'
    rw [Place.siblings, List.map_cons, execAll, hfirst]
    simp only [Option.bind_eq_bind, Option.bind_some, hrest]
    rw [hheap', Heap.put_append (by simpa using hlt), Heap.put_put]
    simp [objects, q]

/-- The block of a nested menu, from those of its items. -/
theorem menuRuns (hr : WellNamed r) (hspace : r.submenuNamespace?.isSome) {root : Place}
    {rootName : String} {base first : Nat} {q : Place} (h : Buildable r q)
    (hk : q.kind = r.menu.menuKind) (hitem : q.kind ≠ r.menu.menuItemKind)
    (hroot : q.index ≠ root.index) (hfirst : first ≤ q.index)
    (howns : ∀ n, (newObject w r n q).Owns n (segments r.menu.itemsField))
    (hempty : ∀ n, (newObject w r n q).own? (segments r.menu.itemsField) = some (.list []))
    (hruns : ∀ c ∈ q.children, ItemRuns w r root rootName (number base first) c) :
    MenuRuns w r root rootName (number base first) q := by
  intro heap scopes item holder name hs hlength hlookup hholder hlt
  have hvariable : variableName r q = submenuVariable := if_pos hk
  have hlinked : linkedObject w r (number base first) q =
      (newObject w r (number base first q) q).setOwn (segments r.menu.itemsField)
        (.list (objects (number base first) q.children)) := if_pos hk
  have hlist : ∀ c ∈ q.children, ∀ heap', Program.State.locate w
      ⟨heap', inBlock r q heap.length scopes⟩ (listPath r root rootName c) =
        some (⟨heap.length, []⟩, segments r.menu.itemsField) := by
    intro c hc heap'
    have hparent : c.parent?.map (·.index) ≠ some root.index := by
      simpa [Place.parent_of_mem hc, Place.asAncestor] using hroot
    rw [listPath, if_neg hparent]
    exact locate_variable (by decide +kernel) (by rw [← hvariable, lookup_inBlock]) _
  have hinner : execAll w (q.children.map (blockStatement r root rootName))
      ⟨heap ++ [newObject w r heap.length q], inBlock r q heap.length scopes⟩ =
        some ⟨heap ++ q.places.map (linkedObject w r (number base first)),
          inBlock r q heap.length scopes⟩ := by
    have hstart : (heap ++ [newObject w r heap.length q]).length =
        base + (q.index + 1 - first) := by
      simp [hlength, number]
      omega
    have hreached := Heap.holder?_of_owns (List.getElem?_concat_length (l := heap))
      (howns heap.length) (segments_ne_nil r.menu.itemsField)
    have hnone : Heap.member? (heap ++ [newObject w r heap.length q])
        ⟨heap.length, (segments r.menu.itemsField).dropLast⟩
        ((segments r.menu.itemsField).getLastD "") = some (.list []) := by
      rw [Heap.member?, List.getElem?_concat_length]
      exact hempty heap.length
    have hrun := itemsRun (Nat.le_succ_of_le hfirst) hruns (hs.inBlock q _) hlist hstart hreached
      hnone
    rw [Heap.put_length] at hrun
    rw [linkedObject_places, hlinked, ← hlength]
    simpa [Place.children, Place.descendants, Object.setOwn, inBlock] using hrun
  have hlink : exec w (linkStatement r root rootName q)
      ⟨heap ++ q.places.map (linkedObject w r (number base first)),
        inBlock r q heap.length scopes⟩ =
      some ⟨Heap.put (heap ++ q.places.map (linkedObject w r (number base first))) holder name
          (.value (.object ⟨heap.length, []⟩)), inBlock r q heap.length scopes⟩ := by
    rw [linkStatement, if_neg hitem]
    refine exec_assign ?_ (Heap.holder?_append hholder _) ?_ ?_
    · refine locate_variable (by decide +kernel) ?_ _
      rw [inBlock, hvariable, lookup_only_of_ne (by decide +kernel), hlookup]
    · rw [List.length_append]
      exact Nat.lt_add_right _ hlt
    · exact value?_variable (by decide +kernel) (by rw [← hvariable, lookup_inBlock])
  rw [exec_blockStatement hr hspace root rootName h hs hinner hlink, Heap.put_append hlt, hlength]

/-! ### Menus -/

/-- A new menu has an empty list of items of its own. -/
def StartsEmpty (w : Setting) (r : Registry) : Prop :=
  ∀ className, r.runtimeClass? r.menu.menuKind = some className → ∀ arguments n,
    (w.new (.parse className) arguments n).Owns n (segments r.menu.itemsField) ∧
      (w.new (.parse className) arguments n).own? (segments r.menu.itemsField) = some (.list [])

/-- The items that get a menu are constructed with the parts through which the name of its member
leads. A name without dots leads through none. -/
def MakesRoom (w : Setting) (r : Registry) (m : Place) : Prop :=
  ∀ q ∈ m.descendants, q.kind = r.menu.menuItemKind → q.children ≠ [] →
    ∀ n, (newObject w r n q).Owns n (segments r.menu.submenuField)

/-- The new object of a menu has an empty list of items of its own. -/
theorem StartsEmpty.newObject (h : StartsEmpty w r) {q : Place} (hq : Buildable r q)
    (hk : q.kind = r.menu.menuKind) (n : Nat) :
    (newObject w r n q).Owns n (segments r.menu.itemsField) ∧
      (newObject w r n q).own? (segments r.menu.itemsField) = some (.list []) := by
  obtain ⟨name, hname⟩ := Option.isSome_iff_exists.1 hq.className
  rw [Menu.newObject, className, hname]
  exact h name (hk ▸ hname) _ n

/-- Every block below the menu runs, by induction on the place: the blocks of items need those of
menus and the other way round. -/
theorem blocksRun (hr : WellNamed r) (hspace : r.submenuNamespace?.isSome)
    (hempty : StartsEmpty w r) (hdistinct : r.menu.menuKind ≠ r.menu.menuItemKind) {root : Place}
    (hroom : MakesRoom w r root) (rootName : String) (base : Nat) {p : Place} (h : Accepted r p)
    (hbuild : ∀ q ∈ p.places, Buildable r q) (hbelow : ∀ q ∈ p.places, q ∈ root.descendants) :
    (p.kind = r.menu.menuItemKind → p.node.children.length ≤ 1 →
        ItemRuns w r root rootName (number base (root.index + 1)) p) ∧
      (p.kind = r.menu.menuKind →
        MenuRuns w r root rootName (number base (root.index + 1)) p) := by
  induction p using Place.induction with
  | step p ih =>
    rw [Place.forall_mem_places] at hbuild hbelow
    have hinside := fun c hc => ih c hc (h.child hc) (hbuild.2 c hc) (hbelow.2 c hc)
    have hlt : root.index < p.index := root.lt_index_descendants p hbelow.1
    constructor
    · intro hk hcount
      rw [← p.map_node_children, List.length_map] at hcount
      refine itemRuns hr hspace hbuild.1 hk (hk.trans_ne hdistinct.symm) hcount ?_
        (hroom p hbelow.1 hk) fun d hd => (hinside d hd).2 (h.menu_of_mem hdistinct hk hd)
      intro d hd
      have hindex : d.index = p.index + 1 := by
        cases hchild : p.children with
        | nil => simp [hchild] at hd
        | cons c cs =>
          obtain rfl : cs = [] := by simpa [hchild] using hcount
          obtain rfl : d = c := by simpa [hchild] using hd
          exact Place.index_of_children_eq hchild
      simp only [number]
      omega
    · intro hk
      have hitems := fun c (hc : c ∈ p.children) => h.item_of_mem hk hc
      exact menuRuns hr hspace hbuild.1 hk (hk.trans_ne hdistinct) (Nat.ne_of_gt hlt) hlt
        (fun n => (hempty.newObject hbuild.1 hk n).1) (fun n => (hempty.newObject hbuild.1 hk n).2)
        fun c hc => (hinside c hc).1 (hitems c hc).1 (hitems c hc).2

/-- Every place below a menu of an accepted tree can be built if it has a title. -/
theorem buildable_of_mem (hr : r.Consistent) {m : Place} (h : Accepted r m)
    (hk : m.kind = r.menu.menuKind)
    (htitles : ∀ q ∈ m.descendants, (q.attribute? r.menu.titleAttribute).isSome) {q : Place}
    (hq : q ∈ m.descendants) : Buildable r q := by
  obtain ⟨hkind, hclass⟩ := declarable_of_mem hr h hk hq
  exact ⟨hkind, hclass, htitles q hq⟩

/-- The program of a menu, run on a heap in which the menu of the component lists some items, adds
an object for each place below the menu, with its links, and lists the items right below the menu
behind those that were there. -/
theorem run_blocks (hr : r.Consistent) (hnames : WellNamed r) (hempty : StartsEmpty w r) {m : Place}
    (hroom : MakesRoom w r m) (h : Accepted r m) (hk : m.kind = r.menu.menuKind)
    (hbuild : ∀ q ∈ m.descendants, Buildable r q) {rootName : String} {heap : Heap}
    {menu : Address} (hmenu : w.component rootName = some menu) {holder : Address} {name : String}
    (hholder : heap.holder? menu (segments r.menu.itemsField) = some (holder, name))
    {items : List Value} (hitems : heap.member? holder name = some (.list items)) :
    run w (m.children.map (blockStatement r m rootName)) heap =
      some (heap.put holder name (.list (items ++
          objects (number heap.length (m.index + 1)) m.children)) ++
        m.descendants.map (linkedObject w r (number heap.length (m.index + 1)))) := by
  have hruns : ∀ c ∈ m.children,
      ItemRuns w r m rootName (number heap.length (m.index + 1)) c := by
    intro c hc
    obtain ⟨hitem, hcount⟩ := h.item_of_mem hk hc
    have hblocks := blocksRun hnames hr.submenu hempty (h.distinct_of_mem hk hc) hroom rootName
      heap.length (h.child hc) (Place.forall_mem_descendants.1 hbuild c hc)
      (Place.forall_mem_descendants.1 (fun _ hq => hq) c hc)
    exact hblocks.1 hitem hcount
  have hlist : ∀ c ∈ m.children, ∀ heap, Program.State.locate w ⟨heap, [fun _ => none]⟩
      (listPath r m rootName c) = some (menu, segments r.menu.itemsField) := by
    intro c hc heap
    simp [listPath, Place.parent_of_mem hc, Place.asAncestor, Program.State.locate, hmenu]
  have hclear : Clear [fun _ => none] := fun _ _ _ => rfl
  have hrun := itemsRun (Nat.le_refl _) hruns hclear hlist (by simp) hholder hitems
  rw [run_eq (by simp)]
  change (execAll w (m.children.map _) _) = _ at hrun
  rw [hrun]
  rfl

/-- The object behind a place below the menu is found at its number. -/
theorem getElem?_linked {m q : Place} (hq : q ∈ m.descendants) (heap : Heap)
    (object : Place → Object) :
    (heap ++ m.descendants.map object)[number heap.length (m.index + 1) q]? =
      some (object q) := by
  rw [number, List.getElem?_append_right (Nat.le_add_right ..), Nat.add_sub_cancel_left,
    List.getElem?_map, Place.getElem?_descendants hq]
  rfl

/-! ### What is built -/

/-- The object behind a place as it is found in a heap. -/
structure Built (w : Setting) (r : Registry) (heap : Heap) (number : Place → Nat) (q : Place) :
    Prop where
  /-- It was constructed from the title. -/
  constructed : heap[number q]?.map (fun o => (o.className, o.arguments)) =
    some (.parse (className r q), arguments r q)
  /-- A menu lists the items right below it. -/
  items : q.kind = r.menu.menuKind →
    heap.get? ⟨number q, []⟩ (segments r.menu.itemsField) = some (.list (objects number q.children))
  /-- An item holds the menu right below it. -/
  submenu : q.kind = r.menu.menuItemKind → ∀ d ∈ q.children,
    heap.get? ⟨number q, []⟩ (segments r.menu.submenuField) = some (.value (.object ⟨number d, []⟩))
  /-- An item without a menu is as it was constructed. -/
  leaf : q.kind = r.menu.menuItemKind → q.children = [] →
    heap[number q]? = some (newObject w r (number q) q)

/-- A linked object has its links. -/
theorem built_of_linked (hempty : StartsEmpty w r)
    (hdistinct : r.menu.menuKind ≠ r.menu.menuItemKind) {q : Place} (h : Buildable r q)
    (hsound : Structure.Sound r q)
    (hroom : q.kind = r.menu.menuItemKind → q.children ≠ [] →
      ∀ n, (newObject w r n q).Owns n (segments r.menu.submenuField))
    {heap : Heap} {number : Place → Nat}
    (ho : heap[number q]? = some (linkedObject w r number q)) : Built w r heap number q where
  constructed := by
    rw [ho, linkedObject]
    split_ifs
    · rfl
    · cases q.children <;> rfl
  items hk := by
    rw [linkedObject, if_pos hk] at ho
    rw [Heap.get?_of_owns ho (hempty.newObject h hk _).1.setOwn (segments_ne_nil _),
      Object.own?_setOwn]
  submenu hk d hd := by
    have hcount := hsound.children_of_item hk
    rw [← q.map_node_children, List.length_map] at hcount
    rw [linkedObject, if_neg (hk.trans_ne hdistinct.symm)] at ho
    cases hchild : q.children with
    | nil => simp [hchild] at hd
    | cons c cs =>
      obtain rfl : cs = [] := by simpa [hchild] using hcount
      obtain rfl : d = c := by simpa [hchild] using hd
      simp only [hchild] at ho
      rw [Heap.get?_of_owns ho (hroom hk (by simp [hchild]) _).setOwn (segments_ne_nil _),
        Object.own?_setOwn]
  leaf hk hchild := by
    rw [ho, linkedObject, if_neg (hk.trans_ne hdistinct.symm), hchild]

/-- The program of every menu in an accepted tree, all of whose widgets below have titles, is code
that builds the menu. Run where the component holds the menu under the given name, new menus are
empty and new items have room for a menu, it leaves the items of the menu as they were with one new
item behind them for each widget right below, in document order; the object of a widget is
constructed from its title without carriage returns, an item holds the menu below it, and a nested
menu lists its own items. Nothing else changes. -/
theorem lines_build_menu {r : Registry} {t : Tree} (hr : r.check = .ok ())
    (hnames : WellNamed r) (ht : Structure.check r t = .ok ()) {m : Place} (hm : m ∈ t.places)
    (hk : m.kind = r.menu.menuKind) {rootName : String} (hname : Text.isIdentifier rootName)
    (htitles : ∀ q ∈ m.descendants, (q.attribute? r.menu.titleAttribute).isSome) :
    ∃ ls program, lines r m rootName = .ok ls ∧ read (render ls) = some program ∧
      ∀ (w : Setting) (heap : Heap) (menu : Address) (items : List Value), StartsEmpty w r →
        MakesRoom w r m → w.component rootName = some menu →
        heap.get? menu (segments r.menu.itemsField) = some (.list items) →
        ∃ built holder name, run w program heap = some built ∧
          built.get? menu (segments r.menu.itemsField) =
            some (.list (items ++ objects (number heap.length (m.index + 1)) m.children)) ∧
          (∀ q ∈ m.descendants, Built w r built (number heap.length (m.index + 1)) q) ∧
          heap.holder? menu (segments r.menu.itemsField) = some (holder, name) ∧
          built = heap.put holder name (.list (items ++
              objects (number heap.length (m.index + 1)) m.children)) ++
            m.descendants.map (linkedObject w r (number heap.length (m.index + 1))) := by
  have hconsistent := Registry.consistent_of_check hr
  have haccepted : Accepted r m := (Structure.accepted_of_check ht).of_mem hm
  have hbuild : ∀ q ∈ m.descendants, Buildable r q := fun q hq =>
    buildable_of_mem hconsistent haccepted hk htitles hq
  refine ⟨_, _, lines_eq_blockLines rootName hbuild,
    read_blockLines hnames hconsistent.submenu hname hbuild, ?_⟩
  intro w heap menu items hempty hroom hmenu hlist
  obtain ⟨⟨holder, name⟩, hholder, hitems⟩ := Option.bind_eq_some_iff.1 hlist
  refine ⟨_, holder, name,
    run_blocks hconsistent hnames hempty hroom haccepted hk hbuild hmenu hholder hitems,
    ?_, fun q hq => ?_, hholder, rfl⟩
  · exact Heap.get?_put_list hitems hholder _
  · obtain ⟨c, hc, hqc⟩ := List.mem_flatMap.1 hq
    have hq' := ((haccepted.child hc).of_mem hqc).here
    refine built_of_linked hempty (haccepted.distinct_of_mem hk hc) (hbuild q hq) hq'
      (hroom q hq) ?_
    have hlinked := getElem?_linked hq (heap.put holder name (.list (items ++
      objects (number heap.length (m.index + 1)) m.children)))
      (linkedObject w r (number heap.length (m.index + 1)))
    rwa [Heap.length_put] at hlinked

/-! ### A menu that is built -/

/-- A registry of menus only, with the given classes, namespace and members. -/
def menuRegistry (menuClass itemClass space itemsField submenuField : String) : Registry where
  version := "0.1"
  runtimePackage := "menus"
  ambientInstance := "instance"
  menu := { Registry.builtinMenu with itemsField, submenuField }
  elements := .ofList
    [("Menu", { Registry.menuMapping with
        runtimeClass := some menuClass, constantNamespaces := .ofList [("type", space)] }),
     ("MenuItem", { Registry.menuItemMapping with runtimeClass := some itemClass })]

/-- A menu: an item with a menu of one item in it, and an item without one. -/
def nestedMenu : Tree where
  root := ⟨"Menu", .empty,
    [⟨"MenuItem", .ofList [("title", "File")],
      [⟨"Menu", .ofList [("title", "Files")], [⟨"MenuItem", .ofList [("title", "Open")], []⟩]⟩]⟩,
     ⟨"MenuItem", .ofList [("title", "Help")], []⟩]⟩
  hosted := false

/-- Members that lead through a part of their object. -/
def partedRegistry : Registry :=
  menuRegistry "ui.Menu" "ui.MenuItem" "ui.MenuType" "view.items" "link.menu"

/-- Every object comes with a view that lists no items and with a link, and the component holds the
first object. -/
def partedSetting : Setting where
  fresh _ _ n part name :=
    if part = [] ∧ (name = "view" ∨ name = "link") then some (.value (.object ⟨n, [name]⟩))
    else if part = ["view"] ∧ name = "items" then some (.list [])
    else none
  component name := if name = "m" then some ⟨0, []⟩ else none

theorem owns_partedSetting {name last : String} (hname : name = "view" ∨ name = "link")
    (className : Path) (arguments : List Value) (n : Nat) :
    (partedSetting.new className arguments n).Owns n [name, last] := by
  intro part first next rest hpath
  obtain ⟨rfl, rfl⟩ : part = [] ∧ name = first := by
    cases part with
    | nil => simp_all
    | cons => simp [List.cons_eq_append_iff] at hpath
  simp [partedSetting, Setting.new, hname]

theorem nestedMenu_built :
    ∃ ls program built, lines partedRegistry nestedMenu.rootPlace "m" = .ok ls ∧
      read (render ls) = some program ∧
      run partedSetting program [partedSetting.new ⟨"Menu", []⟩ [] 0] = some built ∧
      built.get? ⟨0, []⟩ ["view", "items"] = some (.list [.object ⟨1, []⟩, .object ⟨4, []⟩]) ∧
      built.get? ⟨1, []⟩ ["link", "menu"] = some (.value (.object ⟨2, []⟩)) ∧
      built.get? ⟨2, []⟩ ["view", "items"] = some (.list [.object ⟨3, []⟩]) ∧
      built.map Object.arguments = [[], [.text "File"],
        [.global ⟨"ui", ["MenuType", "Submenu"]⟩, .text "Files"], [.text "Open"],
        [.text "Help"]] := by
  have hregistry : partedRegistry.check = .ok () := by decide +kernel
  have hnames : WellNamed partedRegistry := by constructor <;> decide +kernel
  have htree : Structure.check partedRegistry nestedMenu = .ok () := by decide +kernel
  have htitles : ∀ q ∈ nestedMenu.rootPlace.descendants, (q.attribute? "title").isSome := by
    decide +kernel
  have hitems : segments partedRegistry.menu.itemsField = ["view", "items"] := by decide +kernel
  have hsubmenu : segments partedRegistry.menu.submenuField = ["link", "menu"] := by decide +kernel
  have hempty : StartsEmpty partedSetting partedRegistry := by
    intro className _ arguments n
    rw [hitems]
    exact ⟨owns_partedSetting (.inl rfl) _ _ n, rfl⟩
  have hroom : MakesRoom partedSetting partedRegistry nestedMenu.rootPlace := by
    intro q _ _ _ n
    rw [hsubmenu]
    exact owns_partedSetting (.inr rfl) _ _ n
  have hname : Text.isIdentifier "m" := by decide +kernel
  obtain ⟨ls, program, hls, hread, hrun⟩ := lines_build_menu hregistry hnames htree
    (m := nestedMenu.rootPlace) (.head _) rfl hname htitles
  obtain ⟨built, _, _, hbuilt, -, -, hholder, rfl⟩ := hrun partedSetting
    [partedSetting.new ⟨"Menu", []⟩ [] 0] ⟨0, []⟩ [] hempty hroom rfl (by decide +kernel)
  rw [hitems] at hholder
  cases hholder
  exact ⟨ls, program, _, hls, hread, hbuilt, by decide +kernel, by decide +kernel,
    by decide +kernel, by decide +kernel⟩

/-! ### Menus that are not built -/

/-- A path other than the two variables. -/
def Admitted (name : String) : Prop :=
  isPath name ∧ name ≠ submenuVariable ∧ name ≠ itemVariable

instance (name : String) : Decidable (Admitted name) := inferInstanceAs (Decidable (_ ∧ _ ∧ _))

/-- The registry is consistent, its names are paths other than the two variables, and the tree is an
accepted menu with titles. -/
structure Prepared (r : Registry) (t : Tree) : Prop where
  registry : r.check = .ok ()
  names : ∀ name ∈ names r, Admitted name
  tree : Structure.check r t = .ok ()
  kind : t.root.kind = r.menu.menuKind
  titles : ∀ q ∈ t.rootPlace.descendants, (q.attribute? r.menu.titleAttribute).isSome

/-- Every object starts with an empty list of items and nothing else, and the component holds the
first object. -/
def plainSetting : Setting where
  fresh _ _ _ part name := if part = [] ∧ name = "items" then some (.list []) else none
  component name := if name = "m" then some ⟨0, []⟩ else none

theorem startsEmpty_plainSetting {r : Registry} (h : r.menu.itemsField = "items") :
    StartsEmpty plainSetting r := by
  have hitems : segments "items" = ["items"] := by decide +kernel
  intro className _ arguments n
  rw [h, hitems]
  exact ⟨Object.owns_singleton _ n "items", rfl⟩

/-- What a program makes of the empty menu that the component holds. -/
def outcome? (program : List Statement) : Option Heap :=
  run plainSetting program [plainSetting.new ⟨"Menu", []⟩ [] 0]

/-- What the program of a menu makes of it. -/
def built? (r : Registry) (t : Tree) : Option Heap := do
  let ls ← (lines r t.rootPlace "m").toOption
  outcome? (← read (render ls))

/-- The program of a menu, statement by statement. -/
def statements (r : Registry) (t : Tree) : List Statement :=
  t.rootPlace.children.map (blockStatement r t.rootPlace "m")

theorem Prepared.built?_eq {r : Registry} {t : Tree} (h : Prepared r t) :
    built? r t = (readTokens (Statement.tokensAll (statements r t))).bind outcome? := by
  have hconsistent := Registry.consistent_of_check h.registry
  have hbuild : ∀ q ∈ t.rootPlace.descendants, Buildable r q := fun q hq =>
    buildable_of_mem hconsistent (Structure.accepted_of_check h.tree) h.kind h.titles hq
  have hspelled := spelled_of_names (fun name hname => (h.names name hname).1) hconsistent.submenu
  rw [built?, lines_eq_blockLines "m" hbuild]
  simp only [Except.toOption, Option.bind_eq_bind, Option.bind_some, Program.read, statements,
    tokens_blockLines hspelled (by decide +kernel : Text.isIdentifier "m") hbuild]

/-- Nothing is built if what is read fails. -/
theorem Prepared.built?_eq_none {r : Registry} {t : Tree} (h : Prepared r t)
    (hnone : Statement.ValidAll (statements r t) → outcome? (statements r t) = none) :
    built? r t = none := by
  rw [h.built?_eq, Option.bind_eq_none_iff]
  intro program hprogram
  obtain ⟨hvalid, rfl⟩ := readTokens_tokensAll.1 hprogram
  exact hnone hvalid

/-- A menu whose only item has a carriage return in its title, and a menu of one item in it. -/
def returnMenu : Tree where
  root := ⟨"Menu", .empty, [⟨"MenuItem", .ofList [("title", "a\rb")],
    [⟨"Menu", .ofList [("title", "c")], [⟨"MenuItem", .ofList [("title", "d")], []⟩]⟩]⟩]⟩
  hosted := false

section

variable {menuClass itemClass space itemsField submenuField : String}

theorem prepared_menuRegistry
    (h : ∀ name ∈ [menuClass, itemClass, space, itemsField, submenuField], Admitted name) :
    Prepared (menuRegistry menuClass itemClass space itemsField submenuField) returnMenu where
  registry := by
    have hname : Text.isIdentifier "instance" := by decide +kernel
    have hfaults :
        (menuRegistry menuClass itemClass space itemsField submenuField).faults = [] := by
      change (if Text.isIdentifier "instance" then [] else _) ++ _ ++ _ ++ _ = _
      rw [if_pos hname]
      rfl
    rw [Registry.check, hfaults]
  names := by
    have hconstant : Admitted "Submenu" := by decide +kernel
    change ∀ name ∈ [menuClass, itemClass, space, "Submenu", itemsField, submenuField], _
    simp only [List.forall_mem_cons] at h ⊢
    exact ⟨h.1, h.2.1, h.2.2.1, hconstant, h.2.2.2⟩
  tree := rfl
  kind := rfl
  titles := by
    change ∀ q ∈ returnMenu.rootPlace.descendants, (q.attribute? "title").isSome
    decide +kernel

theorem statements_returnMenu :
    statements (menuRegistry menuClass itemClass space itemsField submenuField) returnMenu =
      [.block [.declare itemVariable (.parse itemClass) [.text (withoutReturns "a\rb")],
        .block [.declare submenuVariable (.parse menuClass)
            [.path (.parse (space ++ "." ++ "Submenu")), .text (withoutReturns "c")],
          .block [.declare itemVariable (.parse itemClass) [.text (withoutReturns "d")],
            .push ⟨submenuVariable, segments itemsField⟩ (.path ⟨itemVariable, []⟩)],
          .assign ⟨itemVariable, segments submenuField⟩ (.path ⟨submenuVariable, []⟩)],
        .push ⟨"this", "m" :: segments itemsField⟩ (.path ⟨itemVariable, []⟩)]] := rfl

/-- The classes and the constant of a program that can be read are paths of the language. -/
theorem valid_of_statements (h : Statement.ValidAll
    (statements (menuRegistry menuClass itemClass space itemsField submenuField) returnMenu)) :
    (Path.parse menuClass).Valid ∧ (Path.parse itemClass).Valid ∧
      (Path.parse (space ++ "." ++ "Submenu")).Valid := by
  rw [statements_returnMenu] at h
  obtain ⟨⟨⟨-, hitem, -⟩, ⟨⟨-, hmenu, harguments⟩, -⟩, -⟩, -⟩ := h
  exact ⟨hmenu, hitem, harguments _ List.mem_cons_self⟩

end

/-- Items hold their menus through a part. -/
def linkRegistry : Registry := menuRegistry "Menu" "MenuItem" "MenuType" "items" "link.menu"

/-- Registries in which the class of menus, that of items or the namespace begins with a word. -/
def headedRegistries (head : String) : List Registry :=
  [menuRegistry (head ++ "." ++ "Menu") "MenuItem" "MenuType" "items" "submenu",
   menuRegistry "Menu" (head ++ "." ++ "MenuItem") "MenuType" "items" "submenu",
   menuRegistry "Menu" "MenuItem" (head ++ "." ++ "MenuType") "items" "submenu"]

theorem admitted_append {head last : String} (hhead : Text.isIdentifier head)
    (hlast : Text.isIdentifier last) : Admitted (head ++ "." ++ last) := by
  have hne : ∀ name, (Path.parse name).members = [] → head ++ "." ++ last ≠ name := by
    intro name hname heq
    rw [← heq, Path.parse_append] at hname
    simp [segments_ne_nil] at hname
  exact ⟨isPath_append (isPath_identifier hhead) (isPath_identifier hlast),
    hne _ (by decide +kernel), hne _ (by decide +kernel)⟩

theorem prepared_headed {head : String} (h : Text.isIdentifier head) :
    ∀ r ∈ headedRegistries head, Prepared r returnMenu := by
  have hfixed : ∀ name ∈ ["Menu", "MenuItem", "MenuType", "items", "submenu"],
      Text.isIdentifier name ∧ Admitted name := by
    decide +kernel
  simp only [List.forall_mem_cons, List.not_mem_nil, false_imp_iff, implies_true,
    and_true] at hfixed
  obtain ⟨hmenu, hitem, hspace, hitems, hsubmenu⟩ := hfixed
  simp only [headedRegistries, List.forall_mem_cons, List.not_mem_nil, false_imp_iff, implies_true,
    and_true]
  refine ⟨prepared_menuRegistry ?_, prepared_menuRegistry ?_, prepared_menuRegistry ?_⟩
  · simpa using ⟨admitted_append h hmenu.1, hitem.2, hspace.2, hitems.2, hsubmenu.2⟩
  · simpa using ⟨hmenu.2, admitted_append h hitem.1, hspace.2, hitems.2, hsubmenu.2⟩
  · simpa using ⟨hmenu.2, hitem.2, admitted_append h hspace.1, hitems.2, hsubmenu.2⟩

theorem isIdentifier_of_mem_unnamedWords : ∀ word ∈ unnamedWords, Text.isIdentifier word := by
  decide +kernel

/-- A path that begins with a word that names nothing is none of the language. -/
theorem not_validAll_headed {head : String} (h : head ∈ unnamedWords) (hthis : head ≠ "this") :
    ∀ r ∈ headedRegistries head, ¬Statement.ValidAll (statements r returnMenu) := by
  have hhead := isIdentifier_of_mem_unnamedWords head h
  have hinvalid : ∀ {path}, (Path.parse path).head = head → ¬(Path.parse path).Valid := by
    intro path hpath hvalid
    rcases hpath ▸ hvalid.1 with hname | hname
    · simp [isName, h] at hname
    · exact hthis hname
  have happend : ∀ last, (Path.parse (head ++ "." ++ last)).head = head := by
    intro last
    rw [Path.parse_append, Path.parse_identifier hhead]
  simp only [headedRegistries, List.forall_mem_cons, List.not_mem_nil, false_imp_iff, implies_true,
    and_true]
  refine ⟨fun hvalid => ?_, fun hvalid => ?_, fun hvalid => ?_⟩
  · exact hinvalid (happend _) (valid_of_statements hvalid).1
  · exact hinvalid (happend _) (valid_of_statements hvalid).2.1
  · exact hinvalid (by rw [Path.parse_append, happend]) (valid_of_statements hvalid).2.2

/-- Some menus of accepted registries and trees are not built as they are written, although new
menus are empty: carriage returns in titles are lost; a menu cannot be given to an item through a
part that the item does not have; and classes and constants are not found if their names begin with
a word that names nothing in a module or with a variable of the program. -/
theorem menus_fall_short :
    (Prepared .builtin returnMenu ∧ StartsEmpty plainSetting .builtin ∧
      returnMenu.rootPlace.children.map (·.attribute? "title") = [some "a\rb"] ∧
      (built? .builtin returnMenu).map (·.map Object.arguments) = some
        [[], [.text "ab"], [.global ⟨"Menu", ["MenuType", "Submenu"]⟩, .text "c"],
          [.text "d"]]) ∧
    (Prepared linkRegistry returnMenu ∧ StartsEmpty plainSetting linkRegistry ∧
      built? linkRegistry returnMenu = none) ∧
    ∀ head ∈ unnamedWords ++ [submenuVariable, itemVariable], ∀ r ∈ headedRegistries head,
      Prepared r returnMenu ∧ StartsEmpty plainSetting r ∧ built? r returnMenu = none := by
  refine ⟨?_, ?_, ?_⟩
  · have hprepared : Prepared .builtin returnMenu :=
      ⟨Registry.check_builtin, by decide +kernel, by decide +kernel, rfl, by decide +kernel⟩
    refine ⟨hprepared, startsEmpty_plainSetting rfl, by decide +kernel, ?_⟩
    rw [hprepared.built?_eq]
    decide +kernel
  · have hprepared : Prepared linkRegistry returnMenu :=
      prepared_menuRegistry (by decide +kernel)
    refine ⟨hprepared, startsEmpty_plainSetting rfl, hprepared.built?_eq_none fun _ => ?_⟩
    exact Option.isNone_iff_eq_none.1 (by decide +kernel)
  · intro head hhead r hr
    -- these begin paths of the language, which do not lead to a class where they stand
    have hnone : ∀ head ∈ ["this", submenuVariable, itemVariable], ∀ r ∈ headedRegistries head,
        (outcome? (statements r returnMenu)).isNone := by
      decide +kernel
    have hvariable : ∀ name ∈ [submenuVariable, itemVariable], Text.isIdentifier name := by
      decide +kernel
    have hidentifier : Text.isIdentifier head :=
      (List.mem_append.1 hhead).elim (isIdentifier_of_mem_unnamedWords head) (hvariable head)
    have hprepared := prepared_headed hidentifier r hr
    have hitems : r.menu.itemsField = "items" := by
      simp only [headedRegistries, List.mem_cons, List.not_mem_nil, or_false] at hr
      rcases hr with rfl | rfl | rfl <;> rfl
    refine ⟨hprepared, startsEmpty_plainSetting hitems, hprepared.built?_eq_none fun hvalid => ?_⟩
    by_cases hfound : head ∈ ["this", submenuVariable, itemVariable]
    · exact Option.isNone_iff_eq_none.1 (hnone head hfound r hr)
    · rw [List.mem_cons, not_or] at hfound
      have hword := (List.mem_append.1 hhead).resolve_right hfound.2
      exact absurd hvalid (not_validAll_headed hword hfound.1 r hr)

end Widgetry.Menu
