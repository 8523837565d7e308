import Widgetry.Compile
import Widgetry.Proofs.Faults
import Widgetry.Proofs.Naming

/-! The records of an accepted tree. Without its imports the script's walk is a journal: a namer,
the menu flag and the records so far. The flag is up at a place just when a menu with an instance of
its own is above it; below a hosted menu, which has none, it is up everywhere but on the way down to
the first leaf. So the records are those of the remaining instances, taken down in document order. -/

namespace Widgetry

open Structure

/-! ### Places of a tree -/

namespace Place

/-- Places are numbered from the root down, and only the root can be hosted. -/
structure Rooted (p : Place) : Prop where
  depth : p.ancestors.length ≤ p.index
  hosted : p.hosted → p.index = p.ancestors.length

theorem le_index_siblings {ancestors : List Ancestor} {first : Nat} {ns : List Node} {c : Place}
    (h : c ∈ siblings ancestors first ns) : first ≤ c.index := by
  induction ns generalizing first with
  | nil => simp [siblings] at h
  | cons n ns ih =>
    rcases List.mem_cons.1 h with rfl | h
    · exact Nat.le_refl _
    · have hrest := ih h
      omega

namespace Rooted

variable {p : Place}

theorem child (h : p.Rooted) {c : Place} (hc : c ∈ p.children) : c.Rooted where
  depth := by
    have hindex := le_index_siblings hc
    have hdepth := h.depth
    rw [ancestors_of_mem hc, List.length_cons]
    omega
  hosted hh := by simp [hosted_of_mem hc] at hh

/-- The children behind the first are not on the way down to the first leaf. -/
theorem later (h : p.Rooted) {c : Place} (hc : c ∈ p.children.tail) :
    c.index ≠ c.ancestors.length := by
  have hdepth := h.depth
  rw [ancestors_of_mem (List.mem_of_mem_tail hc), List.length_cons]
  unfold children at hc
  cases hnodes : p.node.children with
  | nil => simp [hnodes, siblings] at hc
  | cons n ns =>
    rw [hnodes, siblings, List.tail_cons] at hc
    have hindex := le_index_siblings hc
    have hsize : 0 < n.size := by
      cases n
      rw [Node.size]
      omega
    omega

end Rooted

end Place

theorem Tree.rooted (t : Tree) : t.rootPlace.Rooted := ⟨Nat.zero_le _, fun _ => rfl⟩

/-! ### Skipped places -/

namespace Registry

variable {r : Registry}

/-- A menu with an instance of its own is above the place, or the menu above is the host and the
place is not on the way down to the first leaf. -/
def skips (r : Registry) (p : Place) : Bool :=
  (p.ancestors.any fun a => a.kind == r.menu.menuKind && !a.hosted) ||
    (menuAbove r p.ancestors && p.index != p.ancestors.length)

/-- An instance stands behind the place and the place is not skipped. -/
def isRecorded (r : Registry) (p : Place) : Bool :=
  (r.mapping? p.kind).any (·.requiresInstance) && !r.skips p

theorem menuAbove_of_skips {p : Place} (h : r.skips p) : menuAbove r p.ancestors := by
  simp only [skips, Bool.or_eq_true, Bool.and_eq_true, List.any_eq_true] at h
  rcases h with ⟨a, ha, hkind, -⟩ | ⟨habove, -⟩
  · exact List.any_eq_true.2 ⟨a, ha, hkind⟩
  · exact habove

theorem skips_of_index_ne {p : Place} (h : p.index ≠ p.ancestors.length) :
    r.skips p = menuAbove r p.ancestors := by
  cases habove : menuAbove r p.ancestors with
  | true => simp [skips, habove, h]
  | false =>
    by_contra hskips
    have hcontra := menuAbove_of_skips (r := r) (p := p) (by simpa using hskips)
    simp [habove] at hcontra

/-- Right below a place the flag is what it was, unless the place is a menu that is not the host. -/
theorem skips_first {p c : Place} (hp : p.Rooted) (hc : c ∈ p.children)
    (hindex : c.index = p.index + 1) :
    r.skips c = (r.skips p || (p.kind == r.menu.menuKind && !p.hosted)) := by
  have hhosted := hp.hosted
  have hne : (c.index != c.ancestors.length) = (p.index != p.ancestors.length) := by
    rw [Place.ancestors_of_mem hc, hindex, List.length_cons]
    simp
  have habove := menuAbove_child (r := r) hc
  unfold skips
  rw [hne, habove, Place.ancestors_of_mem hc, List.any_cons, Place.asAncestor]
  cases hkind : p.kind == r.menu.menuKind <;> cases hh : p.hosted <;>
    simp_all [Bool.or_comm]

end Registry

/-- The places from a place on that have a record, in document order. -/
def Place.recorded (r : Registry) (p : Place) : List Place := p.places.filter r.isRecorded

variable {r : Registry}

theorem Place.recorded_eq (p : Place) :
    p.recorded r = (if r.isRecorded p then [p] else []) ++ p.children.flatMap (recorded r) := by
  rw [recorded, places_eq, List.filter_cons, List.filter_flatMap]
  split_ifs <;> rfl

/-! ### Texts of records -/

namespace Script

/-- The text of a record, piece by piece. -/
theorem Record.code_eq (d : Record) :
    d.code = "// Init " ++ d.name ++ ": " ++ d.className ++ ".\n" ++
      d.construction.elim "" (fun as => construct d.name d.className (as.map Argument.code)) ++
      String.join (d.assignments.map fun x => assign d.name x.1 x.2.code) ++
      Menu.render d.menu := by
  unfold code
  cases d.construction <;> rfl

/-! ### The journal -/

variable (r : Registry)

/-- The program of an instance that is a menu; others have none. -/
def menuLines (p : Place) (name : String) : Except Fault (List Menu.Line) :=
  if p.kind = r.menu.menuKind then Menu.lines r p name else .ok []

/-- The record of an instance, and the namer that knows its name. -/
def note (m : Mapping) (p : Place) (namer : Namer) : Except Fault (Record × Namer) :=
  if p.hosted then do return (← hostRecord r m (m.runtimeClass.getD "") p, namer)
  else do
    let (name, namer) ← namer.name p
    let d ← newRecord m (m.runtimeClass.getD "") name p
    let menu ← menuLines r p name
    return ({ d with menu }, namer)

/-- The records of several instances in turn, up to the first fault. -/
def noteAll : Namer → List Place → Except Fault (List Record × Namer)
  | namer, [] => .ok ([], namer)
  | namer, p :: ps => do
    let m ← r.require p
    let (d, namer) ← note r m p namer
    let (ds, namer) ← noteAll namer ps
    return (d :: ds, namer)

theorem noteAll_append (namer : Namer) (ps qs : List Place) :
    noteAll r namer (ps ++ qs) = do
      let (first, namer) ← noteAll r namer ps
      let (rest, namer) ← noteAll r namer qs
      return (first ++ rest, namer) := by
  induction ps generalizing namer with
  | nil =>
    simp only [List.nil_append, noteAll, ok_bind]
    exact (bind_pure _).symm
  | cons p ps ih => simp only [List.cons_append, noteAll, ih, bind_assoc, pure_bind]

/-- Who has a record is the host, under the ambient name, or a new instance, under the name that
comes next. -/
theorem note_cases {m : Mapping} {p : Place} {namer namer' : Namer} {d : Record}
    (h : note r m p namer = .ok (d, namer')) :
    (p.hosted ∧ hostRecord r m (m.runtimeClass.getD "") p = .ok d ∧ namer' = namer) ∨
      (p.hosted = false ∧ ∃ name d₀ menu, namer.name p = .ok (name, namer') ∧
        newRecord m (m.runtimeClass.getD "") name p = .ok d₀ ∧
        menuLines r p name = .ok menu ∧ d = { d₀ with menu }) := by
  unfold note at h
  cases hh : p.hosted with
  | true =>
    rw [hh, if_pos rfl] at h
    obtain ⟨d', hd, h⟩ := bind_eq_ok.1 h
    cases h
    exact .inl ⟨rfl, hd, rfl⟩
  | false =>
    rw [hh, if_neg Bool.false_ne_true] at h
    obtain ⟨⟨name, given⟩, hname, h⟩ := bind_eq_ok.1 h
    obtain ⟨d₀, hd, h⟩ := bind_eq_ok.1 h
    obtain ⟨menu, hmenu, h⟩ := bind_eq_ok.1 h
    cases h
    exact .inr ⟨rfl, name, d₀, menu, hname, hd, hmenu, rfl⟩

end Script

/-- What the script's walk keeps, its imports apart. -/
structure Journal where
  namer : Namer := {}
  skip : MenuSkip := {}
  records : List Script.Record := []

namespace Journal

variable (r : Registry)

/-- An instance that is not skipped gets a record; a menu with an instance of its own starts a
skip. -/
def enter (p : Place) (j : Journal) : Except Fault Journal := do
  let m ← r.require p
  if !m.requiresInstance then return j
  if j.skip.active then return { j with skip := j.skip.enter r p }
  let (d, namer) ← Script.note r m p j.namer
  return ⟨namer, if p.kind = r.menu.menuKind ∧ ¬p.hosted then .begin else j.skip, j.records ++ [d]⟩

def leave (p : Place) (j : Journal) : Except Fault Journal := .ok { j with skip := .leave r p }

def visitor : Visitor Fault Journal := ⟨enter r, leave r⟩

end Journal

namespace Script

variable (r : Registry)

def State.journal (u : State) : Journal := ⟨u.namer, u.skip, u.records⟩

theorem name_newRecord {m : Mapping} {className name : String} {p : Place} {d : Record}
    (h : newRecord m className name p = .ok d) : d.name = name ∧ d.menu = [] := by
  obtain ⟨constructed, -, hrest⟩ := bind_eq_ok.1 h
  obtain ⟨initial, -, hd⟩ := bind_eq_ok.1 hrest
  cases hd
  exact ⟨rfl, rfl⟩

theorem map_journal_addMenu (p : Place) (d : Record) (u : State) :
    (addMenu r p d u).map State.journal =
      (Menu.lines r p d.name).map fun menu =>
        ⟨u.namer, .begin, u.records ++ [{ d with menu }]⟩ := by
  unfold addMenu
  cases Menu.lines r p d.name with
  | error fault => rfl
  | ok menu =>
    cases r.runtimeClass? r.menu.menuItemKind <;>
      simp [Except.map, State.journal, State.addRecord]

/-- Entering a place, the script keeps the journal. -/
theorem map_journal_enter (p : Place) (u : State) :
    (enter r p u).map State.journal = Journal.enter r p u.journal := by
  unfold enter Journal.enter note menuLines
  cases r.require p with
  | error fault => rfl
  | ok m =>
    simp only [ok_bind, addImport_skip, addImport_namer]
    by_cases hi : m.requiresInstance
    · by_cases hs : u.skip.active
      · simp [hi, hs, Except.map, State.journal]
      · cases hh : p.hosted with
        | true =>
          simp only [hi, hs, State.journal, Bool.not_true, Bool.false_eq_true, if_false, if_true]
          cases hostRecord r m (m.runtimeClass.getD "") p <;>
            simp [Except.map, State.journal, State.addRecord]
        | false =>
          simp only [hi, hs, State.journal, Bool.not_true, Bool.false_eq_true, if_false]
          cases u.namer.name p with
          | error fault => rfl
          | ok named =>
            simp only [ok_bind]
            cases hd : newRecord m (m.runtimeClass.getD "") named.1 p with
            | error fault => rfl
            | ok d =>
              obtain ⟨hname, hmenu⟩ := name_newRecord hd
              by_cases hk : p.kind = r.menu.menuKind
              · simp only [ok_bind, if_pos hk, map_journal_addMenu, hname]
                cases Menu.lines r p named.1 <;> simp [Except.map, hk]
              · simp [hk, Except.map, State.journal, State.addRecord, ← hmenu]
    · simp [hi, Except.map, State.journal]

/-- The script's walk is the journal's, its imports apart. -/
theorem map_journal_walk (p : Place) (u : State) :
    ((visitor r).walk p u).map State.journal = (Journal.visitor r).walk p u.journal := by
  rw [Visitor.walk_eq_run, Visitor.walk_eq_run]
  refine (visitor r).run_map (Journal.visitor r) State.journal (fun e _ u => ?_) u
  cases e with
  | enter p => exact map_journal_enter r p u
  | leave p => rfl

end Script

/-! ### The journal of an accepted tree -/

namespace Journal

/-- Entering an accepted place takes down its record unless it is skipped, and leaves the flag as
the places right below need it. -/
theorem enter_accepted (hr : r.Consistent) {p : Place} (h : Accepted r p) {j : Journal}
    (hj : j.skip = ⟨r.skips p⟩) :
    enter r p j = do
      let (records, namer) ← Script.noteAll r j.namer (if r.isRecorded p then [p] else [])
      return ⟨namer, ⟨r.skips p || (p.kind == r.menu.menuKind && !p.hosted)⟩,
        j.records ++ records⟩ := by
  obtain ⟨m, hm, -⟩ := h.here
  have hrequire := Registry.require_eq_ok.2 hm
  unfold enter
  rw [hrequire, ok_bind, hj]
  cases hi : m.requiresInstance with
  | false =>
    -- only a menu could change the flag, and menus require an instance
    have hk : p.kind ≠ r.menu.menuKind := by
      intro hk
      obtain ⟨m', hm', hi'⟩ := hr.menu
      rw [← hk, hm, Option.some.injEq] at hm'
      rw [hm', hi'] at hi
      cases hi
    have hflag : (p.kind == r.menu.menuKind) = false := by simpa using hk
    simp [Registry.isRecorded, hm, hi, hflag, Script.noteAll, ← hj]
  | true =>
    cases hs : r.skips p with
    | true =>
      have hparent : MenuSkip.parentInMenu r p = true :=
        h.settled.parentInMenu.trans (Registry.menuAbove_of_skips hs)
      simp [Registry.isRecorded, hm, hs, MenuSkip.enter, hparent, Script.noteAll]
    | false =>
      have hrecorded : r.isRecorded p = true := by simp [Registry.isRecorded, hm, hi, hs]
      simp only [hrecorded, if_true, Script.noteAll, hrequire, ok_bind, bind_assoc, pure_bind,
        Bool.not_true, Bool.false_eq_true, if_false, Bool.false_or]
      congr 1
      funext noted
      by_cases hk : p.kind = r.menu.menuKind <;> cases hh : p.hosted <;> simp [hk, MenuSkip.begin]

/-- Walked in turn, places take down their records; the flag that one of them leaves behind is the
flag that the next one needs. -/
theorem walkAll_leave {q : Place} {ps : List Place}
    (h : ∀ p ∈ ps, ∀ j : Journal, j.skip = ⟨r.skips p⟩ → (visitor r).walk p j = do
      let (records, namer) ← Script.noteAll r j.namer (p.recorded r)
      return ⟨namer, .leave r p, j.records ++ records⟩)
    (hnext : ∀ p ∈ ps, ∀ p' ∈ ps.tail, MenuSkip.leave r p = ⟨r.skips p'⟩) {j : Journal}
    (hj : ∀ p ∈ ps.head?, j.skip = ⟨r.skips p⟩) :
    ((visitor r).walkAll ps j >>= leave r q) = do
      let (records, namer) ← Script.noteAll r j.namer (ps.flatMap (Place.recorded r))
      return ⟨namer, .leave r q, j.records ++ records⟩ := by
  induction ps generalizing j with
  | nil => simp [Script.noteAll, leave]
  | cons p ps ih =>
    have hhere := h p List.mem_cons_self j (hj p rfl)
    have hrest : ∀ j' : Journal, j'.skip = .leave r p →
        ((visitor r).walkAll ps j' >>= leave r q) = _ := fun j' hj' =>
      ih (fun p' hp' => h p' (List.mem_cons_of_mem p hp'))
        (fun p' hp' p'' hp'' => hnext p' (List.mem_cons_of_mem p hp') p''
          (List.mem_of_mem_tail hp''))
        (fun p' hp' => hj'.trans (hnext p List.mem_cons_self p' (List.mem_of_mem_head? hp')))
    rw [Visitor.walkAll_cons, hhere, List.flatMap_cons, Script.noteAll_append]
    simp only [bind_assoc, pure_bind]
    congr 1
    funext noted
    rw [hrest _ rfl]
    simp only [List.append_assoc]

/-- A walk over an accepted place takes down the records from the place on, in document order. -/
theorem walk_accepted (hr : r.Consistent) {p : Place} (h : Accepted r p) (hp : p.Rooted)
    {j : Journal} (hj : j.skip = ⟨r.skips p⟩) :
    (visitor r).walk p j = do
      let (records, namer) ← Script.noteAll r j.namer (p.recorded r)
      return ⟨namer, .leave r p, j.records ++ records⟩ := by
  induction p using Place.induction generalizing j with
  | step p ih =>
    have henter : (visitor r).enter p j = _ := enter_accepted hr h hj
    have hnext : ∀ c ∈ p.children, ∀ d ∈ p.children.tail,
        MenuSkip.leave r c = ⟨r.skips d⟩ := by
      intro c hc d hd
      have hmem := List.mem_of_mem_tail hd
      rw [MenuSkip.leave, (h.child hc).settled.parentInMenu,
        Registry.skips_of_index_ne (hp.later hd), menuAbove_child hc, menuAbove_child hmem]
    have hchildren : ∀ j : Journal,
        j.skip = ⟨r.skips p || (p.kind == r.menu.menuKind && !p.hosted)⟩ →
        ((visitor r).walkAll p.children j >>= (visitor r).leave p) = _ := fun j hj =>
      walkAll_leave (q := p) (fun c hc j hj => ih c hc (h.child hc) (hp.child hc) hj) hnext
        (fun c hc => by
          obtain ⟨cs, hcs⟩ := List.head?_eq_some_iff.1 hc
          rw [hj, Registry.skips_first hp (by simp [hcs]) (Place.index_of_children_eq hcs)])
    rw [Visitor.walk_eq, henter, Place.recorded_eq, Script.noteAll_append]
    simp only [bind_assoc, pure_bind]
    congr 1
    funext noted
    rw [hchildren _ rfl]
    simp only [List.append_assoc]

end Journal

/-- The script of an accepted tree has the records of the places that are not skipped, each under
the name that comes next. -/
theorem Script.map_records_ofTree (hr : r.Consistent) {t : Tree} (h : Accepted r t.rootPlace) :
    (Script.ofTree r t).map Script.records =
      (Script.noteAll r {} (t.rootPlace.recorded r)).map Prod.fst := by
  have hwalk := Script.map_journal_walk r t.rootPlace {}
  have hskips : r.skips t.rootPlace = false := rfl
  rw [Journal.walk_accepted hr h t.rooted (by rw [hskips]; rfl)] at hwalk
  unfold Script.ofTree
  cases hu : (Script.visitor r).walk t.rootPlace {} <;>
    cases hn : Script.noteAll r {} (t.rootPlace.recorded r) <;>
    simp_all [Except.map, Script.State.journal]

/-! ### Compiled scripts -/

/-- The stages that a compilation has passed. -/
theorem compile_eq_ok {o : Options} {container : Markup.Element} {out : Compiled}
    (h : compile o container = .ok out) :
    ∃ r t, o.checkedRegistry = .ok r ∧ Tree.ofContainer container (o.hosted.getD false) = .ok t ∧
      Accepted r t.rootPlace ∧ Template.template r t o.banner = .ok out.template ∧
      Script.ofTree r t = .ok out.script := by
  obtain ⟨r, hr, h⟩ := bind_eq_ok.1 h
  obtain ⟨t, ht, h⟩ := bind_eq_ok.1 h
  obtain ⟨_, hcheck, h⟩ := bind_eq_ok.1 h
  obtain ⟨text, htext, h⟩ := bind_eq_ok.1 h
  obtain ⟨script, hscript, h⟩ := bind_eq_ok.1 h
  cases h
  exact ⟨r, t, hr, ht, accepted_of_check hcheck, htext, hscript⟩

theorem Script.noteAll_of_ofTree (hr : r.Consistent) {t : Tree} (h : Accepted r t.rootPlace)
    {script : Script} (hscript : Script.ofTree r t = .ok script) :
    ∃ namer, noteAll r {} (t.rootPlace.recorded r) = .ok (script.records, namer) := by
  have hrecords := Script.map_records_ofTree hr h
  rw [hscript] at hrecords
  cases hnoted : noteAll r {} (t.rootPlace.recorded r) with
  | error fault => simp [hnoted, Except.map] at hrecords
  | ok noted =>
    obtain ⟨ds, namer⟩ := noted
    simp only [hnoted, Except.map, Except.ok.injEq] at hrecords
    exact ⟨namer, by rw [hrecords]⟩

end Widgetry
