import Widgetry.Proofs.Records
import Widgetry.Proofs.TagBalance

/-! What compilation reports. A container compiles exactly if it holds one element, the tree has the
right shape, one namer names all new instances, their arguments and those of the host can be read,
and everything below a menu has a title. Otherwise the fault is that of the first of these that
fails, the last two taken together, and there that of the first place in document order. -/

namespace Widgetry

open Structure Script

variable {r : Registry}

/-! ### Faults of records -/

namespace Script

/-- What is wrong with the arguments of an instance: first those of the constructor, unless it is
the host, then the initial values. -/
def argumentFault? (m : Mapping) (p : Place) : Option Fault :=
  ((if p.hosted then none else m.constructorArgs.findSome? (argumentCause? .constructor p)).or
    (m.postInit.findSome? (argumentCause? .initial p))).map p.fault

/-- What is wrong with the record of an instance; a menu fails behind its own arguments, for want of
a title below it. -/
def recordFault? (r : Registry) (p : Place) : Option Fault :=
  match r.mapping? p.kind with
  | some m => (argumentFault? m p).or
      (if p.kind = r.menu.menuKind ∧ ¬p.hosted then
        p.descendants.findSome? (Menu.titleFault? r) else none)
  | none => none

theorem fault?_hostRecord (m : Mapping) (className : String) {p : Place} (hh : p.hosted) :
    fault? (hostRecord r m className p) = argumentFault? m p := by
  unfold hostRecord argumentFault?
  rw [fault?_bind_pure, fault?_arguments, if_pos hh, Option.none_or]

theorem fault?_newRecord (m : Mapping) (className name : String) {p : Place}
    (hh : p.hosted = false) :
    fault? (newRecord m className name p) = argumentFault? m p := by
  unfold newRecord argumentFault?
  rw [fault?_bind fun _ _ => fault?_bind_pure .., fault?_arguments, fault?_arguments, hh,
    if_neg Bool.false_ne_true, Option.map_or]

theorem fault?_note (hr : r.Consistent) {m : Mapping} {p : Place} (h : Accepted r p)
    (hm : r.mapping? p.kind = some m) {namer : Namer}
    (hname : p.hosted ∨ ∃ named, namer.name p = .ok named) :
    fault? (note r m p namer) = recordFault? r p := by
  unfold note recordFault?
  rw [hm]
  cases hh : p.hosted with
  | true =>
    rw [if_pos rfl, fault?_bind_pure, fault?_hostRecord m _ hh]
    simp
  | false =>
    obtain ⟨named, hnamed⟩ : ∃ named, namer.name p = .ok named := by simpa [hh] using hname
    simp only [Bool.false_eq_true, if_false, hnamed, ok_bind, not_false_eq_true, and_true]
    rw [fault?_bind fun d _ => fault?_bind_pure .., fault?_newRecord m _ _ hh]
    congr 1
    unfold menuLines
    split_ifs with hk
    · exact Menu.fault?_lines hr h hk named.1
    · rfl

/-- Where all new instances can be named, the records fail as the first of them says. -/
theorem fault?_noteAll (hr : r.Consistent) {ps : List Place} (h : ∀ p ∈ ps, Accepted r p)
    {namer : Namer} {named : List String × Namer}
    (hnamed : namer.nameAll (ps.filter (!·.hosted)) = .ok named) :
    fault? (noteAll r namer ps) = ps.findSome? (recordFault? r) := by
  induction ps generalizing namer named with
  | nil => rfl
  | cons p ps ih =>
    rw [List.forall_mem_cons] at h
    obtain ⟨m, hm, -⟩ := h.1.here
    obtain ⟨hname, hrest⟩ : (p.hosted ∨ ∃ n, namer.name p = .ok n) ∧
        ∀ noted, note r m p namer = .ok noted →
          fault? (noteAll r noted.2 ps) = ps.findSome? (recordFault? r) := by
      cases hh : p.hosted with
      | true =>
        rw [List.filter_cons_of_neg (by simp [hh])] at hnamed
        refine ⟨.inl rfl, fun noted hnoted => ?_⟩
        rcases note_cases r hnoted with ⟨-, -, hnamer⟩ | ⟨hnot, -⟩
        · rw [hnamer, ih h.2 hnamed]
        · simp [hh] at hnot
      | false =>
        rw [List.filter_cons_of_pos (by simp [hh])] at hnamed
        obtain ⟨⟨name, namer₁⟩, hfirst, hnamed⟩ := bind_eq_ok.1 hnamed
        obtain ⟨rest, hrest, -⟩ := bind_eq_ok.1 hnamed
        refine ⟨.inr ⟨_, hfirst⟩, fun noted hnoted => ?_⟩
        rcases note_cases r hnoted with ⟨hhosted, -⟩ | ⟨-, name', d₀, menu, hname', -⟩
        · simp [hh] at hhosted
        · rw [hfirst] at hname'
          cases hname'
          exact ih h.2 hrest
    rw [noteAll, Registry.require_eq_ok.2 hm, ok_bind, findSome?_cons_or,
      fault?_bind fun noted hnoted => (fault?_bind_pure ..).trans (hrest noted hnoted),
      fault?_note hr h.1 hm hname]

end Script

/-! ### Places -/

/-- No menu on the way down to the place, itself included, is the host. -/
def Place.Unhosted (r : Registry) (p : Place) : Prop :=
  ∀ a ∈ p.asAncestor :: p.ancestors, a.kind = r.menu.menuKind → a.hosted = false

theorem Place.Unhosted.child {p c : Place} (h : p.Unhosted r) (hc : c ∈ p.children) :
    c.Unhosted r := by
  unfold Unhosted
  rw [ancestors_of_mem hc, List.forall_mem_cons]
  exact ⟨fun _ => hosted_of_mem hc, h⟩

theorem Place.Unhosted.of_mem {p q : Place} (h : p.Unhosted r) (hq : q ∈ p.places) :
    q.Unhosted r :=
  Place.of_mem_places (fun _ hp _ hc => hp.child hc) h hq

theorem Tree.unhosted {t : Tree} (hmenu : ¬(t.hosted = true ∧ t.root.kind = r.menu.menuKind)) :
    t.rootPlace.Unhosted r := by
  intro a ha hk
  obtain rfl : a = t.rootPlace.asAncestor := by simpa [Tree.rootPlace] using ha
  by_contra hh
  exact hmenu ⟨by simpa [Tree.rootPlace, Place.asAncestor] using hh, hk⟩

/-- Below no hosted menu a place is skipped just when a menu is above it. -/
theorem Place.Unhosted.skips_eq {p : Place} (h : p.Unhosted r) :
    r.skips p = menuAbove r p.ancestors := by
  unfold Unhosted at h
  rw [List.forall_mem_cons] at h
  cases habove : menuAbove r p.ancestors with
  | true =>
    obtain ⟨a, ha, hkind⟩ := List.any_eq_true.1 habove
    have hmenu : (p.ancestors.any fun a => a.kind == r.menu.menuKind && !a.hosted) = true :=
      List.any_eq_true.2 ⟨a, ha, by simp [beq_iff_eq.1 hkind, h.2 a ha (beq_iff_eq.1 hkind)]⟩
    rw [Registry.skips, hmenu, Bool.true_or]
  | false =>
    by_contra hskips
    have hcontra := Registry.menuAbove_of_skips (r := r) (p := p) (by simpa using hskips)
    simp [habove] at hcontra

/-- Something cannot be read at a place: a title below a menu, an argument of an instance
elsewhere. -/
def readFault? (r : Registry) (p : Place) : Option Fault :=
  if menuAbove r p.ancestors then Menu.titleFault? r p
  else
    match r.mapping? p.kind with
    | some m => if m.requiresInstance then argumentFault? m p else none
    | none => none

/-- The first record that fails does so as the first place at which something cannot be read. -/
theorem findSome?_recordFault? (hr : r.Consistent) {p : Place} (h : Accepted r p)
    (hp : p.Unhosted r) (hout : menuAbove r p.ancestors = false) :
    (p.recorded r).findSome? (recordFault? r) = p.places.findSome? (readFault? r) := by
  induction p using Place.induction with
  | step p ih =>
    obtain ⟨m, hm, -⟩ := h.here
    have hhere : r.isRecorded p = m.requiresInstance := by
      simp [Registry.isRecorded, hm, hp.skips_eq, hout]
    rw [Place.recorded_eq, Place.places_eq, List.findSome?_append, findSome?_cons_or, hhere]
    by_cases hk : p.kind = r.menu.menuKind
    · -- a menu answers for everything below it
      have hh : p.hosted = false := hp _ List.mem_cons_self hk
      have hi : m.requiresInstance = true := by
        obtain ⟨m', hm', hi'⟩ := hr.menu
        rw [← hk, hm, Option.some.injEq] at hm'
        rwa [hm']
      have hbelow : p.children.flatMap (Place.recorded r) = [] :=
        List.flatMap_eq_nil_iff.2 fun c hc => List.filter_eq_nil_iff.2 fun q hq => by
          have hin := menuAbove_of_mem (menuAbove_of_menu hk hc) hq
          simp [Registry.isRecorded, ((hp.child hc).of_mem hq).skips_eq, hin]
      have htitles : (p.children.flatMap Place.places).findSome? (readFault? r) =
          p.descendants.findSome? (Menu.titleFault? r) :=
        findSome?_congr fun q hq => by
          obtain ⟨c, hc, hq⟩ := List.mem_flatMap.1 hq
          exact if_pos (menuAbove_of_mem (menuAbove_of_menu hk hc) hq)
      rw [hk] at hm
      rw [hbelow, htitles]
      simp [recordFault?, readFault?, hm, hi, hh, hk, hout]
    · have hchildren : (p.children.flatMap (Place.recorded r)).findSome? (recordFault? r) =
          (p.children.flatMap Place.places).findSome? (readFault? r) :=
        findSome?_flatMap_congr fun c hc => ih c hc (h.child hc) (hp.child hc)
          (by simp [menuAbove_child hc, hk, hout])
      rw [hchildren]
      congr 1
      cases hi : m.requiresInstance <;> simp [recordFault?, readFault?, hm, hi, hk, hout]

/-- The new instances are the recorded places other than the host. -/
theorem Place.instances_eq_filter {p : Place} (hp : p.Unhosted r) :
    p.instances r = (p.recorded r).filter (!·.hosted) := by
  rw [instances, recorded, List.filter_filter]
  refine List.filter_congr fun q hq => ?_
  rw [Registry.needsName, Registry.isRecorded, (hp.of_mem hq).skips_eq]
  cases q.hosted <;> simp

/-! ### Passes -/

/-- The template of an accepted tree fails as the namer that goes over its new instances. -/
theorem Template.fault?_template (hr : r.Consistent) {t : Tree} (h : Accepted r t.rootPlace)
    (hmenu : ¬(t.hosted = true ∧ t.root.kind = r.menu.menuKind)) (banner : Bool) :
    fault? (Template.template r t banner) =
      fault? (Namer.nameAll {} (t.rootPlace.instances r)) := by
  have hmapped : ∀ e ∈ t.rootPlace.tour, ∃ m, r.mapping? e.place.kind = some m := fun e he => by
    obtain ⟨m, hm, -⟩ := h.sound e.place (Place.mem_tour_iff.1 he)
    exact ⟨m, hm⟩
  have hledger := Template.map_ledger_run hmapped {}
  rw [← Visitor.walk_eq_run, ← Visitor.walk_eq_run] at hledger
  rw [Template.template, fault?_bind_pure, Template.body, fault?_bind_pure, Template.marks,
    fault?_bind_pure, ← fault?_map _ Template.State.ledger, hledger,
    Ledger.walk_outside hr h rfl hmenu rfl, fault?_bind_pure]
  rfl

/-- Where the new instances can be named, the script of an accepted tree fails as the first place at
which something cannot be read. -/
theorem Script.fault?_ofTree (hr : r.Consistent) {t : Tree} (h : Accepted r t.rootPlace)
    (hmenu : ¬(t.hosted = true ∧ t.root.kind = r.menu.menuKind)) {named : List String × Namer}
    (hnamed : Namer.nameAll {} (t.rootPlace.instances r) = .ok named) :
    fault? (Script.ofTree r t) = t.places.findSome? (readFault? r) := by
  have hunhosted := Tree.unhosted hmenu
  have haccepted : ∀ p ∈ t.rootPlace.recorded r, Accepted r p := fun p hp =>
    h.of_mem (List.mem_of_mem_filter hp)
  rw [Place.instances_eq_filter hunhosted] at hnamed
  rw [← fault?_map _ Script.records, Script.map_records_ofTree hr h, fault?_map,
    fault?_noteAll hr haccepted hnamed,
    findSome?_recordFault? hr h hunhosted rfl]
  rfl

/-! ### Compilation -/

/-- What a container has to hold besides one element in order to compile. -/
structure Compilable (r : Registry) (t : Tree) : Prop where
  shape : Structure.check r t = .ok ()
  names : ∃ named, Namer.nameAll {} (t.rootPlace.instances r) = .ok named
  arguments : ∀ p ∈ t.rootPlace.instances r, ∀ m, r.mapping? p.kind = some m →
    ∀ a ∈ m.constructorArgs ++ m.postInit, Readable p a
  hostArguments : t.hosted → ∀ m, r.mapping? t.root.kind = some m → m.requiresInstance →
    ∀ a ∈ m.postInit, Readable t.rootPlace a
  titles : ∀ p ∈ t.places, p.kind = r.menu.menuKind → menuAbove r p.ancestors = false →
    ∀ q ∈ p.descendants, (q.attribute? r.menu.titleAttribute).isSome

/-- The fault that compilation reports: first the number of roots, then the shape of the first place
that has a wrong one, then the first name that cannot be given, then the first place at which
something cannot be read. -/
def reported (r : Registry) (container : Markup.Element) (hosted : Bool) : Option Fault :=
  match Tree.ofContainer container hosted with
  | .error fault => some fault
  | .ok t =>
    (t.places.findSome? (placeFault? r)).or
      ((fault? (Namer.nameAll {} (t.rootPlace.instances r))).or
        (t.places.findSome? (readFault? r)))

theorem argumentFault?_eq_none {m : Mapping} {p : Place} :
    argumentFault? m p = none ↔
      (p.hosted = false → ∀ a ∈ m.constructorArgs, Readable p a) ∧
        ∀ a ∈ m.postInit, Readable p a := by
  have hinitial : m.postInit.findSome? (argumentCause? .initial p) = none ↔
      ∀ a ∈ m.postInit, Readable p a := by
    simp only [List.findSome?_eq_none_iff, argumentCause?_eq_none]
  have hconstructor : m.constructorArgs.findSome? (argumentCause? .constructor p) = none ↔
      ∀ a ∈ m.constructorArgs, Readable p a := by
    simp only [List.findSome?_eq_none_iff, argumentCause?_eq_none]
  unfold argumentFault?
  rw [Option.map_eq_none_iff, Option.or_eq_none_iff, hinitial]
  cases p.hosted <;> simp [hconstructor]

/-- What is in a menu is below a menu that is in none. -/
theorem exists_menu_of_menuAbove {p q : Place} (hout : menuAbove r p.ancestors = false)
    (hq : q ∈ p.places) (hin : menuAbove r q.ancestors) :
    ∃ m ∈ p.places, m.kind = r.menu.menuKind ∧ menuAbove r m.ancestors = false ∧
      q ∈ m.descendants := by
  induction p using Place.induction with
  | step p ih =>
    rw [Place.places_eq, List.mem_cons, List.mem_flatMap] at hq
    rcases hq with rfl | ⟨c, hc, hq⟩
    · simp [hout] at hin
    · by_cases hk : p.kind = r.menu.menuKind
      · exact ⟨p, p.mem_places_self, hk, hout, List.mem_flatMap.2 ⟨c, hc, hq⟩⟩
      · obtain ⟨m, hm, hrest⟩ := ih c hc (by simp [menuAbove_child hc, hk, hout]) hq
        exact ⟨m, Place.mem_places_of_child hc hm, hrest⟩

/-- What has to be read at a place is its title in a menu and the arguments of an instance
elsewhere. -/
theorem readFault?_eq_none {p : Place} :
    readFault? r p = none ↔
      (menuAbove r p.ancestors → (p.attribute? r.menu.titleAttribute).isSome) ∧
      (menuAbove r p.ancestors = false → ∀ m, r.mapping? p.kind = some m → m.requiresInstance →
        (p.hosted = false → ∀ a ∈ m.constructorArgs, Readable p a) ∧
          ∀ a ∈ m.postInit, Readable p a) := by
  unfold readFault?
  split_ifs with habove
  · simp [habove, Menu.titleFault?_eq_none]
  · cases hm : r.mapping? p.kind with
    | none => simp [habove]
    | some m => cases hi : m.requiresInstance <;> simp [habove, hi, argumentFault?_eq_none]

/-- Everything can be read exactly if the arguments of the new instances and of the host can and
there are titles below the menus. -/
theorem findSome?_readFault?_eq_none (t : Tree) :
    t.places.findSome? (readFault? r) = none ↔
      (∀ p ∈ t.rootPlace.instances r, ∀ m, r.mapping? p.kind = some m →
        ∀ a ∈ m.constructorArgs ++ m.postInit, Readable p a) ∧
      (t.hosted → ∀ m, r.mapping? t.root.kind = some m → m.requiresInstance →
        ∀ a ∈ m.postInit, Readable t.rootPlace a) ∧
      ∀ p ∈ t.places, p.kind = r.menu.menuKind → menuAbove r p.ancestors = false →
        ∀ q ∈ p.descendants, (q.attribute? r.menu.titleAttribute).isSome := by
  simp only [List.findSome?_eq_none_iff, readFault?_eq_none]
  constructor
  · intro h
    refine ⟨fun p hp m hm => ?_, fun hh m hm hi => ?_, fun p hp hk hout q hq => ?_⟩
    · obtain ⟨hplace, hname⟩ := List.mem_filter.1 hp
      simp only [Registry.needsName, hm, Option.any_some, Bool.and_eq_true,
        Bool.not_eq_true'] at hname
      obtain ⟨hconstructor, hinitial⟩ := (h p hplace).2 hname.2 m hm hname.1.1
      exact List.forall_mem_append.2 ⟨hconstructor hname.1.2, hinitial⟩
    · exact ((h t.rootPlace t.rootPlace.mem_places_self).2 rfl m hm hi).2
    · obtain ⟨c, hc, hqc⟩ := List.mem_flatMap.1 hq
      have hplace : q ∈ t.rootPlace.places := Place.mem_places_of_mem_descendants hp hq
      exact (h q hplace).1 (menuAbove_of_mem (menuAbove_of_menu hk hc) hqc)
  · rintro ⟨hnew, hhost, htitles⟩ p hp
    refine ⟨fun hin => ?_, fun hout m hm hi => ?_⟩
    · obtain ⟨m, hm, hk, hout, hq⟩ := exists_menu_of_menuAbove (p := t.rootPlace) rfl hp hin
      exact htitles m hm hk hout p hq
    · cases hh : p.hosted with
      | true =>
        obtain rfl := Tree.eq_rootPlace_of_hosted hp hh
        exact ⟨by simp, hhost hh m hm hi⟩
      | false =>
        have hread := hnew p (List.mem_filter.2 ⟨hp, by
          simp [Registry.needsName, hm, hi, hh, hout]⟩) m hm
        exact (List.forall_mem_append.1 hread).imp_left fun h _ => h

theorem Tree.ofContainer_eq_ok {container : Markup.Element} {hosted : Bool} {t : Tree} :
    Tree.ofContainer container hosted = .ok t ↔
      ∃ root, container.children = [root] ∧ t = ⟨.ofElement root, hosted⟩ := by
  unfold Tree.ofContainer
  split <;> simp_all [eq_comm]

/-- Compilation reports what goes wrong first. -/
theorem fault?_compile {o : Options} {container : Markup.Element} (hr : o.checkedRegistry = .ok r)
    (hmenu : ∀ root, container.children = [root] →
      ¬(o.hosted.getD false = true ∧ root.tag = r.menu.menuKind)) :
    fault? (compile o container) = reported r container (o.hosted.getD false) := by
  unfold compile reported
  rw [hr, ok_bind]
  cases ht : Tree.ofContainer container (o.hosted.getD false) with
  | error fault => rfl
  | ok t =>
    obtain ⟨root, hroot, rfl⟩ := Tree.ofContainer_eq_ok.1 ht
    have hconsistent := Template.consistent_of_checkedRegistry hr
    simp only [ok_bind, ← fault?_check]
    refine fault?_bind fun _ hcheck => ?_
    have haccepted := accepted_of_check hcheck
    have hkind : (Node.ofElement root).kind = root.tag := by
      cases root
      rfl
    have hhost := hmenu root hroot
    rw [← hkind] at hhost
    rw [← Template.fault?_template hconsistent haccepted hhost o.banner]
    refine fault?_bind fun text htext => ?_
    obtain ⟨named, hnamed⟩ := fault?_eq_none.1
      ((Template.fault?_template hconsistent haccepted hhost o.banner).symm.trans
        (fault?_eq_none.2 ⟨text, htext⟩))
    rw [fault?_bind_pure, Script.fault?_ofTree hconsistent haccepted hhost hnamed]

theorem reported_eq_none {container : Markup.Element} {hosted : Bool} :
    reported r container hosted = none ↔
      ∃ root, container.children = [root] ∧ Compilable r ⟨.ofElement root, hosted⟩ := by
  unfold reported
  cases ht : Tree.ofContainer container hosted with
  | error fault =>
    refine iff_of_false (by simp) ?_
    rintro ⟨root, hroot, -⟩
    simp [Tree.ofContainer_eq_ok.2 ⟨root, hroot, rfl⟩] at ht
  | ok t =>
    obtain ⟨root, hroot, rfl⟩ := Tree.ofContainer_eq_ok.1 ht
    simp only [Option.or_eq_none_iff, ← fault?_check, fault?_eq_none,
      findSome?_readFault?_eq_none]
    constructor
    · rintro ⟨⟨_, hcheck⟩, hnames, harguments, hhost, htitles⟩
      exact ⟨root, hroot, hcheck, hnames, harguments, hhost, htitles⟩
    · rintro ⟨root', hroot', h⟩
      obtain rfl : root = root' := by simpa [hroot] using hroot'
      exact ⟨⟨_, h.shape⟩, h.names, h.arguments, h.hostArguments, h.titles⟩

/-- A container compiles exactly if it holds one element whose tree is compilable; what does not
compile fails with the fault that is reported. -/
theorem compile_ok_iff {o : Options} {container : Markup.Element} (hr : o.checkedRegistry = .ok r)
    (hmenu : ∀ root, container.children = [root] →
      ¬(o.hosted.getD false = true ∧ root.tag = r.menu.menuKind)) :
    ((∃ out, compile o container = .ok out) ↔
      ∃ root, container.children = [root] ∧
        Compilable r ⟨.ofElement root, o.hosted.getD false⟩) ∧
    fault? (compile o container) = reported r container (o.hosted.getD false) := by
  have hfault := fault?_compile hr hmenu
  refine ⟨?_, hfault⟩
  rw [← fault?_eq_none, hfault, reported_eq_none]

/-- A window without a type, an item without a title and, last, a button with a bad name. -/
def brokenWindow : Markup.Element :=
  ⟨"Window", [],
    [⟨"Menu", [⟨"type", "Popup"⟩], [⟨"MenuItem", [], []⟩]⟩,
     ⟨"Button", [⟨"type", "Push"⟩, ⟨"title", "Go"⟩, ⟨"instance", "2nd"⟩], []⟩]⟩

/-- Names come before arguments and titles, wherever they stand. -/
theorem brokenWindow_reported :
    (¬∃ out, compile {} ⟨"template", [], [brokenWindow]⟩ = .ok out) ∧
      ¬Compilable .builtin ⟨.ofElement brokenWindow, false⟩ ∧
      fault? (compile {} ⟨"template", [], [brokenWindow]⟩) =
        some ⟨.badName "2nd", some ["Window", "Button"]⟩ := by
  obtain ⟨hiff, hfault⟩ :=
    @compile_ok_iff .builtin {} ⟨"template", [], [brokenWindow]⟩ rfl (by simp)
  have hreported : reported .builtin ⟨"template", [], [brokenWindow]⟩ false =
      some ⟨.badName "2nd", some ["Window", "Button"]⟩ := by
    decide +kernel
  rw [show (({} : Options).hosted.getD false) = false from rfl, hreported] at hfault
  have hfail : ¬∃ out, compile {} ⟨"template", [], [brokenWindow]⟩ = .ok out := by
    rw [← fault?_eq_none, hfault]
    simp
  exact ⟨hfail, fun h => hfail (hiff.2 ⟨brokenWindow, rfl, h⟩), hfault⟩

end Widgetry
