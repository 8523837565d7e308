import Widgetry.Proofs.FreshNames
import Widgetry.Proofs.Lists
import Widgetry.Proofs.Program.Brackets
import Widgetry.Proofs.QuotedTexts

/-! The text of a script. Attribute values reach it as quoted literals only, so that the text is
read as intended whatever the values are: it ends outside of everything, its brackets are closed,
and its literals are the values that the records were made from, in their order. -/

namespace Widgetry

open Structure Program

variable {r : Registry}

/-! ### Names that can be read -/

/-- The names that a registry brings into scripts are paths of identifiers. -/
structure Registry.Spelled (r : Registry) : Prop where
  classes : ∀ e ∈ r.elements.entries, e.2.runtimeClass.all isPath
  keys : ∀ e ∈ r.elements.entries, ∀ a ∈ e.2.postInit, isPath a.key
  spaces : ∀ e ∈ r.elements.entries, ∀ space ∈ e.2.constantNamespaces.entries, isPath space.2
  constant : isPath r.menu.submenuConstant
  items : isPath r.menu.itemsField
  submenu : isPath r.menu.submenuField

theorem Registry.spelled_builtin : Registry.builtin.Spelled where
  classes := by decide +kernel
  keys := by decide +kernel
  spaces := by decide +kernel
  constant := by decide +kernel
  items := by decide +kernel
  submenu := by decide +kernel

namespace Registry

theorem isIdentifier_ambientInstance (h : r.check = .ok ()) :
    Text.isIdentifier r.ambientInstance := by
  have hfaults := faults_eq_nil_of_check h
  simp only [faults, List.append_eq_nil_iff] at hfaults
  by_contra hambient
  simp [hambient] at hfaults

/-- A constant argument has a namespace. -/
theorem isSome_namespace (h : r.check = .ok ()) {kind : String} {m : Mapping}
    (hm : r.mapping? kind = some m) {a : ArgumentSpec} (ha : a ∈ m.constructorArgs ++ m.postInit)
    (hkind : a.kind = .constant) : (m.namespace? a.key).isSome := by
  have hfaults := faults_eq_nil_of_check h
  simp only [faults, List.append_eq_nil_iff, List.flatMap_eq_nil_iff] at hfaults
  have hmapping := hfaults.1.1.2 _ (Table.mem_of_get? hm)
  simp only [mappingFaults, List.append_eq_nil_iff, List.filterMap_eq_nil_iff] at hmapping
  have hnone := hmapping.2 a ha
  by_contra hspace
  simp [hkind, Option.not_isSome_iff_eq_none.1 hspace] at hnone

theorem Spelled.runtimeClass (h : r.Spelled) {kind name : String}
    (hname : r.runtimeClass? kind = some name) : isPath name := by
  obtain ⟨m, hm, hclass⟩ := Option.bind_eq_some_iff.1 hname
  have hall := h.classes _ (Table.mem_of_get? hm)
  simpa [hclass] using hall

theorem Spelled.space (h : r.Spelled) {kind key space : String} {m : Mapping}
    (hm : r.mapping? kind = some m) (hspace : m.namespace? key = some space) : isPath space :=
  h.spaces _ (Table.mem_of_get? hm) _ (Table.mem_of_get? hspace)

theorem Spelled.menu (h : r.Spelled) (hr : r.Consistent) : Menu.Spelled r where
  className q hq := by
    obtain ⟨name, hname⟩ := Option.isSome_iff_exists.1 hq.className
    rw [Menu.className, hname]
    exact h.runtimeClass hname
  constant := by
    obtain ⟨space, hspace⟩ := Option.isSome_iff_exists.1 hr.submenu
    obtain ⟨m, hm, hrest⟩ := Option.bind_eq_some_iff.1 hspace
    obtain ⟨a, -, hname⟩ := Option.bind_eq_some_iff.1 hrest
    rw [Menu.space, hspace]
    exact isPath_append (h.space hm hname) h.constant
  items := h.items
  submenu := h.submenu

end Registry

theorem Namer.isIdentifier_numbered (n : Nat) : Text.isIdentifier (numbered n) := by
  have hdigits : ∀ c ∈ (toString n).toList, Text.isIdentifierPart c := by
    intro c hc
    rw [Nat.toString_eq_ofList_toDigits, String.toList_ofList] at hc
    have hdigit := Nat.isDigit_of_mem_toDigits (by decide) (by decide) hc
    simp [Text.isIdentifierPart, Char.isAlphanum, hdigit]
  have hchars : (numbered n).toList = 'r' :: 't' :: (toString n).toList := by simp [numbered]
  rw [Text.isIdentifier, hchars, Text.identifierChars, List.all_cons, List.all_eq_true.2 hdigits]
  decide

theorem Namer.isIdentifier_of_name {m m' : Namer} {p : Place} {name : String}
    (h : m.name p = .ok (name, m')) : Text.isIdentifier name := by
  simp only [Namer.name] at h
  split_ifs at h with hdeclared hbad htaken
  · cases h
    exact isIdentifier_numbered _
  · cases h
    simpa using hbad

/-! ### Arguments -/

namespace Script

/-- A constant is a path; what is quoted can be anything. -/
def Argument.Spelled : Argument → Prop
  | constant space member => isPath (space ++ "." ++ member)
  | text _ => True

/-- What an argument is read as. -/
def Argument.operand : Argument → Operand
  | constant space member => .path (.parse (space ++ "." ++ member))
  | text value => .text (withoutReturns value)

theorem Argument.Spelled.spells {a : Argument} (h : a.Spelled) : Spells a.code a.operand := by
  cases a with
  | constant space member => exact spells_path h
  | text value => exact spells_literal value

theorem Argument.texts_operand (a : Argument) :
    a.operand.texts = (a.text?.map withoutReturns).toList := by
  cases a <;> rfl

theorem spelled_argument {m : Mapping} {role : Role} {p : Place} {a : ArgumentSpec}
    (hspace : a.kind = .constant → ∃ space, m.namespace? a.key = some space ∧ isPath space)
    {v : Argument} (h : argument m role p a = .ok (some v)) : v.Spelled := by
  unfold argument at h
  cases hvalue : p.attribute? a.key with
  | none =>
    rw [hvalue] at h
    simp only at h
    split_ifs at h
    simp at h
  | some value =>
    rw [hvalue] at h
    cases hkind : a.kind with
    | string =>
      simp only [hkind] at h
      cases h
      trivial
    | constant =>
      simp only [hkind] at h
      split_ifs at h with hidentifier
      cases h
      obtain ⟨space, hname, hpath⟩ := hspace hkind
      rw [hname]
      exact isPath_append hpath (isPath_identifier hidentifier)

theorem spelled_arguments {m : Mapping} {role : Role} {p : Place} {specs : List ArgumentSpec}
    (hspace : ∀ a ∈ specs, a.kind = .constant →
      ∃ space, m.namespace? a.key = some space ∧ isPath space)
    {args : List (String × Argument)} (h : arguments m role p specs = .ok args) :
    ∀ x ∈ args, (∃ a ∈ specs, x.1 = a.key) ∧ x.2.Spelled := by
  induction specs generalizing args with
  | nil =>
    cases h
    simp
  | cons a specs ih =>
    obtain ⟨value, hvalue, h⟩ := bind_eq_ok.1 h
    obtain ⟨rest, hrest, h⟩ := bind_eq_ok.1 h
    cases h
    rw [List.forall_mem_cons] at hspace
    intro x hx
    rcases List.mem_append.1 hx with hx | hx
    · obtain ⟨v, rfl, rfl⟩ : ∃ v, value = some v ∧ (a.key, v) = x := by simpa using hx
      exact ⟨⟨a, List.mem_cons_self, rfl⟩, spelled_argument hspace.1 hvalue⟩
    · obtain ⟨⟨b, hb, hkey⟩, hspelled⟩ := ih hspace.2 hrest x hx
      exact ⟨⟨b, List.mem_cons_of_mem a hb, hkey⟩, hspelled⟩

theorem forall₂_spells {as : List Argument} (h : ∀ a ∈ as, a.Spelled) :
    List.Forall₂ Spells (as.map Argument.code) (as.map Argument.operand) := by
  rw [List.forall₂_map_left_iff, List.forall₂_map_right_iff, List.forall₂_same]
  exact fun a ha => (h a ha).spells

theorem flatMap_texts (as : List Argument) :
    (as.map Argument.operand).flatMap Operand.texts =
      (as.filterMap Argument.text?).map withoutReturns := by
  induction as with
  | nil => rfl
  | cons a as ih =>
    rw [List.map_cons, List.flatMap_cons, ih, a.texts_operand, List.filterMap_cons]
    cases a.text? <;> rfl

/-! ### Statements -/

theorem isPath_member {name : String} (h : Text.isIdentifier name) :
    isPath ("this" ++ "." ++ name) :=
  isPath_append (isPath_identifier (by decide +kernel)) (isPath_identifier h)

theorem scan_construct {name : String} (hname : Text.isIdentifier name) {className : String}
    (hclass : isPath className) {values : List String} {operands : List Operand}
    (h : List.Forall₂ Spells values operands) (cs : List Char) :
    scan .blank ((construct name className values).toList ++ cs) =
      front (pathTokens (segments ("this" ++ "." ++ name)) ++ .mark '=' :: .word "new" ::
        (callTokens (.parse className) operands ++ [.mark ';'])) (scan .blank cs) := by
  have htext : (construct name className values).toList ++ cs =
      ("this" ++ "." ++ name).toList ++ ' ' :: '=' :: ' ' ::
        ((creation className values).toList ++ ';' :: '\n' :: cs) := by
    simp [construct]
  rw [htext, scan_path (isPath_member hname) (by decide), scan_blank (.inl rfl),
    scan_mark (by decide), scan_blank (.inl rfl), scan_creation hclass h, scan_mark (by decide),
    scan_blank (.inr rfl)]
  simp

theorem reads_construct {name : String} (hname : Text.isIdentifier name) {className : String}
    (hclass : isPath className) {as : List Argument} (h : ∀ a ∈ as, a.Spelled) :
    Reads (construct name className (as.map Argument.code))
      ((as.filterMap Argument.text?).map withoutReturns) := by
  refine .of_scan (scan_construct hname hclass (forall₂_spells h)) ?_ ?_
  · exact (closed_pathTokens _).append
      (((closed_call _ _).semicolon.cons fun _ => rfl).cons fun _ => rfl)
  · simp [texts_pathTokens, texts_call, flatMap_texts]

theorem scan_assign {name key : String} (hname : Text.isIdentifier name) (hkey : isPath key)
    {value : String} {operand : Operand} (h : Spells value operand) (cs : List Char) :
    scan .blank ((assign name key value).toList ++ cs) =
      front (pathTokens (segments ("this" ++ "." ++ name ++ "." ++ key)) ++ .mark '=' ::
        (operand.tokens ++ [.mark ';'])) (scan .blank cs) := by
  have htext : (assign name key value).toList ++ cs =
      ("this" ++ "." ++ name ++ "." ++ key).toList ++ ' ' :: '=' :: ' ' ::
        (value.toList ++ ';' :: '\n' :: cs) := by
    simp [assign]
  rw [htext, scan_path (isPath_append (isPath_member hname) hkey) (by decide),
    scan_blank (.inl rfl), scan_mark (by decide), scan_blank (.inl rfl), h ';' _ (by decide),
    scan_mark (by decide), scan_blank (.inr rfl)]
  simp

theorem reads_assign {name key : String} (hname : Text.isIdentifier name) (hkey : isPath key)
    {a : Argument} (h : a.Spelled) :
    Reads (assign name key a.code) (a.text?.toList.map withoutReturns) := by
  refine .of_scan (scan_assign hname hkey h.spells) ?_ ?_
  · exact (closed_pathTokens _).append ((closed_operand _).semicolon.cons fun _ => rfl)
  · simp [texts_pathTokens, texts_operand, Argument.texts_operand, Option.toList_map]

end Script

/-! ### Menus -/

namespace Menu

theorem texts_declaration (q : Place) :
    texts (declarationStatement r q).tokens = [withoutReturns (title r q)] := by
  unfold declarationStatement
  split_ifs <;> simp [Statement.tokens, texts_call, Operand.texts]

theorem texts_link (root : Place) (rootName : String) (q : Place) :
    texts (linkStatement r root rootName q).tokens = [] := by
  unfold linkStatement
  split_ifs <;>
    simp [Statement.tokens, texts_call, Operand.texts, Path.tokens, texts_pathTokens, texts_operand]

theorem texts_blocks {root : Place} {rootName : String} {ps : List Place}
    (h : ∀ p ∈ ps, texts (blockStatement r root rootName p).tokens =
      (p.places.map (title r)).map withoutReturns) :
    texts (Statement.tokensAll (ps.map (blockStatement r root rootName))) =
      ((ps.flatMap Place.places).map (title r)).map withoutReturns := by
  induction ps with
  | nil => rfl
  | cons p ps ih =>
    rw [List.forall_mem_cons] at h
    simp [Statement.tokensAll, h.1, ih h.2]

theorem texts_blockStatement (root : Place) (rootName : String) (p : Place) :
    texts (blockStatement r root rootName p).tokens =
      (p.places.map (title r)).map withoutReturns := by
  induction p using Place.induction with
  | step p ih =>
    rw [blockStatement_eq, Place.places_eq]
    simp [Statement.tokens, Statement.tokensAll, Statement.tokensAll_append, texts_declaration,
      texts_link, texts_blocks ih]

/-- The names of a line can be read. -/
def Line.Spelled : Line → Prop
  | letSubmenu _ className space constant _ => isPath className ∧ isPath (space ++ "." ++ constant)
  | letItem _ className _ => isPath className
  | push _ root field => root.all Text.isIdentifier ∧ isPath field
  | attach _ field => isPath field
  | openBlock _ | closeBlock _ => True

theorem spelled_blockLines (hnames : Spelled r) (root : Place) {rootName : String}
    (hname : Text.isIdentifier rootName) {p : Place} (h : ∀ q ∈ p.places, Buildable r q)
    (indent : Nat) : ∀ line ∈ blockLines r root rootName p indent, line.Spelled := by
  induction p using Place.induction generalizing indent with
  | step p ih =>
    rw [Place.places_eq, List.forall_mem_cons] at h
    have hdeclaration : (declarationLine r (indent + 2) p).Spelled := by
      have hclass := hnames.className p h.1
      unfold declarationLine
      split_ifs
      · exact ⟨hclass, hnames.constant⟩
      · exact hclass
    have hlink : (link r root rootName (indent + 2) p).Spelled := by
      unfold link
      split_ifs
      · refine ⟨?_, hnames.items⟩
        split_ifs
        · exact hname
        · rfl
      · exact hnames.submenu
    intro line hline
    rw [blockLines_eq] at hline
    simp only [List.mem_cons, List.mem_append, List.mem_flatMap, List.not_mem_nil, or_false]
      at hline
    rcases hline with rfl | rfl | ⟨c, hc, hline⟩ | rfl | rfl
    · trivial
    · exact hdeclaration
    · exact ih c hc (fun q hq => h.2 q (List.mem_flatMap.2 ⟨c, hc, hq⟩)) (indent + 2) line hline
    · exact hlink
    · trivial

theorem spelled_lines (hnames : Spelled r) {m : Place} {rootName : String}
    (hname : Text.isIdentifier rootName) {ls : List Line} (hlines : lines r m rootName = .ok ls) :
    ∀ line ∈ ls, line.Spelled := by
  have hbuild := exists_lines_iff.1 ⟨ls, hlines⟩
  rw [lines_eq_blockLines rootName hbuild] at hlines
  cases hlines
  intro line hline
  obtain ⟨c, hc, hline⟩ := List.mem_flatMap.1 hline
  exact spelled_blockLines hnames m hname (Place.forall_mem_descendants.1 hbuild c hc) 0 line hline

/-- The program of a menu is read, with the titles below the menu in quotes. -/
theorem reads_lines (hnames : Spelled r) {m : Place} {rootName : String}
    (hname : Text.isIdentifier rootName) {ls : List Line} (hlines : lines r m rootName = .ok ls) :
    Reads (render ls) ((ls.filterMap Line.title?).map withoutReturns) := by
  have hbuild := exists_lines_iff.1 ⟨ls, hlines⟩
  rw [lines_eq_blockLines rootName hbuild] at hlines
  cases hlines
  have hbelow := Place.forall_mem_descendants.1 hbuild
  rw [titles_blocks]
  exact .of_scan (scan_blocks (fun c hc => scan_blockLines hnames m hname (hbelow c hc)) 0)
    (Statement.closed_tokensAll _) (texts_blocks fun c _ => texts_blockStatement m rootName c)

end Menu

/-! ### Records -/

/-- The characters of a path are those of identifiers, and dots. -/
theorem isIdentifierPart_or_dot {path : String} (h : isPath path) {c : Char}
    (hc : c ∈ path.toList) : c = '.' ∨ Text.isIdentifierPart c := by
  have hchars : ['.'].intercalate (path.toList.splitOn '.') = path.toList :=
    List.intercalate_splitOn '.'
  rw [← hchars] at hc
  refine (of_mem_intercalate hc).imp (fun hdot => List.mem_singleton.1 hdot) ?_
  rintro ⟨w, hw, hc⟩
  have hidentifier := List.all_eq_true.1 h (String.ofList w) (List.mem_map_of_mem hw)
  rw [Text.isIdentifier, String.toList_ofList] at hidentifier
  exact List.all_eq_true.1 (all_of_identifierChars hidentifier).2 c hc

theorem feed_notMem_of_isPath {path : String} (h : isPath path) : '\n' ∉ path.toList := by
  intro hmem
  have hchar := isIdentifierPart_or_dot h hmem
  exact absurd hchar (by decide)

namespace Script

/-- The names of a record can be read. -/
structure Record.Spelled (d : Record) : Prop where
  name : Text.isIdentifier d.name
  className : isPath d.className
  construction : ∀ a ∈ d.construction.getD [], a.Spelled
  assignments : ∀ x ∈ d.assignments, isPath x.1 ∧ x.2.Spelled
  lines : ∀ line ∈ d.menu, line.Spelled
  menu : Reads (Menu.render d.menu) ((d.menu.filterMap Menu.Line.title?).map withoutReturns)

theorem Record.Spelled.reads {d : Record} (h : d.Spelled) :
    Reads d.code (d.texts.map withoutReturns) := by
  have hcomment : Reads ("// Init " ++ d.name ++ ": " ++ d.className ++ ".\n") [] := by
    have htext : "// Init " ++ d.name ++ ": " ++ d.className ++ ".\n" =
        "//" ++ (" Init " ++ d.name ++ ": " ++ d.className ++ ".") ++ "\n" := by
      simp [← String.toList_inj]
    rw [htext]
    refine .comment ?_
    have hname := feed_notMem_of_isPath (isPath_identifier h.name)
    have hclass := feed_notMem_of_isPath h.className
    simp [hname, hclass]
  have hconstruct : Reads
      (d.construction.elim "" fun as => construct d.name d.className (as.map Argument.code))
      (((d.construction.getD []).filterMap Argument.text?).map withoutReturns) := by
    have hconstruction := h.construction
    cases hd : d.construction with
    | none => exact .empty
    | some arguments =>
      rw [hd] at hconstruction
      exact reads_construct h.name h.className hconstruction
  have hassign : Reads
      (String.join (d.assignments.map fun x => assign d.name x.1 x.2.code))
      ((d.assignments.filterMap (·.2.text?)).map withoutReturns) := by
    have hjoin := Reads.join fun x hx =>
      reads_assign h.name (h.assignments x hx).1 (h.assignments x hx).2
    rw [← List.map_flatMap] at hjoin
    rwa [List.filterMap_eq_flatMap_toList]
  rw [code_eq, texts, List.map_append, List.map_append]
  exact ((hcomment.append hconstruct).append hassign).append h.menu

/-- With a registry whose names can be read, the names of every record can. -/
theorem spelled_of_note (hr : r.check = .ok ()) (hnames : r.Spelled) {m : Mapping} {p : Place}
    (hm : r.mapping? p.kind = some m) (hi : m.requiresInstance) {namer namer' : Namer} {d : Record}
    (hnote : note r m p namer = .ok (d, namer')) : d.Spelled := by
  have hconsistent := Registry.consistent_of_check hr
  have hclass : isPath (m.runtimeClass.getD "") := by
    obtain ⟨name, hname⟩ := Option.isSome_iff_exists.1 (hconsistent.classOf hm hi)
    have hruntime : r.runtimeClass? p.kind = some name := by
      simp [Registry.runtimeClass?, hm, hname]
    rw [hname]
    exact hnames.runtimeClass hruntime
  have hspace : ∀ a ∈ m.constructorArgs ++ m.postInit, a.kind = .constant →
      ∃ space, m.namespace? a.key = some space ∧ isPath space := fun a ha hkind => by
    obtain ⟨space, hspace⟩ :=
      Option.isSome_iff_exists.1 (Registry.isSome_namespace hr hm ha hkind)
    exact ⟨space, hspace, hnames.space hm hspace⟩
  have hinitial : ∀ {args}, arguments m .initial p m.postInit = .ok args →
      ∀ x ∈ args, isPath x.1 ∧ x.2.Spelled := fun hargs x hx => by
    obtain ⟨⟨a, ha, hkey⟩, hspelled⟩ :=
      spelled_arguments (fun a ha => hspace a (List.mem_append_right _ ha)) hargs x hx
    rw [hkey]
    exact ⟨hnames.keys _ (Table.mem_of_get? hm) a ha, hspelled⟩
  rcases note_cases r hnote with ⟨hh, hd, -⟩ | ⟨hh, name, d₀, menu, hname, hd, hmenu, rfl⟩
  · obtain ⟨initial, hargs, hd⟩ := bind_eq_ok.1 hd
    cases hd
    exact ⟨Registry.isIdentifier_ambientInstance hr, hclass, by simp, hinitial hargs, by simp,
      .empty⟩
  · obtain ⟨constructed, hconstructed, hd⟩ := bind_eq_ok.1 hd
    obtain ⟨initial, hargs, hd⟩ := bind_eq_ok.1 hd
    cases hd
    have hidentifier := Namer.isIdentifier_of_name hname
    have hconstruction : ∀ a ∈ constructed.map Prod.snd, a.Spelled := by
      intro a ha
      obtain ⟨x, hx, rfl⟩ := List.mem_map.1 ha
      exact (spelled_arguments (fun a ha => hspace a (List.mem_append_left _ ha)) hconstructed
        x hx).2
    unfold menuLines at hmenu
    split_ifs at hmenu with hk
    · have hmenus := hnames.menu hconsistent
      exact ⟨hidentifier, hclass, hconstruction, hinitial hargs,
        Menu.spelled_lines hmenus hidentifier hmenu,
        Menu.reads_lines hmenus hidentifier hmenu⟩
    · cases hmenu
      exact ⟨hidentifier, hclass, hconstruction, hinitial hargs, by simp, .empty⟩

theorem spelled_of_noteAll (hr : r.check = .ok ()) (hnames : r.Spelled) {ps : List Place}
    (h : ∀ p ∈ ps, r.isRecorded p) {namer namer' : Namer} {ds : List Record}
    (hnoted : noteAll r namer ps = .ok (ds, namer')) : ∀ d ∈ ds, d.Spelled := by
  induction ps generalizing namer ds with
  | nil =>
    cases hnoted
    simp
  | cons p ps ih =>
    rw [List.forall_mem_cons] at h
    obtain ⟨m, hrequire, hnoted⟩ := bind_eq_ok.1 hnoted
    obtain ⟨⟨d, namer₁⟩, hnote, hnoted⟩ := bind_eq_ok.1 hnoted
    obtain ⟨⟨rest, namer₂⟩, hrest, hnoted⟩ := bind_eq_ok.1 hnoted
    cases hnoted
    have hm := Registry.require_eq_ok.1 hrequire
    have hi : m.requiresInstance := by
      have hrecorded := h.1
      simp only [Registry.isRecorded, hm, Option.any_some, Bool.and_eq_true] at hrecorded
      exact hrecorded.1
    exact List.forall_mem_cons.2 ⟨spelled_of_note hr hnames hm hi hnote, ih h.2 hrest⟩

/-! ### The mixin -/

theorem reads_field {field : String} (h : Text.isIdentifier field) :
    Reads ("    " ++ field ++ ": null,\n") [] := by
  have hscan : ∀ cs : List Char, scan .blank (("    " ++ field ++ ": null,\n").toList ++ cs) =
      front [.word field, .mark ':', .word "null", .mark ','] (scan .blank cs) := by
    intro cs
    have htext : ("    " ++ field ++ ": null,\n").toList ++ cs =
        ' ' :: ' ' :: ' ' :: ' ' :: (field.toList ++ ':' :: ' ' ::
          ("null".toList ++ ',' :: '\n' :: cs)) := by
      simp
    rw [htext, scan_blank (.inl rfl), scan_blank (.inl rfl), scan_blank (.inl rfl),
      scan_blank (.inl rfl), scan_word_text h (by decide), scan_mark (by decide),
      scan_blank (.inl rfl), scan_word_text (by decide) (by decide), scan_mark (by decide),
      scan_blank (.inr rfl)]
    simp
  exact .of_scan hscan rfl rfl

theorem reads_dataCode {p : Parts} (h : ∀ field ∈ p.dataFields, Text.isIdentifier field) :
    Reads p.dataCode [] := by
  have hfields : Reads (String.join (p.dataFields.map fun field => "    " ++ field ++ ": null,\n"))
      [] := by
    have hjoin := Reads.join fun field hfield => reads_field (h field hfield)
    rwa [List.flatMap_eq_nil_iff.2 fun _ _ => rfl] at hjoin
  have hfeed : Reads "\n" [] := ⟨_, rfl, rfl, rfl⟩
  have hblank : Reads "  " [] := ⟨_, rfl, rfl, rfl⟩
  have hreturn : Reads "\n  return " [] := ⟨_, rfl, rfl, rfl⟩
  have hsemicolon : Reads ";\n" [] := ⟨_, rfl, rfl, rfl⟩
  have hdata : Reads "data() " [] := ⟨_, rfl, rfl, rfl⟩
  have hcomma : Reads ",\n" [] := ⟨_, rfl, rfl, rfl⟩
  have hobject := ((hfeed.append hfields).append hblank).braces
  have hbody := ((hreturn.append hobject).append hsemicolon).braces
  have hcode := (hdata.append hbody).append hcomma
  have htext : p.dataCode = "data() " ++ (r"{" ++ ("\n  return " ++ (r"{" ++ ("\n" ++
      String.join (p.dataFields.map fun field => "    " ++ field ++ ": null,\n") ++ "  ") ++
      r"}") ++ ";\n") ++ r"}") ++ ",\n" := by
    unfold Parts.dataCode
    generalize String.join _ = fields
    simp [← String.toList_inj]
  rw [htext]
  exact hcode

theorem isIdentifier_dataFields {script : Script} (h : ∀ d ∈ script.records, d.Spelled) :
    ∀ field ∈ script.parts.dataFields, Text.isIdentifier field := by
  intro field hfield
  obtain ⟨d, hd, hname⟩ := List.mem_filterMap.1 hfield
  rw [← (Record.dataField?_eq_some.1 hname).2]
  exact (h d hd).name

theorem map_indentLines (script : Script) :
    script.parts.initStatements.map (Text.indentLines 2) =
      script.records.map fun d => Text.indentLines 2 d.code := by
  simp only [parts, List.map_map, Function.comp_def]

theorem reads_createdCode {script : Script} (h : ∀ d ∈ script.records, d.Spelled) :
    Reads script.parts.createdCode ((script.records.flatMap Record.texts).map withoutReturns) := by
  have hrecords : Reads
      (String.intercalate "\n" (script.records.map fun d => Text.indentLines 2 d.code))
      ((script.records.flatMap Record.texts).map withoutReturns) := by
    rw [List.map_flatMap]
    exact Reads.intercalate fun d hd => (h d hd).reads.indent 2
  have hcreated : Reads "created() " [] := ⟨_, rfl, rfl, rfl⟩
  have hfeed : Reads "\n" [] := ⟨_, rfl, rfl, rfl⟩
  have hcomma : Reads ",\n" [] := ⟨_, rfl, rfl, rfl⟩
  have hcode := (hcreated.append (hfeed.append hrecords).braces).append hcomma
  have htext : script.parts.createdCode = "created() " ++ (r"{" ++ ("\n" ++
      String.intercalate "\n" (script.records.map fun d => Text.indentLines 2 d.code)) ++ r"}") ++
      ",\n" := by
    unfold Parts.createdCode
    rw [script.map_indentLines]
    generalize String.intercalate "\n" _ = records
    simp [← String.toList_inj]
  rw [htext]
  simpa using hcode

/-- What stands in the braces of the mixin is read, with the texts of the records in quotes. -/
theorem reads_mixin {script : Script} (h : ∀ d ∈ script.records, d.Spelled) :
    ∃ code, script.parts.mixinCode = r"{" ++ code ++ r"}" ∧
      Reads code ((script.records.flatMap Record.texts).map withoutReturns) := by
  have hfeed : Reads "\n" [] := ⟨_, rfl, rfl, rfl⟩
  have hdata := reads_dataCode (isIdentifier_dataFields h)
  have hreads := (hfeed.append hdata).append (reads_createdCode h)
  rw [List.nil_append, List.nil_append] at hreads
  refine ⟨_, ?_, hreads⟩
  unfold Parts.mixinCode
  generalize script.parts.dataCode = data
  generalize script.parts.createdCode = created
  simp [← String.toList_inj]

end Script

/-! ### Compiled scripts -/

theorem Options.spelled_of_checkedRegistry {o : Options} {r : Registry}
    (h : o.checkedRegistry = .ok r) (hnames : ∀ r, o.registry = some r → r.Spelled) :
    r.Spelled := by
  unfold checkedRegistry at h
  cases hr : o.registry with
  | none =>
    rw [hr] at h
    cases h
    exact Registry.spelled_builtin
  | some r' =>
    rw [hr] at h
    obtain ⟨_, -, h⟩ := bind_eq_ok.1 h
    cases h
    exact hnames r hr

/-- The records of an accepted tree can be read, and they quote what is read for their places. -/
theorem Script.spelled_ofTree (hr : r.check = .ok ()) (hnames : r.Spelled) {t : Tree}
    (h : Accepted r t.rootPlace) {script : Script} (hscript : Script.ofTree r t = .ok script) :
    (∀ d ∈ script.records, d.Spelled) ∧
      script.records.flatMap Record.texts = (t.rootPlace.recorded r).flatMap r.readTexts := by
  have hconsistent := Registry.consistent_of_check hr
  obtain ⟨namer, hnoted⟩ := Script.noteAll_of_ofTree hconsistent h hscript
  have hplaces : ∀ p ∈ t.rootPlace.recorded r, r.isRecorded p := fun p hp => List.of_mem_filter hp
  exact ⟨spelled_of_noteAll hr hnames hplaces hnoted, texts_of_noteAll hnoted⟩

/-- The mixin of a compiled script is read from outside of everything to outside of everything. Its
brackets are closed, by its last character and none before, and its quoted texts are the values that
were read for the records, without their carriage returns. -/
theorem mixin_reads_back {o : Options} {container : Markup.Element} {out : Compiled}
    (hnames : ∀ r, o.registry = some r → r.Spelled) (h : compile o container = .ok out) :
    ∃ r t tokens, o.checkedRegistry = .ok r ∧
      Tree.ofContainer container (o.hosted.getD false) = .ok t ∧
      scanTo .blank out.script.parts.mixinCode.toList = some (tokens, .blank) ∧
      brackets tokens [] = some [] ∧
      (∀ xs ys, out.script.parts.mixinCode.toList = xs ++ ys → xs ≠ [] → ys ≠ [] →
        ∃ ts mode stack, scanTo .blank xs = some (ts, mode) ∧ brackets ts [] = some stack ∧
          stack ≠ []) ∧
      texts tokens = ((t.rootPlace.recorded r).flatMap r.readTexts).map withoutReturns := by
  obtain ⟨r, t, hr, ht, haccepted, -, hscript⟩ := compile_eq_ok h
  obtain ⟨hspelled, htexts⟩ := Script.spelled_ofTree (Template.check_of_checkedRegistry hr)
    (Options.spelled_of_checkedRegistry hr hnames) haccepted hscript
  obtain ⟨code, hcode, hreads⟩ := Script.reads_mixin hspelled
  rw [htexts] at hreads
  obtain ⟨tokens, hscan, hclosed, hvalues⟩ := hreads.braces
  rw [hcode]
  exact ⟨r, t, tokens, hr, ht, hscan, hclosed,
    fun xs ys hsplit hxs hys => brackets_inside hreads hsplit hxs hys, hvalues⟩

/-- A window and a menu item whose titles look like code. -/
def quotedWindow : Markup.Element :=
  ⟨"Window", [⟨"type", "normal"⟩, ⟨"title", "');\r\n" ++ r"} // \"⟩],
    [⟨"Menu", [⟨"type", "Popup"⟩, ⟨"title", "\\'"⟩], [⟨"MenuItem", [⟨"title", r"[({"⟩], []⟩]⟩]⟩

theorem quotedWindow_reads_back :
    ∃ out tokens,
      compile ⟨none, some .builtin, true⟩ ⟨"template", [], [quotedWindow]⟩ = .ok out ∧
      scanTo .blank out.script.parts.mixinCode.toList = some (tokens, .blank) ∧
      brackets tokens [] = some [] ∧ texts tokens = ["');\n" ++ r"} // \", "\\'", r"[({"] := by
  have hok : (compile ⟨none, some .builtin, true⟩
      ⟨"template", [], [quotedWindow]⟩).toOption.isSome := by
    decide +kernel
  obtain ⟨out, hout⟩ := Option.isSome_iff_exists.1 hok
  have hcompile := toOption_eq_some.1 hout
  obtain ⟨r, t, tokens, hr, ht, hscan, hclosed, -, htexts⟩ := mixin_reads_back
    (fun r hr => by
      cases hr
      exact Registry.spelled_builtin) hcompile
  obtain rfl : Registry.builtin = r := by
    simpa [Options.checkedRegistry, Registry.check_builtin] using hr
  cases ht
  refine ⟨out, tokens, hcompile, hscan, hclosed, htexts.trans ?_⟩
  decide +kernel

end Widgetry
