import Widgetry.Proofs.FilledLines
import Widgetry.Proofs.ScriptText
import Widgetry.Proofs.Tours

/-! The lines of the function that initialises a component. Its fragments are set in line by line,
their empty lines are dropped, and an empty line is put between them. From fragments made of filled
lines this takes nothing away, and those of a script are: its names are identifiers and paths, and a
literal has no line end in it, so that every statement is one line. That holds of the script of any
tree, accepted or not. -/

namespace Widgetry

namespace Script

open Text Program

/-! ### The lines of the function -/

/-- The lines inside of the function: the filled lines of the fragments, set in by two columns, and
an empty line between fragments. -/
def insideLines (codes : List String) : List (List Char) :=
  [[]].intercalate (codes.map fun code => (filledLines code.toList).map ([' ', ' '] ++ ·))

theorem insideLines_cons_cons (code next : String) (codes : List String) :
    insideLines (code :: next :: codes) =
      (filledLines code.toList).map ([' ', ' '] ++ ·) ++ [] :: insideLines (next :: codes) := by
  simp [insideLines]

theorem toList_intercalate_indentLines {codes : List String}
    (h : ∀ code ∈ codes, '\r' ∉ code.toList) :
    (String.intercalate "\n" (codes.map (indentLines 2))).toList = ended (insideLines codes) := by
  induction codes with
  | nil => simp [insideLines]
  | cons code codes ih =>
    rw [List.forall_mem_cons] at h
    have hfirst := toList_indentLines_filled 2 h.1
    cases codes with
    | nil => simpa [insideLines] using hfirst
    | cons next codes =>
      rw [insideLines_cons_cons, ended_append, ended_cons, List.nil_append, ← ih h.2]
      simp [hfirst]

theorem feed_notMem_insideLines (codes : List String) : ∀ l ∈ insideLines codes, '\n' ∉ l := by
  intro l hl
  rcases of_mem_intercalate hl with hempty | ⟨ls, hls, hl⟩
  · obtain rfl := List.mem_singleton.1 hempty
    simp
  · obtain ⟨code, -, rfl⟩ := List.mem_map.1 hls
    obtain ⟨line, hline, rfl⟩ := List.mem_map.1 hl
    have hfeed := feed_notMem_of_splitOn (List.mem_of_mem_filter hline)
    simp [hfeed]

/-- The filled lines inside of the function are those of the fragments, set in. -/
theorem filter_insideLines (codes : List String) :
    (insideLines codes).filter (!·.isEmpty) =
      (codes.flatMap fun code => filledLines code.toList).map ([' ', ' '] ++ ·) := by
  induction codes with
  | nil => rfl
  | cons code codes ih =>
    rw [List.flatMap_cons, List.map_append, ← ih]
    cases codes with
    | nil => simp [insideLines]
    | cons next codes =>
      rw [insideLines_cons_cons, List.filter_append]
      simp

/-- The function is its first line, the lines inside of it and its last line. -/
theorem splitOn_createdCode {p : Parts} (h : ∀ code ∈ p.initStatements, '\r' ∉ code.toList) :
    p.createdCode.toList.splitOn '\n' =
      r"created() {".toList :: (insideLines p.initStatements ++ [r"},".toList, []]) := by
  have htext : p.createdCode.toList =
      ended (r"created() {".toList :: (insideLines p.initStatements ++ [r"},".toList])) := by
    rw [Parts.createdCode, String.append_assoc, String.toList_append, String.toList_append,
      toList_intercalate_indentLines h, ended_cons, ended_append]
    simp
  have hlines : ∀ l ∈ r"created() {".toList ::
      (insideLines p.initStatements ++ [r"},".toList]), '\n' ∉ l := by
    rw [List.forall_mem_cons, List.forall_mem_append, List.forall_mem_singleton]
    exact ⟨by decide, feed_notMem_insideLines p.initStatements, by decide⟩
  rw [htext, splitOn_ended hlines]
  simp

end Script

/-! ### Statements on one line -/

namespace Text

theorem oneLine_of_isPath {path : String} (h : Program.isPath path) : OneLine path.toList := by
  intro c hc
  have hchar := isIdentifierPart_or_dot h hc
  constructor
  · rintro rfl
    exact absurd hchar (by decide)
  · rintro rfl
    exact absurd hchar (by decide)

theorem oneLine_of_isIdentifier {name : String} (h : isIdentifier name) : OneLine name.toList :=
  oneLine_of_isPath (Program.isPath_identifier h)

end Text

namespace Script

open Text Program

theorem oneLine_code {a : Argument} (h : a.Spelled) : OneLine a.code.toList := by
  cases a with
  | constant space member => exact oneLine_of_isPath h
  | text value => exact oneLine_literal value

theorem oneLine_creation {className : String} (hclass : isPath className) {values : List String}
    (h : ∀ value ∈ values, OneLine value.toList) : OneLine (creation className values).toList := by
  have hvalues : OneLine (String.intercalate ", " values).toList := by
    intro c hc
    rw [String.toList_intercalate] at hc
    rcases of_mem_intercalate hc with hseparator | ⟨_, hchars, hc⟩
    · have hseparators : OneLine ", ".toList := by decide
      exact hseparators c hseparator
    · obtain ⟨value, hvalue, rfl⟩ := List.mem_map.1 hchars
      exact h value hvalue c hc
  simp only [creation, oneLine_append, and_assoc]
  exact ⟨by decide, oneLine_of_isPath hclass, by decide, hvalues, by decide⟩

theorem fullLines_construct {name className : String} (hname : isIdentifier name)
    (hclass : isPath className) {as : List Argument} (h : ∀ a ∈ as, a.Spelled) :
    FullLines (construct name className (as.map Argument.code)) := by
  have hcreation : OneLine (creation className (as.map Argument.code)).toList := by
    refine oneLine_creation hclass fun value hvalue => ?_
    obtain ⟨a, ha, rfl⟩ := List.mem_map.1 hvalue
    exact oneLine_code (h a ha)
  refine .line ';' rfl (by decide) ?_
  simp only [oneLine_append, and_assoc]
  exact ⟨by decide, oneLine_of_isIdentifier hname, by decide, hcreation⟩

theorem fullLines_assign {name key : String} (hname : isIdentifier name) (hkey : isPath key)
    {a : Argument} (h : a.Spelled) : FullLines (assign name key a.code) := by
  refine .line ';' rfl (by decide) ?_
  simp only [oneLine_append, and_assoc]
  exact ⟨by decide, oneLine_of_isIdentifier hname, by decide, oneLine_of_isPath hkey, by decide,
    oneLine_code h⟩

theorem fullLines_declare {name className : String} (hname : isIdentifier name)
    (hclass : isPath className) {values : List String}
    (h : ∀ value ∈ values, OneLine value.toList) (width : Nat) :
    FullLines (pad width ++ declare name className values) := by
  have htext : pad width ++ declare name className values =
      pad width ++ "let " ++ name ++ " = " ++ creation className values ++ ";\n" := by
    simp only [declare, String.append_assoc]
  rw [htext]
  refine .line ';' rfl (by decide) ?_
  simp only [oneLine_append, and_assoc]
  exact ⟨oneLine_pad width, by decide, oneLine_of_isIdentifier hname, by decide,
    oneLine_creation hclass h⟩

end Script

theorem Menu.Line.Spelled.fullLines {line : Menu.Line} (h : line.Spelled) :
    Text.FullLines line.text := by
  have hsubmenu : Text.OneLine submenuVariable.toList := by decide
  have hitem : Text.OneLine itemVariable.toList := by decide
  cases line with
  | openBlock indent =>
    rw [Menu.Line.text, String.append_assoc]
    exact .line '{' rfl (by decide) (Text.oneLine_pad indent)
  | closeBlock indent =>
    rw [Menu.Line.text, String.append_assoc]
    exact .line '}' rfl (by decide) (Text.oneLine_pad indent)
  | letSubmenu indent className space constant title =>
    refine Script.fullLines_declare (by decide) h.1 (fun value hvalue => ?_) indent
    rcases List.mem_pair.1 hvalue with rfl | rfl
    · exact Text.oneLine_of_isPath h.2
    · exact Text.oneLine_literal title
  | letItem indent className title =>
    exact Script.fullLines_declare (by decide) h
      (List.forall_mem_singleton.2 (Text.oneLine_literal title)) indent
  | push indent root field =>
    have htarget : Text.OneLine (pushTarget root).toList := by
      cases root with
      | none => exact hsubmenu
      | some name => exact Text.oneLine_append.2 ⟨by decide, Text.oneLine_of_isIdentifier h.1⟩
    have htext : (push indent root field).text =
        Text.pad indent ++ pushTarget root ++ "." ++ field ++ ".push(" ++ itemVariable ++ ")" ++
          ";\n" := by
      simp [text, ← String.toList_inj]
    rw [htext]
    refine .line ';' rfl (by decide) ?_
    simp only [Text.oneLine_append, and_assoc]
    exact ⟨Text.oneLine_pad indent, htarget, by decide, Text.oneLine_of_isPath h.2, by decide,
      hitem, by decide⟩
  | attach indent field =>
    refine .line ';' rfl (by decide) ?_
    simp only [Text.oneLine_append, and_assoc]
    exact ⟨Text.oneLine_pad indent, hitem, by decide, Text.oneLine_of_isPath h, by decide, hsubmenu⟩

namespace Script

open Text Program

/-- The code of a record whose names can be read is made of filled lines. -/
theorem Record.Spelled.fullLines {d : Record} (h : d.Spelled) : FullLines d.code := by
  have hcomment : FullLines ("// Init " ++ d.name ++ ": " ++ d.className ++ ".\n") := by
    refine .line '.' rfl (by decide) ?_
    simp only [oneLine_append, and_assoc]
    exact ⟨by decide, oneLine_of_isIdentifier h.name, by decide, oneLine_of_isPath h.className⟩
  have hconstruct : FullLines
      (d.construction.elim "" fun as => construct d.name d.className (as.map Argument.code)) := by
    have hconstruction := h.construction
    cases hd : d.construction with
    | none => exact .empty
    | some as =>
      rw [hd] at hconstruction
      exact fullLines_construct h.name h.className hconstruction
  have hassign : FullLines
      (String.join (d.assignments.map fun x => assign d.name x.1 x.2.code)) := by
    refine .join fun code hcode => ?_
    obtain ⟨x, hx, rfl⟩ := List.mem_map.1 hcode
    exact fullLines_assign h.name (h.assignments x hx).1 (h.assignments x hx).2
  have hmenu : FullLines (Menu.render d.menu) := by
    refine .join fun code hcode => ?_
    obtain ⟨line, hline, rfl⟩ := List.mem_map.1 hcode
    exact (h.lines line hline).fullLines
  rw [Record.code_eq]
  exact ((hcomment.append hconstruct).append hassign).append hmenu

end Script

/-! ### Records of any tree -/

variable {r : Registry}

/-- Entering a place adds nothing to the journal or the record of an instance there. -/
theorem Journal.records_enter {p : Place} {j j' : Journal} (h : enter r p j = .ok j') :
    j'.records = j.records ∨ ∃ m d namer, r.mapping? p.kind = some m ∧ m.requiresInstance ∧
      Script.note r m p j.namer = .ok (d, namer) ∧ j'.records = j.records ++ [d] := by
  obtain ⟨m, hm, h⟩ := bind_eq_ok.1 h
  have hmapping := Registry.require_eq_ok.1 hm
  split_ifs at h with hrequired hskip
  · cases h
    exact .inl rfl
  · cases h
    exact .inl rfl
  all_goals
    obtain ⟨⟨d, namer⟩, hnote, h⟩ := bind_eq_ok.1 h
    cases h
    exact .inr ⟨m, d, namer, hmapping, by simpa using hrequired, hnote, rfl⟩

/-- Every record of a script is that of an instance somewhere in the tree, accepted or not. -/
theorem Script.exists_note {t : Tree} {script : Script} (h : Script.ofTree r t = .ok script) :
    ∀ d ∈ script.records, ∃ p ∈ t.places, ∃ m namer namer', r.mapping? p.kind = some m ∧
      m.requiresInstance ∧ note r m p namer = .ok (d, namer') := by
  obtain ⟨u, hwalk, h⟩ := bind_eq_ok.1 h
  cases h
  have hjournal := map_journal_walk r t.rootPlace {}
  rw [hwalk, Visitor.walk_eq_run] at hjournal
  refine Visitor.run_along (I := fun _ (j : Journal) => ∀ d ∈ j.records, ∃ p ∈ t.places,
    ∃ m namer namer', r.mapping? p.kind = some m ∧ m.requiresInstance ∧
      note r m p namer = .ok (d, namer')) (fun e he j j' hj hstep => ?_)
    (Event.leads_tour t.rootPlace) (by simp [State.journal]) hjournal.symm
  cases e with
  | enter p =>
    rcases Journal.records_enter hstep with hsame | ⟨m, d, namer, hm, hi, hnote, hadded⟩
    · rwa [hsame]
    · rw [hadded]
      refine List.forall_mem_append.2 ⟨hj, List.forall_mem_singleton.2 ?_⟩
      exact ⟨p, Place.mem_tour_iff.1 he, m, j.namer, namer, hm, hi, hnote⟩
  | leave p =>
    cases hstep
    exact hj

/-! ### The function of a script -/

namespace Script

open Text Program

/-- With a registry whose names can be read, the fragments of a script are made of filled lines,
each read on its own, and they quote the values that are read for their places. -/
theorem fragment_lines (hr : r.check = .ok ()) (hnames : r.Spelled) {t : Tree} {script : Script}
    (h : Script.ofTree r t = .ok script) :
    ∀ code ∈ script.parts.initStatements, FullLines code ∧
      ∃ p ∈ t.places, ReadsByLine code ((r.readTexts p).map withoutReturns) := by
  intro code hcode
  obtain ⟨d, hd, rfl⟩ := List.mem_map.1 hcode
  obtain ⟨p, hp, m, namer, namer', hm, hi, hnote⟩ := exists_note h d hd
  have hspelled := spelled_of_note hr hnames hm hi hnote
  refine ⟨hspelled.fullLines, p, hp, ?_⟩
  rw [← texts_of_note hm hnote]
  exact hspelled.reads.byLine hspelled.fullLines

/-- Of the lines of a function, those inside of it that hold something, without their first two
columns. -/
def stripped (code : String) : String :=
  String.ofList (ended (((code.toList.splitOn '\n').tail.dropLast.dropLast.filter
    (!·.isEmpty)).map (List.drop 2)))

/-- From fragments made of filled lines nothing is lost. -/
theorem stripped_createdCode {p : Parts} (h : ∀ code ∈ p.initStatements, FullLines code) :
    stripped p.createdCode = String.join p.initStatements := by
  have hinside : (p.createdCode.toList.splitOn '\n').tail.dropLast.dropLast =
      insideLines p.initStatements := by
    rw [splitOn_createdCode fun code hcode => (h code hcode).return_notMem]
    simp
  have hlines : ((insideLines p.initStatements).filter (!·.isEmpty)).map (List.drop 2) =
      p.initStatements.flatMap fun code => filledLines code.toList := by
    rw [filter_insideLines, List.map_map]
    exact List.map_id _
  have hended : ended (p.initStatements.flatMap fun code => filledLines code.toList) =
      p.initStatements.flatMap String.toList := by
    rw [ended, List.flatMap_assoc]
    exact List.flatMap_congr fun code hcode => (h code hcode).ended_filledLines
  rw [stripped, hinside, hlines, hended, ← String.toList_join, String.ofList_toList]

/-- The function that initialises a component loses none of its fragments. Where no fragment has a
carriage return, its lines are the first one, filled lines of the fragments behind two columns with
empty lines among them, and the last one. The fragments of a script are made of filled lines, each
read on its own with the values of attributes in quotes, whatever they are; so without columns and
empty lines the function is the fragments one behind the other. -/
theorem created_keeps_lines :
    (∀ p : Parts, (∀ code ∈ p.initStatements, '\r' ∉ code.toList) →
      ∃ inner, p.createdCode.toList.splitOn '\n' =
          r"created() {".toList :: (inner ++ [r"},".toList, []]) ∧
        inner.filter (!·.isEmpty) =
          (p.initStatements.flatMap fun code => filledLines code.toList).map ([' ', ' '] ++ ·)) ∧
    ∀ (t : Tree) (script : Script), Script.ofTree .builtin t = .ok script →
      (∀ code ∈ script.parts.initStatements, FullLines code ∧
        ∃ p ∈ t.places, ReadsByLine code ((Registry.builtin.readTexts p).map withoutReturns)) ∧
      stripped script.parts.createdCode = String.join script.parts.initStatements := by
  constructor
  · intro p h
    exact ⟨_, splitOn_createdCode h, filter_insideLines p.initStatements⟩
  · intro t script h
    have hlines := fragment_lines Registry.check_builtin Registry.spelled_builtin h
    exact ⟨hlines, stripped_createdCode fun code hcode => (hlines code hcode).1⟩

end Script

/-- Fragments with an empty line inside, without a line feed at the end and with nothing at all. -/
def looseParts : Script.Parts := ⟨[], [], ["a;\n\n b;", "", "c;\n"], ""⟩

/-- A window with line ends in its title and in those of its menu, and an item outside of menus,
which no accepted tree holds. -/
def brokenTitles : Tree where
  root := ⟨"Window", .ofList [("type", "Normal"), ("title", "a\n\nb")],
    [⟨"MenuItem", .empty, []⟩,
     ⟨"Menu", .ofList [("type", "Popup")], [⟨"MenuItem", .ofList [("title", "'\r\n\\")], []⟩]⟩]⟩
  hosted := false

def brokenTitlesCode : String :=
  "// Init rt0: ApplicationWindow.\n" ++
    "this.rt0 = new ApplicationWindow(ApplicationWindow.WindowType.Normal);\n" ++
    "this.rt0.title = 'a\\n\\nb';\n" ++
    "// Init rt1: Menu.\nthis.rt1 = new Menu(Menu.MenuType.Popup);\n" ++
    r"{" ++ "\n  let _menuItem = new MenuItem('\\'\\n\\\\');\n" ++
    "  this.rt1.items.push(_menuItem);\n" ++ r"}" ++ "\n"

theorem brokenTitles_kept :
    (∃ inner, looseParts.createdCode.toList.splitOn '\n' =
        r"created() {".toList :: (inner ++ [r"},".toList, []]) ∧
      inner.filter (!·.isEmpty) = ["  a;".toList, "   b;".toList, "  c;".toList]) ∧
    Structure.check .builtin brokenTitles ≠ .ok () ∧
    ∃ script, Script.ofTree .builtin brokenTitles = .ok script ∧
      Script.stripped script.parts.createdCode = brokenTitlesCode := by
  obtain ⟨hparts, htrees⟩ := Script.created_keeps_lines
  obtain ⟨inner, hlines, hfilled⟩ := hparts looseParts (by decide +kernel)
  have hok : (Script.ofTree .builtin brokenTitles).toOption.map
      (fun script => String.join script.parts.initStatements) = some brokenTitlesCode := by
    decide +kernel
  obtain ⟨script, hscript, hcode⟩ := Option.map_eq_some_iff.1 hok
  have hofTree := toOption_eq_some.1 hscript
  refine ⟨⟨inner, hlines, ?_⟩, by decide +kernel, script, hofTree, ?_⟩
  · exact hfilled.trans (by decide +kernel)
  · exact (htrees brokenTitles script hofTree).2.trans hcode

end Widgetry
