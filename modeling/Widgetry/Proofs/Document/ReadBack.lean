import Widgetry.Proofs.Document.Reader
import Widgetry.Proofs.Grammar
import Widgetry.Proofs.ScriptText

/-! Templates are read back. The text of a block, whatever the values of its attributes are, is read
as an element with the block's name, attributes and content, as long as the registry's own words are
names and texts without quotes and references. So a compiled template is read as what its tree
shows: slots, tags and host as they nest, nothing below a menu, and every shown attribute with the
value that it has in the markup. -/

namespace Widgetry

open Structure
open Document (Takes Mode Head Tag isName isPlain)

namespace Template

/-! ### Elements of blocks -/

/-- An attribute of a tag as it is read. -/
def Attribute.pair : Attribute → Markup.Attribute
  | bound name => ⟨":instance", name⟩
  | prop key value => ⟨key, value⟩
  | hostClass cssClass => ⟨":class", cssClass⟩

/-- What stands between the quotes of an attribute. -/
def Attribute.quoted : Attribute → String
  | bound name => name
  | prop _ value => Text.attributeValue value
  | hostClass cssClass => cssClass

theorem Attribute.text_eq (column : Nat) (a : Attribute) :
    a.text column = "\n" ++ Text.pad (column + 2) ++ a.pair.name ++ "=\"" ++ a.quoted ++ "\"" := by
  have hinstance : ":instance=\"" = ":instance" ++ "=\"" := rfl
  have hclass : ":class=\"" = ":class" ++ "=\"" := rfl
  cases a <;> simp only [text, pair, quoted, hinstance, hclass, String.append_assoc]

namespace Block

mutual

/-- A block as it is read. -/
def element : Block → Markup.Element
  | slot name content => ⟨"template", [⟨"slot", name⟩], elements content⟩
  | tag name attributes content => ⟨name, attributes.map Attribute.pair, elements content⟩

def elements : List Block → List Markup.Element
  | [] => []
  | b :: bs => element b :: elements bs

end

end Block

/-- The words of an attribute can be read; the value of a shown attribute may be any text. -/
def Attribute.Legible : Attribute → Prop
  | bound name => isPlain name
  | prop key _ => isName key
  | hostClass cssClass => isPlain cssClass

namespace Block

mutual

/-- The words of a block can be read. -/
def Legible : Block → Prop
  | slot name content => isPlain name ∧ LegibleAll content
  | tag name attributes content =>
    isName name ∧ (∀ a ∈ attributes, a.Legible) ∧ LegibleAll content

def LegibleAll : List Block → Prop
  | [] => True
  | b :: bs => Legible b ∧ LegibleAll bs

end

theorem legibleAll_append {bs cs : List Block} (hb : LegibleAll bs) (hc : LegibleAll cs) :
    LegibleAll (bs ++ cs) := by
  induction bs with
  | nil => exact hc
  | cons b bs ih => exact ⟨hb.1, ih hb.2⟩

theorem legibleAll_flatMap {α : Type} {as : List α} {f : α → List Block}
    (h : ∀ a ∈ as, LegibleAll (f a)) : LegibleAll (as.flatMap f) := by
  induction as with
  | nil => trivial
  | cons a as ih =>
    rw [List.forall_mem_cons] at h
    exact legibleAll_append h.1 (ih h.2)

end Block

end Template

/-! ### Opening and closing tags -/

namespace Document

open Text (pad)

/-- An opening tag may end here or go on on the next line. -/
structure Ready (mode : Mode) (head : Head) : Prop where
  close : mode.step '>' = some ([.opening head.name head.attributes], .content)
  feed : mode.step '\n' = some ([], .blank head)

theorem ready_behind (head : Head) : Ready (.behind head) head := ⟨rfl, rfl⟩

theorem ready_name (name : String) : Ready (.name name.toList) ⟨name, []⟩ := by
  have hclose : isNamePart '>' = false := by decide
  have hfeed : isNamePart '\n' = false := by decide
  constructor <;> simp [Mode.step, Mode.pause, hclose, hfeed, isBlank]

theorem takes_key {key : String} (h : isName key) (head : Head) :
    Takes (.blank head) (key ++ "=\"") [] (.value head key []) := by
  have hname : Takes (.blank head) key [] (.property head key.toList) :=
    takes_name (f := Mode.property head) (fun c hc => by simp [Mode.step, hc])
      (fun seen c hc => by simp [Mode.step, hc]) h
  have hequals : isNamePart '=' = false := by decide
  exact hname.append (by simp [Takes, scan, Mode.step, hequals])

/-- A legible attribute, on a line of its own, is added to the opening tag. -/
theorem takes_attribute {mode : Mode} {head : Head} (hmode : Ready mode head)
    {a : Template.Attribute} (ha : a.Legible) (column : Nat) :
    Takes mode (a.text column) [] (.behind (head.add a.pair)) := by
  have hfeed : Takes mode "\n" [] (.blank head) := by simp [Takes, scan, hmode.feed]
  have hpad : Takes (.blank head) (pad (column + 2)) [] (.blank head) := takes_pad rfl _
  have hkey : isName a.pair.name := by
    cases a with
    | bound name => exact (by decide : isName ":instance")
    | prop key value => exact ha
    | hostClass cssClass => exact (by decide : isName ":class")
  have hvalue : Takes (.value head a.pair.name []) a.quoted []
      (.value head a.pair.name a.pair.value.toList) := by
    cases a with
    | prop key value => exact takes_attributeValue head key value
    | bound | hostClass => exact takes_plain ha head _
  have hquote : Takes (.value head a.pair.name a.pair.value.toList) "\"" []
      (.behind (head.add a.pair)) := by
    simp [Takes, scan, Mode.step]
  have hline := (((hfeed.append hpad).append (takes_key hkey head)).append hvalue).append hquote
  rw [a.text_eq]
  rwa [← String.append_assoc] at hline

theorem takes_attributes {mode : Mode} {head : Head} (hmode : Ready mode head)
    {as : List Template.Attribute} (has : ∀ a ∈ as, a.Legible) (column : Nat) :
    ∃ mode', Takes mode (String.join (as.map (Template.Attribute.text column))) [] mode' ∧
      Ready mode' ⟨head.name, head.attributes ++ as.map Template.Attribute.pair⟩ := by
  induction as generalizing mode head with
  | nil => exact ⟨mode, rfl, by simpa using hmode⟩
  | cons a as ih =>
    rw [List.forall_mem_cons] at has
    obtain ⟨mode', htakes, hready⟩ := ih (ready_behind (head.add a.pair)) has.2
    refine ⟨mode', ?_, by simpa [Head.add] using hready⟩
    rw [List.map_cons, String.join_cons]
    exact (takes_attribute hmode has.1 column).append htakes

/-- The whole of an opening tag. -/
theorem takes_opening {name : String} (hname : isName name) {as : List Template.Attribute}
    (has : ∀ a ∈ as, a.Legible) (column : Nat) :
    Takes .content (pad column ++ "<" ++ name ++
      String.join (as.map (Template.Attribute.text column)) ++ ">\n")
      [.opening name (as.map Template.Attribute.pair)] .content := by
  have hpad : Takes .content (pad column) [] .content := takes_pad rfl column
  have hless : Takes .content "<" [] .start := rfl
  have hstart : Takes .start name [] (.name name.toList) := by
    refine takes_name (f := Mode.name) (fun c hc => ?_) (fun seen c hc => ?_) hname
    · have hslash : c ≠ '/' := fun heq => absurd hc (by simp [heq]; decide)
      have hbang : c ≠ '!' := fun heq => absurd hc (by simp [heq]; decide)
      simp [Mode.step, hslash, hbang, hc]
    · simp [Mode.step, hc]
  obtain ⟨mode, hattributes, hready⟩ := takes_attributes (ready_name name) has column
  have hfeed : Mode.content.step '\n' = some ([], .content) := rfl
  have hclose : Takes mode ">\n" [.opening name (as.map Template.Attribute.pair)] .content := by
    simp [Takes, scan, hready.close, hfeed]
  exact (((hpad.append hless).append hstart).append hattributes).append hclose

theorem takes_closing {name : String} (h : isName name) (column : Nat) :
    Takes .content (pad column ++ "</" ++ name ++ ">\n") [.closing name] .content := by
  have hpad : Takes .content (pad column) [] .content := takes_pad rfl column
  have hslash : Takes .content "</" [] (.closing []) := rfl
  have hname : Takes (.closing []) name [] (.closing name.toList) :=
    takes_name (f := Mode.closing) (fun c hc => by simp [Mode.step, hc])
      (fun seen c hc => by simp [Mode.step, hc]) h
  have hclose : isNamePart '>' = false := by decide
  have hend : Takes (.closing name.toList) ">\n" [.closing name] .content := by
    simp [Takes, scan, Mode.step, hclose, isBlank]
  exact ((hpad.append hslash).append hname).append hend

theorem takes_openSlot {slot : String} (h : isPlain slot) (column : Nat) :
    Takes .content (pad column ++ "<template slot=\"" ++ slot ++ "\">\n")
      [.opening "template" [⟨"slot", slot⟩]] .content := by
  have hpad : Takes .content (pad column) [] .content := takes_pad rfl column
  have hstart : Takes .content "<template slot=\"" [] (.value ⟨"template", []⟩ "slot" []) := rfl
  have hend : Takes (.value ⟨"template", []⟩ "slot" slot.toList) "\">\n"
      [.opening "template" [⟨"slot", slot⟩]] .content := by
    simp [Takes, scan, Mode.step, Mode.pause, Head.add, isBlank]
  exact ((hpad.append hstart).append (takes_plain h _ _)).append hend

theorem takes_closeSlot (column : Nat) :
    Takes .content (pad column ++ "</template>\n") [.closing "template"] .content :=
  (takes_pad rfl column).append (rfl : Takes .content "</template>\n" _ .content)

end Document

/-! ### Blocks and documents -/

namespace Template

namespace Block

mutual

/-- The text of a legible block gives the tags of its element. -/
theorem takes_text : ∀ (column : Nat) (b : Block), b.Legible →
    Takes .content (b.text column) b.element.tags .content
  | column, .slot name content, h => by
    have hopen := Document.takes_openSlot h.1 column
    have hcontent := takes_texts (column + 2) content h.2
    have hslot := (hopen.append hcontent).append (Document.takes_closeSlot column)
    rw [← String.append_assoc] at hslot
    simpa [text, element, Markup.Element.tags] using hslot
  | column, .tag name attributes content, h => by
    have hopen := Document.takes_opening h.1 h.2.1 column
    have hcontent := takes_texts (column + 2) content h.2.2
    have htag := (hopen.append hcontent).append (Document.takes_closing h.1 column)
    simpa [text, element, Markup.Element.tags, String.append_assoc] using htag

theorem takes_texts : ∀ (column : Nat) (bs : List Block), LegibleAll bs →
    Takes .content (texts column bs) (Markup.Element.tagsAll (elements bs)) .content
  | _, [], _ => rfl
  | column, b :: bs, h => (takes_text column b h.1).append (takes_texts column bs h.2)

end

end Block

/-- A document of legible blocks, with or without a banner, is read as one element. -/
theorem read_document (withBanner : Bool) {bs : List Block} (h : Block.LegibleAll bs) :
    Document.read (document withBanner (Block.texts 2 bs)) =
      some ⟨"template", [], Block.elements bs⟩ := by
  have hopen : Takes .content "<template>\n" [.opening "template" []] .content := rfl
  have hbanner : Takes .content (if withBanner then "  " ++ banner ++ "\n" else "") []
      .content := by
    cases withBanner <;> rfl
  have hclose : Takes .content "</template>\n" [.closing "template"] .content := rfl
  have htakes := ((hopen.append hbanner).append (Block.takes_texts 2 bs h)).append hclose
  have htags : Document.tags (document withBanner (Block.texts 2 bs)) =
      some (Markup.Element.tags ⟨"template", [], Block.elements bs⟩ ++ []) := by
    rw [Document.tags, document, htakes]
    simp [Markup.Element.tags]
  rw [Document.read, htags]
  exact Document.assemble_tags [] [] [] _

-- no text, no value without quotes, no other reference, no tag left open
example : ["<a>b</a>", "<a b=c></a>", "<a b=\"&gt;\"></a>", "<a><b></a>"].all
    (Document.read · |>.isNone) := by
  decide +kernel

end Template

/-! ### Outlines -/

/-- The words that a registry puts into templates can be read: tags and attributes are names, and
slots and classes need no references. -/
structure Registry.Legible (r : Registry) : Prop where
  components : ∀ e ∈ r.elements.entries, e.2.emittedComponent.all isName
  hosts : ∀ e ∈ r.elements.entries,
    e.2.hostSubstitution.all fun host => isName host.element && isPlain host.cssClass
  slots : ∀ e ∈ r.elements.entries, e.2.slotName.all isPlain
  props : ∀ e ∈ r.elements.entries, e.2.passthroughProps.all isName

theorem Registry.legible_builtin : Registry.builtin.Legible where
  components := by decide +kernel
  hosts := by decide +kernel
  slots := by decide +kernel
  props := by decide +kernel

theorem Document.isPlain_of_isIdentifier {name : String} (h : Text.isIdentifier name) :
    isPlain name := by
  obtain ⟨-, hparts⟩ := Program.all_of_identifierChars h
  rw [isPlain, List.all_eq_true]
  intro c hc
  have hpart := List.all_eq_true.1 hparts c hc
  have hquote : c ≠ '"' := fun heq => absurd hpart (by rw [heq]; decide)
  have hand : c ≠ '&' := fun heq => absurd hpart (by rw [heq]; decide)
  simp [hquote, hand]

theorem Namer.isIdentifier_of_nameAll {m m' : Namer} {ps : List Place} {f : Place → String}
    (h : m.nameAll ps = .ok (ps.map f, m')) : ∀ p ∈ ps, Text.isIdentifier (f p) := by
  induction ps generalizing m with
  | nil => simp
  | cons p ps ih =>
    obtain ⟨⟨name, m₁⟩, hname, h⟩ := bind_eq_ok.1 h
    obtain ⟨⟨names, m₂⟩, hnames, h⟩ := bind_eq_ok.1 h
    obtain ⟨⟨rfl, rfl⟩, rfl⟩ : (name = f p ∧ names = ps.map f) ∧ m₂ = m' := by simpa using h
    exact List.forall_mem_cons.2 ⟨isIdentifier_of_name hname, ih hnames⟩

namespace Template

variable {r : Registry} {name : Nat → String}

theorem legible_shownAttributes (hr : r.Legible) {p : Place} {m : Mapping}
    (hm : r.mapping? p.kind = some m)
    (hname : m.requiresInstance → p.hosted = false → isPlain (name p.index)) :
    ∀ a ∈ shownAttributes m name p, a.Legible := by
  intro a ha
  rw [shownAttributes, List.mem_append, List.mem_append] at ha
  rcases ha with (hbound | hprop) | hclass
  · split_ifs at hbound with hneeds
    · obtain ⟨hneeds, hhost⟩ : m.requiresInstance = true ∧ p.hosted = false := by
        simpa using hneeds
      obtain rfl := List.mem_singleton.1 hbound
      exact hname hneeds hhost
    · cases hbound
  · obtain ⟨key, hkey, hvalue⟩ := List.mem_filterMap.1 hprop
    obtain ⟨value, -, rfl⟩ := Option.map_eq_some_iff.1 hvalue
    exact List.all_eq_true.1 (hr.props _ (Table.mem_of_get? hm)) key hkey
  · split_ifs at hclass with hhost
    · obtain ⟨host, hsubstitution, rfl⟩ := List.mem_map.1 hclass
      have hhosts := hr.hosts _ (Table.mem_of_get? hm)
      rw [Option.mem_toList.1 hsubstitution] at hhosts
      exact (Bool.and_eq_true_iff.1 hhosts).2
    · cases hclass

theorem legibleAll_inSlot {slot : Option String} (hslot : slot.all isPlain) {content : List Block}
    (h : Block.LegibleAll content) : Block.LegibleAll (inSlot slot content) := by
  cases slot with
  | none => exact h
  | some word => exact ⟨⟨hslot, h⟩, trivial⟩

theorem legibleAll_inTag {tag : Option String} (htag : tag.all isName) {as : List Attribute}
    (has : ∀ a ∈ as, a.Legible) {content : List Block} (h : Block.LegibleAll content) :
    Block.LegibleAll (inTag tag as content) := by
  cases tag with
  | none => exact h
  | some word => exact ⟨⟨htag, has, h⟩, trivial⟩

theorem all_openedTag (hr : r.Legible) {kind : String} {m : Mapping}
    (hm : r.mapping? kind = some m) (hosted : Bool) : (m.openedTag hosted).all isName := by
  have hcomponent := hr.components _ (Table.mem_of_get? hm)
  have hhost := hr.hosts _ (Table.mem_of_get? hm)
  cases hosted with
  | false => exact hcomponent
  | true =>
    simp only [Mapping.openedTag, if_true]
    cases hsubstitution : m.hostSubstitution with
    | none => rfl
    | some host =>
      simp only [hsubstitution, Option.all_some, Bool.and_eq_true] at hhost
      exact hhost.1

/-- With a legible registry and plain names, what an accepted tree shows is legible. -/
theorem legibleAll_outline (hr : r.Legible) {p : Place} (h : Accepted r p)
    (hout : menuAbove r p.ancestors = false)
    (hnames : ∀ q ∈ p.instances r, isPlain (name q.index)) :
    Block.LegibleAll (outline r name p) := by
  induction p using Place.induction with
  | step p ih =>
    obtain ⟨m, hm, -⟩ := h.here
    rw [Place.instances_eq, List.forall_mem_append] at hnames
    have hname : m.requiresInstance → p.hosted = false → isPlain (name p.index) := by
      intro hneeds hhost
      refine hnames.1 p ?_
      simp [Registry.needsName, hm, hneeds, hhost, hout]
    have hslot : (shownSlot m p).all isPlain := by
      unfold shownSlot
      split_ifs
      · rfl
      · exact hr.slots _ (Table.mem_of_get? hm)
    rw [outline_eq hm]
    refine legibleAll_inSlot hslot
      (legibleAll_inTag (all_openedTag hr hm _) (legible_shownAttributes hr hm hname) ?_)
    split_ifs with hk
    · trivial
    · refine Block.legibleAll_flatMap fun c hc => ih c hc (h.child hc) ?_ fun q hq => ?_
      · simp [menuAbove_child hc, hk, hout]
      · exact hnames.2 q (List.mem_flatMap.2 ⟨c, hc, hq⟩)

/-- Where the registry is legible, the template of an accepted tree is read as what the tree shows.
A hosted menu is left out. -/
theorem read_template (hr : r.Consistent) (hlegible : r.Legible) {t : Tree}
    (ht : Accepted r t.rootPlace)
    (hmenu : ¬(t.hosted = true ∧ t.root.kind = r.menu.menuKind)) {withBanner : Bool}
    {text : String} (h : template r t withBanner = .ok text) :
    ∃ (name : Nat → String) (namer : Namer),
      Namer.nameAll {} (t.rootPlace.instances r) =
        .ok ((t.rootPlace.instances r).map (name ·.index), namer) ∧
      Document.read text =
        some ⟨"template", [], Block.elements (outline r name t.rootPlace)⟩ := by
  obtain ⟨inner, hinner, htext⟩ := bind_eq_ok.1 h
  cases htext
  obtain ⟨marks, hmarks, hinner⟩ := bind_eq_ok.1 hinner
  cases hinner
  obtain ⟨s, hs, hmarks⟩ := bind_eq_ok.1 hmarks
  cases hmarks
  obtain ⟨name, namer, hnames, rfl⟩ := walk_eq_outline hr ht hmenu hs
  have hplain : ∀ q ∈ t.rootPlace.instances r, isPlain (name q.index) := fun q hq =>
    Document.isPlain_of_isIdentifier (Namer.isIdentifier_of_nameAll hnames q hq)
  refine ⟨name, namer, hnames, ?_⟩
  rw [Block.render_marksAll]
  exact read_document withBanner (legibleAll_outline hlegible ht rfl hplain)

/-! ### Compiled templates -/

/-- No menu of the built-in registry is hosted. -/
theorem not_hostedMenu_builtin {t : Tree} (h : Accepted .builtin t.rootPlace) :
    ¬(t.hosted = true ∧ t.root.kind = Registry.builtin.menu.menuKind) := by
  rintro ⟨hhost, hk⟩
  obtain ⟨⟨m, hm, hsubstitution⟩, -⟩ := sound_iff.1 h.here
  have hmenu : Registry.builtin.mapping? t.root.kind = some Registry.menuMapping := by
    rw [hk]
    decide +kernel
  obtain rfl : Registry.menuMapping = m := Option.some.inj (hmenu.symm.trans hm)
  exact absurd (hsubstitution hhost) (by decide)

/-- A template that is compiled with the built-in registry is read, as a whole, as one element. In
it are the slots, components and host that the tree shows, with nothing below a menu; an element has
the instance, the class and the attributes that are passed through, each with its value in the
markup, and no others. -/
theorem compile_reads_back {o : Options} {container : Markup.Element} {out : Compiled}
    (hr : o.checkedRegistry = .ok .builtin) (h : compile o container = .ok out) :
    ∃ (t : Tree) (name : Nat → String) (namer : Namer),
      Tree.ofContainer container (o.hosted.getD false) = .ok t ∧
      Namer.nameAll {} (t.rootPlace.instances .builtin) =
        .ok ((t.rootPlace.instances .builtin).map (name ·.index), namer) ∧
      Document.read out.template =
        some ⟨"template", [], Block.elements (outline .builtin name t.rootPlace)⟩ := by
  obtain ⟨r, t, hr', ht, haccepted, htemplate, -⟩ := compile_eq_ok h
  obtain rfl : r = .builtin := Except.ok.inj (hr'.symm.trans hr)
  obtain ⟨name, namer, hnames, hread⟩ := read_template (consistent_of_checkedRegistry hr)
    Registry.legible_builtin haccepted (not_hostedMenu_builtin haccepted) htemplate
  exact ⟨t, name, namer, ht, hnames, hread⟩

/-- A hosted window with a label that looks like markup, and a window with a menu and a toolbar. -/
def labelledWindow : Markup.Element :=
  ⟨"Window", [⟨"instance", "unread"⟩],
    [⟨"ToolbarItem", [⟨"title", "unread"⟩, ⟨"label", "\">\n</div><!-- &lt; & é"⟩], []⟩,
     ⟨"Window", [⟨"type", "Normal"⟩],
      [⟨"Menu", [⟨"type", "MenuBar"⟩, ⟨"instance", "main_menu"⟩],
        [⟨"MenuItem", [⟨"title", "<b>"⟩], []⟩]⟩,
       ⟨"Toolbar", [⟨"label", "unread"⟩], [⟨"ToolbarItem", [], []⟩]⟩]⟩]⟩

/-- What is read of the window, as tags, where the instances have the given names. -/
def labelledWindowTags (window menu : String) : List Tag :=
  [.opening "template" [], .opening "div" [⟨":class", "windowClass"⟩],
   .opening "bl-toolbar-item" [⟨"label", "\">\n</div><!-- &lt; & é"⟩], .closing "bl-toolbar-item",
   .opening "bl-window" [⟨":instance", window⟩],
   .opening "template" [⟨"slot", "menuBar"⟩], .opening "bl-menu" [⟨":instance", menu⟩],
   .closing "bl-menu", .closing "template",
   .opening "template" [⟨"slot", "toolbar"⟩], .opening "bl-toolbar-item" [],
   .closing "bl-toolbar-item", .closing "template",
   .closing "bl-window", .closing "div", .closing "template"]

theorem labelledWindow_reads_back :
    ∃ (out : Compiled) (e : Markup.Element),
      compile { hosted := some true } ⟨"template", [], [labelledWindow]⟩ = .ok out ∧
      Document.read out.template = some e ∧ e.tags = labelledWindowTags "rt0" "mainMenu" := by
  have hok : (compile { hosted := some true }
      ⟨"template", [], [labelledWindow]⟩).toOption.isSome := by
    decide +kernel
  obtain ⟨out, hout⟩ := Option.isSome_iff_exists.1 hok
  have hcompile := toOption_eq_some.1 hout
  obtain ⟨t, name, namer, ht, hnames, hread⟩ := compile_reads_back rfl hcompile
  cases ht
  have hgiven : ((Namer.nameAll {} (Place.instances .builtin
      (Tree.rootPlace ⟨.ofElement labelledWindow, true⟩))).toOption.map Prod.fst) =
        some ["rt0", "mainMenu"] := by
    decide +kernel
  have hlist : some [name 2, name 3] = some ["rt0", "mainMenu"] :=
    (congrArg (fun named => named.toOption.map Prod.fst) hnames).symm.trans hgiven
  obtain ⟨hwindow, hmenu⟩ : name 2 = "rt0" ∧ name 3 = "mainMenu" := by simpa using hlist
  refine ⟨out, _, hcompile, hread, ?_⟩
  rw [← hwindow, ← hmenu]
  rfl

end Template

end Widgetry
