import Widgetry.Markup.Element
import Widgetry.Text.Lines
import Widgetry.Text.Literal
import Mathlib.Tactic.SplitIfs

/-! A strict reader of templates. A scanner takes one character at a time and gives the opening and
closing tags; between them only blanks and comments may stand. Attributes follow blanks and have a
value in double quotes, which runs to the next quote and in which `&amp;`, `&quot;` and `&lt;` are
the only references. The tags are then put together to one element. -/

namespace Widgetry.Document

open Markup (Element Attribute)
open Text (pad attributeChar attributeValue)

/-! ### The scanner -/

inductive Tag where
  | opening (name : String) (attributes : List Attribute)
  | closing (name : String)
  deriving DecidableEq

/-- An opening tag as far as it has been read. -/
structure Head where
  name : String
  attributes : List Attribute
  deriving DecidableEq

def Head.add (head : Head) (a : Attribute) : Head := ⟨head.name, head.attributes ++ [a]⟩

/-- What the scanner is inside of, with the characters seen. -/
inductive Mode where
  | content
  /-- Behind `<`. -/
  | start
  /-- Behind `<!`. -/
  | bang
  /-- Behind `<!-`. -/
  | dash
  /-- In a comment, behind so many dashes. -/
  | comment (dashes : Nat)
  | closing (seen : List Char)
  | name (seen : List Char)
  /-- Behind the value of an attribute. -/
  | behind (head : Head)
  /-- Behind a blank in an opening tag. -/
  | blank (head : Head)
  /-- In the name of an attribute. -/
  | property (head : Head) (seen : List Char)
  /-- Behind the `=` of an attribute. -/
  | equals (head : Head) (key : String)
  | value (head : Head) (key : String) (seen : List Char)
  | reference (head : Head) (key : String) (seen entity : List Char)

def isBlank (c : Char) : Bool := c == ' ' || c == '\n' || c == '\r' || c == '\t'

/-- A character of the name of a tag or an attribute. -/
def isNamePart (c : Char) : Bool := c.isAlphanum || c == '-' || c == '_' || c == ':'

/-- The character that a reference stands for. -/
def referred? (entity : List Char) : Option Char :=
  if entity = ['a', 'm', 'p'] then some '&'
  else if entity = ['q', 'u', 'o', 't'] then some '"'
  else if entity = ['l', 't'] then some '<'
  else none

/-- A character behind the name or an attribute of an opening tag. -/
def Mode.pause (head : Head) (c : Char) : Option (List Tag × Mode) :=
  if c = '>' then some ([.opening head.name head.attributes], .content)
  else if isBlank c then some ([], .blank head)
  else none

def Mode.step : Mode → Char → Option (List Tag × Mode)
  | content, c =>
    if c = '<' then some ([], .start) else if isBlank c then some ([], .content) else none
  | start, c =>
    if c = '/' then some ([], .closing [])
    else if c = '!' then some ([], .bang)
    else if isNamePart c then some ([], .name [c])
    else none
  | bang, c => if c = '-' then some ([], .dash) else none
  | dash, c => if c = '-' then some ([], .comment 0) else none
  | comment dashes, c =>
    some ([], if c = '-' then .comment (dashes + 1)
      else if c = '>' ∧ 2 ≤ dashes then .content else .comment 0)
  | closing seen, c =>
    if isNamePart c then some ([], .closing (seen ++ [c]))
    else if c = '>' then some ([.closing (String.ofList seen)], .content)
    else none
  | name seen, c =>
    if isNamePart c then some ([], .name (seen ++ [c])) else pause ⟨String.ofList seen, []⟩ c
  | behind head, c => pause head c
  | blank head, c => if isNamePart c then some ([], .property head [c]) else pause head c
  | property head seen, c =>
    if isNamePart c then some ([], .property head (seen ++ [c]))
    else if c = '=' then some ([], .equals head (String.ofList seen))
    else none
  | equals head key, c => if c = '"' then some ([], .value head key []) else none
  | value head key seen, c =>
    some ([], if c = '"' then .behind (head.add ⟨key, String.ofList seen⟩)
      else if c = '&' then .reference head key seen []
      else .value head key (seen ++ [c]))
  | reference head key seen entity, c =>
    if c = ';' then (referred? entity).map fun d => ([], .value head key (seen ++ [d]))
    else some ([], .reference head key seen (entity ++ [c]))

/-- The tags that some characters give, and where they leave the scanner. -/
def scan : Mode → List Char → Option (List Tag × Mode)
  | mode, [] => some ([], mode)
  | mode, c :: cs => do
    let (first, mode) ← mode.step c
    let (rest, mode) ← scan mode cs
    return (first ++ rest, mode)

/-- The tags of a document, which has to end between tags. -/
def tags (text : String) : Option (List Tag) :=
  match scan .content text.toList with
  | some (tags, .content) => some tags
  | _ => none

/-! ### Elements -/

/-- An element that stands open, with the elements in front of it. -/
structure Frame where
  head : Head
  before : List Element

/-- Tags are put together with the open elements, the innermost first, and the elements behind the
last opening or closing tag. -/
def assemble : List Tag → List Frame → List Element → Option Element
  | [], [], [e] => some e
  | [], _, _ => none
  | .opening name attributes :: tags, frames, es =>
    assemble tags (⟨⟨name, attributes⟩, es⟩ :: frames) []
  | .closing name :: tags, frame :: frames, es =>
    if name = frame.head.name then
      assemble tags frames (frame.before ++ [⟨name, frame.head.attributes, es⟩])
    else none
  | .closing _ :: _, [], _ => none

/-- The element that a document is. -/
def read (text : String) : Option Element := do assemble (← tags text) [] []

end Widgetry.Document

namespace Widgetry.Markup.Element

open Document (Tag)

mutual

/-- The tags that stand for an element. -/
def tags : Element → List Tag
  | ⟨tag, attributes, children⟩ =>
    .opening tag attributes :: (tagsAll children ++ [.closing tag])

def tagsAll : List Element → List Tag
  | [] => []
  | e :: es => tags e ++ tagsAll es

end

end Widgetry.Markup.Element

namespace Widgetry.Document

open Markup (Element Attribute)
open Text (pad attributeChar attributeValue)

mutual

/-- The tags of an element are put together to it. -/
theorem assemble_tags (rest : List Tag) (frames : List Frame) (before : List Element) :
    ∀ e : Element,
      assemble (e.tags ++ rest) frames before = assemble rest frames (before ++ [e])
  | ⟨tag, attributes, children⟩ => by
    rw [Element.tags, List.cons_append, assemble, List.append_assoc, assemble_tagsAll,
      List.nil_append, List.singleton_append, assemble, if_pos rfl]

theorem assemble_tagsAll (rest : List Tag) (frames : List Frame) (before : List Element) :
    ∀ es : List Element,
      assemble (Element.tagsAll es ++ rest) frames before = assemble rest frames (before ++ es)
  | [] => by rw [Element.tagsAll, List.nil_append, List.append_nil]
  | e :: es => by
    rw [Element.tagsAll, List.append_assoc, assemble_tags, assemble_tagsAll, List.append_assoc,
      List.singleton_append]

end

/-! ### What is taken -/

/-- From one mode a text takes the scanner to another and gives some tags. -/
def Takes (mode : Mode) (text : String) (tags : List Tag) (mode' : Mode) : Prop :=
  scan mode text.toList = some (tags, mode')

theorem scan_append (mode : Mode) (s t : List Char) :
    scan mode (s ++ t) = do
      let (first, mode) ← scan mode s
      let (rest, mode) ← scan mode t
      return (first ++ rest, mode) := by
  induction s generalizing mode with
  | nil =>
    simp only [List.nil_append, scan, Option.bind_eq_bind, Option.bind_some]
    cases scan mode t <;> rfl
  | cons c s ih => simp [scan, ih, Option.bind_assoc, List.append_assoc]

namespace Takes

variable {mode mode' mode'' : Mode} {s t : String} {first rest : List Tag}

theorem append (h : Takes mode s first mode') (h' : Takes mode' t rest mode'') :
    Takes mode (s ++ t) (first ++ rest) mode'' := by
  rw [Takes, String.toList_append, scan_append, h]
  simp only [Option.bind_eq_bind, Option.bind_some]
  rw [h']
  rfl

end Takes

/-- Characters that only add to what has been seen. -/
theorem scan_run {f : List Char → Mode} {p : Char → Prop}
    (hstep : ∀ seen c, p c → (f seen).step c = some ([], f (seen ++ [c]))) {s : List Char}
    (hs : ∀ c ∈ s, p c) (seen : List Char) : scan (f seen) s = some ([], f (seen ++ s)) := by
  induction s generalizing seen with
  | nil => rw [scan, List.append_nil]
  | cons c s ih =>
    rw [List.forall_mem_cons] at hs
    simp only [scan, hstep seen c hs.1, Option.bind_eq_bind, Option.bind_some, ih hs.2,
      List.append_assoc, List.singleton_append]
    rfl

/-! ### Names, values and blanks -/

/-- A name of a tag or an attribute. -/
def isName (s : String) : Bool := !s.toList.isEmpty && s.toList.all isNamePart

/-- A text that stands in quotes as it is. -/
def isPlain (s : String) : Bool := s.toList.all fun c => c != '"' && c != '&'

theorem scan_fixed {mode : Mode} {s : List Char} (h : ∀ c ∈ s, mode.step c = some ([], mode)) :
    scan mode s = some ([], mode) := by
  induction s with
  | nil => rfl
  | cons c s ih =>
    rw [List.forall_mem_cons] at h
    simp [scan, h.1, ih h.2]

theorem takes_pad {mode : Mode} (h : mode.step ' ' = some ([], mode)) (width : Nat) :
    Takes mode (pad width) [] mode := by
  rw [Takes, pad, String.toList_ofList]
  refine scan_fixed fun c hc => ?_
  rw [List.eq_of_mem_replicate hc, h]

/-- A name goes on with what begins it. -/
theorem takes_name {mode : Mode} {f : List Char → Mode}
    (hstart : ∀ c, isNamePart c → mode.step c = some ([], f [c]))
    (hstep : ∀ seen c, isNamePart c → (f seen).step c = some ([], f (seen ++ [c]))) {name : String}
    (h : isName name) : Takes mode name [] (f name.toList) := by
  rw [isName, Bool.and_eq_true, List.all_eq_true] at h
  rw [Takes]
  cases hname : name.toList with
  | nil => simp [hname] at h
  | cons c cs =>
    rw [hname, List.forall_mem_cons] at h
    simp only [scan, hstart c h.2.1, Option.bind_eq_bind, Option.bind_some,
      scan_run hstep h.2.2 [c], List.singleton_append]
    rfl

theorem takes_plain {text : String} (h : isPlain text) (head : Head) (key : String) :
    Takes (.value head key []) text [] (.value head key text.toList) := by
  rw [isPlain, List.all_eq_true] at h
  refine scan_run (f := Mode.value head key) (p := fun c => c ≠ '"' ∧ c ≠ '&')
    (fun seen c hc => ?_) (fun c hc => by simpa using h c hc) []
  simp [Mode.step, hc.1, hc.2]

/-- A reference is read as the character that it stands for. -/
theorem scan_reference (head : Head) (key : String) (seen entity : List Char) {d : Char}
    (hentity : ∀ c ∈ entity, c ≠ ';') (hd : referred? entity = some d) :
    scan (.value head key seen) ('&' :: (entity ++ [';'])) =
      some ([], .value head key (seen ++ [d])) := by
  have hinside : scan (.reference head key seen []) entity =
      some ([], .reference head key seen entity) :=
    scan_run (f := Mode.reference head key seen) (fun entity c hc => by simp [Mode.step, hc])
      hentity []
  simp [scan, scan_append, hinside, Mode.step, hd]

/-- One character of an attribute value is read back. -/
theorem scan_attributeChar (head : Head) (key : String) (seen : List Char) (c : Char) :
    scan (.value head key seen) (attributeChar c) = some ([], .value head key (seen ++ [c])) := by
  unfold attributeChar
  split_ifs with hand hquote hless
  · subst hand
    exact scan_reference head key seen ['a', 'm', 'p'] (by simp) rfl
  · subst hquote
    exact scan_reference head key seen ['q', 'u', 'o', 't'] (by simp) rfl
  · subst hless
    exact scan_reference head key seen ['l', 't'] (by simp) rfl
  · simp [scan, Mode.step, hand, hquote]

/-- An attribute value is read back, whatever its characters are. -/
theorem takes_attributeValue (head : Head) (key value : String) :
    Takes (.value head key []) (attributeValue value) [] (.value head key value.toList) := by
  have hchars : ∀ s seen : List Char, scan (.value head key seen) (s.flatMap attributeChar) =
      some ([], .value head key (seen ++ s)) := by
    intro s
    induction s with
    | nil => simp [scan]
    | cons c s ih =>
      intro seen
      rw [List.flatMap_cons, scan_append, scan_attributeChar]
      simp [ih]
  rw [Takes, attributeValue, String.toList_ofList]
  exact hchars value.toList []

end Widgetry.Document
