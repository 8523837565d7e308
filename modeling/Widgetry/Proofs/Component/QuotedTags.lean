import Widgetry.Proofs.Component.Recovery
import Widgetry.Proofs.ScriptText

/-! Closing tags in generated code. No name of a script holds a `<`, and the quotes of a literal are
part of no tag, so that a mixin closes a script exactly if one of the texts that it quotes does. -/

namespace Widgetry.Component

open Text (fold pad literal literalChar escapedChars literalChar_cases)
open Program (isPath withoutReturns)

/-! ### Plain texts -/

/-- No tag begins in the text. -/
def Plain (s : String) : Prop := '<' ∉ s.toList

instance (s : String) : Decidable (Plain s) := inferInstanceAs (Decidable ('<' ∉ s.toList))

@[simp] theorem plain_append {s t : String} : Plain (s ++ t) ↔ Plain s ∧ Plain t := by
  simp [Plain]

@[simp] theorem plain_pad (width : Nat) : Plain (pad width) := by simp [Plain, pad]

theorem plain_of_isPath {path : String} (h : isPath path) : Plain path := fun hmem =>
  absurd (isIdentifierPart_or_dot h hmem) (by decide)

theorem plain_of_isIdentifier {name : String} (h : Text.isIdentifier name) : Plain name :=
  plain_of_isPath (Program.isPath_identifier h)

/-! ### Literals -/

/-- The text closes a script as it stands in a literal, without its carriage returns. -/
def closesQuoted (value : String) : Bool := closesScript (withoutReturns value).toList

/-- A word without escaped characters stands at the head of a literal where it stands at the head of
the text. -/
theorem standsAt_literal {word : List Char} (hword : ∀ c ∈ escapedChars, Foreign word c)
    (s : List Char) :
    standsAt word (s.flatMap literalChar) = standsAt word (s.filter (· ≠ '\r')) := by
  induction s generalizing word with
  | nil => rfl
  | cons c s ih =>
    cases word with
    | nil => rfl
    | cons w word =>
      have hw : ∀ c ∈ escapedChars, fold c ≠ fold w := fun c hc =>
        hword c hc w List.mem_cons_self
      rw [List.flatMap_cons]
      rcases literalChar_cases c with ⟨rfl, hchar⟩ | ⟨hreturn, hchar⟩
      · rw [hchar]
        exact ih hword
      · rw [List.filter_cons_of_pos (by simpa using hreturn), standsAt_cons]
        rcases hchar with ⟨hc, d, -, hchar⟩ | ⟨-, hchar⟩
        · rw [hchar, List.cons_append, standsAt_cons, decide_eq_false (hw c hc),
            decide_eq_false (hw '\\' (by decide))]
          rfl
        · rw [hchar, List.singleton_append, standsAt_cons,
            ih fun c hc x hx => hword c hc x (List.mem_cons_of_mem w hx)]

/-- Escaping neither makes nor breaks a closing tag. -/
theorem closesScript_literal (s : List Char) :
    closesScript (s.flatMap literalChar) = closesScript (s.filter (· ≠ '\r')) := by
  have hescaped : ∀ c ∈ escapedChars, Foreign (closingTag scriptTag) c := by
    simp only [escapedChars, List.forall_mem_cons]
    exact ⟨by decide, by decide, by decide, by simp⟩
  induction s with
  | nil => rfl
  | cons c s ih =>
    have hstands := standsAt_literal hescaped (c :: s)
    rw [List.flatMap_cons] at hstands ⊢
    rcases literalChar_cases c with ⟨rfl, hchar⟩ | ⟨hreturn, hchar⟩
    · rw [hchar]
      exact ih
    · rw [List.filter_cons_of_pos (by simpa using hreturn)] at hstands ⊢
      rcases hchar with ⟨hc, d, hd, hchar⟩ | ⟨-, hchar⟩
      · have hless : c ≠ '<' := fun h => absurd (h ▸ hc) (by decide)
        have hletter : d ≠ '<' := fun h => absurd (h ▸ hd) (by decide)
        rw [hchar, List.cons_append, List.singleton_append, closesScript_cons (by decide),
          closesScript_cons hletter, closesScript_cons hless, ih]
      · rw [hchar, List.singleton_append] at hstands ⊢
        unfold closesScript at ih ⊢
        rw [holds_cons, holds_cons, hstands, ih]

/-! ### Indentation -/

theorem headD_or_any_tail (ls : List (List Char)) :
    (closesScript (ls.headD []) || ls.tail.any closesScript) = ls.any closesScript := by
  cases ls with
  | nil => rfl
  | cons l ls => rfl

/-- Line ends are part of no tag, so that lines can be looked at one by one. `u` is what stands in
front of the first line. -/
theorem closesScript_append_lines (u cs : List Char) :
    closesScript (u ++ cs) =
      (closesScript (u ++ (Text.lines cs).headD []) || (Text.lines cs).tail.any closesScript) := by
  fun_induction Text.lines cs generalizing u with
  | case1 => simp
  | case2 cs ih =>
    have hrest := ih []
    rw [List.nil_append, List.nil_append, headD_or_any_tail] at hrest
    rw [closesScript_append_cons (by decide), hrest]
    simp
  | case3 cs ih =>
    have hrest := ih []
    rw [List.nil_append, List.nil_append, headD_or_any_tail] at hrest
    rw [closesScript_append_cons (by decide), closesScript_cons (by decide), hrest]
    simp
  | case4 c cs _ _ hlines ih =>
    have hrest := ih (u ++ [c])
    simpa [hlines] using hrest
  | case5 c cs _ _ l ls hlines ih =>
    have hrest := ih (u ++ [c])
    simpa [hlines] using hrest

theorem any_lines (cs : List Char) : (Text.lines cs).any closesScript = closesScript cs := by
  have hlines := closesScript_append_lines [] cs
  rw [List.nil_append, List.nil_append, headD_or_any_tail] at hlines
  exact hlines.symm

theorem closesScript_indented (width : Nat) (ls : List (List Char)) (rest : List Char) :
    closesScript (Program.indented width ls ++ rest) =
      (ls.any closesScript || closesScript rest) := by
  induction ls with
  | nil => rfl
  | cons l ls ih =>
    cases l with
    | nil => exact ih
    | cons c l =>
      have hblank : '<' ∉ List.replicate width ' ' := by simp
      have htext : Program.indented width ((c :: l) :: ls) ++ rest =
          List.replicate width ' ' ++ (c :: l ++ '\n' :: (Program.indented width ls ++ rest)) := by
        simp [Program.indented]
      rw [htext, closesScript_append hblank, closesScript_append_cons (by decide), ih,
        List.any_cons, Bool.or_assoc]

/-! ### Code with values -/

/-- Whatever stands behind the code, it adds a closing tag exactly if one of the values does. -/
def Carries (code : String) (values : List String) : Prop :=
  ∀ rest, closesScript (code.toList ++ rest) = (values.any closesQuoted || closesScript rest)

namespace Carries

theorem plain {code : String} (h : Plain code) : Carries code [] := fun rest =>
  closesScript_append h rest

theorem append {code more : String} {values others : List String} (h : Carries code values)
    (h' : Carries more others) : Carries (code ++ more) (values ++ others) := by
  intro rest
  rw [String.toList_append, List.append_assoc, h, h', List.any_append, Bool.or_assoc]

theorem quoted (value : String) : Carries (literal value) [value] := by
  intro rest
  have htext : (literal value).toList ++ rest =
      '\'' :: (value.toList.flatMap literalChar ++ '\'' :: rest) := by
    simp [literal, Text.literalChars]
  rw [htext, closesScript_cons (by decide), closesScript_append_cons (by decide),
    closesScript_literal]
  simp [closesQuoted, withoutReturns]

theorem join {α : Type} {xs : List α} {code : α → String} {values : α → List String}
    (h : ∀ x ∈ xs, Carries (code x) (values x)) :
    Carries (String.join (xs.map code)) (xs.flatMap values) := by
  induction xs with
  | nil => exact plain (by simp [Plain])
  | cons x xs ih =>
    rw [List.forall_mem_cons] at h
    rw [List.map_cons, String.join_cons, List.flatMap_cons]
    exact h.1.append (ih h.2)

theorem intercalate {α : Type} {between : String} (hbetween : Plain between) {xs : List α}
    {code : α → String} {values : α → List String} (h : ∀ x ∈ xs, Carries (code x) (values x)) :
    Carries (between.intercalate (xs.map code)) (xs.flatMap values) := by
  induction xs with
  | nil => exact plain (by simp [Plain])
  | cons x xs ih =>
    rw [List.forall_mem_cons] at h
    cases xs with
    | nil => simpa using h.1
    | cons y ys => simpa using (h.1.append (plain hbetween)).append (ih h.2)

/-- Code between plain texts. -/
theorem around {front code back : String} {values : List String} (hfront : Plain front)
    (h : Carries code values) (hback : Plain back) : Carries (front ++ code ++ back) values := by
  simpa using ((plain hfront).append h).append (plain hback)

theorem indent {code : String} {values : List String} (h : Carries code values) (width : Nat) :
    Carries (Text.indentLines width code) values := by
  intro rest
  have hcode : closesScript code.toList = values.any closesQuoted := by
    simpa [closesScript_eq_false] using h []
  rw [Program.toList_indentLines, closesScript_indented, any_lines, hcode]

end Carries

/-! ### Statements -/

section Statements

variable {name className : String}

theorem carries_argument {a : Script.Argument} (h : a.Spelled) :
    Carries a.code a.text?.toList := by
  cases a with
  | constant space member => exact .plain (plain_of_isPath h)
  | text value => exact .quoted value

theorem carries_creation (hclass : isPath className) {as : List Script.Argument}
    (h : ∀ a ∈ as, a.Spelled) :
    Carries (Script.creation className (as.map Script.Argument.code))
      (as.filterMap Script.Argument.text?) := by
  have hfront : Plain ("new " ++ className ++ "(") := by
    simpa [plain_of_isPath hclass] using (by decide)
  have hargs := Carries.intercalate (show Plain ", " by decide) fun a ha =>
    carries_argument (h a ha)
  rw [List.filterMap_eq_flatMap_toList]
  exact .around hfront hargs (by decide)

theorem carries_construct (hname : Text.isIdentifier name) (hclass : isPath className)
    {as : List Script.Argument} (h : ∀ a ∈ as, a.Spelled) :
    Carries (Script.construct name className (as.map Script.Argument.code))
      (as.filterMap Script.Argument.text?) := by
  have hfront : Plain ("this." ++ name ++ " = ") := by
    simpa [plain_of_isIdentifier hname] using (by decide)
  exact .around hfront (carries_creation hclass h) (by decide)

theorem carries_declare (hname : Plain name) (hclass : isPath className)
    {as : List Script.Argument} (h : ∀ a ∈ as, a.Spelled) :
    Carries (Script.declare name className (as.map Script.Argument.code))
      (as.filterMap Script.Argument.text?) := by
  have hfront : Plain ("let " ++ name ++ " = ") := by
    simpa [hname] using (by decide)
  exact .around hfront (carries_creation hclass h) (by decide)

theorem carries_assign (hname : Text.isIdentifier name) {key : String} (hkey : isPath key)
    {a : Script.Argument} (h : a.Spelled) :
    Carries (Script.assign name key a.code) a.text?.toList := by
  have hfront : Plain ("this." ++ name ++ "." ++ key ++ " = ") := by
    simpa [plain_of_isIdentifier hname, plain_of_isPath hkey] using (by decide)
  exact .around hfront (carries_argument h) (by decide)

/-- A line of a menu program carries its title. -/
theorem carries_line {line : Menu.Line} (h : line.Spelled) :
    Carries line.text line.title?.toList := by
  cases line with
  | openBlock indent => exact .plain (by simpa [Menu.Line.text] using (by decide))
  | letSubmenu indent className space constant title =>
    have hspelled : ∀ a ∈ [Script.Argument.constant space constant, .text title], a.Spelled := by
      simpa [Script.Argument.Spelled] using h.2
    have hdeclare := carries_declare (show Plain Menu.submenuVariable by decide) h.1 hspelled
    exact (Carries.plain (plain_pad indent)).append hdeclare
  | letItem indent className title =>
    have hspelled : ∀ a ∈ [Script.Argument.text title], a.Spelled := by
      simp [Script.Argument.Spelled]
    have hdeclare := carries_declare (show Plain Menu.itemVariable by decide) h hspelled
    exact (Carries.plain (plain_pad indent)).append hdeclare
  | push indent root field =>
    have htarget : Plain (Menu.pushTarget root) := by
      cases root with
      | none => decide
      | some root => simpa [Menu.pushTarget, plain_of_isIdentifier h.1] using (by decide)
    exact .plain (by simpa [Menu.Line.text, htarget, plain_of_isPath h.2] using (by decide))
  | attach indent field =>
    exact .plain (by simpa [Menu.Line.text, plain_of_isPath h] using (by decide))
  | closeBlock indent => exact .plain (by simpa [Menu.Line.text] using (by decide))

end Statements

/-! ### Records and the mixin -/

theorem carries_record {d : Script.Record} (h : d.Spelled) : Carries d.code d.texts := by
  have hcomment : Plain ("// Init " ++ d.name ++ ": " ++ d.className ++ ".\n") := by
    simpa [plain_of_isIdentifier h.name, plain_of_isPath h.className] using (by decide)
  have hconstruct : Carries (d.construction.elim "" fun as =>
      Script.construct d.name d.className (as.map Script.Argument.code))
      ((d.construction.getD []).filterMap Script.Argument.text?) := by
    have hconstruction := h.construction
    cases hd : d.construction with
    | none => exact .plain (show Plain "" by decide)
    | some arguments =>
      rw [hd] at hconstruction
      exact carries_construct h.name h.className hconstruction
  have hassign : Carries (String.join (d.assignments.map fun x =>
      Script.assign d.name x.1 x.2.code)) (d.assignments.filterMap (·.2.text?)) := by
    rw [List.filterMap_eq_flatMap_toList]
    exact .join fun x hx => carries_assign h.name (h.assignments x hx).1 (h.assignments x hx).2
  have hmenu : Carries (Menu.render d.menu) (d.menu.filterMap Menu.Line.title?) := by
    rw [List.filterMap_eq_flatMap_toList]
    exact .join fun line hline => carries_line (h.lines line hline)
  rw [Script.Record.code_eq]
  exact (((Carries.plain hcomment).append hconstruct).append hassign).append hmenu

theorem carries_dataCode {p : Script.Parts} (h : ∀ field ∈ p.dataFields, Text.isIdentifier field) :
    Carries p.dataCode [] := by
  have hfields : Carries
      (String.join (p.dataFields.map fun field => "    " ++ field ++ ": null,\n")) [] := by
    have hjoin := Carries.join fun field hfield =>
      Carries.around (show Plain "    " by decide)
        (.plain (plain_of_isIdentifier (h field hfield))) (show Plain ": null,\n" by decide)
    rwa [List.flatMap_eq_nil_iff.2 fun _ _ => rfl] at hjoin
  rw [Script.Parts.dataCode, String.append_assoc, String.append_assoc, String.append_assoc]
  exact .around (by decide) hfields (by decide)

theorem carries_createdCode {script : Script} (h : ∀ d ∈ script.records, d.Spelled) :
    Carries script.parts.createdCode (script.records.flatMap Script.Record.texts) := by
  have hrecords := Carries.intercalate (show Plain "\n" by decide) fun d hd =>
    (carries_record (h d hd)).indent 2
  rw [Script.Parts.createdCode, String.append_assoc, script.map_indentLines]
  exact .around (by decide) hrecords (by decide)

/-- The mixin closes a script exactly if a text does that it quotes. -/
theorem closesScript_mixinCode {script : Script} (h : ∀ d ∈ script.records, d.Spelled) :
    closesScript script.parts.mixinCode.toList =
      (script.records.flatMap Script.Record.texts).any closesQuoted := by
  have hdata := carries_dataCode (Script.isIdentifier_dataFields h)
  have hopened : Carries (r"{" ++ "\n" ++ script.parts.dataCode) [] :=
    (Carries.plain (by decide)).append hdata
  have hmixin : Carries script.parts.mixinCode
      ([] ++ script.records.flatMap Script.Record.texts ++ []) :=
    (hopened.append (carries_createdCode h)).append (.plain (by decide))
  simpa [closesScript_eq_false] using hmixin []

end Widgetry.Component
