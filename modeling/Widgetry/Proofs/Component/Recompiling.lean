import Widgetry.Proofs.Component.Assembling
import Widgetry.Proofs.Component.Rereading

/-! Compiled components, compiled again. A compiled component begins with a template that declares
no language, and this template is closed somewhere. So it is the template that is found, whatever
tags the texts behind it hold and wherever its end is taken to be, and no compiler takes it up. -/

namespace Widgetry

open Component

/-! ### Plain templates at the head of a text -/

namespace Component

/-- A word that stands in a text stands in it a last time. -/
theorem exists_last_of_infix {word : List Char} (hword : word ≠ []) {s : List Char}
    (h : word <:+: s) : ∃ u v, s = u ++ (word ++ v) ∧ ¬ word <:+: v := by
  induction s with
  | nil => exact absurd (List.infix_nil.1 h) hword
  | cons c s ih =>
    by_cases hlater : word <:+: s
    · obtain ⟨u, v, rfl, hv⟩ := ih hlater
      exact ⟨c :: u, v, rfl, hv⟩
    · obtain ⟨v, hv⟩ := (List.infix_cons_iff.1 h).resolve_right hlater
      refine ⟨[], v, hv.symm, fun hinfix => hlater ?_⟩
      obtain ⟨a, w, rfl⟩ := List.exists_cons_of_ne_nil hword
      obtain ⟨-, rfl⟩ := List.cons.inj hv
      exact hinfix.trans (List.suffix_append w v).isInfix

/-- A template without attributes at the head of a source is the template of the source, whichever
closing tag comes last and ends it. -/
theorem template_of_plain {source : String} {s : List Char}
    (hsource : source.toList = '<' :: (templateTag ++ '>' :: s))
    (hclosed : closingTag templateTag <:+: s) :
    ∃ markup, (sections source).template = some ⟨0, "", markup⟩ := by
  obtain ⟨body, behind, rfl, hlast⟩ := exists_last_of_infix closingTag_ne_nil hclosed
  let template : Piece := ⟨[], body, []⟩
  have hplain : template.Tagged := ⟨by simp [template], by simp [template]⟩
  have htext : source.toList = template.element templateTag ++ behind := by
    simp [hsource, template, Piece.element]
  refine ⟨String.ofList (template.element templateTag), ?_⟩
  show templateFrom? 0 source.toList = _
  rw [htext, templateFrom?_element hplain hlast]
  rfl

/-- A source whose template declares another language is passed over under all options. -/
theorem compile_eq_none {source : String} {template : TemplateSection}
    (htemplate : (sections source).template = some template)
    (hlanguage : isCompiledTemplate template.attributes = false) (o : Options) :
    compile o source = .ok none := by
  simp [compile, htemplate, hlanguage]

end Component

/-! ### Compiled components -/

/-- A written template is an element without attributes. -/
theorem Template.toList_template {r : Registry} {t : Tree} {withBanner : Bool} {text : String}
    (h : template r t withBanner = .ok text) :
    ∃ inner, text.toList =
      '<' :: (templateTag ++ '>' :: (inner ++ (closingTag templateTag ++ ['\n']))) := by
  obtain ⟨body, -, h⟩ := bind_eq_ok.1 h
  cases h
  refine ⟨'\n' :: ((if withBanner then "  " ++ banner ++ "\n" else "") ++ body).toList, ?_⟩
  have hopening : "<template>\n".toList = '<' :: (templateTag ++ ['>', '\n']) := by decide
  have hclosing : "</template>\n".toList = closingTag templateTag ++ ['\n'] := by decide
  simp [document, hopening, hclosing]

namespace Component

/-- A compiled component begins with its template, and this template declares no language. So the
component is not compiled again, whatever the options and the texts that it has been given. -/
theorem compile_of_compiled {o : Options} {source out : String}
    (h : compile o source = .ok (some out)) :
    (∃ markup, (sections out).template = some ⟨0, "", markup⟩) ∧
      ∀ o', compile o' out = .ok none := by
  obtain ⟨_, script, _, compiled, -, -, -, hcompiled, rfl⟩ := compile_eq_some h
  obtain ⟨r, t, -, -, -, htemplate, -⟩ := compile_eq_ok hcompiled
  obtain ⟨inner, hinner⟩ := Template.toList_template htemplate
  obtain ⟨behind, hout⟩ := toList_assemble compiled.template
    (script.splice compiled.script.parts) ((sections source).styles.map Block.text)
  -- the script and the styles are any text behind the first closing tag
  generalize hrest : '\n' :: '\n' :: ((script.splice compiled.script.parts).toList ++ behind) = rest
  have hplain : (assemble compiled.template (script.splice compiled.script.parts)
      ((sections source).styles.map Block.text)).toList =
      '<' :: (templateTag ++ '>' :: (inner ++ (closingTag templateTag ++ rest))) := by
    simp [hout, hinner, ← hrest]
  obtain ⟨markup, hmarkup⟩ := template_of_plain hplain ⟨inner, rest, by simp⟩
  exact ⟨⟨markup, hmarkup⟩, compile_eq_none hmarkup rfl⟩

/-- A component whose title and script open templates to be compiled, and whose style closes one. -/
def temptingWindow : String :=
  "<style>/*</template>*/</style>" ++
    "<template lang='blui'><Window type='A' title='<template lang=\"blui\">'/></template>" ++
    "<script>export default {} // <template lang='blui'></script>"

theorem temptingWindow_passedOver :
    ∃ out, compile ⟨some false, none, false⟩ temptingWindow = .ok (some out) ∧
      (sections out).template.map TemplateSection.attributes = some "" ∧
      ∀ o, compile o out = .ok none := by
  have hok : (compile ⟨some false, none, false⟩ temptingWindow).toOption.join.isSome := by
    decide +kernel
  obtain ⟨out, hout⟩ := Option.isSome_iff_exists.1 hok
  have hcompile := toOption_eq_some.1 (Option.join_eq_some_iff.1 hout)
  obtain ⟨⟨markup, hmarkup⟩, hpassed⟩ := compile_of_compiled hcompile
  exact ⟨out, hcompile, by rw [hmarkup]; rfl, hpassed⟩

end Component

end Widgetry
