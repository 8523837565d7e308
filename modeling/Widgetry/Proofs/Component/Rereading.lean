import Widgetry.Proofs.Component.QuietTemplate

/-! Compiled components, read again. With a quiet registry only the quoted texts can bring a script
tag into a component, so that its script is found again exactly if none of them closes one. -/

namespace Widgetry

open Component Structure
open Program (withoutReturns)

variable {r : Registry}

/-! ### Imports -/

namespace Script

/-- No tag begins in the imports. -/
def State.PlainImports (u : State) : Prop := ∀ className ∈ u.imports, Plain className

theorem State.PlainImports.addImport {u : State} (hu : u.PlainImports) {className : String}
    (h : Plain className) : (u.addImport className).PlainImports := by
  unfold State.addImport
  split_ifs
  · exact hu
  · intro name hname
    rcases List.mem_append.1 hname with hname | hname
    · exact hu name hname
    · obtain rfl := List.mem_singleton.1 hname
      exact h

theorem plainImports_addMenu (hr : r.Spelled) {p : Place} {d : Record} {u u' : State}
    (hu : u.PlainImports) (h : addMenu r p d u = .ok u') : u'.PlainImports := by
  unfold addMenu at h
  obtain ⟨menu, -, h⟩ := bind_eq_ok.1 h
  cases h
  split
  · rename_i className hclass
    have hadded := hu.addImport (plain_of_isPath (hr.runtimeClass hclass))
    exact hadded
  · exact hu

theorem plainImports_enter (hr : r.Spelled) {p : Place} {u u' : State} (hu : u.PlainImports)
    (h : enter r p u = .ok u') : u'.PlainImports := by
  obtain ⟨m, hm, h⟩ := bind_eq_ok.1 h
  have hclass : Plain (m.runtimeClass.getD "") := by
    cases hname : m.runtimeClass with
    | none => decide
    | some name =>
      have hruntime : r.runtimeClass? p.kind = some name := by
        simp [Registry.runtimeClass?, Registry.require_eq_ok.1 hm, hname]
      exact plain_of_isPath (hr.runtimeClass hruntime)
  have hadded := hu.addImport hclass
  simp only at h
  split at h
  · cases h
    exact hu
  split at h
  · cases h
    exact hadded
  split at h
  · obtain ⟨d, -, h⟩ := bind_eq_ok.1 h
    cases h
    exact hadded
  obtain ⟨⟨name, namer⟩, -, h⟩ := bind_eq_ok.1 h
  obtain ⟨d, -, h⟩ := bind_eq_ok.1 h
  split at h
  · refine plainImports_addMenu hr ?_ h
    exact hadded
  · cases h
    exact hadded

theorem plainImports_ofTree (hr : r.Spelled) {t : Tree} {script : Script}
    (h : Script.ofTree r t = .ok script) :
    (∀ className ∈ script.imports, Plain className) ∧
      script.runtimePackage = r.runtimePackage := by
  obtain ⟨u, hwalk, h⟩ := bind_eq_ok.1 h
  cases h
  have hempty : State.PlainImports {} := by simp [State.PlainImports]
  have hleave : ∀ (p : Place) (u u' : State), u.PlainImports → leave r p u = .ok u' →
      u'.PlainImports := by
    intro p u u' hu h
    cases h
    exact hu
  exact ⟨(visitor r).walk_invariant (fun _ _ _ hu => plainImports_enter hr hu) hleave hempty hwalk,
    rfl⟩

/-- Behind plain names of classes only the name of the package could close a script. -/
theorem Parts.closesScript_importsCode {p : Parts} (h : ∀ className ∈ p.imports, Plain className)
    (hpackage : closesScript p.runtimePackage.toList = false) :
    closesScript p.importsCode.toList = false := by
  unfold importsCode
  split_ifs
  · rfl
  · have hnames : Carries (String.intercalate ",\n  " p.imports) [] := by
      have hplain := Carries.intercalate (show Plain ",\n  " by decide) fun name hname =>
        Carries.plain (h name hname)
      rwa [List.map_id', List.flatMap_eq_nil_iff.2 fun _ _ => rfl] at hplain
    have hfront := Carries.around (show Plain (r"import {" ++ "\n  ") by decide) hnames
      (show Plain ("\n" ++ r"} from '") by decide)
    rw [← String.append_assoc] at hfront
    rw [String.append_assoc, String.toList_append, hfront, String.toList_append]
    refine (closesScript_append_cons (by decide) p.runtimePackage.toList _).trans ?_
    rw [hpackage]
    rfl

end Script

/-! ### The script of a compiled component -/

namespace Component

/-- The stages that the compilation of a component has passed. -/
theorem compile_eq_some {o : Options} {source out : String}
    (h : compile o source = .ok (some out)) :
    ∃ template script container compiled, (sections source).template = some template ∧
      ScriptBlock.ofText (((sections source).script.map Block.text).getD defaultScript) =
        .ok script ∧
      Markup.read template.markup = .ok container ∧
      Widgetry.compile
        { o with hosted := some (o.hosted.getD script.outline.declaresExtends) } container =
        .ok compiled ∧
      out = assemble compiled.template (script.splice compiled.script.parts)
        ((sections source).styles.map Block.text) := by
  unfold compile at h
  cases htemplate : (sections source).template with
  | none => simp [htemplate] at h
  | some template =>
    simp only [htemplate] at h
    split at h
    · simp at h
    · obtain ⟨script, hscript, h⟩ := bind_eq_ok.1 h
      obtain ⟨compiled, hcompiled, h⟩ := bind_eq_ok.1 h
      obtain ⟨container, hcontainer, hcompiled⟩ := bind_eq_ok.1 hcompiled
      cases h
      exact ⟨template, script, container, compiled, rfl, hscript, hcontainer, hcompiled, rfl⟩

/-- The sections of a component around its script. -/
theorem toList_assemble (template script : String) (styles : List String) :
    ∃ behind, (assemble template script styles).toList =
      (template.toList ++ ['\n']) ++ (script.toList ++ behind) :=
  ⟨'\n' :: (String.intercalate "\n" styles ++ "\n").toList, by simp [assemble]⟩

theorem opens_feed (s : List Char) : opens scriptTag (s ++ ['\n']) = opens scriptTag s := by
  have haside : Aside scriptTag ['\n'] := aside_cons.2 (by decide +kernel)
  have hfeed : opens scriptTag ['\n'] = false := by decide +kernel
  rw [opens_aside haside, hfeed, Bool.or_false]

/-- With a quiet registry the generated code closes a script exactly if a text does that is read for
one of the records. -/
theorem closesScript_compiled {o : Options} {container : Markup.Element} {compiled : Compiled}
    (h : Widgetry.compile o container = .ok compiled) :
    ∃ r t, o.checkedRegistry = .ok r ∧ Tree.ofContainer container (o.hosted.getD false) = .ok t ∧
      (r.Quiet → Silent compiled.template ∧
        closesScript compiled.script.parts.importsCode.toList = false ∧
        closesScript compiled.script.parts.mixinCode.toList =
          ((t.rootPlace.recorded r).flatMap r.readTexts).any closesQuoted) := by
  obtain ⟨r, t, hr, ht, haccepted, htemplate, hscript⟩ := compile_eq_ok h
  refine ⟨r, t, hr, ht, fun hquiet => ⟨Template.silent_template hquiet htemplate, ?_, ?_⟩⟩
  · obtain ⟨hplain, hpackage⟩ := Script.plainImports_ofTree hquiet.toSpelled hscript
    refine Script.Parts.closesScript_importsCode hplain ?_
    rw [show compiled.script.parts.runtimePackage = r.runtimePackage from hpackage]
    exact hquiet.package
  · obtain ⟨hspelled, htexts⟩ := Script.spelled_ofTree (Template.check_of_checkedRegistry hr)
      hquiet.toSpelled haccepted hscript
    rw [closesScript_mixinCode hspelled, htexts]

/-- Read again, a compiled component has the spliced script at its place exactly if its template
opens no script and its generated code closes none. With a quiet registry the text of its first
script is the spliced text exactly if no text that is quoted for a record closes a script. -/
theorem script_recovered_iff {o : Options} {source out : String}
    (h : compile o source = .ok (some out)) :
    ∃ template script container compiled r t, (sections source).template = some template ∧
      ScriptBlock.ofText (((sections source).script.map Block.text).getD defaultScript) =
        .ok script ∧
      Markup.read template.markup = .ok container ∧ o.checkedRegistry = .ok r ∧
      Tree.ofContainer container (o.hosted.getD script.outline.declaresExtends) = .ok t ∧
      Widgetry.compile
        { o with hosted := some (o.hosted.getD script.outline.declaresExtends) } container =
        .ok compiled ∧
      out = assemble compiled.template (script.splice compiled.script.parts)
        ((sections source).styles.map Block.text) ∧
      ((sections out).script =
          some (script.spliced compiled.script.parts (compiled.template.length + 1)) ↔
        opens scriptTag compiled.template.toList = false ∧
          closesScript compiled.script.parts.importsCode.toList = false ∧
          closesScript compiled.script.parts.mixinCode.toList = false) ∧
      (r.Quiet → ((sections out).script.map Block.text =
          some (script.splice compiled.script.parts) ↔
        ∀ value ∈ (t.rootPlace.recorded r).flatMap r.readTexts,
          closesScript (withoutReturns value).toList = false)) := by
  obtain ⟨template, script, container, compiled, htemplate, hscript, hcontainer, hcompiled, rfl⟩ :=
    compile_eq_some h
  obtain ⟨r, t, hr, ht, hquoted⟩ := closesScript_compiled hcompiled
  obtain ⟨behind, hsource⟩ := toList_assemble compiled.template
    (script.splice compiled.script.parts) ((sections source).styles.map Block.text)
  have hwhole := ScriptBlock.whole_of_ofText hscript
  have hlength : (compiled.template.toList ++ ['\n']).length = compiled.template.length + 1 := by
    rw [List.length_append, String.length_toList]
    rfl
  have hfound := ScriptBlock.scriptBlock?_eq_spliced_iff compiled.script.parts hwhole hsource
  rw [hlength, opens_feed] at hfound
  refine ⟨template, script, container, compiled, r, t, htemplate, hscript, hcontainer, hr, ht,
    hcompiled, rfl, hfound, fun hquiet => ?_⟩
  obtain ⟨hopens, himports, hmixin⟩ := hquoted hquiet
  have htext := ScriptBlock.text_scriptBlock?_iff compiled.script.parts hwhole hsource
    ((opens_feed _).trans hopens)
  rw [hlength] at htext
  refine htext.trans (hfound.trans ?_)
  generalize (t.rootPlace.recorded r).flatMap r.readTexts = values at hmixin ⊢
  rw [hmixin, List.any_eq_false]
  constructor
  · intro hclosed value hvalue
    simpa [closesQuoted] using hclosed.2.2 value hvalue
  · intro hclosed
    exact ⟨hopens, himports, fun value hvalue => by simpa [closesQuoted] using hclosed value hvalue⟩

/-- A component with a window whose title closes a script. -/
def closingWindow : String :=
  "<template lang='blui'><Window type='A' title='</script>'/></template>" ++
    "<script>export default {}</script>"

/-- Read again, its script ends in the title. -/
theorem closingWindow_cut :
    ∃ (out : String) (template : TemplateSection) (script : ScriptBlock)
      (container : Markup.Element) (compiled : Compiled),
      compile ⟨some false, none, false⟩ closingWindow = .ok (some out) ∧
      (sections closingWindow).template = some template ∧
      ScriptBlock.ofText
        (((sections closingWindow).script.map Block.text).getD defaultScript) = .ok script ∧
      Markup.read template.markup = .ok container ∧
      Widgetry.compile ⟨some false, none, false⟩ container = .ok compiled ∧
      out = assemble compiled.template (script.splice compiled.script.parts)
        ((sections closingWindow).styles.map Block.text) ∧
      (sections out).script.map Block.text ≠ some (script.splice compiled.script.parts) := by
  have hok : (compile ⟨some false, none, false⟩ closingWindow).toOption.join.isSome := by
    decide +kernel
  have hvalues : ((sections closingWindow).template.bind fun template =>
      (Markup.read template.markup).toOption.bind fun container =>
        (Tree.ofContainer container false).toOption.map fun t =>
          (t.rootPlace.recorded .builtin).flatMap Registry.builtin.readTexts) =
      some ["</script>"] := by
    decide +kernel
  obtain ⟨out, hout⟩ := Option.isSome_iff_exists.1 hok
  have hcompile := toOption_eq_some.1 (Option.join_eq_some_iff.1 hout)
  obtain ⟨template, script, container, compiled, r, t, htemplate, hscript, hcontainer, hr, ht,
    hcompiled, hassemble, -, hrecovered⟩ := script_recovered_iff hcompile
  cases hr
  simp only [Option.getD_some] at ht hcompiled
  simp only [htemplate, hcontainer, ht, Except.toOption, Option.bind_some, Option.map_some,
    Option.some.injEq] at hvalues
  refine ⟨out, template, script, container, compiled, hcompile, htemplate, hscript, hcontainer,
    hcompiled, hassemble, fun htext => ?_⟩
  have hvalue := (hrecovered Registry.quiet_builtin).1 htext "</script>" (by simp [hvalues])
  exact absurd hvalue (by decide +kernel)

end Component

end Widgetry
