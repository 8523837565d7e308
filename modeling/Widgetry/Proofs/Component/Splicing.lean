import Widgetry.Proofs.Component.Recovery
import Widgetry.Proofs.Walk

/-! Generated code in the author's script. The block that a source gives is read again piece by
piece as it is. If the places of its default export are right, the mixin becomes the first of the
exported object, and all that the author wrote is still there, around what was put in. -/

namespace Widgetry

open Source (skipTrivia)

/-! ### Right places -/

/-- Nothing but space and comments stands in the text in front of a closing bracket. -/
def Hollow (s : List Char) : Prop :=
  (skipTrivia .space false (s ++ [']'])).map Prod.snd = some [']']

instance (s : List Char) : Decidable (Hollow s) :=
  inferInstanceAs (Decidable ((skipTrivia .space false (s ++ [']'])).map Prod.snd = some [']']))

/-- The span reaches from the opening bracket of an array to behind its closing bracket, and the
array is hollow if it is said to be empty. -/
structure Source.ArraySpan.Fits (span : Source.ArraySpan) (text : List Char) : Prop where
  opening : text[span.start]? = some '['
  closing : text[span.stop - 1]? = some ']'
  opens_first : span.start + 1 < span.stop
  hollow : span.empty → Hollow ((text.take (span.stop - 1)).drop (span.start + 1))

namespace Component

/-- The places of the default export are those of its brace and of its mixins. -/
structure Outline.Fits (o : Outline) (text : List Char) : Prop where
  object : text[o.objectStart]? = some '{'
  mixins : ∀ span ∈ o.mixins, span.Fits text

theorem exists_cut_of_getElem? {text : List Char} {n : Nat} {c : Char} (h : text[n]? = some c) :
    ∃ front behind, text = front ++ c :: behind ∧ front.length = n := by
  obtain ⟨hn, rfl⟩ := List.getElem?_eq_some_iff.1 h
  refine ⟨text.take n, text.drop (n + 1), ?_, List.length_take_of_le hn.le⟩
  rw [← List.drop_eq_getElem_cons, List.take_append_drop]

/-- A span that fits cuts a text into the array and what stands around it. -/
theorem exists_cut_of_fits {span : Source.ArraySpan} {text : List Char} (h : span.Fits text) :
    ∃ front inside behind, text = front ++ '[' :: (inside ++ ']' :: behind) ∧
      front.length = span.start ∧ front.length + inside.length + 2 = span.stop ∧
      (span.empty → Hollow inside) := by
  obtain ⟨upto, behind, rfl, hupto⟩ := exists_cut_of_getElem? h.closing
  have hlt : span.start < upto.length := by
    have hfirst := h.opens_first
    omega
  have hopening := h.opening
  rw [List.getElem?_append_left hlt] at hopening
  obtain ⟨front, inside, rfl, hfront⟩ := exists_cut_of_getElem? hopening
  refine ⟨front, inside, behind, by simp, hfront, ?_, fun hempty => ?_⟩
  · have hfirst := h.opens_first
    simp only [List.length_append, List.length_cons] at hupto
    omega
  · have hhollow := h.hollow hempty
    rw [← hupto, List.take_left, ← hfront, ← List.drop_drop, List.drop_left] at hhollow
    exact hhollow

/-! ### Edits -/

/-- A change of a text: what stands in front, what is taken out, what is put in, and what stands
behind. -/
structure Edit where
  front : List Char
  gone : List Char
  code : List Char
  behind : List Char

namespace Edit

/-- The text as it was. -/
def before (e : Edit) : List Char := e.front ++ e.gone ++ e.behind

/-- The text as it is changed. -/
def after (e : Edit) : List Char := e.front ++ e.code ++ e.behind

/-- The edit makes a mixin the first one of the default export. -/
inductive PutsFirst (o : Outline) (mixin : List Char) : Edit → Prop
  /-- An empty array gives way to one with the mixin. -/
  | alone {span : Source.ArraySpan} {front inside behind : List Char} :
      o.mixins = some span → span.empty → front.length = span.start →
      front.length + inside.length + 2 = span.stop → Hollow inside →
      PutsFirst o mixin
        ⟨front, '[' :: (inside ++ [']']), '[' :: (mixin ++ [']']), behind⟩
  /-- The mixin goes between the opening bracket and all that stands in the array. -/
  | ahead {span : Source.ArraySpan} {front inside behind : List Char} :
      o.mixins = some span → span.empty = false → front.length = span.start →
      front.length + inside.length + 2 = span.stop →
      PutsFirst o mixin ⟨front ++ ['['], [], mixin ++ [',', ' '], inside ++ ']' :: behind⟩
  /-- A new array goes between the opening brace and all that stands in the object. -/
  | added {front behind : List Char} :
      o.mixins = none → front.length = o.objectStart →
      PutsFirst o mixin
        ⟨front ++ ['{'], [], "\n  mixins: [".toList ++ mixin ++ [']', ','], behind⟩

end Edit

namespace ScriptBlock

variable {s : ScriptBlock} {mixin : List Char}

theorem splicedBody_eq_after {e : Edit} (hbody : s.block.body = e.before)
    (hgap : s.gap = (e.front.length, e.front.length + e.gone.length))
    (hcode : s.insertion mixin = e.code) : s.splicedBody mixin = e.after := by
  have hfront : e.before.take e.front.length = e.front := by
    rw [Edit.before, List.append_assoc, List.take_left]
  have hbehind : e.before.drop (e.front.length + e.gone.length) = e.behind := by
    rw [Edit.before, ← List.length_append, List.drop_left]
  rw [splicedBody, hgap, hcode, hbody, hfront, hbehind, Edit.after]

/-- Where the places are right, a mixin is put in by an edit of the body. -/
theorem exists_edit (h : s.outline.Fits s.block.body) (mixin : List Char) :
    ∃ e : Edit, e.PutsFirst s.outline mixin ∧ s.block.body = e.before ∧
      s.splicedBody mixin = e.after := by
  -- which edit it is depends on the array of mixins as `gap` and `insertion` do
  cases hmixins : s.outline.mixins with
  | none =>
    obtain ⟨front, behind, hbody, hfront⟩ := exists_cut_of_getElem? h.object
    have hputs := @Edit.PutsFirst.added s.outline mixin front behind hmixins hfront
    have hbefore : s.block.body = front ++ ['{'] ++ [] ++ behind := by simp [hbody]
    exact ⟨_, hputs, hbefore, splicedBody_eq_after hbefore (by simp [gap, hmixins, hfront])
      (by simp only [insertion, hmixins])⟩
  | some span =>
    obtain ⟨front, inside, behind, hbody, hstart, hstop, hhollow⟩ :=
      exists_cut_of_fits (h.mixins span hmixins)
    cases hempty : span.empty with
    | true =>
      have hputs := @Edit.PutsFirst.alone s.outline mixin span front inside behind hmixins hempty
        hstart hstop (hhollow hempty)
      have hbefore : s.block.body = front ++ '[' :: (inside ++ [']']) ++ behind := by simp [hbody]
      have hgap : span.stop = front.length + ('[' :: (inside ++ [']'])).length := by
        simp only [List.length_cons, List.length_append, List.length_nil]
        omega
      exact ⟨_, hputs, hbefore, splicedBody_eq_after hbefore
        (by simp [gap, hmixins, hempty, hstart, hgap]) (by simp [insertion, hmixins, hempty])⟩
    | false =>
      have hputs := @Edit.PutsFirst.ahead s.outline mixin span front inside behind hmixins hempty
        hstart hstop
      have hbefore : s.block.body = front ++ ['['] ++ [] ++ (inside ++ ']' :: behind) := by
        simp [hbody]
      exact ⟨_, hputs, hbefore, splicedBody_eq_after hbefore
        (by simp [gap, hmixins, hempty, hstart]) (by simp [insertion, hmixins, hempty])⟩

end ScriptBlock

/-! ### Blocks read again -/

theorem scriptBlock?_text {b : Block} (h : b.Whole scriptTag) :
    scriptBlock? b.text = some { b with start := 0 } := by
  have htext : b.text.toList = [] ++ (({ b with start := 0 } : Block).characters ++ []) := by
    simp [Block.text, Block.characters]
  exact (scriptBlock?_eq_iff htext rfl).2 ⟨⟨h.opening, h.closing, h.body⟩, rfl⟩

/-- A property is refused only as the mixins. -/
theorem Outline.addProperty_eq_error {o : Outline} {p : Source.Property} {fault : ScriptFault}
    (h : o.addProperty p = .error fault) : fault = .mixinsNotAnArray := by
  unfold addProperty at h
  split_ifs at h
  split at h <;> cases h
  rfl

theorem Outline.ofProperties_eq_error {o : Outline} {ps : List Source.Property}
    {fault : ScriptFault} (h : o.ofProperties ps = .error fault) : fault = .mixinsNotAnArray := by
  induction ps generalizing o with
  | nil => cases h
  | cons p ps ih =>
    rw [ofProperties] at h
    cases hp : o.addProperty p with
    | error first =>
      rw [hp] at h
      cases h
      exact addProperty_eq_error hp
    | ok next =>
      rw [hp] at h
      exact ih h

theorem Outline.ofModule_ne_noBlock (m : Option (Option Source.Form)) :
    ofModule m ≠ .error .noBlock := by
  intro h
  unfold ofModule at h
  split at h
  · cases h
  · cases h
  · exact absurd (ofProperties_eq_error h) (by decide)
  · cases h

theorem message_ne_of_ne_noBlock {fault : ScriptFault} (h : fault ≠ .noBlock) :
    fault.message ≠ "No <script> block found" := by
  cases fault with
  | noBlock => exact absurd rfl h
  | _ => simp [ScriptFault.message]

namespace ScriptBlock

/-- The text of a whole block is read as this block, and a fault lies in its body. -/
theorem ofText_text {b : Block} (h : b.Whole scriptTag) :
    (∀ s, ofText b.text = .ok s → s.block = { b with start := 0 }) ∧
      ∀ fault, ofText b.text = .error fault →
        ∃ cause, cause ≠ .noBlock ∧ fault = .of (.script cause) := by
  cases houtline : Outline.ofScript (declares "ts" (String.ofList b.opening)) b.body with
  | ok outline =>
    have hread : ofText b.text = .ok ⟨{ b with start := 0 }, outline⟩ := by
      simp only [ofText, scriptBlock?_text h, houtline]
    rw [hread]
    refine ⟨fun s hs => ?_, fun fault hfault => nomatch hfault⟩
    cases hs
    rfl
  | error cause =>
    have hread : ofText b.text = .error (.of (.script cause)) := by
      simp only [ofText, scriptBlock?_text h, houtline]
    rw [hread]
    refine ⟨fun s hs => (nomatch hs), fun fault hfault => ?_⟩
    cases hfault
    exact ⟨cause, fun hnone => Outline.ofModule_ne_noBlock _ (hnone ▸ houtline), rfl⟩

end ScriptBlock

/-! ### Splicing -/

namespace ScriptBlock

/-- Generated code goes into a script block, whose text is given, by an edit of its body. -/
structure SplicedBy (s : ScriptBlock) (text : String) (parts : Script.Parts) (e : Edit) :
    Prop where
  /-- The mixin becomes the first of the exported object. -/
  first : e.PutsFirst s.outline parts.mixinCode.toList
  body : s.block.body = e.before
  /-- The imports go behind the opening tag. -/
  code : s.splice parts = String.ofList s.block.opening ++ "\n" ++ parts.importsCode ++
    String.ofList e.after ++ String.ofList s.block.closing
  /-- With what was put in taken out again, the text is as it was. -/
  undone : text = String.ofList s.block.opening ++ String.ofList e.before ++
    String.ofList s.block.closing

theorem exists_splicedBy {s : ScriptBlock} {b : Block} (hblock : s.block = { b with start := 0 })
    (hfits : s.outline.Fits s.block.body) (parts : Script.Parts) :
    ∃ e, s.SplicedBy b.text parts e := by
  obtain ⟨e, hputs, hbody, hspliced⟩ := exists_edit hfits parts.mixinCode.toList
  refine ⟨e, hputs, hbody, ?_, ?_⟩
  · rw [splice, hspliced]
  · rw [← hbody, hblock, Block.text, Block.characters, String.ofList_append, String.ofList_append]

end ScriptBlock

/-- Generated code keeps the author's script. The script of a source is read again piece by piece
and never missed. If the places of its default export are right, wherever they come from, then
whatever is generated, the imports go behind the opening tag, the mixin becomes the first of the
exported object, and with what was put in taken out again the text is that of the source. -/
theorem splice_keeps_script {source : String} {b : Block}
    (h : (sections source).script = some b) :
    scriptBlock? b.text = some { b with start := 0 } ∧
      (∀ fault, ScriptBlock.ofText b.text = .error fault →
        fault.diagnostic.message ≠ "No <script> block found") ∧
      (∀ outline : Outline, outline.Fits b.body → ∀ parts, ∃ e : Edit,
        ScriptBlock.SplicedBy ⟨{ b with start := 0 }, outline⟩ b.text parts e) ∧
      ∀ s, ScriptBlock.ofText b.text = .ok s →
        s.block.opening ++ s.block.body ++ s.block.closing = b.characters ∧
        (s.outline.Fits s.block.body → ∀ parts, ∃ e : Edit, s.SplicedBy b.text parts e) := by
  have hwhole : b.Whole scriptTag := whole_of_scriptBlock? h
  obtain ⟨hblock, hfault⟩ := ScriptBlock.ofText_text hwhole
  refine ⟨scriptBlock?_text hwhole, fun fault hf => ?_,
    fun outline hfits => ScriptBlock.exists_splicedBy rfl hfits, fun s hs => ⟨?_, ?_⟩⟩
  · obtain ⟨cause, hcause, rfl⟩ := hfault fault hf
    exact message_ne_of_ne_noBlock hcause
  · rw [hblock s hs]
    rfl
  · exact ScriptBlock.exists_splicedBy (hblock s hs)

/-- A component whose script has a comment between the bracket and the first of its mixins. -/
def mixedScript : String :=
  "<template/>\n" ++ r"<SCRIPT>export default {name: 'Ü', mixins: [ /* ü */ a, b]}</SCRIPT>" ++ "\n"

/-- In it, generated mixins go in front of the comment. -/
theorem mixedScript_kept :
    ∃ (b : Block) (s : ScriptBlock), (sections mixedScript).script = some b ∧
      ScriptBlock.ofText b.text = .ok s ∧ s.outline.Fits s.block.body ∧
      ∀ parts : Script.Parts, ∃ e : Edit, e.PutsFirst s.outline parts.mixinCode.toList ∧
        s.block.body = e.before ∧ e.behind = r" /* ü */ a, b]}".toList := by
  have hread : ((sections mixedScript).script.bind fun b =>
      (ScriptBlock.ofText b.text).toOption.map fun s => (s.block.body, s.outline)) =
      some (r"export default {name: 'Ü', mixins: [ /* ü */ a, b]}".toList,
        ⟨false, 15, some ⟨35, 50, false⟩⟩) := by
    decide +kernel
  obtain ⟨b, hb, hs⟩ := Option.bind_eq_some_iff.1 hread
  obtain ⟨s, hs, hpair⟩ := Option.map_eq_some_iff.1 hs
  obtain ⟨hbody, houtline⟩ := Prod.mk.inj hpair
  have hfits : s.outline.Fits s.block.body := by
    rw [hbody, houtline]
    refine ⟨by decide, fun span hspan => ?_⟩
    cases hspan
    exact ⟨by decide, by decide, by decide, by decide⟩
  have hkept := (splice_keeps_script hb).2.2.2 s (toOption_eq_some.1 hs)
  refine ⟨b, s, hb, toOption_eq_some.1 hs, hfits, fun parts => ?_⟩
  obtain ⟨e, hputs, hbefore, -, -⟩ := hkept.2 hfits parts
  refine ⟨e, hputs, hbefore, ?_⟩
  rw [hbody] at hbefore
  rw [houtline] at hputs
  cases hputs with
  | alone hspan hempty =>
    cases hspan
    cases hempty
  | ahead hspan hempty hstart =>
    cases hspan
    have hdrop := congrArg (List.drop 36) hbefore
    rw [Edit.before, List.append_nil, List.drop_left' (by simp [hstart])] at hdrop
    rw [← hdrop]
    decide +kernel
  | added hnone => cases hnone

end Component

end Widgetry
