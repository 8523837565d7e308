import Widgetry.Proofs.Records

/-! Values that end up in quotes. The texts that a record quotes are the string attributes that are
read for its place: those of the constructor, the initial values and, for a menu, the titles below
it in document order. -/

namespace Widgetry

open Structure

variable {r : Registry}

/-! ### Arguments -/

namespace Script

def Argument.text? : Argument → Option String
  | constant .. => none
  | text value => some value

/-- The value of a string argument at a place. -/
def textValue? (p : Place) (a : ArgumentSpec) : Option String :=
  if a.kind = .string then p.attribute? a.key else none

theorem text?_argument {m : Mapping} {role : Role} {p : Place} {a : ArgumentSpec}
    {value : Option Argument} (h : argument m role p a = .ok value) :
    value.bind Argument.text? = textValue? p a := by
  unfold argument at h
  unfold textValue?
  cases hvalue : p.attribute? a.key with
  | none =>
    rw [hvalue] at h
    simp only at h
    split_ifs at h
    cases h
    simp
  | some text =>
    rw [hvalue] at h
    cases hkind : a.kind with
    | string =>
      simp only [hkind] at h
      cases h
      rfl
    | constant =>
      simp only [hkind] at h
      split_ifs at h
      cases h
      rfl

/-- The texts among arguments are the values of the string arguments. -/
theorem texts_arguments {m : Mapping} {role : Role} {p : Place} {specs : List ArgumentSpec}
    {args : List (String × Argument)} (h : arguments m role p specs = .ok args) :
    args.filterMap (·.2.text?) = specs.filterMap (textValue? p) := by
  induction specs generalizing args with
  | nil =>
    cases h
    rfl
  | cons a specs ih =>
    obtain ⟨value, hvalue, h⟩ := bind_eq_ok.1 h
    obtain ⟨rest, hrest, h⟩ := bind_eq_ok.1 h
    cases h
    have hfirst := text?_argument hvalue
    rw [List.filterMap_append, ih hrest, List.filterMap_cons, ← hfirst]
    cases value with
    | none => rfl
    | some v => cases hv : v.text? <;> simp [hv]

end Script

/-! ### Menus -/

/-- The title that a line of a menu program quotes. -/
def Menu.Line.title? : Menu.Line → Option String
  | letSubmenu _ _ _ _ title => some title
  | letItem _ _ title => some title
  | _ => none

namespace Menu

theorem title?_declarationLine (indent : Nat) (q : Place) :
    (declarationLine r indent q).title? = some (title r q) := by
  unfold declarationLine
  split_ifs <;> rfl

theorem title?_link (root : Place) (rootName : String) (indent : Nat) (q : Place) :
    (link r root rootName indent q).title? = none := by
  unfold link
  split_ifs <;> rfl

/-- The lines of a block quote the titles from its place on. -/
theorem titles_blockLines (root : Place) (rootName : String) (p : Place) (indent : Nat) :
    (blockLines r root rootName p indent).filterMap Line.title? = p.places.map (title r) := by
  induction p using Place.induction generalizing indent with
  | step p ih =>
    have hopen : (Line.openBlock indent).title? = none := rfl
    have hclose : (Line.closeBlock indent).title? = none := rfl
    have hchildren : (p.children.flatMap (blockLines r root rootName · (indent + 2))).filterMap
        Line.title? = (p.children.flatMap Place.places).map (title r) := by
      rw [List.filterMap_flatMap, List.map_flatMap]
      exact List.flatMap_congr fun c hc => ih c hc (indent + 2)
    rw [blockLines_eq, Place.places_eq, List.filterMap_cons_none hopen,
      List.filterMap_cons_some (title?_declarationLine _ _), List.filterMap_append, hchildren,
      List.filterMap_cons_none (title?_link ..), List.filterMap_cons_none hclose]
    simp

theorem titles_blocks (root : Place) (rootName : String) (ps : List Place) (indent : Nat) :
    (ps.flatMap (blockLines r root rootName · indent)).filterMap Line.title? =
      (ps.flatMap Place.places).map (title r) := by
  rw [List.filterMap_flatMap, List.map_flatMap]
  exact List.flatMap_congr fun c _ => titles_blockLines root rootName c indent

/-- The program of a menu quotes the titles below it. -/
theorem titles_lines {m : Place} {rootName : String} {ls : List Line}
    (hlines : lines r m rootName = .ok ls) :
    ls.filterMap Line.title? = m.descendants.filterMap (·.attribute? r.menu.titleAttribute) := by
  have hbuild := exists_lines_iff.1 ⟨ls, hlines⟩
  have htitles : m.descendants.filterMap (·.attribute? r.menu.titleAttribute) =
      m.descendants.map (title r) := by
    rw [← List.filterMap_eq_map]
    refine List.filterMap_congr fun q hq => ?_
    obtain ⟨value, hvalue⟩ := Option.isSome_iff_exists.1 (hbuild q hq).title
    simp [title, hvalue]
  rw [lines_eq_blockLines rootName hbuild] at hlines
  cases hlines
  rw [htitles, titles_blocks]
  rfl

end Menu

/-! ### Records -/

/-- The texts that a record quotes, in order. -/
def Script.Record.texts (d : Script.Record) : List String :=
  (d.construction.getD []).filterMap Argument.text? ++ d.assignments.filterMap (·.2.text?) ++
    d.menu.filterMap Menu.Line.title?

/-- The string attributes that are read for the record of a place: those of the constructor, unless
the place is the host, the initial values, and the titles below a menu. -/
def Registry.readTexts (r : Registry) (p : Place) : List String :=
  match r.mapping? p.kind with
  | none => []
  | some m =>
    (if p.hosted then [] else m.constructorArgs.filterMap (Script.textValue? p)) ++
      m.postInit.filterMap (Script.textValue? p) ++
      if p.kind = r.menu.menuKind ∧ ¬p.hosted then
        p.descendants.filterMap (·.attribute? r.menu.titleAttribute)
      else []

namespace Script

/-- A record quotes what is read for its place. -/
theorem texts_of_note {m : Mapping} {p : Place} (hm : r.mapping? p.kind = some m)
    {namer namer' : Namer} {d : Record} (hnote : note r m p namer = .ok (d, namer')) :
    d.texts = r.readTexts p := by
  unfold Registry.readTexts Record.texts
  rw [hm]
  rcases note_cases r hnote with ⟨hh, hd, -⟩ | ⟨hh, name, d₀, menu, -, hd, hmenu, rfl⟩
  · obtain ⟨initial, hinitial, hd⟩ := bind_eq_ok.1 hd
    cases hd
    simp [hh, texts_arguments hinitial]
  · obtain ⟨constructed, hconstructed, hd⟩ := bind_eq_ok.1 hd
    obtain ⟨initial, hinitial, hd⟩ := bind_eq_ok.1 hd
    cases hd
    have htitles : menu.filterMap Menu.Line.title? =
        if p.kind = r.menu.menuKind ∧ ¬p.hosted then
          p.descendants.filterMap (·.attribute? r.menu.titleAttribute) else [] := by
      unfold menuLines at hmenu
      by_cases hk : p.kind = r.menu.menuKind
      · rw [if_pos hk] at hmenu
        rw [if_pos ⟨hk, by simp [hh]⟩]
        exact Menu.titles_lines hmenu
      · rw [if_neg hk] at hmenu
        cases hmenu
        simp [hk]
    simp only [Option.getD_some, List.filterMap_map, hh, Bool.false_eq_true, if_false]
    rw [htitles, texts_arguments hinitial, ← texts_arguments hconstructed, hh]
    simp

/-- Records quote, in order, what is read for their places. -/
theorem texts_of_noteAll {ps : List Place} {namer namer' : Namer} {ds : List Record}
    (hnoted : noteAll r namer ps = .ok (ds, namer')) :
    ds.flatMap Record.texts = ps.flatMap r.readTexts := by
  induction ps generalizing namer ds with
  | nil =>
    cases hnoted
    rfl
  | cons p ps ih =>
    obtain ⟨m, hrequire, hnoted⟩ := bind_eq_ok.1 hnoted
    obtain ⟨⟨d, namer₁⟩, hnote, hnoted⟩ := bind_eq_ok.1 hnoted
    obtain ⟨⟨rest, namer₂⟩, hrest, hnoted⟩ := bind_eq_ok.1 hnoted
    cases hnoted
    rw [List.flatMap_cons, List.flatMap_cons, ih hrest,
      texts_of_note (Registry.require_eq_ok.1 hrequire) hnote]

end Script

end Widgetry
