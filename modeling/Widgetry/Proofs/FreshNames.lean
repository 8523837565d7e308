import Widgetry.Proofs.Records
import Widgetry.Proofs.TagBalance

/-! Who is initialised under which name. A namer never gives a name twice, so new instances have
different names. The host has its name from the registry, and the namer does not know it: an
instance that is given this name as well replaces the host. -/

namespace Widgetry

open Structure

/-! ### Free numbers -/

namespace Namer

theorem numbered_injective : Function.Injective numbered := by
  intro n k h
  have hdigits : (toString n).toList = (toString k).toList := by
    have hlists := congrArg String.toList h
    simpa only [numbered, String.toList_append, List.append_cancel_left_eq] using hlists
  have hread := congrArg (fun digits => Nat.ofDigitChars 10 digits 0) hdigits
  simpa [Nat.toString_eq_ofList_toDigits] using hread

/-- The search ends at a free number if no more names can be in its way than it may try. -/
theorem numbered_freeFrom_notMem {taken : List String} {fuel n : Nat} {rest : List String}
    (hfuel : rest.length ≤ fuel)
    (hrest : ∀ k, n ≤ k → numbered k ∈ taken → numbered k ∈ rest) :
    numbered (freeFrom taken fuel n) ∉ taken := by
  induction fuel generalizing n rest with
  | zero =>
    obtain rfl : rest = [] := List.length_eq_zero_iff.1 (Nat.le_zero.1 hfuel)
    intro hmem
    have hnil := hrest n (Nat.le_refl n) hmem
    simp at hnil
  | succ fuel ih =>
    rw [freeFrom]
    split_ifs with htaken
    · -- the name that was tried is in the way no longer
      have hmem := hrest n (Nat.le_refl n) (List.contains_iff_mem.1 htaken)
      have hlength : (rest.erase (numbered n)).length ≤ fuel := by
        rw [List.length_erase_of_mem hmem]
        omega
      refine ih hlength fun k hk hin => ?_
      have hne : numbered k ≠ numbered n := fun heq => by
        have := numbered_injective heq
        omega
      exact (List.mem_erase_of_ne hne).2 (hrest k (by omega) hin)
    · simpa using htaken

theorem numbered_free_notMem (m : Namer) : numbered m.free ∉ m.taken :=
  numbered_freeFrom_notMem (Nat.le_refl _) fun _ _ h => h

/-- A name that is given was not taken before and is taken afterwards. -/
theorem notMem_of_name {m m' : Namer} {p : Place} {name : String}
    (h : m.name p = .ok (name, m')) : name ∉ m.taken ∧ m'.taken = m.taken ++ [name] := by
  simp only [Namer.name] at h
  split_ifs at h with hdeclared hbad htaken
  · cases h
    exact ⟨m.numbered_free_notMem, rfl⟩
  · cases h
    exact ⟨by simpa using htaken, rfl⟩

/-- Names that are given in turn are different from each other and from those taken before. -/
theorem nodup_of_nameAll {m m' : Namer} {ps : List Place} {names : List String}
    (h : m.nameAll ps = .ok (names, m')) (hm : m.taken.Nodup) :
    (m.taken ++ names).Nodup ∧ m'.taken = m.taken ++ names := by
  induction ps generalizing m names with
  | nil =>
    cases h
    simpa using hm
  | cons p ps ih =>
    obtain ⟨⟨name, m₁⟩, hname, h⟩ := bind_eq_ok.1 h
    obtain ⟨⟨rest, m₂⟩, hrest, h⟩ := bind_eq_ok.1 h
    cases h
    obtain ⟨hfresh, htaken⟩ := notMem_of_name hname
    have hnodup : m₁.taken.Nodup := by
      rw [htaken]
      exact List.nodup_append.2 ⟨hm, by simp, by
        rintro a ha b hb rfl
        exact hfresh (List.mem_singleton.1 hb ▸ ha)⟩
    obtain ⟨hrest, htaken'⟩ := ih hrest hnodup
    rw [htaken, List.append_assoc, List.singleton_append] at hrest htaken'
    exact ⟨hrest, htaken'⟩

end Namer

/-! ### Names of records -/

variable {r : Registry}

namespace Script

/-- A data field is for the record that constructs an object under its name. -/
theorem Record.dataField?_eq_some {d : Record} {name : String} :
    d.dataField? = some name ↔ d.construction.isSome ∧ d.name = name := by
  unfold dataField?
  cases d.construction <;> simp

/-- A record constructs a new instance under the name that comes next, or is that of the host. -/
theorem dataField?_of_note {m : Mapping} {p : Place} {namer namer' : Namer} {d : Record}
    (h : note r m p namer = .ok (d, namer')) :
    if p.hosted then d.dataField? = none ∧ d.name = r.ambientInstance ∧ namer' = namer
    else d.dataField? = some d.name ∧ namer.name p = .ok (d.name, namer') := by
  rcases note_cases r h with ⟨hh, hd, hnamer⟩ | ⟨hh, name, d₀, menu, hname, hd, -, rfl⟩
  · rw [if_pos hh]
    obtain ⟨initial, -, hd⟩ := bind_eq_ok.1 hd
    cases hd
    exact ⟨rfl, rfl, hnamer⟩
  · rw [if_neg (by simp [hh])]
    obtain ⟨constructed, -, hd⟩ := bind_eq_ok.1 hd
    obtain ⟨initial, -, hd⟩ := bind_eq_ok.1 hd
    cases hd
    exact ⟨rfl, hname⟩

/-- The data fields of records are the names that one namer gives to the new instances. -/
theorem nameAll_of_noteAll {namer namer' : Namer} {ps : List Place} {ds : List Record}
    (h : noteAll r namer ps = .ok (ds, namer')) :
    namer.nameAll (ps.filter (!·.hosted)) = .ok (ds.filterMap Record.dataField?, namer') := by
  induction ps generalizing namer ds with
  | nil =>
    cases h
    rfl
  | cons p ps ih =>
    obtain ⟨m, -, h⟩ := bind_eq_ok.1 h
    obtain ⟨⟨d, namer₁⟩, hnote, h⟩ := bind_eq_ok.1 h
    obtain ⟨⟨rest, namer₂⟩, hrest, h⟩ := bind_eq_ok.1 h
    cases h
    have hd := dataField?_of_note hnote
    cases hh : p.hosted with
    | true =>
      rw [if_pos hh] at hd
      obtain ⟨hfield, -, rfl⟩ := hd
      simpa [hh, hfield] using ih hrest
    | false =>
      rw [if_neg (by simp [hh])] at hd
      simp [hh, hd.1, hd.2, Namer.nameAll, ih hrest]

/-- New instances are initialised under the names of their data fields. -/
theorem map_name_noteAll {namer namer' : Namer} {ps : List Place} {ds : List Record}
    (h : noteAll r namer ps = .ok (ds, namer')) (hps : ∀ p ∈ ps, p.hosted = false) :
    ds.map Record.name = ds.filterMap Record.dataField? := by
  induction ps generalizing namer ds with
  | nil =>
    cases h
    rfl
  | cons p ps ih =>
    obtain ⟨m, -, h⟩ := bind_eq_ok.1 h
    obtain ⟨⟨d, namer₁⟩, hnote, h⟩ := bind_eq_ok.1 h
    obtain ⟨⟨rest, namer₂⟩, hrest, h⟩ := bind_eq_ok.1 h
    cases h
    rw [List.forall_mem_cons] at hps
    have hd := dataField?_of_note hnote
    rw [if_neg (by simp [hps.1])] at hd
    rw [List.map_cons, List.filterMap_cons_some hd.1, ih hrest hps.2]

end Script

/-- The root is merged into the host and the host is initialised. -/
def Tree.initialisesHost (r : Registry) (t : Tree) : Bool :=
  t.hosted && (r.mapping? t.root.kind).any (·.requiresInstance)

theorem Tree.recorded_rootPlace (t : Tree) :
    t.rootPlace.recorded r =
      (if (r.mapping? t.root.kind).any (·.requiresInstance) then [t.rootPlace] else []) ++
        t.rootPlace.children.flatMap (Place.recorded r) := by
  have hroot : r.isRecorded t.rootPlace = (r.mapping? t.root.kind).any (·.requiresInstance) := by
    have hskips : r.skips t.rootPlace = false := rfl
    rw [Registry.isRecorded, hskips, Bool.not_false, Bool.and_true]
    rfl
  rw [Place.recorded_eq, hroot]

/-- The records of a tree come under the ambient name, where the host is initialised, and then under
the names of the data fields. -/
theorem Script.map_name_records {t : Tree} {namer : Namer} {ds : List Record}
    (h : noteAll r {} (t.rootPlace.recorded r) = .ok (ds, namer)) :
    ds.map Record.name =
      (if t.initialisesHost r then [r.ambientInstance] else []) ++
        ds.filterMap Record.dataField? := by
  have hbelow : ∀ p ∈ t.rootPlace.children.flatMap (Place.recorded r), p.hosted = false := by
    intro p hp
    obtain ⟨c, hc, hp⟩ := List.mem_flatMap.1 hp
    exact Place.hosted_of_mem_below hc (List.mem_of_mem_filter hp)
  rw [Tree.recorded_rootPlace] at h
  cases hhost : t.initialisesHost r with
  | false =>
    refine map_name_noteAll h fun p hp => ?_
    rcases List.mem_append.1 hp with hp | hp
    · split_ifs at hp with hi
      · obtain rfl := List.mem_singleton.1 hp
        simpa [Tree.initialisesHost, Tree.rootPlace, hi] using hhost
      · simp at hp
    · exact hbelow p hp
  | true =>
    obtain ⟨hh, hi⟩ : t.rootPlace.hosted = true ∧ _ := Bool.and_eq_true_iff.1 hhost
    rw [if_pos hi, List.singleton_append] at h
    obtain ⟨m, -, h⟩ := bind_eq_ok.1 h
    obtain ⟨⟨d, namer₁⟩, hnote, h⟩ := bind_eq_ok.1 h
    obtain ⟨⟨rest, namer₂⟩, hrest, h⟩ := bind_eq_ok.1 h
    cases h
    have hd := dataField?_of_note hnote
    rw [if_pos hh] at hd
    rw [if_pos rfl, List.map_cons, List.filterMap_cons_none hd.1, hd.2.1,
      map_name_noteAll hrest hbelow, List.singleton_append]

/-! ### Compiled scripts -/

/-- The instances of a compiled script have different data fields, given by one namer. All records
are made under different names exactly if no data field has the name of the host that the script
initialises; where one has, the script constructs a new object under that name. -/
theorem records_distinct_iff {o : Options} {container : Markup.Element} {out : Compiled}
    (h : compile o container = .ok out) :
    ∃ r t namer, o.checkedRegistry = .ok r ∧
      Tree.ofContainer container (o.hosted.getD false) = .ok t ∧
      Namer.nameAll {} ((t.rootPlace.recorded r).filter (!·.hosted)) =
        .ok (out.script.parts.dataFields, namer) ∧
      out.script.parts.dataFields.Nodup ∧
      out.script.records.map Script.Record.name =
        (if t.initialisesHost r then [r.ambientInstance] else []) ++
          out.script.parts.dataFields ∧
      ((out.script.records.map Script.Record.name).Nodup ↔
        ¬(t.initialisesHost r ∧ r.ambientInstance ∈ out.script.parts.dataFields)) ∧
      ((∃ d ∈ out.script.records, d.construction.isSome ∧ d.name = r.ambientInstance) ↔
        r.ambientInstance ∈ out.script.parts.dataFields) := by
  obtain ⟨r, t, hr, ht, haccepted, -, hscript⟩ := compile_eq_ok h
  obtain ⟨namer, hnoted⟩ :=
    Script.noteAll_of_ofTree (Template.consistent_of_checkedRegistry hr) haccepted hscript
  have hnamed := Script.nameAll_of_noteAll hnoted
  have hnames := Script.map_name_records hnoted
  obtain ⟨hnodup, -⟩ := Namer.nodup_of_nameAll hnamed List.nodup_nil
  refine ⟨r, t, namer, hr, ht, hnamed, hnodup, hnames, ?_, ?_⟩
  · rw [hnames]
    cases t.initialisesHost r with
    | false => simpa using hnodup
    | true =>
      rw [if_pos rfl, List.singleton_append, List.nodup_cons]
      simp only [true_and]
      exact and_iff_left hnodup
  · change _ ↔ r.ambientInstance ∈ out.script.records.filterMap Script.Record.dataField?
    simp only [List.mem_filterMap, Script.Record.dataField?_eq_some]

/-- A window with a button that is named like the host. -/
def shadowedHost : Markup.Element :=
  ⟨"Window", [⟨"title", "Main"⟩],
    [⟨"Button", [⟨"type", "Push"⟩, ⟨"title", "Go"⟩, ⟨"instance", "instance"⟩], []⟩]⟩

/-- The button replaces the window that is being extended. -/
theorem shadowedHost_overwritten :
    ∃ out, compile ⟨some true, none, false⟩ ⟨"template", [], [shadowedHost]⟩ = .ok out ∧
      out.script.records.map Script.Record.name = ["instance", "instance"] ∧
      (∃ d ∈ out.script.records, d.construction.isSome ∧
        d.name = Registry.builtin.ambientInstance) ∧
      out.script.parts.initStatements =
        ["// Init instance: ApplicationWindow.\nthis.instance.title = 'Main';\n",
         "// Init instance: Button.\nthis.instance = new Button(Button.ButtonType.Push, 'Go');\n"]
      := by
  have hok : (compile ⟨some true, none, false⟩ ⟨"template", [], [shadowedHost]⟩).toOption.map
      (fun out => (out.script.parts.dataFields, out.script.parts.initStatements)) =
        some (["instance"],
          ["// Init instance: ApplicationWindow.\nthis.instance.title = 'Main';\n",
           "// Init instance: Button.\nthis.instance = new Button(Button.ButtonType.Push, 'Go');\n"])
      := by
    decide +kernel
  obtain ⟨out, hout, htexts⟩ := Option.map_eq_some_iff.1 hok
  have hcompile := toOption_eq_some.1 hout
  obtain ⟨hfields, hinit⟩ := Prod.mk.inj htexts
  obtain ⟨r, t, namer, hr, ht, -, -, hnames, -, hnew⟩ := records_distinct_iff hcompile
  cases hr
  cases ht
  rw [hfields] at hnames hnew
  exact ⟨out, hcompile, hnames, hnew.2 (by decide), hinit⟩

end Widgetry
