import Widgetry.Proofs.ScriptText
import Mathlib.Data.List.Nodup
import Mathlib.Order.Bounds.Basic

/-! Names over whole runs of a namer. Places are named one after the other, in any order and as
often as one likes, and the run goes on behind a fault. At every point the namer has taken exactly
the names that were given before, and all numbers below its counter are among them; so what a call
answers is told by the names given before it, and a call that fails can be left out. -/

namespace Widgetry.Namer

/-! ### Answers -/

/-- A name is declared at the place; an empty one counts for none. -/
def Declares (p : Place) (declared : String) : Prop :=
  p.attribute? declaration = some declared ∧ declared ≠ ""

/-- The search for a free number from a number on, with no bound on what it may try. -/
inductive Search (taken : List String) : Nat → Nat → Prop
  | found {n : Nat} (free : numbered n ∉ taken) : Search taken n n
  | next {n last : Nat} (used : numbered n ∈ taken) (rest : Search taken (n + 1) last) :
      Search taken n last

/-- What a namer answers at a place, where it has given the names `before` and its counter stands at
`next`. A declared name is camel-cased, and refused exactly if the result is no identifier or was
given before; every other place gets the least number whose name was not given before, which the
search from the counter on comes to. -/
inductive Answer (next : Nat) (before : List String) (p : Place) : Except Fault String → Prop
  | declared {name : String} (declares : Declares p name)
      (identifier : Text.isIdentifier (Text.camelCase name))
      (fresh : Text.camelCase name ∉ before) :
      Answer next before p (.ok (Text.camelCase name))
  | malformed {name : String} (declares : Declares p name)
      (malformed : Text.isIdentifier (Text.camelCase name) = false) :
      Answer next before p (.error (p.fault (.badName name)))
  | reused {name : String} (declares : Declares p name)
      (identifier : Text.isIdentifier (Text.camelCase name))
      (used : Text.camelCase name ∈ before) :
      Answer next before p (.error (p.fault (.takenName name (Text.camelCase name))))
  | numbered {n : Nat} (undeclared : ∀ name, ¬Declares p name)
      (least : IsLeast {k | numbered k ∉ before} n) (search : Search before next n) :
      Answer next before p (.ok (numbered n))

/-! ### One call -/

theorem declares_iff {p : Place} {name : String} :
    Declares p name ↔ (p.attribute? declaration).getD "" = name ∧ name ≠ "" := by
  unfold Declares
  cases p.attribute? declaration with
  | none => simp [eq_comm]
  | some value => simp

/-- The namer has given the names `before`, and all numbers below its counter are among them. -/
structure Gave (m : Namer) (before : List String) : Prop where
  taken : m.taken = before
  passed : ∀ k < m.next, numbered k ∈ before
  distinct : before.Nodup
  identifiers : ∀ name ∈ before, Text.isIdentifier name

theorem gave_start : Gave {} [] where
  taken := rfl
  passed _ hk := absurd hk (Nat.not_lt_zero _)
  distinct := List.nodup_nil
  identifiers := by simp

/-- The bounded search tries what the search without a bound tries, as long as that is taken. -/
theorem search_freeFrom {taken : List String} {fuel n : Nat}
    (h : numbered (freeFrom taken fuel n) ∉ taken) : Search taken n (freeFrom taken fuel n) := by
  induction fuel generalizing n with
  | zero => exact .found h
  | succ fuel ih =>
    rw [freeFrom] at h ⊢
    split_ifs at h ⊢ with htaken
    · exact .next (List.contains_iff_mem.1 htaken) (ih h)
    · exact .found h

theorem search_free (m : Namer) : Search m.taken m.next m.free :=
  search_freeFrom m.numbered_free_notMem

/-- The search passes over taken names only. -/
theorem Search.passed {taken : List String} {n last : Nat} (h : Search taken n last) :
    ∀ k, n ≤ k → k < last → numbered k ∈ taken := by
  induction h with
  | found free => omega
  | next used rest ih =>
    intro k hle hlt
    rcases Nat.eq_or_lt_of_le hle with rfl | hlt'
    · exact used
    · exact ih k hlt' hlt

/-- Below the number that is found every number has been given. -/
theorem Gave.numbered_of_lt {m : Namer} {before : List String} (h : m.Gave before) {k : Nat}
    (hk : k < m.free) : numbered k ∈ before := by
  rcases Nat.lt_or_ge k m.next with hlt | hge
  · exact h.passed k hlt
  · exact h.taken ▸ m.search_free.passed k hge hk

theorem Gave.isLeast_free {m : Namer} {before : List String} (h : m.Gave before) :
    IsLeast {k | numbered k ∉ before} m.free := by
  refine ⟨?_, fun k hk => ?_⟩
  · exact h.taken ▸ m.numbered_free_notMem
  · by_contra hlt
    exact hk (h.numbered_of_lt (Nat.lt_of_not_le hlt))

/-- The answer to one call. -/
def answer (m : Namer) (p : Place) : Except Fault String := (m.name p).map Prod.fst

/-- The namer after a call; one that fails changes nothing. -/
def after (m : Namer) (p : Place) : Namer :=
  match m.name p with
  | .ok (_, m') => m'
  | .error _ => m

theorem after_of_error {m : Namer} {p : Place} {fault : Fault} (h : m.answer p = .error fault) :
    m.after p = m := by
  unfold answer at h
  unfold after
  cases hname : m.name p with
  | error _ => rfl
  | ok named => simp [hname, Except.map] at h

theorem Gave.answer {m : Namer} {before : List String} (h : m.Gave before) (p : Place) :
    Answer m.next before p (m.answer p) := by
  obtain ⟨name, hname⟩ : ∃ name, (p.attribute? declaration).getD "" = name := ⟨_, rfl⟩
  unfold Namer.answer Namer.name
  rw [hname]
  by_cases hempty : name = ""
  · have hundeclared : ∀ other, ¬Declares p other := fun other hother => by
      obtain ⟨rfl, hne⟩ := declares_iff.1 hother
      exact hne (hname.trans hempty)
    subst hempty
    exact .numbered hundeclared h.isLeast_free (h.taken ▸ m.search_free)
  · have hdeclares : Declares p name := declares_iff.2 ⟨hname, hempty⟩
    have hisEmpty : name.isEmpty = false := by simpa [String.isEmpty_iff] using hempty
    simp only [hisEmpty, Bool.false_eq_true, if_false, Bool.not_eq_true', h.taken]
    split_ifs with hidentifier hused
    · exact .malformed hdeclares hidentifier
    · exact .reused hdeclares (by simpa using hidentifier) (List.contains_iff_mem.1 hused)
    · exact .declared hdeclares (by simpa using hidentifier) (by simpa using hused)

/-- A call that gives a number leaves the counter behind it; no other call moves the counter. -/
theorem next_of_name {m m' : Namer} {p : Place} {name : String} (h : m.name p = .ok (name, m')) :
    (name = numbered m.free ∧ m'.next = m.free + 1) ∨ m'.next = m.next := by
  simp only [Namer.name] at h
  split_ifs at h with hdeclared hbad htaken
  · cases h
    exact .inl ⟨rfl, rfl⟩
  · cases h
    exact .inr rfl

/-- The namer has given one name more, unless the call failed. -/
theorem Gave.after {m : Namer} {before : List String} (h : m.Gave before) (p : Place) :
    (m.after p).Gave (before ++ (m.answer p).toOption.toList) := by
  unfold Namer.after Namer.answer
  cases hname : m.name p with
  | error fault => simpa [Except.map, Except.toOption] using h
  | ok named =>
    obtain ⟨name, m'⟩ := named
    change m'.Gave (before ++ [name])
    obtain ⟨hfresh, htaken⟩ := notMem_of_name hname
    rw [h.taken] at hfresh htaken
    refine ⟨htaken, fun k hk => ?_, ?_, ?_⟩
    · rcases next_of_name hname with ⟨rfl, hnext⟩ | hnext
      · rcases Nat.lt_or_ge k m.free with hlt | hge
        · exact List.mem_append_left _ (h.numbered_of_lt hlt)
        · obtain rfl : k = m.free := by omega
          exact List.mem_append_right before List.mem_cons_self
      · exact List.mem_append_left _ (h.passed k (hnext ▸ hk))
    · simpa using h.distinct.concat hfresh
    · simpa [or_imp, forall_and] using ⟨h.identifiers, isIdentifier_of_name hname⟩

/-! ### Runs -/

/-- The names among the answers. -/
def given (answers : List (Except Fault String)) : List String := answers.filterMap Except.toOption

/-- The namer after several calls. -/
def afterAll (m : Namer) (ps : List Place) : Namer := ps.foldl after m

theorem names_cons (m : Namer) (p : Place) (ps : List Place) :
    m.names (p :: ps) = m.answer p :: (m.after p).names ps := by
  rw [names]
  unfold answer after
  cases m.name p <;> rfl

theorem names_append (m : Namer) (ps qs : List Place) :
    m.names (ps ++ qs) = m.names ps ++ (m.afterAll ps).names qs := by
  induction ps generalizing m with
  | nil => rfl
  | cons p ps ih => rw [List.cons_append, names_cons, ih, names_cons, List.cons_append]; rfl

theorem length_names (m : Namer) (ps : List Place) : (m.names ps).length = ps.length := by
  induction ps generalizing m with
  | nil => rfl
  | cons p ps ih => rw [names_cons, List.length_cons, List.length_cons, ih]

theorem given_cons (a : Except Fault String) (answers : List (Except Fault String)) :
    given (a :: answers) = a.toOption.toList ++ given answers := by
  cases a <;> rfl

/-- What a run has given is what its namer has taken. -/
theorem Gave.afterAll {m : Namer} {before : List String} (h : m.Gave before) (ps : List Place) :
    (m.afterAll ps).Gave (before ++ given (m.names ps)) := by
  induction ps generalizing m before with
  | nil =>
    rw [show given (m.names []) = [] from rfl, List.append_nil]
    exact h
  | cons p ps ih =>
    have hrest := ih (h.after p)
    rwa [List.append_assoc, ← given_cons, ← names_cons] at hrest

/-- Places are named one after the other, whatever they are and in whatever order. The names that
are given are distinct identifiers, and every call is answered as the names given before it say; a
call that fails leaves the namer as it was, and without it all other answers are the same. -/
theorem names_of_run (ps : List Place) :
    (given (names {} ps)).Nodup ∧ (∀ name ∈ given (names {} ps), Text.isIdentifier name) ∧
      ∀ first p rest, ps = first ++ p :: rest →
        ∃ answer later, names {} ps = names {} first ++ answer :: later ∧
          (names {} first).length = first.length ∧ later.length = rest.length ∧
          Answer (afterAll {} first).next (given (names {} first)) p answer ∧
          ∀ fault, answer = .error fault →
            afterAll {} (first ++ [p]) = afterAll {} first ∧
              names {} (first ++ rest) = names {} first ++ later := by
  have hrun : ∀ qs, (afterAll {} qs).Gave (given (names {} qs)) := fun qs => gave_start.afterAll qs
  refine ⟨(hrun ps).distinct, (hrun ps).identifiers, ?_⟩
  rintro first p rest rfl
  set m := afterAll {} first with hm
  refine ⟨m.answer p, (m.after p).names rest, ?_, length_names .., length_names .., ?_, ?_⟩
  · rw [names_append, names_cons]
  · exact (hrun first).answer p
  · intro fault hfault
    have hsame := after_of_error hfault
    constructor
    · rw [afterAll, List.foldl_append]
      exact hsame
    · rw [names_append, hsame]

/-- A window without a name and three buttons that declare one. -/
def declaringWindow : Tree where
  root := ⟨"Window", .empty,
    [⟨"Button", .ofList [("instance", "rt1")], []⟩, ⟨"Button", .ofList [("instance", "2nd")], []⟩,
     ⟨"Button", .ofList [("instance", "rt0")], []⟩]⟩
  hosted := false

-- numbers skip `rt1`, which was declared, and `rt0` cannot be declared once it is given
example :
    names {} ([1, 0, 2, 3, 0, 0].filterMap declaringWindow.place?) =
      [.ok "rt1", .ok "rt0", .error ⟨.badName "2nd", some ["Window", "Button"]⟩,
       .error ⟨.takenName "rt0" "rt0", some ["Window", "Button"]⟩, .ok "rt2", .ok "rt3"] := by
  decide +kernel

end Widgetry.Namer
