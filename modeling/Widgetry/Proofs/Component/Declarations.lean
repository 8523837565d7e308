import Widgetry.Component.Language
import Widgetry.Proofs.Component.Blocks

/-! Attributes that declare a language. The attributes of a tag are searched for a declaration as
one text, without regard to where an attribute begins and ends. What is found is an attribute that
declares the language, or one that is mistaken for such an attribute: its name only ends in the
right word, its value only begins with the right name, or its value holds a declaration. -/

namespace Widgetry.Component

open Text (fold afterFolded? isBlank isWord)

/-! ### Declarations -/

def langWord : List Char := "lang".toList

/-- A declaration of the language: `lang`, an equals sign with white space around it, and a name in
quotes. -/
def IsDeclaration (language s : List Char) : Prop :=
  ∃ word before behind q name q', s = word ++ (before ++ '=' :: (behind ++ q :: (name ++ [q']))) ∧
    SameLetters word langWord ∧ (∀ c ∈ before, isBlank c) ∧ (∀ c ∈ behind, isBlank c) ∧
    isQuote q ∧ SameLetters name language ∧ isQuote q'

/-- What follows the word `lang` in a declaration. -/
def valueFollows (language s : List Char) : Bool :=
  match s.dropWhile isBlank with
  | '=' :: s => quotedAt language (s.dropWhile isBlank)
  | _ => false

variable {language : List Char}

theorem declarationAt_eq (s : List Char) :
    declarationAt language s = (afterFolded? langWord s).any (valueFollows language) := by
  unfold declarationAt valueFollows langWord
  cases afterFolded? "lang".toList s <;> rfl

theorem isBlank_eq_false_of_isQuote {q : Char} (h : isQuote q) : isBlank q = false := by
  simp only [isQuote, Bool.or_eq_true, beq_iff_eq] at h
  rcases h with rfl | rfl <;> decide

theorem isWord_eq_false_of_isQuote {q : Char} (h : isQuote q) : isWord q = false := by
  simp only [isQuote, Bool.or_eq_true, beq_iff_eq] at h
  rcases h with rfl | rfl <;> decide +kernel

/-- Behind white space, what is not white space comes first. -/
theorem dropWhile_blanks {u : List Char} (hu : ∀ c ∈ u, isBlank c) {c : Char}
    (hc : isBlank c = false) (s : List Char) : (u ++ c :: s).dropWhile isBlank = c :: s := by
  rw [List.dropWhile_append_of_pos hu, List.dropWhile_cons_of_neg (by simp [hc])]

theorem exists_blanks (s : List Char) :
    ∃ u, (∀ c ∈ u, isBlank c) ∧ s = u ++ s.dropWhile isBlank :=
  ⟨s.takeWhile isBlank, fun _ hc => List.mem_takeWhile_imp hc,
    (List.takeWhile_append_dropWhile).symm⟩

theorem quotedAt_iff {s : List Char} :
    quotedAt language s = true ↔ ∃ q name q' rest, s = q :: (name ++ q' :: rest) ∧ isQuote q ∧
      SameLetters name language ∧ isQuote q' := by
  cases s with
  | nil => simp [quotedAt]
  | cons q s =>
    simp only [quotedAt, Bool.and_eq_true, Option.any_eq_true, Option.bind_eq_some_iff]
    constructor
    · rintro ⟨hq, q', ⟨rest, hrest, hhead⟩, hquote⟩
      obtain ⟨name, rfl, -, hname⟩ := afterFolded?_eq_some.1 hrest
      obtain ⟨rest, rfl⟩ := List.head?_eq_some_iff.1 hhead
      exact ⟨q, name, q', rest, rfl, hq, afterFolded?_eq_nil.1 hname, hquote⟩
    · rintro ⟨q, name, q', rest, h, hq, hname, hquote⟩
      cases h
      exact ⟨hq, q', ⟨q' :: rest, afterFolded?_append (afterFolded?_eq_nil.2 hname) _, rfl⟩, hquote⟩

theorem declarationAt_iff {s : List Char} :
    declarationAt language s = true ↔ ∃ d rest, s = d ++ rest ∧ IsDeclaration language d := by
  rw [declarationAt_eq, Option.any_eq_true]
  constructor
  · rintro ⟨t, hafter, hvalue⟩
    obtain ⟨word, rfl, -, hlang⟩ := afterFolded?_eq_some.1 hafter
    unfold valueFollows at hvalue
    split at hvalue
    · rename_i t' ht'
      obtain ⟨before, hbefore, ht⟩ := exists_blanks t
      obtain ⟨behind, hbehind, ht''⟩ := exists_blanks t'
      obtain ⟨q, name, q', rest, hquoted, hq, hname, hq'⟩ := quotedAt_iff.1 hvalue
      refine ⟨word ++ (before ++ '=' :: (behind ++ q :: (name ++ [q']))), rest, ?_,
        word, before, behind, q, name, q', rfl, afterFolded?_eq_nil.1 hlang, hbefore, hbehind, hq,
        hname, hq'⟩
      rw [ht, ht', ht'', hquoted]
      simp
    · cases hvalue
  · rintro ⟨d, rest, rfl, word, before, behind, q, name, q', rfl, hlang, hbefore, hbehind, hq,
      hname, hq'⟩
    have hafter := afterFolded?_append (afterFolded?_eq_nil.2 hlang)
      (before ++ '=' :: (behind ++ q :: (name ++ q' :: rest)))
    have hvalue : valueFollows language
        (before ++ '=' :: (behind ++ q :: (name ++ q' :: rest))) = true := by
      unfold valueFollows
      rw [dropWhile_blanks hbefore (by decide)]
      simp only
      rw [dropWhile_blanks hbehind (isBlank_eq_false_of_isQuote hq)]
      exact quotedAt_iff.2 ⟨q, name, q', rest, rfl, hq, hname, hq'⟩
    exact ⟨_, by simpa using hafter, hvalue⟩

/-! ### Starts of words -/

/-- At some start of a word, what follows passes a test; `inWord` says whether a word character
stands in front. -/
def atWordStart (test : List Char → Bool) : (inWord : Bool) → List Char → Bool
  | _, [] => false
  | inWord, c :: s => (!inWord && test (c :: s)) || atWordStart test (isWord c) s

/-- A word character stands in front of what follows a text. -/
def endsInWord (inWord : Bool) (s : List Char) : Bool := (s.getLast?.map isWord).getD inWord

theorem declaresFrom_eq (inWord : Bool) (s : List Char) :
    declaresFrom language inWord s = atWordStart (declarationAt language) inWord s := by
  induction s generalizing inWord with
  | nil => rfl
  | cons c s ih => rw [declaresFrom, atWordStart, ih]

theorem endsInWord_cons (inWord : Bool) (c : Char) (s : List Char) :
    endsInWord inWord (c :: s) = endsInWord (isWord c) s := by
  cases s with
  | nil => rfl
  | cons d s => simp [endsInWord, List.getLast?_cons]

variable {test : List Char → Bool}

theorem atWordStart_append (inWord : Bool) (u v : List Char) :
    atWordStart test inWord (u ++ v) =
      (atWordStart (fun s => test (s ++ v)) inWord u ||
        atWordStart test (endsInWord inWord u) v) := by
  induction u generalizing inWord with
  | nil => rfl
  | cons c u ih =>
    rw [List.cons_append, atWordStart, atWordStart, ih, endsInWord_cons, Bool.or_assoc]
    rfl

theorem atWordStart_congr {test' : List Char → Bool} {s : List Char}
    (h : ∀ t, t ≠ [] → t <:+ s → test t = test' t) (inWord : Bool) :
    atWordStart test inWord s = atWordStart test' inWord s := by
  induction s generalizing inWord with
  | nil => rfl
  | cons c s ih =>
    rw [atWordStart, atWordStart, h (c :: s) (List.cons_ne_nil c s) List.suffix_rfl,
      ih fun t ht hs => h t ht (hs.trans (List.suffix_cons c s))]

theorem atWordStart_iff {inWord : Bool} {s : List Char} :
    atWordStart test inWord s = true ↔
      ∃ u v, s = u ++ v ∧ v ≠ [] ∧ endsInWord inWord u = false ∧ test v = true := by
  induction s generalizing inWord with
  | nil => simp [atWordStart]
  | cons c s ih =>
    rw [atWordStart, Bool.or_eq_true, Bool.and_eq_true, ih]
    constructor
    · rintro (⟨hstart, htest⟩ | ⟨u, v, rfl, hv, hstart, htest⟩)
      · exact ⟨[], c :: s, rfl, List.cons_ne_nil c s, by simpa [endsInWord] using hstart, htest⟩
      · exact ⟨c :: u, v, rfl, hv, by rw [endsInWord_cons, hstart], htest⟩
    · rintro ⟨u, v, hs, hv, hstart, htest⟩
      cases u with
      | nil =>
        obtain rfl : c :: s = v := hs
        exact .inl ⟨by simpa [endsInWord] using hstart, htest⟩
      | cons d u =>
        cases hs
        exact .inr ⟨u, v, rfl, hv, by rw [← endsInWord_cons, hstart], htest⟩

/-! ### Ends of declarations -/

theorem isName_blui : IsName "blui".toList := ⟨by decide, by decide⟩

theorem foreign_langWord {c : Char} (hc : isWord c = false) : Foreign langWord c :=
  foreign_of_not_isWord (by decide) hc

theorem declarationAt_cons {c : Char} (hc : isWord c = false) (s : List Char) :
    declarationAt language (c :: s) = false := by
  have hfold : fold c ≠ fold 'l' := foreign_langWord hc 'l' (by decide)
  simp [declarationAt, afterFolded?, hfold]

theorem declaresFrom_cons {c : Char} (hc : isWord c = false) (inWord : Bool) (s : List Char) :
    declaresFrom language inWord (c :: s) = declaresFrom language false s := by
  rw [declaresFrom, declarationAt_cons hc, Bool.and_false, Bool.false_or, hc]

theorem declaresFrom_append {u : List Char} (hu : ∀ c ∈ u, isWord c = false) (s : List Char) :
    declaresFrom language false (u ++ s) = declaresFrom language false s := by
  induction u with
  | nil => rfl
  | cons c u ih =>
    rw [List.forall_mem_cons] at hu
    rw [List.cons_append, declaresFrom_cons hu.1, ih hu.2]

/-- A quoted name does not reach over a quote. -/
theorem quotedAt_quote (hname : IsName language) {q q' : Char} (hq' : isQuote q')
    (s rest : List Char) :
    quotedAt language (q :: (s ++ q' :: rest)) = quotedAt language (q :: (s ++ [q'])) := by
  have hletters := hname.letters
  clear hname
  simp only [quotedAt]
  congr 1
  induction s generalizing language with
  | nil =>
    cases language with
    | nil => rfl
    | cons w language =>
      have hfold : fold q' ≠ fold w :=
        foreign_of_not_isWord hletters (isWord_eq_false_of_isQuote hq') w List.mem_cons_self
      simp [afterFolded?, hfold]
  | cons c s ih =>
    cases language with
    | nil => rfl
    | cons w language =>
      simp only [List.cons_append, afterFolded?]
      split_ifs
      · exact ih (List.forall_mem_cons.1 hletters).2
      · rfl

/-- White space does not begin a name. -/
theorem quotedAt_blank (hname : IsName language) {s : List Char} (hs : ∀ c ∈ s.head?, isBlank c)
    (q : Char) : quotedAt language (q :: s) = false := by
  obtain ⟨w, rest, rfl⟩ := List.exists_cons_of_ne_nil hname.ne_nil
  cases s with
  | nil => simp [quotedAt, afterFolded?]
  | cons c s =>
    have hfold : fold c ≠ fold w := foreign_of_not_isWord hname.letters
      (isWord_eq_false_of_isBlank (hs c rfl)) w List.mem_cons_self
    simp [quotedAt, afterFolded?, hfold]

/-- What follows the word `lang` does not reach over a quote that white space follows. -/
theorem valueFollows_quote (hname : IsName language) {q : Char} (hq : isQuote q)
    {rest : List Char} (hrest : ∀ c ∈ rest.head?, isBlank c) (s : List Char) :
    valueFollows language (s ++ q :: rest) = valueFollows language (s ++ [q]) := by
  have hblank := isBlank_eq_false_of_isQuote hq
  have hne : q ≠ '=' := by
    rintro rfl
    cases hq
  obtain ⟨u, hu, hs⟩ := exists_blanks s
  cases ht : s.dropWhile isBlank with
  | nil =>
    rw [hs, ht, List.append_nil]
    simp [valueFollows, dropWhile_blanks hu hblank, hne]
  | cons c t =>
    have hc : isBlank c = false := by
      have hhead := List.head?_dropWhile_not isBlank s
      simpa [ht] using hhead
    rw [hs, ht]
    simp only [valueFollows, List.append_assoc, List.cons_append, dropWhile_blanks hu hc]
    split
    · rename_i t' heq
      cases heq
      obtain ⟨u', hu', ht'⟩ := exists_blanks t
      cases hb : t.dropWhile isBlank with
      | nil =>
        rw [ht', hb, List.append_nil]
        simp only [dropWhile_blanks hu' hblank]
        rw [quotedAt_blank hname hrest, quotedAt_blank hname (by simp)]
      | cons d b =>
        have hd : isBlank d = false := by
          have hhead := List.head?_dropWhile_not isBlank t
          simpa [hb] using hhead
        rw [ht', hb]
        simp only [List.append_assoc, List.cons_append, dropWhile_blanks hu' hd]
        exact quotedAt_quote hname hq b rest
    · rename_i hnot
      split
      · rename_i heq
        cases heq
        exact absurd rfl (hnot _)
      · rfl

/-- A declaration does not reach over a quote that white space follows. -/
theorem declarationAt_quote (hname : IsName language) {q : Char} (hq : isQuote q)
    {rest : List Char} (hrest : ∀ c ∈ rest.head?, isBlank c) (s : List Char) :
    declarationAt language (s ++ q :: rest) = declarationAt language (s ++ [q]) := by
  have hforeign := foreign_langWord (isWord_eq_false_of_isQuote hq)
  rw [declarationAt_eq, declarationAt_eq]
  generalize langWord = word at hforeign
  induction s generalizing word with
  | nil =>
    cases word with
    | nil => exact valueFollows_quote hname hq hrest []
    | cons w word => simp [afterFolded?, hforeign w List.mem_cons_self]
  | cons c s ih =>
    cases word with
    | nil => exact valueFollows_quote hname hq hrest (c :: s)
    | cons w word =>
      simp only [List.cons_append, afterFolded?]
      split_ifs
      · exact ih word fun x hx => hforeign x (List.mem_cons_of_mem w hx)
      · rfl

/-- Up to a quote that white space follows and behind it, declarations are found apart. -/
theorem declaresFrom_quote (hname : IsName language) {q : Char} (hq : isQuote q)
    {rest : List Char} (hrest : ∀ c ∈ rest.head?, isBlank c) (s : List Char) :
    declaresFrom language false (s ++ q :: rest) =
      (declaresFrom language false (s ++ [q]) || declaresFrom language false rest) := by
  have hword := isWord_eq_false_of_isQuote hq
  have hsame : atWordStart (fun t => declarationAt language (t ++ q :: rest)) false s =
      atWordStart (fun t => declarationAt language (t ++ [q])) false s :=
    atWordStart_congr (fun t _ _ => declarationAt_quote hname hq hrest t) false
  simp only [declaresFrom_eq, atWordStart_append, hsame]
  simp only [← declaresFrom_eq, declaresFrom_cons hword]
  simp [declaresFrom]

/-! ### Attributes -/

/-- The value of an attribute as it is written, with the white space around the equals sign. -/
structure WrittenValue where
  before : List Char
  behind : List Char
  quote : Char
  text : List Char
  blank_before : ∀ c ∈ before, isBlank c
  blank_behind : ∀ c ∈ behind, isBlank c
  isQuote_quote : isQuote quote
  quote_notMem : quote ∉ text

def WrittenValue.characters (v : WrittenValue) : List Char :=
  v.before ++ '=' :: (v.behind ++ v.quote :: (v.text ++ [v.quote]))

/-- An attribute as it is written: a name alone, or a name and a value. -/
structure WrittenAttribute where
  name : List Char
  value : Option WrittenValue
  name_ne_nil : name ≠ []
  name_plain : ∀ c ∈ name, isBlank c = false ∧ isQuote c = false ∧ c ≠ '='

namespace WrittenAttribute

def characters (a : WrittenAttribute) : List Char :=
  a.name ++ (a.value.map WrittenValue.characters).getD []

/-- The attribute declares the language. -/
def Declares (language : List Char) (a : WrittenAttribute) : Prop :=
  SameLetters a.name langWord ∧ ∃ v ∈ a.value, SameLetters v.text language

/-- The name ends in the word `lang`. -/
def EndsInLang (name : List Char) : Prop :=
  ∃ u word, name = u ++ word ∧ endsInWord false u = false ∧ SameLetters word langWord

/-- The value is the name of the language, at least up to a quote. -/
def BeginsWith (language text : List Char) : Prop :=
  ∃ name rest, text = name ++ rest ∧ SameLetters name language ∧ ∀ q ∈ rest.head?, isQuote q

/-- A declaration stands in the text, at the start of a word. -/
def Quotes (language text : List Char) : Prop :=
  ∃ u d rest, text = u ++ (d ++ rest) ∧ endsInWord false u = false ∧ IsDeclaration language d

/-- The attribute is taken for a declaration of the language. -/
def Taken (language : List Char) (a : WrittenAttribute) : Prop :=
  ∃ v ∈ a.value, (EndsInLang a.name ∧ BeginsWith language v.text) ∨
    Quotes language (v.text ++ [v.quote])

/-- The name is one word, and no quote stands in the value. -/
def Plain (a : WrittenAttribute) : Prop :=
  (∀ c ∈ a.name, isWord c) ∧ ∀ v ∈ a.value, ∀ c ∈ v.text, isQuote c = false

theorem head?_value (v : WrittenValue) (s : List Char) :
    ∀ c ∈ (v.characters ++ s).head?, isWord c = false := by
  intro c hc
  unfold WrittenValue.characters at hc
  cases hbefore : v.before with
  | nil =>
    rw [hbefore] at hc
    cases hc
    decide +kernel
  | cons d before =>
    rw [hbefore] at hc
    cases hc
    exact isWord_eq_false_of_isBlank (v.blank_before c (by simp [hbefore]))

/-- Inside a name only its last word counts, and only if a value follows it. -/
theorem declarationAt_name {name rest : List Char}
    (hname : ∀ c ∈ name, isBlank c = false ∧ isQuote c = false ∧ c ≠ '=')
    (hrest : ∀ c ∈ rest.head?, isWord c = false) :
    declarationAt language (name ++ rest) =
      (decide (SameLetters name langWord) && valueFollows language rest) := by
  have hforeign : ∀ c ∈ rest.head?, Foreign langWord c := fun c hc => foreign_langWord (hrest c hc)
  rw [declarationAt_eq]
  generalize langWord = word at hforeign
  induction name generalizing word with
  | nil =>
    cases word with
    | nil => simp [afterFolded?, SameLetters]
    | cons w word =>
      cases rest with
      | nil => simp [afterFolded?, SameLetters]
      | cons c rest => simp [afterFolded?, SameLetters, hforeign c rfl w List.mem_cons_self]
  | cons c name ih =>
    obtain ⟨⟨hblank, -, hequals⟩, hname⟩ := List.forall_mem_cons.1 hname
    cases word with
    | nil =>
      have hstops : valueFollows language (c :: (name ++ rest)) = false := by
        simp [valueFollows, List.dropWhile_cons_of_neg, hblank, hequals]
      simp [afterFolded?, SameLetters, hstops]
    | cons w word =>
      simp only [List.cons_append, afterFolded?]
      split_ifs with hfold
      · rw [ih hname word fun x hx y hy => hforeign x hx y (List.mem_cons_of_mem w hy)]
        simp [sameLetters_cons, hfold]
      · simp [sameLetters_cons, hfold]

theorem valueFollows_value (hlanguage : IsName language) (v : WrittenValue) (s : List Char) :
    valueFollows language (v.characters ++ s) =
      quotedAt language (v.quote :: (v.text ++ [v.quote])) := by
  unfold valueFollows WrittenValue.characters
  simp only [List.append_assoc, List.cons_append]
  rw [dropWhile_blanks v.blank_before (by decide)]
  simp only
  rw [dropWhile_blanks v.blank_behind (isBlank_eq_false_of_isQuote v.isQuote_quote)]
  exact quotedAt_quote hlanguage v.isQuote_quote v.text s

/-- Whether an attribute is taken for a declaration does not depend on what stands around it. -/
def taken (language : List Char) (a : WrittenAttribute) : Bool :=
  a.value.any fun v =>
    (atWordStart (fun word => SameLetters word langWord) false a.name &&
      quotedAt language (v.quote :: (v.text ++ [v.quote]))) ||
    declaresFrom language false (v.text ++ [v.quote])

theorem declaresFrom_name {name rest : List Char}
    (hname : ∀ c ∈ name, isBlank c = false ∧ isQuote c = false ∧ c ≠ '=')
    (hrest : ∀ c ∈ rest.head?, isWord c = false) :
    declaresFrom language false (name ++ rest) =
      ((atWordStart (fun word => SameLetters word langWord) false name &&
        valueFollows language rest) || declaresFrom language false rest) := by
  have hsame : atWordStart (fun t => declarationAt language (t ++ rest)) false name =
      atWordStart (fun t => decide (SameLetters t langWord) && valueFollows language rest)
        false name :=
    atWordStart_congr
      (fun t _ ht => declarationAt_name (fun c hc => hname c (ht.mem hc)) hrest) false
  have hflag : atWordStart (declarationAt language) (endsInWord false name) rest =
      atWordStart (declarationAt language) false rest := by
    cases rest with
    | nil => rfl
    | cons c rest =>
      have hc := hrest c rfl
      rw [← declaresFrom_eq, ← declaresFrom_eq, declaresFrom_cons hc, declaresFrom_cons hc]
  rw [declaresFrom_eq, atWordStart_append, hsame, hflag, declaresFrom_eq]
  congr 1
  cases valueFollows language rest with
  | true => simp
  | false =>
    simp only [Bool.and_false]
    rw [Bool.eq_false_iff, ne_eq, atWordStart_iff]
    simp

/-- An attribute in front of white space, or at the end, is searched by itself. -/
theorem declaresFrom_attribute (hlanguage : IsName language) (a : WrittenAttribute)
    {s : List Char} (hs : ∀ c ∈ s.head?, isBlank c) (hvalue : valueFollows language s = false) :
    declaresFrom language false (a.characters ++ s) =
      (a.taken language || declaresFrom language false s) := by
  have hbreak : ∀ c ∈ s.head?, isWord c = false := fun c hc => isWord_eq_false_of_isBlank (hs c hc)
  unfold characters taken
  cases a.value with
  | none =>
    simp only [Option.map_none, Option.getD_none, List.append_nil, Option.any_none, Bool.false_or]
    rw [declaresFrom_name a.name_plain hbreak, hvalue, Bool.and_false, Bool.false_or]
  | some v =>
    simp only [Option.map_some, Option.getD_some, List.append_assoc, Option.any_some]
    rw [declaresFrom_name a.name_plain (head?_value v s), valueFollows_value hlanguage,
      Bool.or_assoc]
    congr 1
    have hbefore : ∀ c ∈ v.before, isWord c = false := fun c hc =>
      isWord_eq_false_of_isBlank (v.blank_before c hc)
    have hbehind : ∀ c ∈ v.behind, isWord c = false := fun c hc =>
      isWord_eq_false_of_isBlank (v.blank_behind c hc)
    unfold WrittenValue.characters
    simp only [List.append_assoc, List.cons_append, List.nil_append]
    rw [declaresFrom_append hbefore, declaresFrom_cons (by decide +kernel),
      declaresFrom_append hbehind, declaresFrom_cons (isWord_eq_false_of_isQuote v.isQuote_quote),
      declaresFrom_quote hlanguage v.isQuote_quote hs]

theorem endsInLang_iff {name : List Char} :
    atWordStart (fun word => SameLetters word langWord) false name = true ↔ EndsInLang name := by
  rw [atWordStart_iff]
  constructor
  · rintro ⟨u, word, hname, -, hstart, hword⟩
    exact ⟨u, word, hname, hstart, of_decide_eq_true hword⟩
  · rintro ⟨u, word, hname, hstart, hword⟩
    have hne : word ≠ [] := List.ne_nil_of_length_pos (by rw [hword.length_eq]; decide)
    exact ⟨u, word, hname, hne, hstart, decide_eq_true hword⟩

theorem quotedAt_value (hlanguage : IsName language) (v : WrittenValue) :
    quotedAt language (v.quote :: (v.text ++ [v.quote])) = true ↔ BeginsWith language v.text := by
  rw [quotedAt_iff]
  constructor
  · rintro ⟨q, name, q', rest, hquoted, -, hname, hq'⟩
    obtain ⟨-, h⟩ := List.cons.inj hquoted
    rcases List.append_eq_append_iff.1 h with ⟨more, rfl, hmore⟩ | ⟨more, htext, -⟩
    · -- the name ends with the value, for there is no quote in it
      cases more with
      | nil => exact ⟨v.text, [], by simp, by simpa using hname, by simp⟩
      | cons c more =>
        obtain ⟨rfl, -⟩ := List.cons.inj hmore
        obtain ⟨w, hw, hfold⟩ :=
          exists_fold_eq (afterFolded?_eq_nil.2 hname) (c := v.quote) (by simp)
        have hforeign := foreign_of_not_isWord hlanguage.letters
          (isWord_eq_false_of_isQuote v.isQuote_quote)
        exact absurd hfold (hforeign w hw)
    · refine ⟨name, more, htext, hname, fun c hc => ?_⟩
      obtain ⟨more, rfl⟩ := List.head?_eq_some_iff.1 hc
      rw [htext] at h
      obtain ⟨rfl, -⟩ : c = q' ∧ more ++ [v.quote] = rest := by simpa using h
      exact hq'
  · rintro ⟨name, rest, htext, hname, hrest⟩
    cases rest with
    | nil =>
      exact ⟨v.quote, name, v.quote, [], by simp [htext], v.isQuote_quote, hname, v.isQuote_quote⟩
    | cons c rest =>
      exact ⟨v.quote, name, c, rest ++ [v.quote], by simp [htext], v.isQuote_quote, hname,
        hrest c rfl⟩

theorem quotes_iff {text : List Char} :
    declaresFrom language false text = true ↔ Quotes language text := by
  rw [declaresFrom_eq, atWordStart_iff]
  constructor
  · rintro ⟨u, s, htext, -, hstart, hs⟩
    obtain ⟨d, rest, rfl, hd⟩ := declarationAt_iff.1 hs
    exact ⟨u, d, rest, htext, hstart, hd⟩
  · rintro ⟨u, d, rest, htext, hstart, hd⟩
    have hne : d ++ rest ≠ [] := by
      obtain ⟨word, before, behind, q, name, q', rfl, -⟩ := hd
      simp
    exact ⟨u, d ++ rest, htext, hne, hstart, declarationAt_iff.2 ⟨d, rest, rfl, hd⟩⟩

theorem taken_iff (hlanguage : IsName language) (a : WrittenAttribute) :
    a.taken language = true ↔ a.Taken language := by
  simp only [taken, Taken, Option.any_eq_true, Bool.or_eq_true, Bool.and_eq_true, endsInLang_iff,
    quotedAt_value hlanguage, quotes_iff, Option.mem_def]

theorem Declares.taken {a : WrittenAttribute} (h : a.Declares language) : a.Taken language := by
  obtain ⟨hname, v, hv, htext⟩ := h
  exact ⟨v, hv, .inl ⟨⟨[], a.name, rfl, rfl, hname⟩, v.text, [], by simp, htext, by simp⟩⟩

/-- A declaration holds two quotes. -/
theorem two_le_countP_of_isDeclaration {d : List Char} (h : IsDeclaration language d) :
    2 ≤ d.countP isQuote := by
  obtain ⟨word, before, behind, q, name, q', rfl, -, -, -, hq, -, hq'⟩ := h
  simp only [List.countP_append, List.countP_cons, hq, hq']
  simp
  omega

/-- A plain attribute is taken for a declaration only if it is one. -/
theorem Plain.declares {a : WrittenAttribute} (ha : a.Plain) (h : a.Taken language) :
    a.Declares language := by
  obtain ⟨v, hv, ⟨⟨u, word, hname, hstart, hword⟩, name, rest, htext, hlanguage, hrest⟩ |
    ⟨u, d, rest, htext, -, hd⟩⟩ := h
  · have hu : u = [] := by
      rcases List.eq_nil_or_concat u with hu | ⟨u, c, rfl⟩
      · exact hu
      · have hc : isWord c := ha.1 c (by simp [hname])
        simp [endsInWord, hc] at hstart
    have hrest : rest = [] := by
      cases rest with
      | nil => rfl
      | cons c rest =>
        have hc := ha.2 v hv c (by simp [htext])
        rw [hrest c rfl] at hc
        cases hc
    subst hu hrest
    exact ⟨by simpa [hname] using hword, v, hv, by simpa [htext] using hlanguage⟩
  · have hcount : (v.text ++ [v.quote]).countP isQuote ≤ 1 := by
      have hnone : v.text.countP isQuote = 0 :=
        List.countP_eq_zero.2 fun c hc => by simp [ha.2 v hv c hc]
      simp [List.countP_append, hnone, v.isQuote_quote]
    have htwo := two_le_countP_of_isDeclaration hd
    rw [htext, List.countP_append, List.countP_append] at hcount
    omega

end WrittenAttribute

/-- The text consists of the attributes, with white space between them and possibly around. -/
inductive Lists : List WrittenAttribute → List Char → Prop where
  | blank {s : List Char} (hs : ∀ c ∈ s, isBlank c) : Lists [] s
  | cons {gap s : List Char} {as : List WrittenAttribute} (a : WrittenAttribute)
      (hgap : ∀ c ∈ gap, isBlank c) (hrest : Lists as s) (hapart : ∀ c ∈ s.head?, isBlank c) :
      Lists (a :: as) (gap ++ (a.characters ++ s))

theorem valueFollows_of_lists {as : List WrittenAttribute} {s : List Char} (h : Lists as s) :
    valueFollows language s = false := by
  cases h with
  | blank hs => simp [valueFollows, List.dropWhile_eq_nil_iff.2 hs]
  | @cons gap s as a hgap hrest hapart =>
    obtain ⟨c, name, hname⟩ := List.exists_cons_of_ne_nil a.name_ne_nil
    obtain ⟨hblank, -, hequals⟩ := a.name_plain c (by simp [hname])
    simp [valueFollows, WrittenAttribute.characters, hname, dropWhile_blanks hgap hblank, hequals]

theorem declaresFrom_of_lists (hlanguage : IsName language) {as : List WrittenAttribute}
    {s : List Char} (h : Lists as s) :
    declaresFrom language false s = as.any (·.taken language) := by
  induction h with
  | blank hs =>
    have hend := @declaresFrom_append language _
      (fun c hc => isWord_eq_false_of_isBlank (hs c hc)) []
    rwa [List.append_nil] at hend
  | cons a hgap hrest hapart ih =>
    rw [declaresFrom_append fun c hc => isWord_eq_false_of_isBlank (hgap c hc),
      a.declaresFrom_attribute hlanguage hapart (valueFollows_of_lists hrest), ih, List.any_cons]

/-- A template is compiled exactly if one of its attributes is taken for a declaration of the
language. That is so if an attribute declares the language; the converse holds if all attributes are
plain. -/
theorem isCompiledTemplate_iff_taken {as : List WrittenAttribute} {attributes : String}
    (h : Lists as attributes.toList) :
    (isCompiledTemplate attributes = true ↔ ∃ a ∈ as, a.Taken "blui".toList) ∧
      ((∃ a ∈ as, a.Declares "blui".toList) → isCompiledTemplate attributes = true) ∧
      ((∀ a ∈ as, a.Plain) →
        (isCompiledTemplate attributes = true ↔ ∃ a ∈ as, a.Declares "blui".toList)) := by
  have htaken : isCompiledTemplate attributes = true ↔ ∃ a ∈ as, a.Taken "blui".toList := by
    rw [isCompiledTemplate, declares, declaresFrom_of_lists isName_blui h, List.any_eq_true]
    simp only [WrittenAttribute.taken_iff isName_blui]
  have hdeclares : (∃ a ∈ as, a.Declares "blui".toList) → isCompiledTemplate attributes = true := by
    rintro ⟨a, ha, hdeclares⟩
    exact htaken.2 ⟨a, ha, hdeclares.taken⟩
  refine ⟨htaken, hdeclares, fun hplain => ⟨fun hcompiled => ?_, hdeclares⟩⟩
  obtain ⟨a, ha, hmistaken⟩ := htaken.1 hcompiled
  exact ⟨a, ha, (hplain a ha).declares hmistaken⟩

/-- An attribute whose name only ends in the word `lang`. -/
def dataLang : WrittenAttribute where
  name := "data-lang".toList
  value := some ⟨[], [], '"', "blui".toList, by simp, by simp, by decide, by decide⟩
  name_ne_nil := by decide
  name_plain := @of_decide_eq_true _ (List.decidableBAll _ _) (by decide)

/-- It declares nothing, and a template is compiled for it. -/
theorem dataLang_compiled :
    Lists [dataLang] "data-lang=\"blui\"".toList ∧
      (∀ a ∈ [dataLang], ¬ a.Declares "blui".toList) ∧
      isCompiledTemplate "data-lang=\"blui\"" = true := by
  have hlists : Lists [dataLang] "data-lang=\"blui\"".toList :=
    @Lists.cons [] [] [] dataLang (by simp) (.blank (by simp)) (by simp)
  have htaken : dataLang.Taken "blui".toList :=
    ⟨_, rfl, .inl ⟨⟨"data-".toList, "lang".toList, rfl, by decide +kernel, rfl⟩,
      "blui".toList, [], rfl, rfl, by simp⟩⟩
  refine ⟨hlists, fun a ha hdeclares => ?_,
    (isCompiledTemplate_iff_taken hlists).1.2 ⟨dataLang, by simp, htaken⟩⟩
  obtain rfl := List.mem_singleton.1 ha
  exact absurd hdeclares.1 (by decide)

end Widgetry.Component
