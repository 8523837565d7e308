import Widgetry.Proofs.Program.Syntax

/-! Code that stands on its own: it is read from outside of everything to outside of everything, and
its brackets are closed in stack order. Such pieces can be put one behind the other, into braces and
behind an indentation, and their quoted texts come in the same order. -/

namespace Widgetry.Program

open Text (isIdentifierPart pad indentLines)

/-! ### Pieces of code -/

/-- The tokens of a piece of code, and what the scanner is inside of behind it. -/
def scanTo : Mode → List Char → Option (List Token × Mode)
  | mode, [] => some ([], mode)
  | mode, c :: cs => do
    let (first, mode) ← mode.step c
    let (rest, mode) ← scanTo mode cs
    return (first ++ rest, mode)

theorem scanTo_cons_eq_some {mode mode' : Mode} {c : Char} {cs : List Char} {ts : List Token} :
    scanTo mode (c :: cs) = some (ts, mode') ↔
      ∃ first next rest, mode.step c = some (first, next) ∧ scanTo next cs = some (rest, mode') ∧
        ts = first ++ rest := by
  simp only [scanTo, Option.bind_eq_bind, Option.bind_eq_some_iff, Prod.exists]
  constructor
  · rintro ⟨first, next, hstep, rest, last, hrest, heq⟩
    cases heq
    exact ⟨first, next, rest, hstep, hrest, rfl⟩
  · rintro ⟨first, next, rest, hstep, hrest, rfl⟩
    exact ⟨first, next, hstep, rest, mode', hrest, rfl⟩

theorem scanTo_append_eq_some {mode mode' : Mode} {xs ys : List Char} {ts : List Token} :
    scanTo mode (xs ++ ys) = some (ts, mode') ↔
      ∃ first next rest, scanTo mode xs = some (first, next) ∧ scanTo next ys = some (rest, mode') ∧
        ts = first ++ rest := by
  induction xs generalizing mode ts with
  | nil => simp [scanTo]
  | cons c xs ih =>
    simp only [List.cons_append, scanTo_cons_eq_some, ih]
    constructor
    · rintro ⟨first, next, _, hstep, ⟨second, last, rest, hxs, hys, rfl⟩, rfl⟩
      exact ⟨first ++ second, last, rest, ⟨first, next, second, hstep, hxs, rfl⟩, hys, by simp⟩
    · rintro ⟨_, last, rest, ⟨first, next, second, hstep, hxs, rfl⟩, hys, rfl⟩
      exact ⟨first, next, second ++ rest, hstep, ⟨second, last, rest, hxs, hys, rfl⟩, by simp⟩

/-- A scan goes on where the piece in front has led. -/
theorem scan_append {mode next : Mode} {xs : List Char} {first : List Token}
    (h : scanTo mode xs = some (first, next)) (ys : List Char) :
    scan mode (xs ++ ys) = front first (scan next ys) := by
  induction xs generalizing mode first with
  | nil =>
    cases h
    simp
  | cons c xs ih =>
    obtain ⟨second, middle, rest, hstep, hrest, rfl⟩ := scanTo_cons_eq_some.1 h
    rw [List.cons_append, scan_cons hstep, ih hrest, front_front]

theorem scanTo_of_scan {mode : Mode} {cs : List Char} {ts : List Token}
    (h : scan mode cs = some ts) :
    ∃ first last ending, scanTo mode cs = some (first, last) ∧ last.finish = some ending ∧
      ts = first ++ ending := by
  induction cs generalizing mode ts with
  | nil => exact ⟨[], mode, ts, rfl, h, rfl⟩
  | cons c cs ih =>
    simp only [scan, Option.bind_eq_bind, Option.bind_eq_some_iff, Prod.exists] at h
    obtain ⟨first, next, hstep, rest, hrest, heq⟩ := h
    cases heq
    obtain ⟨second, last, ending, hscan, hfinish, rfl⟩ := ih hrest
    exact ⟨first ++ second, last, ending,
      scanTo_cons_eq_some.2 ⟨first, next, second, hstep, hscan, rfl⟩, hfinish, by simp⟩

/-- A piece that leaves whatever follows to be read from outside of everything leads there. -/
theorem scanTo_of_forall_scan {cs : List Char} {ts : List Token}
    (h : ∀ rest, scan .blank (cs ++ rest) = front ts (scan .blank rest)) :
    scanTo .blank cs = some (ts, .blank) := by
  have hempty : scan .blank cs = some ts := by
    simpa [scan, Mode.finish, front] using h []
  obtain ⟨first, last, ending, hscan, hfinish, hts⟩ := scanTo_of_scan hempty
  have hrest := fun rest => (scan_append hscan rest).symm.trans (h rest)
  -- behind a word a letter would be part of it, and a comment takes any quote
  have hletter := hrest ['a']
  have hquote := hrest ['\'']
  cases last with
  | blank =>
    cases hfinish
    rw [hts, List.append_nil]
    exact hscan
  | word seen =>
    cases hfinish
    subst hts
    simp [scan, Mode.step, Mode.start, Mode.finish, front, isIdentifierPart] at hletter
  | text seen => cases hfinish
  | escape seen => cases hfinish
  | slash => cases hfinish
  | comment => simp [scan, Mode.step, Mode.start, Mode.finish, front, isIdentifierPart] at hquote

/-! ### Brackets -/

/-- The bracket that an opening one waits for. -/
def closing? : Char → Option Char
  | '{' => some '}'
  | '(' => some ')'
  | '[' => some ']'
  | _ => none

def closings : List Char := ['}', ')', ']']

/-- The brackets that are waited for behind a token, the innermost first; a closing bracket that is
not waited for has no result. -/
def Token.nest : Token → List Char → Option (List Char)
  | mark c, stack =>
    match closing? c with
    | some close => some (close :: stack)
    | none =>
      if c ∈ closings then if stack.head? = some c then some stack.tail else none
      else some stack
  | _, stack => some stack

def brackets (ts : List Token) (stack : List Char) : Option (List Char) :=
  ts.foldlM (fun stack t => t.nest stack) stack

@[simp] theorem brackets_nil (stack : List Char) : brackets [] stack = some stack := rfl

@[simp] theorem brackets_cons (t : Token) (ts : List Token) (stack : List Char) :
    brackets (t :: ts) stack = t.nest stack >>= brackets ts := by
  simp [brackets]
  rfl

@[simp] theorem brackets_append (ts us : List Token) (stack : List Char) :
    brackets (ts ++ us) stack = brackets ts stack >>= brackets us := by
  simp [brackets]
  rfl

theorem Token.nest_append {t : Token} {stack stack' : List Char} (h : t.nest stack = some stack')
    (below : List Char) : t.nest (stack ++ below) = some (stack' ++ below) := by
  cases t with
  | mark c =>
    simp only [nest] at h ⊢
    cases hc : closing? c with
    | some close =>
      rw [hc] at h
      cases h
      rfl
    | none =>
      rw [hc] at h
      by_cases hclose : c ∈ closings
      · simp only [if_pos hclose] at h ⊢
        cases stack with
        | nil => simp at h
        | cons top stack =>
          obtain ⟨rfl, rfl⟩ : top = c ∧ stack = stack' := by simpa using h
          simp
      · simp only [if_neg hclose] at h ⊢
        cases h
        rfl
  | word name =>
    cases h
    rfl
  | text value =>
    cases h
    rfl

/-- Brackets that are waited for from before stay below. -/
theorem brackets_frame {ts : List Token} {stack stack' : List Char}
    (h : brackets ts stack = some stack') (below : List Char) :
    brackets ts (stack ++ below) = some (stack' ++ below) := by
  induction ts generalizing stack with
  | nil =>
    cases h
    rfl
  | cons t ts ih =>
    rw [brackets_cons] at h ⊢
    obtain ⟨next, hnest, hrest⟩ := Option.bind_eq_some_iff.1 h
    rw [Token.nest_append hnest]
    exact ih hrest

/-- Every bracket that is opened is closed, in stack order. -/
def Closed (ts : List Token) : Prop := brackets ts [] = some []

theorem Closed.brackets_eq {ts : List Token} (h : Closed ts) (stack : List Char) :
    brackets ts stack = some stack := brackets_frame h stack

theorem Closed.append {ts us : List Token} (hts : Closed ts) (hus : Closed us) :
    Closed (ts ++ us) := by
  rw [Closed, brackets_append, hts.brackets_eq]
  exact hus

theorem Closed.enclosed {ts : List Token} (h : Closed ts) {c d : Char} (hc : closing? c = some d)
    (hd : d ∈ closings) (hd' : closing? d = none) : Closed (.mark c :: (ts ++ [.mark d])) := by
  simp [Closed, Token.nest, hc, h.brackets_eq, hd, hd']

/-- A token that is no bracket changes nothing. -/
theorem Closed.cons {t : Token} {ts : List Token} (ht : ∀ stack, t.nest stack = some stack)
    (h : Closed ts) : Closed (t :: ts) := by
  rw [Closed, brackets_cons, ht]
  exact h

theorem closed_of_flat {ts : List Token} (h : ∀ t ∈ ts, ∀ stack, t.nest stack = some stack) :
    Closed ts := by
  induction ts with
  | nil => rfl
  | cons t ts ih =>
    rw [List.forall_mem_cons] at h
    exact (ih h.2).cons h.1

/-! ### Texts -/

def Token.text? : Token → Option String
  | text value => some value
  | _ => none

/-- The quoted texts among tokens. -/
def texts (ts : List Token) : List String := ts.filterMap Token.text?

@[simp] theorem texts_append (ts us : List Token) : texts (ts ++ us) = texts ts ++ texts us :=
  List.filterMap_append

@[simp] theorem texts_mark (c : Char) (ts : List Token) : texts (.mark c :: ts) = texts ts := rfl

@[simp] theorem texts_word (name : String) (ts : List Token) :
    texts (.word name :: ts) = texts ts := rfl

@[simp] theorem texts_nil : texts [] = [] := rfl

theorem texts_pathTokens (names : List String) : texts (pathTokens names) = [] := by
  fun_induction pathTokens names with
  | case1 => rfl
  | case2 => rfl
  | case3 name names _ ih => simpa using ih

theorem closed_pathTokens (names : List String) : Closed (pathTokens names) := by
  refine closed_of_flat fun t ht stack => ?_
  cases t with
  | mark c =>
    obtain rfl : c = '.' := by
      by_contra hne
      exact mark_notMem_pathTokens hne names ht
    rfl
  | word name => rfl
  | text value => rfl

/-- The texts of an operand. -/
def Operand.texts : Operand → List String
  | text value => [value]
  | path _ => []

theorem closed_operand (a : Operand) : Closed a.tokens := by
  cases a with
  | text value => rfl
  | path p => exact closed_pathTokens _

theorem texts_operand (a : Operand) : Program.texts a.tokens = a.texts := by
  cases a with
  | text value => rfl
  | path p => exact texts_pathTokens _

theorem closed_operands (as : List Operand) :
    Closed ([.mark ','].intercalate (as.map Operand.tokens)) := by
  induction as with
  | nil => rfl
  | cons a as ih =>
    cases as with
    | nil => simpa using closed_operand a
    | cons a' as =>
      simp only [List.map_cons, List.intercalate_cons_cons, List.append_assoc] at ih ⊢
      exact (closed_operand a).append (ih.cons fun _ => rfl)

theorem texts_operands (as : List Operand) :
    texts ([.mark ','].intercalate (as.map Operand.tokens)) = as.flatMap Operand.texts := by
  induction as with
  | nil => rfl
  | cons a as ih =>
    cases as with
    | nil => simpa using texts_operand a
    | cons a' as =>
      simp only [List.map_cons, List.intercalate_cons_cons, List.append_assoc] at ih ⊢
      rw [texts_append, texts_append, ih, texts_operand, List.flatMap_cons]
      rfl

theorem closed_call (callee : Path) (as : List Operand) : Closed (callTokens callee as) :=
  (closed_pathTokens _).append ((closed_operands as).enclosed rfl (by decide) rfl)

theorem texts_call (callee : Path) (as : List Operand) :
    texts (callTokens callee as) = as.flatMap Operand.texts := by
  simp [callTokens, Path.tokens, texts_pathTokens, texts_operands]

theorem Closed.semicolon {ts : List Token} (h : Closed ts) : Closed (ts ++ [.mark ';']) :=
  h.append rfl

mutual

/-- Every statement closes its brackets. -/
theorem Statement.closed_tokens : ∀ s : Statement, Closed s.tokens
  | .block body => (closed_tokensAll body).enclosed rfl (by decide) rfl
  | .declare _ className as =>
    ((((closed_call className as).semicolon.cons fun _ => rfl).cons fun _ => rfl).cons
      fun _ => rfl).cons fun _ => rfl
  | .assign _ value =>
    (closed_pathTokens _).append ((closed_operand value).semicolon.cons fun _ => rfl)
  | .push _ item => (closed_call _ [item]).semicolon

theorem Statement.closed_tokensAll : ∀ ss : List Statement, Closed (Statement.tokensAll ss)
  | [] => rfl
  | s :: ss => (closed_tokens s).append (closed_tokensAll ss)

end

/-! ### Code on its own -/

/-- The code is read from outside of everything to outside of everything, with its brackets closed
and the given texts in quotes. -/
def Reads (code : String) (values : List String) : Prop :=
  ∃ ts, scanTo .blank code.toList = some (ts, .blank) ∧ Closed ts ∧ texts ts = values

namespace Reads

theorem of_scan {code : String} {ts : List Token} {values : List String}
    (h : ∀ rest, scan .blank (code.toList ++ rest) = front ts (scan .blank rest))
    (hclosed : Closed ts) (htexts : texts ts = values) : Reads code values :=
  ⟨ts, scanTo_of_forall_scan h, hclosed, htexts⟩

protected theorem empty : Reads "" [] := ⟨[], rfl, rfl, rfl⟩

theorem append {code more : String} {values others : List String} (h : Reads code values)
    (h' : Reads more others) : Reads (code ++ more) (values ++ others) := by
  obtain ⟨ts, hscan, hclosed, rfl⟩ := h
  obtain ⟨us, hscan', hclosed', rfl⟩ := h'
  refine ⟨ts ++ us, ?_, hclosed.append hclosed', texts_append ts us⟩
  rw [String.toList_append]
  exact scanTo_append_eq_some.2 ⟨ts, .blank, us, hscan, hscan', rfl⟩

/-- In braces. -/
theorem braces {code : String} {values : List String} (h : Reads code values) :
    Reads (r"{" ++ code ++ r"}") values := by
  obtain ⟨ts, hscan, hclosed, rfl⟩ := h
  refine ⟨.mark '{' :: (ts ++ [.mark '}']), ?_, hclosed.enclosed rfl (by decide) rfl, by simp⟩
  have hopen : scanTo .blank r"{".toList = some ([.mark '{'], .blank) := rfl
  have hclose : scanTo .blank r"}".toList = some ([.mark '}'], .blank) := rfl
  rw [String.toList_append, String.toList_append, List.append_assoc]
  exact scanTo_append_eq_some.2 ⟨_, _, _, hopen,
    scanTo_append_eq_some.2 ⟨_, _, _, hscan, hclose, rfl⟩, rfl⟩

theorem join {α : Type} {xs : List α} {code : α → String} {values : α → List String}
    (h : ∀ x ∈ xs, Reads (code x) (values x)) :
    Reads (String.join (xs.map code)) (xs.flatMap values) := by
  induction xs with
  | nil => simpa using Reads.empty
  | cons x xs ih =>
    rw [List.forall_mem_cons] at h
    simpa using h.1.append (ih h.2)

/-- With line feeds in between. -/
theorem intercalate {α : Type} {xs : List α} {code : α → String} {values : α → List String}
    (h : ∀ x ∈ xs, Reads (code x) (values x)) :
    Reads (String.intercalate "\n" (xs.map code)) (xs.flatMap values) := by
  have hfeed : Reads "\n" [] := ⟨[], rfl, rfl, rfl⟩
  induction xs with
  | nil => simpa using Reads.empty
  | cons x xs ih =>
    rw [List.forall_mem_cons] at h
    cases xs with
    | nil => simpa using h.1
    | cons y ys => simpa using (h.1.append hfeed).append (ih h.2)

/-- A line comment has nothing to read. -/
theorem comment {code : String} (h : '\n' ∉ code.toList) : Reads ("//" ++ code ++ "\n") [] := by
  have hinside : ∀ cs : List Char, '\n' ∉ cs →
      scanTo .comment (cs ++ ['\n']) = some ([], .blank) := by
    intro cs hcs
    induction cs with
    | nil => rfl
    | cons c cs ih =>
      rw [List.mem_cons, not_or] at hcs
      refine scanTo_cons_eq_some.2 ⟨[], .comment, [], ?_, ih hcs.2, rfl⟩
      simp [Mode.step, Ne.symm hcs.1]
  have hslashes : scanTo .blank "//".toList = some ([], .comment) := rfl
  refine ⟨[], ?_, rfl, rfl⟩
  rw [String.toList_append, String.toList_append, List.append_assoc]
  exact scanTo_append_eq_some.2 ⟨_, _, _, hslashes, hinside _ h, rfl⟩

end Reads

/-! ### Indentation -/

/-- Behind a line feed the scanner is outside of everything. -/
theorem eq_blank_of_step_feed {mode next : Mode} {ts : List Token}
    (h : mode.step '\n' = some (ts, next)) : next = .blank := by
  cases mode <;> simp [Mode.step, Mode.start, isIdentifierPart, escaped?] at h <;> grind

/-- A carriage return can only stand in a comment. -/
theorem eq_comment_of_step_return {mode next : Mode} {ts : List Token}
    (h : mode.step '\r' = some (ts, next)) : mode = .comment ∧ ts = [] ∧ next = .comment := by
  cases mode <;> simp [Mode.step, Mode.start, isIdentifierPart, escaped?, marks] at h
  grind

/-- Lines set in by some columns, as characters. -/
def indented (width : Nat) (ls : List (List Char)) : List Char :=
  ls.flatMap fun l => if l.isEmpty then [] else List.replicate width ' ' ++ l ++ ['\n']

theorem toList_indentLines (width : Nat) (code : String) :
    (indentLines width code).toList = indented width (Text.lines code.toList) := by
  unfold indentLines indented
  induction Text.lines code.toList with
  | nil => simp
  | cons l ls ih =>
    rw [List.map_cons, String.join_cons, String.toList_append, ih, List.flatMap_cons]
    split_ifs <;> simp [pad]

theorem scanTo_blank {c : Char} (h : c = ' ' ∨ c = '\n') (cs : List Char) :
    scanTo .blank (c :: cs) = scanTo .blank cs := by
  have hstep : Mode.blank.step c = some ([], .blank) := by
    rcases h with rfl | rfl <;> rfl
  simp only [scanTo, hstep, Option.bind_eq_bind, Option.bind_some]
  cases scanTo .blank cs <;> rfl

theorem scanTo_replicate (width : Nat) (cs : List Char) :
    scanTo .blank (List.replicate width ' ' ++ cs) = scanTo .blank cs := by
  induction width with
  | zero => rfl
  | succ width ih => rw [List.replicate_succ, List.cons_append, scanTo_blank (.inl rfl), ih]

/-- From outside of everything the indentation of a first line makes no difference. -/
theorem scanTo_indented (width : Nat) (ls : List (List Char)) :
    scanTo .blank (indented width ls) =
      scanTo .blank (ls.headD [] ++ '\n' :: indented width ls.tail) := by
  cases ls with
  | nil => rfl
  | cons l ls =>
    cases l with
    | nil => exact (scanTo_blank (.inr rfl) _).symm
    | cons c l =>
      have htext : indented width ((c :: l) :: ls) =
          List.replicate width ' ' ++ (c :: l ++ '\n' :: indented width ls) := by
        simp [indented]
      rw [htext, scanTo_replicate]
      rfl

/-- Set in, the lines of a piece of code are read alike: its first line from where the scanner
stands, all others from outside of everything. -/
theorem scanTo_lines (width : Nat) {mode : Mode} {cs : List Char} {ts : List Token}
    (h : scanTo mode cs = some (ts, .blank)) :
    scanTo mode ((Text.lines cs).headD [] ++ '\n' :: indented width (Text.lines cs).tail) =
      some (ts, .blank) := by
  fun_induction Text.lines cs generalizing mode ts with
  | case1 =>
    cases h
    rfl
  | case2 cs ih =>
    obtain ⟨first, next, rest, hstep, hrest, rfl⟩ := scanTo_cons_eq_some.1 h
    obtain rfl := eq_blank_of_step_feed hstep
    refine scanTo_cons_eq_some.2 ⟨first, .blank, rest, hstep, ?_, rfl⟩
    rw [List.tail_cons, scanTo_indented]
    exact ih hrest
  | case3 cs ih =>
    obtain ⟨first, next, rest, hstep, hrest, rfl⟩ := scanTo_cons_eq_some.1 h
    obtain ⟨rfl, rfl, rfl⟩ := eq_comment_of_step_return hstep
    obtain ⟨second, next, rest, hstep, hrest, rfl⟩ := scanTo_cons_eq_some.1 hrest
    obtain rfl := eq_blank_of_step_feed hstep
    refine scanTo_cons_eq_some.2 ⟨second, .blank, rest, hstep, ?_, rfl⟩
    rw [List.tail_cons, scanTo_indented]
    exact ih hrest
  | case4 c cs _ _ hlines ih =>
    obtain ⟨first, next, rest, hstep, hrest, rfl⟩ := scanTo_cons_eq_some.1 h
    have hnext := ih hrest
    rw [hlines] at hnext
    exact scanTo_cons_eq_some.2 ⟨first, next, rest, hstep, hnext, rfl⟩
  | case5 c cs _ _ l ls hlines ih =>
    obtain ⟨first, next, rest, hstep, hrest, rfl⟩ := scanTo_cons_eq_some.1 h
    have hnext := ih hrest
    rw [hlines] at hnext
    exact scanTo_cons_eq_some.2 ⟨first, next, rest, hstep, hnext, rfl⟩

/-- Indentation changes nothing for the reader. -/
theorem Reads.indent {code : String} {values : List String} (h : Reads code values) (width : Nat) :
    Reads (indentLines width code) values := by
  obtain ⟨ts, hscan, hclosed, htexts⟩ := h
  refine ⟨ts, ?_, hclosed, htexts⟩
  rw [toList_indentLines, scanTo_indented]
  exact scanTo_lines width hscan

/-! ### The whole of a program -/

/-- Strictly inside braces something is always waited for. -/
theorem brackets_inside {code : String} {values : List String} (h : Reads code values)
    {xs ys : List Char} (hsplit : (r"{" ++ code ++ r"}").toList = xs ++ ys) (hxs : xs ≠ [])
    (hys : ys ≠ []) :
    ∃ ts mode stack, scanTo .blank xs = some (ts, mode) ∧ brackets ts [] = some stack ∧
      stack ≠ [] := by
  obtain ⟨ts, hscan, hclosed, -⟩ := h
  -- the front begins with the opening brace, and the closing one is left to the rest
  obtain ⟨c, xs, rfl⟩ := List.exists_cons_of_ne_nil hxs
  obtain ⟨ys, d, rfl⟩ := (List.eq_nil_or_concat' ys).resolve_left hys
  obtain ⟨rfl, hinner⟩ : '{' = c ∧ code.toList ++ ['}'] = xs ++ ys ++ [d] := by
    simpa using hsplit
  obtain ⟨hcode, -⟩ := List.append_inj' hinner rfl
  rw [hcode] at hscan
  obtain ⟨first, mode, rest, hfirst, hrest, rfl⟩ := scanTo_append_eq_some.1 hscan
  have hstack := hclosed
  rw [Closed, brackets_append] at hstack
  obtain ⟨stack, hstack, -⟩ := Option.bind_eq_some_iff.1 hstack
  have hframe := brackets_frame hstack ['}']
  refine ⟨.mark '{' :: first, mode, stack ++ ['}'], ?_, hframe, by simp⟩
  exact scanTo_cons_eq_some.2 ⟨[.mark '{'], .blank, first, rfl, hfirst, rfl⟩

end Widgetry.Program
