import Widgetry.Proofs.Program.Tokens
import Mathlib.Data.List.Basic

/-! Literals. Four replacements in turn make a text into what stands between the quotes of its
literal; together they are one pass that writes every character on its own. A literal can be cut
where a character of the text ends, and nowhere else is a backslash or a quote unescaped. So every
backslash begins an escape, and the first quote that is not escaped is the last character. -/

namespace Widgetry.Text

open Program (withoutReturns)

/-! ### Replacements -/

/-- A text with every occurrence of a character replaced. -/
def replaced (c : Char) (new s : List Char) : List Char :=
  s.flatMap fun d => if d = c then new else [d]

/-- What is replaced to make a literal. The order matters: backslashes are doubled before any is put
in. -/
def replacements : List (Char × List Char) :=
  [('\\', ['\\', '\\']), ('\'', ['\\', '\'']), ('\n', ['\\', 'n']), ('\r', [])]

/-- A text after all replacements, each made throughout what the ones before have left. -/
def replacedInTurn (s : List Char) : List Char :=
  replacements.foldl (fun text replacement => replaced replacement.1 replacement.2 text) s

/-- One pass does what the replacements do in turn. -/
theorem flatMap_literalChar (s : List Char) : s.flatMap literalChar = replacedInTurn s := by
  simp only [replacedInTurn, replacements, List.foldl_cons, List.foldl_nil, replaced,
    List.flatMap_assoc]
  refine List.flatMap_congr fun c _ => ?_
  unfold literalChar
  split_ifs with hbackslash hquote hfeed hreturn
  · subst hbackslash
    rfl
  · subst hquote
    rfl
  · subst hfeed
    rfl
  · subst hreturn
    rfl
  · simp [hquote, hfeed, hreturn]

/-! ### Escapes -/

/-- Behind this text a character is escaped: the text ends in a backslash that is not escaped. -/
def escapes (front : List Char) : Bool :=
  front.foldl (fun escaped c => c == '\\' && !escaped) false

theorem escapes_plain {c : Char} (h : c ≠ '\\') (front : List Char) :
    escapes (c :: front) = escapes front := by
  rw [escapes, List.foldl_cons, beq_false_of_ne h]
  rfl

theorem escapes_escape (c : Char) (front : List Char) :
    escapes ('\\' :: c :: front) = escapes front := by
  simp [escapes]

/-- Behind whole characters of a text nothing is escaped. -/
theorem escapes_flatMap (s : List Char) : escapes (s.flatMap literalChar) = false := by
  induction s with
  | nil => rfl
  | cons c s ih =>
    rw [List.flatMap_cons]
    rcases literalChar_cases c with ⟨-, hform⟩ | ⟨-, ⟨-, d, -, hform⟩ | ⟨hplain, hform⟩⟩
    · simpa [hform] using ih
    · simpa [hform, escapes_escape] using ih
    · have hc : c ≠ '\\' := fun h => hplain (by simp [h, escapedChars])
      simpa [hform, escapes_plain hc] using ih

/-- Where nothing is escaped, a character of the text ends. -/
theorem exists_cut {s front back : List Char} (h : s.flatMap literalChar = front ++ back)
    (hfront : escapes front = false) : ∃ rest : List Char, back = rest.flatMap literalChar := by
  induction s generalizing front with
  | nil => exact ⟨[], (List.append_eq_nil_iff.1 h.symm).2⟩
  | cons c s ih =>
    cases front with
    | nil => exact ⟨c :: s, h.symm⟩
    | cons d front =>
      rw [List.flatMap_cons] at h
      rcases literalChar_cases c with ⟨-, hform⟩ | ⟨-, ⟨-, e, -, hform⟩ | ⟨hplain, hform⟩⟩
      · rw [hform] at h
        exact ih h hfront
      · -- a cut inside of the escape would stand behind its backslash
        cases front with
        | nil =>
          obtain ⟨rfl, -⟩ : '\\' = d ∧ _ := by simpa [hform] using h
          simp [escapes] at hfront
        | cons e' front =>
          obtain ⟨rfl, -, htail⟩ : '\\' = d ∧ e = e' ∧ s.flatMap literalChar = front ++ back := by
            simpa [hform] using h
          rw [escapes_escape] at hfront
          exact ih htail hfront
      · obtain ⟨rfl, htail⟩ : c = d ∧ s.flatMap literalChar = front ++ back := by
          simpa [hform] using h
        have hc : c ≠ '\\' := fun h => hplain (by simp [h, escapedChars])
        rw [escapes_plain hc] at hfront
        exact ih htail hfront

/-- No character of a text is written with a quote first, and with a backslash only as an escape. -/
theorem head_flatMap {s : List Char} {c : Char} {rest : List Char}
    (h : s.flatMap literalChar = c :: rest) :
    c ≠ '\'' ∧ (c = '\\' → ∃ d ∈ escapeLetters, rest.head? = some d) := by
  induction s with
  | nil => cases h
  | cons e s ih =>
    rw [List.flatMap_cons] at h
    rcases literalChar_cases e with ⟨-, hform⟩ | ⟨-, ⟨-, d, hd, hform⟩ | ⟨hplain, hform⟩⟩
    · rw [hform] at h
      exact ih h
    · rw [hform] at h
      cases h
      exact ⟨by decide, fun _ => ⟨d, hd, rfl⟩⟩
    · rw [hform] at h
      cases h
      simp only [escapedChars, List.mem_cons, List.not_mem_nil, or_false, not_or] at hplain
      exact ⟨hplain.2.1, fun hbackslash => absurd hbackslash hplain.1⟩

/-! ### Line ends -/

/-- The text holds no line feed and no carriage return. -/
def OneLine (text : List Char) : Prop := ∀ c ∈ text, c ≠ '\n' ∧ c ≠ '\r'

-- not by search, which may find the instance that tries every character there is
instance (text : List Char) : Decidable (OneLine text) :=
  List.decidableBAll (fun c => c ≠ '\n' ∧ c ≠ '\r') text

theorem oneLine_literalChar (c : Char) : OneLine (literalChar c) := by
  rcases literalChar_cases c with ⟨-, hform⟩ | ⟨hreturn, ⟨-, d, hd, hform⟩ | ⟨hplain, hform⟩⟩
  · rw [hform]
    decide
  · rw [hform]
    simp only [escapeLetters, List.mem_cons, List.not_mem_nil, or_false] at hd
    rcases hd with rfl | rfl | rfl <;> decide
  · rw [hform]
    simp only [escapedChars, List.mem_cons, List.not_mem_nil, or_false, not_or] at hplain
    exact List.forall_mem_singleton.2 ⟨hplain.2.2, hreturn⟩

theorem oneLine_literal (s : String) : OneLine (literal s).toList := by
  have hinside : ∀ c ∈ s.toList.flatMap literalChar, c ≠ '\n' ∧ c ≠ '\r' :=
    List.forall_mem_flatMap.2 fun c _ => oneLine_literalChar c
  rw [literal, String.toList_ofList, literalChars]
  refine List.forall_mem_cons.2 ⟨by decide, List.forall_mem_append.2 ⟨hinside, ?_⟩⟩
  exact List.forall_mem_singleton.2 (by decide)

/-! ### Whole literals -/

/-- The text is one single-quoted literal. -/
structure IsLiteral (text : List Char) : Prop where
  /-- It stands between two quotes, of which the second is not escaped. -/
  quoted : ∃ inside, text = '\'' :: (inside ++ ['\'']) ∧ escapes inside = false
  /-- Behind the first quote, the first one that is not escaped ends the text. -/
  closed : ∀ front rest, text = '\'' :: (front ++ '\'' :: rest) → escapes front = false → rest = []
  oneLine : OneLine text
  /-- A backslash that is not escaped begins an escape. -/
  escaping : ∀ front rest, text = front ++ '\\' :: rest → escapes front = false →
    ∃ c ∈ escapeLetters, rest.head? = some c

/-- A quoted text that goes on behind some character goes on to its closing quote. -/
theorem eq_append_of_quoted {inside front rest : List Char} {c : Char}
    (h : inside ++ ['\''] = front ++ c :: rest) (hc : rest ≠ [] ∨ c ≠ '\'') :
    ∃ back, rest = back ++ ['\''] ∧ inside = front ++ c :: back := by
  rcases List.eq_nil_or_concat' rest with rfl | ⟨back, d, rfl⟩
  · obtain ⟨-, hlast⟩ := List.append_inj' h rfl
    cases hlast
    simp at hc
  · have hsplit : inside ++ ['\''] = (front ++ c :: back) ++ [d] := by simpa using h
    obtain ⟨hinside, hlast⟩ := List.append_inj' hsplit rfl
    cases hlast
    exact ⟨back, rfl, hinside⟩

theorem isLiteral_literal (s : String) : IsLiteral (literal s).toList := by
  have htext : (literal s).toList = '\'' :: (s.toList.flatMap literalChar ++ ['\'']) := by
    simp [literal, literalChars]
  refine ⟨⟨_, htext, escapes_flatMap s.toList⟩, ?_, oneLine_literal s, ?_⟩
  · intro front rest h hfront
    rw [htext, List.cons.injEq] at h
    by_contra hrest
    obtain ⟨back, -, hinside⟩ := eq_append_of_quoted h.2 (.inl hrest)
    obtain ⟨w, hw⟩ := exists_cut hinside hfront
    exact (head_flatMap hw.symm).1 rfl
  · intro front rest h hfront
    rw [htext] at h
    cases front with
    | nil => simp at h
    | cons c front =>
      rw [List.cons_append, List.cons.injEq] at h
      obtain ⟨rfl, h⟩ := h
      rw [escapes_plain (by decide)] at hfront
      obtain ⟨back, rfl, hinside⟩ := eq_append_of_quoted h (.inr (by decide))
      obtain ⟨w, hw⟩ := exists_cut hinside hfront
      obtain ⟨d, hd, hhead⟩ := (head_flatMap hw.symm).2 rfl
      exact ⟨d, hd, by simp [List.head?_append, hhead]⟩

/-! ### Reading a literal -/

theorem tokens_literal (s : String) :
    Program.tokens (literal s) = some [.text (withoutReturns s)] := by
  have hscan := Program.scan_literal s []
  rw [List.append_nil] at hscan
  rw [Program.tokens, hscan]
  rfl

/-- Carriage returns make no difference to a literal. -/
theorem literal_withoutReturns (s : String) : literal (withoutReturns s) = literal s := by
  have hinside : ∀ w : List Char,
      (w.filter (· ≠ '\r')).flatMap literalChar = w.flatMap literalChar := by
    intro w
    induction w with
    | nil => rfl
    | cons c w ih =>
      by_cases hc : c = '\r'
      · subst hc
        rw [List.filter_cons_of_neg (by simp), ih]
        rfl
      · rw [List.filter_cons_of_pos (by simpa using hc), List.flatMap_cons, List.flatMap_cons, ih]
  rw [literal, literal, literalChars, literalChars, withoutReturns, String.toList_ofList, hinside]

/-- The literal of a text is a single literal, which is read as the text without its carriage
returns; it is made by the replacements in turn. So texts have the same literal exactly if they are
the same up to carriage returns. -/
theorem literal_reads_back (s : String) :
    (literal s).toList = '\'' :: (replacedInTurn s.toList ++ ['\'']) ∧
      IsLiteral (literal s).toList ∧
      Program.tokens (literal s) = some [.text (withoutReturns s)] ∧
      ∀ t, literal s = literal t ↔ withoutReturns s = withoutReturns t := by
  refine ⟨?_, isLiteral_literal s, tokens_literal s, fun t => ⟨fun h => ?_, fun h => ?_⟩⟩
  · rw [literal, String.toList_ofList, literalChars, flatMap_literalChar]
  · have htokens := congrArg Program.tokens h
    rw [tokens_literal, tokens_literal] at htokens
    simpa using htokens
  · rw [← literal_withoutReturns s, h, literal_withoutReturns]

-- a backslash at the end of a text does not escape the closing quote
example : literal "it's\r\n\\" = "'it\\'s\\n\\\\'" := by decide +kernel

end Widgetry.Text
