import Widgetry.Text.Identifier
import Widgetry.Text.Lines
import Widgetry.Text.Literal
import Mathlib.Tactic.SplitIfs

/-! Tokens of generated code. A scanner takes one character at a time and tells words, single-quoted
texts and marks apart; blanks and line comments give no token, and a text that is not closed on its
line is no code. -/

namespace Widgetry.Program

open Text (isIdentifierPart isIdentifier pad literal literalChar)

/-! ### The scanner -/

inductive Token where
  | word (name : String)
  /-- A quoted text, with its escapes read. -/
  | text (value : String)
  | mark (c : Char)
  deriving DecidableEq

/-- What the scanner is inside of, with the characters seen. -/
inductive Mode where
  | blank
  | word (seen : List Char)
  | text (seen : List Char)
  | escape (seen : List Char)
  | slash
  | comment

/-- The characters that are tokens of their own. -/
def marks : List Char := ['{', '}', '(', ')', '[', ']', '.', ',', ';', ':', '=']

/-- The character that an escape stands for, by the character behind the backslash. -/
def escaped? : Char → Option Char
  | 'n' => some '\n'
  | 'r' => some '\r'
  | 't' => some '\t'
  | '\\' => some '\\'
  | '\'' => some '\''
  | '"' => some '"'
  | _ => none

/-- A character outside of everything. -/
def Mode.start (c : Char) : Option (List Token × Mode) :=
  if isIdentifierPart c then some ([], .word [c])
  else if c = ' ' ∨ c = '\n' then some ([], .blank)
  else if c = '\'' then some ([], .text [])
  else if c = '/' then some ([], .slash)
  else if c ∈ marks then some ([.mark c], .blank)
  else none

def Mode.step : Mode → Char → Option (List Token × Mode)
  | blank, c => start c
  | word seen, c =>
    if isIdentifierPart c then some ([], .word (seen ++ [c]))
    else (start c).map fun (tokens, mode) => (.word (String.ofList seen) :: tokens, mode)
  | text seen, c =>
    if c = '\'' then some ([.text (String.ofList seen)], .blank)
    else if c = '\\' then some ([], .escape seen)
    else if c = '\n' ∨ c = '\r' then none
    else some ([], .text (seen ++ [c]))
  | escape seen, c => (escaped? c).map fun c => ([], .text (seen ++ [c]))
  | slash, c => if c = '/' then some ([], .comment) else none
  | comment, c => some ([], if c = '\n' then .blank else .comment)

/-- The code may end outside of everything, behind a word and in a comment. -/
def Mode.finish : Mode → Option (List Token)
  | blank | comment => some []
  | word seen => some [.word (String.ofList seen)]
  | text _ | escape _ | slash => none

def scan : Mode → List Char → Option (List Token)
  | mode, [] => mode.finish
  | mode, c :: cs => do
    let (first, mode) ← mode.step c
    return first ++ (← scan mode cs)

/-- The tokens of a piece of code. -/
def tokens (code : String) : Option (List Token) := scan .blank code.toList

/-! ### Marks, words and texts -/

/-- Tokens in front of those of a scan. -/
def front (first : List Token) (rest : Option (List Token)) : Option (List Token) :=
  rest.map (first ++ ·)

@[simp] theorem front_nil (rest : Option (List Token)) : front [] rest = rest := by
  cases rest <;> rfl

@[simp] theorem front_front (first second : List Token) (rest : Option (List Token)) :
    front first (front second rest) = front (first ++ second) rest := by
  cases rest <;> simp [front]

theorem scan_cons {mode mode' : Mode} {c : Char} {first : List Token}
    (h : mode.step c = some (first, mode')) (cs : List Char) :
    scan mode (c :: cs) = front first (scan mode' cs) := by
  simp only [scan, h, Option.bind_eq_bind, Option.bind_some, front]
  cases scan mode' cs <;> rfl

theorem scan_blank {c : Char} (h : c = ' ' ∨ c = '\n') (cs : List Char) :
    scan .blank (c :: cs) = scan .blank cs := by
  have hstep : Mode.blank.step c = some ([], .blank) := by
    rcases h with rfl | rfl <;> rfl
  rw [scan_cons hstep, front_nil]

theorem scan_pad (width : Nat) (cs : List Char) :
    scan .blank ((pad width).toList ++ cs) = scan .blank cs := by
  rw [pad, String.toList_ofList]
  induction width with
  | zero => rfl
  | succ width ih => rw [List.replicate_succ, List.cons_append, scan_blank (.inl rfl), ih]

theorem scan_mark {c : Char} (h : c ∈ marks) (cs : List Char) :
    scan .blank (c :: cs) = front [.mark c] (scan .blank cs) := by
  have hstep : Mode.blank.step c = some ([.mark c], .blank) := by
    simp only [marks, List.mem_cons, List.not_mem_nil, or_false] at h
    rcases h with rfl | rfl | rfl | rfl | rfl | rfl | rfl | rfl | rfl | rfl | rfl <;> rfl
  exact scan_cons hstep cs

/-- A word ends in front of a character that is no part of it. -/
theorem scan_word {w : List Char} (hw : w.all isIdentifierPart) {c : Char}
    (hc : isIdentifierPart c = false) (seen cs : List Char) :
    scan (.word seen) (w ++ c :: cs) =
      front [.word (String.ofList (seen ++ w))] (scan .blank (c :: cs)) := by
  induction w generalizing seen with
  | nil =>
    simp only [List.nil_append, List.append_nil, scan, Mode.step, hc, Bool.false_eq_true, if_false]
    cases Mode.start c with
    | none => rfl
    | some started =>
      simp only [Option.map_some, Option.bind_eq_bind, Option.bind_some, front]
      cases scan started.2 cs <;> rfl
  | cons d w ih =>
    simp only [List.all_cons, Bool.and_eq_true] at hw
    have hstep : (Mode.word seen).step d = some ([], .word (seen ++ [d])) := by
      simp [Mode.step, hw.1]
    rw [List.cons_append, scan_cons hstep, front_nil, ih hw.2, List.append_assoc]
    rfl

theorem isIdentifierPart_of_start {c : Char} (h : Text.isIdentifierStart c) :
    isIdentifierPart c := by
  simp only [Text.isIdentifierStart, isIdentifierPart, Char.isAlphanum, Bool.or_eq_true] at h ⊢
  rcases h with (h | h) | h
  · exact .inl (.inl (.inl h))
  · exact .inl (.inr h)
  · exact .inr h

theorem all_of_identifierChars {w : List Char} (h : Text.identifierChars w) :
    w ≠ [] ∧ w.all isIdentifierPart := by
  cases w with
  | nil => simp [Text.identifierChars] at h
  | cons c w =>
    simp only [Text.identifierChars, Bool.and_eq_true] at h
    simpa [isIdentifierPart_of_start h.1] using h.2

theorem scan_identifier {w : List Char} (hw : Text.identifierChars w) {c : Char}
    (hc : isIdentifierPart c = false) (cs : List Char) :
    scan .blank (w ++ c :: cs) = front [.word (String.ofList w)] (scan .blank (c :: cs)) := by
  obtain ⟨hne, hall⟩ := all_of_identifierChars hw
  cases w with
  | nil => exact absurd rfl hne
  | cons d w =>
    simp only [List.all_cons, Bool.and_eq_true] at hall
    have hstep : Mode.blank.step d = some ([], .word [d]) := by
      simp [Mode.step, Mode.start, hall.1]
    rw [List.cons_append, scan_cons hstep, front_nil, scan_word hall.2 hc]
    rfl

/-! ### Quoted texts -/

/-- A text without its carriage returns. -/
def withoutReturns (s : String) : String := String.ofList (s.toList.filter (· ≠ '\r'))

theorem scan_escape {c d : Char} (h : escaped? c = some d) (seen cs : List Char) :
    scan (.text seen) ('\\' :: c :: cs) = scan (.text (seen ++ [d])) cs := by
  have hbackslash : (Mode.text seen).step '\\' = some ([], .escape seen) := rfl
  have hescape : (Mode.escape seen).step c = some ([], .text (seen ++ [d])) := by
    simp [Mode.step, h]
  rw [scan_cons hbackslash, front_nil, scan_cons hescape, front_nil]

/-- One character of a literal is read back, but for a carriage return. -/
theorem scan_literalChar (c : Char) (seen cs : List Char) :
    scan (.text seen) (literalChar c ++ cs) =
      scan (.text (seen ++ [c].filter (· ≠ '\r'))) cs := by
  unfold literalChar
  split_ifs with hbackslash hquote hfeed hreturn
  · subst hbackslash
    exact scan_escape rfl seen cs
  · subst hquote
    exact scan_escape rfl seen cs
  · subst hfeed
    exact scan_escape rfl seen cs
  · subst hreturn
    simp
  · have hstep : (Mode.text seen).step c = some ([], .text (seen ++ [c])) := by
      simp [Mode.step, hbackslash, hquote, hfeed, hreturn]
    rw [List.singleton_append, scan_cons hstep, front_nil]
    simp [hreturn]

/-- A literal is read as its text without carriage returns. -/
theorem scan_literal (s : String) (cs : List Char) :
    scan .blank ((literal s).toList ++ cs) =
      front [.text (withoutReturns s)] (scan .blank cs) := by
  have hinside : ∀ (w seen : List Char), scan (.text seen) (w.flatMap literalChar ++ '\'' :: cs) =
      front [.text (String.ofList (seen ++ w.filter (· ≠ '\r')))] (scan .blank cs) := by
    intro w
    induction w with
    | nil =>
      intro seen
      rw [List.flatMap_nil, List.nil_append, List.filter_nil, List.append_nil]
      exact scan_cons rfl cs
    | cons c w ih =>
      intro seen
      rw [List.flatMap_cons, List.append_assoc, scan_literalChar, ih, List.append_assoc,
        ← List.filter_append, List.singleton_append]
  have hstart : Mode.blank.step '\'' = some ([], .text []) := rfl
  rw [literal, String.toList_ofList, Text.literalChars, List.cons_append, scan_cons hstart,
    front_nil, List.append_assoc, List.singleton_append, hinside, List.nil_append]
  rfl

/-! ### Dotted paths -/

/-- The words of a path, which are separated by dots. -/
def segments (path : String) : List String := (path.toList.splitOn '.').map String.ofList

/-- A path of identifiers. -/
def isPath (path : String) : Bool := (segments path).all isIdentifier

/-- The tokens of a path. -/
def pathTokens : List String → List Token
  | [] => []
  | [name] => [.word name]
  | name :: names => .word name :: .mark '.' :: pathTokens names

theorem segments_append (path rest : String) :
    segments (path ++ "." ++ rest) = segments path ++ segments rest := by
  have hchars : (path ++ "." ++ rest).toList = path.toList ++ '.' :: rest.toList := by simp
  rw [segments, hchars, List.splitOn_append_cons_self, List.map_append]
  rfl

theorem segments_identifier {name : String} (h : isIdentifier name) : segments name = [name] := by
  have hdot : '.' ∉ name.toList := by
    intro hmem
    have hpart := List.all_eq_true.1 (all_of_identifierChars h).2 '.' hmem
    exact absurd hpart (by decide)
  rw [segments, List.splitOn_eq_singleton hdot]
  simp

theorem isPath_append {path rest : String} (h : isPath path) (h' : isPath rest) :
    isPath (path ++ "." ++ rest) := by
  simp only [isPath, segments_append, List.all_append, Bool.and_eq_true]
  exact ⟨h, h'⟩

theorem isPath_identifier {name : String} (h : isIdentifier name) : isPath name := by
  simp [isPath, segments_identifier h, h]

/-- A path is read word by word. -/
theorem scan_path {path : String} (h : isPath path) {c : Char} (hc : isIdentifierPart c = false)
    (cs : List Char) :
    scan .blank (path.toList ++ c :: cs) =
      front (pathTokens (segments path)) (scan .blank (c :: cs)) := by
  have hparts : ∀ ws : List (List Char), ws ≠ [] → (∀ w ∈ ws, Text.identifierChars w) →
      scan .blank (['.'].intercalate ws ++ c :: cs) =
        front (pathTokens (ws.map String.ofList)) (scan .blank (c :: cs)) := by
    intro ws
    induction ws with
    | nil => exact fun hne => absurd rfl hne
    | cons w ws ih =>
      intro hne hall
      rw [List.forall_mem_cons] at hall
      cases ws with
      | nil => simpa [pathTokens] using scan_identifier hall.1 hc cs
      | cons w' ws =>
        have hdot : isIdentifierPart '.' = false := by decide
        have hrest := ih (List.cons_ne_nil _ _) hall.2
        rw [List.intercalate_cons_cons, List.append_assoc, List.append_assoc,
          List.singleton_append, scan_identifier hall.1 hdot, scan_mark (by decide), hrest,
          front_front, front_front]
        rfl
  have hne : path.toList.splitOn '.' ≠ [] := List.splitOn_ne_nil '.' path.toList
  have hall : ∀ w ∈ path.toList.splitOn '.', Text.identifierChars w := by
    intro w hw
    have hmem := List.all_eq_true.1 h (String.ofList w) (List.mem_map_of_mem hw)
    simpa [isIdentifier] using hmem
  simpa [List.intercalate_splitOn, segments] using hparts _ hne hall

end Widgetry.Program
