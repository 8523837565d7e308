import Widgetry.Proofs.Program.Tokens
import Widgetry.Script.Statement
import Widgetry.Source.Exchange
import Mathlib.Data.List.Forall2

/-! Statements of generated code: blocks, declarations of new objects, assignments to members and
pushes onto lists. Tokens are read with the blocks that are open; a statement that is written out as
tokens is read back. -/

namespace Widgetry.Program

open Text (isIdentifier)

/-! ### Statements -/

/-- A name or `this`, and the members that lead on from it. -/
structure Path where
  head : String
  members : List String
  deriving DecidableEq

inductive Operand where
  | text (value : String)
  | path (p : Path)
  deriving DecidableEq

inductive Statement where
  | block (body : List Statement)
  /-- A variable for a new object. -/
  | declare (name : String) (className : Path) (arguments : List Operand)
  | assign (target : Path) (value : Operand)
  | push (list : Path) (item : Operand)

/-- Words that name nothing that the code, which stands in a module, can declare or import. -/
def unnamedWords : List String :=
  ["arguments", "eval"] ++ Source.reservedWords ++ Source.unexportedWords

/-- A word that may name a variable or something global. -/
def isName (word : String) : Bool :=
  isIdentifier word && !unnamedWords.contains word

/-! ### Reading -/

def readWords : List Token → Option (List String)
  | [.word name] => some [name]
  | .word name :: .mark '.' :: rest => (readWords rest).map (name :: ·)
  | _ => none

def readPath (ts : List Token) : Option Path :=
  match readWords ts with
  | some (head :: members) =>
    if (isName head || head == "this") && members.all isIdentifier then some ⟨head, members⟩
    else none
  | _ => none

def readOperand : List Token → Option Operand
  | [.text value] => some (.text value)
  | ts => (readPath ts).map .path

/-- Operands with commas between them. -/
def readOperands (ts : List Token) : Option (List Operand) :=
  if ts = [] then some [] else (ts.splitOn (.mark ',')).mapM readOperand

/-- A path, and operands in parentheses. -/
def readCall (ts : List Token) : Option (Path × List Operand) :=
  match ts.dropWhile (· ≠ .mark '(') with
  | _ :: inside =>
    if inside.getLast? = some (.mark ')') then do
      return (← readPath (ts.takeWhile (· ≠ .mark '(')), ← readOperands inside.dropLast)
    else none
  | [] => none

def readDeclaration (keyword name : String) : List Token → Option Statement
  | .mark '=' :: .word operator :: creation =>
    if keyword = "let" ∧ isName name ∧ operator = "new" then do
      let (className, arguments) ← readCall creation
      return .declare name className arguments
    else none
  | _ => none

def readAssignment (ts : List Token) : Option Statement := do
  let target ← readPath (ts.takeWhile (· ≠ .mark '='))
  return .assign target (← readOperand (ts.dropWhile (· ≠ .mark '=')).tail)

def readPush (ts : List Token) : Option Statement := do
  let (callee, arguments) ← readCall ts
  match arguments with
  | [item] =>
    if callee.members.getLast? = some "push" then
      return .push ⟨callee.head, callee.members.dropLast⟩ item
    else none
  | _ => none

/-- A statement that ends with a semicolon, without it. Only a declaration begins with two words. -/
def readSimple : List Token → Option Statement
  | .word keyword :: .word name :: rest => readDeclaration keyword name rest
  | ts => if .mark '=' ∈ ts then readAssignment ts else readPush ts

/-- What has been read: tokens of a statement without its semicolon yet, the statements of the
innermost open block, and those of the blocks around it. -/
structure Reading where
  pending : List Token
  body : List Statement
  outer : List (List Statement)

def Reading.take (s : Reading) (token : Token) : Option Reading :=
  if token = .mark ';' then (readSimple s.pending).map fun statement =>
    ⟨[], s.body ++ [statement], s.outer⟩
  else if s.pending = [] ∧ token = .mark '{' then some ⟨[], [], s.body :: s.outer⟩
  else if s.pending = [] ∧ token = .mark '}' then
    match s.outer with
    | [] => none
    | around :: outer => some ⟨[], around ++ [.block s.body], outer⟩
  else some { s with pending := s.pending ++ [token] }

def readAll (ts : List Token) (s : Reading) : Option Reading :=
  ts.foldlM (fun s token => s.take token) s

/-- The statements of a list of tokens; no statement and no block is left open. -/
def readTokens (ts : List Token) : Option (List Statement) := do
  match ← readAll ts ⟨[], [], []⟩ with
  | ⟨[], body, []⟩ => some body
  | _ => none

/-- The statements of a piece of code. -/
def read (code : String) : Option (List Statement) := tokens code >>= readTokens

/-! ### Writing -/

def Path.tokens (p : Path) : List Token := pathTokens (p.head :: p.members)

def Operand.tokens : Operand → List Token
  | text value => [.text value]
  | path p => p.tokens

/-- A path and operands in parentheses. -/
def callTokens (callee : Path) (arguments : List Operand) : List Token :=
  callee.tokens ++ .mark '(' ::
    ([.mark ','].intercalate (arguments.map Operand.tokens) ++ [.mark ')'])

namespace Statement

mutual

def tokens : Statement → List Token
  | block body => .mark '{' :: (tokensAll body ++ [.mark '}'])
  | declare name className arguments =>
    .word "let" :: .word name :: .mark '=' :: .word "new" ::
      (callTokens className arguments ++ [.mark ';'])
  | assign target value => target.tokens ++ .mark '=' :: (value.tokens ++ [.mark ';'])
  | push list item => callTokens ⟨list.head, list.members ++ ["push"]⟩ [item] ++ [.mark ';']

def tokensAll : List Statement → List Token
  | [] => []
  | s :: ss => tokens s ++ tokensAll ss

end

end Statement

theorem Statement.tokensAll_append (ss ts : List Statement) :
    tokensAll (ss ++ ts) = tokensAll ss ++ tokensAll ts := by
  induction ss with
  | nil => rfl
  | cons s ss ih => simp [tokensAll, ih]

/-- The path is one of the language. -/
def Path.Valid (p : Path) : Prop := (isName p.head ∨ p.head = "this") ∧ p.members.all isIdentifier

def Operand.Valid : Operand → Prop
  | text _ => True
  | path p => p.Valid

namespace Statement

mutual

def Valid : Statement → Prop
  | block body => ValidAll body
  | declare name className arguments =>
    isName name ∧ className.Valid ∧ ∀ a ∈ arguments, a.Valid
  | assign target value => target.Valid ∧ value.Valid
  | push list item => list.Valid ∧ item.Valid

def ValidAll : List Statement → Prop
  | [] => True
  | s :: ss => Valid s ∧ ValidAll ss

end

end Statement

theorem Statement.validAll_iff {ss : List Statement} : ValidAll ss ↔ ∀ s ∈ ss, s.Valid := by
  induction ss with
  | nil => simp [ValidAll]
  | cons s ss ih => simp [ValidAll, ih]

/-! ### Reading what is written -/

theorem readWords_pathTokens {names : List String} (h : names ≠ []) :
    readWords (pathTokens names) = some names := by
  induction names with
  | nil => exact absurd rfl h
  | cons name names ih =>
    cases names with
    | nil => rfl
    | cons next names => simp [pathTokens, readWords, ih]

/-- A path that is written out is read back if it is one of the language, and otherwise not at
all. -/
theorem readPath_tokens {p q : Path} : readPath p.tokens = some q ↔ p.Valid ∧ p = q := by
  have hwords := readWords_pathTokens (List.cons_ne_nil p.head p.members)
  simp [readPath, Path.tokens, hwords, Path.Valid]

theorem mark_notMem_pathTokens {c : Char} (hc : c ≠ '.') (names : List String) :
    .mark c ∉ pathTokens names := by
  induction names with
  | nil => simp [pathTokens]
  | cons name names ih =>
    cases names with
    | nil => simp [pathTokens]
    | cons next names => simpa [pathTokens, hc] using ih

/-- The first mark behind a path other than a dot parts the path from the rest. -/
theorem split_path {c : Char} (hc : c ≠ '.') (names : List String) (ts : List Token) :
    (pathTokens names ++ .mark c :: ts).takeWhile (· ≠ .mark c) = pathTokens names ∧
      (pathTokens names ++ .mark c :: ts).dropWhile (· ≠ .mark c) = .mark c :: ts := by
  have hpath : ∀ t ∈ pathTokens names, decide (t ≠ Token.mark c) = true := by
    intro t ht
    have hne : t ≠ .mark c := fun heq => mark_notMem_pathTokens hc names (heq ▸ ht)
    simpa using hne
  rw [List.takeWhile_append_of_pos hpath, List.dropWhile_append_of_pos hpath]
  simp

theorem mark_notMem_operand {c : Char} (hc : c ≠ '.') (a : Operand) : .mark c ∉ a.tokens := by
  cases a with
  | text value => simp [Operand.tokens]
  | path p => exact mark_notMem_pathTokens hc _

theorem readOperand_tokens {a b : Operand} :
    readOperand a.tokens = some b ↔ a.Valid ∧ a = b := by
  cases a with
  | text value => simp [Operand.tokens, readOperand, Operand.Valid]
  | path p =>
    have hread : readOperand p.tokens = (readPath p.tokens).map .path := by
      obtain ⟨head, members⟩ := p
      cases members <;> rfl
    rw [Operand.tokens, hread]
    simp [readPath_tokens, Operand.Valid, and_assoc]

theorem Operand.tokens_ne_nil (a : Operand) : a.tokens ≠ [] := by
  cases a with
  | text value => simp [tokens]
  | path p =>
    obtain ⟨head, members⟩ := p
    cases members <;> simp [tokens, Path.tokens, pathTokens]

theorem mapM_readOperand {as bs : List Operand} :
    (as.map Operand.tokens).mapM readOperand = some bs ↔ (∀ a ∈ as, a.Valid) ∧ as = bs := by
  induction as generalizing bs with
  | nil => simp
  | cons a as ih =>
    simp [-List.mapM_map, Option.bind_eq_some_iff, readOperand_tokens, ih, and_assoc]

theorem readOperands_tokens {as bs : List Operand} :
    readOperands ([.mark ','].intercalate (as.map Operand.tokens)) = some bs ↔
      (∀ a ∈ as, a.Valid) ∧ as = bs := by
  cases as with
  | nil => simp [readOperands]
  | cons a as =>
    have hcomma : ∀ ts ∈ (a :: as).map Operand.tokens, Token.mark ',' ∉ ts := by
      intro ts hts
      obtain ⟨b, -, rfl⟩ := List.mem_map.1 hts
      exact mark_notMem_operand (by decide) b
    have hsplit := List.splitOn_intercalate (Token.mark ',') hcomma (by simp)
    have hne : [Token.mark ','].intercalate ((a :: as).map Operand.tokens) ≠ [] := by
      have hfirst := a.tokens_ne_nil
      cases as with
      | nil => simpa using hfirst
      | cons b as => simp [List.intercalate_cons_cons]
    rw [readOperands, if_neg hne, hsplit, mapM_readOperand]

theorem readCall_callTokens {callee : Path} {arguments : List Operand}
    {call : Path × List Operand} :
    readCall (callTokens callee arguments) = some call ↔
      callee.Valid ∧ (∀ a ∈ arguments, a.Valid) ∧ (callee, arguments) = call := by
  have hsplit := split_path (c := '(') (by decide) (callee.head :: callee.members)
    ([.mark ','].intercalate (arguments.map Operand.tokens) ++ [.mark ')'])
  change _ = callee.tokens ∧ _ at hsplit
  rw [readCall, callTokens, Path.tokens, hsplit.1, hsplit.2]
  simp [Option.bind_eq_some_iff, readPath_tokens, readOperands_tokens, and_assoc]

/-! ### Simple statements -/

/-- A statement that begins with a path is no declaration. -/
theorem readSimple_path (p : Path) {c : Char} (ts : List Token) :
    readSimple (p.tokens ++ .mark c :: ts) =
      if .mark '=' ∈ p.tokens ++ .mark c :: ts then readAssignment (p.tokens ++ .mark c :: ts)
      else readPush (p.tokens ++ .mark c :: ts) := by
  obtain ⟨head, members⟩ := p
  cases members <;> rfl

theorem readSimple_declare {name : String} {className : Path} {arguments : List Operand}
    {s : Statement} :
    readSimple (.word "let" :: .word name :: .mark '=' :: .word "new" ::
      callTokens className arguments) = some s ↔
        Statement.Valid (.declare name className arguments) ∧
          .declare name className arguments = s := by
  by_cases hname : isName name
  · simp [readSimple, readDeclaration, Statement.Valid, hname, Option.bind_eq_some_iff,
      readCall_callTokens, and_assoc]
  · simp [readSimple, readDeclaration, Statement.Valid, hname]

theorem readSimple_assign {target : Path} {value : Operand} {s : Statement} :
    readSimple (target.tokens ++ .mark '=' :: value.tokens) = some s ↔
      Statement.Valid (.assign target value) ∧ .assign target value = s := by
  have hsplit := split_path (c := '=') (by decide) (target.head :: target.members) value.tokens
  change _ = target.tokens ∧ _ at hsplit
  rw [readSimple_path, if_pos (by simp), readAssignment, Path.tokens, hsplit.1, hsplit.2,
    List.tail_cons]
  simp [Option.bind_eq_some_iff, readPath_tokens, readOperand_tokens, Statement.Valid, and_assoc]

theorem readSimple_push {list : Path} {item : Operand} {s : Statement} :
    readSimple (callTokens ⟨list.head, list.members ++ ["push"]⟩ [item]) = some s ↔
      Statement.Valid (.push list item) ∧ .push list item = s := by
  have hpush : isIdentifier "push" = true := by decide +kernel
  have hcallee : Path.Valid ⟨list.head, list.members ++ ["push"]⟩ ↔ list.Valid := by
    simp [Path.Valid, hpush]
  have hequals : .mark '=' ∉ callTokens ⟨list.head, list.members ++ ["push"]⟩ [item] := by
    have hpath := mark_notMem_pathTokens (c := '=') (by decide)
      (list.head :: (list.members ++ ["push"]))
    have hitem := mark_notMem_operand (c := '=') (by decide) item
    simp [callTokens, Path.tokens, hpath, hitem]
  have hread : readSimple (callTokens ⟨list.head, list.members ++ ["push"]⟩ [item]) =
      readPush (callTokens ⟨list.head, list.members ++ ["push"]⟩ [item]) := by
    rw [callTokens] at hequals ⊢
    rw [readSimple_path, if_neg hequals]
  rw [hread, readPush]
  simp [Option.bind_eq_some_iff, readCall_callTokens, hcallee, Statement.Valid, and_assoc]

/-! ### Blocks -/

/-- The token ends no statement and opens or closes no block. -/
def Token.Plain (t : Token) : Prop := t ≠ .mark ';' ∧ t ≠ .mark '{' ∧ t ≠ .mark '}'

theorem plain_path (p : Path) : ∀ t ∈ p.tokens, t.Plain := by
  intro t ht
  refine ⟨?_, ?_, ?_⟩ <;> rintro rfl <;> exact mark_notMem_pathTokens (by decide) _ ht

theorem plain_operand (a : Operand) : ∀ t ∈ a.tokens, t.Plain := by
  intro t ht
  refine ⟨?_, ?_, ?_⟩ <;> rintro rfl <;> exact mark_notMem_operand (by decide) a ht

theorem plain_call (callee : Path) (arguments : List Operand) :
    ∀ t ∈ callTokens callee arguments, t.Plain := by
  have hinside : ∀ as : List Operand,
      ∀ t ∈ [Token.mark ','].intercalate (as.map Operand.tokens), t.Plain := by
    intro as
    induction as with
    | nil => simp
    | cons a as ih =>
      cases as with
      | nil => simpa using plain_operand a
      | cons b as =>
        intro t ht
        simp only [List.map_cons, List.intercalate_cons_cons, List.mem_append,
          List.mem_singleton] at ht
        rcases ht with (ht | rfl) | ht
        · exact plain_operand a t ht
        · simp [Token.Plain]
        · exact ih t ht
  intro t ht
  simp only [callTokens, List.mem_append, List.mem_cons, List.not_mem_nil, or_false] at ht
  rcases ht with ht | rfl | ht | rfl
  · exact plain_path callee t ht
  · simp [Token.Plain]
  · exact hinside arguments t ht
  · simp [Token.Plain]

@[simp] theorem readAll_nil (s : Reading) : readAll [] s = some s := rfl

@[simp] theorem readAll_cons (t : Token) (ts : List Token) (s : Reading) :
    readAll (t :: ts) s = (s.take t).bind (readAll ts) := rfl

@[simp] theorem readAll_append (ts us : List Token) (s : Reading) :
    readAll (ts ++ us) s = (readAll ts s).bind (readAll us) := by
  simp [readAll]
  rfl

theorem readAll_plain {ts : List Token} (h : ∀ t ∈ ts, t.Plain) (s : Reading) :
    readAll ts s = some { s with pending := s.pending ++ ts } := by
  induction ts generalizing s with
  | nil => simp
  | cons t ts ih =>
    rw [List.forall_mem_cons] at h
    obtain ⟨hsemicolon, hopen, hclose⟩ := h.1
    have htake : s.take t = some { s with pending := s.pending ++ [t] } := by
      simp [Reading.take, hsemicolon, hopen, hclose]
    simp [htake, ih h.2]

/-- A simple statement is read as its tokens without the semicolon are. -/
theorem readAll_of_readSimple {ts : List Token} (h : ∀ t ∈ ts, t.Plain) {s : Statement}
    (hs : ∀ {s'}, readSimple ts = some s' ↔ s.Valid ∧ s = s') {body : List Statement}
    {outer : List (List Statement)} {after : Reading} :
    readAll (ts ++ [.mark ';']) ⟨[], body, outer⟩ = some after ↔
      s.Valid ∧ ⟨[], body ++ [s], outer⟩ = after := by
  have hread : readAll (ts ++ [.mark ';']) ⟨[], body, outer⟩ =
      (readSimple ts).map fun s => ⟨[], body ++ [s], outer⟩ := by
    rw [readAll_append, readAll_plain h]
    cases hsimple : readSimple ts <;> simp [Reading.take, hsimple]
  simp [hread, hs, and_assoc]

mutual

/-- A statement that is written out is read back, behind the statements before it, if its names are
names of the language. -/
theorem readAll_tokens : ∀ (s : Statement) {body outer after},
    readAll s.tokens ⟨[], body, outer⟩ = some after ↔
      s.Valid ∧ ⟨[], body ++ [s], outer⟩ = after
  | .block inner, body, outer, after => by
    have hopen : Reading.take ⟨[], body, outer⟩ (.mark '{') = some ⟨[], [], body :: outer⟩ := rfl
    have hclose : Reading.take ⟨[], inner, body :: outer⟩ (.mark '}') =
        some ⟨[], body ++ [.block inner], outer⟩ := rfl
    simp [Statement.tokens, hopen, Option.bind_eq_some_iff, readAll_tokensAll inner,
      Statement.Valid, and_assoc, hclose]
  | .declare name className arguments, _, _, _ => by
    have hplain : ∀ t ∈ .word "let" :: .word name :: .mark '=' :: .word "new" ::
        callTokens className arguments, t.Plain := by
      simpa [Token.Plain] using plain_call className arguments
    exact readAll_of_readSimple hplain readSimple_declare
  | .assign target value, body, outer, after => by
    have hplain : ∀ t ∈ target.tokens ++ .mark '=' :: value.tokens, t.Plain := by
      intro t ht
      simp only [List.mem_append, List.mem_cons] at ht
      rcases ht with ht | rfl | ht
      · exact plain_path target t ht
      · simp [Token.Plain]
      · exact plain_operand value t ht
    have hread := @readAll_of_readSimple _ hplain _ readSimple_assign body outer after
    simpa [Statement.tokens] using hread
  | .push list item, _, _, _ => readAll_of_readSimple (plain_call _ _) readSimple_push

theorem readAll_tokensAll : ∀ (ss : List Statement) {body outer after},
    readAll (Statement.tokensAll ss) ⟨[], body, outer⟩ = some after ↔
      Statement.ValidAll ss ∧ ⟨[], body ++ ss, outer⟩ = after
  | [], _, _, _ => by simp [Statement.tokensAll, Statement.ValidAll]
  | s :: ss, _, _, _ => by
    simp [Statement.tokensAll, Option.bind_eq_some_iff, readAll_tokens s, readAll_tokensAll ss,
      Statement.ValidAll, and_assoc]

end

/-- Statements that are written out are read back, and only if their names are names of the
language. -/
theorem readTokens_tokensAll {ss program : List Statement} :
    readTokens (Statement.tokensAll ss) = some program ↔
      Statement.ValidAll ss ∧ ss = program := by
  simp [readTokens, Option.bind_eq_some_iff, readAll_tokensAll ss, and_assoc]

/-! ### Texts of statements -/

/-- The path that a text spells. -/
def Path.parse (text : String) : Path := ⟨(segments text).headD "", (segments text).tail⟩

theorem segments_ne_nil (path : String) : segments path ≠ [] := by
  simp [segments, List.splitOn_ne_nil]

theorem Path.tokens_parse (text : String) :
    (Path.parse text).tokens = pathTokens (segments text) := by
  unfold parse tokens
  cases h : segments text with
  | nil => exact absurd h (segments_ne_nil text)
  | cons head members => rfl

theorem Path.parse_append (path rest : String) :
    Path.parse (path ++ "." ++ rest) =
      ⟨(Path.parse path).head, (Path.parse path).members ++ segments rest⟩ := by
  unfold parse
  rw [segments_append]
  cases h : segments path with
  | nil => exact absurd h (segments_ne_nil path)
  | cons head members => rfl

theorem Path.parse_identifier {name : String} (h : isIdentifier name) :
    Path.parse name = ⟨name, []⟩ := by
  rw [parse, segments_identifier h]
  rfl

theorem Path.valid_parse {text : String} (h : isPath text) (hname : isName (parse text).head) :
    (Path.parse text).Valid := by
  refine ⟨.inl hname, ?_⟩
  rw [isPath] at h
  rw [parse]
  cases hsegments : segments text with
  | nil => rfl
  | cons head members => simpa [hsegments] using (List.all_eq_true.1 h · <| List.mem_of_mem_tail ·)

/-- In front of a character that continues no word, the text is read as the operand. -/
def Spells (text : String) (a : Operand) : Prop :=
  ∀ (c : Char) (cs : List Char), Text.isIdentifierPart c = false →
    scan .blank (text.toList ++ c :: cs) = front a.tokens (scan .blank (c :: cs))

theorem spells_literal (s : String) : Spells (Text.literal s) (.text (withoutReturns s)) :=
  fun c cs _ => scan_literal s (c :: cs)

theorem spells_path {path : String} (h : isPath path) : Spells path (.path (.parse path)) := by
  intro c cs hc
  rw [scan_path h hc, Operand.tokens, Path.tokens_parse]

theorem scan_word_text {name : String} (h : isIdentifier name) {c : Char}
    (hc : Text.isIdentifierPart c = false) (cs : List Char) :
    scan .blank (name.toList ++ c :: cs) = front [.word name] (scan .blank (c :: cs)) := by
  rw [scan_path (isPath_identifier h) hc, segments_identifier h]
  rfl

theorem scan_operands {texts : List String} {operands : List Operand}
    (h : List.Forall₂ Spells texts operands) (cs : List Char) :
    scan .blank ((String.intercalate ", " texts).toList ++ ')' :: cs) =
      front ([.mark ','].intercalate (operands.map Operand.tokens)) (scan .blank (')' :: cs)) := by
  have hcomma : ", ".toList = [',', ' '] := rfl
  rw [String.toList_intercalate, hcomma]
  induction h with
  | nil => simp
  | @cons text a texts operands hfirst hrest ih =>
    cases hrest with
    | nil => simpa using hfirst ')' cs (by decide)
    | @cons text' a' texts operands hsecond hrest =>
      simp only [List.map_cons, List.intercalate_cons_cons, List.append_assoc] at ih ⊢
      rw [List.cons_append, hfirst ',' _ (by decide), scan_mark (by decide), List.singleton_append,
        scan_blank (.inl rfl), ih, front_front, front_front, List.append_assoc]

/-- The text of a new object is read as a call of its class. -/
theorem scan_creation {className : String} (hclass : isPath className) {texts : List String}
    {operands : List Operand} (h : List.Forall₂ Spells texts operands) (cs : List Char) :
    scan .blank ((Script.creation className texts).toList ++ cs) =
      front (.word "new" :: callTokens (.parse className) operands) (scan .blank cs) := by
  have htext : (Script.creation className texts).toList ++ cs =
      "new".toList ++ ' ' :: (className.toList ++ '(' ::
        ((String.intercalate ", " texts).toList ++ ')' :: cs)) := by
    simp [Script.creation]
  rw [htext, scan_word_text (by decide) (by decide), scan_blank (.inl rfl),
    scan_path hclass (by decide), scan_mark (by decide), scan_operands h, scan_mark (by decide)]
  simp [callTokens, Path.tokens_parse]

/-- The text of a declaration is read as one. -/
theorem scan_declare {name : String} (hname : isIdentifier name) {className : String}
    (hclass : isPath className) {texts : List String} {operands : List Operand}
    (h : List.Forall₂ Spells texts operands) (cs : List Char) :
    scan .blank ((Script.declare name className texts).toList ++ cs) =
      front (Statement.declare name (.parse className) operands).tokens (scan .blank cs) := by
  have htext : (Script.declare name className texts).toList ++ cs =
      "let".toList ++ ' ' :: (name.toList ++ ' ' :: '=' :: ' ' ::
        ((Script.creation className texts).toList ++ ';' :: '\n' :: cs)) := by
    simp [Script.declare]
  rw [htext, scan_word_text (by decide) (by decide), scan_blank (.inl rfl),
    scan_word_text hname (by decide), scan_blank (.inl rfl), scan_mark (by decide),
    scan_blank (.inl rfl), scan_creation hclass h, scan_mark (by decide), scan_blank (.inr rfl)]
  simp [Statement.tokens]

end Widgetry.Program
