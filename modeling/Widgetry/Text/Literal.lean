/-! Text inside generated code: single-quoted string literals of a script and double-quoted
attribute values of a template. Both are written character by character. -/

namespace Widgetry.Text

/-- A character inside a single-quoted literal. Carriage returns are left out. -/
def literalChar (c : Char) : List Char :=
  if c = '\\' then ['\\', '\\']
  else if c = '\'' then ['\\', '\'']
  else if c = '\n' then ['\\', 'n']
  else if c = '\r' then []
  else [c]

/-- The characters that are escaped in a single-quoted literal. -/
def escapedChars : List Char := ['\\', '\'', '\n']

/-- The characters that are read as another one behind a backslash. -/
def escapeLetters : List Char := ['\\', '\'', 'n']

/-- A carriage return is left out, some characters are escaped, and others stand for themselves. -/
theorem literalChar_cases (c : Char) :
    (c = '\r' ∧ literalChar c = []) ∨
      c ≠ '\r' ∧ ((c ∈ escapedChars ∧ ∃ d ∈ escapeLetters, literalChar c = ['\\', d]) ∨
        c ∉ escapedChars ∧ literalChar c = [c]) := by
  by_cases hbackslash : c = '\\'
  · subst hbackslash
    exact .inr ⟨by decide, .inl ⟨by decide, '\\', by decide, rfl⟩⟩
  by_cases hquote : c = '\''
  · subst hquote
    exact .inr ⟨by decide, .inl ⟨by decide, '\'', by decide, rfl⟩⟩
  by_cases hfeed : c = '\n'
  · subst hfeed
    exact .inr ⟨by decide, .inl ⟨by decide, 'n', by decide, rfl⟩⟩
  by_cases hreturn : c = '\r'
  · subst hreturn
    exact .inl ⟨rfl, rfl⟩
  · refine .inr ⟨hreturn, .inr ⟨?_, ?_⟩⟩
    · simp [escapedChars, hbackslash, hquote, hfeed]
    · simp [literalChar, hbackslash, hquote, hfeed, hreturn]

/-- The single-quoted literal of a text, as characters. -/
def literalChars (s : List Char) : List Char := '\'' :: (s.flatMap literalChar ++ ['\''])

/-- The single-quoted literal of a text. -/
def literal (s : String) : String := String.ofList (literalChars s.toList)

/-- A character inside a double-quoted attribute value. -/
def attributeChar (c : Char) : List Char :=
  if c = '&' then ['&', 'a', 'm', 'p', ';']
  else if c = '"' then ['&', 'q', 'u', 'o', 't', ';']
  else if c = '<' then ['&', 'l', 't', ';']
  else [c]

/-- A text as it stands inside a double-quoted attribute value. -/
def attributeValue (s : String) : String := String.ofList (s.toList.flatMap attributeChar)

end Widgetry.Text
