import Mathlib.Data.List.Induction
import Mathlib.Data.List.Nodup
import Mathlib.Tactic.SplitIfs

/-! Lists: first occurrences, one place changed in a list that goes on, and what comes from lists
with a separator between them. -/

namespace Widgetry

variable {α : Type}

/-! ### First occurrences -/

section Firsts

variable [BEq α] [LawfulBEq α]

theorem eraseDups_concat (l : List α) (a : α) :
    (l ++ [a]).eraseDups = if l.contains a then l.eraseDups else l.eraseDups ++ [a] := by
  rw [List.eraseDups_append, List.removeAll]
  cases h : l.contains a with
  | true => simp_all
  | false => simp_all [List.eraseDups_cons]

theorem nodup_eraseDups (l : List α) : l.eraseDups.Nodup := by
  induction l using List.reverseRecOn with
  | nil => simp
  | append_singleton l a ih =>
    rw [eraseDups_concat]
    split_ifs with h
    · exact ih
    · have hfresh : a ∉ l.eraseDups := by simpa using h
      simpa using ih.concat hfresh

end Firsts

/-! ### One place -/

variable {f : α → α}

theorem modify_append_left {l : List α} {i : Nat} (h : i < l.length) (rest : List α) :
    (l ++ rest).modify i f = l.modify i f ++ rest := by
  induction l generalizing i with
  | nil => simp at h
  | cons a l ih =>
    cases i with
    | zero => simp
    | succ i => simpa using ih (by simpa using h)

theorem modify_length (l : List α) (a : α) (rest : List α) :
    (l ++ a :: rest).modify l.length f = l ++ f a :: rest := by
  induction l with
  | nil => simp
  | cons b l ih => simpa using ih

/-! ### Separators -/

theorem of_mem_intercalate {sep : List α} {parts : List (List α)} {a : α}
    (h : a ∈ sep.intercalate parts) : a ∈ sep ∨ ∃ part ∈ parts, a ∈ part := by
  induction parts with
  | nil => simp at h
  | cons part parts ih =>
    cases parts with
    | nil => exact .inr ⟨part, List.mem_cons_self, by simpa using h⟩
    | cons next parts =>
      rw [List.intercalate_cons_cons, List.append_assoc, List.mem_append, List.mem_append] at h
      rcases h with h | h | h
      · exact .inr ⟨part, List.mem_cons_self, h⟩
      · exact .inl h
      · exact (ih h).imp_right fun ⟨other, hother, ha⟩ =>
          ⟨other, List.mem_cons_of_mem part hother, ha⟩

end Widgetry
