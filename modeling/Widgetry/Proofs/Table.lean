import Widgetry.Table
import Widgetry.Proofs.Lists

/-! First places and last values. An ordered table grows by new keys as a list of first occurrences
grows by what it does not hold yet; so a table made of a list has the keys of the list at their
first places, each with its last value. -/

namespace Widgetry

namespace Table

variable {β : Type}

theorem ofList_concat (es : List (String × β)) (e : String × β) :
    ofList (es ++ [e]) = (ofList es).put e.1 e.2 := by
  simp [ofList]

theorem keys_put (t : Table β) (key : String) (value : β) :
    (t.put key value).keys = if key ∈ t.keys then t.keys else t.keys ++ [key] :=
  putEntry_keys key value t.entries

/-- Keys stand where they came first. -/
theorem keys_ofList (es : List (String × β)) :
    (ofList es).keys = (es.map Prod.fst).eraseDups := by
  induction es using List.reverseRecOn with
  | nil => rfl
  | append_singleton es e ih =>
    rw [ofList_concat, keys_put, ih, List.map_append, List.map_singleton, eraseDups_concat]
    simp only [List.mem_eraseDups, List.contains_iff_mem]

theorem lookup_putEntry (key other : String) (value : β) (es : List (String × β)) :
    (putEntry key value es).lookup other =
      if other = key then some value else es.lookup other := by
  induction es with
  | nil =>
    by_cases h : other = key <;> simp [putEntry, h]
  | cons e es ih =>
    obtain ⟨k, v⟩ := e
    rw [putEntry]
    by_cases hk : k = key
    · subst hk
      by_cases ho : other = k
      · simp [ho]
      · simp [List.lookup_cons, ho, beq_false_of_ne ho]
    · rw [if_neg hk, List.lookup_cons, List.lookup_cons, ih]
      by_cases ho : other = k
      · simp [ho, hk]
      · simp [beq_false_of_ne ho]

theorem get?_put (t : Table β) (key other : String) (value : β) :
    (t.put key value).get? other = if other = key then some value else t.get? other :=
  lookup_putEntry key other value t.entries

/-- The value of a key is the one that came last. -/
theorem get?_ofList (es : List (String × β)) (key : String) :
    (ofList es).get? key = es.reverse.lookup key := by
  induction es using List.reverseRecOn with
  | nil => rfl
  | append_singleton es e ih =>
    rw [ofList_concat, get?_put, ih, List.reverse_append, List.reverse_singleton,
      List.singleton_append, List.lookup_cons]
    by_cases h : key = e.1
    · simp [h]
    · simp [h, beq_false_of_ne h]

end Table

end Widgetry
