/-! Ordered tables: distinct keys in the order in which they first came, each with its latest
value. -/

namespace Widgetry

/-- Values by key. -/
structure Table (β : Type) where
  entries : List (String × β)
  distinct : (entries.map Prod.fst).Nodup
  deriving DecidableEq

namespace Table

variable {β : Type}

/-- The entries with a value set: in its place if the key is there, at the end otherwise. -/
def putEntry (key : String) (value : β) : List (String × β) → List (String × β)
  | [] => [(key, value)]
  | (k, v) :: es => if k = key then (k, value) :: es else (k, v) :: putEntry key value es

theorem putEntry_keys (key : String) (value : β) (es : List (String × β)) :
    (putEntry key value es).map Prod.fst =
      if key ∈ es.map Prod.fst then es.map Prod.fst else es.map Prod.fst ++ [key] := by
  induction es with
  | nil => simp [putEntry]
  | cons e es ih =>
    obtain ⟨k, v⟩ := e
    by_cases h : k = key
    · simp [putEntry, h]
    · by_cases hk : key ∈ es.map Prod.fst <;>
        simp_all [putEntry, Ne.symm h]

theorem putEntry_distinct (key : String) (value : β) {es : List (String × β)}
    (h : (es.map Prod.fst).Nodup) : ((putEntry key value es).map Prod.fst).Nodup := by
  rw [putEntry_keys]
  split
  · exact h
  · next hk =>
    refine List.nodup_append.2 ⟨h, by simp, fun a ha b hb hab => hk ?_⟩
    rwa [← List.mem_singleton.1 hb, ← hab]

def empty : Table β := ⟨[], List.nodup_nil⟩

instance : Inhabited (Table β) := ⟨empty⟩

/-- The table with a value set. -/
def put (t : Table β) (key : String) (value : β) : Table β :=
  ⟨putEntry key value t.entries, putEntry_distinct key value t.distinct⟩

/-- The table of a list of entries: first positions, last values. -/
def ofList (es : List (String × β)) : Table β := es.foldl (fun t e => t.put e.1 e.2) empty

def get? (t : Table β) (key : String) : Option β := t.entries.lookup key

def keys (t : Table β) : List String := t.entries.map Prod.fst

end Table

end Widgetry
