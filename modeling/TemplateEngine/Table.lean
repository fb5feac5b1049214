/-!
# Tables of named entries

A table lists entries by name, each name once.  Storing under a name either keeps
the place of an existing entry or moves it to the end; which of the two matters
only where the order of entries is visible.
-/

namespace TemplateEngine

/-- Entries by name. -/
abbrev Table (α : Type) := List (String × α)

namespace Table

variable {α : Type}

/-- Whether a name has an entry. -/
def has (table : Table α) (name : String) : Bool :=
  (table.lookup name).isSome

/-- Remove the entry of a name. -/
def without (table : Table α) (name : String) : Table α :=
  table.filter fun entry => entry.1 != name

/-- Store an entry at the place of the one it replaces, or at the end. -/
def store (name : String) (value : α) : Table α → Table α
  | [] => [(name, value)]
  | entry :: rest =>
      if entry.1 = name then (name, value) :: rest
      else entry :: store name value rest

/-- Store an entry at the end, whatever place it had before. -/
def storeLast (table : Table α) (name : String) (value : α) : Table α :=
  table.without name ++ [(name, value)]

/-- Store several entries in turn. -/
def storeAll (table entries : Table α) : Table α :=
  entries.foldl (fun stored entry => stored.store entry.1 entry.2) table

/-- The names of a table in its order. -/
def names (table : Table α) : List String :=
  table.map Prod.fst

/-- Texts in the order of their code points. -/
def sortTexts (texts : List String) : List String :=
  texts.mergeSort (fun first second => !(second < first))

/-- The names of a table in the order of their code points. -/
def sortedNames (table : Table α) : List String :=
  sortTexts table.names

/-- The entries of a table in the code point order of their names. -/
def sorted (table : Table α) : Table α :=
  table.mergeSort (fun first second => !(second.1 < first.1))

@[simp]
theorem lookup_nil (name : String) : List.lookup name ([] : Table α) = none := rfl

/-- What is found under a key is an entry. -/
theorem mem_of_lookup {κ : Type} [BEq κ] [LawfulBEq κ] {entries : List (κ × α)} {key : κ}
    {value : α} (found : entries.lookup key = some value) : (key, value) ∈ entries := by
  obtain ⟨before, after, rfl, _⟩ := List.lookup_eq_some_iff.1 found
  exact List.mem_append_right before List.mem_cons_self

/-- What a table has after an entry is stored. -/
theorem mem_of_mem_store {name : String} {value : α} {table : Table α} {entry : String × α}
    (member : entry ∈ table.store name value) : entry = (name, value) ∨ entry ∈ table := by
  induction table with
  | nil => exact .inl (List.mem_singleton.1 member)
  | cons first rest inductionHypothesis =>
      simp only [store] at member
      split at member
      · rcases List.mem_cons.1 member with same | member
        · exact .inl same
        · exact .inr (List.mem_cons_of_mem _ member)
      · rcases List.mem_cons.1 member with same | member
        · exact .inr (same ▸ List.mem_cons_self)
        · exact (inductionHypothesis member).imp_right (List.mem_cons_of_mem _)

/-- A stored entry is found under its name, and other names keep theirs. -/
theorem lookup_store (table : Table α) (name other : String) (value : α) :
    (table.store name value).lookup other =
      if other = name then some value else table.lookup other := by
  induction table with
  | nil =>
      by_cases same : other = name
      · simp [store, same]
      · simp [store, same, List.lookup_cons, beq_eq_false_iff_ne.2 same]
  | cons entry rest inductionHypothesis =>
      obtain ⟨key, stored⟩ := entry
      simp only [store]
      by_cases sameKey : key = name
      · subst sameKey
        by_cases same : other = key
        · simp [same]
        · simp [same, List.lookup_cons, beq_eq_false_iff_ne.2 same]
      · rw [if_neg sameKey]
        by_cases found : other = key
        · subst found
          simp [sameKey]
        · simp [List.lookup_cons, beq_eq_false_iff_ne.2 found, inductionHypothesis]

end Table

end TemplateEngine
