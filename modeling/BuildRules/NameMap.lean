/-!
# Maps from names, in the order of the names

A `NameMap` holds its entries in strictly ascending order of their names, so two
maps with the same entries are equal and every listing of a map is in name order.
Names are compared character by character by code point, which is also the order
of their UTF-8 bytes.
-/

set_option autoImplicit false

namespace BuildRules

/-- A finite map from names, listed in ascending order of the names. -/
structure NameMap (α : Type) where
  entries : List (String × α)
  ascending : entries.Pairwise fun a b => a.1 < b.1
  deriving DecidableEq

namespace NameMap

variable {α : Type}

def empty : NameMap α := ⟨[], .nil⟩

instance : EmptyCollection (NameMap α) := ⟨empty⟩
instance : Inhabited (NameMap α) := ⟨empty⟩

/-- Puts an entry at its place in an ascending list, over an entry of the same name. -/
def insertEntry (name : String) (value : α) : List (String × α) → List (String × α)
  | [] => [(name, value)]
  | entry :: rest =>
    if name < entry.1 then (name, value) :: entry :: rest
    else if name = entry.1 then (name, value) :: rest
    else entry :: insertEntry name value rest

/-- An inserted list holds the new entry and entries of the old one only. -/
theorem eq_or_mem_of_mem_insertEntry {name : String} {value : α} {entry : String × α} :
    ∀ {entries : List (String × α)}, entry ∈ insertEntry name value entries →
      entry = (name, value) ∨ entry ∈ entries
  | [], h => by simpa [insertEntry] using h
  | first :: rest, h => by
    unfold insertEntry at h
    split at h
    · simpa using h
    · split at h
      · rcases List.mem_cons.1 h with rfl | h
        · exact .inl rfl
        · exact .inr (List.mem_cons_of_mem _ h)
      · rcases List.mem_cons.1 h with rfl | h
        · exact .inr List.mem_cons_self
        · exact (eq_or_mem_of_mem_insertEntry h).imp_right (List.mem_cons_of_mem _)

/-- Insertion keeps the order of the names strict. -/
theorem pairwise_insertEntry (name : String) (value : α) {entries : List (String × α)}
    (ascending : entries.Pairwise fun a b => a.1 < b.1) :
    (insertEntry name value entries).Pairwise fun a b => a.1 < b.1 := by
  induction ascending with
  | nil => simp [insertEntry]
  | @cons entry rest below ascending ih =>
    unfold insertEntry
    split
    · rename_i before
      refine .cons ?_ (.cons below ascending)
      intro other member
      rcases List.mem_cons.1 member with rfl | member
      · exact before
      · exact String.lt_trans before (below other member)
    · rename_i notBefore
      split
      · rename_i same
        exact .cons (fun other member => same ▸ below other member) ascending
      · rename_i different
        refine .cons ?_ ih
        intro other member
        rcases eq_or_mem_of_mem_insertEntry member with rfl | member
        · refine Decidable.byContradiction fun notAfter => different ?_
          exact String.le_antisymm (String.not_lt.1 notAfter) (String.not_lt.1 notBefore)
        · exact below other member

/-- The map with `name` bound to `value`; an earlier binding of `name` is replaced. -/
def insert (map : NameMap α) (name : String) (value : α) : NameMap α :=
  ⟨insertEntry name value map.entries, pairwise_insertEntry name value map.ascending⟩

def find? (map : NameMap α) (name : String) : Option α :=
  (map.entries.find? (·.1 = name)).map (·.2)

/-- A map without entries knows no name. -/
@[simp]
theorem find?_empty (name : String) : (empty : NameMap α).find? name = none := rfl

/-- An inserted list binds the new name to the new value and every other name as before. -/
theorem find?_insertEntry (name other : String) (value : α) (entries : List (String × α)) :
    ((insertEntry name value entries).find? (·.1 = other)).map (·.2) =
      if other = name then some value else (entries.find? (·.1 = other)).map (·.2) := by
  induction entries with
  | nil => by_cases same : other = name <;> simp [insertEntry, same, eq_comm (a := name)]
  | cons entry rest ih =>
    unfold insertEntry
    by_cases same : other = name
    · subst same
      split
      · simp
      · split
        · simp
        · rename_i different
          simpa [Ne.symm different] using ih
    · split
      · simp [Ne.symm same]
      · split
        · rename_i replaced
          subst replaced
          simp [Ne.symm same]
        · by_cases found : entry.1 = other
          · simp [found]
          · simpa [found, same] using ih

/-- A map binds an inserted name to its value and every other name as before. -/
theorem find?_insert (map : NameMap α) (name other : String) (value : α) :
    (map.insert name value).find? other = if other = name then some value else map.find? other :=
  find?_insertEntry name other value map.entries

def contains (map : NameMap α) (name : String) : Bool :=
  (map.find? name).isSome

def names (map : NameMap α) : List String :=
  map.entries.map (·.1)

/-- The map of the given bindings; of two bindings of one name the later one stays. -/
def ofList (bindings : List (String × α)) : NameMap α :=
  bindings.foldl (fun map binding => map.insert binding.1 binding.2) empty

end NameMap

end BuildRules
