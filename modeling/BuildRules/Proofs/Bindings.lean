import BuildRules.NameMap
import Mathlib.Data.List.Nodup

/-!
# Bindings of names

A `NameMap` binds a name exactly when it lists the name with the value, and a map that is
put together from a list of bindings with distinct names binds what the list says. Two
listings with ascending names are equal when they have the same members.
-/

set_option autoImplicit false

namespace BuildRules.NameMap

variable {α : Type}

/-- In a list with distinct names the first binding of a name is its only one. -/
theorem find?_bindings_eq_some_iff {bindings : List (String × α)}
    (distinct : (bindings.map Prod.fst).Nodup) {name : String} {value : α} :
    (bindings.find? (·.1 = name)).map (·.2) = some value ↔ (name, value) ∈ bindings := by
  constructor
  · intro found
    obtain ⟨binding, hit, rfl⟩ := Option.map_eq_some_iff.mp found
    have same : binding.1 = name := by simpa using List.find?_some hit
    rw [← same]
    exact List.mem_of_find?_eq_some hit
  · intro member
    induction bindings with
    | nil => cases member
    | cons first rest ih =>
      rw [List.map_cons, List.nodup_cons] at distinct
      rcases List.mem_cons.mp member with rfl | later
      · simp
      · have other : first.1 ≠ name := by
          intro same
          exact distinct.1 (same ▸ List.mem_map_of_mem (f := Prod.fst) later)
        rw [List.find?_cons_of_neg (by simpa using other)]
        exact ih distinct.2 later

/-- Names that ascend are different from each other. -/
theorem nodup_of_ascending {bindings : List (String × α)}
    (ascending : bindings.Pairwise fun a b => a.1 < b.1) : (bindings.map Prod.fst).Nodup := by
  unfold List.Nodup
  rw [List.pairwise_map]
  apply ascending.imp
  intro first second before same
  rw [same] at before
  exact String.lt_irrefl _ before

/-- A map has no name twice. -/
theorem nodup_names (map : NameMap α) : map.names.Nodup :=
  nodup_of_ascending map.ascending

/-- The entries of a map are what can be found in it. -/
theorem mem_entries_iff_find? {map : NameMap α} {name : String} {value : α} :
    (name, value) ∈ map.entries ↔ map.find? name = some value :=
  (find?_bindings_eq_some_iff map.nodup_names).symm

/-- What a map binds after a list of bindings with distinct names has been put into it. -/
theorem find?_foldl_insert {bindings : List (String × α)}
    (distinct : (bindings.map Prod.fst).Nodup) (map : NameMap α) (name : String) :
    (bindings.foldl (fun map binding => map.insert binding.1 binding.2) map).find? name =
      ((bindings.find? (·.1 = name)).map (·.2)).or (map.find? name) := by
  induction bindings generalizing map with
  | nil => rfl
  | cons first rest ih =>
    rw [List.map_cons, List.nodup_cons] at distinct
    rw [List.foldl_cons, ih distinct.2, find?_insert]
    by_cases same : name = first.1
    · have absent : rest.find? (·.1 = name) = none := by
        rw [List.find?_eq_none]
        intro binding member hit
        have again : binding.1 = first.1 := (by simpa using hit : binding.1 = name).trans same
        exact distinct.1 (again ▸ List.mem_map_of_mem (f := Prod.fst) member)
      rw [absent]
      simp [same]
    · rw [if_neg same, List.find?_cons_of_neg (by simpa using Ne.symm same)]

/-- A map of bindings with distinct names has exactly those bindings. -/
theorem find?_ofList_eq_some_iff {bindings : List (String × α)}
    (distinct : (bindings.map Prod.fst).Nodup) {name : String} {value : α} :
    (ofList bindings).find? name = some value ↔ (name, value) ∈ bindings := by
  unfold ofList
  rw [find?_foldl_insert distinct, find?_empty, Option.or_none]
  exact find?_bindings_eq_some_iff distinct

section Lists

variable {ι : Type} {items : List ι} {key : ι → String} {lists : ι → List α}

/-- The bindings of the lists of some items, without the items that have an empty one. -/
def nonemptyBindings (items : List ι) (key : ι → String) (lists : ι → List α) :
    List (String × List α) :=
  items.filterMap fun item => if (lists item).isEmpty then none else some (key item, lists item)

/-- The names of the bindings that are not empty stand in the order of the items. -/
theorem sublist_map_nonemptyBindings (items : List ι) (key : ι → String) (lists : ι → List α) :
    ((nonemptyBindings items key lists).map Prod.fst).Sublist (items.map key) := by
  unfold nonemptyBindings
  induction items with
  | nil => exact List.Sublist.refl _
  | cons first rest ih =>
    rw [List.filterMap_cons, List.map_cons]
    cases (lists first).isEmpty with
    | true => exact ih.cons _
    | false => exact ih.cons_cons _

/-- The map of the lists of items with distinct keys binds a key to the list of its item, if that is
not empty. -/
theorem find?_ofList_nonemptyBindings_eq_some_iff (distinct : (items.map key).Nodup)
    {name : String} {list : List α} :
    (ofList (nonemptyBindings items key lists)).find? name = some list ↔
      list ≠ [] ∧ ∃ item ∈ items, key item = name ∧ lists item = list := by
  rw [find?_ofList_eq_some_iff (distinct.sublist (sublist_map_nonemptyBindings items key lists))]
  unfold nonemptyBindings
  simp only [List.mem_filterMap, Option.ite_none_left_eq_some, Option.some.injEq, Prod.mk.injEq,
    List.isEmpty_iff]
  constructor
  · rintro ⟨item, member, nonempty, rfl, rfl⟩
    exact ⟨nonempty, item, member, rfl, rfl⟩
  · rintro ⟨nonempty, item, member, rfl, rfl⟩
    exact ⟨item, member, nonempty, rfl, rfl⟩

/-- The list of an item can be read off the map, also when it is empty. -/
theorem getD_find?_ofList_nonemptyBindings (distinct : (items.map key).Nodup) {item : ι}
    (member : item ∈ items) :
    ((ofList (nonemptyBindings items key lists)).find? (key item)).getD [] = lists item := by
  cases found : (ofList (nonemptyBindings items key lists)).find? (key item) with
  | some list =>
    obtain ⟨-, other, among, sameKey, sameList⟩ :=
      (find?_ofList_nonemptyBindings_eq_some_iff distinct).mp found
    have equal : other = item := List.inj_on_of_nodup_map distinct among member sameKey
    rw [Option.getD_some, ← sameList, equal]
  | none =>
    by_contra some
    have bound : (ofList (nonemptyBindings items key lists)).find? (key item) =
        .some (lists item) :=
      (find?_ofList_nonemptyBindings_eq_some_iff distinct).mpr
        ⟨fun empty => some empty.symm, item, member, rfl, rfl⟩
    rw [found] at bound
    cases bound

end Lists

/-- Lists with ascending names are equal when they have the same members. -/
theorem eq_of_mem_iff {first second : List (String × α)}
    (ascendingFirst : first.Pairwise fun a b => a.1 < b.1)
    (ascendingSecond : second.Pairwise fun a b => a.1 < b.1)
    (same : ∀ binding, binding ∈ first ↔ binding ∈ second) : first = second := by
  have nodupFirst : first.Nodup := (nodup_of_ascending ascendingFirst).of_map
  have nodupSecond : second.Nodup := (nodup_of_ascending ascendingSecond).of_map
  -- Two listings with the same members are rearrangements of each other, and only one is sorted.
  have perm : first.Perm second :=
    (List.perm_ext_iff_of_nodup nodupFirst nodupSecond).mpr same
  refine perm.eq_of_pairwise ?_ ascendingFirst ascendingSecond
  intro a b _ _ before after
  exact absurd after (String.lt_asymm before)

/-- The map of a list with ascending names lists it as it is. -/
theorem entries_ofList {bindings : List (String × α)}
    (ascending : bindings.Pairwise fun a b => a.1 < b.1) :
    (ofList bindings).entries = bindings := by
  have distinct := nodup_of_ascending ascending
  apply eq_of_mem_iff (ofList bindings).ascending ascending
  rintro ⟨name, value⟩
  rw [mem_entries_iff_find?, find?_ofList_eq_some_iff distinct]

/-- Bindings that are inserted into a map one by one are inserted into its sorted entries. -/
theorem entries_foldl_insert (bindings : List (String × α)) (map : NameMap α) :
    (bindings.foldl (fun map binding => map.insert binding.1 binding.2) map).entries =
      bindings.foldl (fun sorted binding => insertEntry binding.1 binding.2 sorted) map.entries :=
  (List.foldl_hom entries fun _ _ => rfl).symm

/-- The map of a list with distinct names rearranges the list. -/
theorem perm_entries_ofList {bindings : List (String × α)}
    (distinct : (bindings.map Prod.fst).Nodup) : (ofList bindings).entries.Perm bindings := by
  have nodup : (ofList bindings).entries.Nodup := (ofList bindings).nodup_names.of_map
  refine (List.perm_ext_iff_of_nodup nodup distinct.of_map).mpr ?_
  rintro ⟨name, value⟩
  rw [mem_entries_iff_find?, find?_ofList_eq_some_iff distinct]

/-- A map is made again from its entries. -/
theorem ofList_entries (map : NameMap α) : ofList map.entries = map :=
  (mk.injEq ..).mpr (entries_ofList map.ascending)

/-- The map with every value changed, in a way that may depend on the name. -/
def mapValues {β : Type} (map : NameMap α) (change : String → α → β) : NameMap β where
  entries := map.entries.map fun binding => (binding.1, change binding.1 binding.2)
  ascending := by
    rw [List.pairwise_map]
    exact map.ascending

/-- A map with changed values finds the changed value of what it found. -/
theorem find?_mapValues {β : Type} (map : NameMap α) (change : String → α → β) (name : String) :
    (map.mapValues change).find? name = (map.find? name).map (change name) := by
  unfold find? mapValues
  dsimp only
  induction map.entries with
  | nil => rfl
  | cons first rest ih =>
    rw [List.map_cons]
    by_cases same : first.1 = name
    · rw [List.find?_cons_of_pos (by simpa using same),
        List.find?_cons_of_pos (by simpa using same), ← same]
      rfl
    · rw [List.find?_cons_of_neg (by simpa using same),
        List.find?_cons_of_neg (by simpa using same)]
      exact ih

end BuildRules.NameMap
