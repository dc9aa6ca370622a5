import BuildRules.Json.Decode
import BuildRules.Proofs.Outcomes

/-!
# What is decoded from known values

A list is decoded item by item and a map member by member. A record is filled in by the
members of its object one after the other, in whatever order they come, and so a fact about
the record that every right member keeps holds of what is decoded at the end.
-/

set_option autoImplicit false

namespace BuildRules.Json

variable {α : Type}

/-- The nodes of the items of a list are the nodes of its values. -/
theorem itemNodes_eq_map (items : List Value) : itemNodes items = items.map Value.node := by
  induction items with
  | nil => rfl
  | cons first rest ih =>
    rw [itemNodes, ih]
    rfl

/-- The nodes of the members of an object are the nodes of its names and values. -/
theorem memberNodes_eq_map (members : List (String × Value)) :
    memberNodes members =
      members.map fun member => (({ content := .ok member.1 } : Scan String), member.2.node) := by
  induction members with
  | nil => rfl
  | cons first rest ih =>
    rw [memberNodes, ih]
    rfl

/-! ## Lists and maps -/

/-- A list is decoded when each of its items is. -/
theorem listOf_of_forall₂ {decoder : Decoder α} {items : List Value} {values : List α}
    (each : List.Forall₂ (fun item value => decoder item.node = .ok value) items values) :
    listOf decoder (Value.array items).node = .ok values := by
  have decoded : (itemNodes items).mapM decoder = .ok values := by
    rw [itemNodes_eq_map]
    apply mapM_of_forall₂
    rwa [List.forall₂_map_left_iff]
  rw [Value.node]
  unfold listOf
  simp only [Bool.false_eq_true, if_false]
  exact bind_eq_ok_iff.mpr ⟨values, decoded, rfl⟩

/-- A list of texts is read back from its value. -/
theorem listOf_text (texts : List String) :
    listOf text (Value.array (texts.map .string)).node = .ok texts := by
  apply listOf_of_forall₂
  rw [List.forall₂_map_left_iff]
  apply List.forall₂_same.mpr
  intro one _
  rw [Value.node]
  rfl

/-- A map is decoded from the forms of its values under their names. -/
theorem mapOf_of_forms {decoder : Decoder α} {form : α → Value}
    (each : ∀ value, decoder (form value).node = .ok value) (bindings : List (String × α)) :
    mapOf decoder (Value.object (bindings.map fun binding => (binding.1, form binding.2))).node =
      .ok (NameMap.ofList bindings) := by
  rw [Value.node, memberNodes_eq_map, List.map_map]
  unfold mapOf
  simp only [Bool.false_eq_true, if_false]
  refine bind_eq_ok_iff.mpr ⟨bindings, ?_, rfl⟩
  apply mapM_of_forall₂
  rw [List.forall₂_map_left_iff]
  apply List.forall₂_same.mpr
  rintro ⟨name, value⟩ -
  exact bind_eq_ok_iff.mpr ⟨name, rfl, bind_eq_ok_iff.mpr ⟨value, each value, rfl⟩⟩

/-! ## Records -/

namespace RecordShape

/-- The record and the names met follow from the right members filled in so far: this holds of the
blank record, and each right member is taken and keeps it. -/
structure Keeps (shape : RecordShape α) (right : String × Value → Prop)
    (follows : List String → α → Prop) : Prop where
  known : ∀ member, right member → member.1 ∈ shape.names
  blank : follows [] shape.blank
  fill : ∀ seen record member, follows seen record → right member →
    ∃ next, shape.fill record member.1 member.2.node = .ok next ∧ follows (member.1 :: seen) next

variable {shape : RecordShape α} {right : String × Value → Prop}
  {follows : List String → α → Prop} {members : List (String × Value)}

/-- The members of an object are filled in one after the other; the names met are then theirs and
those met before. -/
theorem Keeps.exists_fillMembers (keeps : shape.Keeps right follows)
    (each : ∀ member ∈ members, right member) (distinct : (members.map Prod.fst).Nodup)
    {seen : List String} {record : α} (holds : follows seen record)
    (fresh : ∀ name ∈ members.map Prod.fst, name ∉ seen) :
    ∃ met last, shape.fillMembers seen record (memberNodes members) = .ok (met, last) ∧
      follows met last ∧ ∀ name, name ∈ met ↔ name ∈ members.map Prod.fst ∨ name ∈ seen := by
  induction members generalizing seen record with
  | nil =>
    refine ⟨seen, record, ?_, holds, by simp⟩
    rw [memberNodes, fillMembers]
  | cons first rest ih =>
    obtain ⟨name, value⟩ := first
    rw [List.forall_mem_cons] at each
    rw [List.map_cons, List.nodup_cons] at distinct
    rw [List.map_cons, List.forall_mem_cons] at fresh
    obtain ⟨between, filled, continues⟩ := keeps.fill seen record _ holds each.1
    have freshRest : ∀ other ∈ rest.map Prod.fst, other ∉ name :: seen := by
      intro other member
      rw [List.mem_cons, not_or]
      refine ⟨?_, fresh.2 other member⟩
      rintro rfl
      exact distinct.1 member
    obtain ⟨met, last, rested, followed, names⟩ := ih each.2 distinct.2 continues freshRest
    refine ⟨met, last, ?_, followed, ?_⟩
    · rw [memberNodes, fillMembers]
      refine bind_eq_ok_iff.mpr ⟨name, rfl, ?_⟩
      rw [if_pos (keeps.known _ each.1), if_neg fresh.1]
      exact bind_eq_ok_iff.mpr ⟨between, filled, rested⟩
    · intro other
      rw [names, List.map_cons, List.mem_cons, List.mem_cons]
      tauto

/-- An object of right members, with none twice and all required ones among them, is decoded to a
record that follows from all of them. -/
theorem Keeps.exists_decode (keeps : shape.Keeps right follows)
    (each : ∀ member ∈ members, right member) (distinct : (members.map Prod.fst).Nodup)
    (required : ∀ name ∈ shape.required, name ∈ members.map Prod.fst) :
    ∃ met record, shape.decode (Value.object members).node = .ok record ∧ follows met record ∧
      ∀ name, name ∈ met ↔ name ∈ members.map Prod.fst := by
  obtain ⟨met, record, filled, followed, names⟩ :=
    keeps.exists_fillMembers each distinct keeps.blank (by simp)
  simp only [List.not_mem_nil, or_false] at names
  refine ⟨met, record, ?_, followed, names⟩
  have complete : shape.complete met record = .ok record := by
    unfold RecordShape.complete
    rw [if_pos]
    simpa only [List.all_eq_true, decide_eq_true_eq, names] using required
  rw [Value.node]
  unfold RecordShape.decode
  simp only [Bool.false_eq_true, if_false]
  exact bind_eq_ok_iff.mpr ⟨_, filled, complete⟩

end RecordShape

end BuildRules.Json
