import BuildRules.Proofs.Bindings
import BuildRules.Proofs.WellFormedClasses
import BuildRules.Target

/-!
# Declared attributes and their labels

Looking an attribute of a class up by its name finds the declaration itself. So the label
map of a rule can be read off the declarations of its class: it binds the name of every
dependency attribute that has labels to these labels, and nothing else.
-/

set_option autoImplicit false

namespace BuildRules

namespace RuleClass

/-- A class has an attribute of a name and a type exactly if one of its declarations says so. -/
theorem hasAttribute_iff {ruleClass : RuleClass} {name : String} {type : AttributeType} :
    ruleClass.hasAttribute name type = true ↔
      ∃ attr ∈ ruleClass.attributes, attr.name = name ∧ attr.type = type := by
  unfold hasAttribute
  rw [Option.any_eq_true]
  constructor
  · rintro ⟨attr, found, sameType⟩
    obtain ⟨member, named⟩ := attribute?_eq_some_iff.mp found
    exact ⟨attr, member, named, of_decide_eq_true sameType⟩
  · rintro ⟨attr, member, named, sameType⟩
    exact ⟨attr, attribute?_eq_some_iff.mpr ⟨member, named⟩, decide_eq_true sameType⟩

end RuleClass

namespace Rule

/-- Only an attribute that holds dependencies has labels that the rule depends on. -/
theorem isDependency_of_dependencyLabels_ne_nil {rule : Rule} {attr : Attribute}
    (some : rule.dependencyLabels attr ≠ []) : attr.type.isDependency = true := by
  unfold dependencyLabels at some
  split at some
  · assumption
  · exact absurd rfl some

/-- The label map binds the name of an attribute to its labels, if it has any. -/
theorem find?_labelMap_eq_some_iff {rule : Rule} {name : String} {labels : List Label} :
    rule.labelMap.find? name = some labels ↔
      labels ≠ [] ∧ ∃ attr ∈ rule.ruleClass.attributes,
        attr.name = name ∧ rule.dependencyLabels attr = labels :=
  NameMap.find?_ofList_nonemptyBindings_eq_some_iff rule.ruleClass.nodup_names

/-- The labels that the label map has for a declared attribute are its dependency labels. -/
theorem getD_find?_labelMap (rule : Rule) {attr : Attribute}
    (declared : attr ∈ rule.ruleClass.attributes) :
    (rule.labelMap.find? attr.name).getD [] = rule.dependencyLabels attr :=
  NameMap.getD_find?_ofList_nonemptyBindings rule.ruleClass.nodup_names declared

/-- A name that the label map binds is the name of a declared dependency attribute. -/
theorem exists_attribute_of_find?_labelMap {rule : Rule} {name : String} {labels : List Label}
    (bound : rule.labelMap.find? name = some labels) :
    ∃ attr, rule.ruleClass.attribute? name = some attr ∧ attr.type.isDependency = true ∧
      rule.dependencyLabels attr = labels := by
  obtain ⟨nonempty, attr, member, sameName, sameLabels⟩ := find?_labelMap_eq_some_iff.mp bound
  refine ⟨attr, RuleClass.attribute?_eq_some_iff.mpr ⟨member, sameName⟩, ?_, sameLabels⟩
  exact isDependency_of_dependencyLabels_ne_nil (sameLabels ▸ nonempty)

end Rule

end BuildRules
