import BuildRules.Proofs.Declarations
import BuildRules.Proofs.DependencyRuns

/-!
# The values of a rule have their types

A value is checked twice: as a default when its class is declared, and against its class
when it is set for a rule. The two checks together are an invariant. Whatever is set for a
rule, successfully or not, every value it has is one of a declared attribute and of the type
of that attribute: the value that was set last, or the default if none was. The label map
relies on this, and so a rule whose own label map is resolved never meets an attribute that
it does not declare.
-/

set_option autoImplicit false

namespace BuildRules

/-! ## Calls that set a value -/

/-- The class takes the name and the value of a call: it declares the attribute, with that type. -/
def RuleClass.Takes (ruleClass : RuleClass) (call : String × AttributeValue) : Prop :=
  ∃ attr ∈ ruleClass.attributes, attr.name = call.1 ∧ call.2.type = attr.type

/-- The attribute of a call is not declared, or its value is of another type. -/
def RuleClass.Refuses (ruleClass : RuleClass) (call : String × AttributeValue) : Prop :=
  (∀ attr ∈ ruleClass.attributes, attr.name ≠ call.1) ∨
    ∃ attr ∈ ruleClass.attributes, attr.name = call.1 ∧ call.2.type ≠ attr.type

/-- Among the calls is one that sets the name to the value, and no later one sets the name. -/
def RuleClass.SetsLast (ruleClass : RuleClass) (calls : List (String × AttributeValue))
    (name : String) (value : AttributeValue) : Prop :=
  ∃ before after, calls = before ++ (name, value) :: after ∧ ruleClass.Takes (name, value) ∧
    ∀ call ∈ after, call.1 = name → ¬ ruleClass.Takes call

namespace Rule

/-- The rule that a call leaves behind, whatever comes of the call. -/
def afterCall (rule : Rule) (call : String × AttributeValue) : Rule :=
  ((setValue call.1 call.2).start rule).2

/-- A new rule of a class, for which the given calls were made in order. -/
def afterCalls (label : Label) (ruleClass : RuleClass) (location : Location)
    (calls : List (String × AttributeValue)) : Rule :=
  calls.foldl afterCall { label, ruleClass, location }

/-- The rule with one value set. -/
def withValue (rule : Rule) (call : String × AttributeValue) : Rule :=
  { rule with values := rule.values.insert call.1 call.2 }

/-- A call that the class takes binds the name to the value. -/
theorem start_setValue_of_takes {rule : Rule} {call : String × AttributeValue}
    (takes : rule.ruleClass.Takes call) :
    (setValue call.1 call.2).start rule = (.ok (), rule.withValue call) := by
  obtain ⟨attr, member, named, sameType⟩ := takes
  have found : rule.ruleClass.attribute? call.1 = some attr :=
    RuleClass.attribute?_eq_some_iff.mpr ⟨member, named⟩
  unfold setValue
  rw [Change.start_get_bind, found]
  dsimp only
  rw [if_pos (by simpa [AttributeValue.hasType] using sameType)]
  rfl

/-- A call that the class refuses fails with an error at its attribute, and it leaves the rule
behind as it was. -/
theorem start_setValue_of_refuses {rule : Rule} {call : String × AttributeValue}
    (refuses : rule.ruleClass.Refuses call) :
    ∃ problem,
      (setValue call.1 call.2).start rule = (.error (rule.refused call.1 problem), rule) := by
  unfold setValue
  rw [Change.start_get_bind]
  rcases refuses with undeclared | ⟨attr, member, named, other⟩
  · rw [RuleClass.attribute?_eq_none_iff.mpr undeclared]
    exact ⟨_, rfl⟩
  · rw [RuleClass.attribute?_eq_some_iff.mpr ⟨member, named⟩]
    dsimp only
    rw [if_neg (by simpa [AttributeValue.hasType] using other)]
    exact ⟨_, rfl⟩

end Rule

namespace RuleClass

variable {ruleClass : RuleClass}

/-- A class refuses the calls that it does not take: a name has one type only. -/
theorem refuses_iff {call : String × AttributeValue} :
    ruleClass.Refuses call ↔ ¬ ruleClass.Takes call := by
  constructor
  · rintro (undeclared | ⟨attr, member, named, otherType⟩) ⟨found, inside, sameName, sameType⟩
    · exact undeclared found inside sameName
    · have equal : found = attr :=
        List.inj_on_of_nodup_map ruleClass.nodup_names inside member (sameName.trans named.symm)
      exact otherType (equal ▸ sameType)
  · intro untaken
    by_cases declared : ∃ attr ∈ ruleClass.attributes, attr.name = call.1
    · obtain ⟨attr, member, named⟩ := declared
      refine .inr ⟨attr, member, named, ?_⟩
      intro sameType
      exact untaken ⟨attr, member, named, sameType⟩
    · left
      intro attr member named
      exact declared ⟨attr, member, named⟩

/-- A call that sets a value is one that the class takes. -/
theorem SetsLast.takes {calls : List (String × AttributeValue)} {name : String}
    {value : AttributeValue} (last : ruleClass.SetsLast calls name value) :
    ruleClass.Takes (name, value) := by
  obtain ⟨-, -, -, takes, -⟩ := last
  exact takes

/-- A further call sets its own name last, if it is taken, and leaves the other names. -/
theorem setsLast_append_iff {calls : List (String × AttributeValue)}
    {call : String × AttributeValue} {name : String} {value : AttributeValue} :
    ruleClass.SetsLast (calls ++ [call]) name value ↔
      (ruleClass.Takes call ∧ call = (name, value)) ∨
        ¬ (ruleClass.Takes call ∧ call.1 = name) ∧ ruleClass.SetsLast calls name value := by
  constructor
  · rintro ⟨before, after, split, takes, later⟩
    rcases List.eq_nil_or_concat' after with rfl | ⟨earlier, last, rfl⟩
    · obtain ⟨-, same⟩ := List.append_inj' split rfl
      cases same
      exact .inl ⟨takes, rfl⟩
    · rw [← List.cons_append, ← List.append_assoc] at split
      obtain ⟨rfl, same⟩ := List.append_inj' split rfl
      cases same
      refine .inr ⟨?_, before, earlier, rfl, takes, ?_⟩
      · rintro ⟨again, named⟩
        exact later call (by simp) named again
      · intro other member
        exact later other (List.mem_append_left _ member)
  · rintro (⟨takes, rfl⟩ | ⟨unset, before, after, rfl, takes, later⟩)
    · exact ⟨calls, [], rfl, takes, by simp⟩
    · refine ⟨before, after ++ [call], by simp, takes, ?_⟩
      intro other member named again
      rcases List.mem_append.mp member with inside | last
      · exact later other inside named again
      · cases List.mem_singleton.mp last
        exact unset ⟨again, named⟩

end RuleClass

/-! ## What the calls leave behind -/

namespace Rule

/-- A call fails exactly if the class refuses it. -/
theorem setValue_fails_iff {rule : Rule} {call : String × AttributeValue} :
    (∃ error, ((setValue call.1 call.2).start rule).1 = .error error) ↔
      rule.ruleClass.Refuses call := by
  constructor
  · rintro ⟨error, failed⟩
    rw [RuleClass.refuses_iff]
    intro takes
    rw [start_setValue_of_takes takes] at failed
    cases failed
  · intro refuses
    obtain ⟨problem, failed⟩ := start_setValue_of_refuses refuses
    rw [failed]
    exact ⟨_, rfl⟩

/-- A call succeeds only if the class takes it. -/
theorem takes_of_setValue {rule : Rule} {call : String × AttributeValue}
    (set : ((setValue call.1 call.2).start rule).1 = .ok ()) : rule.ruleClass.Takes call := by
  by_contra untaken
  obtain ⟨problem, failed⟩ := start_setValue_of_refuses (RuleClass.refuses_iff.mpr untaken)
  rw [failed] at set
  cases set

/-- A call that the class takes leaves the rule behind with one more value set. -/
theorem afterCall_of_takes {rule : Rule} {call : String × AttributeValue}
    (takes : rule.ruleClass.Takes call) : rule.afterCall call = rule.withValue call := by
  unfold afterCall
  rw [start_setValue_of_takes takes]

/-- A call that the class refuses leaves the rule behind as it was. -/
theorem afterCall_of_refuses {rule : Rule} {call : String × AttributeValue}
    (refuses : rule.ruleClass.Refuses call) : rule.afterCall call = rule := by
  obtain ⟨problem, failed⟩ := start_setValue_of_refuses refuses
  unfold afterCall
  rw [failed]

/-- The values that are set for a rule are the last ones that the calls set. -/
structure HoldsLast (rule : Rule) (ruleClass : RuleClass)
    (calls : List (String × AttributeValue)) : Prop where
  sameClass : rule.ruleClass = ruleClass
  bound : ∀ name value,
    rule.values.find? name = some value ↔ ruleClass.SetsLast calls name value
  unbound : ∀ name, rule.values.find? name = none ↔
    ∀ call ∈ calls, call.1 = name → ¬ ruleClass.Takes call

/-- One more call keeps the values the last ones that are set. -/
theorem HoldsLast.afterCall {rule : Rule} {ruleClass : RuleClass}
    {calls : List (String × AttributeValue)} (holds : rule.HoldsLast ruleClass calls)
    (call : String × AttributeValue) :
    (rule.afterCall call).HoldsLast ruleClass (calls ++ [call]) := by
  obtain ⟨rfl, bound, unbound⟩ := holds
  by_cases takes : rule.ruleClass.Takes call
  · rw [afterCall_of_takes takes]
    refine ⟨rfl, ?_, ?_⟩
    · intro name value
      rw [RuleClass.setsLast_append_iff, ← bound name value]
      unfold withValue
      rw [NameMap.find?_insert]
      by_cases named : name = call.1
      · subst named
        simp [takes, Prod.ext_iff]
      · simp [named, Ne.symm named, Prod.ext_iff]
    · intro name
      unfold withValue
      rw [NameMap.find?_insert, List.forall_mem_append, ← unbound name]
      by_cases named : name = call.1
      · simp [named, takes]
      · simp [named, Ne.symm named]
  · rw [afterCall_of_refuses (RuleClass.refuses_iff.mpr takes)]
    refine ⟨rfl, ?_, ?_⟩
    · intro name value
      rw [RuleClass.setsLast_append_iff, ← bound name value]
      simp [takes]
    · intro name
      rw [List.forall_mem_append, ← unbound name]
      simp [takes]

/-- After any calls, failed ones among them, every attribute has the value that was set last. -/
theorem holdsLast_afterCalls (label : Label) (ruleClass : RuleClass) (location : Location)
    (calls : List (String × AttributeValue)) :
    (afterCalls label ruleClass location calls).HoldsLast ruleClass calls := by
  induction calls using List.reverseRecOn with
  | nil =>
    refine ⟨rfl, ?_, ?_⟩
    · intro name value
      constructor
      · intro found
        cases found
      · rintro ⟨before, after, split, -⟩
        simp at split
    · intro name
      constructor
      · intro _ call member
        cases member
      · intro _
        rfl
  | append_singleton earlier last ih =>
    have continued : afterCalls label ruleClass location (earlier ++ [last]) =
        (afterCalls label ruleClass location earlier).afterCall last := by
      simp [afterCalls]
    rw [continued]
    exact ih.afterCall last

variable {rule : Rule} {ruleClass : RuleClass} {calls : List (String × AttributeValue)}

/-- The value of an attribute is of its type, and it was set last or is the default. -/
theorem HoldsLast.value?_eq_some_iff (holds : rule.HoldsLast ruleClass calls) {name : String}
    {value : AttributeValue} :
    rule.value? name = some value ↔
      ∃ attr ∈ ruleClass.attributes, attr.name = name ∧ value.type = attr.type ∧
        (ruleClass.SetsLast calls name value ∨
          (∀ call ∈ calls, call.1 = name → ¬ ruleClass.Takes call) ∧
            attr.defaultValue = some value) := by
  obtain ⟨rfl, bound, unbound⟩ := holds
  unfold value?
  constructor
  · intro has
    cases set : rule.values.find? name with
    | some other =>
      rw [set] at has
      cases has
      have last := (bound name value).mp set
      obtain ⟨attr, member, named, sameType⟩ := last.takes
      exact ⟨attr, member, named, sameType, .inl last⟩
    | none =>
      rw [set, Option.none_or] at has
      obtain ⟨attr, declared, default⟩ := Option.bind_eq_some_iff.mp has
      obtain ⟨member, named⟩ := RuleClass.attribute?_eq_some_iff.mp declared
      have sameType := (rule.ruleClass.wellFormed.attributes attr member).default value default
      exact ⟨attr, member, named, sameType, .inr ⟨(unbound name).mp set, default⟩⟩
  · rintro ⟨attr, member, named, -, last | ⟨unset, default⟩⟩
    · rw [(bound name value).mpr last]
      rfl
    · rw [(unbound name).mpr unset, RuleClass.attribute?_eq_some_iff.mpr ⟨member, named⟩]
      exact default

/-- A value that a declared attribute has is of the type that is declared for it. -/
theorem HoldsLast.type_eq (holds : rule.HoldsLast ruleClass calls) {attr : Attribute}
    (declared : attr ∈ ruleClass.attributes) {value : AttributeValue}
    (has : rule.value? attr.name = some value) : value.type = attr.type := by
  obtain ⟨other, member, named, sameType, -⟩ := holds.value?_eq_some_iff.mp has
  have equal : other = attr :=
    List.inj_on_of_nodup_map ruleClass.nodup_names member declared named
  rw [← equal, sameType]

/-- An attribute has dependency labels exactly if it is of a label that is there or of a list of
labels that is not empty. -/
theorem HoldsLast.dependencyLabels_ne_nil_iff (holds : rule.HoldsLast ruleClass calls)
    {attr : Attribute} (declared : attr ∈ ruleClass.attributes) :
    rule.dependencyLabels attr ≠ [] ↔
      (attr.type = .label ∧ ∃ target, rule.value? attr.name = some (.label (some target))) ∨
      (attr.type = .labelList ∧ ∃ targets, targets ≠ [] ∧
        rule.value? attr.name = some (.labelList targets)) := by
  constructor
  · intro labelled
    have dependency := isDependency_of_dependencyLabels_ne_nil labelled
    unfold dependencyLabels at labelled
    rw [if_pos dependency] at labelled
    cases has : rule.value? attr.name with
    | none =>
      rw [has] at labelled
      exact absurd rfl labelled
    | some value =>
      rw [has, Option.map_some, Option.getD_some] at labelled
      have sameType := holds.type_eq declared has
      cases value with
      | label target =>
        cases target with
        | none => exact absurd rfl labelled
        | some target => exact .inl ⟨sameType.symm, target, rfl⟩
      | labelList targets => exact .inr ⟨sameType.symm, targets, labelled, rfl⟩
      | _ => exact absurd rfl labelled
  · rintro (⟨sameType, target, has⟩ | ⟨sameType, targets, nonempty, has⟩)
    · unfold dependencyLabels
      rw [has, sameType]
      simp [AttributeType.isDependency, AttributeValue.dependencyLabels]
    · unfold dependencyLabels
      rw [has, sameType]
      simpa [AttributeType.isDependency, AttributeValue.dependencyLabels] using nonempty

/-- The label map has a name exactly if it is that of a label that is set or of a list of labels
that is not empty. -/
theorem HoldsLast.mem_names_labelMap_iff (holds : rule.HoldsLast ruleClass calls)
    {name : String} :
    name ∈ rule.labelMap.names ↔
      ∃ attr ∈ ruleClass.attributes, attr.name = name ∧
        ((attr.type = .label ∧ ∃ target, rule.value? name = some (.label (some target))) ∨
          (attr.type = .labelList ∧ ∃ targets, targets ≠ [] ∧
            rule.value? name = some (.labelList targets))) := by
  have sameClass := holds.sameClass
  have listed : name ∈ rule.labelMap.names ↔ ∃ labels, rule.labelMap.find? name = some labels := by
    simp [NameMap.names, NameMap.mem_entries_iff_find?]
  simp only [listed, find?_labelMap_eq_some_iff, sameClass]
  constructor
  · rintro ⟨labels, nonempty, attr, declared, rfl, rfl⟩
    exact ⟨attr, declared, rfl, (holds.dependencyLabels_ne_nil_iff declared).mp nonempty⟩
  · rintro ⟨attr, declared, rfl, has⟩
    exact ⟨_, (holds.dependencyLabels_ne_nil_iff declared).mpr has, attr, declared, rfl, rfl⟩

end Rule

/-! ## Resolving the label map -/

namespace Resolver

/-- No label ends its resolution for the reason that an attribute is not declared. -/
theorem resolve_ne_undeclared (resolver : Resolver) (attr : Attribute) (label : Label)
    (location : Location) (className attrName : String) :
    resolver.resolve attr label ≠ .error (.undeclared location className attrName) := by
  unfold resolve configurationOf
  dsimp only
  split
  · simp [throw, throwThe, MonadExceptOf.throw]
  · split
    · simp [bind, Except.bind]
    · simp only [bind, Except.bind]
      split <;> simp [pure, Except.pure, throw, throwThe, MonadExceptOf.throw]

/-- The label map of a rule names no attribute that its class does not declare. -/
theorem dependencyMap_ne_undeclared (resolver : Resolver) (policy : Policy)
    (record after : Record) (location : Location) (className attrName : String) :
    (resolver.dependencyMap policy resolver.rule.labelMap).start record ≠
      (.error (.undeclared location className attrName), after) := by
  intro ended
  rcases resolver.dependencyMap_yields_or_abortsWith policy resolver.rule.labelMap with
    ⟨kept, -, yields⟩ | ⟨entry, member, abort, fails, aborts⟩
  · rw [yields record] at ended
    cases ended
  · obtain ⟨reported, aborted⟩ := aborts record
    rw [aborted] at ended
    cases ended
    have bound := NameMap.mem_entries_iff_find?.mp member
    obtain ⟨attr, declared, -, -⟩ := Rule.exists_attribute_of_find?_labelMap bound
    rcases fails with ⟨undeclared, -⟩ | ⟨other, -, label, -, failed⟩
    · rw [declared] at undeclared
      cases undeclared
    · exact resolver.resolve_ne_undeclared other label location className attrName failed

end Resolver

/-- Whatever calls are made for a new rule of a class, its values have their types. A call fails
exactly if the class refuses it, and then it changes nothing; otherwise it sets one value. The value
of a name is that of a declared attribute, of its type, and it is the one that was set last, or the
default if none was set. So the label map lists the attributes with labels, and to resolve it never
ends at an undeclared attribute. -/
theorem Rule.afterCalls_wellTyped (label : Label) (ruleClass : RuleClass) (location : Location)
    (calls : List (String × AttributeValue)) :
    let rule := Rule.afterCalls label ruleClass location calls
    (∀ call, let (outcome, after) := (Rule.setValue call.1 call.2).start rule
      ((∃ error, outcome = .error error) ↔ ruleClass.Refuses call) ∧
      ((∃ error, outcome = .error error) → after = rule) ∧
      (outcome = .ok () → after = rule.withValue call)) ∧
    (∀ name value, rule.value? name = some value ↔
      ∃ attr ∈ ruleClass.attributes, attr.name = name ∧ value.type = attr.type ∧
        (ruleClass.SetsLast calls name value ∨
          (∀ call ∈ calls, call.1 = name → ¬ ruleClass.Takes call) ∧
            attr.defaultValue = some value)) ∧
    (∀ name, name ∈ rule.labelMap.names ↔
      ∃ attr ∈ ruleClass.attributes, attr.name = name ∧
        ((attr.type = .label ∧ ∃ target, rule.value? name = some (.label (some target))) ∨
          (attr.type = .labelList ∧ ∃ targets, targets ≠ [] ∧
            rule.value? name = some (.labelList targets)))) ∧
    ∀ (resolver : Resolver) (policy : Policy) (record after : Record) (place : Location)
      (className attrName : String),
      ({ resolver with rule }.dependencyMap policy rule.labelMap).start record ≠
        (.error (.undeclared place className attrName), after) := by
  intro rule
  have holds : rule.HoldsLast ruleClass calls :=
    holdsLast_afterCalls label ruleClass location calls
  have sameClass : rule.ruleClass = ruleClass := holds.sameClass
  refine ⟨?_, fun name value => holds.value?_eq_some_iff, fun name => holds.mem_names_labelMap_iff,
    ?_⟩
  · intro call
    rw [← sameClass]
    refine ⟨setValue_fails_iff, ?_, ?_⟩
    · intro failed
      exact afterCall_of_refuses (setValue_fails_iff.mp failed)
    · intro set
      exact afterCall_of_takes (takes_of_setValue set)
  · intro resolver policy record after place className attrName
    exact Resolver.dependencyMap_ne_undeclared { resolver with rule } policy record after place
      className attrName

end BuildRules
