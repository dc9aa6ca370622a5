import BuildRules.RuleClass
import Mathlib.Data.List.Induction
import Mathlib.Data.List.Nodup

/-!
# Which rule classes can be declared

A rule class is built from a declaration if nothing is wrong with it. The checks go
through the declaration in order and stop at the first thing they object to; `WellFormed`
says without them what an attribute and a class have to be. A class is built from the
well-formed declarations and from no others. Its attributes are those of the declaration,
in order, and a name finds the one attribute that has it. The class looks a name up by the
index that the checks fill on their way, so it is shown of each step that the index has the
positions of the attributes up to there.

What is checked of an attribute comes from the settings of its declaration. A setting that
says what the attribute admits also makes it strict, whatever is set before and after it,
so that the checks of strict attributes apply.
-/

set_option autoImplicit false

namespace BuildRules

/-! ## Settings of an attribute -/

/-- What can be set of an attribute besides its name and its type. -/
inductive AttributeSetting where
  | transition (value : Transition)
  | executable
  | strict
  | singleArtifact
  | nonEmpty
  | silentClassFilter
  | skipFileTypeCheck
  | allowedClasses (classes : RuleClassSet)
  | warnedClasses (classes : RuleClassSet)
  | allowedFiles (files : FileTypeSet)
  | validity (condition : ValidityPredicate)
  | defaultValue (value : AttributeValue)

namespace AttributeSetting

def apply (attr : Attribute) : AttributeSetting → Attribute
  | transition value => { attr with transition := value }
  | executable => { attr with executable := true }
  | strict => { attr with strict := true }
  | singleArtifact => { attr with singleArtifact := true }
  | nonEmpty => { attr with nonEmpty := true }
  | silentClassFilter => { attr with silentClassFilter := true }
  | skipFileTypeCheck => { attr with skipFileTypeCheck := true }
  | allowedClasses classes => attr.withAllowedClasses classes
  | warnedClasses classes => attr.withWarnedClasses classes
  | allowedFiles files => attr.withAllowedFiles files
  | validity condition => { attr with validity := some condition }
  | defaultValue value => { attr with defaultValue := some value }

/-- The setting makes an attribute strict: it says so, or it says what the attribute admits. -/
def MakesStrict : AttributeSetting → Prop
  | strict | allowedClasses _ | warnedClasses _ | allowedFiles _ => True
  | _ => False

end AttributeSetting

/-- The attribute of a name and a type with the given settings, in order. -/
def Attribute.declared (name : String) (type : AttributeType)
    (settings : List AttributeSetting) : Attribute :=
  settings.foldl AttributeSetting.apply { name, type }

/-- The attribute has the name, the type and the flags that the settings raise. -/
structure Attribute.Shows (attr : Attribute) (name : String) (type : AttributeType)
    (settings : List AttributeSetting) : Prop where
  name : attr.name = name
  type : attr.type = type
  executable : attr.executable = true ↔ .executable ∈ settings
  singleArtifact : attr.singleArtifact = true ↔ .singleArtifact ∈ settings
  nonEmpty : attr.nonEmpty = true ↔ .nonEmpty ∈ settings
  silentClassFilter : attr.silentClassFilter = true ↔ .silentClassFilter ∈ settings
  strict : attr.strict = true ↔ ∃ setting ∈ settings, setting.MakesStrict

namespace Attribute

/-- A setting raises its own flag, or the one of strict attributes, and leaves the others. -/
theorem Shows.apply {attr : Attribute} {name : String} {type : AttributeType}
    {settings : List AttributeSetting} (shows : attr.Shows name type settings)
    (setting : AttributeSetting) :
    (setting.apply attr).Shows name type (settings ++ [setting]) := by
  obtain ⟨name, type, executable, singleArtifact, nonEmpty, silentClassFilter, strict⟩ := shows
  constructor <;> cases setting <;>
    simp [AttributeSetting.apply, AttributeSetting.MakesStrict, withAllowedClasses,
      withWarnedClasses, withAllowedFiles, or_and_right, exists_or, *]

/-- A declared attribute shows what its settings ask for. -/
theorem shows_declared (name : String) (type : AttributeType)
    (settings : List AttributeSetting) :
    (declared name type settings).Shows name type settings := by
  induction settings using List.reverseRecOn with
  | nil => constructor <;> simp [declared]
  | append_singleton earlier last ih =>
    have applied : declared name type (earlier ++ [last]) =
        last.apply (declared name type earlier) := by
      simp [declared]
    rw [applied]
    exact ih.apply last

end Attribute

/-! ## Well-formed declarations -/

/-- What an attribute has to be for a class to declare it. -/
structure Attribute.WellFormed (attr : Attribute) : Prop where
  named : attr.name ≠ "" ∧ attr.name ≠ "$"
  dependenciesOnly : attr.executable = true ∨ attr.singleArtifact = true ∨ attr.nonEmpty = true ∨
      attr.silentClassFilter = true ∨ attr.strict = true →
    attr.type = .label ∨ attr.type = .labelList
  transition : attr.transition ≠ .none →
    attr.type = .label ∨ attr.type = .labelList ∨ attr.type = .filesetEntryList
  filter : attr.silentClassFilter = true → attr.allowedClasses ≠ .any
  default : ∀ value, attr.defaultValue = some value → value.type = attr.type

/-- What a declaration has to be for a class to be built from it. -/
structure RuleClassDeclaration.WellFormed (declaration : RuleClassDeclaration) : Prop where
  named : declaration.name ≠ ""
  attributes : ∀ attr ∈ declaration.attributes, attr.WellFormed
  distinct : (declaration.attributes.map Attribute.name).Nodup
  exclusive : ∀ pair ∈ declaration.exclusive, pair.1 ≠ pair.2 ∧
    (∃ attr ∈ declaration.attributes, attr.name = pair.1) ∧
      ∃ attr ∈ declaration.attributes, attr.name = pair.2

/-! ## What the checks accept -/

/-- The types of dependencies are those of labels and of lists of labels. -/
theorem AttributeType.isDependency_iff (type : AttributeType) :
    type.isDependency = true ↔ type = .label ∨ type = .labelList := by
  simp [isDependency]

/-- The types with a transition are those of dependencies and of filesets. -/
theorem AttributeType.canTransition_iff (type : AttributeType) :
    type.canTransition = true ↔
      type = .label ∨ type = .labelList ∨ type = .filesetEntryList := by
  simp [canTransition, isDependency_iff, or_assoc]

namespace Attribute

variable {attr : Attribute}

/-- An attribute has no property of dependencies exactly if none of the five is set. -/
theorem dependencyProperty?_eq_none_iff :
    attr.dependencyProperty? = none ↔
      ¬ (attr.executable = true ∨ attr.singleArtifact = true ∨ attr.nonEmpty = true ∨
        attr.silentClassFilter = true ∨ attr.strict = true) := by
  unfold dependencyProperty?
  grind

/-- The default of an attribute fits exactly if it has the type of the attribute. -/
theorem defaultFits_iff :
    attr.defaultFits = true ↔ ∀ value, attr.defaultValue = some value → value.type = attr.type := by
  simp [defaultFits, AttributeValue.hasType, Option.all_eq_true]

/-- Nothing is wrong with the declaration of an attribute exactly if it is well-formed. -/
theorem problem?_eq_none_iff : attr.problem? = none ↔ attr.WellFormed := by
  have dependencies : (if attr.type.isDependency then none else attr.dependencyProperty?) = none ↔
      (attr.executable = true ∨ attr.singleArtifact = true ∨ attr.nonEmpty = true ∨
        attr.silentClassFilter = true ∨ attr.strict = true →
          attr.type = .label ∨ attr.type = .labelList) := by
    rw [ite_eq_left_iff, dependencyProperty?_eq_none_iff, ← AttributeType.isDependency_iff,
      not_imp_not]
  unfold problem?
  constructor
  · intro nothing
    split at nothing
    · cases nothing
    rename_i named
    split at nothing
    · cases nothing
    rename_i onlyDependencies
    split at nothing
    · cases nothing
    rename_i stays
    split at nothing
    · cases nothing
    rename_i filters
    split at nothing
    · cases nothing
    rename_i fits
    constructor
    · simpa using named
    · exact dependencies.mp onlyDependencies
    · rw [← AttributeType.canTransition_iff]
      simpa using stays
    · simpa [RuleClassSet.isAny] using filters
    · rw [← defaultFits_iff]
      simpa using fits
  · rintro ⟨named, onlyDependencies, transition, filter, default⟩
    rw [← AttributeType.canTransition_iff] at transition
    rw [← defaultFits_iff] at default
    rw [if_neg (by simpa using named), dependencies.mpr onlyDependencies]
    dsimp only
    rw [if_neg (by simpa using transition), if_neg (by simpa [RuleClassSet.isAny] using filter),
      if_neg (by simpa using default)]

end Attribute

namespace AttributeIndex

variable {index : AttributeIndex} {attributes earlier : List Attribute}

/-- The index of a list knows the names of its attributes. -/
theorem IsOf.contains_iff (isOf : index.IsOf attributes) {name : String} :
    index.contains name = true ↔ ∃ attr ∈ attributes, attr.name = name := by
  unfold NameMap.contains
  rw [Option.isSome_iff_exists]
  constructor
  · rintro ⟨position, found⟩
    obtain ⟨attr, there, named⟩ := Option.map_eq_some_iff.mp ((isOf name position).mp found)
    exact ⟨attr, List.mem_of_getElem? there, named⟩
  · rintro ⟨attr, member, named⟩
    obtain ⟨position, there⟩ := List.getElem?_of_mem member
    exact ⟨position, (isOf name position).mpr (by rw [there, Option.map_some, named])⟩

/-- The checks pass a list of attributes exactly if each of them is well-formed and their names are
distinct from each other and from the names of the attributes before them. -/
theorem IsOf.exists_extend_iff (isOf : index.IsOf earlier) {rest : List Attribute} :
    (∃ final, index.extend earlier.length rest = .ok final) ↔
      (∀ attr ∈ rest, attr.WellFormed) ∧ (rest.map Attribute.name).Nodup ∧
        ∀ attr ∈ rest, ∀ other ∈ earlier, other.name ≠ attr.name := by
  induction rest generalizing index earlier with
  | nil => simp [AttributeIndex.extend]
  | cons first rest ih =>
    unfold AttributeIndex.extend
    cases wrong : first.problem? with
    | some problem =>
      have unsound : ¬ first.WellFormed := by
        intro sound
        rw [Attribute.problem?_eq_none_iff.mpr sound] at wrong
        cases wrong
      simp [unsound]
    | none =>
      have sound : first.WellFormed := Attribute.problem?_eq_none_iff.mp wrong
      by_cases again : index.contains first.name = true
      · obtain ⟨other, member, named⟩ := isOf.contains_iff.mp again
        rw [if_pos again]
        constructor
        · rintro ⟨final, ended⟩
          cases ended
        · rintro ⟨-, -, apart⟩
          exact absurd named (apart first List.mem_cons_self other member)
      · have fresh : index.find? first.name = none := by simpa [NameMap.contains] using again
        have unmet : ∀ other ∈ earlier, other.name ≠ first.name :=
          fun other member named => again (isOf.contains_iff.mpr ⟨other, member, named⟩)
        have later := ih (isOf.insert fresh)
        rw [List.length_append, List.length_singleton] at later
        -- The attributes behind are apart from the first one and from the earlier ones.
        have apart : (∀ attr ∈ rest, ∀ other ∈ earlier ++ [first], other.name ≠ attr.name) ↔
            first.name ∉ rest.map Attribute.name ∧
              ∀ attr ∈ rest, ∀ other ∈ earlier, other.name ≠ attr.name := by
          simp only [List.forall_mem_append, List.forall_mem_singleton, forall_and, List.mem_map,
            not_exists, not_and]
          rw [and_comm]
          refine and_congr_left' ?_
          exact forall₂_congr fun attr _ => ne_comm
        rw [if_neg again]
        dsimp only
        rw [later, apart, List.forall_mem_cons, List.forall_mem_cons, List.map_cons,
          List.nodup_cons]
        constructor
        · rintro ⟨sounds, distinct, absent, others⟩
          exact ⟨⟨sound, sounds⟩, ⟨absent, distinct⟩, unmet, others⟩
        · rintro ⟨⟨-, sounds⟩, ⟨absent, distinct⟩, -, others⟩
          exact ⟨sounds, distinct, absent, others⟩

end AttributeIndex

/-- A pair of attributes can exclude each other exactly if it names two that the index has. -/
theorem exclusionProblem?_eq_none_iff {index : AttributeIndex} {pair : String × String} :
    exclusionProblem? index pair = none ↔
      pair.1 ≠ pair.2 ∧ index.contains pair.1 = true ∧ index.contains pair.2 = true := by
  unfold exclusionProblem?
  grind

namespace RuleClassDeclaration

variable {declaration : RuleClassDeclaration}

/-- The checks pass the well-formed declarations and no others. -/
theorem exists_check_iff :
    (∃ index, declaration.check = .ok index) ↔ declaration.WellFormed := by
  have passed : (∃ index, AttributeIndex.extend ∅ 0 declaration.attributes = .ok index) ↔
      (∀ attr ∈ declaration.attributes, attr.WellFormed) ∧
        (declaration.attributes.map Attribute.name).Nodup := by
    simpa using AttributeIndex.isOf_empty.exists_extend_iff
  unfold check
  constructor
  · rintro ⟨index, checked⟩
    split at checked
    · cases checked
    rename_i named
    split at checked
    · cases checked
    rename_i built extended
    split at checked
    · cases checked
    rename_i exclusions
    have isOf := AttributeIndex.isOf_empty.extend extended
    obtain ⟨attributes, distinct⟩ := passed.mp ⟨built, extended⟩
    refine ⟨by simpa using named, attributes, distinct, fun pair member => ?_⟩
    have sound := List.findSome?_eq_none_iff.mp exclusions pair member
    rwa [exclusionProblem?_eq_none_iff, isOf.contains_iff, isOf.contains_iff] at sound
  · rintro ⟨named, attributes, distinct, exclusive⟩
    obtain ⟨index, extended⟩ := passed.mpr ⟨attributes, distinct⟩
    have isOf := AttributeIndex.isOf_empty.extend extended
    have exclusions : declaration.exclusive.findSome? (exclusionProblem? index) = none := by
      refine List.findSome?_eq_none_iff.mpr fun pair member => ?_
      rw [exclusionProblem?_eq_none_iff, isOf.contains_iff, isOf.contains_iff]
      exact exclusive pair member
    refine ⟨index, ?_⟩
    rw [if_neg (by simpa using named), extended]
    dsimp only
    rw [exclusions]

/-- A declaration that passes the checks is built as it is. -/
theorem build_eq_ok_iff {ruleClass : RuleClass} :
    declaration.build = .ok ruleClass ↔ ruleClass.toRuleClassDeclaration = declaration := by
  unfold build
  constructor
  · intro built
    split at built
    · cases built
      rfl
    · cases built
  · rintro rfl
    have checked := ruleClass.checked
    split
    · rename_i index again
      have same : index = ruleClass.index := Except.ok.inj (again.symm.trans checked)
      subst same
      rfl
    · rename_i problem wrong
      rw [checked] at wrong
      cases wrong

/-- A class is built from the well-formed declarations and from no others. -/
theorem exists_build_iff :
    (∃ ruleClass, declaration.build = .ok ruleClass) ↔ declaration.WellFormed := by
  simp only [build_eq_ok_iff, ← exists_check_iff]
  constructor
  · rintro ⟨ruleClass, rfl⟩
    exact ⟨ruleClass.index, ruleClass.checked⟩
  · rintro ⟨index, checked⟩
    exact ⟨{ toRuleClassDeclaration := declaration, index, checked }, rfl⟩

end RuleClassDeclaration

namespace RuleClass

variable {ruleClass : RuleClass} {name : String}

/-- A class is well-formed. -/
theorem wellFormed (ruleClass : RuleClass) : ruleClass.WellFormed :=
  RuleClassDeclaration.exists_check_iff.mp ⟨ruleClass.index, ruleClass.checked⟩

/-- The attributes of a class have distinct names. -/
theorem nodup_names (ruleClass : RuleClass) :
    (ruleClass.attributes.map Attribute.name).Nodup :=
  ruleClass.wellFormed.distinct

/-- To look a name up is to look at the position that the index has for it. -/
theorem attribute?_eq_bind :
    ruleClass.attribute? name = (ruleClass.index.find? name).bind (ruleClass.attributes[·]?) := by
  unfold attribute?
  split
  · rename_i position found
    have there := List.getElem?_eq_getElem (ruleClass.coherent.lt_length found)
    exact (Option.bind_eq_some_iff.mpr ⟨position, found, there⟩).symm
  · rename_i missed
    rw [missed, Option.bind_none]

/-- A name finds an attribute of the class exactly if it is the name of that attribute. -/
theorem attribute?_eq_some_iff {attr : Attribute} :
    ruleClass.attribute? name = some attr ↔ attr ∈ ruleClass.attributes ∧ attr.name = name := by
  rw [attribute?_eq_bind, Option.bind_eq_some_iff]
  constructor
  · rintro ⟨position, found, there⟩
    have named := (ruleClass.coherent name position).mp found
    rw [there] at named
    exact ⟨List.mem_of_getElem? there, Option.some.inj named⟩
  · rintro ⟨member, named⟩
    obtain ⟨position, there⟩ := List.getElem?_of_mem member
    refine ⟨position, (ruleClass.coherent name position).mpr ?_, there⟩
    rw [there, Option.map_some, named]

/-- A name finds nothing exactly if no attribute of the class has it. -/
theorem attribute?_eq_none_iff :
    ruleClass.attribute? name = none ↔ ∀ attr ∈ ruleClass.attributes, attr.name ≠ name := by
  rw [Option.eq_none_iff_forall_ne_some]
  simp only [ne_eq, attribute?_eq_some_iff, not_and]

end RuleClass

/-- The attribute has the name, and at the other places of the list stand attributes of other
names. -/
def Attribute.IsOnly (attr : Attribute) (name : String) (attributes : List Attribute) : Prop :=
  attr.name = name ∧ ∃ before after, attributes = before ++ attr :: after ∧
    ∀ other ∈ before ++ after, other.name ≠ name

/-- Among attributes with different names, the only one of a name is the one that has it. -/
theorem Attribute.isOnly_iff {attributes : List Attribute}
    (distinct : (attributes.map Attribute.name).Nodup) {attr : Attribute} {name : String} :
    attr.IsOnly name attributes ↔ attr ∈ attributes ∧ attr.name = name := by
  constructor
  · rintro ⟨named, before, after, rfl, -⟩
    exact ⟨List.mem_append_cons_self, named⟩
  · rintro ⟨member, rfl⟩
    obtain ⟨before, after, rfl⟩ := List.append_of_mem member
    refine ⟨rfl, before, after, rfl, ?_⟩
    intro other inside same
    -- With the attribute taken out and put in front the names are still distinct.
    have front : (attr.name :: (before ++ after).map Attribute.name).Nodup := by
      have moved : (before ++ attr :: after).Perm (attr :: (before ++ after)) := List.perm_middle
      exact (moved.map Attribute.name).nodup_iff.mp distinct
    have absent := (List.nodup_cons.mp front).1
    exact absent (same ▸ List.mem_map_of_mem inside)

/-- A rule class is built from a declaration exactly if that is well-formed. The class is then as it
was declared, and its index has the position of each attribute and no other positions. So a name
finds the only attribute that has it, or nothing, if no attribute has it. The flags that are checked
of an attribute are those that its settings raise. -/
theorem RuleClassDeclaration.build_accepts_wellFormed (declaration : RuleClassDeclaration) :
    ((∃ ruleClass, declaration.build = .ok ruleClass) ↔ declaration.WellFormed) ∧
    (∀ ruleClass, declaration.build = .ok ruleClass →
      ruleClass.toRuleClassDeclaration = declaration ∧
      ruleClass.index.IsOf declaration.attributes ∧
      ∀ name,
        (∀ attr, ruleClass.attribute? name = some attr ↔
          attr.IsOnly name declaration.attributes) ∧
        (ruleClass.attribute? name = none ↔
          ∀ attr ∈ declaration.attributes, attr.name ≠ name)) ∧
    ∀ name type settings, (Attribute.declared name type settings).Shows name type settings := by
  refine ⟨exists_build_iff, ?_, Attribute.shows_declared⟩
  intro ruleClass built
  have same := build_eq_ok_iff.mp built
  subst same
  refine ⟨rfl, ruleClass.coherent, fun name => ⟨fun attr => ?_, RuleClass.attribute?_eq_none_iff⟩⟩
  rw [Attribute.isOnly_iff ruleClass.nodup_names]
  exact RuleClass.attribute?_eq_some_iff

/-- To admit any file is to be strict all the same, and only dependencies are. -/
example :
    (RuleClassDeclaration.build
      { name := "genrule"
        attributes := [.declared "cmd" .string [.allowedFiles .any]] }).toOption.isNone := by
  decide

end BuildRules
