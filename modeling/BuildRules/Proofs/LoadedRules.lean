import BuildRules.Proofs.LoadedTargets

/-!
# Where the rules of a workspace come from

A rule of a loaded workspace has the label, the class and the visibility that a manifest
writes for it, and its class is one that the manifest declares. Such a class never asks
for more of its dependencies than its attributes say, since a manifest cannot write a
condition on them. A generated file comes with its rule, and a rule provides a fileset
exactly when the manifest says so about its label.
-/

set_option autoImplicit false

namespace BuildRules

namespace Manifest

/-- What is written about classes and files leaves the condition of an attribute as it is. -/
theorem validity_applyWritten (base : Attribute) (classes warned : Option RuleClassSet)
    (files : Option FileTypeSet) :
    (applyWritten Attribute.withAllowedFiles
      (applyWritten Attribute.withWarnedClasses
        (applyWritten Attribute.withAllowedClasses base classes) warned) files).validity =
      base.validity := by
  cases classes <;> cases warned <;> cases files <;> rfl

/-- A manifest writes no condition on the dependencies of an attribute. -/
theorem validity_of_declare {written : WrittenAttribute} {className : String} {attr : Attribute}
    (declared : written.declare className = .ok attr) : attr.validity = none := by
  unfold WrittenAttribute.declare at declared
  dsimp only at declared
  -- The file types are read or not; what comes after that is the same.
  split at declared
  all_goals
    obtain ⟨files, -, rest⟩ := bind_eq_ok_iff.mp declared
    split at rest
    · cases rest
      exact validity_applyWritten _ _ _ _
    · split at rest
      · cases rest
        exact validity_applyWritten _ _ _ _
      · exact absurd rest throw_ne_ok

/-- A class that is built from what is written has no attribute with a condition. -/
theorem validity_of_build {written : WrittenRuleClass} {ruleClass : RuleClass}
    (built : written.build = .ok ruleClass) {attr : Attribute}
    (member : attr ∈ ruleClass.attributes) : attr.validity = none := by
  unfold WrittenRuleClass.build at built
  obtain ⟨attributes, mapped, rest⟩ := bind_eq_ok_iff.mp built
  unfold RuleClassDeclaration.build at rest
  split at rest
  · cases rest
    obtain ⟨source, -, declared⟩ := exists_left_of_forall₂ (forall₂_of_mapM mapped) member
    exact validity_of_declare declared
  · cases rest

/-- The rule classes of a manifest are built from what it writes about them. -/
theorem exists_build_of_find? {written : List WrittenRuleClass} {before classes : RuleClasses}
    (built : buildClasses before written = .ok classes) {name : String} {ruleClass : RuleClass}
    (found : classes.find? name = some ruleClass) :
    before.find? name = some ruleClass ∨
      ∃ one ∈ written, one.name = name ∧ one.build = .ok ruleClass := by
  induction written generalizing before with
  | nil =>
    cases built
    exact .inl found
  | cons first rest ih =>
    unfold buildClasses at built
    obtain ⟨one, head, checked⟩ := bind_eq_ok_iff.mp built
    have tail : buildClasses (before.insert first.name one) rest = .ok classes := by
      dsimp only at checked
      split at checked
      · exact absurd checked throw_ne_ok
      · exact checked
    rcases ih tail with earlier | ⟨other, member, named, later⟩
    · rw [NameMap.find?_insert] at earlier
      split at earlier
      · rename_i same
        cases earlier
        exact .inr ⟨first, List.mem_cons_self, same.symm, head⟩
      · exact .inl earlier
    · exact .inr ⟨other, List.mem_cons_of_mem _ member, named, later⟩

end Manifest

/-- To set a value changes neither the label nor the class of a rule, also when it fails. -/
theorem Rule.start_setValue_snd (rule : Rule) (name : String) (value : AttributeValue) :
    ((setValue name value).start rule).2.label = rule.label ∧
      ((setValue name value).start rule).2.ruleClass = rule.ruleClass := by
  unfold setValue
  rw [Change.start_get_bind]
  split
  · exact ⟨rfl, rfl⟩
  · split
    · exact ⟨rfl, rfl⟩
    · exact ⟨rfl, rfl⟩

/-- To set values one after the other changes neither the label nor the class of a rule. -/
theorem Rule.setWritten_eq_ok {rule after : Rule} {entries : List (String × Json.Value)}
    (set : rule.setWritten entries = .ok after) :
    after.label = rule.label ∧ after.ruleClass = rule.ruleClass := by
  induction entries generalizing rule with
  | nil =>
    cases set
    exact ⟨rfl, rfl⟩
  | cons entry rest ih =>
    obtain ⟨name, written⟩ := entry
    unfold setWritten at set
    split at set
    · exact absurd set throw_ne_ok
    · split at set
      · exact absurd set throw_ne_ok
      · rename_i value _
        obtain ⟨-, -, others⟩ := bind_eq_ok_iff.mp set
        obtain ⟨sameLabel, sameClass⟩ := ih others
        obtain ⟨keptLabel, keptClass⟩ := rule.start_setValue_snd name value
        exact ⟨sameLabel.trans keptLabel, sameClass.trans keptClass⟩

namespace Manifest

/-- A rule is loaded under the written label, with the class of the written name. -/
theorem load_eq_ok {written : WrittenRule} {classes : RuleClasses} {rule : Rule}
    (loaded : written.load classes = .ok rule) :
    Label.parse written.label = .ok rule.label ∧
      classes.find? written.className = some rule.ruleClass := by
  unfold WrittenRule.load at loaded
  obtain ⟨label, parsed, rest⟩ := bind_eq_ok_iff.mp loaded
  split at rest
  · exact absurd rest throw_ne_ok
  · rename_i ruleClass known
    obtain ⟨filled, set, outputs⟩ := bind_eq_ok_iff.mp rest
    obtain ⟨labels, -, ended⟩ := bind_eq_ok_iff.mp outputs
    cases ended
    obtain ⟨sameLabel, sameClass⟩ := Rule.setWritten_eq_ok set
    dsimp only at sameLabel sameClass ⊢
    rw [sameLabel, sameClass]
    exact ⟨parsed, known⟩

namespace WrittenTarget

variable {classes : RuleClasses} {target : WrittenTarget} {list : List DeclaredTarget}

/-- Only a written rule declares a rule. -/
theorem exists_load_of_rule_mem (declared : target.declare classes = .ok list) {rule : Rule}
    {provides : Capabilities} (member : .rule rule provides ∈ list) :
    ∃ written, target = .rule written ∧ written.load classes = .ok rule ∧
      written.provides = provides := by
  cases target with
  | inputFile written =>
    obtain ⟨file, -, ended⟩ := bind_eq_ok_iff.mp declared
    cases ended
    simp at member
  | rule written =>
    obtain ⟨found, read, ended⟩ := bind_eq_ok_iff.mp declared
    cases ended
    rcases List.mem_append.mp member with output | itself
    · obtain ⟨file, -, other⟩ := List.mem_map.mp output
      cases other
    · cases List.mem_singleton.mp itself
      exact ⟨written, rfl, read, rfl⟩

/-- What declares a generated file declares the rule that generates it. -/
theorem exists_rule_of_outputFile_mem (declared : target.declare classes = .ok list)
    {file : OutputFile} {generator : Rule} (member : .outputFile file generator ∈ list) :
    file ∈ generator.outputFiles ∧ ∃ provides, .rule generator provides ∈ list := by
  cases target with
  | inputFile written =>
    obtain ⟨file, -, ended⟩ := bind_eq_ok_iff.mp declared
    cases ended
    simp at member
  | rule written =>
    obtain ⟨found, read, ended⟩ := bind_eq_ok_iff.mp declared
    cases ended
    rcases List.mem_append.mp member with output | itself
    · obtain ⟨other, inside, same⟩ := List.mem_map.mp output
      cases same
      exact ⟨inside, written.provides, List.mem_append_right _ (List.mem_singleton_self _)⟩
    · cases List.mem_singleton.mp itself

end WrittenTarget

/-- The manifest says about a rule of the label that it provides a fileset. -/
def ProvidesFileset (manifest : Manifest) (label : Label) : Prop :=
  ∃ written, .rule written ∈ manifest.targets ∧ Label.parse written.label = .ok label ∧
    written.provides.fileset = true

end Manifest

namespace Workspace.LoadedFrom

variable {workspace : Workspace} {manifest : Manifest} {declared : List DeclaredTarget}

/-- What is declared is declared by one target of the manifest, with whatever else that declares. -/
theorem exists_declare (loaded : workspace.LoadedFrom manifest declared) {one : DeclaredTarget}
    (member : one ∈ declared) :
    ∃ classes target list, Manifest.buildClasses ∅ manifest.ruleClasses = .ok classes ∧
      target.declare classes = .ok list ∧ target ∈ manifest.targets ∧ one ∈ list ∧
        ∀ other ∈ list, other ∈ declared := by
  obtain ⟨classes, lists, built, related, rfl⟩ := loaded.written
  obtain ⟨list, among, inside⟩ := List.mem_flatten.mp member
  obtain ⟨target, written, declares⟩ := exists_left_of_forall₂ related among
  refine ⟨classes, target, list, built, declares, written, inside, ?_⟩
  intro other memberOther
  exact List.mem_flatten.mpr ⟨list, among, memberOther⟩

/-- Every rule that a manifest writes is declared, with the written capabilities. -/
theorem exists_rule_of_written (loaded : workspace.LoadedFrom manifest declared)
    {written : Manifest.WrittenRule} (member : .rule written ∈ manifest.targets) :
    ∃ rule, .rule rule written.provides ∈ declared ∧
      Label.parse written.label = .ok rule.label := by
  obtain ⟨classes, lists, -, related, rfl⟩ := loaded.written
  obtain ⟨list, among, declares⟩ := exists_right_of_forall₂ related member
  obtain ⟨rule, read, ended⟩ := bind_eq_ok_iff.mp declares
  cases ended
  refine ⟨rule, List.mem_flatten.mpr ⟨_, among, ?_⟩, (Manifest.load_eq_ok read).1⟩
  exact List.mem_append_right _ (List.mem_singleton_self _)

/-- The rules of a loaded workspace are those that are declared. -/
theorem mem_rules_iff (loaded : workspace.LoadedFrom manifest declared) {rule : Rule} :
    rule ∈ workspace.rules ↔ ∃ provides, .rule rule provides ∈ declared := by
  rw [loaded.rules, List.mem_filterMap]
  constructor
  · rintro ⟨one, member, itself⟩
    cases one with
    | rule other provides =>
      cases itself
      exact ⟨provides, member⟩
    | inputFile file => cases itself
    | outputFile file generator => cases itself
  · rintro ⟨provides, member⟩
    exact ⟨_, member, rfl⟩

/-- A rule of a loaded workspace is found by its label. -/
theorem rule?_of_mem (loaded : workspace.LoadedFrom manifest declared) {rule : Rule}
    (member : rule ∈ workspace.rules) : workspace.rule? rule.label = some rule := by
  have found : (workspace.rule? rule.label).isSome := by
    unfold Workspace.rule?
    rw [List.find?_isSome]
    exact ⟨rule, member, by simp⟩
  obtain ⟨other, hit⟩ := Option.isSome_iff_exists.mp found
  have sameLabel : other.label = rule.label := by simpa using List.find?_some hit
  obtain ⟨provides, inside⟩ := loaded.mem_rules_iff.mp member
  obtain ⟨others, insideOther⟩ := loaded.mem_rules_iff.mp (List.mem_of_find?_eq_some hit)
  cases loaded.eq_of_label_eq insideOther inside sameLabel
  exact hit

/-- The rule that a generated file names is the one with which it was declared. -/
theorem rule?_generatingRule (loaded : workspace.LoadedFrom manifest declared)
    {file : OutputFile} {generator : Rule} (member : .outputFile file generator ∈ declared) :
    workspace.rule? file.generatingRule = some generator := by
  obtain ⟨classes, target, list, -, declares, -, inside, others⟩ := loaded.exists_declare member
  obtain ⟨generated, provides, beside⟩ :=
    Manifest.WrittenTarget.exists_rule_of_outputFile_mem declares inside
  obtain ⟨label, -, rfl⟩ := List.mem_map.mp generated
  exact loaded.rule?_of_mem (loaded.mem_rules_iff.mpr ⟨provides, others _ beside⟩)

/-- A declared rule provides a fileset exactly when the manifest says so about its label. -/
theorem providesFileset_iff (loaded : workspace.LoadedFrom manifest declared) {rule : Rule}
    {provides : Manifest.Capabilities} (member : .rule rule provides ∈ declared) :
    provides.fileset = true ↔ manifest.ProvidesFileset rule.label := by
  constructor
  · intro fileset
    obtain ⟨classes, target, list, -, declares, among, inside, -⟩ := loaded.exists_declare member
    obtain ⟨written, rfl, read, rfl⟩ :=
      Manifest.WrittenTarget.exists_load_of_rule_mem declares inside
    exact ⟨written, among, (Manifest.load_eq_ok read).1, fileset⟩
  · rintro ⟨written, among, parsed, fileset⟩
    obtain ⟨other, inside, parsedOther⟩ := loaded.exists_rule_of_written among
    have sameLabel : other.label = rule.label := by
      rw [parsed] at parsedOther
      exact (Except.ok.inj parsedOther).symm
    cases loaded.eq_of_label_eq inside member sameLabel
    exact fileset

/-- The attributes of the rules of a workspace have no condition beyond what is declared of them. -/
theorem validity_eq_none (loaded : workspace.LoadedFrom manifest declared) {rule : Rule}
    (member : rule ∈ workspace.rules) {attr : Attribute}
    (among : attr ∈ rule.ruleClass.attributes) : attr.validity = none := by
  obtain ⟨provides, inside⟩ := loaded.mem_rules_iff.mp member
  obtain ⟨classes, target, list, built, declares, -, listed, -⟩ := loaded.exists_declare inside
  obtain ⟨written, -, read, -⟩ := Manifest.WrittenTarget.exists_load_of_rule_mem declares listed
  have known := (Manifest.load_eq_ok read).2
  rcases Manifest.exists_build_of_find? built known with absent | ⟨one, -, -, builds⟩
  · cases absent
  · exact Manifest.validity_of_build builds among

end Workspace.LoadedFrom

end BuildRules
