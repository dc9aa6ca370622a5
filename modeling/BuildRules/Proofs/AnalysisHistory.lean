import BuildRules.Proofs.Resolution
import Mathlib.Data.Finset.Card

/-!
# The latest analysis

Analyses are put into a map one after the other, and all that the map has to say can be
read off this history. It answers with the latest analysis of the label and the
configuration that are asked for, where configurations are compared by value and to have
none is a value of its own, and it is as large as there are different pairs of both.

So the history also says how a label resolves. It can end in four ways: the target was
not loaded, a target that is no source file has no configuration, nothing in the history
fits, or else the loaded target comes with the latest analysis that fits.
-/

set_option autoImplicit false

namespace BuildRules

/-! ## Histories of analyses -/

namespace ConfiguredTarget

/-- What an analysis is looked up by. -/
def key (target : ConfiguredTarget) : Label × Option Configuration :=
  (target.label, target.configuration)

/-- An analysis is the one of a label in a configuration exactly if they are its key. -/
theorem isFor_iff {target : ConfiguredTarget} {label : Label} {configuration : Option Configuration} :
    target.isFor label configuration = true ↔ target.key = (label, configuration) := by
  simp [isFor, key]

/-- No analysis of the same label in the same configuration comes later in the history. -/
def IsLatest (target : ConfiguredTarget) (history : List ConfiguredTarget) : Prop :=
  ∃ before after, history = before ++ target :: after ∧ ∀ later ∈ after, later.key ≠ target.key

end ConfiguredTarget

namespace PrerequisiteMap

open ConfiguredTarget

variable {history : List ConfiguredTarget} {label : Label} {configuration : Option Configuration}

/-- A lookup finds the latest analysis of the history that has the label and the configuration. -/
theorem find?_ofList (history : List ConfiguredTarget) (label : Label)
    (configuration : Option Configuration) :
    (ofList history).find? label configuration =
      history.reverse.find? (·.isFor label configuration) := by
  unfold ofList
  rw [find?_foldl_insert]
  exact Option.or_none

/-- What is found is exactly the latest analysis of the history with the key that was looked up. -/
theorem find?_ofList_eq_some_iff {target : ConfiguredTarget} :
    (ofList history).find? label configuration = some target ↔
      target.key = (label, configuration) ∧ target.IsLatest history := by
  rw [find?_ofList, List.find?_eq_some_iff_append, isFor_iff]
  refine and_congr_right fun hit => ?_
  unfold IsLatest
  rw [hit]
  constructor
  · rintro ⟨after, before, turned, others⟩
    refine ⟨before.reverse, after.reverse, by simpa using congrArg List.reverse turned, ?_⟩
    intro later member fits
    have missed := others later (List.mem_reverse.mp member)
    rw [isFor_iff.mpr fits] at missed
    cases missed
  · rintro ⟨before, after, rfl, others⟩
    refine ⟨after.reverse, before.reverse, by simp, ?_⟩
    intro later member
    have missed := mt isFor_iff.mp (others later (List.mem_reverse.mp member))
    simpa using missed

/-- Nothing is found exactly if no analysis of the history has the key. -/
theorem find?_ofList_eq_none_iff :
    (ofList history).find? label configuration = none ↔
      ∀ target ∈ history, target.key ≠ (label, configuration) := by
  rw [find?_ofList, List.find?_eq_none]
  simp only [List.mem_reverse, isFor_iff, ne_eq]

/-! ## The size of a map -/

def keys (map : PrerequisiteMap) : List (Label × Option Configuration) := map.entries.map key

/-- An analysis that is inserted takes the place of the one with its key. -/
theorem keys_insert (map : PrerequisiteMap) (target : ConfiguredTarget) :
    (map.insert target).keys = target.key :: map.keys.filter (· ≠ target.key) := by
  unfold insert keys
  rw [List.map_cons, List.filter_map]
  refine congrArg (fun kept => target.key :: List.map key kept) (List.filter_congr ?_)
  intro entry _
  rw [Bool.eq_iff_iff, Bool.not_eq_true', Bool.eq_false_iff, ne_eq, isFor_iff]
  exact decide_eq_true_iff.symm

/-- An insertion keeps the keys of the entries distinct. -/
theorem nodup_keys_insert {map : PrerequisiteMap} (distinct : map.keys.Nodup)
    (target : ConfiguredTarget) : (map.insert target).keys.Nodup := by
  rw [keys_insert, List.nodup_cons]
  exact ⟨by simp, distinct.filter _⟩

/-- One more analysis adds its key to the keys of the map. -/
theorem toFinset_keys_insert (map : PrerequisiteMap) (target : ConfiguredTarget) :
    (map.insert target).keys.toFinset = Insert.insert target.key map.keys.toFinset := by
  ext one
  by_cases same : one = target.key <;> simp [keys_insert, same]

/-- No number of insertions makes a map hold a key twice. -/
theorem nodup_keys_foldl_insert {map : PrerequisiteMap} (distinct : map.keys.Nodup)
    (history : List ConfiguredTarget) : (history.foldl insert map).keys.Nodup := by
  induction history generalizing map with
  | nil => exact distinct
  | cons first rest ih => exact ih (nodup_keys_insert distinct first)

/-- The keys after several insertions are those of the map and those of the inserted analyses. -/
theorem toFinset_keys_foldl_insert (map : PrerequisiteMap) (history : List ConfiguredTarget) :
    (history.foldl insert map).keys.toFinset =
      (history.map key).toFinset ∪ map.keys.toFinset := by
  induction history generalizing map with
  | nil => simp
  | cons first rest ih =>
    rw [List.foldl_cons, ih, toFinset_keys_insert, List.map_cons, List.toFinset_cons,
      Finset.union_insert, Finset.insert_union]

/-- A map is as large as there are different labels and configurations in its history. -/
theorem size_ofList (history : List ConfiguredTarget) :
    (ofList history).size = (history.map key).toFinset.card := by
  have distinctFirst : (keys {}).Nodup := List.nodup_nil
  have distinct : (ofList history).keys.Nodup := nodup_keys_foldl_insert distinctFirst history
  calc
    (ofList history).size = (ofList history).keys.length := (List.length_map _).symm
    _ = (ofList history).keys.toFinset.card := (List.toFinset_card_of_nodup distinct).symm
    _ = (history.map key).toFinset.card := by
      unfold ofList
      rw [toFinset_keys_foldl_insert]
      exact congrArg Finset.card (Finset.union_empty _)

end PrerequisiteMap

/-! ## How a label resolves -/

namespace Resolver

/-- The configuration in which the rule needs a target is the one to which the transition leads.
Only a source file can do without. -/
def Needs (resolver : Resolver) (attr : Attribute) (target : Target)
    (configuration : Option Configuration) : Prop :=
  resolver.transition resolver.rule resolver.configuration attr target = configuration ∧
    (configuration = none → target.isInputFile = true)

/-- How a label resolves after a history of analyses. -/
inductive Ends (resolver : Resolver) (history : List ConfiguredTarget) (attr : Attribute)
    (label : Label) : Except Abort Prerequisite → Prop
  | notLoaded {cause : LoadError} (missing : resolver.targets label = .error cause) :
      Ends resolver history attr label
        (.error (.notLoaded resolver.rule.location label resolver.rule.label attr.name cause))
  | noConfiguration {target : Target} (loaded : resolver.targets label = .ok target)
      (nowhere : resolver.transition resolver.rule resolver.configuration attr target = none)
      (noSource : target.isInputFile = false) :
      Ends resolver history attr label
        (.error (.noConfiguration resolver.rule.location target.kind label resolver.rule.label
          attr.name))
  | notAnalyzed {target : Target} {configuration : Option Configuration}
      (loaded : resolver.targets label = .ok target)
      (needed : resolver.Needs attr target configuration)
      (absent : ∀ analyzed ∈ history, analyzed.key ≠ (label, configuration)) :
      Ends resolver history attr label
        (.error (.notAnalyzed resolver.rule.location label configuration attr.name
          resolver.rule.label))
  | resolved {prerequisite : Prerequisite}
      (loaded : resolver.targets label = .ok prerequisite.target)
      (needed : resolver.Needs attr prerequisite.target prerequisite.configuration)
      (named : prerequisite.label = label)
      (latest : prerequisite.configured.IsLatest history) :
      Ends resolver history attr label (.ok prerequisite)

variable {resolver : Resolver} {attr : Attribute} {label : Label} {history : List ConfiguredTarget}

/-- The configuration that is needed for a target is the one in which its analysis is looked for. -/
theorem configurationOf_of_needs {target : Target} {configuration : Option Configuration}
    (needed : resolver.Needs attr target configuration) :
    resolver.configurationOf attr label target = .ok configuration := by
  obtain ⟨rfl, source⟩ := needed
  unfold configurationOf
  refine if_neg fun nowhere => ?_
  rw [Bool.and_eq_true, Option.isNone_iff_eq_none, Bool.not_eq_true'] at nowhere
  exact Bool.eq_false_iff.mp nowhere.2 (source nowhere.1)

/-- A target that leads to no configuration ends the resolution, unless it is a source file. -/
theorem configurationOf_of_nowhere {target : Target}
    (nowhere : resolver.transition resolver.rule resolver.configuration attr target = none)
    (noSource : target.isInputFile = false) :
    resolver.configurationOf attr label target =
      .error (.noConfiguration resolver.rule.location target.kind label resolver.rule.label
        attr.name) := by
  unfold configurationOf
  rw [nowhere, noSource]
  rfl

/-- Either some configuration is needed for a target, or none can be, and then it is no source file.
-/
theorem exists_needs_or_nowhere (resolver : Resolver) (attr : Attribute) (target : Target) :
    (∃ configuration, resolver.Needs attr target configuration) ∨
      resolver.transition resolver.rule resolver.configuration attr target = none ∧
        target.isInputFile = false := by
  unfold Needs
  cases resolver.transition resolver.rule resolver.configuration attr target with
  | some configuration => exact .inl ⟨some configuration, rfl, nofun⟩
  | none =>
    cases source : target.isInputFile with
    | true => exact .inl ⟨none, rfl, fun _ => rfl⟩
    | false => exact .inr ⟨rfl, rfl⟩

/-- Every label comes to one of the four ends. -/
theorem exists_ends (resolver : Resolver) (history : List ConfiguredTarget) (attr : Attribute)
    (label : Label) : ∃ outcome, resolver.Ends history attr label outcome := by
  cases loaded : resolver.targets label with
  | error cause => exact ⟨_, .notLoaded loaded⟩
  | ok target =>
    rcases resolver.exists_needs_or_nowhere attr target with
      ⟨configuration, needed⟩ | ⟨nowhere, noSource⟩
    · cases found : (PrerequisiteMap.ofList history).find? label configuration with
      | none =>
        have absent := PrerequisiteMap.find?_ofList_eq_none_iff.mp found
        exact ⟨_, .notAnalyzed loaded needed absent⟩
      | some configured =>
        obtain ⟨hit, latest⟩ := PrerequisiteMap.find?_ofList_eq_some_iff.mp found
        cases hit
        exact ⟨.ok ⟨target, configured⟩, .resolved loaded needed rfl latest⟩
    · exact ⟨_, .noConfiguration loaded nowhere noSource⟩

/-- The resolver with a map into which a history of analyses was put. -/
def after (resolver : Resolver) (history : List ConfiguredTarget) : Resolver :=
  { resolver with prerequisites := .ofList history }

/-- The resolution of a target ends where its configuration is refused. -/
theorem resolve_of_no_configuration {target : Target} {abort : Abort}
    (loaded : resolver.targets label = .ok target)
    (refused : resolver.configurationOf attr label target = .error abort) :
    resolver.resolve attr label = .error abort := by
  unfold resolve
  rw [loaded]
  dsimp only
  rw [refused]
  rfl

/-- The resolution of a target ends where it has no analysis in the configuration that is needed. -/
theorem resolve_of_not_analyzed {target : Target} {configuration : Option Configuration}
    (loaded : resolver.targets label = .ok target)
    (selected : resolver.configurationOf attr label target = .ok configuration)
    (missed : resolver.prerequisites.find? label configuration = none) :
    resolver.resolve attr label =
      .error (.notAnalyzed resolver.rule.location label configuration attr.name
        resolver.rule.label) := by
  unfold resolve
  rw [loaded]
  dsimp only
  rw [selected]
  dsimp only [bind, Except.bind]
  rw [missed]
  rfl

/-- A label resolves as the history of the analyses says. -/
theorem Ends.resolve_eq {outcome : Except Abort Prerequisite}
    (ends : resolver.Ends history attr label outcome) :
    (resolver.after history).resolve attr label = outcome := by
  cases ends with
  | @notLoaded cause missing =>
    have missingAfter : (resolver.after history).targets label = .error cause := missing
    exact resolve_of_not_loaded missingAfter
  | @noConfiguration target loaded nowhere noSource =>
    have loadedAfter : (resolver.after history).targets label = .ok target := loaded
    exact resolve_of_no_configuration loadedAfter (configurationOf_of_nowhere nowhere noSource)
  | @notAnalyzed target configuration loaded needed absent =>
    have loadedAfter : (resolver.after history).targets label = .ok target := loaded
    have selected : (resolver.after history).configurationOf attr label target = .ok configuration :=
      configurationOf_of_needs needed
    have missed : (resolver.after history).prerequisites.find? label configuration = none :=
      PrerequisiteMap.find?_ofList_eq_none_iff.mpr absent
    exact resolve_of_not_analyzed loadedAfter selected missed
  | @resolved prerequisite loaded needed named latest =>
    have selected : (resolver.after history).configurationOf attr label prerequisite.target =
        .ok prerequisite.configuration := configurationOf_of_needs needed
    have found : (resolver.after history).prerequisites.find? label prerequisite.configuration =
        some prerequisite.configured :=
      PrerequisiteMap.find?_ofList_eq_some_iff.mpr ⟨congrArg (·, _) named, latest⟩
    exact resolves_iff.mpr ⟨loaded, _, selected, found⟩

/-- A label resolves to its loaded target and the latest analysis of it in the configuration to
which the transition leads, and it aborts exactly when there is no such target, configuration or
analysis. The map holds one analysis for each label and configuration of the history. -/
theorem resolve_latest_analysis (resolver : Resolver) (history : List ConfiguredTarget)
    (attr : Attribute) (label : Label) :
    (∀ outcome, (resolver.after history).resolve attr label = outcome ↔
      resolver.Ends history attr label outcome) ∧
    (resolver.after history).prerequisites.size =
      (history.map ConfiguredTarget.key).toFinset.card := by
  refine ⟨fun outcome => ⟨?_, Ends.resolve_eq⟩, PrerequisiteMap.size_ofList history⟩
  rintro rfl
  obtain ⟨outcome, ends⟩ := resolver.exists_ends history attr label
  rwa [ends.resolve_eq]

end Resolver

end BuildRules
