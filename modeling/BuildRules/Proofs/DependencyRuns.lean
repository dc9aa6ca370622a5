import BuildRules.Analysis.Dependencies
import BuildRules.Proofs.Resolution
import BuildRules.Proofs.Runs

/-!
# How the resolution of dependencies ends

The labels of a rule are resolved one after the other. Either all of them resolve, and
then what is yielded and what is reported can be said in terms of the prerequisites
alone; or one of them does not, and its abort is the abort of the whole. The statements
go up the structure of a rule: the labels of one attribute, the attributes of a label
map, the labels of a fileset entry, the entries of an attribute, the fileset attributes.
-/

set_option autoImplicit false

namespace BuildRules

/-- The prerequisites of an attribute that its silent filter keeps. -/
def Attribute.kept (attr : Attribute) (prerequisites : List Prerequisite) : List Prerequisite :=
  prerequisites.filter fun prerequisite => !attr.drops prerequisite.target

/-- What is kept of prerequisites is the first one, unless it is dropped, and what is kept of the
others. -/
theorem Attribute.kept_cons (attr : Attribute) (first : Prerequisite) (rest : List Prerequisite) :
    attr.kept (first :: rest) =
      (if attr.drops first.target then none else some first).toList ++ attr.kept rest := by
  unfold kept
  rw [List.filter_cons]
  cases attr.drops first.target <;> rfl

namespace Resolver

variable (resolver : Resolver) (policy : Policy)

/-- A label resolves to one prerequisite only. -/
theorem rightUnique_resolves (attr : Attribute) :
    Relator.RightUnique (resolver.Resolves attr) := by
  intro label first second resolvesFirst resolvesSecond
  unfold Resolves at resolvesFirst resolvesSecond
  rw [resolvesFirst] at resolvesSecond
  cases resolvesSecond
  rfl

/-- What is reported about the given prerequisites of an attribute. -/
def edgeDiagnostics (attr : Attribute) (prerequisites : List Prerequisite) : List Diagnostic :=
  prerequisites.flatMap
    (Validation.validate policy resolver.rule resolver.configuration attr)

/-- The reports about prerequisites are those about each part of their list. -/
theorem edgeDiagnostics_append (attr : Attribute) (first second : List Prerequisite) :
    resolver.edgeDiagnostics policy attr (first ++ second) =
      resolver.edgeDiagnostics policy attr first ++
        resolver.edgeDiagnostics policy attr second := by
  unfold edgeDiagnostics
  rw [List.flatMap_append]

/-- A label that resolves yields its prerequisite with its reports, or neither, if it is dropped. -/
theorem dependency_yields {attr : Attribute} {label : Label} {prerequisite : Prerequisite}
    (resolved : resolver.Resolves attr label prerequisite) :
    (resolver.dependency policy attr label).Yields
      (if attr.drops prerequisite.target then none else some prerequisite)
      (resolver.edgeDiagnostics policy attr
        (if attr.drops prerequisite.target then none else some prerequisite).toList) := by
  unfold dependency
  apply (Analysis.yields_liftM resolved).bind
  cases dropped : attr.drops prerequisite.target with
  | true => exact Analysis.yields_pure none
  | false =>
    have reported : resolver.edgeDiagnostics policy attr [prerequisite] =
        Validation.validate policy resolver.rule resolver.configuration attr prerequisite := by
      unfold edgeDiagnostics
      rw [List.flatMap_singleton]
    show Analysis.Yields _ _ (resolver.edgeDiagnostics policy attr [prerequisite])
    rw [reported]
    exact (Analysis.yields_reportAll _).bind_silent (Analysis.yields_pure _)

/-- A label that does not resolve ends the analysis of its dependency. -/
theorem dependency_abortsWith {attr : Attribute} {label : Label} {abort : Abort}
    (failed : resolver.resolve attr label = .error abort) :
    (resolver.dependency policy attr label).AbortsWith abort :=
  (Analysis.abortsWith_liftM failed).bind _

/-- All labels of an attribute resolve and those that are kept are yielded and reported about in
order, or the resolution ends with the abort of one of them. -/
theorem dependencies_yields_or_abortsWith (attr : Attribute) (labels : List Label) :
    (∃ resolved, List.Forall₂ (resolver.Resolves attr) labels resolved ∧
      (resolver.dependencies policy attr labels).Yields (attr.kept resolved)
        (resolver.edgeDiagnostics policy attr (attr.kept resolved))) ∨
    ∃ label ∈ labels, ∃ abort, resolver.resolve attr label = .error abort ∧
      (resolver.dependencies policy attr labels).AbortsWith abort := by
  induction labels with
  | nil => exact .inl ⟨[], .nil, Analysis.yields_pure []⟩
  | cons label rest ih =>
    cases first : resolver.resolve attr label with
    | error abort =>
      refine .inr ⟨label, List.mem_cons_self, abort, first, ?_⟩
      exact (resolver.dependency_abortsWith policy first).bind _
    | ok prerequisite =>
      have head := resolver.dependency_yields policy first
      rcases ih with ⟨resolved, related, yields⟩ | ⟨other, member, abort, failed, aborts⟩
      · refine .inl ⟨prerequisite :: resolved, .cons first related, ?_⟩
        rw [Attribute.kept_cons, edgeDiagnostics_append]
        apply head.bind
        exact yields.bind_silent (Analysis.yields_pure _)
      · refine .inr ⟨other, List.mem_cons_of_mem _ member, abort, failed, ?_⟩
        exact head.bind_abortsWith (aborts.bind _)

/-! ## Label maps -/

/-- An entry of a label map leads to an entry of the dependency map: the attribute is declared, its
labels resolve, and the entry holds those that are kept. -/
def ResolvesEntry (entry : String × List Label) (kept : String × List Prerequisite) : Prop :=
  kept.1 = entry.1 ∧ ∃ attr resolved, resolver.rule.ruleClass.attribute? entry.1 = some attr ∧
    List.Forall₂ (resolver.Resolves attr) entry.2 resolved ∧ kept.2 = attr.kept resolved

/-- An entry of a label map ends the analysis: the attribute is not declared, or one of its labels
does not resolve. -/
def FailsEntry (entry : String × List Label) (abort : Abort) : Prop :=
  (resolver.rule.ruleClass.attribute? entry.1 = none ∧
    abort = .undeclared resolver.rule.location resolver.rule.ruleClass.name entry.1) ∨
  ∃ attr, resolver.rule.ruleClass.attribute? entry.1 = some attr ∧
    ∃ label ∈ entry.2, resolver.resolve attr label = .error abort

/-- The labels of an attribute resolve to one list of prerequisites only. -/
theorem rightUnique_resolvesEntry : Relator.RightUnique resolver.ResolvesEntry := by
  rintro entry ⟨firstName, firstKept⟩ ⟨secondName, secondKept⟩ first second
  obtain ⟨rfl, attr, resolved, declared, related, rfl⟩ := first
  obtain ⟨rfl, other, others, declaredOther, relatedOther, rfl⟩ := second
  rw [declared] at declaredOther
  cases declaredOther
  have same : resolved = others :=
    List.right_unique_forall₂' (resolver.rightUnique_resolves attr) related relatedOther
  rw [same]

variable {resolver} in
/-- An entry that leads to an entry of the dependency map does not end the analysis. -/
theorem ResolvesEntry.not_failsEntry {entry : String × List Label}
    {kept : String × List Prerequisite} {abort : Abort}
    (resolves : resolver.ResolvesEntry entry kept) : ¬ resolver.FailsEntry entry abort := by
  obtain ⟨-, attr, resolved, declared, related, -⟩ := resolves
  rintro (⟨undeclared, -⟩ | ⟨other, declaredOther, label, member, failed⟩)
  · rw [declared] at undeclared
    cases undeclared
  · rw [declared] at declaredOther
    cases declaredOther
    obtain ⟨prerequisite, -, hit⟩ := exists_right_of_forall₂ related member
    unfold Resolves at hit
    rw [failed] at hit
    cases hit

/-- What is reported about the entries of a dependency map. -/
def entryDiagnostics (kept : List (String × List Prerequisite)) : List Diagnostic :=
  kept.flatMap fun entry =>
    (resolver.rule.ruleClass.attribute? entry.1).elim [] fun attr =>
      resolver.edgeDiagnostics policy attr entry.2

/-- A declared attribute is found by its name. -/
theorem attributeNamed_of_declared {name : String} {attr : Attribute}
    (declared : resolver.rule.ruleClass.attribute? name = some attr) :
    resolver.attributeNamed name = .ok attr := by
  unfold attributeNamed
  dsimp only
  rw [declared]

/-- A name that no attribute has ends the analysis. -/
theorem attributeNamed_of_undeclared {name : String}
    (undeclared : resolver.rule.ruleClass.attribute? name = none) :
    resolver.attributeNamed name =
      .error (.undeclared resolver.rule.location resolver.rule.ruleClass.name name) := by
  unfold attributeNamed
  dsimp only
  rw [undeclared]

/-- All entries of a label map lead to entries of the dependency map, or the resolution ends with
the abort of one of them. -/
theorem dependencyEntries_yields_or_abortsWith (entries : List (String × List Label)) :
    (∃ kept, List.Forall₂ resolver.ResolvesEntry entries kept ∧
      (resolver.dependencyEntries policy entries).Yields kept
        (resolver.entryDiagnostics policy kept)) ∨
    ∃ entry ∈ entries, ∃ abort, resolver.FailsEntry entry abort ∧
      (resolver.dependencyEntries policy entries).AbortsWith abort := by
  induction entries with
  | nil => exact .inl ⟨[], .nil, Analysis.yields_pure []⟩
  | cons entry rest ih =>
    obtain ⟨name, labels⟩ := entry
    cases declared : resolver.rule.ruleClass.attribute? name with
    | none =>
      refine .inr ⟨(name, labels), List.mem_cons_self, _, .inl ⟨declared, rfl⟩, ?_⟩
      exact (Analysis.abortsWith_liftM (resolver.attributeNamed_of_undeclared declared)).bind _
    | some attr =>
      have named := Analysis.yields_liftM (resolver.attributeNamed_of_declared declared)
      rcases resolver.dependencies_yields_or_abortsWith policy attr labels with
        ⟨resolved, related, head⟩ | ⟨label, member, abort, failed, aborts⟩
      · rcases ih with ⟨kept, others, tail⟩ | ⟨other, member, abort, failed, aborts⟩
        · refine .inl ⟨(name, attr.kept resolved) :: kept,
            .cons ⟨rfl, attr, resolved, declared, related, rfl⟩ others, ?_⟩
          have reported : resolver.entryDiagnostics policy ((name, attr.kept resolved) :: kept) =
              [] ++ (resolver.edgeDiagnostics policy attr (attr.kept resolved) ++
                resolver.entryDiagnostics policy kept) := by
            unfold entryDiagnostics
            rw [List.flatMap_cons, declared, Option.elim_some, List.nil_append]
          rw [reported]
          exact named.bind (head.bind (tail.bind_silent (Analysis.yields_pure _)))
        · refine .inr ⟨other, List.mem_cons_of_mem _ member, abort, failed, ?_⟩
          exact named.bind_abortsWith (head.bind_abortsWith (aborts.bind _))
      · refine .inr ⟨(name, labels), List.mem_cons_self, abort,
          .inr ⟨attr, declared, label, member, failed⟩, ?_⟩
        exact named.bind_abortsWith (aborts.bind _)

/-- What the resolution of a label map yields and reports; the pairs of attributes that exclude
each other come after the prerequisites. -/
theorem dependencyMap_yields_or_abortsWith (labels : LabelMap) :
    (∃ kept, List.Forall₂ resolver.ResolvesEntry labels.entries kept ∧
      (resolver.dependencyMap policy labels).Yields (.ofList kept)
        (resolver.entryDiagnostics policy kept ++ resolver.rule.exclusionDiagnostics)) ∨
    ∃ entry ∈ labels.entries, ∃ abort, resolver.FailsEntry entry abort ∧
      (resolver.dependencyMap policy labels).AbortsWith abort := by
  rcases resolver.dependencyEntries_yields_or_abortsWith policy labels.entries with
    ⟨kept, related, yields⟩ | ⟨entry, member, abort, failed, aborts⟩
  · refine .inl ⟨kept, related, ?_⟩
    exact yields.bind ((Analysis.yields_reportAll _).bind_silent (Analysis.yields_pure _))
  · exact .inr ⟨entry, member, abort, failed, aborts.bind _⟩

end Resolver

end BuildRules
