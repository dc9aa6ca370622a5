import BuildRules.Attribute.Declaration

/-!
# Rule classes

A rule class is a declaration that has passed all checks: it has a name, its attributes
have distinct names and are sound one by one, and every pair of attributes that exclude
each other names two of them. `RuleClassDeclaration.check` finds the first thing that is
wrong. While it goes through the attributes it enters their positions into an index, by
which the class looks an attribute up later. A `RuleClass` carries the index with the
evidence that the checks left it behind and that it finds every attribute where it is.
-/

set_option autoImplicit false

namespace BuildRules

/-- What is written about a rule class. -/
structure RuleClassDeclaration where
  name : String
  attributes : List Attribute := []
  /-- Do the outputs of its rules lie among the binaries? -/
  binaryOutput : Bool := true
  /-- Pairs of attributes of which a rule may set one only. -/
  exclusive : List (String × String) := []

/-- What is wrong with the declaration of a rule class. -/
inductive RuleClassProblem where
  | noName
  | unsoundAttribute (problem : AttributeProblem)
  | declaredTwice (name : String)
  | excludesItself (name : String)
  | excludesUndeclared (name : String)
  deriving DecidableEq, Repr

def RuleClassProblem.message : RuleClassProblem → String
  | .noName => "rule class has no name"
  | .unsoundAttribute problem => problem.message
  | .declaredTwice name => s!"attribute '{name}' declared twice"
  | .excludesItself name => s!"attribute '{name}' cannot be exclusive with itself"
  | .excludesUndeclared name => s!"exclusive group names undeclared attribute '{name}'"

/-- The positions of attributes in a list, by their names. -/
abbrev AttributeIndex := NameMap Nat

namespace AttributeIndex

/-- The index has for each name the position of the attribute that has it, and nothing else. -/
def IsOf (index : AttributeIndex) (attributes : List Attribute) : Prop :=
  ∀ name position,
    index.find? name = some position ↔ (attributes[position]?).map Attribute.name = some name

/-- Checks attributes from a position on and enters their positions into the index of the attributes
before them. -/
def extend (index : AttributeIndex) (position : Nat) :
    List Attribute → Except RuleClassProblem AttributeIndex
  | [] => .ok index
  | attr :: rest =>
    match attr.problem? with
    | some problem => .error (.unsoundAttribute problem)
    | none =>
      if index.contains attr.name then .error (.declaredTwice attr.name)
      else extend (index.insert attr.name position) (position + 1) rest

variable {index : AttributeIndex} {attributes earlier : List Attribute}

/-- The empty index is that of no attributes. -/
theorem isOf_empty : IsOf ∅ [] := by
  intro name position
  simp [EmptyCollection.emptyCollection]

/-- A position in the index is one in the list. -/
theorem IsOf.lt_length (isOf : index.IsOf attributes) {name : String} {position : Nat}
    (found : index.find? name = some position) : position < attributes.length := by
  have named := (isOf name position).mp found
  refine Decidable.byContradiction fun outside => ?_
  rw [List.getElem?_eq_none (Nat.not_lt.mp outside)] at named
  cases named

/-- With the position of a name that it does not have yet, an index stays the index of the
attributes up to there. -/
theorem IsOf.insert (isOf : index.IsOf earlier) {attr : Attribute}
    (fresh : index.find? attr.name = none) :
    IsOf (index.insert attr.name earlier.length) (earlier ++ [attr]) := by
  intro name position
  rw [NameMap.find?_insert, List.getElem?_append]
  -- The positions before the new one keep their names, and none of these is the new name.
  by_cases before : position < earlier.length
  · rw [if_pos before, ← isOf name position]
    split
    · rename_i same
      have elsewhere : earlier.length ≠ position := Nat.ne_of_gt before
      simp [same, fresh, elsewhere]
    · rfl
  · rw [if_neg before]
    split
    · rename_i same
      by_cases last : earlier.length = position
      · simp [last, same]
      · have beyond : position - earlier.length ≠ 0 := by omega
        obtain ⟨more, succ⟩ := Nat.exists_eq_succ_of_ne_zero beyond
        simp [last, succ]
    · rename_i different
      have absent : index.find? name ≠ some position := fun found => before (isOf.lt_length found)
      by_cases last : position - earlier.length = 0
      · simp [absent, last, Ne.symm different]
      · obtain ⟨more, succ⟩ := Nat.exists_eq_succ_of_ne_zero last
        simp [absent, succ]

/-- What the checks leave behind is the index of all attributes that they went through. -/
theorem IsOf.extend {rest : List Attribute} {final : AttributeIndex} (isOf : index.IsOf earlier)
    (ended : index.extend earlier.length rest = .ok final) : final.IsOf (earlier ++ rest) := by
  induction rest generalizing index earlier with
  | nil =>
    cases ended
    rwa [List.append_nil]
  | cons attr rest ih =>
    unfold AttributeIndex.extend at ended
    split at ended
    · cases ended
    · split at ended
      · cases ended
      · rename_i unknown
        have fresh : index.find? attr.name = none := by simpa [NameMap.contains] using unknown
        have later := ih (isOf.insert fresh) (by simpa using ended)
        rwa [List.append_assoc] at later

end AttributeIndex

/-- What is wrong with a pair of attributes that exclude each other. -/
def exclusionProblem? (index : AttributeIndex) (pair : String × String) :
    Option RuleClassProblem :=
  if pair.1 = pair.2 then some (.excludesItself pair.1)
  else if !index.contains pair.1 then some (.excludesUndeclared pair.1)
  else if !index.contains pair.2 then some (.excludesUndeclared pair.2)
  else none

/-- The index of the attributes, or the first thing that is wrong with a declaration. -/
def RuleClassDeclaration.check (declaration : RuleClassDeclaration) :
    Except RuleClassProblem AttributeIndex :=
  if declaration.name.isEmpty then .error .noName
  else
    match AttributeIndex.extend ∅ 0 declaration.attributes with
    | .error problem => .error problem
    | .ok index =>
      match declaration.exclusive.findSome? (exclusionProblem? index) with
      | some problem => .error problem
      | none => .ok index

/-- The checks of a declaration leave the index of its attributes behind. -/
theorem RuleClassDeclaration.isOf_of_check {declaration : RuleClassDeclaration}
    {index : AttributeIndex} (checked : declaration.check = .ok index) :
    index.IsOf declaration.attributes := by
  unfold check at checked
  split at checked
  · cases checked
  · split at checked
    · cases checked
    · rename_i built extended
      split at checked
      · cases checked
      · cases checked
        exact AttributeIndex.isOf_empty.extend extended

/-- A rule class: a declaration with which nothing is wrong, and the index of its attributes. -/
structure RuleClass extends RuleClassDeclaration where
  index : AttributeIndex
  checked : toRuleClassDeclaration.check = .ok index
  coherent : index.IsOf attributes := RuleClassDeclaration.isOf_of_check checked

def RuleClassDeclaration.build (declaration : RuleClassDeclaration) :
    Except LoadError RuleClass :=
  match checked : declaration.check with
  | .ok index => .ok { toRuleClassDeclaration := declaration, index, checked }
  | .error problem => .error (.schema declaration.name problem.message)

namespace RuleClass

/-- The attribute of a name, at the position that the index has for the name. -/
def attribute? (ruleClass : RuleClass) (name : String) : Option Attribute :=
  match found : ruleClass.index.find? name with
  | some position =>
    some (ruleClass.attributes.get ⟨position, ruleClass.coherent.lt_length found⟩)
  | none => none

/-- Does the class declare an attribute of this name and type? -/
def hasAttribute (ruleClass : RuleClass) (name : String) (type : AttributeType) : Bool :=
  (ruleClass.attribute? name).any (·.type = type)

def isTest (ruleClass : RuleClass) : Bool :=
  "_test".toList.isSuffixOf ruleClass.name.toList

end RuleClass

end BuildRules
