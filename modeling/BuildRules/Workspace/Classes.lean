import BuildRules.RuleClass
import BuildRules.Workspace.Manifest

/-!
# Rule classes of a manifest

What a manifest writes about an attribute becomes a declaration, and what it writes about
a rule class becomes a rule class, if nothing is wrong with it. The defaults of attributes
have no package of their own, so their labels are read at the root of the workspace.
-/

set_option autoImplicit false

namespace BuildRules.Manifest

def applyWritten {α β : Type} (set : β → α → β) (base : β) : Option α → β
  | none => base
  | some value => set base value

/-- The declaration of an attribute of a rule class. -/
def WrittenAttribute.declare (written : WrittenAttribute) (className : String) :
    Except LoadError Attribute := do
  let base : Attribute :=
    { name := written.name, type := written.type, transition := written.transition,
      executable := written.executable, strict := written.strict,
      singleArtifact := written.singleArtifact, nonEmpty := written.nonEmpty,
      silentClassFilter := written.silentClassFilter,
      skipFileTypeCheck := written.skipFileTypeCheck }
  let base := applyWritten Attribute.withAllowedClasses base (written.allowedClasses.map .only)
  let base := applyWritten Attribute.withWarnedClasses base (written.warnedClasses.map .only)
  let files ←
    match written.allowedFiles with
    | none => pure none
    | some patterns => some <$> FileTypeSet.parse patterns
  let base := applyWritten Attribute.withAllowedFiles base files
  match written.defaultValue with
  | none => return base
  | some value =>
    match AttributeValue.ofJson written.type "" value with
    | .ok value => return { base with defaultValue := some value }
    | .error fault =>
      throw (.schema className
        ("default of attribute '" ++ written.name ++ "': " ++ fault.message))

def WrittenRuleClass.build (written : WrittenRuleClass) : Except LoadError RuleClass := do
  let attributes ← written.attributes.mapM (·.declare written.name)
  RuleClassDeclaration.build ⟨written.name, attributes, written.binaryOutput, written.exclusive⟩

abbrev RuleClasses := NameMap RuleClass

/-- Builds rule classes in order, after those that are built. -/
def buildClasses (classes : RuleClasses) :
    List WrittenRuleClass → Except LoadError RuleClasses
  | [] => .ok classes
  | written :: rest => do
    let ruleClass ← written.build
    if classes.contains written.name then
      throw (.manifest ("duplicate rule class '" ++ written.name ++ "'"))
    buildClasses (classes.insert written.name ruleClass) rest

end BuildRules.Manifest
