import BuildRules.Analysis.Context
import BuildRules.Proofs.Declarations
import BuildRules.Proofs.Runs
import BuildRules.Proofs.WordReadings

/-!
# The words of an attribute

The values of an attribute that is a list of strings are expanded and read as words one by
one. Two things can go wrong with a value: it cannot be expanded, and then it is read as it
is written, or its text breaks off inside a word, and then the words before stay. Each is
reported once, the expansion first. What comes of a value does not depend on the other
values, and the words and the reports of an attribute are those of its values, put together
in their order.
-/

set_option autoImplicit false

namespace BuildRules

/-! ## One value -/

namespace MakeVariable

/-- The text that a value stands for, and what went wrong with its expansion: a value that cannot be
expanded stands for itself. -/
inductive StandsFor (lookup : Lookup) (value : String) : String → Option ExpansionError → Prop
  | expanded {text : String} (expands : expand lookup value = .ok text) :
      StandsFor lookup value text none
  | kept {error : ExpansionError} (fails : expand lookup value = .error error) :
      StandsFor lookup value value (some error)

/-- Every value stands for some text. -/
theorem exists_standsFor (lookup : Lookup) (value : String) :
    ∃ text error?, StandsFor lookup value text error? := by
  cases outcome : expand lookup value with
  | ok text => exact ⟨text, none, .expanded outcome⟩
  | error error => exact ⟨value, some error, .kept outcome⟩

/-- A value stands for one text only, and one thing at most went wrong with it. -/
theorem StandsFor.unique {lookup : Lookup} {value text other : String}
    {error? otherError? : Option ExpansionError} (first : StandsFor lookup value text error?)
    (second : StandsFor lookup value other otherError?) :
    text = other ∧ error? = otherError? := by
  cases first with
  | expanded expands =>
    cases second with
    | expanded again => exact ⟨Except.ok.inj (expands.symm.trans again), rfl⟩
    | kept fails => exact nomatch expands.symm.trans fails
  | kept fails =>
    cases second with
    | expanded expands => exact nomatch expands.symm.trans fails
    | kept again => exact ⟨rfl, congrArg some (Except.error.inj (fails.symm.trans again))⟩

end MakeVariable

/-- What comes of one value: its text, the words of the text, and what went wrong. -/
structure ValueOutcome where
  text : String
  error? : Option MakeVariable.ExpansionError
  words : List String
  fault? : Option Words.Fault

/-- What is reported of an outcome: the expansion that failed, then the text that breaks off. -/
def ValueOutcome.reports (rule : Rule) (name : String) (outcome : ValueOutcome) :
    List Diagnostic :=
  (outcome.error?.toList.map fun error => rule.attributeDiagnostic .error name error.message) ++
    outcome.fault?.toList.map fun fault => rule.attributeDiagnostic .error name fault.message

namespace RuleContext

variable {context : RuleContext} {name value : String} {outcome : ValueOutcome}

/-- What comes of a value in a context. Its words are the complete words of its text, also after
words that are there already. -/
structure GivesOutcome (context : RuleContext) (value : String) (outcome : ValueOutcome) : Prop where
  expands : MakeVariable.StandsFor context.makeVariables value outcome.text outcome.error?
  reads : ∃ reading : Words.Reading, reading.text = outcome.text ∧ reading.words = outcome.words
  appends : ∀ given : List String,
    Words.appendTo given outcome.text = (given ++ outcome.words, outcome.fault?)

/-- The words and the fault of an outcome are those of the text for which the value stands. -/
theorem GivesOutcome.eq {text : String} {error? : Option MakeVariable.ExpansionError}
    (gives : context.GivesOutcome value outcome)
    (expands : MakeVariable.StandsFor context.makeVariables value text error?) :
    outcome = ⟨text, error?, Words.completed text, Words.fault? text⟩ := by
  obtain ⟨other, otherError?, words, fault?⟩ := outcome
  obtain ⟨otherExpands, -, appends⟩ := gives
  obtain ⟨rfl, rfl⟩ := expands.unique otherExpands
  have appended : Words.appendTo [] text = (words, fault?) := appends []
  obtain ⟨rfl, rfl⟩ := Prod.mk.inj appended
  rfl

/-- A value has one outcome, whatever the attribute and its other values are. -/
theorem existsUnique_givesOutcome (context : RuleContext) (value : String) :
    ∃! outcome, context.GivesOutcome value outcome := by
  obtain ⟨text, error?, expands⟩ := MakeVariable.exists_standsFor context.makeVariables value
  obtain ⟨reading, rfl⟩ := Words.Reading.exists_text text
  exact ⟨⟨reading.text, error?, Words.completed reading.text, Words.fault? reading.text⟩,
    ⟨expands, ⟨reading, rfl, (Words.completed_text reading).symm⟩, fun _ => rfl⟩,
    fun _ gives => gives.eq expands⟩

/-- The expansion of a value gives the text for which it stands and reports what went wrong. -/
theorem yields_expand {text : String} {error? : Option MakeVariable.ExpansionError}
    (expands : MakeVariable.StandsFor context.makeVariables value text error?) :
    (context.expand name value).Yields text
      (error?.toList.map fun error =>
        context.rule.attributeDiagnostic .error name error.message) := by
  unfold expand expandWith
  cases expands with
  | expanded expands =>
    rw [expands]
    exact Analysis.yields_pure text
  | kept fails =>
    rw [fails]
    exact (Analysis.yields_report _).bind_silent (Analysis.yields_pure value)

/-- One value adds the words of its outcome to those that are there, whatever these are, and what is
reported is about this outcome. -/
theorem yields_wordsOf (gives : context.GivesOutcome value outcome) (given : List String) :
    (context.wordsOf name given value).Yields (given ++ outcome.words)
      (outcome.reports context.rule name) := by
  refine (yields_expand gives.expands).bind ?_
  rw [gives.appends given]
  dsimp only
  cases outcome.fault? with
  | none => exact Analysis.yields_pure _
  | some fault => exact (Analysis.yields_report _).bind_silent (Analysis.yields_pure _)

/-! ## All values -/

/-- Every list of values has a list of outcomes, one for each value. -/
theorem exists_outcomes (context : RuleContext) (values : List String) :
    ∃ outcomes, List.Forall₂ context.GivesOutcome values outcomes := by
  choose outcomeOf gives using fun value => (context.existsUnique_givesOutcome value).exists
  refine ⟨values.map outcomeOf, List.forall₂_map_right_iff.mpr (List.forall₂_same.mpr ?_)⟩
  exact fun value _ => gives value

/-- The words and the reports of several values are those of each of them, one after the other, and
the words that are there before any of them stay in front. -/
theorem yields_wordsOfAll {values : List String} {outcomes : List ValueOutcome}
    (give : List.Forall₂ context.GivesOutcome values outcomes) (given : List String) :
    (context.wordsOfAll name given values).Yields (given ++ outcomes.flatMap ValueOutcome.words)
      (outcomes.flatMap (ValueOutcome.reports context.rule name)) := by
  -- The words of a value are given to the values after it.
  induction give generalizing given with
  | nil =>
    rw [List.flatMap_nil, List.append_nil]
    exact Analysis.yields_pure given
  | @cons value outcome _ outcomes gives _ ih =>
    rw [List.flatMap_cons, ← List.append_assoc]
    exact (yields_wordsOf gives given).bind (ih (given ++ outcome.words))

/-- The words of a declared list of strings are those of its values one after the other, and so are
the reports. Each value has one outcome, which the other values cannot change. What is declared in
another way or not at all gives no words and no reports. -/
theorem attributeWords_yields_outcomes (context : RuleContext) (name : String) :
    (∀ value, ∃! outcome, context.GivesOutcome value outcome) ∧
      (∀ attr ∈ context.rule.ruleClass.attributes, attr.name = name → attr.type = .stringList →
        ∃ outcomes,
          List.Forall₂ context.GivesOutcome (context.rule.stringListValue name) outcomes ∧
            (context.attributeWords name).Yields (outcomes.flatMap ValueOutcome.words)
              (outcomes.flatMap (ValueOutcome.reports context.rule name))) ∧
      ((∀ attr ∈ context.rule.ruleClass.attributes, attr.name = name → attr.type ≠ .stringList) →
        (context.attributeWords name).Yields [] []) := by
  refine ⟨context.existsUnique_givesOutcome, fun attr member named type => ?_, fun others => ?_⟩
  · have declared : context.rule.ruleClass.hasAttribute name .stringList = true :=
      RuleClass.hasAttribute_iff.mpr ⟨attr, member, named, type⟩
    obtain ⟨outcomes, give⟩ := context.exists_outcomes (context.rule.stringListValue name)
    refine ⟨outcomes, give, ?_⟩
    rw [attributeWords, if_pos declared]
    exact yields_wordsOfAll give []
  · have undeclared : ¬ context.rule.ruleClass.hasAttribute name .stringList = true := by
      intro declared
      obtain ⟨attr, member, named, type⟩ := RuleClass.hasAttribute_iff.mp declared
      exact others attr member named type
    rw [attributeWords, if_neg undeclared]
    exact Analysis.yields_pure []

end RuleContext

namespace Sample

def options : Attribute where
  name := "options"
  type := .stringList

/-- A class whose rules have options and dependencies. -/
def programClass : RuleClass where
  name := "program"
  attributes := [options, { name := "deps", type := .labelList }]
  index := .ofList [("options", 0), ("deps", 1)]
  checked := rfl

/-- A rule with three options. The second one names a variable that is not defined, and its
quotation is not closed. -/
def program : Rule where
  label := ⟨"p", "program", by decide⟩
  ruleClass := programClass
  location := ⟨"p/BUILD", 5, 0⟩
  values := .ofList
    [("options", .stringList ["-I$(PACKAGE) 'a b'", "-o $(CC) 'x", "-g"])]

def programContext : RuleContext :=
  ⟨program, ⟨"target", "target", false, true, ∅⟩, program.label, ∅, ∅⟩

end Sample

/-- The words before the open quotation stay, and the option after it is read as if it were alone.
The dependencies have no words. -/
theorem RuleContext.attributeWords_yields_outcomes_program :
    (Sample.programContext.attributeWords "options").Yields
        ["-Ip", "a b", "-o", "$(CC)", "-g"]
        [Sample.program.attributeDiagnostic .error "options" "$(CC) not defined",
          Sample.program.attributeDiagnostic .error "options" "unterminated quotation"] ∧
      (Sample.programContext.attributeWords "deps").Yields [] [] := by
  let lookup := Sample.programContext.makeVariables
  have first : MakeVariable.StandsFor lookup "-I$(PACKAGE) 'a b'" "-Ip 'a b'" none :=
    .expanded (by decide +kernel)
  have second : MakeVariable.StandsFor lookup "-o $(CC) 'x" "-o $(CC) 'x"
      (some (.undefined "CC")) := .kept (by decide +kernel)
  have third : MakeVariable.StandsFor lookup "-g" "-g" none := .expanded (by decide +kernel)
  have values : Sample.programContext.rule.stringListValue "options" =
      ["-I$(PACKAGE) 'a b'", "-o $(CC) 'x", "-g"] := rfl
  obtain ⟨outcomes, give, yields⟩ :=
    (attributeWords_yields_outcomes Sample.programContext "options").2.1 Sample.options
      List.mem_cons_self rfl rfl
  rw [values] at give
  obtain _ | ⟨givesFirst, _ | ⟨givesSecond, _ | ⟨givesThird, _ | _⟩⟩⟩ := give
  rw [givesFirst.eq first, givesSecond.eq second, givesThird.eq third] at yields
  exact ⟨yields, (attributeWords_yields_outcomes Sample.programContext "deps").2.2 (by decide)⟩

end BuildRules
