import BuildRules.Form.Reading
import BuildRules.Form.Writing
import BuildRules.Proofs.Bindings
import BuildRules.Proofs.RenderedTexts
import BuildRules.Proofs.SpecificationGrammar

/-!
# Written forms are decoded again

The form of a label or of a package specification is its display, which may be another text than
the one it was parsed from: `//a/...` and `//a:__subpackages__` are one specification, and only
the second one is ever written. The form of a configuration is a record with all of its members,
and those of an object can be filled in in any order, so neither the order of the declaration
nor that of the names matters. From each of these forms, as a value and as the text of one, the
decoder gets back what was written.
-/

set_option autoImplicit false

namespace BuildRules

open Json (Value Decoder)

/-! ## Decoding values and texts -/

namespace Json

variable {α : Type}

/-- The decoder makes the item of the form, and also of its rendered text. -/
structure Decodes (decoder : Decoder α) (form : Value) (item : α) : Prop where
  value : form.decode decoder = .ok item
  text : decodeText decoder form.render = .ok item

/-- A plain value is decoded alike from itself and from its text. -/
theorem Decodes.of_plain {decoder : Decoder α} {form : Value} {item : α} {depth : Nat}
    (plain : form.Plain depth) (room : depth < depthLimit) (decoded : decoder form.node = .ok item) :
    Decodes decoder form item where
  value := mapError_eq_ok_iff.mpr decoded
  text := (decodeText_render decoder plain room).trans decoded

/-- A text that is parsed to an item is decoded to it. -/
theorem decodes_parsed {parse : String → Option α} {text : String} {item : α}
    (found : parse text = some item) : Decodes (parsed parse) (.string text) item := by
  have plain : (Value.string text).Plain 0 := .string text
  refine .of_plain plain (by decide) ?_
  rw [Value.node]
  refine bind_eq_ok_iff.mpr ⟨text, rfl, ?_⟩
  rw [found]
  rfl

/-- A record has its members in the order of their names. -/
theorem Value.record_eq (members : List (String × Value)) :
    Value.record members = .object (NameMap.ofList members).entries :=
  congrArg Value.object (NameMap.entries_foldl_insert members NameMap.empty).symm

end Json

/-! ## Labels and package specifications -/

/-- The display form of a label is parsed to the label. -/
theorem Label.parse_display (label : Label) : parse label.display = .ok label :=
  mapError_eq_ok_iff.mpr (read_of_spells .full)

/-- A label is decoded from its form. -/
theorem Label.decodes_form (label : Label) : Json.Decodes decoder label.form label :=
  Json.decodes_parsed (toOption_eq_some_iff.mpr label.parse_display)

namespace PackageSpecification

variable {text : String} {spec : PackageSpecification}

/-- What is parsed of some text is parsed of its own display. -/
theorem parse_display (found : parse text = .ok spec) : parse spec.display = .ok spec := by
  unfold parse at found ⊢
  rw [mapError_eq_ok_iff] at found ⊢
  rcases read_eq_ok_iff.mp found with written | ⟨-, rfl⟩
  · cases written with
    | everything => rfl
    | nothing => rfl
    | everySubpackage => exact read_of_names (.inl rfl) .subpackages
    | named shaped names =>
      -- Of the two ways to name all packages below one, display uses the first.
      cases names with
      | package => exact read_of_names shaped .package
      | subpackages => exact read_of_names shaped .subpackages
      | below _ => exact read_of_names shaped .subpackages
  · exact read_of_names (.inl rfl) .subpackages

/-- A specification that some text is read as is decoded from its form. -/
theorem decodes_form (found : parse text = .ok spec) : Json.Decodes decoder spec.form spec :=
  Json.decodes_parsed (toOption_eq_some_iff.mpr (parse_display found))

end PackageSpecification

/-! ## Configurations -/

namespace Configuration

/-- The members of a configuration in the order of its declaration. -/
def members (configuration : Configuration) : List (String × Value) :=
  [("name", .string configuration.name), ("mnemonic", .string configuration.mnemonic),
    ("host", .bool configuration.isHost), ("build_runfiles", .bool configuration.buildRunfiles),
    ("make_variables",
      .object (configuration.makeVariables.entries.map fun entry => (entry.1, .string entry.2)))]

/-- A record agrees with the configuration in every member that was met. -/
structure AgreesOn (configuration : Configuration) (met : List String) (record : Configuration) :
    Prop where
  name : "name" ∈ met → record.name = configuration.name
  mnemonic : "mnemonic" ∈ met → record.mnemonic = configuration.mnemonic
  isHost : "host" ∈ met → record.isHost = configuration.isHost
  buildRunfiles : "build_runfiles" ∈ met → record.buildRunfiles = configuration.buildRunfiles
  makeVariables : "make_variables" ∈ met → record.makeVariables = configuration.makeVariables

variable (configuration : Configuration)

/-- The make variables of a configuration are decoded from their object. -/
theorem makeVariables_decode :
    Json.mapOf Json.text (Value.object
      (configuration.makeVariables.entries.map fun entry => (entry.1, .string entry.2))).node =
      .ok configuration.makeVariables := by
  have each : ∀ text, Json.text (Value.string text).node = .ok text := by
    intro text
    rw [Value.node]
    rfl
  rw [Json.mapOf_of_forms each, NameMap.ofList_entries]

/-- The members of a configuration are the fields that its reader knows. -/
theorem names_members : configuration.members.map Prod.fst = shape.names := rfl

/-- No member of a configuration is written twice. -/
theorem nodup_names_members : (configuration.members.map Prod.fst).Nodup := by
  rw [names_members]
  decide

/-- Each member that is read makes the record agree with the configuration on one more field. -/
theorem keeps_agreesOn :
    shape.Keeps (· ∈ configuration.members) fun met record => configuration.AgreesOn met record where
  known _ right := configuration.names_members ▸ List.mem_map_of_mem right
  blank := by constructor <;> simp
  fill seen record member agrees right := by
    obtain ⟨name, mnemonic, isHost, buildRunfiles, makeVariables⟩ := agrees
    simp only [members, List.mem_cons, List.not_mem_nil, or_false] at right
    rcases right with rfl | rfl | rfl | rfl | rfl
    · refine ⟨{ record with name := configuration.name }, ?_, ?_⟩
      · rw [Value.node]
        rfl
      · constructor <;> simp <;> assumption
    · refine ⟨{ record with mnemonic := configuration.mnemonic }, ?_, ?_⟩
      · rw [Value.node]
        rfl
      · constructor <;> simp <;> assumption
    · refine ⟨{ record with isHost := configuration.isHost }, ?_, ?_⟩
      · rw [Value.node]
        rfl
      · constructor <;> simp <;> assumption
    · refine ⟨{ record with buildRunfiles := configuration.buildRunfiles }, ?_, ?_⟩
      · rw [Value.node]
        rfl
      · constructor <;> simp <;> assumption
    · refine ⟨{ record with makeVariables := configuration.makeVariables }, ?_, ?_⟩
      · exact bind_eq_ok_iff.mpr ⟨_, configuration.makeVariables_decode, rfl⟩
      · constructor <;> simp <;> assumption

variable {configuration}

/-- Where all members were met nothing of the blank record is left. -/
theorem AgreesOn.eq {met : List String} {record : Configuration}
    (agrees : configuration.AgreesOn met record) (whole : ∀ name ∈ shape.names, name ∈ met) :
    record = configuration := by
  obtain ⟨name, mnemonic, isHost, buildRunfiles, makeVariables⟩ := agrees
  cases record
  cases configuration
  simp only [mk.injEq]
  exact ⟨name (whole _ (by decide)), mnemonic (whole _ (by decide)), isHost (whole _ (by decide)),
    buildRunfiles (whole _ (by decide)), makeVariables (whole _ (by decide))⟩

variable (configuration)

/-- The make variables are a container within that of the members. -/
theorem plain_of_mem_members {member : String × Value} (right : member ∈ configuration.members) :
    member.2.Plain 1 := by
  simp only [members, List.mem_cons, List.not_mem_nil, or_false] at right
  rcases right with rfl | rfl | rfl | rfl | rfl
  · exact .string _
  · exact .string _
  · exact .bool _
  · exact .bool _
  · refine .object fun binding within => ?_
    obtain ⟨entry, -, rfl⟩ := List.mem_map.mp within
    exact .string entry.2

/-- The members may stand in any order. -/
theorem decodes_of_perm {members : List (String × Value)}
    (order : members.Perm configuration.members) :
    Json.Decodes shape.decode (.object members) configuration := by
  have names : (members.map Prod.fst).Perm shape.names := order.map Prod.fst
  have known : ∀ name ∈ shape.required, name ∈ shape.names := by decide
  obtain ⟨met, record, decoded, agrees, same⟩ :=
    configuration.keeps_agreesOn.exists_decode (fun member within => order.mem_iff.mp within)
      (names.nodup_iff.mpr configuration.nodup_names_members)
      fun name needed => names.mem_iff.mpr (known name needed)
  obtain rfl : record = configuration :=
    agrees.eq fun name listed => (same name).mpr (names.mem_iff.mpr listed)
  have plain : (Value.object members).Plain 2 :=
    .object fun member within => record.plain_of_mem_members (order.mem_iff.mp within)
  exact .of_plain plain (by decide) decoded

/-- The form is an object of the members, put into the order of their names. -/
theorem exists_form_eq :
    ∃ members, configuration.form = .object members ∧ members.Perm configuration.members := by
  have ascending : (configuration.makeVariables.entries.map fun entry =>
      (entry.1, Value.string entry.2)).Pairwise fun a b => a.1 < b.1 := by
    rw [List.pairwise_map]
    exact configuration.makeVariables.ascending
  refine ⟨_, ?_, NameMap.perm_entries_ofList configuration.nodup_names_members⟩
  unfold form
  rw [Json.Value.record_eq, Json.Value.record_eq, NameMap.entries_ofList ascending]
  rfl

/-- A configuration is decoded from its form. -/
theorem decodes_form : Json.Decodes shape.decode configuration.form configuration := by
  obtain ⟨members, written, order⟩ := configuration.exists_form_eq
  rw [written]
  exact configuration.decodes_of_perm order

end Configuration

/-! ## The forms together -/

/-- Every label, every package specification that was parsed and every configuration is decoded
again from its form, as a value and as a text. Hence displaying a specification never changes which
packages it admits. -/
theorem forms_decode_to_what_was_written :
    (∀ label : Label, Json.Decodes Label.decoder label.form label) ∧
    (∀ (text : String) (spec : PackageSpecification), PackageSpecification.parse text = .ok spec →
      Json.Decodes PackageSpecification.decoder spec.form spec ∧
        PackageSpecification.parse spec.display = .ok spec ∧
          ∀ package, (PackageSpecification.parse spec.display).map (·.admits package) =
            (PackageSpecification.parse text).map (·.admits package)) ∧
    ∀ configuration : Configuration,
      Json.Decodes Configuration.shape.decode configuration.form configuration ∧
        ∀ members : List (String × Value), members.Perm configuration.members →
          Json.Decodes Configuration.shape.decode (.object members) configuration := by
  refine ⟨Label.decodes_form, fun text spec found => ?_, fun configuration => ?_⟩
  · have again := PackageSpecification.parse_display found
    refine ⟨PackageSpecification.decodes_form found, again, fun package => ?_⟩
    rw [again, found]
  · exact ⟨configuration.decodes_form, fun members order => configuration.decodes_of_perm order⟩

/-- The specification `//a/...` is written as `//a:__subpackages__`, and a configuration is also
decoded from its members in reverse. -/
theorem forms_decode_shorthand_and_reversed :
    (PackageSpecification.parse "//a/..." = .ok (.subpackages "a") ∧
      PackageSpecification.parse "//a:__subpackages__" = .ok (.subpackages "a")) ∧
    Json.Decodes Configuration.shape.decode (.object [
      ("make_variables", .object [("CC", .string "gcc")]), ("build_runfiles", .bool false),
      ("host", .bool true), ("mnemonic", .string "k8-opt"), ("name", .string "opt")])
      ⟨"opt", "k8-opt", true, false, .ofList [("CC", "gcc")]⟩ := by
  have parsed : PackageSpecification.parse "//a/..." = .ok (.subpackages "a") := rfl
  obtain ⟨-, specifications, configurations⟩ := forms_decode_to_what_was_written
  obtain ⟨-, again, -⟩ := specifications _ _ parsed
  have reversed := List.reverse_perm
    (Configuration.members ⟨"opt", "k8-opt", true, false, .ofList [("CC", "gcc")]⟩)
  exact ⟨⟨parsed, again⟩, (configurations _).2 _ reversed⟩

end BuildRules
