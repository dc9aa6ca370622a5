import BuildRules.Proofs.AttributeValues
import BuildRules.Proofs.DecodedValues
import BuildRules.Proofs.LabelGrammar
import BuildRules.Workspace.Values

/-!
# Values as they are written

A value of an attribute can be written in JSON in several ways. A label may be written as
it is displayed, and in its own package also by its name, with or without a colon before
it. An entry of a fileset is an object whose members may stand in any order, and what is
empty may be left out. `WrittenAs` says which JSON values write a value, without the
decoder. Each of them is read as that value again, and whatever is read has the type that
was asked for, so that it can be set for an attribute of this type.
-/

set_option autoImplicit false

namespace BuildRules

open Json (Value)

/-! ## The JSON forms of values -/

/-- The text names the label in a package: as it is displayed, or by its name in its own package. -/
def Label.WrittenIn (package : String) (label : Label) (text : String) : Prop :=
  text = label.display ∨
    label.package = package ∧ (text = ":" ++ label.name ∨ text = label.name)

/-- What a single member of an object may say of a fileset entry. -/
inductive FilesetEntry.Member (package : String) (entry : FilesetEntry) : String × Value → Prop
  | source {text : String} (written : entry.source.WrittenIn package text) :
      Member package entry ("srcdir", .string text)
  | files {labels : List Label} {texts : List String} (listed : entry.files = some labels)
      (written : List.Forall₂ (Label.WrittenIn package) labels texts) :
      Member package entry ("files", .array (texts.map .string))
  | noFiles (unlisted : entry.files = none) : Member package entry ("files", .null)
  | destination : Member package entry ("destdir", .string entry.destination)
  | noDestination (empty : entry.destination = "") : Member package entry ("destdir", .null)
  | excludes : Member package entry ("excludes", .array (entry.excludes.map .string))

/-- The members write the fileset entry: each of them is right and none occurs twice, and only what
is empty is left out. -/
structure FilesetEntry.WrittenAs (package : String) (entry : FilesetEntry)
    (members : List (String × Value)) : Prop where
  right : ∀ member ∈ members, entry.Member package member
  distinct : (members.map Prod.fst).Nodup
  source : "srcdir" ∈ members.map Prod.fst
  files : entry.files = none ∨ "files" ∈ members.map Prod.fst
  destination : entry.destination = "" ∨ "destdir" ∈ members.map Prod.fst
  excludes : entry.excludes = [] ∨ "excludes" ∈ members.map Prod.fst

/-- The entry with every label displayed and nothing left out. -/
def FilesetEntry.toMembers (entry : FilesetEntry) : List (String × Value) :=
  [("srcdir", .string entry.source.display),
    ("files", (entry.files.map fun labels =>
      Value.array ((labels.map Label.display).map .string)).getD .null),
    ("destdir", .string entry.destination), ("excludes", .array (entry.excludes.map .string))]

/-- The JSON value writes the value of an attribute in a package. -/
inductive AttributeValue.WrittenAs (package : String) : AttributeValue → Value → Prop
  | label {target : Label} {text : String} (written : target.WrittenIn package text) :
      WrittenAs package (.label (some target)) (.string text)
  | noLabel : WrittenAs package (.label none) .null
  | nodepLabel {target : Label} {text : String} (written : target.WrittenIn package text) :
      WrittenAs package (.nodepLabel (some target)) (.string text)
  | noNodepLabel : WrittenAs package (.nodepLabel none) .null
  | labelList {labels : List Label} {texts : List String}
      (written : List.Forall₂ (Label.WrittenIn package) labels texts) :
      WrittenAs package (.labelList labels) (.array (texts.map .string))
  | string (text : String) : WrittenAs package (.string text) (.string text)
  | stringList (texts : List String) :
      WrittenAs package (.stringList texts) (.array (texts.map .string))
  | bool (flag : Bool) : WrittenAs package (.bool flag) (.bool flag)
  | filesetEntries {entries : List FilesetEntry} {objects : List (List (String × Value))}
      (written : List.Forall₂ (FilesetEntry.WrittenAs package) entries objects) :
      WrittenAs package (.filesetEntries entries) (.array (objects.map .object))

/-- The value as it is written with every label displayed and nothing left out. -/
def AttributeValue.toJson : AttributeValue → Value
  | .label none | .nodepLabel none => .null
  | .label (some target) | .nodepLabel (some target) => .string target.display
  | .labelList labels => .array ((labels.map Label.display).map .string)
  | .string text => .string text
  | .stringList texts => .array (texts.map .string)
  | .bool flag => .bool flag
  | .filesetEntries entries => .array ((entries.map FilesetEntry.toMembers).map .object)

/-- The members of an entry are fields that its reader knows. -/
theorem FilesetEntry.Member.mem_names {package : String} {entry : FilesetEntry} {name : String}
    {value : Value} (member : entry.Member package (name, value)) :
    name ∈ WrittenFilesetEntry.shape.names := by
  cases member <;> simp [WrittenFilesetEntry.shape]

/-! ## Labels -/

/-- The name of a label is no absolute text. -/
theorem Label.not_isAbsolute_name (label : Label) : ¬ IsAbsolute label.name := by
  intro absolute
  obtain ⟨rest, written⟩ := isAbsolute_iff.mp absolute
  have formed := label.wellFormed
  simp [isLabel, isNameText, isPathOver, written, Text.pieces] at formed

/-- A name after a colon is no absolute text either. -/
theorem Label.not_isAbsolute_colon_name (label : Label) : ¬ IsAbsolute (":" ++ label.name) := by
  intro absolute
  obtain ⟨rest, written⟩ := isAbsolute_iff.mp absolute
  rw [String.toList_append] at written
  cases written

/-- Labels may be written in their display form in every package. -/
theorem Label.forall₂_display (package : String) (labels : List Label) :
    List.Forall₂ (WrittenIn package) labels (labels.map display) := by
  rw [List.forall₂_map_right_iff]
  exact List.forall₂_same.mpr fun label _ => .inl rfl

/-- A label is read from every text that names it in the package. -/
theorem AttributeValue.labelIn_of_writtenIn {package text : String} {label : Label}
    (written : label.WrittenIn package text) : labelIn package text = .ok label := by
  unfold labelIn Label.parseIn
  rw [mapError_eq_ok_iff, mapError_eq_ok_iff]
  rcases written with rfl | ⟨samePackage, rfl | rfl⟩
  · have absolute : Label.IsAbsolute label.display := by
      refine ⟨label.package ++ ":" ++ label.name, ?_⟩
      simp only [Label.display, String.append_assoc]
    rw [Label.readIn_of_isAbsolute absolute]
    exact Label.read_of_spells .full
  · rw [Label.readIn_of_not_isAbsolute label.not_isAbsolute_colon_name]
    exact ⟨samePackage, .inr rfl⟩
  · rw [Label.readIn_of_not_isAbsolute label.not_isAbsolute_name]
    exact ⟨samePackage, .inl rfl⟩

/-- Labels that are written in a package are read back in it. -/
theorem AttributeValue.mapM_labelIn {package : String} {labels : List Label}
    {texts : List String} (written : List.Forall₂ (Label.WrittenIn package) labels texts) :
    texts.mapM (labelIn package) = .ok labels := by
  apply mapM_of_forall₂
  exact written.flip.imp fun text label => labelIn_of_writtenIn

/-! ## Fileset entries -/

/-- The record says what the members met so far say of the entry, and nothing of the others. -/
structure WrittenFilesetEntry.Follows (package : String) (entry : FilesetEntry)
    (seen : List String) (record : WrittenFilesetEntry) : Prop where
  source : "srcdir" ∈ seen → entry.source.WrittenIn package record.source
  files : "files" ∈ seen →
    Option.Rel (List.Forall₂ (Label.WrittenIn package)) entry.files record.files
  noFiles : "files" ∉ seen → record.files = none
  destination : "destdir" ∈ seen → record.destination.getD "" = entry.destination
  noDestination : "destdir" ∉ seen → record.destination = none
  excludes : "excludes" ∈ seen → record.excludes = entry.excludes
  noExcludes : "excludes" ∉ seen → record.excludes = []

namespace WrittenFilesetEntry

variable {package : String} {entry : FilesetEntry}

/-- Before any member is read, the blank record follows the entry. -/
theorem follows_blank : shape.blank.Follows package entry [] := by
  constructor <;> simp [shape]

/-- A right member is filled into the record, which follows it from then on. -/
theorem Follows.fill {seen : List String} {record : WrittenFilesetEntry}
    (follows : record.Follows package entry seen) {name : String} {value : Value}
    (member : entry.Member package (name, value)) :
    ∃ next, shape.fill record name value.node = .ok next ∧
      next.Follows package entry (name :: seen) := by
  obtain ⟨source, files, noFiles, destination, noDestination, excludes, noExcludes⟩ := follows
  cases member with
  | @source text written =>
    refine ⟨{ record with source := text }, ?_, ?_⟩
    · rw [Value.node]
      rfl
    · constructor <;> simp <;> assumption
  | @files labels texts listed written =>
    refine ⟨{ record with files := some texts }, ?_, ?_⟩
    · have decoded := Json.listOf_text texts
      rw [Value.node] at decoded ⊢
      simp only [shape, Json.orNull, decoded]
      rfl
    · have related :
          Option.Rel (List.Forall₂ (Label.WrittenIn package)) entry.files (some texts) := by
        rw [listed]
        exact .some written
      constructor <;> simp <;> assumption
  | noFiles unlisted =>
    refine ⟨{ record with files := none }, ?_, ?_⟩
    · rw [Value.node]
      rfl
    · have related : Option.Rel (List.Forall₂ (Label.WrittenIn package)) entry.files none := by
        rw [unlisted]
        exact .none
      constructor <;> simp <;> assumption
  | destination =>
    refine ⟨{ record with destination := some entry.destination }, ?_, ?_⟩
    · rw [Value.node]
      rfl
    · constructor <;> simp <;> assumption
  | noDestination empty =>
    refine ⟨{ record with destination := none }, ?_, ?_⟩
    · rw [Value.node]
      rfl
    · have same : "" = entry.destination := empty.symm
      constructor <;> simp <;> assumption
  | excludes =>
    refine ⟨{ record with excludes := entry.excludes }, ?_, ?_⟩
    · have decoded := Json.listOf_text entry.excludes
      simp only [shape, decoded]
      rfl
    · constructor <;> simp <;> assumption

/-- Each member that is read makes the record follow the entry on one more field. -/
theorem keeps_follows (package : String) (entry : FilesetEntry) :
    shape.Keeps (entry.Member package) fun seen record => record.Follows package entry seen where
  known _ member := member.mem_names
  blank := follows_blank
  fill _ _ _ follows member := follows.fill member

/-- Of a record that says all of an entry the entry is read. -/
theorem filesetEntryIn_of_right {record : WrittenFilesetEntry}
    (source : entry.source.WrittenIn package record.source)
    (files : Option.Rel (List.Forall₂ (Label.WrittenIn package)) entry.files record.files)
    (destination : record.destination.getD "" = entry.destination)
    (excludes : record.excludes = entry.excludes) :
    AttributeValue.filesetEntryIn package record = .ok entry := by
  obtain ⟨expected, listed, place, left⟩ := entry
  obtain ⟨text, texts, written, names⟩ := record
  dsimp only at source files destination excludes
  subst destination excludes
  unfold AttributeValue.filesetEntryIn
  refine bind_eq_ok_iff.mpr ⟨expected, AttributeValue.labelIn_of_writtenIn source, ?_⟩
  cases files with
  | none => rfl
  | some each =>
    dsimp only
    rw [AttributeValue.mapM_labelIn each]
    rfl

/-- An object that writes an entry is decoded to a record, of which the entry is read. -/
theorem exists_decode_of_writtenAs {members : List (String × Value)}
    (written : entry.WrittenAs package members) :
    ∃ record, shape.decode (Value.object members).node = .ok record ∧
      AttributeValue.filesetEntryIn package record = .ok entry := by
  obtain ⟨right, distinct, source, files, destination, excludes⟩ := written
  have required : ∀ name ∈ shape.required, name ∈ members.map Prod.fst := by
    simpa [shape] using source
  obtain ⟨met, record, decoded, follows, names⟩ :=
    (keeps_follows package entry).exists_decode right distinct required
  simp only [← names] at source files destination excludes
  refine ⟨record, decoded, ?_⟩
  -- What was left out is empty in the entry, and the record is blank there.
  apply filesetEntryIn_of_right (follows.source source)
  · by_cases listed : "files" ∈ met
    · exact follows.files listed
    · rw [follows.noFiles listed, files.resolve_right listed]
      exact .none
  · by_cases placed : "destdir" ∈ met
    · exact follows.destination placed
    · rw [follows.noDestination placed, destination.resolve_right placed]
      rfl
  · by_cases excluded : "excludes" ∈ met
    · exact follows.excludes excluded
    · rw [follows.noExcludes excluded, excludes.resolve_right excluded]

/-- The objects that write the entries of a list are decoded to records, of which they are read. -/
theorem exists_listOf_decode_of_writtenAs {entries : List FilesetEntry}
    {objects : List (List (String × Value))}
    (written : List.Forall₂ (FilesetEntry.WrittenAs package) entries objects) :
    ∃ records,
      Json.listOf shape.decode (Value.array (objects.map .object)).node = .ok records ∧
        records.mapM (AttributeValue.filesetEntryIn package) = .ok entries := by
  have each : ∃ records,
      List.Forall₂ (fun object record => shape.decode (Value.object object).node = .ok record)
        objects records ∧
      List.Forall₂ (fun record entry => AttributeValue.filesetEntryIn package record = .ok entry)
        records entries := by
    induction written with
    | nil => exact ⟨[], .nil, .nil⟩
    | cons head _ ih =>
      obtain ⟨record, decoded, isRead⟩ := exists_decode_of_writtenAs head
      obtain ⟨records, others, rest⟩ := ih
      exact ⟨record :: records, .cons decoded others, .cons isRead rest⟩
  obtain ⟨records, decoded, areRead⟩ := each
  refine ⟨records, Json.listOf_of_forall₂ ?_, mapM_of_forall₂ areRead⟩
  rwa [List.forall₂_map_left_iff]

end WrittenFilesetEntry

/-! ## Values -/

/-- An entry is written by its members. -/
theorem FilesetEntry.writtenAs_toMembers (package : String) (entry : FilesetEntry) :
    entry.WrittenAs package entry.toMembers := by
  constructor
  · intro member written
    simp only [toMembers, List.mem_cons, List.not_mem_nil, or_false] at written
    rcases written with rfl | rfl | rfl | rfl
    · exact .source (.inl rfl)
    · cases listed : entry.files with
      | none => exact .noFiles listed
      | some labels => exact .files listed (Label.forall₂_display package labels)
    · exact .destination
    · exact .excludes
  all_goals simp [toMembers]

namespace AttributeValue

variable {package : String} {value : AttributeValue} {json : Value}

/-- Each of the texts that a value is written with is a JSON string of the list. -/
theorem mapM_listedLabel {labels : List Label} {texts : List String} (type : AttributeType)
    (written : List.Forall₂ (Label.WrittenIn package) labels texts) :
    (texts.map Value.string).mapM (listedLabel type package) = .ok labels := by
  apply mapM_of_forall₂
  rw [List.forall₂_map_left_iff]
  exact written.flip.imp fun text label => labelIn_of_writtenIn

/-- A list of texts is read back from their values. -/
theorem mapM_stringItem? (texts : List String) :
    (texts.map Value.string).mapM stringItem? = some texts := by
  induction texts with
  | nil => rfl
  | cons first rest ih =>
    rw [List.map_cons, List.mapM_cons, ih]
    rfl

/-- A value is read from whatever writes it. -/
theorem ofJson_of_writtenAs (written : value.WrittenAs package json) :
    ofJson value.type package json = .ok value := by
  cases written with
  | label named =>
    simp only [type, ofJson, optionalLabel, labelIn_of_writtenIn named]
    rfl
  | noLabel => rfl
  | nodepLabel named =>
    simp only [type, ofJson, optionalLabel, labelIn_of_writtenIn named]
    rfl
  | noNodepLabel => rfl
  | labelList named =>
    simp only [type, ofJson, mapM_listedLabel .labelList named]
    rfl
  | string text => rfl
  | stringList texts => simp only [type, ofJson, mapM_stringItem?]
  | bool flag => rfl
  | filesetEntries listed =>
    obtain ⟨records, decoded, areRead⟩ :=
      WrittenFilesetEntry.exists_listOf_decode_of_writtenAs listed
    simp only [type, ofJson, Json.Value.decode, decoded, Except.mapError, areRead]
    rfl

/-- What is read as a value of a type is one. -/
theorem type_of_ofJson {type : AttributeType} (found : ofJson type package json = .ok value) :
    value.type = type := by
  unfold ofJson at found
  split at found
  · obtain ⟨target, -, rfl⟩ := map_eq_ok_iff.mp found
    rfl
  · obtain ⟨target, -, rfl⟩ := map_eq_ok_iff.mp found
    rfl
  · obtain ⟨labels, -, rfl⟩ := map_eq_ok_iff.mp found
    rfl
  · cases found
    rfl
  · split at found
    · cases found
      rfl
    · cases found
  · cases found
    rfl
  · split at found
    · obtain ⟨entries, -, rfl⟩ := map_eq_ok_iff.mp found
      rfl
    · cases found
  · cases found

/-- A value is written by its own form. -/
theorem writtenAs_toJson (package : String) (value : AttributeValue) :
    value.WrittenAs package value.toJson := by
  cases value with
  | label target =>
    cases target with
    | none => exact .noLabel
    | some target => exact .label (.inl rfl)
  | nodepLabel target =>
    cases target with
    | none => exact .noNodepLabel
    | some target => exact .nodepLabel (.inl rfl)
  | labelList labels => exact .labelList (Label.forall₂_display package labels)
  | string text => exact .string text
  | stringList texts => exact .stringList texts
  | bool flag => exact .bool flag
  | filesetEntries entries =>
    apply WrittenAs.filesetEntries
    rw [List.forall₂_map_right_iff]
    exact List.forall₂_same.mpr fun entry _ => entry.writtenAs_toMembers package

/-- A value is read from every JSON value that writes it in a package, and each value is written
there, if only with its labels displayed. Whatever JSON value is read as a value of a type yields
one of that type, and so it can be set for each attribute that is declared with the type. -/
theorem ofJson_reads_what_is_written :
    (∀ (package : String) (value : AttributeValue) (json : Value),
      value.WrittenAs package json → ofJson value.type package json = .ok value) ∧
    (∀ (package : String) (value : AttributeValue), value.WrittenAs package value.toJson) ∧
    (∀ (type : AttributeType) (package : String) (json : Value) (value : AttributeValue),
      ofJson type package json = .ok value → value.type = type) ∧
    ∀ (rule : Rule) (attr : Attribute) (package : String) (json : Value) (value : AttributeValue),
      attr ∈ rule.ruleClass.attributes → ofJson attr.type package json = .ok value →
        (Rule.setValue attr.name value).start rule =
          (.ok (), rule.withValue (attr.name, value)) := by
  refine ⟨?_, writtenAs_toJson, ?_, ?_⟩
  · intro package value json written
    exact ofJson_of_writtenAs written
  · intro type package json value found
    exact type_of_ofJson found
  · intro rule attr package json value declared found
    have takes : rule.ruleClass.Takes (attr.name, value) :=
      ⟨attr, declared, rfl, type_of_ofJson found⟩
    exact Rule.start_setValue_of_takes takes

/-- The files of an entry may come first, and a label of the package needs no package. -/
example :
    (ofJson .filesetEntryList "p" (.array [.object [
      ("files", .array [.string ":a", .string "//q:b"]), ("srcdir", .string "tree")]])).toOption =
      some (.filesetEntries [⟨⟨"p", "tree", by decide⟩,
        some [⟨"p", "a", by decide⟩, ⟨"q", "b", by decide⟩], "", []⟩]) := by
  decide

end AttributeValue

end BuildRules
