import BuildRules.PackageSpecification
import BuildRules.Proofs.LabelGrammar

/-!
# The grammar of package specifications

A specification is one of three fixed texts, or it names a package before one of three
endings. Labels exclude `.` and `..` from the components of a package. Specifications do
not: their packages are over the alphabet of packages and nothing more is asked of them.
So `//a/..:__pkg__` is read, and it admits a package that no label is in; and `///...`,
with nothing between the slashes, is read as `//...`, and it admits every package.
-/

set_option autoImplicit false

namespace BuildRules

/-- Some label is in the package. -/
def Label.AcceptsPackage (package : String) : Prop :=
  ∃ name label, Label.make package name = .ok label

/-- A package by its letters alone: `.` and `..` are components like any other. -/
def IsPackageShaped (package : String) : Prop :=
  package = "" ∨ IsPathOf (IsWordOver IsPackageLetter) package

/-- The texts that have the shape of packages are those that pass as packages. -/
theorem isPackageShaped_iff (package : String) :
    IsPackageShaped package ↔ isPackageText package = true := by
  have noSlash : ¬ IsPackageLetter '/' := not_isPackageLetter_of_separator (.inl rfl)
  unfold IsPackageShaped isPackageText
  rw [isPathOf_iff fun part word => word.not_mem noSlash, Bool.or_eq_true, String.isEmpty_iff,
    isPathOver_iff isPackageChar_iff]

/-- A package that no label is in because of the dots among its components. -/
def IsDottedPackage (package : String) : Prop :=
  IsPackageShaped package ∧ ∃ component ∈ Text.components package, IsDots component

/-- A package of a specification is one of labels when it has no dots among its components. -/
theorem acceptsPackage_iff (package : String) :
    Label.AcceptsPackage package ↔
      IsPackageShaped package ∧ ∀ component ∈ Text.components package, ¬ IsDots component := by
  rw [isPackageShaped_iff, ← hasDotComponent_eq_false_iff, ← isPackage_iff]
  constructor
  · rintro ⟨name, label, made⟩
    obtain ⟨rfl, -⟩ := Label.ofParts_eq_ok_iff.mp (mapError_eq_ok_iff.mp made)
    exact label.formsLabel.package
  · intro isPackage
    have name : IsPathOf (IsComponentOver IsNameLetter) "all" := by
      rw [isPathOf_componentOver_iff isNameChar_iff (not_isNameLetter_of_separator (.inl rfl))]
      decide
    exact ⟨"all", ⟨package, "all", (isLabel_iff _ _).mpr ⟨isPackage, name⟩⟩,
      mapError_eq_ok_iff.mpr (Label.ofParts_eq_ok_iff.mpr ⟨rfl, rfl⟩)⟩

/-- A text with the shape of a package is a package or has a component of dots. -/
theorem acceptsPackage_or_isDottedPackage {package : String} (shaped : IsPackageShaped package) :
    Label.AcceptsPackage package ∨ IsDottedPackage package := by
  by_cases dotted : ∃ component ∈ Text.components package, IsDots component
  · exact .inr ⟨shaped, dotted⟩
  · push Not at dotted
    exact .inl ((acceptsPackage_iff package).mpr ⟨shaped, dotted⟩)

/-- A text with a component of dots is no package. -/
theorem IsDottedPackage.not_acceptsPackage {package : String} (dotted : IsDottedPackage package) :
    ¬ Label.AcceptsPackage package := by
  obtain ⟨-, component, member, dots⟩ := dotted
  exact fun accepted => ((acceptsPackage_iff package).mp accepted).2 component member dots

namespace PackageSpecification

/-- A specification that names a package, as it is written. -/
inductive Names (path : String) : PackageSpecification → String → Prop
  | package : Names path (.package path) ("//" ++ path ++ ":__pkg__")
  | subpackages : Names path (.subpackages path) ("//" ++ path ++ ":__subpackages__")
  | below (nonempty : path ≠ "") : Names path (.subpackages path) ("//" ++ path ++ "/...")

/-- The written forms of specifications, for the packages of a kind. -/
inductive Written (isPackage : String → Prop) : PackageSpecification → String → Prop
  | everything : Written isPackage .everything "//visibility:public"
  | nothing : Written isPackage .nothing "//visibility:private"
  | everySubpackage : Written isPackage (.subpackages "") "//..."
  | named {path text : String} {spec : PackageSpecification} (package : isPackage path)
      (names : Names path spec text) : Written isPackage spec text

/-- What is read although it is no written form for the packages of labels. -/
inductive Misread : PackageSpecification → String → Prop
  | dotted {path text : String} {spec : PackageSpecification} (package : IsDottedPackage path)
      (names : Names path spec text) : Misread spec text
  | belowNothing : Misread (.subpackages "") "///..."

/-- A path is taken as a package exactly if it has the shape of one. -/
theorem withPackage_eq_ok_iff {form : String → PackageSpecification} {path : List Char}
    {spec : PackageSpecification} :
    withPackage form path = .ok spec ↔
      IsPackageShaped (String.ofList path) ∧ spec = form (String.ofList path) := by
  unfold withPackage
  rw [isPackageShaped_iff]
  split
  · rename_i shaped
    simp only [shaped, true_and, Except.ok.injEq, eq_comm]
  · rename_i shapeless
    simp [shapeless]

/-- The characters of a path that is written with an ending. -/
theorem toList_ending (path ending : String) :
    ("//" ++ path ++ ending).toList = '/' :: '/' :: (path.toList ++ ending.toList) := by
  simp only [String.toList_append, List.append_assoc]
  rfl

variable {text : String} {spec : PackageSpecification}

/-- A text from which an ending can be cut off is a path with this ending. -/
theorem eq_of_ending {rest path : List Char} {ending : String}
    (absolute : text.toList = '/' :: '/' :: rest)
    (cut : Text.withoutEnding? ending.toList rest = some path) :
    text = "//" ++ String.ofList path ++ ending := by
  rw [← String.toList_inj, absolute, toList_ending, String.toList_ofList,
    Text.withoutEnding?_eq_some_iff.mp cut]

/-- A text that is read as a specification is written as one, or it is the one of all that lies
below the root. -/
theorem written_of_read (found : read text = .ok spec) :
    Written IsPackageShaped spec text ∨ text = "///..." ∧ spec = .subpackages "" := by
  unfold read at found
  split at found
  · rename_i isPublic
    cases found
    exact .inl (isPublic ▸ .everything)
  split at found
  · rename_i isPrivate
    cases found
    exact .inl (isPrivate ▸ .nothing)
  split at found
  · rename_i rest absolute
    split at found
    · rename_i path cut
      obtain ⟨shaped, rfl⟩ := withPackage_eq_ok_iff.mp found
      exact .inl (.named shaped (eq_of_ending absolute cut ▸ .package))
    split at found
    · rename_i path cut
      obtain ⟨shaped, rfl⟩ := withPackage_eq_ok_iff.mp found
      exact .inl (.named shaped (eq_of_ending absolute cut ▸ .subpackages))
    split at found
    · rename_i dots
      cases found
      have whole : text = "//..." := by
        rw [← String.toList_inj, absolute, dots]
        rfl
      exact .inl (whole ▸ .everySubpackage)
    split at found
    · rename_i path cut
      obtain ⟨shaped, rfl⟩ := withPackage_eq_ok_iff.mp found
      have whole := eq_of_ending absolute cut
      -- The other two endings may follow the package at the root, this one may not.
      by_cases nonempty : String.ofList path = ""
      · rw [nonempty] at whole ⊢
        exact .inr ⟨whole, rfl⟩
      · exact .inl (.named shaped (whole ▸ .below nonempty))
    · cases found
  · cases found

/-- A text with an ending is no fixed text without it. -/
theorem not_fixed_of_ending {path ending fixed : String}
    (apart : ¬ ending.toList <:+ fixed.toList) : "//" ++ path ++ ending ≠ fixed := by
  rintro rfl
  rw [toList_ending] at apart
  exact apart ⟨'/' :: '/' :: path.toList, by simp⟩

/-- A path with the shape of a package is taken as one. -/
theorem withPackage_of_shaped {form : String → PackageSpecification} {path : String}
    (shaped : IsPackageShaped path) : withPackage form path.toList = .ok (form path) := by
  rw [withPackage_eq_ok_iff, String.ofList_toList]
  exact ⟨shaped, rfl⟩

/-- A text that names a path with the shape of a package is read as what it names. -/
theorem read_of_names {path : String} (shaped : IsPackageShaped path)
    (names : Names path spec text) : read text = .ok spec := by
  cases names with
  | package =>
    unfold read
    rw [if_neg (not_fixed_of_ending (by decide)), if_neg (not_fixed_of_ending (by decide)),
      toList_ending]
    simp only [Text.withoutEnding?_append]
    exact withPackage_of_shaped shaped
  | subpackages =>
    have noPackage : Text.withoutEnding? ":__pkg__".toList
        (path.toList ++ ":__subpackages__".toList) = none :=
      Text.withoutEnding?_append_of_not_suffix _ (by decide) (by decide)
    unfold read
    rw [if_neg (not_fixed_of_ending (by decide)), if_neg (not_fixed_of_ending (by decide)),
      toList_ending]
    simp only [noPackage, Text.withoutEnding?_append]
    exact withPackage_of_shaped shaped
  | below nonempty =>
    have noPackage : Text.withoutEnding? ":__pkg__".toList (path.toList ++ "/...".toList) = none :=
      Text.withoutEnding?_append_of_not_suffix _ (by decide) (by decide)
    have noSubpackages : Text.withoutEnding? ":__subpackages__".toList
        (path.toList ++ "/...".toList) = none :=
      Text.withoutEnding?_append_of_not_suffix _ (by decide) (by decide)
    have notDots : path.toList ++ "/...".toList ≠ ['.', '.', '.'] := by
      intro dots
      have slash : '/' ∈ path.toList ++ "/...".toList := by simp
      rw [dots] at slash
      exact absurd slash (by decide)
    unfold read
    rw [if_neg (not_fixed_of_ending (by decide)), if_neg (not_fixed_of_ending (by decide)),
      toList_ending]
    simp only [noPackage, noSubpackages, if_neg notDots, Text.withoutEnding?_append]
    exact withPackage_of_shaped shaped

/-- The written forms for all packages over the alphabet are read, and one text besides. -/
theorem read_eq_ok_iff :
    read text = .ok spec ↔
      Written IsPackageShaped spec text ∨ text = "///..." ∧ spec = .subpackages "" := by
  refine ⟨written_of_read, ?_⟩
  rintro (written | ⟨rfl, rfl⟩)
  · cases written with
    | everything => rfl
    | nothing => rfl
    | everySubpackage => rfl
    | named shaped names => exact read_of_names shaped names
  · rfl

/-- What is written over some packages is written over all texts that include them. -/
theorem Written.mono {isPackage other : String → Prop} (written : Written isPackage spec text)
    (weaker : ∀ path, isPackage path → other path) : Written other spec text := by
  cases written with
  | everything => exact .everything
  | nothing => exact .nothing
  | everySubpackage => exact .everySubpackage
  | named package names => exact .named (weaker _ package) names

/-- Nothing stands between the slashes of `///...`, so it is no written form for any packages. -/
theorem not_written_belowNothing {isPackage : String → Prop} :
    ¬ Written isPackage (.subpackages "") "///..." := by
  intro written
  generalize whole : "///..." = text at written
  cases written with
  | everySubpackage => exact absurd whole (by decide)
  | named _ names =>
    cases names with
    | subpackages => exact absurd whole (by decide)
    | below nonempty => exact nonempty rfl

/-- What names a path is the package or the packages below it. -/
theorem Names.spec_eq {path : String} (names : Names path spec text) :
    spec = .package path ∨ spec = .subpackages path := by
  cases names with
  | package => exact .inl rfl
  | subpackages => exact .inr rfl
  | below _ => exact .inr rfl

/-- A specification names one package, however it is written. -/
theorem Names.path_eq {path other otherText : String} (names : Names path spec text)
    (others : Names other spec otherText) : path = other := by
  rcases names.spec_eq with rfl | rfl
  · simpa using others.spec_eq
  · simpa using others.spec_eq

/-- The empty package has no component of dots. -/
theorem not_isDottedPackage_empty : ¬ IsDottedPackage "" := by
  rintro ⟨-, component, member, dots⟩
  exact (hasDotComponent_eq_false_iff "").mp rfl component member dots

/-- A text that names a path with a component of dots writes no specification over packages. -/
theorem Names.not_written_of_dotted {path : String} (names : Names path spec text)
    (dotted : IsDottedPackage path) : ¬ Written Label.AcceptsPackage spec text := by
  intro written
  cases written with
  | everything => cases names
  | nothing => cases names
  | everySubpackage =>
    have empty : path = "" := by simpa using names.spec_eq.symm
    exact not_isDottedPackage_empty (empty ▸ dotted)
  | named accepted others => exact dotted.not_acceptsPackage (names.path_eq others ▸ accepted)

/-- A text that is misread writes no specification over packages. -/
theorem Misread.not_written (misread : Misread spec text) :
    ¬ Written Label.AcceptsPackage spec text := by
  cases misread with
  | dotted package names => exact names.not_written_of_dotted package
  | belowNothing => exact not_written_belowNothing

/-- What is written over texts with the shape of packages is written over packages, or misread. -/
theorem Written.written_or_misread (written : Written IsPackageShaped spec text) :
    Written Label.AcceptsPackage spec text ∨ Misread spec text := by
  cases written with
  | everything => exact .inl .everything
  | nothing => exact .inl .nothing
  | everySubpackage => exact .inl .everySubpackage
  | named shaped names =>
    exact (acceptsPackage_or_isDottedPackage shaped).imp (.named · names) (.dotted · names)

/-- Parsing accepts the written forms for the packages of labels and, apart from these, what is
misread: the same forms for packages with dots among their components, and `///...`. -/
theorem parse_eq_ok_iff_written_or_misread (text : String) (spec : PackageSpecification) :
    (parse text = .ok spec ↔ Written Label.AcceptsPackage spec text ∨ Misread spec text) ∧
      ¬ (Written Label.AcceptsPackage spec text ∧ Misread spec text) := by
  refine ⟨mapError_eq_ok_iff.trans (read_eq_ok_iff.trans ⟨?_, ?_⟩), fun both =>
    both.2.not_written both.1⟩
  · rintro (written | ⟨rfl, rfl⟩)
    · exact written.written_or_misread
    · exact .inr .belowNothing
  · rintro (written | misread)
    · exact .inl (written.mono fun path accepted => ((acceptsPackage_iff path).mp accepted).1)
    · cases misread with
      | dotted package names => exact .inl (.named package.1 names)
      | belowNothing => exact .inr ⟨rfl, rfl⟩

/-- Two texts that are read although they are no written form for the packages of labels. -/
theorem parse_accepts_unwritten :
    (parse "///..." = .ok (.subpackages "") ∧
      ¬ Written Label.AcceptsPackage (.subpackages "") "///...") ∧
    parse "//a/..:__pkg__" = .ok (.package "a/..") ∧
      ¬ Written Label.AcceptsPackage (.package "a/..") "//a/..:__pkg__" := by
  have shaped : IsPackageShaped "a/.." := (isPackageShaped_iff _).mpr rfl
  have dotted : IsDottedPackage "a/.." := ⟨shaped, "..", by decide, .inr rfl⟩
  exact ⟨⟨rfl, not_written_belowNothing⟩, rfl, Names.package.not_written_of_dotted dotted⟩

end PackageSpecification

end BuildRules
