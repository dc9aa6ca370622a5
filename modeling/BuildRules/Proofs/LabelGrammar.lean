import BuildRules.Proofs.Outcomes
import BuildRules.Proofs.TextCuts

/-!
# The grammar of labels

The texts that are read as labels are stated here without the reader: a package is empty
or a path over one alphabet, a name is a path over a larger one, and in neither of them
a component is `.` or `..`. Reading accepts what display writes and the short form
`//package`, and nothing else; inside a package it accepts the name as well, with or
without a colon before it.
-/

set_option autoImplicit false

namespace BuildRules

/-! ## Alphabets and components -/

def IsPackageLetter (c : Char) : Prop :=
  ('A' ≤ c ∧ c ≤ 'Z') ∨ ('a' ≤ c ∧ c ≤ 'z') ∨ ('0' ≤ c ∧ c ≤ '9') ∨ c ∈ ['_', '.', '+', '-']

def IsNameLetter (c : Char) : Prop :=
  IsPackageLetter c ∨ c ∈ ['=', ',', '@', '~', '#', '%', '^', '&', '!']

/-- One or more letters. -/
def IsWordOver (isLetter : Char → Prop) (word : String) : Prop :=
  word ≠ "" ∧ ∀ c ∈ word.toList, isLetter c

/-- A component that would lead out of its directory, or nowhere. -/
def IsDots (component : String) : Prop := component = "." ∨ component = ".."

def IsComponentOver (isLetter : Char → Prop) (component : String) : Prop :=
  IsWordOver isLetter component ∧ ¬ IsDots component

/-- The package at the root is empty, every other one is a path. -/
def IsPackage (package : String) : Prop :=
  package = "" ∨ IsPathOf (IsComponentOver IsPackageLetter) package

/-- A package and a name of which a label can be made. -/
structure FormsLabel (package name : String) : Prop where
  package : IsPackage package
  name : IsPathOf (IsComponentOver IsNameLetter) name

/-- The characters that are taken in packages are the letters of packages. -/
theorem isPackageChar_iff (c : Char) : isPackageChar c = true ↔ IsPackageLetter c := by
  have alphanumeric : c.isAlphanum = true ↔
      ('A' ≤ c ∧ c ≤ 'Z') ∨ ('a' ≤ c ∧ c ≤ 'z') ∨ ('0' ≤ c ∧ c ≤ '9') := by
    delta Char.isAlphanum Char.isAlpha Char.isUpper Char.isLower Char.isDigit
    simp only [Bool.or_eq_true, Bool.and_eq_true, decide_eq_true_eq, or_assoc]
    exact Iff.rfl
  unfold isPackageChar IsPackageLetter
  simp only [Bool.or_eq_true, decide_eq_true_eq, alphanumeric, List.mem_cons, List.not_mem_nil,
    or_false, or_assoc]

/-- The characters that are taken in names are the letters of names. -/
theorem isNameChar_iff (c : Char) : isNameChar c = true ↔ IsNameLetter c := by
  unfold isNameChar IsNameLetter
  simp only [Bool.or_eq_true, decide_eq_true_eq, isPackageChar_iff, List.mem_cons,
    List.not_mem_nil, or_false, or_assoc]

/-- The separators of a label are letters of neither alphabet. -/
theorem not_isNameLetter_of_separator {c : Char} (separator : c = '/' ∨ c = ':') :
    ¬ IsNameLetter c := by
  unfold IsNameLetter IsPackageLetter
  rcases separator with rfl | rfl <;> decide

/-- Neither a slash nor a colon is a letter of packages. -/
theorem not_isPackageLetter_of_separator {c : Char} (separator : c = '/' ∨ c = ':') :
    ¬ IsPackageLetter c :=
  fun letter => not_isNameLetter_of_separator separator (.inl letter)

section Components

variable {isLetter : Char → Prop} {allowed : Char → Bool}
  (same : ∀ c, allowed c = true ↔ isLetter c)

/-- A word over some letters has no other character. -/
theorem IsWordOver.not_mem {text : String} (word : IsWordOver isLetter text) {c : Char}
    (other : ¬ isLetter c) : c ∉ text.toList :=
  fun member => other (word.2 c member)

include same in
/-- A text passes as a path exactly if all of its components are words over the letters. -/
theorem isPathOver_iff (text : String) :
    isPathOver allowed text.toList = true ↔
      ∀ component ∈ Text.components text, IsWordOver isLetter component := by
  unfold isPathOver Text.components IsWordOver
  simp [same]

/-- A text passes without dots exactly if none of its components is made of them. -/
theorem hasDotComponent_eq_false_iff (text : String) :
    hasDotComponent text = false ↔ ∀ component ∈ Text.components text, ¬ IsDots component := by
  have dots : ∀ piece : List Char,
      IsDots (String.ofList piece) ↔ piece = ['.'] ∨ piece = ['.', '.'] := by
    intro piece
    unfold IsDots
    rw [← String.toList_inj, ← String.toList_inj, String.toList_ofList]
    exact Iff.rfl
  unfold hasDotComponent Text.components
  simp only [List.any_eq_false, Bool.or_eq_true, decide_eq_true_eq, List.forall_mem_map, dots]

include same in
/-- A text over an alphabet without dots among its components is a path of components, and no
other text is. -/
theorem isPathOf_componentOver_iff (noSlash : ¬ isLetter '/') (text : String) :
    IsPathOf (IsComponentOver isLetter) text ↔
      isPathOver allowed text.toList = true ∧ hasDotComponent text = false := by
  rw [isPathOf_iff fun part component => component.1.not_mem noSlash, isPathOver_iff same,
    hasDotComponent_eq_false_iff]
  unfold IsComponentOver
  simp only [imp_and, forall_and]

end Components

/-- The packages are the texts that pass as a package and have no component of dots. -/
theorem isPackage_iff (package : String) :
    IsPackage package ↔ isPackageText package = true ∧ hasDotComponent package = false := by
  have noSlash : ¬ IsPackageLetter '/' := not_isPackageLetter_of_separator (.inl rfl)
  unfold IsPackage isPackageText
  rw [isPathOf_componentOver_iff isPackageChar_iff noSlash, Bool.or_eq_true, String.isEmpty_iff]
  by_cases empty : package = ""
  · subst empty
    decide
  · simp only [empty, false_or]

/-- A package and a name are accepted exactly if they form a label. -/
theorem isLabel_iff (package name : String) :
    isLabel package name = true ↔ FormsLabel package name := by
  have noSlash : ¬ IsNameLetter '/' := not_isNameLetter_of_separator (.inl rfl)
  have names := isPathOf_componentOver_iff isNameChar_iff noSlash name
  have packages := isPackage_iff package
  unfold isLabel isNameText
  simp only [Bool.and_eq_true, Bool.not_eq_true', and_assoc]
  constructor
  · rintro ⟨packageText, packageDots, nameText, nameDots⟩
    exact ⟨packages.mpr ⟨packageText, packageDots⟩, names.mpr ⟨nameText, nameDots⟩⟩
  · rintro ⟨package, name⟩
    exact ⟨(packages.mp package).1, (packages.mp package).2, names.mp name⟩

/-- A path of components has no colon, unless that is one of their letters. -/
theorem IsPathOf.colon_not_mem {isLetter : Char → Prop} {text : String}
    (path : IsPathOf (IsComponentOver isLetter) text) (noColon : ¬ isLetter ':') :
    ':' ∉ text.toList :=
  path.not_mem (by decide) fun _ component => component.1.not_mem noColon

/-- A package has no colon. -/
theorem IsPackage.colon_not_mem {package : String} (isPackage : IsPackage package) :
    ':' ∉ package.toList := by
  rcases isPackage with rfl | path
  · simp
  · exact path.colon_not_mem (not_isPackageLetter_of_separator (.inr rfl))

namespace Label

/-! ## Labels and their parts -/

/-- The package and the name of a label form one. -/
theorem formsLabel (label : Label) : FormsLabel label.package label.name :=
  (isLabel_iff _ _).mp label.wellFormed

/-- The package of a label has no colon. -/
theorem colon_not_mem_package (label : Label) : ':' ∉ label.package.toList :=
  label.formsLabel.package.colon_not_mem

/-- The name of a label has no colon. -/
theorem colon_not_mem_name (label : Label) : ':' ∉ label.name.toList :=
  label.formsLabel.name.colon_not_mem (not_isNameLetter_of_separator (.inr rfl))

/-- No label has an empty name. -/
theorem name_ne_empty (label : Label) : label.name ≠ "" := by
  intro empty
  have formed := label.wellFormed
  rw [empty] at formed
  simp [isLabel, isNameText, isPathOver, Text.pieces] at formed

/-- A package and a name are read as the label that has them, when there is such a label. -/
theorem ofParts_eq_ok_iff {package name : String} {label : Label} :
    ofParts package name = .ok label ↔ label.package = package ∧ label.name = name := by
  constructor
  · intro made
    unfold ofParts at made
    split at made
    · split at made
      · cases made
      · split at made
        · cases made
        · split at made
          · split at made
            · cases made
            · cases made
              exact ⟨rfl, rfl⟩
          · cases made
    · cases made
  · rintro ⟨rfl, rfl⟩
    have formed := label.wellFormed
    unfold isLabel at formed
    simp only [Bool.and_eq_true, Bool.not_eq_true'] at formed
    obtain ⟨⟨⟨package, packageDots⟩, name⟩, nameDots⟩ := formed
    have nonempty : label.name.isEmpty = false := by
      simpa [String.isEmpty_iff] using label.name_ne_empty
    simp [ofParts, package, packageDots, name, nameDots, nonempty]

/-! ## The texts of a label -/

/-- The name stands after the last slash of the package. -/
def IsLastComponent (name package : String) : Prop :=
  '/' ∉ name.toList ∧ (package = name ∨ ∃ front, package = front ++ "/" ++ name)

/-- The two ways to write a label outside of any package. The short one leaves out a name that the
last component of the package repeats. -/
inductive Spells (package name : String) : String → Prop
  | full : Spells package name ("//" ++ package ++ ":" ++ name)
  | short (nonempty : package ≠ "") (last : IsLastComponent name package) :
      Spells package name ("//" ++ package)

/-- The characters of a label that is spelled with its name. -/
theorem toList_full (package name : String) :
    ("//" ++ package ++ ":" ++ name).toList =
      '/' :: '/' :: (package.toList ++ ':' :: name.toList) := by
  simp only [String.toList_append, List.append_assoc]
  rfl

/-- The characters of a label that is spelled by its package. -/
theorem toList_short (package : String) : ("//" ++ package).toList = '/' :: '/' :: package.toList := by
  rw [String.toList_append]
  rfl

/-- The piece after the last slash of a package is its last component. -/
theorem lastPiece_toList_eq_iff {package name : String} :
    Text.lastPiece '/' package.toList = name.toList ↔ IsLastComponent name package := by
  rw [Text.lastPiece_eq_iff, String.toList_inj]
  refine and_congr_right fun _ => or_congr_right ⟨?_, ?_⟩
  · rintro ⟨front, whole⟩
    refine ⟨String.ofList front, String.toList_inj.mp ?_⟩
    rw [whole, String.toList_append, String.toList_append, String.toList_ofList, List.append_assoc]
    rfl
  · rintro ⟨front, rfl⟩
    refine ⟨front.toList, ?_⟩
    rw [String.toList_append, String.toList_append, List.append_assoc]
    rfl

variable {text : String} {label : Label}

/-- A text that is read as a label spells it. -/
theorem spells_of_read (found : read text = .ok label) : Spells label.package label.name text := by
  unfold read at found
  split at found
  · rename_i rest absolute
    split at found
    · rename_i package name cut
      obtain ⟨rfl, -⟩ := Text.cutAtFirst_eq_some_iff.mp cut
      split at found
      · cases found
      · obtain ⟨samePackage, sameName⟩ := ofParts_eq_ok_iff.mp (mapError_eq_ok_iff.mp found)
        have whole : text = "//" ++ label.package ++ ":" ++ label.name := by
          rw [← String.toList_inj, toList_full, absolute, samePackage, sameName,
            String.toList_ofList, String.toList_ofList]
        exact whole ▸ .full
    · dsimp only at found
      split at found
      · cases found
      · rename_i named
        obtain ⟨samePackage, sameName⟩ := ofParts_eq_ok_iff.mp (mapError_eq_ok_iff.mp found)
        have whole : text = "//" ++ label.package := by
          rw [← String.toList_inj, toList_short, absolute, samePackage, String.toList_ofList]
        have last : IsLastComponent label.name label.package := by
          rw [← lastPiece_toList_eq_iff, samePackage, sameName, String.toList_ofList,
            String.toList_ofList]
        -- An empty package would have an empty last component, and that is refused before.
        refine whole ▸ .short (fun empty => named ?_) last
        rw [String.ofList_eq_empty_iff.mp (samePackage.symm.trans empty)]
        rfl
  · cases found

/-- A text that spells a label is read as this label. -/
theorem read_of_spells (spelled : Spells label.package label.name text) :
    read text = .ok label := by
  have made : ofParts label.package label.name = .ok label := ofParts_eq_ok_iff.mpr ⟨rfl, rfl⟩
  cases spelled with
  | full =>
    unfold read
    rw [toList_full]
    simp only [Text.cutAtFirst_append label.colon_not_mem_package, if_neg label.colon_not_mem_name,
      String.ofList_toList, made]
    rfl
  | short nonempty last =>
    have named : label.name.toList.isEmpty = false := by
      simpa using label.name_ne_empty
    unfold read
    rw [toList_short]
    simp only [Text.cutAtFirst_eq_none_iff.mpr label.colon_not_mem_package,
      lastPiece_toList_eq_iff.mpr last, named, String.ofList_toList, made]
    rfl

/-- A text is read as a label exactly if it spells the label. -/
theorem read_eq_ok_iff : read text = .ok label ↔ Spells label.package label.name text :=
  ⟨spells_of_read, read_of_spells⟩

/-- What display writes is read as the label again, so no two labels are displayed alike. -/
theorem display_injective : Function.Injective display := by
  intro first second same
  have readFirst : read first.display = .ok first := read_of_spells .full
  have readSecond : read second.display = .ok second := read_of_spells .full
  rw [same, readSecond] at readFirst
  exact (Except.ok.inj readFirst).symm

/-! ## Texts inside a package -/

def IsAbsolute (text : String) : Prop := ∃ rest, text = "//" ++ rest

/-- A text is absolute exactly if it begins with two slashes. -/
theorem isAbsolute_iff : IsAbsolute text ↔ ∃ rest, text.toList = '/' :: '/' :: rest := by
  constructor
  · rintro ⟨rest, rfl⟩
    exact ⟨rest.toList, toList_short rest⟩
  · rintro ⟨rest, absolute⟩
    refine ⟨String.ofList rest, ?_⟩
    rw [← String.toList_inj, toList_short, absolute, String.toList_ofList]

/-- A name without a package is read as the label of this name in the base package. -/
theorem readName_eq_ok_iff (base : String) (name : List Char) (label : Label) :
    (if ':' ∈ name then .error LabelFault.multipleColons
      else (ofParts base (String.ofList name)).mapError fun _ => .invalidName) = .ok label ↔
        label.package = base ∧ label.name.toList = name := by
  have sameName : label.name.toList = name ↔ label.name = String.ofList name := by
    rw [← String.toList_inj, String.toList_ofList]
  rw [sameName, ← ofParts_eq_ok_iff]
  split
  · rename_i colon
    refine iff_of_false (fun wrong => nomatch wrong) fun made => ?_
    have named := sameName.mpr (ofParts_eq_ok_iff.mp made).2
    exact label.colon_not_mem_name (named ▸ colon)
  · exact mapError_eq_ok_iff

/-- A text that is not absolute names a target of the package, and a colon may stand before it. -/
theorem readIn_of_not_isAbsolute {base : String} (relative : ¬ IsAbsolute text) :
    readIn base text = .ok label ↔
      label.package = base ∧ (text = label.name ∨ text = ":" ++ label.name) := by
  have colonFront : (":" ++ label.name).toList = ':' :: label.name.toList := by
    rw [String.toList_append]
    rfl
  unfold readIn
  split
  · rename_i rest absolute
    exact absurd (isAbsolute_iff.mpr ⟨rest, absolute⟩) relative
  · rename_i name written
    have notName : text ≠ label.name := by
      rintro rfl
      exact label.colon_not_mem_name (written ▸ List.mem_cons_self)
    have afterColon : text = ":" ++ label.name ↔ label.name.toList = name := by
      rw [← String.toList_inj, written, colonFront, List.cons.injEq, and_iff_right rfl, eq_comm]
    rw [readName_eq_ok_iff, afterColon]
    simp only [notName, false_or]
  · rename_i noColonFront
    have notColon : text ≠ ":" ++ label.name := by
      rintro rfl
      exact noColonFront _ colonFront
    have named := readName_eq_ok_iff base text.toList label
    rw [String.ofList_toList, String.toList_inj] at named
    rw [named]
    simp only [notColon, or_false, eq_comm]

/-- An absolute text is read alike in every package. -/
theorem readIn_of_isAbsolute {base : String} (absolute : IsAbsolute text) :
    readIn base text = read text := by
  obtain ⟨rest, written⟩ := isAbsolute_iff.mp absolute
  unfold readIn
  rw [written]
  rfl

/-! ## What parsing yields -/

/-- The outcome is the label that has the package and the name. -/
def Yields (outcome : Except LoadError Label) (package name : String) : Prop :=
  ∃ label, outcome = .ok label ∧ label.package = package ∧ label.name = name

/-- A text is parsed to a label exactly if it spells the label. -/
theorem parse_eq_ok_iff : parse text = .ok label ↔ Spells label.package label.name text :=
  mapError_eq_ok_iff.trans read_eq_ok_iff

/-- Parsing yields a package and a name exactly if they form a label that the text spells. -/
theorem yields_parse_iff {package name : String} :
    Yields (parse text) package name ↔ FormsLabel package name ∧ Spells package name text := by
  constructor
  · rintro ⟨label, parsed, rfl, rfl⟩
    exact ⟨label.formsLabel, parse_eq_ok_iff.mp parsed⟩
  · rintro ⟨forms, spelled⟩
    exact ⟨⟨package, name, (isLabel_iff _ _).mpr forms⟩, parse_eq_ok_iff.mpr spelled, rfl, rfl⟩

/-- An absolute text is parsed alike in every package. -/
theorem yields_parseIn_of_isAbsolute {base package name : String} (absolute : IsAbsolute text) :
    Yields (parseIn base text) package name ↔ Yields (parse text) package name := by
  unfold Yields parseIn parse
  rw [readIn_of_isAbsolute absolute]

/-- Any other text is parsed as a name in the base package, with or without a colon before it. -/
theorem yields_parseIn_of_not_isAbsolute {base package name : String}
    (relative : ¬ IsAbsolute text) :
    Yields (parseIn base text) package name ↔
      package = base ∧ FormsLabel package name ∧ (text = name ∨ text = ":" ++ name) := by
  unfold Yields parseIn
  constructor
  · rintro ⟨label, parsed, rfl, rfl⟩
    obtain ⟨samePackage, written⟩ :=
      (readIn_of_not_isAbsolute relative).mp (mapError_eq_ok_iff.mp parsed)
    exact ⟨samePackage, label.formsLabel, written⟩
  · rintro ⟨samePackage, forms, written⟩
    let label : Label := ⟨package, name, (isLabel_iff _ _).mpr forms⟩
    have found : readIn base text = .ok label :=
      (readIn_of_not_isAbsolute relative).mpr ⟨samePackage, written⟩
    exact ⟨label, mapError_eq_ok_iff.mpr found, rfl, rfl⟩

/-- Parsing yields the labels that a text spells, and inside a package also those that it names
there; what display writes is parsed as the label again. -/
theorem parse_yields_what_is_spelled :
    (∀ text package name,
      Yields (parse text) package name ↔ FormsLabel package name ∧ Spells package name text) ∧
    (∀ base text package name,
      Yields (parseIn base text) package name ↔
        IsAbsolute text ∧ Yields (parse text) package name ∨
          ¬ IsAbsolute text ∧ package = base ∧ FormsLabel package name ∧
            (text = name ∨ text = ":" ++ name)) ∧
    ∀ label : Label, parse label.display = .ok label := by
  refine ⟨fun _ _ _ => yields_parse_iff, fun base text package name => ?_, fun label => ?_⟩
  · by_cases absolute : IsAbsolute text
    · rw [yields_parseIn_of_isAbsolute absolute]
      simp only [absolute, true_and, not_true_eq_false, false_and, or_false]
    · rw [yields_parseIn_of_not_isAbsolute absolute]
      simp only [absolute, false_and, not_false_eq_true, true_and, false_or]
  · exact parse_eq_ok_iff.mpr .full

end Label

end BuildRules
