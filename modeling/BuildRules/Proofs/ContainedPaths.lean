import BuildRules.Proofs.LabelGrammar
import BuildRules.Target

/-!
# Paths that stay inside the workspace

The path of a label is followed from the directory of the workspace component by component,
as file systems do it: an empty component and `.` stay where they are, and `..` goes up.
The components of a label are none of these three. So every step goes down by one
component, the path never leaves the workspace, and it ends at a file whose name is the
last component of the path. That is the file name of the source artifact of the label, and
it is the one that a target says which is a file of this label, although the one looks for
it in the path and the other in the name of the label.
-/

set_option autoImplicit false

namespace BuildRules

namespace Text

/-- The component is the name of a file or a directory in the directory in which it is looked up. -/
def NamesEntry (component : String) : Prop :=
  component ≠ "" ∧ component ≠ "." ∧ component ≠ ".."

/-- The place to which one component leads from a place. A place is given by the names of the
directories on the way from the root of the file system. -/
def stepInto (place : List String) (component : String) : List String :=
  if component = "" ∨ component = "." then place
  else if component = ".." then place.dropLast
  else place ++ [component]

/-- The place to which components lead one after the other. -/
def follow (place components : List String) : List String := components.foldl stepInto place

/-- A component that names an entry leads one step further down. -/
theorem stepInto_of_namesEntry (place : List String) {component : String}
    (names : NamesEntry component) : stepInto place component = place ++ [component] := by
  obtain ⟨nonempty, notDot, notDots⟩ := names
  have moves : ¬ (component = "" ∨ component = ".") := by
    rintro (empty | dot)
    · exact nonempty empty
    · exact notDot dot
  unfold stepInto
  rw [if_neg moves, if_neg notDots]

/-- Names of entries lead down, one directory each. -/
theorem follow_of_namesEntry (place : List String) {components : List String}
    (names : ∀ component ∈ components, NamesEntry component) :
    follow place components = place ++ components := by
  induction components generalizing place with
  | nil => simp [follow]
  | cons component rest ih =>
    obtain ⟨first, others⟩ := List.forall_mem_cons.mp names
    have next : follow place (component :: rest) = follow (stepInto place component) rest := rfl
    rw [next, ih _ others, stepInto_of_namesEntry place first, List.append_assoc]
    rfl

/-- The last component of a path is its base name. -/
theorem getLast?_components (path : String) :
    (components path).getLast? = some (baseName path) := by
  have last := List.getLast?_eq_some_getLast (pieces_ne_nil '/' path.toList)
  unfold components baseName lastPiece
  rw [List.getLast?_map, last]
  rfl

/-- A path whose components all name entries is not absolute: the component before its first slash
is not empty. -/
theorem head?_ne_slash {path : String}
    (names : ∀ component ∈ components path, NamesEntry component) :
    path.toList.head? ≠ some '/' := by
  intro absolute
  obtain ⟨rest, written⟩ := List.head?_eq_some_iff.mp absolute
  have first : "" ∈ components path := by
    unfold components
    rw [written]
    simp [pieces]
  exact (names "" first).1 rfl

end Text

/-- The components over an alphabet without slashes name entries. -/
theorem IsPathOf.namesEntry {isLetter : Char → Prop} {text : String}
    (path : IsPathOf (IsComponentOver isLetter) text) (noSlash : ¬ isLetter '/') :
    ∀ component ∈ Text.components text, Text.NamesEntry component := by
  intro component member
  have parts := (isPathOf_iff fun part formed => formed.1.not_mem noSlash).mp path
  obtain ⟨⟨nonempty, -⟩, noDots⟩ := parts component member
  exact ⟨nonempty, not_or.mp noDots⟩

namespace Label

/-- Every component of the package of a label names an entry. -/
theorem namesEntry_packageComponents (label : Label) :
    ∀ component ∈ label.packageComponents, Text.NamesEntry component := by
  intro component member
  unfold packageComponents at member
  rcases label.formsLabel.package with empty | path
  · simp [empty] at member
  · split at member
    · simp at member
    · exact path.namesEntry (not_isPackageLetter_of_separator (.inl rfl)) component member

/-- Every component of the name of a label names an entry. -/
theorem namesEntry_nameComponents (label : Label) :
    ∀ component ∈ label.nameComponents, Text.NamesEntry component :=
  label.formsLabel.name.namesEntry (not_isNameLetter_of_separator (.inl rfl))

/-- Every component of the path of a label names an entry. -/
theorem namesEntry_path (label : Label) :
    ∀ component ∈ Text.components label.path, Text.NamesEntry component := by
  intro component member
  rw [components_path, List.mem_append] at member
  rcases member with inPackage | inName
  · exact label.namesEntry_packageComponents component inPackage
  · exact label.namesEntry_nameComponents component inName

end Label

/-- A source file is reached by the path of its label. -/
theorem Artifact.execPath_source (label : Label) :
    (Artifact.source label).execPath = label.path := by
  unfold execPath source Root.source
  simp

/-- A file target tells the base name of its label. -/
theorem Target.fileName?_of_isFile {target : Target} (file : target.isFile = true) :
    target.fileName? = some target.label.fileName := by
  cases target with
  | rule declared => simp [isFile, rule?] at file
  | inputFile file => rfl
  | outputFile file => rfl

/-- The path of a label is made of the components of its package and of its name, which all name
entries. So the source artifact of the label has a relative path that leads down from the workspace
at every step, and its last component is the file name of the artifact and of every file target with
this label. -/
theorem Label.path_stays_inside (label : Label) :
    Text.components label.path = label.packageComponents ++ label.nameComponents ∧
    (∀ component ∈ Text.components label.path, Text.NamesEntry component) ∧
    (Artifact.source label).execPath.toList.head? ≠ some '/' ∧
    (∀ workspace passed, passed <+: Text.components (Artifact.source label).execPath →
      Text.follow workspace passed = workspace ++ passed) ∧
    (Text.components (Artifact.source label).execPath).getLast? =
      some (Artifact.source label).fileName ∧
    ∀ target : Target, target.label = label → target.isFile = true →
      target.fileName? = some (Artifact.source label).fileName := by
  have names := label.namesEntry_path
  have baseName : (Artifact.source label).fileName = label.fileName := label.baseName_path
  rw [Artifact.execPath_source]
  refine ⟨label.components_path, names, Text.head?_ne_slash names, ?_, ?_, ?_⟩
  · intro workspace passed isPrefix
    apply Text.follow_of_namesEntry
    intro component member
    exact names component (isPrefix.subset member)
  · exact Text.getLast?_components label.path
  · rintro target rfl file
    rw [Target.fileName?_of_isFile file, baseName]

end BuildRules
