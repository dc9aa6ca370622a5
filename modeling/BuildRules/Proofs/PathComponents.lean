import BuildRules.Label
import Mathlib.Data.List.Basic

/-!
# Components of the path of a label

The components of two texts with a separator between them are those of the one followed
by those of the other. So the path of a label ends as its name does, and the base name
of the path is the base name of the label.

A text is determined by its components, but a path does not say where the package ends.
Two labels have one path when the package of one of them continues the package of the
other by the first components of the name of that other one, as in `//a:b/c` and
`//a/b:c`, and in no other way.
-/

set_option autoImplicit false

namespace BuildRules

namespace Text

/-- Two texts with a separator between them have the pieces of both. -/
theorem pieces_append (separator : Char) (first second : List Char) :
    pieces separator (first ++ separator :: second) =
      pieces separator first ++ pieces separator second := by
  induction first with
  | nil => simp [pieces]
  | cons c rest ih =>
    rw [List.cons_append]
    by_cases same : c = separator
    · simp only [pieces, if_pos same, ih, List.cons_append]
    · simp only [pieces, if_neg same, ih]
      cases cut : pieces separator rest with
      | nil => exact absurd cut (pieces_ne_nil separator rest)
      | cons piece others => rfl

/-- What stands after the last separator is looked for after any separator. -/
theorem lastPiece_append (separator : Char) (first second : List Char) :
    lastPiece separator (first ++ separator :: second) = lastPiece separator second := by
  unfold lastPiece
  have same := pieces_append separator first second
  simp only [same]
  exact List.getLast_append_of_ne_nil _ (pieces_ne_nil separator second)

/-- No two texts have the same pieces. -/
theorem pieces_injective (separator : Char) : Function.Injective (pieces separator) := by
  intro first second same
  rw [← intercalate_pieces separator first, same, intercalate_pieces]

/-- No two texts have the same components. -/
theorem components_injective : Function.Injective components := by
  intro first second same
  have ofList_injective : Function.Injective String.ofList := fun _ _ => String.ofList_inj.mp
  have samePieces := List.map_injective_iff.mpr ofList_injective same
  exact String.toList_inj.mp (pieces_injective '/' samePieces)

/-- A text has at least one component. -/
theorem components_ne_nil (text : String) : components text ≠ [] := by
  intro empty
  exact pieces_ne_nil '/' text.toList (List.map_eq_nil_iff.mp empty)

/-- Two texts with a slash between them have the components of both. -/
theorem components_append (first second : String) :
    components (first ++ "/" ++ second) = components first ++ components second := by
  unfold components
  rw [← List.map_append, ← pieces_append, String.toList_append, String.toList_append,
    List.append_assoc]
  rfl

end Text

namespace Label

/-- The base name of the path of a label is the base name of the label. -/
theorem baseName_path (label : Label) : Text.baseName label.path = label.fileName := by
  unfold path fileName Text.baseName
  split
  · rfl
  · rw [String.toList_append, String.toList_append, List.append_assoc]
    show String.ofList (Text.lastPiece '/' (label.package.toList ++ '/' :: label.name.toList)) = _
    rw [Text.lastPiece_append]

/-- The components of the package of a label; the package at the root has none. -/
def packageComponents (label : Label) : List String :=
  if label.package.isEmpty then [] else Text.components label.package

def nameComponents (label : Label) : List String := Text.components label.name

/-- The path of a label has the components of its package and then those of its name. -/
theorem components_path (label : Label) :
    Text.components label.path = label.packageComponents ++ label.nameComponents := by
  unfold path packageComponents nameComponents
  split
  · rfl
  · exact Text.components_append label.package label.name

/-- The package of a label continues the package of another one by the first components of the name
of that one, and the names end alike. -/
def Continues (label other : Label) : Prop :=
  ∃ between, between ≠ [] ∧ label.packageComponents = other.packageComponents ++ between ∧
    other.nameComponents = between ++ label.nameComponents

/-- Two labels of which one continues the other have one path. -/
theorem Continues.path_eq {label other : Label} (continues : label.Continues other) :
    label.path = other.path := by
  obtain ⟨between, -, packages, names⟩ := continues
  apply Text.components_injective
  rw [components_path, components_path, packages, names, List.append_assoc]

end Label

end BuildRules
