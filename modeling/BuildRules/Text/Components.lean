/-!
# Texts cut at a separator

Paths, package names and target names are read as the pieces between slashes.
`pieces` is that view; a text always has at least one piece, the empty text has
exactly one, and the last piece is what remains after the last separator.
-/

set_option autoImplicit false

namespace BuildRules.Text

/-- The pieces of `text` between the separators, in order. -/
def pieces (separator : Char) : List Char → List (List Char)
  | [] => [[]]
  | c :: rest =>
    if c = separator then [] :: pieces separator rest
    else
      match pieces separator rest with
      | [] => [[c]]
      | piece :: others => (c :: piece) :: others

/-- A text has at least one piece. -/
theorem pieces_ne_nil (separator : Char) (text : List Char) : pieces separator text ≠ [] := by
  cases text with
  | nil => simp [pieces]
  | cons c rest =>
    unfold pieces
    split
    · simp
    · split <;> simp

/-- The pieces with the separator between them are the text again. -/
theorem intercalate_pieces (separator : Char) (text : List Char) :
    [separator].intercalate (pieces separator text) = text := by
  induction text with
  | nil => rfl
  | cons c rest ih =>
    unfold pieces
    split
    · rename_i same
      subst same
      cases cut : pieces c rest with
      | nil => exact absurd cut (pieces_ne_nil c rest)
      | cons piece others =>
        rw [cut] at ih
        simpa [List.intercalate] using ih
    · cases cut : pieces separator rest with
      | nil => exact absurd cut (pieces_ne_nil separator rest)
      | cons piece others =>
        rw [cut] at ih
        cases others with
        | nil => simpa [List.intercalate] using ih
        | cons next more => simpa [List.intercalate] using ih

/-- What stands after the last separator, the whole text when there is none. -/
def lastPiece (separator : Char) (text : List Char) : List Char :=
  (pieces separator text).getLast (pieces_ne_nil separator text)

/-- The components of a path: its pieces between slashes. -/
def components (path : String) : List String :=
  (pieces '/' path.toList).map String.ofList

def baseName (path : String) : String :=
  String.ofList (lastPiece '/' path.toList)

/-- The text before a given ending, if it has that ending. -/
def withoutEnding? (ending text : List Char) : Option (List Char) :=
  if ending.isSuffixOf text then some (text.take (text.length - ending.length)) else none

/-- The text before the first separator and the text after it, if there is one. -/
def cutAtFirst (separator : Char) : List Char → Option (List Char × List Char)
  | [] => none
  | c :: rest =>
    if c = separator then some ([], rest)
    else (cutAtFirst separator rest).map fun (before, after) => (c :: before, after)

/-- What stands after a separator is shorter than the whole. -/
theorem length_after_lt_of_cutAtFirst {separator : Char} :
    ∀ {text before after : List Char}, cutAtFirst separator text = some (before, after) →
      after.length < text.length
  | [], _, _, h => by simp [cutAtFirst] at h
  | c :: rest, before, after, h => by
    unfold cutAtFirst at h
    split at h
    · obtain ⟨-, rfl⟩ : [] = before ∧ rest = after := by simpa using h
      simp
    · obtain ⟨⟨inner, tail⟩, found, same⟩ := Option.map_eq_some_iff.1 h
      obtain ⟨-, rfl⟩ : c :: inner = before ∧ tail = after := by simpa using same
      have := length_after_lt_of_cutAtFirst found
      simp only [List.length_cons]
      omega

/-- The text before the last separator and the text after it, if there is one. -/
def cutAtLast (separator : Char) (text : List Char) : Option (List Char × List Char) :=
  (cutAtFirst separator text.reverse).map fun (after, before) => (before.reverse, after.reverse)

end BuildRules.Text
