import BuildRules.Proofs.NameOrder
import BuildRules.Proofs.TextCuts

/-!
# What the cache key says of a configuration

The bytes of a cache key are those of one text, in which zero characters close the name, the
mnemonic and every binding of a make variable, and an equals sign stands between a variable and
its value. Where no part has a zero character in it, the text determines the name, the mnemonic,
the flags and the bindings as they are written; where moreover no variable has an equals sign in
its name, it determines the configuration. Without these conditions the parts of two different
configurations can run into each other, and then the keys agree.
-/

set_option autoImplicit false

namespace BuildRules.Configuration

/-! ## The text of a key -/

def terminator : Char := '\x00'

def flagLetter (flag : Bool) : Char := if flag then '\x01' else '\x00'

/-- A make variable with its value as it is written into a key. -/
def bindingLetters (entry : String × String) : List Char := entry.1.toList ++ '=' :: entry.2.toList

/-- Texts one after the other, each closed by a terminator. -/
def closedLetters (texts : List (List Char)) : List Char := texts.flatMap (· ++ [terminator])

def bindings (configuration : Configuration) : List (List Char) :=
  configuration.makeVariables.entries.map bindingLetters

def keyLetters (configuration : Configuration) : List Char :=
  configuration.name.toList ++ terminator :: (configuration.mnemonic.toList ++ terminator ::
    flagLetter configuration.isHost :: flagLetter configuration.buildRunfiles ::
      closedLetters configuration.bindings)

/-- The byte for a flag encodes the letter for the flag. -/
theorem flagByte_eq (flag : Bool) :
    [flagByte flag] = String.utf8EncodeChar (flagLetter flag) := by
  cases flag <;> rfl

/-- The bytes of the make variables encode their bindings, each closed by its terminator. -/
theorem variableBytes_eq (entries : List (String × String)) :
    variableBytes entries =
      (closedLetters (entries.map bindingLetters)).flatMap String.utf8EncodeChar := by
  induction entries with
  | nil => rfl
  | cons entry rest ih =>
    have unfolded : variableBytes (entry :: rest) =
        bytesOf entry.1 ++ [0x3d] ++ bytesOf entry.2 ++ [0] ++ variableBytes rest := rfl
    have equals : String.utf8EncodeChar '=' = [0x3d] := rfl
    have zero : String.utf8EncodeChar terminator = [0] := rfl
    rw [unfolded, ih, Utf8.bytesOf_eq_flatMap, Utf8.bytesOf_eq_flatMap]
    simp only [closedLetters, bindingLetters, List.map_cons, List.flatMap_cons, List.flatMap_append,
      List.append_assoc, List.cons_append, List.nil_append, equals, zero]

/-- The bytes of a key are those of its text. -/
theorem keyBytes_eq (configuration : Configuration) :
    configuration.keyBytes = configuration.keyLetters.flatMap String.utf8EncodeChar := by
  have zero : String.utf8EncodeChar terminator = [0] := rfl
  unfold keyBytes keyLetters bindings
  rw [Utf8.bytesOf_eq_flatMap, Utf8.bytesOf_eq_flatMap, variableBytes_eq]
  simp only [List.flatMap_cons, List.flatMap_append, List.append_assoc, List.cons_append,
    List.nil_append, zero, ← flagByte_eq]

/-- No two texts of letters have the same bytes. -/
theorem bytesOf_injective : Function.Injective bytesOf := by
  intro first second same
  exact String.toByteArray_inj.mp (ByteArray.ext (Array.toList_inj.mp same))

/-- Two configurations hash the same bytes exactly if they hash the same letters. -/
theorem keyBytes_eq_keyBytes_iff {first second : Configuration} :
    first.keyBytes = second.keyBytes ↔ first.keyLetters = second.keyLetters := by
  have encoded : ∀ configuration : Configuration,
      configuration.keyBytes = bytesOf (String.ofList configuration.keyLetters) := by
    intro configuration
    rw [keyBytes_eq, Utf8.bytesOf_eq_flatMap, String.toList_ofList]
  rw [encoded, encoded, bytesOf_injective.eq_iff, String.ofList_inj]

/-! ## Parts that do not run into each other -/

/-- No part of the key has a terminator in it. -/
structure TerminatorFree (configuration : Configuration) : Prop where
  name : terminator ∉ configuration.name.toList
  mnemonic : terminator ∉ configuration.mnemonic.toList
  makeVariables : ∀ entry ∈ configuration.makeVariables.entries,
    terminator ∉ entry.1.toList ∧ terminator ∉ entry.2.toList

/-- The parts of the key can be told from each other. -/
structure Separable (configuration : Configuration) : Prop extends
    TerminatorFree configuration where
  variableNames : ∀ entry ∈ configuration.makeVariables.entries, '=' ∉ entry.1.toList

/-- The two flags have different letters. -/
theorem flagLetter_injective : Function.Injective flagLetter := by
  intro first second same
  cases first <;> cases second <;> first | rfl | exact absurd same (by decide)

/-- Closed texts can be taken apart again when no text has a terminator in it. -/
theorem closedLetters_inj {first second : List (List Char)}
    (free : ∀ text ∈ first, terminator ∉ text) (freeOther : ∀ text ∈ second, terminator ∉ text) :
    closedLetters first = closedLetters second ↔ first = second := by
  induction first generalizing second with
  | nil =>
    cases second with
    | nil => simp
    | cons text rest => simp [closedLetters]
  | cons head rest ih =>
    cases second with
    | nil => simp [closedLetters]
    | cons other others =>
      obtain ⟨freeHead, freeRest⟩ := List.forall_mem_cons.mp free
      obtain ⟨freeOtherHead, freeOthers⟩ := List.forall_mem_cons.mp freeOther
      have unfolded : ∀ text texts,
          closedLetters (text :: texts) = text ++ terminator :: closedLetters texts := by
        simp [closedLetters]
      -- The first terminator closes the first text, so it is at one place in both.
      rw [unfolded, unfolded, Text.append_cons_inj freeHead freeOtherHead, List.cons.injEq,
        ih freeRest freeOthers]

/-- The bindings of a configuration without terminators in its parts have none either. -/
theorem TerminatorFree.bindings {configuration : Configuration}
    (free : configuration.TerminatorFree) :
    ∀ text ∈ configuration.bindings, terminator ∉ text := by
  intro text member
  obtain ⟨entry, inside, rfl⟩ := List.mem_map.mp member
  obtain ⟨name, value⟩ := free.makeVariables entry inside
  have notEquals : terminator ≠ '=' := by decide
  simp [bindingLetters, name, value, notEquals]

variable {first second : Configuration}

/-- Where no part has a terminator in it, the keys agree exactly when all parts do, as written. -/
theorem keyBytes_eq_iff_parts (free : first.TerminatorFree) (freeOther : second.TerminatorFree) :
    first.keyBytes = second.keyBytes ↔
      first.name = second.name ∧ first.mnemonic = second.mnemonic ∧
        first.isHost = second.isHost ∧ first.buildRunfiles = second.buildRunfiles ∧
          first.bindings = second.bindings := by
  rw [keyBytes_eq_keyBytes_iff]
  unfold keyLetters
  rw [Text.append_cons_inj free.name freeOther.name,
    Text.append_cons_inj free.mnemonic freeOther.mnemonic, List.cons.injEq, List.cons.injEq,
    flagLetter_injective.eq_iff, flagLetter_injective.eq_iff,
    closedLetters_inj free.bindings freeOther.bindings, String.toList_inj, String.toList_inj]

/-- A binding can be taken apart again when the name has no equals sign in it. -/
theorem bindingLetters_inj {entry other : String × String} (free : '=' ∉ entry.1.toList)
    (freeOther : '=' ∉ other.1.toList) :
    bindingLetters entry = bindingLetters other ↔ entry = other := by
  unfold bindingLetters
  rw [Text.append_cons_inj free freeOther, String.toList_inj, String.toList_inj, Prod.ext_iff]

/-- Bindings can be told from their letters, if no name has an equals sign. -/
theorem map_bindingLetters_inj {entries others : List (String × String)}
    (free : ∀ entry ∈ entries, '=' ∉ entry.1.toList)
    (freeOther : ∀ other ∈ others, '=' ∉ other.1.toList) :
    entries.map bindingLetters = others.map bindingLetters ↔ entries = others := by
  induction entries generalizing others with
  | nil =>
    cases others with
    | nil => simp
    | cons other rest => simp
  | cons entry rest ih =>
    cases others with
    | nil => simp
    | cons other more =>
      obtain ⟨freeEntry, freeRest⟩ := List.forall_mem_cons.mp free
      obtain ⟨freeOtherEntry, freeMore⟩ := List.forall_mem_cons.mp freeOther
      rw [List.map_cons, List.map_cons, List.cons.injEq, List.cons.injEq,
        bindingLetters_inj freeEntry freeOtherEntry, ih freeRest freeMore]

/-- Separable configurations have one key exactly when they are one configuration. -/
theorem keyBytes_eq_iff_of_separable (separable : first.Separable)
    (separableOther : second.Separable) : first.keyBytes = second.keyBytes ↔ first = second := by
  rw [keyBytes_eq_iff_parts separable.toTerminatorFree separableOther.toTerminatorFree]
  unfold bindings
  rw [map_bindingLetters_inj separable.variableNames separableOther.variableNames]
  obtain ⟨_, _, _, _, ⟨_, _⟩⟩ := first
  obtain ⟨_, _, _, _, ⟨_, _⟩⟩ := second
  simp only [Configuration.mk.injEq, NameMap.mk.injEq]

/-- One variable with an equals sign in its value, and two variables. -/
theorem keyBytes_ne_of_separable_flags :
    let plain : Configuration := { name := "target", mnemonic := "k8" }
    let one := plain.withMakeVariable "FLAGS" "-O=2"
    let two := (plain.withMakeVariable "FLAGS" "-O").withMakeVariable "LEVEL" "2"
    one.Separable ∧ two.Separable ∧ one.keyBytes ≠ two.keyBytes := by
  intro plain one two
  have separableOne : one.Separable := ⟨⟨by decide, by decide, by decide⟩, by decide⟩
  have separableTwo : two.Separable := ⟨⟨by decide, by decide, by decide⟩, by decide⟩
  refine ⟨separableOne, separableTwo, fun same => ?_⟩
  exact absurd ((keyBytes_eq_iff_of_separable separableOne separableTwo).mp same) (by decide)

/-- Different configurations that have one key: an equals sign in the name of a variable, a
terminator in a value, and a terminator in a name beside one in a mnemonic. -/
theorem keyBytes_collide :
    let plain : Configuration := { name := "target", mnemonic := "k8" }
    (plain.withMakeVariable "a=b" "c" ≠ plain.withMakeVariable "a" "b=c" ∧
      (plain.withMakeVariable "a=b" "c").keyBytes = (plain.withMakeVariable "a" "b=c").keyBytes) ∧
    (plain.withMakeVariable "a" "b\x00c=d" ≠
        (plain.withMakeVariable "a" "b").withMakeVariable "c" "d" ∧
      (plain.withMakeVariable "a" "b\x00c=d").keyBytes =
        ((plain.withMakeVariable "a" "b").withMakeVariable "c" "d").keyBytes) ∧
    ({ plain with name := "a\x00b", mnemonic := "c" } : Configuration) ≠
        { plain with name := "a", mnemonic := "b\x00c" } ∧
      ({ plain with name := "a\x00b", mnemonic := "c" } : Configuration).keyBytes =
        ({ plain with name := "a", mnemonic := "b\x00c" } : Configuration).keyBytes := by
  exact ⟨⟨by decide, rfl⟩, ⟨by decide, rfl⟩, by decide, rfl⟩

end BuildRules.Configuration
