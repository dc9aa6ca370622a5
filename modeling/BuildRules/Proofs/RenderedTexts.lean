import BuildRules.Proofs.DecodedValues

/-!
# Rendered texts are read back

A value is rendered without a blank, and its strings with every escape that JSON asks for. The
reader takes such a text apart again: whatever is open around it and whatever follows it, the
text takes the reader to the place behind the value, with the node of the value put where it
belongs. So a rendered text that is read as a whole has the node of its value, and decoders
make of the text what they make of the value.

Numbers are left out here, since only what follows a numeral ends it.
-/

set_option autoImplicit false

namespace BuildRules.Json

/-- The text takes the reader from one state to another, whatever follows it. -/
def Reading.Reads (before : Reading) (text : List Char) (after : Reading) : Prop :=
  ∀ rest, before.run (text ++ rest) = after.run rest

namespace Reading.Reads

variable {before between after : Reading} {text other : List Char}

/-- Nothing is read from an empty text. -/
theorem refl (reading : Reading) : reading.Reads [] reading := fun _ => rfl

/-- Two texts that are read one after the other are read as one text. -/
theorem trans (first : before.Reads text between) (second : between.Reads other after) :
    before.Reads (text ++ other) after := by
  intro rest
  rw [List.append_assoc, first, second]

/-- A character that the reader goes on with, and then a text. -/
theorem cons {c : Char} (taken : before.step c = .running between)
    (continues : between.Reads text after) : before.Reads (c :: text) after := by
  intro rest
  rw [List.cons_append, Reading.run, taken]
  exact continues rest

/-- A text of one character is read by one step. -/
theorem single {c : Char} (taken : before.step c = .running after) : before.Reads [c] after :=
  cons taken (refl after)

end Reading.Reads

/-! ## Strings -/

/-- The piece stands for the character, wherever it occurs in a string. -/
def Piece.Shows (piece : Piece) (c : Char) : Prop :=
  ∀ fault rest, joinPieces fault (piece :: rest) = (c :: ·) <$> joinPieces fault rest

/-- A character that stands for itself shows this character. -/
theorem Piece.char_shows (c : Char) : (Piece.char c).Shows c := by
  intro fault rest
  rw [joinPieces]

/-- A unit below the surrogates stands for its own character, also before another unit. -/
theorem Piece.unit_shows {c : Char} (low : c.toNat < 0xD800) : (Piece.unit c.toNat).Shows c := by
  intro fault rest
  have noSecond : ¬ (0xDC00 ≤ c.toNat ∧ c.toNat ≤ 0xDFFF) := by omega
  have noFirst : c.toNat < 0xD800 ∨ 0xDBFF < c.toNat := .inl low
  rcases rest with - | ⟨- | second, others⟩
  all_goals simp only [joinPieces, if_neg noSecond, if_pos noFirst, Char.ofNat_toNat]

/-- The digit for a number has the value of its last four bits. -/
theorem hexValue?_hexDigit (n : Nat) : hexValue? (hexDigit n) = some (n % 16) := by
  have digits : ∀ digit < 16, hexValue? (Nat.digitChar digit) = some digit := by decide
  exact digits _ (Nat.mod_lt n (by decide))

/-- A hexadecimal digit is encoded by one byte. -/
theorem utf8Size_hexDigit (n : Nat) : (hexDigit n).utf8Size = 1 := by
  have digits : ∀ digit < 16, (Nat.digitChar digit).utf8Size = 1 := by decide
  exact digits _ (Nat.mod_lt n (by decide))

/-- Within a string the text is read as one piece, which stands for the character. -/
def Spells (c : Char) (text : List Char) : Prop :=
  ∃ piece : Piece, piece.Shows c ∧ ∀ frames root isName pieces,
    (⟨frames, root, .text isName .none pieces⟩ : Reading).Reads text
      ⟨frames, root, .text isName .none (piece :: pieces)⟩

/-- A short escape spells the character that it means. -/
theorem spells_shortEscape {c meant : Char} (short : shortEscape? c = some meant)
    (other : c ≠ 'u') : Spells meant ['\\', c] := by
  refine ⟨.char meant, Piece.char_shows meant, fun frames root isName pieces => ?_⟩
  have opened : (⟨frames, root, .text isName .none pieces⟩ : Reading).step '\\' =
      .running ⟨frames, root, .text isName .backslash pieces⟩ := rfl
  refine .cons opened (.single ?_)
  unfold Reading.step Reading.letter
  simp only [if_neg other, short]

/-- The last two of the four digits of an escape say all of a character below 256. -/
theorem spells_hexEscape {c : Char} (small : c.toNat < 256) :
    Spells c ['\\', 'u', '0', '0', hexDigit (c.toNat / 16), hexDigit c.toNat] := by
  refine ⟨.unit c.toNat, Piece.unit_shows (by omega), fun frames root isName pieces => ?_⟩
  have zeros : (⟨frames, root, .text isName .none pieces⟩ : Reading).Reads ['\\', 'u', '0', '0']
      ⟨frames, root, .text isName (.hex 2 0 false) pieces⟩ :=
    .cons rfl (.cons rfl (.cons rfl (.single rfl)))
  have third :
      (⟨frames, root, .text isName (.hex 2 0 false) pieces⟩ : Reading).step (hexDigit (c.toNat / 16)) =
        .running ⟨frames, root, .text isName (.hex 3 (c.toNat / 16) false) pieces⟩ := by
    have digit : c.toNat / 16 % 16 = c.toNat / 16 := Nat.mod_eq_of_lt (by omega)
    unfold Reading.step Reading.letter
    simp [hexValue?_hexDigit, utf8Size_hexDigit, digit]
  have fourth :
      (⟨frames, root, .text isName (.hex 3 (c.toNat / 16) false) pieces⟩ : Reading).step
          (hexDigit c.toNat) =
        .running ⟨frames, root, .text isName .none (.unit c.toNat :: pieces)⟩ := by
    have whole : c.toNat / 16 * 16 + c.toNat % 16 = c.toNat := Nat.div_add_mod' c.toNat 16
    unfold Reading.step Reading.letter
    simp [hexValue?_hexDigit, utf8Size_hexDigit, whole]
  exact zeros.trans (.cons third (.single fourth))

/-- A character that may stand in a string spells itself. -/
theorem spells_self {c : Char} (noQuote : c ≠ '"') (noBackslash : c ≠ '\\')
    (printed : ¬ c.toNat < 32) : Spells c [c] := by
  refine ⟨.char c, Piece.char_shows c, fun frames root isName pieces => .single ?_⟩
  unfold Reading.step Reading.letter
  simp only [if_neg noQuote, if_neg noBackslash, if_neg printed]

/-- The escaped form of a character spells it. -/
theorem spells_escapedChar (c : Char) : Spells c (escapedChar c) := by
  unfold escapedChar
  split_ifs with isQuote isBackslash isNewline isReturn isTab isBackspace isFeed isControl
  · subst isQuote
    exact spells_shortEscape rfl (by decide)
  · subst isBackslash
    exact spells_shortEscape rfl (by decide)
  · subst isNewline
    exact spells_shortEscape rfl (by decide)
  · subst isReturn
    exact spells_shortEscape rfl (by decide)
  · subst isTab
    exact spells_shortEscape rfl (by decide)
  · obtain rfl : c = '\x08' := Char.toNat_inj.mp isBackspace
    exact spells_shortEscape rfl (by decide)
  · obtain rfl : c = '\x0c' := Char.toNat_inj.mp isFeed
    exact spells_shortEscape rfl (by decide)
  · exact spells_hexEscape (by omega)
  · exact spells_self isQuote isBackslash isControl

/-- The characters of a string are read one after the other, and their pieces join to them. -/
theorem exists_reads_escapedChars (letters : List Char) :
    ∃ shown : List Piece, (∀ fault, joinPieces fault shown = .ok letters) ∧
      ∀ frames root isName pieces,
        (⟨frames, root, .text isName .none pieces⟩ : Reading).Reads (letters.flatMap escapedChar)
          ⟨frames, root, .text isName .none (shown.reverse ++ pieces)⟩ := by
  induction letters with
  | nil => exact ⟨[], fun _ => rfl, fun _ _ _ _ => .refl _⟩
  | cons first rest ih =>
    obtain ⟨piece, shows, begins⟩ := spells_escapedChar first
    obtain ⟨shown, joined, continues⟩ := ih
    refine ⟨piece :: shown, fun fault => ?_, fun frames root isName pieces => ?_⟩
    · rw [shows, joined]
      rfl
    · rw [List.flatMap_cons, List.reverse_cons, List.append_assoc]
      exact (begins frames root isName pieces).trans (continues frames root isName (piece :: pieces))

section Quoted

variable {frames : List Frame} {root : Node} (content : String)

/-- Once a quote has opened a string, what was written into it is read, and so is the closing
quote. -/
theorem exists_reads_quoted {before : Reading} {isName : Bool}
    (opened : before.step '"' = .running ⟨frames, root, .text isName .none []⟩) :
    ∃ pieces, joinPieces .malformed pieces.reverse = .ok content.toList ∧
      before.Reads (quoted content).toList
        ((⟨frames, root, .text isName .none pieces⟩ : Reading).quoted isName pieces) := by
  obtain ⟨shown, joined, reads⟩ := exists_reads_escapedChars content.toList
  have letters := reads frames root isName []
  rw [List.append_nil] at letters
  refine ⟨shown.reverse, ?_, ?_⟩
  · rw [List.reverse_reverse, joined]
  · unfold Json.quoted
    rw [String.toList_ofList]
    exact .cons opened (letters.trans (.single rfl))

/-- A quoted text is read as a string where a value may stand. -/
theorem reads_string (closable : Bool) :
    (⟨frames, root, .between (.value closable)⟩ : Reading).Reads (quoted content).toList
      ((⟨frames, root, .between .more⟩ : Reading).place (.string { content := .ok content })) := by
  have opened : (⟨frames, root, .between (.value closable)⟩ : Reading).step '"' =
      .running ⟨frames, root, .text false .none []⟩ := rfl
  obtain ⟨pieces, joined, reads⟩ := exists_reads_quoted content opened
  unfold Reading.quoted at reads
  rw [joined, Except.map, String.ofList_toList] at reads
  exact reads

/-- A quoted text is read as the name of a member where a name may stand. -/
theorem reads_name (deep closable : Bool) (done : List (Scan String × Node)) :
    (⟨.members deep done none :: frames, root, .between (.name closable)⟩ : Reading).Reads
      (quoted content).toList
      ⟨.members deep done (some { content := .ok content }) :: frames, root, .between .colon⟩ := by
  have opened :
      (⟨.members deep done none :: frames, root, .between (.name closable)⟩ : Reading).step '"' =
        .running ⟨.members deep done none :: frames, root, .text true .none []⟩ := rfl
  obtain ⟨pieces, joined, reads⟩ := exists_reads_quoted content opened
  unfold Reading.quoted at reads
  rw [joined, Except.map, String.ofList_toList] at reads
  exact reads

end Quoted

/-! ## Containers -/

/-- The items of a list are rendered one by one. -/
theorem renderItems_eq_map (items : List Value) : renderItems items = items.map Value.render := by
  induction items with
  | nil => rfl
  | cons first rest ih =>
    rw [renderItems, ih]
    rfl

/-- The members of an object are rendered one by one, each after its name. -/
theorem renderMembers_eq_map (members : List (String × Value)) :
    renderMembers members =
      members.map fun member => quoted member.1 ++ ":" ++ member.2.render := by
  induction members with
  | nil => rfl
  | cons first rest ih =>
    rw [renderMembers, ih]
    rfl

/-- What a container holds is read part by part when each part is read where one is due, and a
comma makes the next one due. Where the first part is due a closing bracket may be as well. -/
theorem reads_separated {β γ : Type} {render : β → String} {part : β → γ}
    (due more : List γ → Reading) (comma : ∀ done, (more done).step ',' = .running (due done))
    {first : β} {rest : List β} {start : Reading} {done : List γ}
    (begins : start.Reads (render first).toList (more (part first :: done)))
    (each : ∀ item ∈ rest, ∀ done, (due done).Reads (render item).toList (more (part item :: done))) :
    start.Reads (String.intercalate "," ((first :: rest).map render)).toList
      (more (((first :: rest).map part).reverse ++ done)) := by
  induction rest generalizing first start done with
  | nil =>
    rw [List.map_singleton, String.toList_intercalate, List.map_singleton,
      List.intercalate_singleton]
    exact begins
  | cons second others ih =>
    rw [List.forall_mem_cons] at each
    have text : (String.intercalate "," ((first :: second :: others).map render)).toList =
        (render first).toList ++
          ',' :: (String.intercalate "," ((second :: others).map render)).toList := by
      simp only [String.toList_intercalate, List.map_cons, List.intercalate_cons_cons,
        List.append_assoc]
      rfl
    have order : ((first :: second :: others).map part).reverse ++ done =
        ((second :: others).map part).reverse ++ part first :: done := by
      rw [List.map_cons, List.reverse_cons, List.append_assoc]
      rfl
    rw [text, order]
    exact begins.trans (.cons (comma _) (ih (each.1 (part first :: done)) each.2))

/-- A container is read from bracket to bracket, whether or not there is anything in it. -/
theorem reads_enclosed {β γ : Type} {render : β → String} {part : β → γ}
    (due more after : List γ → Reading) {opening closing : Char} {before start : Reading}
    (opens : before.step opening = .running start)
    (comma : ∀ done, (more done).step ',' = .running (due done))
    (closesAtOnce : start.step closing = .running (after []))
    (closes : ∀ done, (more done).step closing = .running (after done.reverse)) {items : List β}
    (begins : ∀ item ∈ items, start.Reads (render item).toList (more [part item]))
    (each : ∀ item ∈ items, ∀ done,
      (due done).Reads (render item).toList (more (part item :: done))) :
    before.Reads (opening :: ((String.intercalate "," (items.map render)).toList ++ [closing]))
      (after (items.map part)) := by
  refine .cons opens ?_
  cases items with
  | nil => exact .single closesAtOnce
  | cons first rest =>
    rw [List.forall_mem_cons] at begins each
    have parts := reads_separated due more comma begins.1 each.2
    have closed := closes ((first :: rest).map part).reverse
    rw [List.append_nil] at parts
    rw [List.reverse_reverse] at closed
    exact parts.trans (.single closed)

/-- A container is not nested too deep where there is room for one more. -/
theorem not_deep {opened : Nat} (room : opened + 1 < depthLimit) :
    decide (depthLimit ≤ opened + 1) = false :=
  decide_eq_false (Nat.not_le.mpr room)

/-- The rendered value is read wherever a value is due and there is room for so many containers
inside each other. -/
def Value.ReadsBack (depth : Nat) (value : Value) : Prop :=
  ∀ frames root closable, frames.length + depth < depthLimit →
    (⟨frames, root, .between (.value closable)⟩ : Reading).Reads value.render.toList
      ((⟨frames, root, .between .more⟩ : Reading).place value.node)

namespace Value.ReadsBack

variable {depth : Nat}

/-- The null value is read back. -/
theorem null : Value.null.ReadsBack depth := by
  intro frames root closable _
  exact .cons rfl (.cons rfl (.cons rfl (.single rfl)))

/-- A flag is read back. -/
theorem bool (flag : Bool) : (Value.bool flag).ReadsBack depth := by
  intro frames root closable _
  cases flag with
  | false => exact .cons rfl (.cons rfl (.cons rfl (.cons rfl (.single rfl))))
  | true => exact .cons rfl (.cons rfl (.cons rfl (.single rfl)))

/-- A text is read back. -/
theorem string (content : String) : (Value.string content).ReadsBack depth := by
  intro frames root closable _
  rw [Value.node]
  exact reads_string content closable

/-- A list is read back one level deeper than its items. -/
theorem array {items : List Value} (each : ∀ item ∈ items, item.ReadsBack depth) :
    (Value.array items).ReadsBack (depth + 1) := by
  intro frames root closable room
  have opens : (⟨frames, root, .between (.value closable)⟩ : Reading).step '[' =
      .running ⟨.items false [] :: frames, root, .between (.value true)⟩ := by
    rw [← not_deep (by omega : frames.length + 1 < depthLimit)]
    rfl
  -- The array itself is open while its items are read, and it leaves room for one container less.
  have inside : ∀ item ∈ items, ∀ closable done,
      (⟨.items false done :: frames, root, .between (.value closable)⟩ : Reading).Reads
        item.render.toList ⟨.items false (item.node :: done) :: frames, root, .between .more⟩ := by
    intro item member closable done
    refine each item member _ root closable ?_
    rw [List.length_cons]
    omega
  rw [Value.render, Value.node, renderItems_eq_map, itemNodes_eq_map, String.toList_append,
    String.toList_append, List.append_assoc]
  exact reads_enclosed
    (fun done => ⟨.items false done :: frames, root, .between (.value false)⟩)
    (fun done => ⟨.items false done :: frames, root, .between .more⟩)
    (fun done => (⟨frames, root, .between .more⟩ : Reading).place (.array false done none))
    opens (fun _ => rfl) rfl (fun _ => rfl) (fun item member => inside item member true [])
    (fun item member => inside item member false)

/-- An object is read back one level deeper than its members. -/
theorem object {members : List (String × Value)}
    (each : ∀ member ∈ members, member.2.ReadsBack depth) :
    (Value.object members).ReadsBack (depth + 1) := by
  intro frames root closable room
  have opens : (⟨frames, root, .between (.value closable)⟩ : Reading).step '\x7b' =
      .running ⟨.members false [] none :: frames, root, .between (.name true)⟩ := by
    rw [← not_deep (by omega : frames.length + 1 < depthLimit)]
    rfl
  have inside : ∀ member ∈ members, ∀ closable done,
      (⟨.members false done none :: frames, root, .between (.name closable)⟩ : Reading).Reads
        (quoted member.1 ++ ":" ++ member.2.render).toList
        ⟨.members false (({ content := .ok member.1 }, member.2.node) :: done) none :: frames, root,
          .between .more⟩ := by
    intro member within closable done
    rw [String.toList_append, String.toList_append, List.append_assoc]
    refine (reads_name member.1 false closable done).trans (.cons rfl ?_)
    refine each member within _ root false ?_
    rw [List.length_cons]
    omega
  rw [Value.render, Value.node, renderMembers_eq_map, memberNodes_eq_map, String.toList_append,
    String.toList_append, List.append_assoc]
  exact reads_enclosed
    (fun done => ⟨.members false done none :: frames, root, .between (.name false)⟩)
    (fun done => ⟨.members false done none :: frames, root, .between .more⟩)
    (fun done => (⟨frames, root, .between .more⟩ : Reading).place (.object false done none))
    opens (fun _ => rfl) rfl (fun _ => rfl) (fun member within => inside member within true [])
    (fun member within => inside member within false)

end Value.ReadsBack

/-- The value has no numbers in it, and no more than so many containers inside each other. -/
inductive Value.Plain : Nat → Value → Prop
  | null {depth : Nat} : Plain depth .null
  | bool {depth : Nat} (flag : Bool) : Plain depth (.bool flag)
  | string {depth : Nat} (content : String) : Plain depth (.string content)
  | array {depth : Nat} {items : List Value} (each : ∀ item ∈ items, Plain depth item) :
      Plain (depth + 1) (.array items)
  | object {depth : Nat} {members : List (String × Value)}
      (each : ∀ member ∈ members, Plain depth member.2) : Plain (depth + 1) (.object members)

/-- A plain value is read back from its rendered text. -/
theorem Value.Plain.readsBack {depth : Nat} {value : Value} (plain : value.Plain depth) :
    value.ReadsBack depth := by
  induction plain with
  | null => exact .null
  | bool flag => exact .bool flag
  | string content => exact .string content
  | array _ ih => exact .array ih
  | object _ ih => exact .object ih

/-- What is rendered is read as the value it was, and nothing follows it. -/
theorem read_render {depth : Nat} {value : Value} (plain : value.Plain depth)
    (room : depth < depthLimit) : read value.render = ⟨value.node, none⟩ := by
  have reads := plain.readsBack [] .null false (by simpa using room) []
  rw [List.append_nil] at reads
  exact reads

/-- A decoder makes of a rendered text what it makes of the value. -/
theorem decodeText_render {α : Type} (decoder : Decoder α) {depth : Nat} {value : Value}
    (plain : value.Plain depth) (room : depth < depthLimit) :
    decodeText decoder value.render = decoder value.node := by
  unfold decodeText
  rw [read_render plain room]
  exact bind_pure (decoder value.node)

end BuildRules.Json
