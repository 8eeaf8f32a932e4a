import ImageConfig.Json.Compact
import ImageConfig.Json.Reader

/-!
# Reading compact texts

The compact text of a value gives that value back. It is read in two stages, and each is inverted on
its own: the characters of the text give the tokens of the value (`Tree.lexes`), and the tokens give
the value at whatever place it stands (`Tree.foldl_tokens`). Both follow the value part by part,
for values that hold no numbers (`Tree.isPlain`), as configuration files do. In a string, every
character comes back from its escape (`lexes_escapeChar`).
-/

namespace ImageConfig.Json

/-! ## Values without numbers -/

mutual

/-- Whether a value goes on to its end, holds no number, and each of its strings has a value. -/
def Tree.isPlain : Tree → Bool
  | .null | .bool _ => true
  | .string value => value.isSome
  | .array items => items.isPlain
  | .object members => members.isPlain
  | .number _ | .broken => false

/-- Whether an array goes on to its end and its items are plain. -/
def Items.isPlain : Items → Bool
  | .close => true
  | .cut => false
  | .item head rest => head.isPlain && rest.isPlain

/-- Whether an object goes on to its end and its keys and values are plain. -/
def Members.isPlain : Members → Bool
  | .close => true
  | .cut => false
  | .member key value rest => key.isSome && value.isPlain && rest.isPlain

end

mutual

/-- The tokens of a value. -/
def Tree.tokens : Tree → List Token
  | .null => [.null]
  | .bool value => [.bool value]
  | .number number => [.number number]
  | .string value => [.string value]
  | .array items => .openArray :: items.tokens
  | .object members => .openObject :: members.tokens
  | .broken => [.bad]

/-- The tokens of the items after the opening bracket. -/
def Items.tokens : Items → List Token
  | .close => [.closeArray]
  | .cut => []
  | .item head rest => head.tokens ++ rest.restTokens

/-- The tokens of the items after another item. -/
def Items.restTokens : Items → List Token
  | .close => [.closeArray]
  | .cut => []
  | .item head rest => .comma :: (head.tokens ++ rest.restTokens)

/-- The tokens of the members after the opening brace. -/
def Members.tokens : Members → List Token
  | .close => [.closeObject]
  | .cut => []
  | .member key value rest => .string key :: .colon :: (value.tokens ++ rest.restTokens)

/-- The tokens of the members after another member. -/
def Members.restTokens : Members → List Token
  | .close => [.closeObject]
  | .cut => []
  | .member key value rest =>
    .comma :: .string key :: .colon :: (value.tokens ++ rest.restTokens)

end

/-- Items are plain if they all are. -/
theorem Items.isPlain_ofList {items : List Tree} (plain : ∀ item ∈ items, item.isPlain = true) :
    (Items.ofList items).isPlain = true := by
  induction items with
  | nil => rfl
  | cons head rest hyp =>
    rw [List.forall_mem_cons] at plain
    rw [ofList, isPlain, plain.1, hyp plain.2, Bool.and_self]

/-- Members are plain if their values all are. -/
theorem Members.isPlain_ofList {members : List (String × Tree)}
    (plain : ∀ member ∈ members, member.2.isPlain = true) :
    (Members.ofList members).isPlain = true := by
  induction members with
  | nil => rfl
  | cons head rest hyp =>
    rw [List.forall_mem_cons] at plain
    rw [ofList, isPlain, plain.1, hyp plain.2, Option.isSome_some, Bool.and_self, Bool.and_self]

/-- A list of values that are each plain is plain. -/
theorem Tree.isPlain_ofList {α : Type} {write : α → Tree}
    (each : ∀ value, (write value).isPlain = true) (values : List α) :
    (Tree.ofList (values.map write)).isPlain = true := by
  refine Items.isPlain_ofList fun item among => ?_
  obtain ⟨value, _, rfl⟩ := List.mem_map.mp among
  exact each value

/-- A list of strings is plain. -/
theorem Tree.isPlain_ofStrings (strings : List String) :
    (Tree.ofStrings strings).isPlain = true :=
  isPlain_ofList (fun _ => rfl) strings

/-! ## From characters to tokens -/

/-- In mode `mode` the automaton takes the characters, emits the tokens and is in mode `after`
then. -/
def Lexes (mode : Mode) (chars : List Char) (emitted : List Token) (after : Mode) : Prop :=
  ∀ before, chars.foldl Lexer.step ⟨before, mode⟩ = ⟨emitted.reverse ++ before, after⟩

namespace Lexes

variable {first second third : Mode} {chars others : List Char} {emitted later : List Token}

/-- No character changes nothing. -/
theorem nil (mode : Mode) : Lexes mode [] [] mode := fun _ => rfl

/-- One character is one step. -/
theorem single {char : Char} (step : first.step char = (emitted, second)) :
    Lexes first [char] emitted second := by
  intro before
  simp [Lexer.step, step]

/-- Characters taken one after the other emit their tokens one after the other. -/
theorem append (head : Lexes first chars emitted second) (tail : Lexes second others later third) :
    Lexes first (chars ++ others) (emitted ++ later) third := by
  intro before
  rw [List.foldl_append, head, tail, List.reverse_append, List.append_assoc]

/-- A first character is one step, and the others follow. -/
theorem cons {char : Char} (step : first.step char = (emitted, second))
    (tail : Lexes second others later third) :
    Lexes first (char :: others) (emitted ++ later) third :=
  append (single step) tail

end Lexes

/-- The letter that stands for a character after a backslash stands for that character alone, and is
not the mark of a 16-bit unit. -/
theorem unescape?_of_escapeLetter? {char letter : Char}
    (stands : escapeLetter? char = some letter) :
    letter ≠ 'u' ∧ unescape? letter = some char := by
  unfold escapeLetter? at stands
  split at stands <;> cases stands <;> exact ⟨by decide, rfl⟩

/-- A hexadecimal digit has the value it was written for. -/
theorem hexDigit?_digitChar : ∀ value < 16, hexDigit? (Nat.digitChar value) = some value := by
  decide

/-- A 16-bit unit below U+0020 stands for the character of that number. -/
theorem pushUnit_of_lt {draft : Draft} (alone : draft.high = none) {unit : Nat}
    (low : unit < 0x20) :
    draft.pushUnit unit = { taken := draft.taken.map (Char.ofNat unit :: ·) } := by
  have notHigh : isHighSurrogate unit = false := by
    simp only [isHighSurrogate, Bool.and_eq_false_iff, decide_eq_false_iff_not]
    omega
  have notLow : isLowSurrogate unit = false := by
    simp only [isLowSurrogate, Bool.and_eq_false_iff, decide_eq_false_iff_not]
    omega
  simp [Draft.pushUnit, alone, notHigh, notLow]

/-- In a string, the escape of a character is taken as that character. -/
theorem lexes_escapeChar (taken : List Char) (char : Char) :
    Lexes (.string { taken := some taken }) (escapeChar char) []
      (.string { taken := some (char :: taken) }) := by
  let draft : Draft := { taken := some taken }
  have backslash : Mode.step (.string draft) '\\' = ([], .escape draft) := rfl
  unfold escapeChar
  cases escape : escapeLetter? char with
  | some letter =>
    obtain ⟨notUnit, unescaped⟩ := unescape?_of_escapeLetter? escape
    have last : Mode.step (.escape draft) letter = ([], .string (draft.push char)) := by
      simp [Mode.step, notUnit, unescaped]
    exact Lexes.cons backslash (.single last)
  | none =>
    by_cases control : char.toNat < 0x20
    · have mark : Mode.step (.escape draft) 'u' = ([], .unit draft 4 0) := rfl
      have first : Mode.step (.unit draft 4 0) '0' = ([], .unit draft 3 0) := rfl
      have second : Mode.step (.unit draft 3 0) '0' = ([], .unit draft 2 0) := rfl
      have third : Mode.step (.unit draft 2 0) (Nat.digitChar (char.toNat / 16)) =
          ([], .unit draft 1 (char.toNat / 16)) := by
        simp [Mode.step, hexDigit?_digitChar (char.toNat / 16) (by omega)]
      have whole : char.toNat / 16 * 16 + char.toNat % 16 = char.toNat := by omega
      have pushed : draft.pushUnit char.toNat = { taken := some (char :: taken) } := by
        rw [pushUnit_of_lt rfl control, Char.ofNat_toNat]
        rfl
      have last : Mode.step (.unit draft 1 (char.toNat / 16))
          (Nat.digitChar (char.toNat % 16)) =
            ([], .string { taken := some (char :: taken) }) := by
        simp [Mode.step, hexDigit?_digitChar (char.toNat % 16) (by omega), whole, pushed]
      rw [if_pos control]
      exact Lexes.cons backslash (.cons mark (.cons first (.cons second (.cons third
        (.single last)))))
    · have notQuote : char ≠ '"' := fun same => by simp [same, escapeLetter?] at escape
      have notBackslash : char ≠ '\\' := fun same => by simp [same, escapeLetter?] at escape
      have itself : Mode.step (.string draft) char = ([], .string (draft.push char)) := by
        simp [Mode.step, notQuote, notBackslash, control]
      rw [if_neg control]
      exact Lexes.single itself

/-- The escapes of characters are taken as those characters, in order. -/
theorem lexes_escapes (taken chars : List Char) :
    Lexes (.string { taken := some taken }) (chars.flatMap escapeChar) []
      (.string { taken := some (chars.reverse ++ taken) }) := by
  induction chars generalizing taken with
  | nil => exact Lexes.nil _
  | cons char rest hyp =>
    have later := hyp (char :: taken)
    rw [List.flatMap_cons, List.reverse_cons, List.append_assoc, List.singleton_append]
    exact (lexes_escapeChar taken char).append later

/-- A string between quotation marks is one token with that string as its value. -/
theorem lexes_quoted (string : String) :
    Lexes .between (quoted string) [.string (some string)] .between := by
  have mark : Mode.step .between '"' = ([], .string {}) := rfl
  have chars := lexes_escapes [] string.toList
  let draft : Draft := { taken := some (string.toList.reverse ++ []) }
  have value : draft.value? = some string := by simp [draft, Draft.value?]
  have close : Mode.step (.string draft) '"' = ([.string (some string)], .between) := by
    rw [← value]
    rfl
  exact Lexes.cons mark (chars.append (.single close))

/-- A key and its value give their tokens with a colon between them. -/
theorem lexes_member {value : Tree} (key : String)
    (lexed : Lexes .between value.text value.tokens .between) :
    Lexes .between (stringText (some key) ++ ':' :: value.text)
      (.string (some key) :: .colon :: value.tokens) .between := by
  have colon : Mode.step .between ':' = ([.colon], .between) := rfl
  exact (lexes_quoted key).append (Lexes.cons colon lexed)

mutual

/-- The compact text of a plain value gives the tokens of that value. -/
theorem Tree.lexes : ∀ {tree : Tree}, tree.isPlain = true →
    Lexes .between tree.text tree.tokens .between
  | .null, _ | .bool true, _ | .bool false, _ => fun _ => rfl
  | .string (some string), _ => lexes_quoted string
  | .array _, plain => Lexes.cons rfl (Items.lexes plain)
  | .object _, plain => Lexes.cons rfl (Members.lexes plain)

/-- The text of plain items gives their tokens. -/
theorem Items.lexes : ∀ {items : Items}, items.isPlain = true →
    Lexes .between items.text items.tokens .between
  | .close, _ => Lexes.single rfl
  | .item _ _, plain =>
    have both := Bool.and_eq_true_iff.mp plain
    (Tree.lexes both.1).append (Items.lexesRest both.2)

/-- The text of plain items after another one gives their tokens. -/
theorem Items.lexesRest : ∀ {items : Items}, items.isPlain = true →
    Lexes .between items.restText items.restTokens .between
  | .close, _ => Lexes.single rfl
  | .item _ _, plain =>
    have both := Bool.and_eq_true_iff.mp plain
    Lexes.cons rfl ((Tree.lexes both.1).append (Items.lexesRest both.2))

/-- The text of plain members gives their tokens. -/
theorem Members.lexes : ∀ {members : Members}, members.isPlain = true →
    Lexes .between members.text members.tokens .between
  | .close, _ => Lexes.single rfl
  | .member (some key) _ _, plain =>
    have both := Bool.and_eq_true_iff.mp plain
    (lexes_member key (Tree.lexes both.1)).append (Members.lexesRest both.2)

/-- The text of plain members after another one gives their tokens. -/
theorem Members.lexesRest : ∀ {members : Members}, members.isPlain = true →
    Lexes .between members.restText members.restTokens .between
  | .close, _ => Lexes.single rfl
  | .member (some key) _ _, plain =>
    have both := Bool.and_eq_true_iff.mp plain
    Lexes.cons rfl ((lexes_member key (Tree.lexes both.1)).append (Members.lexesRest both.2))

end

/-! ## From tokens to values -/

/-- A plain value has a first token, which begins a value also where an array has just been
opened. -/
theorem Tree.tokens_eq_cons {tree : Tree} (plain : tree.isPlain = true) :
    ∃ token rest, tree.tokens = token :: rest ∧ ∀ stack,
      Progress.step (.arrayStart stack) token =
        Progress.step (.value (.array [] :: stack)) token := by
  cases tree with
  | null | bool | string | array | object => exact ⟨_, _, rfl, fun _ => rfl⟩
  | number | broken => cases plain

/-- The first value of an array is built as any other value. -/
theorem Tree.foldl_tokens_arrayStart {tree : Tree} (plain : tree.isPlain = true)
    (stack : List Frame) :
    tree.tokens.foldl Progress.step (.arrayStart stack) =
      tree.tokens.foldl Progress.step (.value (.array [] :: stack)) := by
  obtain ⟨token, rest, tokens, begins⟩ := tokens_eq_cons plain
  rw [tokens, List.foldl_cons, List.foldl_cons, begins]

mutual

/-- The tokens of a plain value put that value at the current place. -/
theorem Tree.foldl_tokens : ∀ {tree : Tree}, tree.isPlain = true → ∀ stack,
    tree.tokens.foldl Progress.step (.value stack) = .place tree stack
  | .null, _, _ | .bool _, _, _ | .string _, _, _ => rfl
  | .array _, plain, stack => Items.foldl_tokens plain stack
  | .object _, plain, stack => Members.foldl_tokens plain stack

/-- The tokens of plain items complete an array that has just been opened. -/
theorem Items.foldl_tokens : ∀ {items : Items}, items.isPlain = true → ∀ stack,
    items.tokens.foldl Progress.step (.arrayStart stack) = .place (.array items) stack
  | .close, _, _ => rfl
  | .item head rest, plain, stack => by
    obtain ⟨first, others⟩ := Bool.and_eq_true_iff.mp plain
    rw [Items.tokens, List.foldl_append, Tree.foldl_tokens_arrayStart first,
      Tree.foldl_tokens first]
    exact Items.foldl_restTokens others [head] stack

/-- The tokens of plain items complete an array after the items before them. -/
theorem Items.foldl_restTokens : ∀ {items : Items}, items.isPlain = true → ∀ before stack,
    items.restTokens.foldl Progress.step (.arrayNext before stack) =
      .place (.array (items.prepend before)) stack
  | .close, _, _, _ => rfl
  | .item head rest, plain, before, stack => by
    obtain ⟨first, others⟩ := Bool.and_eq_true_iff.mp plain
    have comma : Progress.step (.arrayNext before stack) .comma =
        .value (.array before :: stack) := rfl
    rw [Items.restTokens, List.foldl_cons, comma, List.foldl_append, Tree.foldl_tokens first]
    exact Items.foldl_restTokens others (head :: before) stack

/-- The tokens of plain members complete an object that has just been opened. -/
theorem Members.foldl_tokens : ∀ {members : Members}, members.isPlain = true → ∀ stack,
    members.tokens.foldl Progress.step (.objectStart stack) = .place (.object members) stack
  | .close, _, _ => rfl
  | .member key value rest, plain, stack => by
    obtain ⟨named, others⟩ := Bool.and_eq_true_iff.mp plain
    obtain ⟨_, first⟩ := Bool.and_eq_true_iff.mp named
    have opened : Progress.step (Progress.step (.objectStart stack) (.string key)) .colon =
        .value (.object [] key :: stack) := rfl
    rw [Members.tokens, List.foldl_cons, List.foldl_cons, opened, List.foldl_append,
      Tree.foldl_tokens first]
    exact Members.foldl_restTokens others [(key, value)] stack

/-- The tokens of plain members complete an object after the members before them. -/
theorem Members.foldl_restTokens : ∀ {members : Members}, members.isPlain = true →
    ∀ before stack, members.restTokens.foldl Progress.step (.objectNext before stack) =
      .place (.object (members.prepend before)) stack
  | .close, _, _, _ => rfl
  | .member key value rest, plain, before, stack => by
    obtain ⟨named, others⟩ := Bool.and_eq_true_iff.mp plain
    obtain ⟨_, first⟩ := Bool.and_eq_true_iff.mp named
    have opened : Progress.step (Progress.step (Progress.step (.objectNext before stack) .comma)
        (.string key)) .colon = .value (.object before key :: stack) := rfl
    rw [Members.restTokens, List.foldl_cons, List.foldl_cons, List.foldl_cons, opened,
      List.foldl_append, Tree.foldl_tokens first]
    exact Members.foldl_restTokens others ((key, value) :: before) stack

end

/-! ## Whole texts -/

/-- The document of a compact text is the value it was written for, and nothing follows it. -/
theorem Document.ofText_compact {tree : Tree} (plain : tree.isPlain = true) :
    Document.ofText tree.compact = ⟨tree, true⟩ := by
  have tokens : tokens tree.compact.toList = tree.tokens := by
    have lexed := Tree.lexes plain []
    unfold Tree.compact Json.tokens
    rw [String.toList_ofList, lexed]
    change (tree.tokens.reverse ++ []).reverse ++ [] = tree.tokens
    rw [List.append_nil, List.append_nil, List.reverse_reverse]
  unfold Document.ofText
  rw [tokens, Tree.foldl_tokens plain]
  rfl

/-- Reading a text that gives a whole value, and nothing after it, is reading that value. -/
theorem Reader.readText_of_document {α : Type} (reader : Reader α) {text : String} {tree : Tree}
    (document : Document.ofText text = ⟨tree, true⟩) :
    reader.readText text = reader nestingLimit tree := by
  unfold readText
  rw [document]
  cases read : reader nestingLimit tree with
  | error fault =>
    simp only [read]
    rfl
  | ok value =>
    simp only [read]
    rfl

/-- Reading a compact text is reading the value it was written for. -/
theorem Reader.readText_compact {α : Type} (reader : Reader α) {tree : Tree}
    (plain : tree.isPlain = true) :
    reader.readText tree.compact = reader nestingLimit tree :=
  reader.readText_of_document (Document.ofText_compact plain)

/-! ## Typed readers -/

section Readers

variable {α σ : Type}

/-- Items that are each read back are read back in order. -/
theorem readItems_ofList {item : Tree → Except Fault α} {write : α → Tree}
    (each : ∀ value, item (write value) = .ok value) (values : List α) :
    readItems item (Items.ofList (values.map write)) = .ok values := by
  induction values with
  | nil => rfl
  | cons head rest hyp =>
    rw [List.map_cons, Items.ofList, readItems, each, hyp]
    rfl

/-- An array of values that are each read back is read back. -/
theorem readArray_ofList {item : Reader α} {write : α → Tree} {levels : Nat}
    (each : ∀ value, item levels (write value) = .ok value) (expected : Expected)
    (values : List α) :
    readArray expected item (levels + 1) (.ofList (values.map write)) = .ok values :=
  readItems_ofList each values

/-- A list of strings is read back. -/
theorem readStrings_ofStrings (expected : Expected) (levels : Nat) (strings : List String) :
    readStrings expected (levels + 1) (.ofStrings strings) = .ok strings :=
  readArray_ofList (fun _ => rfl) expected strings

/-- A slot that fills one part of a structure is read as its value is. -/
theorem Slot.read_of {key : String} {part : σ → Option α} {fill : σ → α → σ} {reader : Reader α}
    {levels : Nat} {tree : Tree} {value : α} (read : reader levels tree = .ok value) (draft : σ) :
    (Slot.of key part fill reader).read levels draft tree = .ok (fill draft value) := by
  unfold Slot.of
  simp only [read]
  rfl

/-- A structure whose members are all read is read. -/
theorem Shape.reader_object {shape : Shape σ α} {levels : Nat} {members : Members} {draft : σ}
    {value : α}
    (read : readMembers shape.slots skipUnknown levels shape.start members = .ok draft)
    (finished : shape.finish draft = some value) :
    shape.reader (levels + 1) (.object members) = .ok value := by
  change (readMembers shape.slots skipUnknown levels shape.start members >>= _) = _
  rw [read]
  simp only [bind, Except.bind, finished]
  rfl

variable {slots : List (Slot σ)} {unknown : σ → String → Tree → Except Fault σ} {levels : Nat}
  {draft next : σ} {key : String} {value : Tree} {rest : Members}

/-- A known key that has not been read yet is read by its slot. -/
theorem readMembers_known {slot : Slot σ}
    (known : slots.find? (fun slot => slot.key == key) = some slot)
    (unread : slot.isRead draft = false) (read : slot.read levels draft value = .ok next) :
    readMembers slots unknown levels draft (.member (some key) value rest) =
      readMembers slots unknown levels next rest := by
  rw [readMembers, known]
  simp only [unread, read]
  rfl

/-- A key that is not known is left to be dealt with otherwise. -/
theorem readMembers_unknown (strange : slots.find? (fun slot => slot.key == key) = none)
    (read : unknown draft key value = .ok next) :
    readMembers slots unknown levels draft (.member (some key) value rest) =
      readMembers slots unknown levels next rest := by
  rw [readMembers, strange]
  simp only [read]
  rfl

end Readers

end ImageConfig.Json
