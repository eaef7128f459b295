import Skimasque.Library.Text

/-! A fragment of TOML: tables of texts, numbers and lists of texts, one entry a line.

A document is printed with nothing escaped in a text but the backslash and the quote. Such a document
is read back as it was exactly when its texts hold no control character other than the tab and its
integers fit in 64 bits with a sign; otherwise it is not TOML at all.
-/

set_option autoImplicit false

namespace Skimasque.Library.Toml

/-- What a document holds under a key; floats and dates are not told apart. -/
inductive Value where
  | text (value : String)
  | integer (value : Int)
  | boolean (value : Bool)
  | array (items : List Value)
  | table (entries : List (String × Value))
  | other

abbrev Table := List (String × Value)

inductive Item where
  | text (value : String)
  | integer (value : Nat)
  | boolean (value : Bool)
  | texts (values : List String)
  deriving DecidableEq, Repr

abbrev Entries := List (String × Item)

/-- `[name]` or `[[name]]`. -/
inductive Heading where
  | table (name : String)
  | element (name : String)
  deriving DecidableEq, Repr

structure Part where
  heading : Heading
  entries : Entries
  deriving DecidableEq, Repr

structure Document where
  root : Entries
  parts : List Part
  deriving DecidableEq, Repr

/-! ## What a document says -/

def Item.value : Item → Value
  | .text value => .text value
  | .integer value => .integer value
  | .boolean value => .boolean value
  | .texts values => .array (values.map .text)

def values (entries : Entries) : Table := entries.map fun entry => (entry.1, entry.2.value)

/-- One more element of an array of tables. -/
def addElement (name : String) (element : Value) : Table → Table
  | [] => [(name, .array [element])]
  | (key, .array items) :: rest =>
    if key = name then (key, .array (items ++ [element])) :: rest else (key, .array items) :: addElement name element rest
  | entry :: rest => entry :: addElement name element rest

def addPart (table : Table) (part : Part) : Table :=
  match part.heading with
  | .table name => table ++ [(name, .table (values part.entries))]
  | .element name => addElement name (.table (values part.entries)) table

def Document.table (document : Document) : Table := document.parts.foldl addPart (values document.root)

/-! ## Printing -/

def escape (c : Char) : List Char :=
  if c = '\\' then ['\\', '\\'] else if c = '"' then ['\\', '"'] else [c]

def basicString (value : String) : String := "\"" ++ String.ofList (value.toList.flatMap escape) ++ "\""

def entryLines (entry : String × Item) : List String :=
  match entry.2 with
  | .text value => [entry.1 ++ " = " ++ basicString value]
  | .integer value => [entry.1 ++ " = " ++ toString value]
  | .boolean value => [entry.1 ++ " = " ++ if value then "true" else "false"]
  | .texts values =>
    [entry.1 ++ " = ["] ++ values.map (fun value => "    " ++ basicString value ++ ",") ++ ["]"]

def Heading.line : Heading → String
  | .table name => "[" ++ name ++ "]"
  | .element name => "[[" ++ name ++ "]]"

/-- A blank line goes before every heading. -/
def partLines (part : Part) : List String := ["", part.heading.line] ++ part.entries.flatMap entryLines

def Document.lines (document : Document) : List String :=
  document.root.flatMap entryLines ++ document.parts.flatMap partLines

def unlines (lines : List String) : String := String.ofList (lines.flatMap fun line => line.toList ++ ['\n'])

def Document.text (document : Document) : String := unlines document.lines

/-! ## Entries that may be left out -/

section
variable {α β : Type}

/-- The keys that have a value, with their values. -/
def present (slots : List (String × Option α)) : List (String × α) :=
  slots.filterMap fun slot => slot.2.map fun value => (slot.1, value)

theorem present_cons_none (key : String) (slots : List (String × Option α)) :
    present ((key, none) :: slots) = present slots := rfl

theorem present_cons_some (key : String) (value : α) (slots : List (String × Option α)) :
    present ((key, some value) :: slots) = (key, value) :: present slots := rfl

theorem present_append (front back : List (String × Option α)) : present (front ++ back) = present front ++ present back :=
  List.filterMap_append

theorem map_present (slots : List (String × Option α)) (f : α → β) :
    (present slots).map (fun entry => (entry.1, f entry.2)) = present (slots.map fun slot => (slot.1, slot.2.map f)) := by
  induction slots with
  | nil => rfl
  | cons slot slots ih =>
    obtain ⟨key, value⟩ := slot
    cases value with
    | none => exact ih
    | some value => exact congrArg ((key, f value) :: ·) ih

theorem keys_present_sublist (slots : List (String × Option α)) :
    ((present slots).map Prod.fst).Sublist (slots.map Prod.fst) := by
  induction slots with
  | nil => exact .slnil
  | cons slot slots ih =>
    obtain ⟨key, value⟩ := slot
    cases value with
    | none => exact ih.cons key
    | some value => exact ih.cons_cons key

theorem key_mem_of_mem_present {slots : List (String × Option α)} {entry : String × α} (member : entry ∈ present slots) :
    entry.1 ∈ slots.map Prod.fst :=
  (keys_present_sublist slots).subset (List.mem_map_of_mem member)

theorem mem_present_iff {slots : List (String × Option α)} {entry : String × α} :
    entry ∈ present slots ↔ (entry.1, some entry.2) ∈ slots := by
  simp only [present, List.mem_filterMap, Option.map_eq_some_iff]
  constructor
  · rintro ⟨⟨key, value⟩, member, found, isFound, same⟩
    cases isFound
    cases same
    exact member
  · intro member
    exact ⟨_, member, entry.2, rfl, rfl⟩

/-- A key is looked up among the slots. -/
theorem lookup_present {slots : List (String × Option α)} (distinct : (slots.map Prod.fst).Nodup) (key : String) :
    (present slots).lookup key = (slots.lookup key).join := by
  induction slots with
  | nil => rfl
  | cons slot slots ih =>
    obtain ⟨first, value⟩ := slot
    rw [List.map_cons, List.nodup_cons] at distinct
    have rest := ih distinct.2
    by_cases same : key = first
    · subst same
      have absent : (present slots).lookup key = none := by
        rw [List.lookup_eq_none_iff]
        intro entry member
        have other : key ≠ entry.1 := fun equal => distinct.1 (equal ▸ key_mem_of_mem_present member)
        simpa using other
      cases value with
      | none => rw [present_cons_none, absent, List.lookup_cons_self]; rfl
      | some value => rw [present_cons_some, List.lookup_cons_self, List.lookup_cons_self]; rfl
    · have skip : (key == first) = false := by simpa using same
      cases value with
      | none => rw [present_cons_none, rest, List.lookup_cons, skip]
      | some value => rw [present_cons_some, List.lookup_cons, List.lookup_cons, skip, rest]

theorem values_present (slots : List (String × Option Item)) :
    values (present slots) = present (slots.map fun slot => (slot.1, slot.2.map Item.value)) :=
  map_present slots Item.value

end

/-! ## What parts add to a table -/

theorem foldl_addPart_tables (tables : List (String × Entries)) (table : Table) :
    (tables.map fun entry => (⟨.table entry.1, entry.2⟩ : Part)).foldl addPart table =
      table ++ tables.map fun entry => (entry.1, .table (values entry.2)) := by
  induction tables generalizing table with
  | nil => simp
  | cons entry tables ih =>
    rw [List.map_cons, List.foldl_cons, ih, List.map_cons]
    simp [addPart]

theorem addElement_absent {name : String} {table : Table} (absent : name ∉ table.map Prod.fst) (element : Value) :
    addElement name element table = table ++ [(name, .array [element])] := by
  induction table with
  | nil => rfl
  | cons entry table ih =>
    rw [List.map_cons, List.mem_cons, not_or] at absent
    obtain ⟨key, value⟩ := entry
    have other : key ≠ name := fun same => absent.1 same.symm
    cases value <;> simp [addElement, other, ih absent.2]

theorem addElement_last {name : String} {table : Table} (absent : name ∉ table.map Prod.fst) (items : List Value)
    (element : Value) :
    addElement name element (table ++ [(name, .array items)]) = table ++ [(name, .array (items ++ [element]))] := by
  induction table with
  | nil => simp [addElement]
  | cons entry table ih =>
    rw [List.map_cons, List.mem_cons, not_or] at absent
    obtain ⟨key, value⟩ := entry
    have other : key ≠ name := fun same => absent.1 same.symm
    cases value <;> simp [addElement, other, ih absent.2]

theorem foldl_addPart_last {name : String} {table : Table} (absent : name ∉ table.map Prod.fst) (elements : List Entries)
    (items : List Value) :
    (elements.map fun entries => (⟨.element name, entries⟩ : Part)).foldl addPart (table ++ [(name, .array items)]) =
      table ++ [(name, .array (items ++ elements.map fun entries => .table (values entries)))] := by
  induction elements generalizing items with
  | nil => simp
  | cons entries elements ih =>
    have added : addPart (table ++ [(name, .array items)]) ⟨.element name, entries⟩ =
        table ++ [(name, .array (items ++ [.table (values entries)]))] := addElement_last absent items _
    rw [List.map_cons, List.foldl_cons, added, ih, List.map_cons, List.append_assoc, List.singleton_append]

/-- The elements of one name become one array. -/
theorem foldl_addPart_elements {name : String} {table : Table} (absent : name ∉ table.map Prod.fst)
    (elements : List Entries) :
    (elements.map fun entries => (⟨.element name, entries⟩ : Part)).foldl addPart table =
      table ++ present [(name, if elements = [] then none
        else some (.array (elements.map fun entries => .table (values entries))))] := by
  cases elements with
  | nil => simp [present]
  | cons entries elements =>
    have added : addPart table ⟨.element name, entries⟩ = table ++ [(name, .array [.table (values entries)])] :=
      addElement_absent absent _
    rw [List.map_cons, List.foldl_cons, added, foldl_addPart_last absent]
    simp [present]

/-! ## What the grammar asks for -/

/-- A character that a basic string holds unescaped. -/
def isPlain (c : Char) : Bool := c == '\t' || (0x20 ≤ c.toNat && c.toNat != 0x7f)

def plainText (text : String) : Bool := text.toList.all isPlain

def Item.plain : Item → Bool
  | .text value => plainText value
  | .integer value => value < 2 ^ 63
  | .boolean _ => true
  | .texts values => values.all plainText

def plainEntries (entries : Entries) : Bool := entries.all fun entry => entry.2.plain

def Document.plain (document : Document) : Bool :=
  plainEntries document.root && document.parts.all fun part => plainEntries part.entries

def isBareKey (key : String) : Bool :=
  !Text.isEmpty key && key.toList.all fun c => Text.isAsciiAlphanumeric c || c == '_' || c == '-'

def Heading.name : Heading → String
  | .table name => name
  | .element name => name

/-- The keys are bare, and no table is opened or entry made twice. -/
structure Document.Keyed (document : Document) : Prop where
  root : (document.root.map Prod.fst).Nodup ∧ ∀ entry ∈ document.root, isBareKey entry.1 = true
  entries : ∀ part ∈ document.parts, (part.entries.map Prod.fst).Nodup ∧ ∀ entry ∈ part.entries, isBareKey entry.1 = true
  headings : ∀ part ∈ document.parts, isBareKey part.heading.name = true ∧ part.heading.name ∉ document.root.map Prod.fst
  tables : document.parts.Pairwise fun first second =>
    first.heading.name = second.heading.name →
      first.heading = .element first.heading.name ∧ second.heading = .element second.heading.name

/-- How a parser of the language answers printed documents. -/
structure Conforms (parse : String → Except String Table) : Prop where
  reads : ∀ document : Document, document.Keyed → document.plain = true → parse document.text = .ok document.table
  refuses : ∀ document : Document, document.Keyed → document.plain = false → ∃ message, parse document.text = .error message

/-! ## A reader of printed documents -/

/-- The rest of a basic string, its quote included. -/
def readText : List Char → Option (List Char × List Char)
  | [] => none
  | '"' :: rest => some ([], rest)
  | ['\\'] => none
  | '\\' :: c :: rest =>
    if c = '\\' ∨ c = '"' then (readText rest).map fun found => (c :: found.1, found.2) else none
  | c :: rest => if isPlain c then (readText rest).map fun found => (c :: found.1, found.2) else none

/-- What is left after a text that has to come next. -/
def expect (want : List Char) (chars : List Char) : Option (List Char) :=
  if want.isPrefixOf chars then some (chars.drop want.length) else none

/-- The lines of a list, down to its bracket. -/
def readTexts : Nat → List Char → Option (List String × List Char)
  | 0, _ => none
  | fuel + 1, chars =>
    match chars with
    | ']' :: rest => some ([], rest)
    | _ => do
      let (text, rest) ← readText (← expect "    \"".toList chars)
      let (texts, rest) ← readTexts fuel (← expect ",\n".toList rest)
      return (String.ofList text :: texts, rest)

def readItem (chars : List Char) : Option (Item × List Char) :=
  match chars with
  | '"' :: rest => (readText rest).map fun found => (.text (String.ofList found.1), found.2)
  | '[' :: '\n' :: rest => (readTexts chars.length rest).map fun found => (.texts found.1, found.2)
  | 't' :: _ => (expect "true".toList chars).map fun rest => (.boolean true, rest)
  | 'f' :: _ => (expect "false".toList chars).map fun rest => (.boolean false, rest)
  | _ =>
    let digits := chars.takeWhile Text.isAsciiDigit
    if digits.isEmpty then none
    else if Text.decimalValue digits < 2 ^ 63 then
      some (.integer (Text.decimalValue digits), chars.drop digits.length)
    else none

/-- The entries down to the next blank line or to the end. -/
def readEntries : Nat → List Char → Option (Entries × List Char)
  | 0, _ => none
  | fuel + 1, chars =>
    match chars with
    | [] => some ([], [])
    | '\n' :: rest => some ([], '\n' :: rest)
    | _ => do
      let key := chars.takeWhile (· != ' ')
      let (item, rest) ← readItem (← expect " = ".toList (chars.drop key.length))
      let (entries, rest) ← readEntries fuel (← expect ['\n'] rest)
      return ((String.ofList key, item) :: entries, rest)

def readHeading (chars : List Char) : Option (Heading × List Char) :=
  match chars with
  | '[' :: '[' :: rest =>
    let name := rest.takeWhile (· != ']')
    (expect "]]\n".toList (rest.drop name.length)).map fun rest => (.element (String.ofList name), rest)
  | '[' :: rest =>
    let name := rest.takeWhile (· != ']')
    (expect "]\n".toList (rest.drop name.length)).map fun rest => (.table (String.ofList name), rest)
  | _ => none

def readParts : Nat → List Char → Option (List Part)
  | 0, _ => none
  | fuel + 1, chars =>
    match chars with
    | [] => some []
    | _ => do
      let (heading, rest) ← readHeading (← expect ['\n'] chars)
      let (entries, rest) ← readEntries chars.length rest
      let parts ← readParts fuel rest
      return ⟨heading, entries⟩ :: parts

def readDocument (text : String) : Option Document := do
  let (root, rest) ← readEntries (text.toList.length + 1) text.toList
  let parts ← readParts (text.toList.length + 1) rest
  return ⟨root, parts⟩

def read (text : String) : Except String Table :=
  match readDocument text with
  | some document => .ok document.table
  | none => .error "invalid document"

theorem readText_escape (text rest : List Char) :
    readText (text.flatMap escape ++ '"' :: rest) = if text.all isPlain then some (text, rest) else none := by
  induction text with
  | nil => rfl
  | cons c text ih =>
    rw [List.flatMap_cons, List.append_assoc, List.all_cons]
    by_cases slash : c = '\\'
    · subst slash
      rw [show escape '\\' ++ (text.flatMap escape ++ '"' :: rest) = '\\' :: '\\' :: (text.flatMap escape ++ '"' :: rest) from rfl,
        readText, if_pos (.inl rfl), ih, show isPlain '\\' = true by decide, Bool.true_and]
      split
      · rfl
      · rfl
    · by_cases quote : c = '"'
      · subst quote
        rw [show escape '"' ++ (text.flatMap escape ++ '"' :: rest) = '\\' :: '"' :: (text.flatMap escape ++ '"' :: rest) from rfl,
          readText, if_pos (.inr rfl), ih, show isPlain '"' = true by decide, Bool.true_and]
        split
        · rfl
        · rfl
      · have same : escape c = [c] := by simp [escape, slash, quote]
        have unfolded (chars : List Char) : readText (c :: chars) =
            if isPlain c then (readText chars).map fun found => (c :: found.1, found.2) else none := by
          rw [readText]
          · exact quote
          · exact fun isSlash => absurd isSlash slash
          · exact fun _ _ isSlash => absurd isSlash slash
        rw [same, List.singleton_append, unfolded, ih]
        cases isPlain c with
        | false => rfl
        | true =>
          rw [Bool.true_and, if_pos rfl]
          split
          · rfl
          · rfl

theorem expect_append (want rest : List Char) : expect want (want ++ rest) = some rest := by
  simp [expect]

/-! ## What is printed, character by character -/

def textChars (text : String) : List Char := '"' :: (text.toList.flatMap escape ++ ['"'])

def Item.chars : Item → List Char
  | .text value => textChars value
  | .integer value => Nat.toDigits 10 value
  | .boolean value => (if value then "true" else "false").toList
  | .texts values => '[' :: '\n' :: (values.flatMap (fun value => "    ".toList ++ textChars value ++ ",\n".toList) ++ [']'])

def entryChars (entry : String × Item) : List Char :=
  entry.1.toList ++ (" = ".toList ++ (entry.2.chars ++ ['\n']))

def entriesChars (entries : Entries) : List Char := entries.flatMap entryChars

def partChars (part : Part) : List Char :=
  '\n' :: (part.heading.line.toList ++ '\n' :: entriesChars part.entries)

def lineChars (lines : List String) : List Char := lines.flatMap fun line => line.toList ++ ['\n']

theorem toList_basicString (text : String) : (basicString text).toList = textChars text := by
  simp [basicString, textChars]

theorem lineChars_entry (entry : String × Item) : lineChars (entryLines entry) = entryChars entry := by
  obtain ⟨key, item⟩ := entry
  cases item with
  | text value => simp [lineChars, entryLines, entryChars, Item.chars, toList_basicString]
  | integer value =>
    simp only [lineChars, entryLines, entryChars, Item.chars, List.flatMap_cons, List.flatMap_nil, String.toList_append,
      Text.toList_toString_nat, List.append_assoc, List.append_nil]
  | boolean value => simp [lineChars, entryLines, entryChars, Item.chars]
  | texts values =>
    simp [lineChars, entryLines, entryChars, Item.chars, toList_basicString, List.flatMap_map, List.append_assoc]

theorem lineChars_flatMap {α : Type} (items : List α) (lines : α → List String) :
    lineChars (items.flatMap lines) = items.flatMap fun item => lineChars (lines item) := by
  simp only [lineChars, List.flatMap_assoc]

theorem lineChars_entries (entries : Entries) : lineChars (entries.flatMap entryLines) = entriesChars entries := by
  rw [lineChars_flatMap, entriesChars]
  simp only [lineChars_entry]

theorem lineChars_part (part : Part) : lineChars (partLines part) = partChars part := by
  have entries := lineChars_entries part.entries
  unfold lineChars at entries
  simp [partLines, lineChars, partChars, entries]

theorem toList_text (document : Document) :
    document.text.toList = entriesChars document.root ++ document.parts.flatMap partChars := by
  have lines : document.text.toList = lineChars document.lines := by
    rw [Document.text, unlines, String.toList_ofList]
    rfl
  rw [lines, Document.lines, lineChars, List.flatMap_append]
  change lineChars (document.root.flatMap entryLines) ++ lineChars (document.parts.flatMap partLines) = _
  rw [lineChars_entries, lineChars_flatMap]
  simp only [lineChars_part]

/-! ## Reading it back -/

theorem readTexts_chars (values : List String) (rest : List Char) {fuel : Nat} (enough : values.length < fuel) :
    readTexts fuel (values.flatMap (fun value => "    ".toList ++ textChars value ++ ",\n".toList) ++ ']' :: rest) =
      if values.all plainText then some (values, rest) else none := by
  induction values generalizing fuel with
  | nil =>
    obtain ⟨fuel, rfl⟩ : ∃ less, fuel = less + 1 := ⟨fuel - 1, by simp at enough; omega⟩
    rfl
  | cons value values ih =>
    obtain ⟨fuel, rfl⟩ : ∃ less, fuel = less + 1 := ⟨fuel - 1, by simp at enough; omega⟩
    have later := ih (by simpa using enough)
    generalize tail : values.flatMap (fun value => "    ".toList ++ textChars value ++ ",\n".toList) ++ ']' :: rest = chars
      at later
    have shape : (value :: values).flatMap (fun value => "    ".toList ++ textChars value ++ ",\n".toList) ++ ']' :: rest =
        "    \"".toList ++ (value.toList.flatMap escape ++ '"' :: (",\n".toList ++ chars)) := by
      rw [← tail]
      simp [textChars]
    have opened : readTexts (fuel + 1) ("    \"".toList ++ (value.toList.flatMap escape ++ '"' :: (",\n".toList ++ chars))) =
        (expect "    \"".toList ("    \"".toList ++ (value.toList.flatMap escape ++ '"' :: (",\n".toList ++ chars)))).bind
          fun inside => (readText inside).bind fun found => (expect ",\n".toList found.2).bind fun after =>
            (readTexts fuel after).bind fun others => some (String.ofList found.1 :: others.1, others.2) := rfl
    rw [shape, opened, expect_append, Option.bind_some, readText_escape, List.all_cons, plainText]
    cases value.toList.all isPlain with
    | false => rfl
    | true =>
      rw [if_pos rfl, Option.bind_some, expect_append, Option.bind_some, later, Bool.true_and, String.ofList_toList]
      split
      · rfl
      · rfl

theorem readItem_integer {chars : List Char} {c : Char} (first : chars.head? = some c)
    (digit : Text.isAsciiDigit c = true) :
    readItem chars =
      if (chars.takeWhile Text.isAsciiDigit).isEmpty then none
      else if Text.decimalValue (chars.takeWhile Text.isAsciiDigit) < 2 ^ 63 then
        some (.integer (Text.decimalValue (chars.takeWhile Text.isAsciiDigit)),
          chars.drop (chars.takeWhile Text.isAsciiDigit).length)
      else none := by
  have other {d : Char} {rest : List Char} (letter : Text.isAsciiDigit d = false) : chars ≠ d :: rest := by
    rintro rfl
    cases Option.some.inj first
    rw [digit] at letter
    cases letter
  rw [readItem]
  · exact fun _ => other (by decide)
  · exact fun _ => other (by decide)
  · exact fun _ => other (by decide)
  · exact fun _ => other (by decide)

theorem length_flatMap_le {α : Type} (items : List α) {write : α → List Char} (some : ∀ item, write item ≠ []) :
    items.length ≤ (items.flatMap write).length := by
  induction items with
  | nil => exact Nat.zero_le _
  | cons item items ih =>
    have := List.length_pos_iff.mpr (some item)
    rw [List.flatMap_cons, List.length_append, List.length_cons]
    omega

/-- An item is read up to the end of its line. -/
theorem readItem_chars (item : Item) (rest : List Char) :
    readItem (item.chars ++ '\n' :: rest) = if item.plain then some (item, '\n' :: rest) else none := by
  cases item with
  | text value =>
    have opened : readItem ((Item.text value).chars ++ '\n' :: rest) =
        (readText (value.toList.flatMap escape ++ '"' :: '\n' :: rest)).map fun found =>
          (.text (String.ofList found.1), found.2) := by
      simp [Item.chars, textChars, readItem]
    rw [opened, readText_escape, Item.plain, plainText]
    cases value.toList.all isPlain with
    | false => rfl
    | true => rw [if_pos rfl, if_pos rfl, Option.map_some, String.ofList_toList]
  | integer value =>
    obtain ⟨c, others, shape⟩ := List.exists_cons_of_ne_nil (show Nat.toDigits 10 value ≠ [] by simp)
    have digit : Text.isAsciiDigit c = true :=
      @Text.isAsciiDigit_of_mem_toDigits value c (shape ▸ List.mem_cons_self ..)
    have taken : (Nat.toDigits 10 value ++ '\n' :: rest).takeWhile Text.isAsciiDigit = Nat.toDigits 10 value := by
      rw [List.takeWhile_append_of_pos fun c member => Text.isAsciiDigit_of_mem_toDigits member,
        List.takeWhile_cons_of_neg (by decide), List.append_nil]
    rw [Item.chars, readItem_integer (show _ = some c by rw [shape]; rfl) digit, taken, List.drop_left,
      Text.decimalValue_toDigits, if_neg (by simp), Item.plain]
    simp only [decide_eq_true_eq]
  | boolean value =>
    cases value with
    | false => rfl
    | true => rfl
  | texts values =>
    have opened : readItem ((Item.texts values).chars ++ '\n' :: rest) =
        (readTexts ((Item.texts values).chars ++ '\n' :: rest).length
          (values.flatMap (fun value => "    ".toList ++ textChars value ++ ",\n".toList) ++ ']' :: '\n' :: rest)).map
            fun found => (.texts found.1, found.2) := by
      simp [Item.chars, readItem]
    have enough : values.length < ((Item.texts values).chars ++ '\n' :: rest).length := by
      have least := @length_flatMap_le _ values (fun value => "    ".toList ++ textChars value ++ ",\n".toList)
        (by simp [textChars])
      simp only [Item.chars, List.cons_append, List.length_cons, List.length_append] at least ⊢
      omega
    rw [opened, readTexts_chars values _ enough, Item.plain]
    split
    · rfl
    · rfl

/-! ### Entries -/

/-- What may follow the entries of a table: nothing, or a blank line. -/
def Ends (rest : List Char) : Prop := rest = [] ∨ ∃ more, rest = '\n' :: more

theorem bareKey_chars {key : String} (bare : isBareKey key = true) :
    key.toList ≠ [] ∧ ∀ c ∈ key.toList, c ≠ ' ' ∧ c ≠ '\n' ∧ c ≠ ']' ∧ c ≠ '[' := by
  unfold isBareKey at bare
  rw [Bool.and_eq_true, Bool.not_eq_true', Text.isEmpty, List.isEmpty_eq_false_iff] at bare
  refine ⟨bare.1, fun c member => ?_⟩
  have allowed := List.all_eq_true.mp bare.2 c member
  refine ⟨?_, ?_, ?_, ?_⟩ <;> rintro rfl <;> revert allowed <;> decide

theorem readEntries_ends {rest : List Char} (ends : Ends rest) (fuel : Nat) : readEntries (fuel + 1) rest = some ([], rest) := by
  rcases ends with rfl | ⟨more, rfl⟩
  · rfl
  · rfl

theorem readEntries_chars (entries : Entries) (rest : List Char) (ends : Ends rest)
    (bare : ∀ entry ∈ entries, isBareKey entry.1 = true) {fuel : Nat} (enough : entries.length < fuel) :
    readEntries fuel (entriesChars entries ++ rest) = if plainEntries entries then some (entries, rest) else none := by
  induction entries generalizing fuel with
  | nil =>
    obtain ⟨fuel, rfl⟩ : ∃ less, fuel = less + 1 := ⟨fuel - 1, by simp at enough; omega⟩
    exact readEntries_ends ends fuel
  | cons entry entries ih =>
    obtain ⟨fuel, rfl⟩ : ∃ less, fuel = less + 1 := ⟨fuel - 1, by simp at enough; omega⟩
    obtain ⟨key, item⟩ := entry
    rw [List.forall_mem_cons] at bare
    have later := ih bare.2 (by simpa using enough)
    obtain ⟨filled, clear⟩ := bareKey_chars bare.1
    have shape : entriesChars ((key, item) :: entries) ++ rest =
        key.toList ++ (" = ".toList ++ (item.chars ++ '\n' :: (entriesChars entries ++ rest))) := by
      simp [entriesChars, entryChars]
    have taken : (key.toList ++ (" = ".toList ++ (item.chars ++ '\n' :: (entriesChars entries ++ rest)))).takeWhile
        (· != ' ') = key.toList := by
      rw [List.takeWhile_append_of_pos fun c member => by simp [(clear c member).1]]
      simp
    have opened (chars : List Char) (first : chars ≠ [] ∧ ∀ more, chars ≠ '\n' :: more) :
        readEntries (fuel + 1) chars =
          (expect " = ".toList (chars.drop (chars.takeWhile (· != ' ')).length)).bind fun inside =>
            (readItem inside).bind fun found => (expect ['\n'] found.2).bind fun after =>
              (readEntries fuel after).bind fun others =>
                some ((String.ofList (chars.takeWhile (· != ' ')), found.1) :: others.1, others.2) := by
      rw [readEntries]
      · rfl
      · exact first.1
      · exact first.2
    have starts : ∀ more, key.toList ++ (" = ".toList ++ (item.chars ++ '\n' :: (entriesChars entries ++ rest))) ≠
        '\n' :: more := by
      obtain ⟨c, others, cons⟩ := List.exists_cons_of_ne_nil filled
      intro more same
      rw [cons] at same
      exact (clear c (by simp [cons])).2.1 (List.cons.inj same).1
    rw [shape, opened _ ⟨by simp, starts⟩, taken, List.drop_left, expect_append, Option.bind_some, readItem_chars]
    rw [show plainEntries ((key, item) :: entries) = (item.plain && plainEntries entries) from rfl]
    cases item.plain with
    | false => rfl
    | true =>
      rw [if_pos rfl, Option.bind_some, show '\n' :: (entriesChars entries ++ rest) = ['\n'] ++ (entriesChars entries ++ rest)
        from rfl, expect_append, Option.bind_some, later, Bool.true_and, String.ofList_toList]
      split
      · rfl
      · rfl

/-! ### Parts -/

theorem readHeading_line (heading : Heading) (bare : isBareKey heading.name = true) (rest : List Char) :
    readHeading (heading.line.toList ++ '\n' :: rest) = some (heading, rest) := by
  obtain ⟨filled, clear⟩ := bareKey_chars bare
  have taken (after : List Char) : (heading.name.toList ++ ']' :: after).takeWhile (· != ']') = heading.name.toList := by
    rw [List.takeWhile_append_of_pos fun c member => by simp [(clear c member).2.2.1]]
    simp
  cases heading with
  | table name =>
    obtain ⟨c, others, cons⟩ := List.exists_cons_of_ne_nil filled
    have shape : (Heading.table name).line.toList ++ '\n' :: rest = '[' :: (name.toList ++ ']' :: '\n' :: rest) := by
      simp [Heading.line]
    rw [shape, readHeading]
    · simp only [Heading.name] at taken
      rw [taken, List.drop_left, String.ofList_toList, show ']' :: '\n' :: rest = "]\n".toList ++ rest from rfl,
        expect_append]
      rfl
    · intro more same
      have first : name.toList = c :: others := cons
      rw [first] at same
      exact (clear c (by rw [cons]; exact List.mem_cons_self ..)).2.2.2 (List.cons.inj same).1
  | element name =>
    have shape : (Heading.element name).line.toList ++ '\n' :: rest =
        '[' :: '[' :: (name.toList ++ ']' :: ']' :: '\n' :: rest) := by
      simp [Heading.line]
    simp only [Heading.name] at taken
    rw [shape, readHeading, taken, List.drop_left, String.ofList_toList,
      show ']' :: ']' :: '\n' :: rest = "]]\n".toList ++ rest from rfl, expect_append]
    rfl

theorem ends_parts (parts : List Part) : Ends (parts.flatMap partChars) := by
  cases parts with
  | nil => exact .inl rfl
  | cons part parts => exact .inr ⟨_, rfl⟩

/-- What the grammar asks of a part, its texts and numbers aside. -/
def BarePart (part : Part) : Prop :=
  isBareKey part.heading.name = true ∧ ∀ entry ∈ part.entries, isBareKey entry.1 = true

theorem readParts_chars (parts : List Part) (bare : ∀ part ∈ parts, BarePart part) {fuel : Nat}
    (enough : parts.length < fuel) :
    readParts fuel (parts.flatMap partChars) =
      if parts.all fun part => plainEntries part.entries then some parts else none := by
  induction parts generalizing fuel with
  | nil =>
    obtain ⟨fuel, rfl⟩ : ∃ less, fuel = less + 1 := ⟨fuel - 1, by simp at enough; omega⟩
    rfl
  | cons part parts ih =>
    obtain ⟨fuel, rfl⟩ : ∃ less, fuel = less + 1 := ⟨fuel - 1, by simp at enough; omega⟩
    obtain ⟨heading, entries⟩ := part
    rw [List.forall_mem_cons] at bare
    have later := ih bare.2 (by simpa using enough)
    generalize tail : parts.flatMap partChars = chars at later
    have shape : (⟨heading, entries⟩ :: parts).flatMap partChars =
        '\n' :: (heading.line.toList ++ '\n' :: (entriesChars entries ++ chars)) := by
      rw [← tail]
      simp [partChars]
    have opened (chars : List Char) : readParts (fuel + 1) ('\n' :: chars) =
        (readHeading chars).bind fun found => (readEntries (chars.length + 1) found.2).bind fun inside =>
          (readParts fuel inside.2).bind fun others => some (⟨found.1, inside.1⟩ :: others) := rfl
    have room : entries.length < (heading.line.toList ++ '\n' :: (entriesChars entries ++ chars)).length + 1 := by
      have least := @length_flatMap_le _ entries entryChars (by simp [entryChars])
      unfold entriesChars
      simp only [List.length_append, List.length_cons]
      omega
    rw [shape, opened, readHeading_line heading bare.1.1, Option.bind_some,
      readEntries_chars entries chars (tail ▸ ends_parts parts) bare.1.2 room,
      show (Part.mk heading entries :: parts).all (fun part => plainEntries part.entries) =
        (plainEntries entries && parts.all fun part => plainEntries part.entries) from rfl]
    cases plainEntries entries with
    | false => rfl
    | true =>
      rw [if_pos rfl, Option.bind_some, later, Bool.true_and]
      split
      · rfl
      · rfl

/-- A printed document is read as it was, or not at all. -/
theorem readDocument_text (document : Document) (keyed : document.Keyed) :
    readDocument document.text = if document.plain then some document else none := by
  have bare : ∀ part ∈ document.parts, BarePart part := fun part member =>
    ⟨(keyed.headings part member).1, (keyed.entries part member).2⟩
  have opened : readDocument document.text =
      (readEntries (document.text.toList.length + 1) document.text.toList).bind fun found =>
        (readParts (document.text.toList.length + 1) found.2).bind fun parts => some ⟨found.1, parts⟩ := rfl
  have roots := @length_flatMap_le _ document.root entryChars (by simp [entryChars])
  have parts := @length_flatMap_le _ document.parts partChars (by simp [partChars])
  rw [opened, toList_text]
  generalize fuel : (entriesChars document.root ++ document.parts.flatMap partChars).length + 1 = steps
  rw [List.length_append] at fuel
  unfold entriesChars at fuel
  rw [readEntries_chars document.root _ (ends_parts document.parts) keyed.root.2 (by omega), Document.plain]
  cases plainEntries document.root with
  | false => rfl
  | true =>
    rw [if_pos rfl, Option.bind_some, readParts_chars document.parts bare (by omega), Bool.true_and]
    split
    · rfl
    · rfl

theorem read_conforms : Conforms read where
  reads document keyed plain := by
    rw [read, readDocument_text document keyed, if_pos plain]
  refuses document keyed unplain := by
    rw [read, readDocument_text document keyed, unplain]
    exact ⟨_, rfl⟩

end Skimasque.Library.Toml
