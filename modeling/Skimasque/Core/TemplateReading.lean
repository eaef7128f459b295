import Skimasque.Core.Template
import Skimasque.Library.LongestReading

/-! What matching a path against a template finds.

The search tries the longest piece first. Of all readings of the path by the parts it finds the longest,
and it fails only when there is none.
-/

set_option autoImplicit false

namespace Skimasque.Core
open Library Library.Pattern

def Part.item : Part → Option (Item Char)
  | .literal text => some (.literal text.toList)
  | .simple _ => some .hole
  | .query _ | .queryContinuation _ => none

/-- The parts before the query. -/
def items (parts : List Part) : List (Item Char) := parts.filterMap Part.item

/-- What can stand for a simple expression. -/
def IsPiece (piece : List Char) : Prop :=
  piece ≠ [] ∧ (∀ c ∈ piece, isExpansionSafe c = true) ∧ ∃ value, pctDecode (String.ofList piece) = some value

/-- The rest is a query in which every name has a value. -/
def QueryReads (separator : Char) (names : List String) (rest : List Char) (found : Values) : Prop :=
  ∃ query, rest = separator :: query ∧ collectPairs (query.splitOn '&') ∅ = some found ∧
    ∀ name ∈ names, ∃ value, found.lookup name = some value ∧ value ≠ ""

/-- What may be left over after the parts before the query. -/
def Ends : List Part → List Char → Prop
  | [], rest => rest = []
  | .literal _ :: parts, rest | .simple _ :: parts, rest => Ends parts rest
  | .query names :: parts, rest => parts = [] ∧ ∃ found, QueryReads '?' names rest found
  | .queryContinuation names :: parts, rest => parts = [] ∧ ∃ found, QueryReads '&' names rest found

/-- The values are those of a reading. -/
def Assigned : List Part → List (List Char) → List Char → Values → Prop
  | [], _, _, _ => True
  | .literal _ :: parts, pieces, rest, values => Assigned parts pieces rest values
  | .simple _ :: _, [], _, _ => False
  | .simple name :: parts, piece :: pieces, rest, values =>
    values.lookup name = pctDecode (String.ofList piece) ∧ Assigned parts pieces rest values
  | .query names :: _, _, rest, values =>
    ∃ found, QueryReads '?' names rest found ∧ ∀ name ∈ names, values.lookup name = found.lookup name
  | .queryContinuation names :: _, _, rest, values =>
    ∃ found, QueryReads '&' names rest found ∧ ∀ name ∈ names, values.lookup name = found.lookup name

/-- The names outside a list keep their values. -/
def Keeps (names : List String) (before after : Values) : Prop := ∀ name ∉ names, after.lookup name = before.lookup name

theorem Keeps.refl (names : List String) (values : Values) : Keeps names values values := fun _ _ => rfl

theorem Keeps.trans {names : List String} {first second third : Values} (front : Keeps names first second)
    (back : Keeps names second third) : Keeps names first third :=
  fun name outside => (back name outside).trans (front name outside)

theorem Keeps.mono {names more : List String} {before after : Values} (kept : Keeps names before after)
    (subset : names ⊆ more) : Keeps more before after :=
  fun name outside => kept name fun member => outside (subset member)

theorem keeps_insert {names : List String} {name : String} (member : name ∈ names) (value : String) (values : Values) :
    Keeps names values (values.insert name value) :=
  fun _ outside => Finmap.lookup_insert_of_ne _ fun same => outside (same ▸ member)

theorem keeps_erase {names : List String} {name : String} (member : name ∈ names) (values : Values) :
    Keeps names values (values.erase name) :=
  fun _ outside => Finmap.lookup_erase_ne fun same => outside (same ▸ member)

/-! ## The query -/

section
variable {found values : Values} {names : List String} {separator : Char} {input : List Char}

theorem takeNames_keeps : Keeps names values (takeNames found names values).2 := by
  induction names generalizing values with
  | nil => exact Keeps.refl _ _
  | cons name names ih =>
    rw [takeNames]
    split
    · split
      · exact Keeps.refl _ _
      · exact (keeps_insert (List.mem_cons_self ..) _ _).trans (ih.mono (List.subset_cons_self ..))
    · exact Keeps.refl _ _

theorem takeNames_iff : (takeNames found names values).1 = true ↔
    ∀ name ∈ names, ∃ value, found.lookup name = some value ∧ value ≠ "" := by
  induction names generalizing values with
  | nil => simp [takeNames]
  | cons name names ih =>
    rw [takeNames, List.forall_mem_cons]
    cases looked : found.lookup name with
    | none => simp
    | some value =>
      by_cases empty : Text.isEmpty value
      · obtain rfl := Text.isEmpty_iff.mp empty
        simp [empty]
      · have filled : value ≠ "" := fun same => empty (Text.isEmpty_iff.mpr same)
        simp [empty, ih, filled]

theorem takeNames_lookup (taken : (takeNames found names values).1 = true) :
    ∀ name ∈ names, (takeNames found names values).2.lookup name = found.lookup name := by
  induction names generalizing values with
  | nil => nofun
  | cons name names ih =>
    rw [takeNames] at taken ⊢
    split at taken
    · rename_i value looked
      split at taken
      · cases taken
      · rename_i filled
        simp only [filled]
        intro other member
        by_cases later : other ∈ names
        · exact ih taken other later
        · cases List.mem_cons.mp member with
          | inl same =>
            subst same
            exact (takeNames_keeps other later).trans ((Finmap.lookup_insert _).trans looked.symm)
          | inr inside => exact absurd inside later
    · cases taken

theorem matchQuery_keeps : Keeps names values (matchQuery separator names input values).2 := by
  cases input with
  | nil => exact Keeps.refl _ _
  | cons c query =>
    rw [matchQuery]
    split
    · split
      · exact Keeps.refl _ _
      · exact takeNames_keeps
    · exact Keeps.refl _ _

theorem matchQuery_iff :
    (matchQuery separator names input values).1 = true ↔ ∃ found, QueryReads separator names input found := by
  cases input with
  | nil => simp [matchQuery, QueryReads]
  | cons c query =>
    rw [matchQuery]
    by_cases same : c = separator
    · subst same
      cases collected : collectPairs (query.splitOn '&') ∅ with
      | none => simp [QueryReads, collected]
      | some found => simp [QueryReads, collected, takeNames_iff]
    · simp [QueryReads, same]

theorem matchQuery_lookup (matched : (matchQuery separator names input values).1 = true) :
    ∃ found, QueryReads separator names input found ∧
      ∀ name ∈ names, (matchQuery separator names input values).2.lookup name = found.lookup name := by
  obtain ⟨found, query, rfl, collected, filled⟩ := matchQuery_iff.mp matched
  refine ⟨found, ⟨query, rfl, collected, filled⟩, ?_⟩
  simp only [matchQuery, if_pos, collected]
  exact takeNames_lookup (takeNames_iff.mpr filled)

end

/-! ## The search -/

theorem shrinkPiece_keeps {name : String} {names : List String} {matchTail : List Char → Values → Bool × Values}
    (tail : ∀ input values, Keeps names values (matchTail input values).2) (input : List Char) (len : Nat) (values : Values) :
    Keeps (name :: names) values (shrinkPiece name matchTail input len values).2 := by
  induction len generalizing values with
  | zero => exact Keeps.refl _ _
  | succ len ih =>
    rw [shrinkPiece]
    split
    · exact ih values
    · rename_i decoded _
      have inserted := keeps_insert (List.mem_cons_self (a := name) (l := names)) decoded values
      have kept := inserted.trans ((tail (input.drop (len + 1)) _).mono (List.subset_cons_self ..))
      simp only
      split
      · exact kept
      · exact (kept.trans (keeps_erase (List.mem_cons_self ..) _)).trans (ih _)

theorem matchParts_keeps (parts : List Part) (input : List Char) (values : Values) :
    Keeps (parts.flatMap Part.names) values (matchParts parts input values).2 := by
  induction parts generalizing input values with
  | nil => exact Keeps.refl _ _
  | cons part parts ih =>
    rw [List.flatMap_cons]
    cases part with
    | literal text =>
      rw [matchParts]
      split
      · exact ih _ _
      · exact Keeps.refl _ _
    | simple name => exact shrinkPiece_keeps ih input _ values
    | query names => exact matchQuery_keeps.mono (List.subset_append_left ..)
    | queryContinuation names => exact matchQuery_keeps.mono (List.subset_append_left ..)

/-- What the tail of the search is known to do. -/
structure Searches (parts : List Part) (matchTail : List Char → Values → Bool × Values) : Prop where
  found : ∀ input values, (matchTail input values).1 = true → ∃ pieces rest,
    Longest IsPiece (Ends parts) (items parts) input pieces rest ∧ Assigned parts pieces rest (matchTail input values).2
  missed : ∀ input values, (matchTail input values).1 = false →
    ∀ pieces rest, Reads IsPiece (items parts) input pieces rest → ¬Ends parts rest

theorem isPiece_take {input : List Char} {len : Nat} (within : len + 1 ≤ (input.takeWhile isExpansionSafe).length)
    {decoded : String} (read : pctDecode (String.ofList (input.take (len + 1))) = some decoded) :
    IsPiece (input.take (len + 1)) := by
  have front : input.take (len + 1) = (input.takeWhile isExpansionSafe).take (len + 1) := by
    conv_lhs => rw [← List.takeWhile_append_dropWhile (p := isExpansionSafe) (l := input)]
    exact List.take_append_of_le_length within
  refine ⟨?_, ?_, decoded, read⟩
  · intro empty
    rw [front, List.take_eq_nil_iff] at empty
    rcases empty with none | none
    · cases none
    · rw [none] at within
      cases within
  · intro c member
    rw [front] at member
    exact List.mem_takeWhile_imp (List.mem_of_mem_take member)

theorem length_le_of_isPiece {piece remaining input : List Char} (fit : IsPiece piece) (whole : piece ++ remaining = input) :
    piece.length ≤ (input.takeWhile isExpansionSafe).length := by
  rw [← whole, List.takeWhile_append_of_pos fit.2.1, List.length_append]
  exact Nat.le_add_right ..

section
variable {name : String} {parts : List Part} {matchTail : List Char → Values → Bool × Values}

/-- No piece of that length can be followed by the parts. -/
def Dead (parts : List Part) (input : List Char) (len : Nat) : Prop :=
  ∀ piece remaining, piece ++ remaining = input → piece.length = len → IsPiece piece →
    ∀ other after, Reads IsPiece (items parts) remaining other after → ¬Ends parts after

variable {input : List Char} {len : Nat} {values : Values}

theorem dead_zero : Dead parts input 0 :=
  fun _ _ _ empty fit => absurd (List.length_eq_zero_iff.mp empty) fit.1

theorem dead_of_undecoded (undecoded : pctDecode (String.ofList (input.take len)) = none) : Dead parts input len := by
  rintro piece remaining rfl rfl fit
  obtain ⟨value, decoded⟩ := fit.2.2
  rw [List.take_left, decoded] at undecoded
  cases undecoded

theorem Searches.dead (search : Searches parts matchTail) (missed : ¬(matchTail (input.drop len) values).1 = true) :
    Dead parts input len := by
  rintro piece remaining rfl rfl _
  rw [List.drop_left] at missed
  exact search.missed _ _ (Bool.eq_false_iff.mpr missed)

theorem shrinkPiece_missed (search : Searches parts matchTail)
    (missed : (shrinkPiece name matchTail input len values).1 = false) : ∀ k ≤ len, Dead parts input k := by
  induction len generalizing values with
  | zero =>
    intro k bound
    rw [Nat.le_zero.mp bound]
    exact dead_zero
  | succ len ih =>
    intro k bound
    rw [shrinkPiece] at missed
    split at missed
    · rename_i undecoded
      rcases Nat.le_succ_iff.mp bound with less | rfl
      · exact ih missed k less
      · exact dead_of_undecoded undecoded
    · simp only at missed
      split at missed
      · cases missed
      · rename_i tailMissed
        rcases Nat.le_succ_iff.mp bound with less | rfl
        · exact ih missed k less
        · exact search.dead tailMissed

/-- The values are those of the longest piece of at most `len` that the parts can follow. -/
def CutAt (name : String) (parts : List Part) (input : List Char) (len : Nat) (values : Values) : Prop :=
  ∃ piece remaining pieces rest, piece ++ remaining = input ∧ IsPiece piece ∧
    Longest IsPiece (Ends parts) (items parts) remaining pieces rest ∧
    Assigned (.simple name :: parts) (piece :: pieces) rest values ∧
    ∀ k, piece.length < k → k ≤ len → Dead parts input k

theorem CutAt.succ (cut : CutAt name parts input len values) (dead : Dead parts input (len + 1)) :
    CutAt name parts input (len + 1) values := by
  obtain ⟨piece, remaining, pieces, rest, whole, fit, longest, assigned, most⟩ := cut
  refine ⟨piece, remaining, pieces, rest, whole, fit, longest, assigned, fun k more bound => ?_⟩
  rcases Nat.le_succ_iff.mp bound with less | rfl
  · exact most k more less
  · exact dead

/-- The piece found is the longest that the parts can follow. -/
theorem shrinkPiece_found (search : Searches parts matchTail)
    (kept : ∀ input values, Keeps (parts.flatMap Part.names) values (matchTail input values).2)
    (fresh : name ∉ parts.flatMap Part.names) (within : len ≤ (input.takeWhile isExpansionSafe).length)
    (found : (shrinkPiece name matchTail input len values).1 = true) :
    CutAt name parts input len (shrinkPiece name matchTail input len values).2 := by
  induction len generalizing values with
  | zero => cases found
  | succ len ih =>
    rw [shrinkPiece] at found ⊢
    split at found
    · rename_i undecoded
      exact (ih (Nat.le_of_succ_le within) found).succ (dead_of_undecoded undecoded)
    · rename_i decoded read
      simp only at found ⊢
      split at found
      · rename_i matched
        rw [if_pos matched]
        obtain ⟨pieces, rest, longest, assigned⟩ := search.found _ _ matched
        refine ⟨input.take (len + 1), input.drop (len + 1), pieces, rest, List.take_append_drop .., isPiece_take within read,
          longest, ⟨?_, assigned⟩, fun k more bound => ?_⟩
        · rw [read]
          exact (kept _ _ name fresh).trans (Finmap.lookup_insert _)
        · have size : (input.take (len + 1)).length = len + 1 := by
            rw [List.length_take]
            exact Nat.min_eq_left (within.trans (List.takeWhile_prefix _).length_le)
          omega
      · rename_i tailMissed
        rw [if_neg tailMissed]
        exact (ih (Nat.le_of_succ_le within) found).succ (search.dead tailMissed)

end

/-! ## The parts of the search -/

section
variable {parts : List Part}

theorem searches_nil : Searches [] (matchParts []) := by
  constructor
  case found =>
    intro input values matched
    have ended : input = [] := List.isEmpty_iff.mp matched
    exact ⟨[], input, Longest.nil ended, trivial⟩
  case missed =>
    intro input values missed pieces rest reads ended
    cases reads
    rw [show input = [] from ended] at missed
    cases missed

theorem Searches.literal (tail : Searches parts (matchParts parts)) (text : String) :
    Searches (.literal text :: parts) (matchParts (.literal text :: parts)) := by
  constructor
  case found =>
    intro input values matched
    rw [matchParts] at matched ⊢
    split at matched
    · rename_i front
      rw [if_pos front]
      obtain ⟨remaining, rfl⟩ := List.isPrefixOf_iff_prefix.mp front
      rw [List.drop_left] at matched ⊢
      obtain ⟨pieces, rest, longest, assigned⟩ := tail.found _ _ matched
      exact ⟨pieces, rest, longest.literal, assigned⟩
    · cases matched
  case missed =>
    intro input values missed pieces rest reads
    cases reads with
    | @literal _ input _ _ _ reads =>
      rw [matchParts, if_pos (List.isPrefixOf_iff_prefix.mpr (List.prefix_append ..)), List.drop_left] at missed
      exact tail.missed _ _ missed _ _ reads

theorem Searches.simple (tail : Searches parts (matchParts parts)) {name : String}
    (fresh : name ∉ parts.flatMap Part.names) :
    Searches (.simple name :: parts) (matchParts (.simple name :: parts)) := by
  constructor
  case found =>
    intro input values matched
    obtain ⟨piece, remaining, pieces, rest, rfl, fit, longest, assigned, most⟩ :=
      shrinkPiece_found tail (matchParts_keeps parts) fresh (Nat.le_refl _) matched
    refine ⟨piece :: pieces, rest, longest.hole fit ?_, assigned⟩
    intro longer remaining' whole more fit' other after reads
    exact most longer.length more (length_le_of_isPiece fit' whole) longer remaining' whole rfl fit' other after reads
  case missed =>
    intro input values missed pieces rest reads
    cases reads with
    | @hole piece input _ _ _ fit reads =>
      have bound : piece.length ≤ ((piece ++ input).takeWhile isExpansionSafe).length := length_le_of_isPiece fit rfl
      exact shrinkPiece_missed tail missed piece.length bound piece input rfl rfl fit _ _ reads

/-- The part is a query, with what it starts with and its names. -/
inductive IsQuery : Part → Char → List String → Prop where
  | query (names : List String) : IsQuery (.query names) '?' names
  | queryContinuation (names : List String) : IsQuery (.queryContinuation names) '&' names

section
variable {part : Part} {separator : Char} {names : List String}

theorem IsQuery.items_eq (query : IsQuery part separator names) : items [part] = [] := by
  cases query with
  | query names => rfl
  | queryContinuation names => rfl

theorem IsQuery.ends_iff (query : IsQuery part separator names) {rest : List Char} :
    Ends (part :: parts) rest ↔ parts = [] ∧ ∃ found, QueryReads separator names rest found := by
  cases query with
  | query names => rfl
  | queryContinuation names => rfl

theorem IsQuery.assigned_iff (query : IsQuery part separator names) {pieces : List (List Char)} {rest : List Char}
    {values : Values} : Assigned (part :: parts) pieces rest values ↔
      ∃ found, QueryReads separator names rest found ∧ ∀ name ∈ names, values.lookup name = found.lookup name := by
  cases query with
  | query names => rfl
  | queryContinuation names => rfl

theorem IsQuery.matchParts_eq (query : IsQuery part separator names) (input : List Char) (values : Values) :
    matchParts (part :: parts) input values =
      ((matchQuery separator names input values).1 && parts.isEmpty, (matchQuery separator names input values).2) := by
  cases query with
  | query names => rfl
  | queryContinuation names => rfl

/-- A query reads all that is left, as the last part. -/
theorem IsQuery.searches (query : IsQuery part separator names) :
    Searches (part :: parts) (matchParts (part :: parts)) := by
  constructor
  case found =>
    intro input values matched
    rw [query.matchParts_eq] at matched ⊢
    obtain ⟨queried, alone⟩ := Bool.and_eq_true_iff.mp matched
    cases List.isEmpty_iff.mp alone
    rw [query.items_eq]
    exact ⟨[], input, Longest.nil (query.ends_iff.mpr ⟨rfl, matchQuery_iff.mp queried⟩),
      query.assigned_iff.mpr (matchQuery_lookup queried)⟩
  case missed =>
    intro input values missed pieces rest reads ended
    obtain ⟨rfl, queried⟩ := query.ends_iff.mp ended
    rw [query.items_eq] at reads
    cases reads
    rw [query.matchParts_eq, matchQuery_iff.mpr queried] at missed
    cases missed

end

end

/-- The search finds the longest reading, and fails only when there is none. -/
theorem matchParts_searches {parts : List Part} (distinct : (parts.flatMap Part.names).Nodup) :
    Searches parts (matchParts parts) := by
  induction parts with
  | nil => exact searches_nil
  | cons part parts ih =>
    rw [List.flatMap_cons, List.nodup_append] at distinct
    have tail := ih distinct.2.1
    cases part with
    | literal text => exact tail.literal text
    | simple name =>
      have fresh : name ∉ parts.flatMap Part.names :=
        fun member => distinct.2.2 name (List.mem_singleton.mpr rfl) name member rfl
      exact tail.simple fresh
    | query names => exact (IsQuery.query names).searches
    | queryContinuation names => exact (IsQuery.queryContinuation names).searches

/-! ## What is taken for a value -/

/-- The text is taken for a variable when the path is matched: a piece, or what follows the `=` of a query's pair. -/
def UriTemplate.Takes (template : UriTemplate) (path : String) (text : List Char) : Prop :=
  (template.matchPath path).isSome = true ∧ ∃ pieces rest,
    Longest IsPiece (Ends template.parts) (items template.parts) path.toList pieces rest ∧
      (text ∈ pieces ∨ ∃ separator query, rest = separator :: query ∧
        ∃ pair ∈ query.splitOn '&', ∃ key, Text.splitAtFirst '=' pair = some (key, text))

theorem collectPairs_decoded {pairs : List (List Char)} {found after : Values} (collected : collectPairs pairs found = some after) :
    ∀ pair ∈ pairs, ∀ key value, Text.splitAtFirst '=' pair = some (key, value) →
      ∃ decoded, pctDecode (String.ofList value) = some decoded := by
  induction pairs generalizing found with
  | nil => nofun
  | cons pair pairs ih =>
    rw [collectPairs] at collected
    intro other member key value divided
    split at collected
    · rename_i undivided
      cases List.mem_cons.mp member with
      | inl same =>
        rw [same, undivided] at divided
        cases divided
      | inr later => exact ih collected other later key value divided
    · rename_i front back whole
      split at collected
      · rename_i decodedKey decoded keyRead valueRead
        cases List.mem_cons.mp member with
        | inl same =>
          rw [same, whole] at divided
          cases divided
          exact ⟨decoded, valueRead⟩
        | inr later => exact ih collected other later key value divided
      · cases collected

theorem query_of_ends {parts : List Part} {separator : Char} {query : List Char} (ends : Ends parts (separator :: query)) :
    ∃ found, collectPairs (query.splitOn '&') ∅ = some found := by
  induction parts with
  | nil => cases ends
  | cons part parts ih =>
    cases part with
    | literal text => exact ih ends
    | simple name => exact ih ends
    | query names =>
      obtain ⟨_, found, query, same, collected, _⟩ := ends
      cases same
      exact ⟨found, collected⟩
    | queryContinuation names =>
      obtain ⟨_, found, query, same, collected, _⟩ := ends
      cases same
      exact ⟨found, collected⟩

theorem fits_of_mem {items : List (Item Char)} {pieces : List (List Char)} {piece : List Char}
    (fills : Fills IsPiece items pieces) (member : piece ∈ pieces) : IsPiece piece := by
  induction fills with
  | nil => cases member
  | literal _ ih => exact ih member
  | hole fit _ ih =>
    cases List.mem_cons.mp member with
    | inl same => exact same ▸ fit
    | inr later => exact ih later

/-- What is taken can be decoded. -/
theorem UriTemplate.Takes.decoded {template : UriTemplate} {path : String} {text : List Char} (takes : template.Takes path text) :
    ∃ value, pctDecode (String.ofList text) = some value := by
  obtain ⟨_, pieces, rest, longest, piece | ⟨separator, query, rfl, pair, member, key, divided⟩⟩ := takes
  · exact (fits_of_mem (reads_iff.mp longest.reads).1 piece).2.2
  · obtain ⟨found, collected⟩ := query_of_ends longest.done
    exact collectPairs_decoded collected pair member key text divided

/-- A `%` is followed by a `+` and a hexadecimal digit. -/
def PlusEscape (text : List Char) : Prop := ∃ front low rest, text = front ++ '%' :: '+' :: low :: rest ∧ isHexDigit low = true

theorem not_plusEscape_of_wellFormed {text : List Char} (formed : WellFormed text) : ¬PlusEscape text := by
  rintro ⟨front, low, rest, same, _⟩
  obtain ⟨high, low', after, same, highDigit, _⟩ := formed front _ same
  cases same
  cases highDigit

theorem LooselyFormed.wellFormed {text : List Char} (formed : LooselyFormed text) (unsigned : ¬PlusEscape text) : WellFormed text := by
  intro front rest same
  obtain ⟨high, low, after, rfl, highFits, lowDigit⟩ := formed front rest same
  refine ⟨high, low, after, rfl, ?_, lowDigit⟩
  cases Bool.or_eq_true_iff.mp highFits with
  | inl digit => exact digit
  | inr plus =>
    rw [eq_of_beq plus] at same
    exact absurd ⟨front, low, after, same, lowDigit⟩ unsigned

/-- Decoding accepts exactly its grammar, unless the number parser takes a sign for a digit. -/
theorem decoding_accepts_its_grammar_iff (text : String) :
    ((∀ decoded, pctDecode text = some decoded ↔ WellFormed text.toList ∧ Encoding.utf8 decoded = unescape text.toList) ∧
      pctDecode (pctEncode text) = some text ∧
      ∀ source template path, UriTemplate.parse source = .ok template → template.Takes path text.toList → WellFormed text.toList) ↔
    ¬(PlusEscape text.toList ∧ LooselyFormed text.toList ∧ ∃ decoded, Encoding.utf8 decoded = unescape text.toList) := by
  constructor
  · rintro ⟨grammar, _, _⟩ ⟨plus, formed, decoded, bytes⟩
    exact not_plusEscape_of_wellFormed ((grammar decoded).mp (pctDecode_eq_some_iff.mpr ⟨formed, bytes⟩)).1 plus
  · intro unsigned
    have wellFormed {decoded : String} (read : pctDecode text = some decoded) : WellFormed text.toList := by
      obtain ⟨formed, bytes⟩ := pctDecode_eq_some_iff.mp read
      exact LooselyFormed.wellFormed formed fun plus => unsigned ⟨plus, formed, decoded, bytes⟩
    refine ⟨fun decoded => ?_, pctDecode_pctEncode text, fun source template path _ takes => ?_⟩
    · constructor
      · intro read
        exact ⟨wellFormed read, (pctDecode_eq_some_iff.mp read).2⟩
      · rintro ⟨formed, bytes⟩
        exact pctDecode_eq_some_iff.mpr ⟨formed.loosely, bytes⟩
    · obtain ⟨decoded, read⟩ := takes.decoded
      rw [String.ofList_toList] at read
      exact wellFormed read

/-- The template `https://e/{?a}`. -/
def queryTemplate : UriTemplate where
  scheme := "https"
  authority := "e"
  parts := [.literal "/", .query ["a"]]
  variableNames := ["a"]
  raw := "https://e/\x7b?a\x7d"

theorem queryTemplate_parses : UriTemplate.parse "https://e/\x7b?a\x7d" = .ok queryTemplate := by
  refine @UriTemplate.parse_eq _ ['h', 't', 't', 'p', 's'] ['e'] "/\x7b?a\x7d".toList _ _ (by decide +kernel) ?_ (by decide)
  have opens : Text.splitAtFirst '{' "/\x7b?a\x7d".toList = some (['/'], ['?', 'a', '}']) := by decide
  have expression : parseExpression ['?', 'a'] = .ok (.query ["a"]) := by decide
  rw [parseParts, scanParts_open opens rfl, expression, Except.bind, scanParts_end rfl]
  rfl

/-- A sign in an escape is accepted, by decoding and in a query. -/
theorem signed_escape_is_decoded :
    ¬((∀ decoded, pctDecode "%+5" = some decoded ↔ WellFormed "%+5".toList ∧ Encoding.utf8 decoded = unescape "%+5".toList) ∧
      pctDecode (pctEncode "%+5") = some "%+5" ∧
      ∀ source template path, UriTemplate.parse source = .ok template → template.Takes path "%+5".toList →
        WellFormed "%+5".toList) ∧
    pctDecode "%+5" = some "\x05" ∧
    UriTemplate.parse "https://e/\x7b?a\x7d" = .ok queryTemplate ∧
    (queryTemplate.matchPath "/?a=%+5").map (Finmap.lookup "a") = some (some "\x05") := by
  have read : pctDecode "%+5" = some "\x05" := by decide +kernel
  refine ⟨?_, read, queryTemplate_parses, by decide +kernel⟩
  rintro ⟨grammar, _, _⟩
  obtain ⟨high, low, after, same, highDigit, _⟩ := ((grammar _).mp read).1 [] ['+', '5'] rfl
  cases same
  cases highDigit

end Skimasque.Core
