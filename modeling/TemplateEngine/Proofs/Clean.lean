import TemplateEngine.Number.Text
import TemplateEngine.Table
import TemplateEngine.Text.Escape
import TemplateEngine.Text.Search

/-!
# Clean texts

A text is clean if it contains none of the characters that open or close a tag or a quoted
attribute of markup.  Escaping makes a text clean, and what changes the case of a text or
removes blanks from it keeps it clean: no case mapping leads to one of these characters,
which come before the letters.
-/

namespace TemplateEngine.Text

/-- Whether a character delimits tags or quotations in markup. -/
def isDelimiter (character : Char) : Bool :=
  character = '<' || character = '>' || character = '"' || character = '\''

/-- Characters among which there is no delimiter. -/
def CleanList (characters : List Char) : Prop :=
  ∀ character ∈ characters, isDelimiter character = false

instance (characters : List Char) : Decidable (CleanList characters) :=
  List.decidableBAll (fun character => isDelimiter character = false) characters

/-- A text without delimiters of markup. -/
def Clean (text : String) : Prop :=
  CleanList text.toList

theorem cleanList_nil : CleanList [] :=
  fun _ member => by cases member

theorem cleanList_append {first second : List Char} :
    CleanList (first ++ second) ↔ CleanList first ∧ CleanList second :=
  List.forall_mem_append

theorem cleanList_flatMap {change : Char → List Char} {characters : List Char}
    (clean : CleanList characters)
    (changed : ∀ character, isDelimiter character = false → CleanList (change character)) :
    CleanList (characters.flatMap change) := by
  intro character member
  rcases List.mem_flatMap.1 member with ⟨origin, present, member⟩
  exact changed origin (clean origin present) character member

theorem CleanList.subset {characters others : List Char} (clean : CleanList others)
    (subset : characters ⊆ others) : CleanList characters :=
  fun character member => clean character (subset member)

instance (text : String) : Decidable (Clean text) :=
  inferInstanceAs (Decidable (CleanList text.toList))

theorem clean_empty : Clean "" :=
  cleanList_nil

theorem clean_ofList {characters : List Char} :
    Clean (String.ofList characters) ↔ CleanList characters := by
  simp [Clean]

theorem clean_append {first second : String} :
    Clean (first ++ second) ↔ Clean first ∧ Clean second := by
  simp [Clean, cleanList_append]

theorem cleanList_singleton {character : Char} :
    CleanList [character] ↔ isDelimiter character = false := by
  simp [CleanList]

theorem cleanList_escapeCharacter (character : Char) : CleanList (escapeCharacter character) := by
  unfold escapeCharacter
  split
  · decide
  split
  · decide
  split
  · decide
  split
  · decide
  split
  · decide
  · rw [cleanList_singleton]
    simp_all [isDelimiter]

/-- Every escaped text is clean. -/
theorem clean_escapeMarkup (text : String) : Clean (escapeMarkup text) := by
  rw [Clean, toList_escapeMarkup]
  intro character member
  rcases List.mem_flatMap.1 member with ⟨origin, _, member⟩
  exact cleanList_escapeCharacter origin character member

/-! ## Case mappings -/

/-- Delimiters come before the letters. -/
theorem isDelimiter_of_lt {character : Char} (beyond : 62 < character.toNat) :
    isDelimiter character = false := by
  have apart : ∀ delimiter : Char, delimiter.toNat ≤ 62 → character ≠ delimiter := by
    rintro delimiter before rfl
    omega
  simp [isDelimiter, apart '<' (by decide), apart '>' (by decide), apart '"' (by decide),
    apart '\'' (by decide)]

/-- A code point beyond the delimiters stands for no delimiter. -/
theorem isDelimiter_ofNat {code : Nat} (beyond : 62 < code) :
    isDelimiter (Char.ofNat code) = false := by
  by_cases valid : code.isValidChar
  · apply isDelimiter_of_lt
    rw [Char.ofNat, dif_pos valid]
    exact beyond
  · rw [Char.ofNat, dif_neg valid]
    decide

open Unicode in
theorem cleanList_mapCase {runs : List CaseRun} {expansions : List (Nat × List Nat)}
    (runsBeyond : ∀ run ∈ runs, 62 < (run.first + run.distance : Int))
    (expansionsBeyond : ∀ expansion ∈ expansions, ∀ code ∈ expansion.2, 62 < code)
    {character : Char} (clean : isDelimiter character = false) :
    CleanList (mapCase runs expansions character) := by
  unfold mapCase
  split
  · rename_i codes found
    intro mapped member
    rcases List.mem_map.1 member with ⟨code, present, rfl⟩
    exact isDelimiter_ofNat
      (expansionsBeyond _ (Table.mem_of_lookup found) code present)
  · split
    · rename_i run found
      rw [cleanList_singleton]
      apply isDelimiter_ofNat
      have covered := List.find?_some found
      have beyond := runsBeyond run (List.mem_of_find?_eq_some found)
      simp only [CaseRun.covers, Bool.and_eq_true, decide_eq_true_eq] at covered
      omega
    · exact cleanList_singleton.2 clean

theorem cleanList_upperCase {character : Char} (clean : isDelimiter character = false) :
    CleanList (Unicode.upperCase character) :=
  cleanList_mapCase (by decide +kernel) (by decide +kernel) clean

theorem cleanList_lowerCase {character : Char} (clean : isDelimiter character = false) :
    CleanList (Unicode.lowerCase character) :=
  cleanList_mapCase (by decide +kernel) (by decide +kernel) clean

theorem Clean.upper {text : String} (clean : Clean text) : Clean (Text.upper text) :=
  clean_ofList.2 (cleanList_flatMap clean fun _ => cleanList_upperCase)

theorem cleanList_lowerAfter (before : List Char) {characters : List Char}
    (clean : CleanList characters) : CleanList (lowerAfter before characters) := by
  induction characters generalizing before with
  | nil => exact cleanList_nil
  | cons character rest inductionHypothesis =>
      have first : isDelimiter character = false := clean character List.mem_cons_self
      have remaining : CleanList rest := clean.subset (List.subset_cons_self _ _)
      refine cleanList_append.2 ⟨?_, inductionHypothesis _ remaining⟩
      split
      · unfold lowerSigma
        split <;> decide
      · exact cleanList_lowerCase first

theorem Clean.lower {text : String} (clean : Clean text) : Clean (Text.lower text) :=
  clean_ofList.2 (cleanList_lowerAfter [] clean)

theorem CleanList.capitalize {characters : List Char} (clean : CleanList characters) :
    CleanList (capitalizeCharacters characters) := by
  cases characters with
  | nil => exact cleanList_nil
  | cons first rest =>
      exact cleanList_append.2 ⟨cleanList_upperCase (clean first List.mem_cons_self),
        cleanList_flatMap (clean.subset (List.subset_cons_self _ _)) fun _ =>
          cleanList_lowerCase⟩

theorem Clean.capitalize {text : String} (clean : Clean text) : Clean (Text.capitalize text) :=
  clean_ofList.2 (CleanList.capitalize clean)

theorem cleanList_of_splitSpaces (current : List Char) {characters : List Char}
    (passed : CleanList current) (clean : CleanList characters) :
    ∀ word ∈ splitSpaces current characters, CleanList word := by
  fun_induction splitSpaces current characters with
  | case1 current =>
      exact List.forall_mem_singleton.2
        (passed.subset (List.reverse_subset.2 (List.Subset.refl _)))
  | case2 current rest inductionHypothesis =>
      intro word member
      have remaining : CleanList rest := clean.subset (List.subset_cons_self _ _)
      rcases List.mem_cons.1 member with rfl | member
      · exact passed.subset (List.reverse_subset.2 (List.Subset.refl _))
      · exact inductionHypothesis cleanList_nil remaining word member
  | case3 current character rest _ inductionHypothesis =>
      have first : isDelimiter character = false := clean character List.mem_cons_self
      have remaining : CleanList rest := clean.subset (List.subset_cons_self _ _)
      exact inductionHypothesis
        (cleanList_append.2 ⟨cleanList_singleton.2 first, passed⟩) remaining

/-- A joined text is clean if its parts are, and what stands between them if anything does. -/
theorem cleanList_intercalate_iff {separator : List Char} {parts : List (List Char)} :
    CleanList (separator.intercalate parts) ↔
      (∀ part ∈ parts, CleanList part) ∧ (1 < parts.length → CleanList separator) := by
  induction parts with
  | nil => simp [cleanList_nil]
  | cons part rest inductionHypothesis =>
      cases rest with
      | nil => simp [List.intercalate_singleton]
      | cons next rest =>
          rw [List.intercalate_cons_cons, cleanList_append, cleanList_append, inductionHypothesis,
            List.forall_mem_cons (a := part)]
          constructor
          · rintro ⟨⟨first, between⟩, remaining, _⟩
            exact ⟨⟨first, remaining⟩, fun _ => between⟩
          · rintro ⟨⟨first, remaining⟩, between⟩
            have between := between (by simp)
            exact ⟨⟨first, between⟩, remaining, fun _ => between⟩

theorem clean_intercalate_iff {separator : String} {parts : List String} :
    Clean (separator.intercalate parts) ↔
      (∀ part ∈ parts, Clean part) ∧ (1 < parts.length → Clean separator) := by
  unfold Clean
  rw [String.toList_intercalate, cleanList_intercalate_iff, List.forall_mem_map,
    List.length_map]

theorem Clean.title {text : String} (clean : Clean text) : Clean (Text.title text) := by
  refine clean_ofList.2 (cleanList_intercalate_iff.2 ⟨?_, fun _ => by decide⟩)
  intro part member
  rcases List.mem_map.1 member with ⟨word, present, rfl⟩
  exact (cleanList_of_splitSpaces [] cleanList_nil clean word present).capitalize

/-! ## Removing blanks -/

theorem dropWhileEnd_subset (drops : Char → Bool) (characters : List Char) :
    dropWhileEnd drops characters ⊆ characters := by
  intro character member
  have kept := (List.dropWhile_subset drops) (List.mem_reverse.1 member)
  exact List.mem_reverse.1 kept

theorem Clean.trim {text : String} (clean : Clean text) : Clean (Text.trim text) := by
  rw [Text.trim, clean_ofList]
  exact CleanList.subset clean fun _ member =>
    List.dropWhile_subset _ (dropWhileEnd_subset _ _ member)

/-! ## Numbers -/

/-- Whether numbers are written with a character: a digit, a sign, a point, or a letter of the
names that some of them have. -/
def isNumeral (character : Char) : Bool :=
  character.isDigit || character.isAlpha || character = '-' || character = '.'

/-- A text of characters that numbers are written with. -/
def Numeric (text : String) : Prop :=
  ∀ character ∈ text.toList, isNumeral character = true

instance (text : String) : Decidable (Numeric text) :=
  List.decidableBAll (fun character => isNumeral character = true) text.toList

theorem numeric_append {first second : String} :
    Numeric (first ++ second) ↔ Numeric first ∧ Numeric second := by
  simp only [Numeric, String.toList_append, List.forall_mem_append]

theorem numeric_digits {value : Nat} {characters : List Char}
    (digits : characters ⊆ Nat.toDigits 10 value) : Numeric (String.ofList characters) := by
  intro character member
  rw [String.toList_ofList] at member
  have digit := Nat.isDigit_of_mem_toDigits (by decide) (by decide) (digits member)
  rw [isNumeral, digit]
  rfl

theorem numeric_toString_int (value : Int) : Numeric (toString value) := by
  cases value with
  | ofNat value => exact numeric_digits (List.Subset.refl _)
  | negSucc value =>
      exact numeric_append.2 ⟨by decide, numeric_digits (List.Subset.refl _)⟩

theorem Numeric.ne {text : String} {character other : Char} (numeric : Numeric text)
    (member : character ∈ text.toList) (apart : isNumeral other = false) : character ≠ other := by
  rintro rfl
  rw [numeric character member] at apart
  cases apart

/-- Numbers are not written with delimiters. -/
theorem Numeric.clean {text : String} (numeric : Numeric text) : Clean text := by
  intro character member
  have apart : ∀ other, isNumeral other = false → character ≠ other := fun _ =>
    numeric.ne member
  simp [isDelimiter, apart '<' (by decide), apart '>' (by decide), apart '"' (by decide),
    apart '\'' (by decide)]

end TemplateEngine.Text

namespace TemplateEngine.Number

open Text

theorem numeric_zeros (count : Nat) : Numeric (zeros count) := by
  intro character member
  rw [zeros, String.toList_ofList] at member
  rw [List.eq_of_mem_replicate member]
  decide

theorem numeric_positional (decimal : Decimal) : Numeric decimal.positional := by
  unfold Decimal.positional
  dsimp only
  split
  · exact numeric_append.2 ⟨numeric_digits (List.Subset.refl _), numeric_zeros _⟩
  · split
    · exact numeric_append.2 ⟨numeric_append.2 ⟨numeric_digits (List.take_subset _ _), by decide⟩,
        numeric_digits (List.drop_subset _ _)⟩
    · exact numeric_append.2 ⟨numeric_append.2 ⟨by decide, numeric_zeros _⟩,
        numeric_digits (List.Subset.refl _)⟩

theorem numeric_signText (sign : Float.Model.UnpackedFloat.Sign) : Numeric (signText sign) := by
  cases sign <;> decide

theorem numeric_plain (number : Float) : Numeric (plain number) := by
  unfold plain
  split
  · decide
  · exact numeric_append.2 ⟨numeric_signText _, by decide⟩
  · exact numeric_append.2 ⟨numeric_signText _, by decide⟩
  · exact numeric_append.2 ⟨numeric_signText _, numeric_positional _⟩

theorem numeric_text (number : Float) : Numeric (text number) := by
  unfold text
  split
  · split
    · exact numeric_toString_int _
    · exact numeric_plain number
  · exact numeric_plain number

/-- Every written number is clean. -/
theorem clean_text (number : Float) : Clean (text number) :=
  (numeric_text number).clean

end TemplateEngine.Number
