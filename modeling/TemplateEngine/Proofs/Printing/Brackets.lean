import Mathlib.Logic.Basic
import TemplateEngine.Proofs.Printing.Parsing

/-!
# Reading what brackets enclose

Items of a list, entries of a dictionary and arguments are expressions between commas, up to a
bracket that closes them.  They are read by a reader that is taken here as one that reads printed
expressions, as long as they have fewer tokens than some bound.  It is not told where an
expression ends; but no expression begins with a token that can follow one.
-/

namespace TemplateEngine

open Sign (comma separated)

/-! ## First tokens -/

/-- The tokens that follow a whole expression. -/
def closers : List Sign :=
  [.operator ")", .operator "]", .operator "\x7d", .operator ",", .operator ":"]

/-- A whole expression ends: nothing follows it, or a token that closes or separates. -/
def Ends (following : List Sign) : Prop :=
  ∀ sign ∈ following.head?, sign ∈ closers

theorem ends_nil : Ends [] := by
  intro sign head
  cases head

theorem ends_cons {sign : Sign} (member : sign ∈ closers) (rest : List Sign) :
    Ends (sign :: rest) := by
  intro other head
  cases head
  exact member

theorem Ends.stops {signs following : List Sign} (ends : Ends following)
    (apart : ∀ sign ∈ closers, sign ∉ signs) : TagReader.Stops signs following :=
  fun sign head => apart sign (ends sign head)

namespace Expression

theorem isSigned_of_isOperand {expression : Expression} (operand : expression.isOperand = true) :
    expression.isSigned = true := by
  cases expression with
  | unary operator inner position => cases operand
  | _ => exact operand

theorem isTestable_of_isSigned {expression : Expression} (signed : expression.isSigned = true) :
    expression.isTestable = true := by
  cases expression with
  | test => rfl
  | _ => exact signed

/-- The first token of an expression closes and separates nothing.  It is a `not` only where
the expression cannot be tested, and a dash only where it is no operand. -/
structure Opening (expression : Expression) (sign : Sign) : Prop where
  notCloser : sign ∉ closers
  notEquals : sign ≠ .operator "="
  notNot : expression.isTestable = true → sign ≠ .name "not"
  notDash : expression.isOperand = true → sign ≠ .operator "-"

/-- What begins with an operand begins as the operand does. -/
theorem Opening.of_operand {target expression : Expression} {sign : Sign}
    (opening : Opening target sign) (operand : target.isOperand = true) :
    Opening expression sign where
  notCloser := opening.notCloser
  notEquals := opening.notEquals
  notNot _ := opening.notNot (isTestable_of_isSigned (isSigned_of_isOperand operand))
  notDash _ := opening.notDash operand

theorem opening_name {expression : Expression} {text : String} (notNot : text ≠ "not") :
    Opening expression (.name text) where
  notCloser := by simp [closers, Sign.name, Sign.operator]
  notEquals := by simp [Sign.name, Sign.operator]
  notNot _ same := notNot (congrArg Sign.text same)
  notDash _ := by simp [Sign.name, Sign.operator]

theorem opening_bracket {expression : Expression} {text : String}
    (bracket : text ∈ ["(", "[", "\x7b"]) : Opening expression (.operator text) where
  notCloser member := by
    have apart : ∀ text ∈ ["(", "[", "\x7b"], Sign.operator text ∉ closers := by decide
    exact apart text bracket member
  notEquals same := by
    cases same
    exact absurd bracket (by decide)
  notNot _ := by simp [Sign.name, Sign.operator]
  notDash _ same := by
    cases same
    exact absurd bracket (by decide)

theorem opening_literal {expression : Expression} {value : Literal}
    (back : value.readsBack = true) : Opening expression value.sign := by
  cases value with
  | none => exact opening_name (by decide)
  | bool value => cases value <;> exact opening_name (by decide)
  | float value => cases back
  | integer value =>
      exact ⟨by simp [closers, Literal.sign, Sign.operator], by simp [Literal.sign, Sign.operator],
        by simp [Literal.sign, Sign.name], by simp [Literal.sign, Sign.operator]⟩
  | string value =>
      exact ⟨by simp [closers, Literal.sign, Sign.operator], by simp [Literal.sign, Sign.operator],
        by simp [Literal.sign, Sign.name], by simp [Literal.sign, Sign.operator]⟩

theorem ne_of_isIdentifier {text reserved : String} (identifier : isIdentifier text = true)
    (member : reserved ∈ reservedNames) : text ≠ reserved := by
  rintro rfl
  rw [isIdentifier] at identifier
  split at identifier
  · cases identifier
  · simp_all

/-- What begins with an operand has the first token of the operand. -/
theorem exists_signs_cons_of_operand {target expression : Expression} {more : List Sign}
    (begins : ∃ sign rest, target.signs = sign :: rest ∧ target.Opening sign)
    (operand : target.isOperand = true) (spelled : expression.signs = target.signs ++ more) :
    ∃ sign rest, expression.signs = sign :: rest ∧ expression.Opening sign := by
  rcases begins with ⟨sign, rest, signs, opening⟩
  exact ⟨sign, rest ++ more, by rw [spelled, signs]; rfl, opening.of_operand operand⟩

/-- Every expression has a first token. -/
theorem exists_signs_cons (expression : Expression) (back : expression.readsBack = true) :
    ∃ sign rest, expression.signs = sign :: rest ∧ expression.Opening sign := by
  match expression with
  | .literal value _ => exact ⟨_, _, rfl, opening_literal back⟩
  | .name identifier _ =>
      exact ⟨_, _, rfl, opening_name (ne_of_isIdentifier back (by decide))⟩
  | .list items _ => exact ⟨_, _, rfl, opening_bracket (by decide)⟩
  | .dict entries _ => exact ⟨_, _, rfl, opening_bracket (by decide)⟩
  | .binary operator left right _ => exact ⟨_, _, rfl, opening_bracket (by decide)⟩
  | .member target memberName _ =>
      simp only [readsBack, Bool.and_eq_true] at back
      exact exists_signs_cons_of_operand (exists_signs_cons target back.1.2) back.1.1 rfl
  | .item target index _ =>
      simp only [readsBack, Bool.and_eq_true] at back
      exact exists_signs_cons_of_operand (exists_signs_cons target back.1.2) back.1.1
        (by rw [signs, List.append_assoc])
  | .call callee arguments _ =>
      simp only [readsBack, Bool.and_eq_true] at back
      exact exists_signs_cons_of_operand (exists_signs_cons callee back.1.2) back.1.1.1 rfl
  | .filter target filterName arguments _ =>
      simp only [readsBack, Bool.and_eq_true] at back
      exact exists_signs_cons_of_operand (exists_signs_cons target back.1.1.2) back.1.1.1 rfl
  | .test target testName arguments negated _ =>
      simp only [readsBack, Bool.and_eq_true] at back
      rcases exists_signs_cons target back.1.1.2 with ⟨sign, rest, spelled, opening⟩
      refine ⟨sign, _, by rw [signs, spelled]; rfl, opening.notCloser, opening.notEquals,
        fun _ => opening.notNot back.1.1.1, ?_⟩
      intro operand
      cases operand
  | .unary .not operand _ =>
      refine ⟨_, _, rfl, by decide, by decide, ?_, fun _ => by decide⟩
      intro testable
      cases testable
  | .unary .negate operand _ =>
      refine ⟨_, _, rfl, by decide, by decide, fun _ => by decide, ?_⟩
      intro operand
      cases operand

theorem length_signs_pos (expression : Expression) (back : expression.readsBack = true) :
    0 < expression.signs.length := by
  rcases exists_signs_cons expression back with ⟨sign, rest, spelled, _⟩
  rw [spelled]
  exact Nat.zero_lt_succ _

/-- No expression begins as an argument with a name does, unless the sign of an argument with a
name follows it. -/
theorem signs_append_ne_keyword (expression : Expression) (back : expression.readsBack = true)
    {following : List Sign} (apart : TagReader.Stops [.operator "="] following) (text : String)
    (rest : List Sign) : expression.signs ++ following ≠ .name text :: .operator "=" :: rest := by
  have single (sign : Sign) : [sign] ++ following ≠ .name text :: .operator "=" :: rest := by
    intro same
    have tail : following = .operator "=" :: rest := (List.cons.inj same).2
    rw [tail] at apart
    exact apart _ rfl (List.mem_singleton_self _)
  match expression with
  | .literal value _ => exact single _
  | .name identifier _ => exact single _
  | .list items _ => simp [signs, Sign.operator, Sign.name]
  | .dict entries _ => simp [signs, Sign.operator, Sign.name]
  | .binary operator left right _ => simp [signs, Sign.operator, Sign.name]
  | .member target memberName _ =>
      simp only [readsBack, Bool.and_eq_true] at back
      rw [signs, List.append_assoc]
      exact signs_append_ne_keyword target back.1.2 (TagReader.stops_cons (by decide)) text rest
  | .item target index _ =>
      simp only [readsBack, Bool.and_eq_true] at back
      rw [signs, List.append_assoc, List.append_assoc]
      exact signs_append_ne_keyword target back.1.2 (TagReader.stops_cons (by decide)) text rest
  | .call callee ⟨positional, keyword⟩ _ =>
      simp only [readsBack, Bool.and_eq_true] at back
      rw [signs, List.append_assoc]
      exact signs_append_ne_keyword callee back.1.2 (TagReader.stops_cons (by decide)) text rest
  | .filter target filterName arguments _ =>
      simp only [readsBack, Bool.and_eq_true] at back
      rw [signs, List.append_assoc]
      exact signs_append_ne_keyword target back.1.1.2 (TagReader.stops_cons (by decide)) text rest
  | .test target testName arguments negated _ =>
      simp only [readsBack, Bool.and_eq_true] at back
      rw [signs, List.append_assoc, List.append_assoc]
      exact signs_append_ne_keyword target back.1.1.2 (TagReader.stops_cons (by decide)) text rest
  | .unary .negate operand _ => simp [signs, UnaryOperator.sign, Sign.operator, Sign.name]
  | .unary .not operand _ =>
      rcases exists_signs_cons operand back with ⟨sign, more, spelled, opening⟩
      rw [signs, spelled]
      intro same
      exact opening.notEquals (List.cons.inj (List.cons.inj same).2).1

/-! ## Likeness -/

/-- Two expressions that differ in positions only. -/
def Like (expression read : Expression) : Prop :=
  read.unplaced = expression.unplaced

/-- Arguments that differ in positions only. -/
def LikeArguments (arguments read : CallArguments Expression) : Prop :=
  unplacedArguments read = unplacedArguments arguments

section Like

variable {target readTarget index readIndex : Expression} {text : String}
  {arguments readArguments : CallArguments Expression} {position place : Position}

theorem Like.member (like : target.Like readTarget) :
    (Expression.member target text position).Like (.member readTarget text place) :=
  congrArg (Expression.member · text default) like

theorem Like.item (like : target.Like readTarget) (indexLike : index.Like readIndex) :
    (Expression.item target index position).Like (.item readTarget readIndex place) :=
  congrArg₂ (Expression.item · · default) like indexLike

theorem Like.call (like : target.Like readTarget) (same : LikeArguments arguments readArguments) :
    (Expression.call target arguments position).Like (.call readTarget readArguments place) :=
  congrArg₂ (Expression.call · · default) like same

theorem Like.filter (like : target.Like readTarget)
    (same : LikeArguments arguments readArguments) :
    (Expression.filter target text arguments position).Like
      (.filter readTarget text readArguments place) :=
  congrArg₂ (Expression.filter · text · default) like same

theorem Like.test {negated : Bool} (like : target.Like readTarget)
    (same : LikeArguments arguments readArguments) :
    (Expression.test target text arguments negated position).Like
      (.test readTarget text readArguments negated place) :=
  congrArg₂ (Expression.test · text · negated default) like same

theorem Like.unary {operator : UnaryOperator} (like : target.Like readTarget) :
    (Expression.unary operator target position).Like (.unary operator readTarget place) :=
  congrArg (Expression.unary operator · default) like

theorem Like.binary {operator : BinaryOperator} (like : target.Like readTarget)
    (indexLike : index.Like readIndex) :
    (Expression.binary operator target index position).Like
      (.binary operator readTarget readIndex place) :=
  congrArg₂ (Expression.binary operator · · default) like indexLike

end Like

theorem itemSigns_eq_map (items : List Expression) : itemSigns items = items.map signs := by
  induction items with
  | nil => rfl
  | cons first rest inductionHypothesis => rw [itemSigns, inductionHypothesis]; rfl

theorem entrySigns_eq_map (entries : List (Expression × Expression)) :
    entrySigns entries =
      entries.map fun entry => entry.1.signs ++ .operator ":" :: entry.2.signs := by
  induction entries with
  | nil => rfl
  | cons first rest inductionHypothesis => rw [entrySigns, inductionHypothesis]; rfl

theorem keywordSigns_eq_map (keywords : List (String × Expression)) :
    keywordSigns keywords =
      keywords.map fun entry => .name entry.1 :: .operator "=" :: entry.2.signs := by
  induction keywords with
  | nil => rfl
  | cons first rest inductionHypothesis => rw [keywordSigns, inductionHypothesis]; rfl

theorem unplacedItems_eq_map (items : List Expression) :
    unplacedItems items = items.map unplaced := by
  induction items with
  | nil => rfl
  | cons first rest inductionHypothesis => rw [unplacedItems, inductionHypothesis]; rfl

theorem unplacedEntries_eq_map (entries : List (Expression × Expression)) :
    unplacedEntries entries = entries.map (Prod.map unplaced unplaced) := by
  induction entries with
  | nil => rfl
  | cons first rest inductionHypothesis => rw [unplacedEntries, inductionHypothesis]; rfl

theorem unplacedKeywords_eq_map (keywords : List (String × Expression)) :
    unplacedKeywords keywords = keywords.map (Prod.map id unplaced) := by
  induction keywords with
  | nil => rfl
  | cons first rest inductionHypothesis => rw [unplacedKeywords, inductionHypothesis]; rfl

theorem itemsReadBack_iff {items : List Expression} :
    itemsReadBack items = true ↔ ∀ item ∈ items, item.readsBack = true := by
  induction items with
  | nil => simp [itemsReadBack]
  | cons first rest inductionHypothesis => simp [itemsReadBack, inductionHypothesis]

theorem entriesReadBack_iff {entries : List (Expression × Expression)} :
    entriesReadBack entries = true ↔
      ∀ entry ∈ entries, entry.1.readsBack = true ∧ entry.2.readsBack = true := by
  induction entries with
  | nil => simp [entriesReadBack]
  | cons first rest inductionHypothesis =>
      simp [entriesReadBack, inductionHypothesis, and_assoc]

end Expression

/-! ## Lengths -/

namespace Sign

theorem length_le_separated {part : List Sign} {parts : List (List Sign)} (member : part ∈ parts) :
    part.length ≤ (separated parts).length := by
  cases parts with
  | nil => cases member
  | cons first rest =>
      rw [separated, List.length_append]
      rcases List.mem_cons.1 member with rfl | member
      · exact Nat.le_add_right _ _
      · have among : part <:+: rest.flatMap (comma :: ·) := by
          rcases List.append_of_mem member with ⟨before, after, rfl⟩
          exact ⟨before.flatMap (comma :: ·) ++ [comma], after.flatMap (comma :: ·), by simp⟩
        exact Nat.le_trans among.length_le (Nat.le_add_left _ _)

theorem length_separated_le {first : List Sign} {rest : List (List Sign)} :
    (separated rest).length ≤ (separated (first :: rest)).length := by
  cases rest with
  | nil => exact Nat.zero_le _
  | cons second rest =>
      rw [separated, separated, List.flatMap_cons, List.length_append, List.length_append,
        List.length_append, List.length_cons]
      omega

/-- There are no more parts than tokens, if there are no empty parts. -/
theorem count_le_separated {parts : List (List Sign)} (proper : ∀ part ∈ parts, part ≠ []) :
    parts.length ≤ (separated parts).length := by
  have count (parts : List (List Sign)) :
      parts.length ≤ (parts.flatMap fun part => comma :: part).length := by
    induction parts with
    | nil => exact Nat.le_refl _
    | cons first rest inductionHypothesis =>
        rw [List.flatMap_cons, List.length_append, List.length_cons, List.length_cons]
        omega
  cases parts with
  | nil => exact Nat.le_refl _
  | cons first rest =>
      have some := List.length_pos_iff.2 (proper first List.mem_cons_self)
      have others := count rest
      rw [separated, List.length_append, List.length_cons]
      omega

end Sign

namespace TagReader

open Expression

/-- Whether a reader reads printed expressions with fewer tokens than a bound, and also binary
operations without the parentheses around them. -/
structure Reads (inner : TagReader Expression) (bound : Nat) : Prop where
  whole : ∀ expression : Expression, expression.readsBack = true →
    expression.signs.length < bound → ∀ following, Ends following →
      Takes inner expression.signs following expression.Like
  body : ∀ operator left right position,
    (Expression.binary operator left right position).readsBack = true →
      (left.signs ++ operator.signs ++ right.signs).length < bound → ∀ following, Ends following →
        Takes inner (left.signs ++ operator.signs ++ right.signs) following
          (Expression.binary operator left right position).Like

variable {inner : TagReader Expression} {limit : Nat} {signs following : List Sign}

/-! ### Lists and dictionaries -/

section Items

variable {α ε γ : Type} {item : TagReader α} {closer : String} {image : α → γ}
  {signsOf : ε → List Sign} {expected : ε → γ} {elements : List ε}

/-- What follows an element is a comma or what closes all of them. -/
theorem ends_more (closes : .operator closer ∈ closers) (parts : List (List Sign)) :
    Ends (parts.flatMap (comma :: ·) ++ [.operator closer] ++ following) := by
  cases parts with
  | nil => exact ends_cons closes _
  | cons first rest => exact ends_cons (by decide) _

/-- Further elements are read up to what closes them. -/
theorem takes_moreItems (closes : .operator closer ∈ closers) (notComma : closer ≠ ",")
    (reads : ∀ element ∈ elements, ∀ following, Ends following →
      Takes item (signsOf element) following fun value => image value = expected element)
    {bound : Nat} (enough : elements.length < bound) {gathered : List α}
    (some : gathered.isEmpty = false) :
    Takes (itemsFrom item closer bound gathered)
      ((elements.map signsOf).flatMap (comma :: ·) ++ [.operator closer]) following
      fun result => result.map image = gathered.map image ++ elements.map expected := by
  induction elements generalizing bound gathered with
  | nil =>
      cases bound with
      | zero => cases enough
      | succ bound =>
          rw [itemsFrom]
          apply (takes_acceptsOperator closer).finish
          rintro _ rfl
          exact takes_pure (by simp)
  | cons element rest inductionHypothesis =>
      cases bound with
      | zero => cases enough
      | succ bound =>
          have apart : Stops [.operator closer] (((element :: rest).map signsOf).flatMap
              (comma :: ·) ++ [.operator closer] ++ following) := by
            apply stops_cons
            intro member
            exact notComma.symm (congrArg Sign.text (List.mem_singleton.1 member))
          rw [itemsFrom]
          apply (takes_acceptsOperator_none apart).skip
          rintro _ rfl
          simp only [some]
          rw [List.map_cons, List.flatMap_cons, List.append_assoc]
          apply (takes_operator ",").bind
          intro token _
          apply (reads element List.mem_cons_self _ (ends_more closes _)).bind
          intro value like
          have longer : (gathered ++ [value]).isEmpty = false := by simp
          apply (inductionHypothesis (fun other member => reads other (.tail _ member))
            (Nat.lt_of_succ_lt_succ enough) longer).weaken
          intro result same
          rw [same, List.map_append, List.map_singleton, like, List.append_assoc]
          rfl

/-- All elements are read up to what closes them, if none begins with that. -/
theorem takes_items (closes : .operator closer ∈ closers) (notComma : closer ≠ ",") {bound : Nat}
    (begins : ∀ element ∈ elements, ∃ sign rest,
      signsOf element = sign :: rest ∧ sign ∉ closers)
    (reads : ∀ element ∈ elements, (signsOf element).length < bound → ∀ following,
      Ends following →
        Takes item (signsOf element) following fun value => image value = expected element)
    (short : (separated (elements.map signsOf)).length < bound) :
    Takes (itemsFrom item closer bound [])
      (separated (elements.map signsOf) ++ [.operator closer]) following
      fun result => result.map image = elements.map expected := by
  have each (element : ε) (member : element ∈ elements) :=
    reads element member (Nat.lt_of_le_of_lt
      (Sign.length_le_separated (List.mem_map.2 ⟨element, member, rfl⟩)) short)
  have proper : ∀ part ∈ elements.map signsOf, part ≠ [] := by
    intro part member
    rcases List.mem_map.1 member with ⟨element, among, rfl⟩
    rcases begins element among with ⟨sign, rest, spelled, _⟩
    rw [spelled]
    exact List.cons_ne_nil _ _
  have enough : elements.length < bound := by
    have count := Sign.count_le_separated proper
    rw [List.length_map] at count
    exact Nat.lt_of_le_of_lt count short
  cases bound with
  | zero => cases enough
  | succ bound =>
      rw [itemsFrom]
      cases elements with
      | nil =>
          apply (takes_acceptsOperator closer).finish
          rintro _ rfl
          exact takes_pure rfl
      | cons first rest =>
          rcases begins first List.mem_cons_self with ⟨sign, more, spelled, different⟩
          have apart : Stops [.operator closer] (separated ((first :: rest).map signsOf) ++
              [.operator closer] ++ following) := by
            rw [List.map_cons, separated, spelled]
            apply stops_cons
            intro member
            cases List.mem_singleton.1 member
            exact different closes
          apply (takes_acceptsOperator_none apart).skip
          rintro _ rfl
          rw [List.map_cons, separated, List.append_assoc]
          apply (each first List.mem_cons_self _ (ends_more closes _)).bind
          intro value like
          have some : ([] ++ [value]).isEmpty = false := rfl
          apply (takes_moreItems closes notComma (fun other member => each other (.tail _ member))
            (Nat.lt_of_succ_lt_succ enough) some).weaken
          intro result same
          rw [same, List.map_cons, ← like]
          rfl

end Items

theorem takes_list {items : List Expression} (reads : Reads inner limit)
    (back : itemsReadBack items = true) (short : (separated (itemSigns items)).length < limit) :
    Takes (itemsFrom inner "]" limit []) (separated (itemSigns items) ++ [.operator "]"]) following
      fun result => unplacedItems result = unplacedItems items := by
  have each := itemsReadBack_iff.1 back
  simp only [unplacedItems_eq_map]
  rw [itemSigns_eq_map] at short ⊢
  apply takes_items (by decide) (by decide) _ _ short
  · intro item member
    rcases exists_signs_cons item (each item member) with ⟨sign, rest, spelled, opening⟩
    exact ⟨sign, rest, spelled, opening.notCloser⟩
  · intro item member inside
    exact reads.whole item (each item member) inside

theorem takes_entry {key value : Expression} (reads : Reads inner limit)
    (keyBack : key.readsBack = true) (valueBack : value.readsBack = true)
    (short : (key.signs ++ .operator ":" :: value.signs).length < limit) (ends : Ends following) :
    Takes (entry inner) (key.signs ++ .operator ":" :: value.signs) following
      fun entry => Prod.map unplaced unplaced entry = Prod.map unplaced unplaced (key, value) := by
  rw [List.length_append, List.length_cons] at short
  apply (reads.whole key keyBack (by omega) _ (ends_cons (by decide) _)).bind
  intro readKey keyLike
  apply (takes_operator ":").bind
  intro token _
  apply (reads.whole value valueBack (by omega) _ ends).finish
  intro readValue valueLike
  exact takes_pure (Prod.ext keyLike valueLike)

theorem takes_dict {entries : List (Expression × Expression)} (reads : Reads inner limit)
    (back : entriesReadBack entries = true)
    (short : (separated (entrySigns entries)).length < limit) :
    Takes (itemsFrom (entry inner) "\x7d" limit [])
      (separated (entrySigns entries) ++ [.operator "\x7d"]) following
      fun result => unplacedEntries result = unplacedEntries entries := by
  have each := entriesReadBack_iff.1 back
  simp only [unplacedEntries_eq_map]
  rw [entrySigns_eq_map] at short ⊢
  apply takes_items (by decide) (by decide) _ _ short
  · rintro ⟨key, value⟩ member
    rcases exists_signs_cons key (each _ member).1 with ⟨sign, rest, spelled, opening⟩
    exact ⟨sign, _, by rw [spelled]; rfl, opening.notCloser⟩
  · rintro ⟨key, value⟩ member inside following ends
    exact takes_entry reads (each _ member).1 (each _ member).2 inside ends

/-! ### Arguments -/

/-- An argument is one with a name if its first tokens are a name and the sign of such an
argument. -/
theorem isKeyword_iff (cursor : Cursor) :
    (cursor.current?.any (·.kind == .name) && (cursor.peek? 1).any (·.isOperator "=")) = true ↔
      ∃ text rest, cursor.remaining.map Token.sign = .name text :: .operator "=" :: rest := by
  rw [Cursor.current?, Cursor.peek?]
  rcases cursor.remaining with _ | ⟨first, _ | ⟨second, more⟩⟩
  · simp
  · simp
  · simp [Token.isOperator, Token.sign, Sign.name, Sign.operator]

/-- What is read as an expression is read as an argument without a name, unless it begins as one
with a name does. -/
theorem takes_unnamed {gathered : CallArguments Expression} {argument : Expression}
    (takes : Takes inner signs following argument.Like)
    (notKeyword : ∀ text rest, signs ++ following ≠ .name text :: .operator "=" :: rest)
    (unnamed : gathered.keyword = []) :
    Takes (TagReader.argument inner gathered) signs following fun result =>
      ∃ value, argument.Like value ∧
        result = { gathered with positional := gathered.positional ++ [value] } := by
  intro cursor tokens rest remaining spelled followed
  rcases takes cursor tokens rest remaining spelled followed with ⟨value, like, ran⟩
  have notNamed := mt (isKeyword_iff cursor).1 (by
    rintro ⟨text, more, keyword⟩
    rw [remaining, List.map_append, spelled, followed] at keyword
    exact notKeyword text more keyword)
  refine ⟨_, ⟨value, like, rfl⟩, ?_⟩
  rw [TagReader.argument, run_bind]
  change (if _ then _ else _ : TagReader (CallArguments Expression)).run.run cursor = _
  rw [if_neg notNamed, unnamed]
  change (inner >>= _).run.run cursor = _
  rw [run_bind, ran]
  rfl

theorem takes_positional {gathered : CallArguments Expression} {argument : Expression}
    (reads : Reads inner limit) (back : argument.readsBack = true)
    (short : argument.signs.length < limit) (ends : Ends following)
    (unnamed : gathered.keyword = []) :
    Takes (TagReader.argument inner gathered) argument.signs following fun result =>
      ∃ value, argument.Like value ∧
        result = { gathered with positional := gathered.positional ++ [value] } :=
  takes_unnamed (reads.whole argument back short following ends)
    (signs_append_ne_keyword argument back (ends.stops (by decide))) unnamed

/-- An argument with a name is what is read behind the name. -/
theorem takes_named {gathered : CallArguments Expression} {keyword : String}
    {argument : Expression} (takes : Takes inner signs following argument.Like) :
    Takes (TagReader.argument inner gathered)
      (.name keyword :: .operator "=" :: signs) following fun result =>
        ∃ value, argument.Like value ∧
          result = { gathered with keyword := gathered.keyword ++ [(keyword, value)] } := by
  have named : Takes (name "an argument name" >>= fun token => operator "=" >>= fun _ =>
      inner >>= fun value => pure { gathered with
        keyword := gathered.keyword ++ [(token.text, value)] })
      (.name keyword :: .operator "=" :: signs) following fun result =>
        ∃ value, argument.Like value ∧
          result = { gathered with keyword := gathered.keyword ++ [(keyword, value)] } := by
    apply (takes_name "an argument name" keyword).bind
    rintro token rfl
    apply (takes_operator "=").bind
    intro _ _
    apply takes.finish
    intro value like
    exact takes_pure ⟨value, like, rfl⟩
  intro cursor tokens rest remaining spelled followed
  have together : cursor.remaining.map Token.sign =
      .name keyword :: .operator "=" :: (signs ++ following) := by
    rw [remaining, List.map_append, spelled, followed]
    rfl
  have isKeyword := (isKeyword_iff cursor).2 ⟨keyword, _, together⟩
  rcases named cursor tokens rest remaining spelled followed with ⟨value, holds, ran⟩
  refine ⟨value, holds, Eq.trans ?_ ran⟩
  rw [TagReader.argument, run_bind]
  change (if _ then _ else _ : TagReader (CallArguments Expression)).run.run cursor = _
  rw [if_pos isKeyword]

/-- After an argument come further ones, or what closes all of them. -/
theorem takes_moreArguments {gathered : CallArguments Expression} {parts : List (List Sign)}
    {wanted : CallArguments Expression → Prop} {bound : Nat} (none : parts = [] → wanted gathered)
    (some : parts ≠ [] → Takes (argumentsFrom inner bound gathered)
      (separated parts ++ [.operator ")"]) following wanted) :
    Takes (acceptsOperator ")" >>= fun closed =>
        if closed then pure gathered
        else operator "," >>= fun _ => argumentsFrom inner bound gathered)
      (parts.flatMap (comma :: ·) ++ [.operator ")"]) following wanted := by
  cases parts with
  | nil =>
      apply (takes_acceptsOperator ")").finish
      rintro _ rfl
      exact takes_pure (none rfl)
  | cons first rest =>
      have apart : Stops [.operator ")"]
          ((first :: rest).flatMap (comma :: ·) ++ [.operator ")"] ++ following) :=
        stops_cons (by decide)
      apply (takes_acceptsOperator_none apart).skip
      rintro _ rfl
      apply (takes_operator ",").bind
      intro _ _
      exact some (List.cons_ne_nil _ _)

theorem argumentParts_eq_nil {positional : List Expression} {keyword : List (String × Expression)}
    (none : itemSigns positional ++ keywordSigns keyword = []) :
    positional = [] ∧ keyword = [] := by
  cases positional with
  | cons first rest => cases none
  | nil =>
      cases keyword with
      | cons first rest => cases none
      | nil => exact ⟨rfl, rfl⟩

/-- Arguments without a name are read before those with one. -/
theorem takes_argumentsFrom (reads : Reads inner limit) {positional : List Expression}
    {keyword : List (String × Expression)} (back : itemsReadBack positional = true)
    (keywordBack : keywordsReadBack keyword = true)
    (short : (separated (itemSigns positional ++ keywordSigns keyword)).length < limit)
    {bound : Nat} (enough : positional.length + keyword.length ≤ bound)
    {gathered : CallArguments Expression} (unnamed : positional ≠ [] → gathered.keyword = [])
    (some : itemSigns positional ++ keywordSigns keyword ≠ []) :
    Takes (argumentsFrom inner bound gathered)
      (separated (itemSigns positional ++ keywordSigns keyword) ++ [.operator ")"]) following
      (LikeArguments ⟨gathered.positional ++ positional, gathered.keyword ++ keyword⟩) := by
  induction bound generalizing positional keyword gathered with
  | zero =>
      cases List.eq_nil_of_length_eq_zero (by omega : positional.length = 0)
      cases List.eq_nil_of_length_eq_zero (by omega : keyword.length = 0)
      exact absurd rfl some
  | succ bound inductionHypothesis =>
      rw [argumentsFrom]
      match positional, keyword with
      | [], [] => exact absurd rfl some
      | first :: rest, keyword =>
          rw [itemsReadBack, Bool.and_eq_true] at back
          have firstShort := Nat.lt_of_le_of_lt (Sign.length_le_separated List.mem_cons_self) short
          have restShort := Nat.lt_of_le_of_lt Sign.length_separated_le short
          rw [List.length_cons, Nat.add_right_comm] at enough
          rw [itemSigns, List.cons_append, separated, List.append_assoc]
          apply (takes_positional reads back.1 firstShort (ends_more (by decide) _)
            (unnamed (List.cons_ne_nil _ _))).bind
          rintro _ ⟨value, like, rfl⟩
          have same : unplacedArguments
              ⟨gathered.positional ++ [value] ++ rest, gathered.keyword ++ keyword⟩ =
                unplacedArguments
                  ⟨gathered.positional ++ first :: rest, gathered.keyword ++ keyword⟩ := by
            rw [Like] at like
            simp [unplacedArguments, unplacedItems_eq_map, like]
          apply takes_moreArguments
          · intro none
            rcases argumentParts_eq_nil none with ⟨rfl, rfl⟩
            simpa [LikeArguments] using same
          · intro more
            apply (inductionHypothesis back.2 keywordBack restShort
              (Nat.le_of_succ_le_succ enough) _ more).weaken
            · intro result read
              exact read.trans same
            · intro _
              exact unnamed (List.cons_ne_nil _ _)
      | [], (first, argument) :: rest =>
          rw [keywordsReadBack, Bool.and_eq_true, Bool.and_eq_true] at keywordBack
          have firstShort := Nat.lt_of_le_of_lt (Sign.length_le_separated List.mem_cons_self) short
          have restShort := Nat.lt_of_le_of_lt Sign.length_separated_le short
          rw [List.length_cons, ← Nat.add_assoc] at enough
          have parts : separated (itemSigns [] ++ keywordSigns ((first, argument) :: rest)) =
              .name first :: .operator "=" :: argument.signs ++
                (itemSigns [] ++ keywordSigns rest).flatMap (comma :: ·) := rfl
          rw [parts, List.append_assoc]
          have inside : argument.signs.length < limit :=
            Nat.lt_of_le_of_lt (Nat.le_add_right _ 2) firstShort
          have ends : Ends ((itemSigns [] ++ keywordSigns rest).flatMap (comma :: ·) ++
              [.operator ")"] ++ following) := ends_more (by decide) _
          apply (takes_named (reads.whole argument keywordBack.1.2 inside _ ends)).bind
          rintro _ ⟨value, like, rfl⟩
          have same : unplacedArguments
              ⟨gathered.positional ++ [], gathered.keyword ++ [(first, value)] ++ rest⟩ =
                unplacedArguments
                  ⟨gathered.positional ++ [], gathered.keyword ++ (first, argument) :: rest⟩ := by
            rw [Like] at like
            simp [unplacedArguments, unplacedKeywords_eq_map, like]
          apply takes_moreArguments
          · rintro none
            rcases argumentParts_eq_nil none with ⟨_, rfl⟩
            simpa [LikeArguments] using same
          · intro more
            apply (inductionHypothesis back keywordBack.2 restShort
              (Nat.le_of_succ_le_succ enough) _ more).weaken
            · intro result read
              exact read.trans same
            · intro some
              exact absurd rfl some

/-- No argument begins as something that closes or separates. -/
theorem argumentParts_begin {positional : List Expression} {keyword : List (String × Expression)}
    (back : itemsReadBack positional = true) :
    ∀ part ∈ itemSigns positional ++ keywordSigns keyword,
      ∃ sign rest, part = sign :: rest ∧ sign ∉ closers := by
  intro part member
  rw [itemSigns_eq_map, keywordSigns_eq_map] at member
  rcases List.mem_append.1 member with among | among
  · rcases List.mem_map.1 among with ⟨item, inside, rfl⟩
    rcases exists_signs_cons item (itemsReadBack_iff.1 back item inside) with
      ⟨sign, rest, spelled, opening⟩
    exact ⟨sign, rest, spelled, opening.notCloser⟩
  · rcases List.mem_map.1 among with ⟨entry, inside, rfl⟩
    exact ⟨_, _, rfl, by simp [closers, Sign.name, Sign.operator]⟩

/-- Arguments are read up to the parenthesis that closes them. -/
theorem takes_callArguments (reads : Reads inner limit) {positional : List Expression}
    {keyword : List (String × Expression)}
    (back : argumentsReadBack ⟨positional, keyword⟩ = true)
    (short : (argumentsSigns ⟨positional, keyword⟩).length < limit) :
    Takes (callArguments inner limit)
      (separated (itemSigns positional ++ keywordSigns keyword) ++ [.operator ")"]) following
      (LikeArguments ⟨positional, keyword⟩) := by
  rw [argumentsReadBack, Bool.and_eq_true] at back
  rw [argumentsSigns, List.length_append, List.length_cons] at short
  have begins : ∀ part ∈ itemSigns positional ++ keywordSigns keyword,
      ∃ sign rest, part = sign :: rest ∧ sign ∉ closers := argumentParts_begin back.1
  rw [callArguments]
  by_cases none : itemSigns positional ++ keywordSigns keyword = []
  · rcases argumentParts_eq_nil none with ⟨rfl, rfl⟩
    apply (takes_acceptsOperator ")").finish
    rintro _ rfl
    exact takes_pure rfl
  · have apart : Stops [.operator ")"] (separated (itemSigns positional ++ keywordSigns keyword) ++
        [.operator ")"] ++ following) := by
      rcases List.exists_cons_of_ne_nil none with ⟨first, rest, parts⟩
      rcases begins first (parts ▸ List.mem_cons_self) with ⟨sign, more, spelled, different⟩
      rw [parts, separated, spelled]
      apply stops_cons
      intro member
      cases List.mem_singleton.1 member
      exact different (by decide)
    have count := Sign.count_le_separated fun part member => by
      rcases begins part member with ⟨sign, rest, spelled, _⟩
      exact spelled ▸ List.cons_ne_nil _ _
    rw [List.length_append, itemSigns_eq_map, keywordSigns_eq_map, List.length_map,
      List.length_map, ← itemSigns_eq_map, ← keywordSigns_eq_map] at count
    apply (takes_acceptsOperator_none apart).skip
    rintro _ rfl
    exact takes_argumentsFrom reads back.1 back.2 (by omega) (by omega) (fun _ => rfl) none

theorem takes_optionalArguments (reads : Reads inner limit) {arguments : CallArguments Expression}
    (back : argumentsReadBack arguments = true)
    (short : (if arguments.isEmpty then [] else argumentsSigns arguments).length < limit)
    (bare : arguments.isEmpty = true → Stops [.operator "("] following) :
    Takes (optionalArguments inner limit)
      (if arguments.isEmpty then [] else argumentsSigns arguments) following
      (LikeArguments arguments) := by
  rw [optionalArguments]
  rcases arguments with ⟨positional, keyword⟩
  by_cases empty : CallArguments.isEmpty ⟨positional, keyword⟩ = true
  · rw [if_pos empty]
    apply (takes_acceptsOperator_none (bare empty)).skip
    rintro _ rfl
    rw [CallArguments.isEmpty, Bool.and_eq_true, List.isEmpty_iff, List.isEmpty_iff] at empty
    rcases empty with ⟨rfl, rfl⟩
    exact takes_pure rfl
  · rw [if_neg empty] at short ⊢
    apply (takes_acceptsOperator "(").bind
    rintro _ rfl
    exact takes_callArguments reads back short

end TagReader

end TemplateEngine
