import TemplateEngine.Proofs.Faults
import TemplateEngine.Proofs.Printing

/-!
# Reading the tokens of printed expressions

The readers of expressions read the tokens of an expression as that expression.  A reader is
described by the tokens that it takes: from every cursor that they are left of, with something
certain behind them, it gives a value that is wanted and leaves what is behind.

Every precedence level passes on what the next one reads, unless an operator of its own
follows.  So an operand is read by all of them as far as it goes, and an operation at the
level of its operator.
-/

namespace TemplateEngine

namespace TagReader

variable {α β γ : Type}

/-- From a cursor with some tokens left, and others behind them, a reader does what a
continuation does behind the tokens with a value that is wanted. -/
def Leads (reader : TagReader β) (signs following : List Sign) (continuation : α → TagReader β)
    (wanted : α → Prop) : Prop :=
  ∀ cursor tokens rest, cursor.remaining = tokens ++ rest → tokens.map Token.sign = signs →
    rest.map Token.sign = following →
      ∃ value, wanted value ∧
        reader.run.run cursor = (continuation value).run.run { cursor with remaining := rest }

/-- A reader takes some tokens in front of others and gives a value that is wanted. -/
def Takes (reader : TagReader α) (signs following : List Sign) (wanted : α → Prop) : Prop :=
  Leads reader signs following pure wanted

variable {reader : TagReader α} {continuation : α → TagReader β} {last : γ → TagReader β}
  {first second following : List Sign} {wanted weaker : α → Prop} {outcome : γ → Prop}

theorem Leads.trans {begun : TagReader β}
    (leads : Leads begun first (second ++ following) continuation wanted)
    (more : ∀ value, wanted value → Leads (continuation value) second following last outcome) :
    Leads begun (first ++ second) following last outcome := by
  intro cursor tokens rest remaining spelled followed
  rcases List.map_eq_append_iff.1 spelled with ⟨front, back, rfl, frontSigns, backSigns⟩
  rw [List.append_assoc] at remaining
  have behind : (back ++ rest).map Token.sign = second ++ following := by
    rw [List.map_append, backSigns, followed]
  rcases leads cursor front (back ++ rest) remaining frontSigns behind with ⟨value, holds, ran⟩
  rcases more value holds { cursor with remaining := back ++ rest } back rest rfl backSigns
    followed with ⟨result, good, finished⟩
  exact ⟨result, good, ran.trans finished⟩

theorem Takes.leads (takes : Takes reader first following wanted)
    (continuation : α → TagReader β) :
    Leads (reader >>= continuation) first following continuation wanted := by
  intro cursor tokens rest remaining spelled followed
  rcases takes cursor tokens rest remaining spelled followed with ⟨value, holds, ran⟩
  refine ⟨value, holds, ?_⟩
  rw [run_bind, ran]
  rfl

/-- One reader after another. -/
theorem Takes.bind (takes : Takes reader first (second ++ following) wanted)
    (more : ∀ value, wanted value → Leads (continuation value) second following last outcome) :
    Leads (reader >>= continuation) (first ++ second) following last outcome :=
  (takes.leads continuation).trans more

theorem Takes.weaken (takes : Takes reader first following wanted)
    (implies : ∀ value, wanted value → weaker value) : Takes reader first following weaker := by
  intro cursor tokens rest remaining spelled followed
  rcases takes cursor tokens rest remaining spelled followed with ⟨value, holds, ran⟩
  exact ⟨value, implies value holds, ran⟩

/-- A reader in front of one that takes nothing. -/
theorem Takes.finish (takes : Takes reader first following wanted)
    (more : ∀ value, wanted value → Leads (continuation value) [] following last outcome) :
    Leads (reader >>= continuation) first following last outcome := by
  have leads := (takes.leads continuation).trans more
  rwa [List.append_nil] at leads

/-- A reader that takes nothing, in front of another one. -/
theorem Takes.skip (takes : Takes reader [] (second ++ following) wanted)
    (more : ∀ value, wanted value → Leads (continuation value) second following last outcome) :
    Leads (reader >>= continuation) second following last outcome :=
  takes.bind more

theorem Takes.map {change : α → γ} (takes : Takes reader first following wanted)
    (implies : ∀ value, wanted value → outcome (change value)) :
    Takes (change <$> reader) first following outcome := by
  intro cursor tokens rest remaining spelled followed
  rcases takes cursor tokens rest remaining spelled followed with ⟨value, holds, ran⟩
  refine ⟨change value, implies value holds, ?_⟩
  rw [map_eq_pure_bind, run_bind, ran]
  rfl

theorem takes_pure {value : α} (holds : wanted value) :
    Takes (pure value) [] following wanted := by
  intro cursor tokens rest remaining spelled followed
  cases List.map_eq_nil_iff.1 spelled
  refine ⟨value, holds, ?_⟩
  rw [List.nil_append] at remaining
  rw [← remaining]

/-! ### Single tokens -/

theorem run_takeIf? (condition : Token → Bool) (cursor : Cursor) :
    (takeIf? condition).run.run cursor =
      match cursor.current? with
      | some token =>
          if condition token then (.ok (some token), cursor.advance) else (.ok none, cursor)
      | none => (.ok none, cursor) := by
  change (match cursor.current? with
    | some token =>
        if condition token then do
          set cursor.advance
          return some token
        else return none
    | none => return none : TagReader (Option Token)).run.run cursor = _
  split
  · split <;> rfl
  · rfl

theorem takes_takeIf? {condition : Token → Bool} {sign : Sign}
    (holds : ∀ token : Token, token.sign = sign → condition token = true) :
    Takes (takeIf? condition) [sign] following fun taken =>
      ∃ token, taken = some token ∧ token.sign = sign := by
  intro cursor tokens rest remaining spelled followed
  rcases List.map_eq_singleton_iff.1 spelled with ⟨token, rfl, same⟩
  refine ⟨some token, ⟨token, rfl, same⟩, ?_⟩
  have current : cursor.current? = some token := by rw [Cursor.current?, remaining]; rfl
  have advanced : cursor.advance = { cursor with remaining := rest } := by
    rw [Cursor.advance, remaining]
    rfl
  rw [run_takeIf?, current]
  simp only [holds token same, advanced]
  rfl

theorem takes_takeIf?_none {condition : Token → Bool}
    (fails : ∀ token : Token, token.sign ∈ following.head? → condition token = false) :
    Takes (takeIf? condition) [] following (· = none) := by
  rintro ⟨remaining, start, finish⟩ tokens rest same spelled followed
  cases List.map_eq_nil_iff.1 spelled
  obtain rfl : remaining = rest := same
  refine ⟨none, rfl, ?_⟩
  rw [run_takeIf?]
  cases remaining with
  | nil => rfl
  | cons token rest =>
      have different : condition token = false := fails token (by rw [← followed]; rfl)
      simp only [Cursor.current?, List.head?_cons, different]
      rfl

/-- None of some tokens follows. -/
def Stops (signs following : List Sign) : Prop :=
  ∀ sign ∈ following.head?, sign ∉ signs

theorem stops_cons {signs following : List Sign} {sign : Sign} (apart : sign ∉ signs) :
    Stops signs (sign :: following) := by
  intro other head
  cases head
  exact apart

theorem Stops.mono {signs others following : List Sign} (stops : Stops others following)
    (included : ∀ sign ∈ signs, sign ∈ others) : Stops signs following :=
  fun sign head member => stops sign head (included sign member)

theorem takes_next? (sign : Sign) :
    Takes next? [sign] following fun taken =>
      ∃ token, taken = some token ∧ token.sign = sign :=
  takes_takeIf? fun _ _ => rfl

theorem takes_name? {names : List String} {text : String} (member : text ∈ names) :
    Takes (name? names) [.name text] following fun taken =>
      ∃ token, taken = some token ∧ token.sign = .name text := by
  apply takes_takeIf?
  rintro ⟨kind, _, position, trim⟩ same
  cases same
  simpa using member

theorem takes_name?_none {names : List String} (stops : Stops (names.map .name) following) :
    Takes (name? names) [] following (· = none) := by
  apply takes_takeIf?_none
  rintro ⟨kind, text, position, trim⟩ head
  rw [Bool.and_eq_false_iff]
  by_cases same : kind = .name
  · subst same
    refine .inr (Bool.eq_false_iff.2 fun member => stops _ head ?_)
    exact List.mem_map.2 ⟨text, List.contains_iff_mem.1 member, rfl⟩
  · exact .inl (beq_eq_false_iff_ne.2 same)

theorem takes_operator? {operators : List String} {text : String} (member : text ∈ operators) :
    Takes (operator? operators) [.operator text] following fun taken =>
      ∃ token, taken = some token ∧ token.sign = .operator text := by
  apply takes_takeIf?
  rintro ⟨kind, _, position, trim⟩ same
  cases same
  simpa using member

theorem takes_operator?_none {operators : List String}
    (stops : Stops (operators.map .operator) following) :
    Takes (operator? operators) [] following (· = none) := by
  apply takes_takeIf?_none
  rintro ⟨kind, text, position, trim⟩ head
  rw [Bool.and_eq_false_iff]
  by_cases same : kind = .operator
  · subst same
    refine .inr (Bool.eq_false_iff.2 fun member => stops _ head ?_)
    exact List.mem_map.2 ⟨text, List.contains_iff_mem.1 member, rfl⟩
  · exact .inl (beq_eq_false_iff_ne.2 same)

theorem takes_accepts (text : String) : Takes (accepts text) [.name text] following (· = true) := by
  apply (takes_name? (List.mem_singleton_self text)).map
  rintro _ ⟨token, rfl, _⟩
  rfl

theorem takes_accepts_none {text : String} (stops : Stops [.name text] following) :
    Takes (accepts text) [] following (· = false) := by
  have none : Takes (name? [text]) [] following (· = none) := takes_name?_none stops
  apply none.map
  rintro _ rfl
  rfl

theorem takes_acceptsOperator (text : String) :
    Takes (acceptsOperator text) [.operator text] following (· = true) := by
  apply (takes_operator? (List.mem_singleton_self text)).map
  rintro _ ⟨token, rfl, _⟩
  rfl

theorem takes_acceptsOperator_none {text : String} (stops : Stops [.operator text] following) :
    Takes (acceptsOperator text) [] following (· = false) := by
  have none : Takes (operator? [text]) [] following (· = none) := takes_operator?_none stops
  apply none.map
  rintro _ rfl
  rfl

theorem takes_name (what text : String) :
    Takes (name what) [.name text] following fun token => token.text = text := by
  have taken : Takes (kind? .name) [.name text] following fun taken =>
      ∃ token, taken = some token ∧ token.sign = .name text := by
    apply takes_takeIf?
    rintro ⟨kind, _, position, trim⟩ same
    cases same
    rfl
  refine taken.finish ?_
  rintro _ ⟨token, rfl, same⟩
  exact takes_pure (congrArg Sign.text same)

theorem takes_operator (text : String) :
    Takes (operator text) [.operator text] following fun _ => True := by
  refine (takes_operator? (List.mem_singleton_self text)).finish ?_
  rintro _ ⟨token, rfl, _⟩
  exact takes_pure True.intro

theorem takes_finish : Takes finish [] [] fun _ => True := by
  rintro ⟨_, start, finish⟩ tokens rest remaining spelled followed
  cases List.map_eq_nil_iff.1 spelled
  cases List.map_eq_nil_iff.1 followed
  cases remaining
  exact ⟨(), True.intro, rfl⟩

end TagReader

end TemplateEngine
