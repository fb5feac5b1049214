import TemplateEngine.Proofs.Printing.Levels

/-!
# What readers have taken when they stop

A reader of expressions stops at some token: it gives a value and leaves the token, or it fails
there.  In both cases more can be said than what it did.  The tokens of a value give a like value
again, wherever they stand and whatever follows them, as long as that stops the reader too.  And
the tokens in front of a failure can be completed: with some other tokens behind them they are
read.

Both are said of the reader that ran, and concluded for readers that may take more tokens.
Completions are longer than what is completed, so the bounds of the readers may have to grow.
-/

namespace TemplateEngine

open Expression

/-! ## Tokens -/

/-- The dot in front of an attribute. -/
def Sign.dot : Sign := .operator "."

theorem Sign.name_ne_operator (text symbol : String) : Sign.name text ≠ .operator symbol :=
  fun same => TokenKind.noConfusion (congrArg Sign.kind same)

theorem Sign.name_ne_dot (text : String) : Sign.name text ≠ .dot :=
  name_ne_operator text "."

/-- Behind every dot stands the name or the number of an attribute. -/
def Dotted (tokens : List Token) : Prop :=
  ∀ before dot after, tokens = before ++ dot :: after → dot.sign = .dot →
    ∃ selected more, after = selected :: more ∧
      (selected.kind = .name ∨ selected.kind = .integer)

theorem dotted_nil : Dotted [] := by
  intro before dot after split
  simp at split

theorem Dotted.append {front back : List Token} (first : Dotted front) (second : Dotted back) :
    Dotted (front ++ back) := by
  intro before dot after split isDot
  rcases List.append_eq_append_iff.1 split with ⟨between, rfl, rest⟩ | ⟨between, rfl, rest⟩
  · exact second between dot after rest isDot
  · cases between with
    | nil => exact second [] dot after rest.symm isDot
    | cons token between =>
        rw [List.cons_append, List.cons.injEq] at rest
        obtain ⟨rfl, rfl⟩ := rest
        obtain ⟨selected, more, rfl, kind⟩ := first before dot between rfl isDot
        exact ⟨selected, more ++ back, rfl, kind⟩

theorem dotted_singleton {token : Token} (notDot : token.sign ≠ .dot) : Dotted [token] := by
  intro before dot after split isDot
  cases before with
  | nil =>
      cases split
      exact (notDot isDot).elim
  | cons first before => simp at split

theorem dotted_member {dot selected : Token}
    (kind : selected.kind = .name ∨ selected.kind = .integer) : Dotted [dot, selected] := by
  have notDot : selected.sign ≠ .dot := by
    intro same
    have operator : selected.kind = .operator := congrArg Sign.kind same
    rcases kind with name | integer
    · cases name.symm.trans operator
    · cases integer.symm.trans operator
  intro before found after split isDot
  match before with
  | [] =>
      cases split
      exact ⟨selected, [], rfl, kind⟩
  | [_] =>
      cases split
      exact (notDot isDot).elim
  | _ :: _ :: before => simp at split

/-- What follows stops a reader that stopped in front of something else: it ends an expression, or
it begins with the same token.  Of a `not` the token behind it matters too, which may make an
operator of two words of it. -/
def Resumes (rest following : List Sign) : Prop :=
  Ends following ∨
    ∃ sign more others, rest = sign :: more ∧ following = sign :: others ∧
      (sign = .name "not" → more.head? = others.head?)

theorem Ends.append {signs following : List Sign} (first : Ends signs) (second : Ends following) :
    Ends (signs ++ following) := by
  cases signs with
  | nil => exact second
  | cons sign rest => exact ends_cons (first sign rfl) _

theorem Resumes.append {front rest following : List Sign} (sure : front ≠ [.name "not"])
    (resumes : front = [] → Resumes rest following) :
    Resumes (front ++ rest) (front ++ following) := by
  match front with
  | [] => exact resumes rfl
  | [sign] => exact .inr ⟨sign, rest, following, rfl, rfl, fun same => (sure (same ▸ rfl)).elim⟩
  | sign :: second :: more =>
      exact .inr ⟨sign, second :: more ++ rest, second :: more ++ following, rfl, rfl, fun _ => rfl⟩

/-- What has begun with more than a `not` goes on so. -/
theorem append_ne_of_begun {front : List Sign} (some : front ≠ []) (notNot : front ≠ [.name "not"])
    (signs : List Sign) : front ++ signs ≠ [] ∧ front ++ signs ≠ [.name "not"] := by
  refine ⟨fun none => some (List.append_eq_nil_iff.1 none).1, fun same => ?_⟩
  rcases List.append_eq_singleton_iff.1 same with ⟨none, _⟩ | ⟨alone, _⟩
  · exact some none
  · exact notNot alone

/-- What stopped a reader that takes some tokens stops it again. -/
theorem Resumes.stops {signs rest following : List Sign} (resumes : Resumes rest following)
    (apart : ∀ sign ∈ closers, sign ∉ signs) (stopped : TagReader.Stops signs rest) :
    TagReader.Stops signs following := by
  rcases resumes with ends | ⟨sign, more, others, rfl, rfl, _⟩
  · exact ends.stops apart
  · exact TagReader.stops_cons (stopped sign rfl)

theorem Resumes.notIn {rest following : List Sign} (resumes : Resumes rest following)
    (stopped : ∀ more, rest ≠ .name "not" :: .name "in" :: more) (others : List Sign) :
    following ≠ .name "not" :: .name "in" :: others := by
  rintro rfl
  rcases resumes with ends | ⟨sign, more, _, rfl, same, agrees⟩
  · exact absurd (ends _ rfl) (by decide)
  · cases same
    have second : more.head? = some (.name "in") := agrees rfl
    cases more with
    | nil => cases second
    | cons sign more =>
        cases second
        exact stopped more rfl

/-! ## Outcomes -/

/-- Some tokens end in a dot. -/
def EndsInDot (tokens : List Token) : Prop :=
  ∃ earlier dot, tokens = earlier ++ [dot] ∧ dot.sign = .dot

theorem not_endsInDot_nil : ¬ EndsInDot [] := by
  rintro ⟨earlier, dot, none, _⟩
  exact List.append_ne_nil_of_right_ne_nil earlier (List.cons_ne_nil dot []) none.symm

theorem endsInDot_concat_iff {before : List Token} {token : Token} :
    EndsInDot (before ++ [token]) ↔ token.sign = .dot := by
  constructor
  · rintro ⟨earlier, dot, split, isDot⟩
    rwa [(List.append_singleton_inj.1 split).2]
  · exact fun isDot => ⟨before, token, rfl, isDot⟩

theorem endsInDot_append_iff {front before : List Token} (dotted : Dotted front) :
    EndsInDot (front ++ before) ↔ EndsInDot before := by
  constructor
  · rintro ⟨earlier, dot, split, isDot⟩
    rcases List.append_eq_append_iff.1 split with ⟨between, rfl, rest⟩ | ⟨between, rfl, rest⟩
    · exact ⟨between, dot, rest, isDot⟩
    · cases between with
      | nil => exact ⟨[], dot, rest.symm, isDot⟩
      | cons token between =>
          obtain ⟨rfl, none⟩ := List.cons.inj rest
          obtain ⟨selected, more, some, _⟩ := dotted earlier dot between rfl isDot
          rw [some] at none
          cases none
  · rintro ⟨earlier, dot, rfl, isDot⟩
    exact ⟨front ++ earlier, dot, (List.append_assoc _ _ _).symm, isDot⟩

theorem Dotted.not_endsInDot {tokens : List Token} (dotted : Dotted tokens) :
    ¬ EndsInDot tokens := by
  have alone : ¬ EndsInDot (tokens ++ []) :=
    (endsInDot_append_iff dotted).not.2 not_endsInDot_nil
  rwa [List.append_nil] at alone

/-- Where an error is: at the token in front of which a reader stopped.  Only a token that should
select an attribute is taken before it is looked at, and the error is then behind it. -/
inductive Blames (error : SyntaxError) (before rest : List Token) (start finish : Position) :
    Prop where
  | current (position : error.position = Cursor.position ⟨rest, start, finish⟩)
      (notDot : ¬ EndsInDot before)
  | late (isDot : EndsInDot before)
      (neither : ∀ token ∈ rest.head?, token.kind ≠ .name ∧ token.kind ≠ .integer)
      (same : error =
        Cursor.unmet ⟨rest.drop 1, start, finish⟩ "Expected an attribute name after '.'")

theorem Blames.behind {error : SyntaxError} {before rest front : List Token}
    {start finish : Position} (blames : Blames error before rest start finish)
    (dotted : Dotted front) : Blames error (front ++ before) rest start finish := by
  cases blames with
  | current position notDot => exact .current position (mt (endsInDot_append_iff dotted).1 notDot)
  | late isDot neither same => exact .late ((endsInDot_append_iff dotted).2 isDot) neither same

/-- What is known of the tokens that a reader takes for a value, and of those in front of a
failure and their completion. -/
structure Manner (α : Type) where
  kept : List Sign → α → Prop
  begun : List Sign → List Sign → Prop

namespace Manner

variable {α : Type}

/-- Nothing is known. -/
def any : Manner α := ⟨fun _ _ => True, fun _ _ => True⟩

/-- A reader that takes at least one token, and what can be read where it fails at once. -/
def phrase (opens : List Sign → Prop) : Manner α :=
  ⟨fun signs _ => signs ≠ [], fun before more => before = [] → opens more⟩

/-- A reader behind an expression.  It never takes a `not` alone. -/
def tail : Manner α :=
  ⟨fun signs _ => signs ≠ [.name "not"],
    fun before more => before ≠ [.name "not"] ∧ (before = [] → Ends more)⟩

/-- A step that extends an expression: nothing is taken unless it succeeds. -/
def step : Manner (Option α) :=
  ⟨fun signs extended => (extended = none → signs = []) ∧
      (extended ≠ none → signs ≠ [] ∧ signs ≠ [.name "not"]),
    fun before _ => before ≠ [] ∧ before ≠ [.name "not"]⟩

/-- A reader of an option that never gives none. -/
def found : Manner (Option α) :=
  ⟨fun _ extended => extended ≠ none, fun _ _ => True⟩

/-- A reader that can stand behind another one, because it never takes a `not` alone. -/
structure Trails (manner : Manner α) : Prop where
  kept : ∀ signs value, manner.kept signs value → signs ≠ [.name "not"]
  begun : ∀ signs more, manner.begun signs more → signs ≠ [.name "not"] ∧ (signs = [] → Ends more)

theorem tail_trails : (tail : Manner α).Trails :=
  ⟨fun _ _ kept => kept, fun _ _ begun => begun⟩

theorem step_trails : (step : Manner (Option α)).Trails where
  kept signs extended kept same := by
    subst same
    cases extended with
    | none => cases kept.1 rfl
    | some value => exact (kept.2 (fun none => nomatch none)).2 rfl
  begun _ _ begun := ⟨begun.2, fun none => (begun.1 none).elim⟩

/-- What is known behind a token is known with it. -/
structure Proceeds (manner inside : Manner α) (sign : Sign) : Prop where
  notDot : sign ≠ .dot
  kept : ∀ signs value, inside.kept signs value → manner.kept (sign :: signs) value
  begun : ∀ signs more, manner.begun (sign :: signs) more

theorem any_proceeds {sign : Sign} (notDot : sign ≠ .dot) : (any : Manner α).Proceeds any sign :=
  ⟨notDot, fun _ _ _ => True.intro, fun _ _ => True.intro⟩

theorem phrase_proceeds {opens : List Sign → Prop} {sign : Sign} (notDot : sign ≠ .dot) :
    (phrase opens : Manner α).Proceeds any sign :=
  ⟨notDot, fun _ _ _ => List.cons_ne_nil _ _, fun _ _ none => (List.cons_ne_nil _ _ none).elim⟩

theorem tail_proceeds {sign : Sign} (notDot : sign ≠ .dot) (notNot : sign ≠ .name "not") :
    (tail : Manner α).Proceeds any sign :=
  ⟨notDot, fun _ _ _ same => notNot (List.cons.inj same).1,
    fun _ _ => ⟨fun same => notNot (List.cons.inj same).1,
      fun none => (List.cons_ne_nil _ _ none).elim⟩⟩

theorem found_proceeds {sign : Sign} (notDot : sign ≠ .dot) :
    (found : Manner (Option α)).Proceeds found sign :=
  ⟨notDot, fun _ _ some => some, fun _ _ => True.intro⟩

theorem step_proceeds {sign : Sign} (notDot : sign ≠ .dot) (notNot : sign ≠ .name "not") :
    (step : Manner (Option α)).Proceeds found sign :=
  ⟨notDot, fun _ _ some => ⟨fun none => (some none).elim,
      fun _ => ⟨List.cons_ne_nil _ _, fun same => notNot (List.cons.inj same).1⟩⟩,
    fun _ _ => ⟨List.cons_ne_nil _ _, fun same => notNot (List.cons.inj same).1⟩⟩

end Manner

/-- What begins with a name. -/
def OpensName (more : List Sign) : Prop :=
  ∃ others, more = .name "x" :: others

/-- A name, with what ends an expression behind it. -/
def OpensNamed (more : List Sign) : Prop :=
  ∃ others, more = .name "x" :: others ∧ Ends others

/-- What a reader reads: from which tokens, and in front of which others, it gives which value. -/
abbrev Reading (α : Type) := List Sign → List Sign → α → Prop

/-- The outcome of a reader, with what can be read of the tokens that it has taken. -/
inductive Explained {α : Type} (manner : Manner α) (reads : Reading α) (tokens : List Token)
    (start finish : Position) : Except SyntaxError α × Cursor → Prop where
  | took {taken rest : List Token} {value : α} (split : tokens = taken ++ rest)
      (dotted : Dotted taken) (kept : manner.kept (taken.map Token.sign) value)
      (again : ∀ following, Resumes (rest.map Token.sign) following →
        reads (taken.map Token.sign) following value) :
      Explained manner reads tokens start finish (.ok value, ⟨rest, start, finish⟩)
  | failed {before rest : List Token} {more : List Sign} {error : SyntaxError} {after : Cursor}
      (split : tokens = before ++ rest) (blames : Blames error before rest start finish)
      (begun : manner.begun (before.map Token.sign) more)
      (unnamed : TagReader.Stops [.operator "="] more)
      (completes : ∀ following, Ends following →
        ∃ value, reads (before.map Token.sign ++ more) following value) :
      Explained manner reads tokens start finish (.error error, after)

/-- The outcomes of a reader of fewer tokens than a count are explained. -/
def TagReader.Explains {α : Type} (room : Nat) (manner : Manner α) (reads : Reading α)
    (reader : TagReader α) : Prop :=
  ∀ tokens start finish, tokens.length < room →
    Explained manner reads tokens start finish (reader.run.run ⟨tokens, start, finish⟩)

/-! ## Rules -/

section Rules

open TagReader

variable {α β : Type} {manner : Manner α} {reads : Reading α} {tokens rest : List Token}
  {start finish : Position} {outcome : Except SyntaxError α × Cursor}

/-- What is known behind some tokens is known with them. -/
theorem Explained.behind {known : Manner α} {further : Reading α}
    (explained : Explained manner reads rest start finish outcome) (front : List Token)
    (dotted : Dotted front)
    (kept : ∀ signs value, manner.kept signs value →
      known.kept (front.map Token.sign ++ signs) value)
    (begun : ∀ signs more, manner.begun signs more →
      known.begun (front.map Token.sign ++ signs) more)
    (grows : ∀ {signs following value}, reads signs following value →
      further (front.map Token.sign ++ signs) following value) :
    Explained known further (front ++ rest) start finish outcome := by
  cases explained with
  | took split dottedTaken keptTaken again =>
      subst split
      refine .took (List.append_assoc _ _ _).symm (dotted.append dottedTaken) ?_ ?_
      · rw [List.map_append]
        exact kept _ _ keptTaken
      · intro following resumes
        rw [List.map_append]
        exact grows (again following resumes)
  | failed split blames begunBefore unnamed completes =>
      subst split
      refine .failed (List.append_assoc _ _ _).symm (blames.behind dotted) ?_ unnamed ?_
      · rw [List.map_append]
        exact begun _ _ begunBefore
      · intro following ends
        obtain ⟨value, reading⟩ := completes following ends
        refine ⟨value, ?_⟩
        rw [List.map_append, List.append_assoc]
        exact grows reading

/-- What is known of a value is known of what is made of it. -/
theorem Explained.map {reader : TagReader α} {change : α → β} {known : Manner β}
    {further : Reading β}
    (explained : Explained manner reads tokens start finish
      (reader.run.run ⟨tokens, start, finish⟩))
    (kept : ∀ signs value, manner.kept signs value → known.kept signs (change value))
    (begun : ∀ signs more, manner.begun signs more → known.begun signs more)
    (changes : ∀ {signs following value}, reads signs following value →
      further signs following (change value)) :
    Explained known further tokens start finish
      ((reader >>= fun value => pure (change value)).run.run ⟨tokens, start, finish⟩) := by
  rw [run_bind]
  generalize reader.run.run ⟨tokens, start, finish⟩ = outcome at explained ⊢
  cases explained with
  | took split dotted keptTaken again =>
      exact .took split dotted (kept _ _ keptTaken) fun following resumes =>
        changes (again following resumes)
  | failed split blames begunBefore unnamed completes =>
      refine .failed split blames (begun _ _ begunBefore) unnamed fun following ends => ?_
      obtain ⟨value, reading⟩ := completes following ends
      exact ⟨_, changes reading⟩

/-- What is known behind one token is known with it. -/
theorem Explained.cons {inside : Manner α} {token : Token} {sign : Sign}
    (explained : Explained inside (fun signs => reads (sign :: signs)) rest start finish outcome)
    (same : token.sign = sign) (proceeds : manner.Proceeds inside sign) :
    Explained manner reads (token :: rest) start finish outcome := by
  subst same
  exact explained.behind [token] (dotted_singleton proceeds.notDot) proceeds.kept
    (fun signs more _ => proceeds.begun signs more) id

theorem Explained.imp {further : Reading α}
    (explained : Explained manner reads tokens start finish outcome)
    (implies : ∀ {signs following value}, reads signs following value →
      further signs following value) :
    Explained manner further tokens start finish outcome :=
  explained.behind [] dotted_nil (fun _ _ kept => kept) (fun _ _ begun => begun) implies

theorem Explained.weaken {further : Reading α}
    (explained : Explained manner reads tokens start finish outcome)
    (implies : ∀ {signs following value}, reads signs following value →
      further signs following value) :
    Explained .any further tokens start finish outcome :=
  explained.behind [] dotted_nil (fun _ _ _ => True.intro) (fun _ _ _ => True.intro) implies

/-- A phrase that does not begin with some tokens, wherever it is read. -/
theorem Explained.apart {opens : List Sign → Prop} {signs : List Sign} {further : Reading α}
    (explained : Explained (.phrase opens) reads tokens start finish outcome)
    (stops : Stops signs (tokens.map Token.sign)) (opening : ∀ more, opens more → OpensName more)
    (different : .name "x" ∉ signs)
    (lifts : ∀ {front following value}, Stops signs (front ++ following) →
      reads front following value → further front following value) :
    Explained (.phrase opens) further tokens start finish outcome := by
  have begins {front back : List Token} (some : front.map Token.sign ≠ []) (more : List Sign)
      (stops : Stops signs ((front ++ back).map Token.sign)) :
      Stops signs (front.map Token.sign ++ more) := by
    cases front with
    | nil => exact (some rfl).elim
    | cons token front => exact stops_cons (stops token.sign rfl)
  cases explained with
  | took split dotted kept again =>
      subst split
      exact .took rfl dotted kept fun following resumes =>
        lifts (begins kept following stops) (again following resumes)
  | @failed before _ more _ _ split blames begun unnamed completes =>
      subst split
      refine .failed rfl blames begun unnamed fun following ends => ?_
      obtain ⟨value, reading⟩ := completes following ends
      refine ⟨value, lifts ?_ reading⟩
      rw [List.append_assoc]
      by_cases none : before.map Token.sign = []
      · obtain ⟨others, rfl⟩ := opening more (begun none)
        rw [none]
        exact stops_cons different
      · exact begins none _ stops

/-- What has been taken, and what is read behind it. -/
theorem Explained.after {taken : List Token} {value : α} {inside known : Manner β}
    {further whole : Reading β} {result : Except SyntaxError β × Cursor}
    (explained : Explained inside further rest start finish result) (dotted : Dotted taken)
    (again : ∀ following, Resumes (rest.map Token.sign) following →
      reads (taken.map Token.sign) following value)
    (trails : inside.Trails)
    (kept : ∀ signs value, inside.kept signs value →
      known.kept (taken.map Token.sign ++ signs) value)
    (begun : ∀ signs more, inside.begun signs more →
      known.begun (taken.map Token.sign ++ signs) more)
    (composes : ∀ {back following result},
      reads (taken.map Token.sign) (back ++ following) value → further back following result →
        whole (taken.map Token.sign ++ back) following result) :
    Explained known whole (taken ++ rest) start finish result := by
  cases explained with
  | took split dottedBack keptBack againBack =>
      subst split
      refine .took (List.append_assoc _ _ _).symm (dotted.append dottedBack) ?_ ?_
      · rw [List.map_append]
        exact kept _ _ keptBack
      · intro following resumes
        rw [List.map_append]
        refine composes (again _ ?_) (againBack following resumes)
        rw [List.map_append]
        exact Resumes.append (trails.kept _ _ keptBack) fun _ => resumes
  | failed split blames begunBack unnamed completes =>
      subst split
      obtain ⟨notNot, closes⟩ := trails.begun _ _ begunBack
      refine .failed (List.append_assoc _ _ _).symm (blames.behind dotted) ?_ unnamed ?_
      · rw [List.map_append]
        exact begun _ _ begunBack
      · intro following ends
        obtain ⟨result, reading⟩ := completes following ends
        refine ⟨result, ?_⟩
        rw [List.map_append, List.append_assoc]
        refine composes (again _ ?_) reading
        rw [List.map_append, List.append_assoc]
        exact Resumes.append notNot fun none => .inl ((closes none).append ends)

/-- An expression, and what is read behind it. -/
theorem Explained.bind {reader : TagReader α} {continuation : α → TagReader β}
    {opens : List Sign → Prop} {closing : List Sign} {further : α → Reading β} {whole : Reading β}
    (first : Explained (.phrase opens) reads tokens start finish
      (reader.run.run ⟨tokens, start, finish⟩))
    (second : ∀ value, Explains tokens.length .tail (further value) (continuation value))
    (closes : Ends closing)
    (fills : ∀ value following, Ends following → ∃ result, further value closing following result)
    (grows : ∀ {more}, opens more → opens (more ++ closing))
    (composes : ∀ {front back following value result}, reads front (back ++ following) value →
      further value back following result → whole (front ++ back) following result) :
    Explained (.phrase opens) whole tokens start finish
      ((reader >>= continuation).run.run ⟨tokens, start, finish⟩) := by
  rw [run_bind]
  generalize reader.run.run ⟨tokens, start, finish⟩ = outcome at first ⊢
  cases first with
  | @failed before _ more _ _ split blames begun unnamed completes =>
      refine .failed split blames (fun none => grows (begun none)) ?_ fun following ends => ?_
      · cases more with
        | nil => exact closes.stops (by decide)
        | cons sign more => exact unnamed
      · obtain ⟨value, reading⟩ := completes (closing ++ following) (closes.append ends)
        obtain ⟨result, filled⟩ := fills value following ends
        refine ⟨result, ?_⟩
        rw [← List.append_assoc]
        exact composes reading filled
  | @took taken rest value split dotted kept again =>
      subst split
      have shorter : rest.length < (taken ++ rest).length := by
        have count := List.length_pos_iff.2 (mt List.map_eq_nil_iff.2 kept)
        rw [List.length_append]
        omega
      have some (signs : List Sign) : taken.map Token.sign ++ signs ≠ [] :=
        fun none => kept (List.append_eq_nil_iff.1 none).1
      exact (second value rest start finish shorter).after dotted again Manner.tail_trails
        (fun signs _ _ => some signs) (fun signs _ _ none => (some signs none).elim) composes

end Rules

/-! ## Single tokens -/

namespace TagReader

/-- A reader takes the current token if it is one of some. -/
def Picks (picker : TagReader (Option Token)) (signs : List Sign) : Prop :=
  ∀ tokens start finish,
    (∃ token rest, tokens = token :: rest ∧ token.sign ∈ signs ∧
      picker.run.run ⟨tokens, start, finish⟩ = (.ok (some token), ⟨rest, start, finish⟩)) ∨
    (Stops signs (tokens.map Token.sign) ∧
      picker.run.run ⟨tokens, start, finish⟩ = (.ok none, ⟨tokens, start, finish⟩))

theorem picks_takeIf? {condition : Token → Bool} {signs : List Sign}
    (holds : ∀ token, condition token = true ↔ token.sign ∈ signs) :
    Picks (takeIf? condition) signs := by
  intro tokens start finish
  rw [run_takeIf?]
  cases tokens with
  | nil => exact .inr ⟨fun sign head => (nomatch head), rfl⟩
  | cons token rest =>
      by_cases taken : condition token = true
      · refine .inl ⟨token, rest, rfl, (holds token).1 taken, ?_⟩
        simp only [Cursor.current?, List.head?_cons, taken]
        rfl
      · refine .inr ⟨stops_cons (mt (holds token).2 taken), ?_⟩
        simp only [Cursor.current?, List.head?_cons, taken]
        rfl

theorem Picks.takes {picker : TagReader (Option Token)} {sign : Sign} {following : List Sign}
    (picks : Picks picker [sign]) :
    Takes picker [sign] following fun taken => ∃ token, taken = some token := by
  rintro ⟨remaining, start, finish⟩ tokens rest rfl spelled followed
  obtain ⟨token, rfl, same⟩ := List.map_eq_singleton_iff.1 spelled
  rcases picks ([token] ++ rest) start finish with ⟨_, _, split, member, ran⟩ | ⟨stops, ran⟩
  · cases split
    exact ⟨some token, ⟨token, rfl⟩, ran⟩
  · exact (stops sign (by rw [← same]; rfl) (List.mem_singleton_self sign)).elim

theorem Picks.takes_none {picker : TagReader (Option Token)} {signs following : List Sign}
    (picks : Picks picker signs) (stops : Stops signs following) :
    Takes picker [] following (· = none) := by
  rintro ⟨remaining, start, finish⟩ tokens rest rfl spelled followed
  cases List.map_eq_nil_iff.1 spelled
  rcases picks rest start finish with ⟨token, more, rfl, member, ran⟩ | ⟨_, ran⟩
  · exact (stops token.sign (by rw [← followed]; rfl) member).elim
  · exact ⟨none, rfl, ran⟩

theorem picks_name? (names : List String) : Picks (name? names) (names.map .name) := by
  apply picks_takeIf?
  rintro ⟨kind, text, position, trim⟩
  simp only [Bool.and_eq_true, beq_iff_eq, List.contains_iff_mem, List.mem_map, Token.sign,
    Sign.name, Sign.mk.injEq]
  constructor
  · rintro ⟨rfl, member⟩
    exact ⟨text, member, rfl, rfl⟩
  · rintro ⟨_, member, rfl, rfl⟩
    exact ⟨rfl, member⟩

theorem picks_operator? (operators : List String) :
    Picks (operator? operators) (operators.map .operator) := by
  apply picks_takeIf?
  rintro ⟨kind, text, position, trim⟩
  simp only [Bool.and_eq_true, beq_iff_eq, List.contains_iff_mem, List.mem_map, Token.sign,
    Sign.operator, Sign.mk.injEq]
  constructor
  · rintro ⟨rfl, member⟩
    exact ⟨text, member, rfl, rfl⟩
  · rintro ⟨_, member, rfl, rfl⟩
    exact ⟨rfl, member⟩

end TagReader

section Tokens

open TagReader

variable {α β : Type} {manner : Manner α} {reads : Reading α} {tokens : List Token}
  {start finish : Position} {text what : String} {closing : List Sign}
  {continuation : Token → TagReader α}

/-- A reader that takes nothing. -/
theorem explained_pure {value : α} (kept : manner.kept [] value)
    (again : ∀ following, Resumes (tokens.map Token.sign) following → reads [] following value) :
    Explained manner reads tokens start finish
      ((pure value : TagReader α).run.run ⟨tokens, start, finish⟩) :=
  .took (List.nil_append _).symm dotted_nil kept again

/-- A reader that fails at the current token, where something else is read. -/
theorem explained_error {error : SyntaxError} {after : Cursor} (more : List Sign)
    (position : error.position = Cursor.position ⟨tokens, start, finish⟩)
    (begun : manner.begun [] more) (unnamed : Stops [.operator "="] more)
    (fills : ∀ following, Ends following → ∃ value, reads more following value) :
    Explained manner reads tokens start finish (.error error, after) :=
  .failed (List.nil_append _).symm (.current position not_endsInDot_nil) begun unnamed fills

/-- A required operator, and what is read behind it.  In its place something else may end what is
read. -/
theorem explained_operator (notDot : text ≠ ".")
    (inside : ∀ token rest, tokens = token :: rest →
      Explained .any (fun signs => reads (.operator text :: signs)) rest start finish
        ((continuation token).run.run ⟨rest, start, finish⟩))
    (closes : Ends closing)
    (fills : ∀ following, Ends following → ∃ value, reads closing following value) :
    Explained .tail reads tokens start finish
      ((operator text >>= continuation).run.run ⟨tokens, start, finish⟩) := by
  rw [run_bind, operator, run_bind]
  rcases picks_operator? [text] tokens start finish with
    ⟨token, rest, rfl, member, ran⟩ | ⟨stops, ran⟩
  · rw [ran]
    apply (inside token rest rfl).cons (List.mem_singleton.1 member)
    exact Manner.tail_proceeds (mt (congrArg Sign.text) notDot) (Sign.name_ne_operator _ _).symm
  · rw [ran]
    exact explained_error closing rfl ⟨fun none => (nomatch none), fun _ => closes⟩
      (closes.stops (by decide)) fills

/-- A required name, and what is read behind it. -/
theorem explained_name {inside : Manner α} (proceeds : ∀ text, manner.Proceeds inside (.name text))
    (begun : manner.begun [] [.name "x"])
    (behind : ∀ token rest, tokens = token :: rest → token.kind = .name →
      Explained inside (fun signs => reads (.name token.text :: signs)) rest start finish
        ((continuation token).run.run ⟨rest, start, finish⟩))
    (fills : ∀ following, Ends following → ∃ value, reads [.name "x"] following value) :
    Explained manner reads tokens start finish
      ((TagReader.name what >>= continuation).run.run ⟨tokens, start, finish⟩) := by
  rw [run_bind, TagReader.name, run_bind, kind?, run_takeIf?]
  cases tokens with
  | nil => exact explained_error [.name "x"] rfl begun (stops_cons (by decide)) fills
  | cons token rest =>
      simp only [Cursor.current?, List.head?_cons]
      by_cases isName : token.kind = .name
      · rw [if_pos (beq_iff_eq.2 isName)]
        have same : token.sign = .name token.text := congrArg (Sign.mk · token.text) isName
        exact (behind token rest rfl isName).cons same (proceeds token.text)
      · rw [if_neg (mt beq_iff_eq.1 isName)]
        exact explained_error [.name "x"] rfl begun (stops_cons (by decide)) fills

/-- An operator that may be there, and what is read behind it or in its place. -/
theorem explained_acceptsOperator {accepted other : TagReader α}
    (proceeds : manner.Proceeds .any (.operator text))
    (inside : ∀ token rest, tokens = token :: rest →
      Explained .any (fun signs => reads (.operator text :: signs)) rest start finish
        (accepted.run.run ⟨rest, start, finish⟩))
    (otherwise : Stops [.operator text] (tokens.map Token.sign) →
      Explained manner reads tokens start finish (other.run.run ⟨tokens, start, finish⟩)) :
    Explained manner reads tokens start finish
      ((acceptsOperator text >>= fun there => if there then accepted else other).run.run
        ⟨tokens, start, finish⟩) := by
  rw [run_bind, acceptsOperator, map_eq_pure_bind, run_bind]
  rcases picks_operator? [text] tokens start finish with
    ⟨token, rest, rfl, member, ran⟩ | ⟨stops, ran⟩
  · rw [ran]
    exact (inside token rest rfl).cons (List.mem_singleton.1 member) proceeds
  · rw [ran]
    exact otherwise stops

end Tokens

end TemplateEngine
