import TemplateEngine.Proofs.Completing.Levels

/-!
# Where syntax errors are

When the tokens of a tag are no expression, those in front of some token, or all of them, can be
completed to one.  That token is where the error is, with one exception: behind a dot any token is
taken before it is looked at, so that the error is one token too far if it selects no attribute.
The tokens in front of the error then have no completion.
-/

namespace TemplateEngine

open TagReader

/-- Some tokens begin the tokens of a whole expression. -/
def Completable (before : List Token) : Prop :=
  ∃ more start finish value after,
    wholeExpression.run.run ⟨before ++ more, start, finish⟩ = (.ok value, after)

theorem completable_of_reads {before : List Token} {more : List Sign} {value : Expression}
    (reading : readsEnclosed (before.map Token.sign ++ more) [] value) : Completable before := by
  let others := more.map fun sign => Token.plain sign.kind sign.text default
  have spelled : (before ++ others).map Token.sign = before.map Token.sign ++ more := by
    rw [List.map_append, List.map_map]
    exact congrArg _ (List.map_id more)
  obtain ⟨read, _, ran⟩ := takes_wholeExpression_of_within reading
    ⟨before ++ others, default, default⟩ (before ++ others) [] (List.append_nil _).symm spelled rfl
  exact ⟨others, default, default, read, _, ran⟩

/-- The outcome of reading a whole expression, as far as the reader of expressions goes. -/
theorem explained_expression (tokens : List Token) (start finish : Position) :
    Explained (.phrase OpensNamed) readsEnclosed tokens start finish
      (TagReader.expression.run.run ⟨tokens, start, finish⟩) := by
  rw [TagReader.expression, run_bind]
  exact explains_expressionWithin (tokens.length + 1) tokens start finish (Nat.lt_succ_self _)

/-- The tokens of a whole expression are read as one like it wherever they stand. -/
theorem reads_of_wholeExpression {tokens : List Token} {start finish : Position}
    {value : Expression} {after : Cursor}
    (ran : wholeExpression.run.run ⟨tokens, start, finish⟩ = (.ok value, after)) :
    Dotted tokens ∧ tokens.map Token.sign ≠ [] ∧
      readsEnclosed (tokens.map Token.sign) [] value := by
  have explained := explained_expression tokens start finish
  rw [wholeExpression, run_bind] at ran
  generalize TagReader.expression.run.run ⟨tokens, start, finish⟩ = outcome at explained ran
  cases explained with
  | @took taken rest read split dotted kept again =>
      cases rest with
      | nil =>
          rw [List.append_nil] at split
          subst split
          cases ran
          exact ⟨dotted, kept, again [] (.inl ends_nil)⟩
      | cons token rest => cases ran
  | failed => cases ran

/-- What begins a whole expression has an attribute behind every dot but the last token. -/
theorem Completable.dotted {before : List Token} {dot token : Token}
    (completable : Completable (before ++ [dot, token])) (isDot : dot.sign = .dot) :
    token.kind = .name ∨ token.kind = .integer := by
  obtain ⟨more, start, finish, value, after, ran⟩ := completable
  obtain ⟨selected, others, behind, kind⟩ :=
    (reads_of_wholeExpression ran).1 before dot (token :: more) (by simp) isDot
  obtain rfl := (List.cons.inj behind).1
  exact kind

/-- A syntax error is at the first token behind which nothing can be read, or one further if that
token stands behind a dot. -/
theorem errors_follow_completable {tokens : List Token} {start finish : Position}
    {error : SyntaxError} {after : Cursor}
    (failed : wholeExpression.run.run ⟨tokens, start, finish⟩ = (.error error, after)) :
    ∃ before rest, tokens = before ++ rest ∧ Completable before ∧
      (¬ EndsInDot before → error.position = Cursor.position ⟨rest, start, finish⟩) ∧
      (EndsInDot before →
        error = Cursor.unmet ⟨rest.drop 1, start, finish⟩ "Expected an attribute name after '.'" ∧
          ∀ token ∈ rest.head?, ¬ Completable (before ++ [token])) := by
  have explained := explained_expression tokens start finish
  rw [wholeExpression, run_bind] at failed
  generalize TagReader.expression.run.run ⟨tokens, start, finish⟩ = outcome at explained failed
  cases explained with
  | @took taken rest value split dotted kept again =>
      cases rest with
      | nil => cases failed
      | cons token rest =>
          cases failed
          have reading := again [] (.inl ends_nil)
          rw [← List.append_nil (taken.map Token.sign)] at reading
          exact ⟨taken, token :: rest, split, completable_of_reads reading, fun _ => rfl,
            fun endsInDot => (dotted.not_endsInDot endsInDot).elim⟩
  | @failed before rest more _ _ split blames begun unnamed completes =>
      cases failed
      obtain ⟨value, reading⟩ := completes [] ends_nil
      refine ⟨before, rest, split, completable_of_reads reading, ?_⟩
      cases blames with
      | current position notDot => exact ⟨fun _ => position, fun isDot => (notDot isDot).elim⟩
      | late endsInDot neither same =>
          refine ⟨fun notDot => (notDot endsInDot).elim, fun _ => ⟨same, fun token head => ?_⟩⟩
          obtain ⟨earlier, dot, rfl, isDot⟩ := endsInDot
          rw [List.append_assoc]
          intro completable
          rcases completable.dotted isDot with name | integer
          · exact (neither token head).1 name
          · exact (neither token head).2 integer

/-- `a.+ b` is wrong at the operator, but the error is at `b`: only `a.` can be completed. -/
theorem errors_follow_completable_plus :
    let a := Token.plain .name "a" ⟨1, 4⟩
    let dot := Token.plain .operator "." ⟨1, 5⟩
    let plus := Token.plain .operator "+" ⟨1, 6⟩
    let b := Token.plain .name "b" ⟨1, 8⟩
    ∃ error after,
      wholeExpression.run.run ⟨[a, dot, plus, b], ⟨1, 1⟩, ⟨1, 10⟩⟩ = (.error error, after) ∧
        error.position = b.position ∧ Completable [a, dot] ∧ ¬ Completable [a, dot, plus] := by
  intro a dot plus b
  have failed : wholeExpression.run.run ⟨[a, dot, plus, b], ⟨1, 1⟩, ⟨1, 10⟩⟩ =
      (.error ⟨.unmet "Expected an attribute name after '.'" (some "b"), b.position⟩,
        ⟨[b], ⟨1, 1⟩, ⟨1, 10⟩⟩) := by
    rfl
  have beyond : ¬ Completable ([a] ++ [dot, plus]) := fun completable =>
    absurd (completable.dotted rfl) (by decide)
  have inName : ¬ EndsInDot ([] ++ [a]) := endsInDot_concat_iff.not.2 (by decide)
  have inOther : ¬ EndsInDot ([a, dot, plus] ++ [b]) := endsInDot_concat_iff.not.2 (by decide)
  refine ⟨_, _, failed, rfl, ?_, beyond⟩
  obtain ⟨before, rest, split, completable, ahead, behind⟩ := errors_follow_completable failed
  simp only [List.cons_eq_append_iff, List.nil_eq_append_iff] at split
  -- The error is neither at `a`, nor at the dot, nor at the end of the tag.
  rcases split with ⟨rfl, rfl⟩ | ⟨_, rfl, ⟨rfl, rfl⟩ | ⟨_, rfl, ⟨rfl, rfl⟩ | ⟨_, rfl,
    ⟨rfl, rfl⟩ | ⟨_, rfl, rfl, rfl⟩⟩⟩⟩
  · exact absurd (ahead not_endsInDot_nil) (by decide)
  · exact absurd (ahead inName) (by decide)
  · exact completable
  · exact absurd completable beyond
  · exact absurd (ahead inOther) (by decide)

end TemplateEngine
