import TemplateEngine.Proofs.Completing.Outcomes

/-!
# Completing what brackets enclose

What is read of a list, a dictionary or the arguments of a call can be read again, or completed.
The expressions inside are read by a reader of which that is taken to be known, as long as there
are fewer tokens than some count; and what they are read as is said of all readers that allow for
enough tokens.  A name completes an expression that has not begun, and a bracket what is inside
it.
-/

namespace TemplateEngine

open Expression TagReader
open Sign (comma)

/-! ## Readings -/

/-- What is read like a value by all readers of a family that allow for more tokens. -/
def readsWithin {α γ : Type} (readers : Nat → TagReader α) (image : α → γ) : Reading α :=
  fun signs following value => ∀ bound, signs.length < bound →
    Takes (readers bound) signs following fun read => image read = image value

/-- What is read as an expression inside brackets. -/
abbrev readsEnclosed : Reading Expression :=
  readsWithin expressionWithin unplaced

/-- A single name is an expression. -/
theorem readsEnclosed_name {following : List Sign} (ends : Ends following) :
    readsEnclosed [.name "x"] following (.name "x" default) :=
  fun bound some =>
    (reads_expressionWithin bound).whole (.name "x" default) (by decide) some following ends

theorem OpensNamed.name {more : List Sign} (opens : OpensNamed more) : OpensName more := by
  obtain ⟨others, rfl, _⟩ := opens
  exact ⟨others, rfl⟩

theorem OpensNamed.append {more closing : List Sign} (opens : OpensNamed more)
    (closes : Ends closing) : OpensNamed (more ++ closing) := by
  obtain ⟨others, rfl, ends⟩ := opens
  exact ⟨others ++ closing, rfl, ends.append closes⟩

theorem OpensName.append {more : List Sign} (opens : OpensName more) (closing : List Sign) :
    OpensName (more ++ closing) := by
  obtain ⟨others, rfl⟩ := opens
  exact ⟨others ++ closing, rfl⟩

theorem TagReader.Explains.mono {α : Type} {room fewer : Nat} {manner : Manner α}
    {reads : Reading α} {reader : TagReader α} (explains : Explains room manner reads reader)
    (less : fewer ≤ room) : Explains fewer manner reads reader :=
  fun tokens start finish short => explains tokens start finish (Nat.lt_of_lt_of_le short less)

variable {room : Nat} {inner : TagReader Expression}

/-! ## Items -/

section Items

variable {α γ : Type} {items : Nat → TagReader α} {image : α → γ} {closer : String}
  {item : TagReader α}

/-- What is read behind some items, up to what closes them. -/
def readsMoreItems (items : Nat → TagReader α) (image : α → γ) (closer : String)
    (gathered : List α) : Reading (List α) :=
  fun signs following result => ∀ left bound already, signs.length ≤ left →
    signs.length < bound → already.map image = gathered.map image →
      Takes (itemsFrom (items bound) closer left already) signs following fun read =>
        read.map image = result.map image

theorem readsMoreItems_close (gathered : List α) (following : List Sign) :
    readsMoreItems items image closer gathered [.operator closer] following gathered := by
  intro left bound already some _ same
  cases left with
  | zero => cases some
  | succ left =>
      rw [itemsFrom]
      apply (takes_acceptsOperator closer).finish
      rintro _ rfl
      exact takes_pure same

/-- Behind some items come a comma and another one. -/
theorem readsMoreItems_comma {gathered result : List α} {value : α}
    {front back following : List Sign} (notComma : closer ≠ ",") (some : gathered ≠ [])
    (next : readsWithin items image front (back ++ following) value)
    (more : readsMoreItems items image closer (gathered ++ [value]) back following result) :
    readsMoreItems items image closer gathered (comma :: (front ++ back)) following result := by
  intro left bound already enough short same
  rw [List.length_cons, List.length_append] at enough short
  cases left with
  | zero => cases enough
  | succ left =>
      have apart : Stops [.operator closer] (comma :: (front ++ back) ++ following) := by
        apply stops_cons
        intro member
        exact notComma.symm (congrArg Sign.text (List.mem_singleton.1 member))
      have begun : already.isEmpty = false := by
        cases already with
        | nil => exact (some (List.map_eq_nil_iff.1 same.symm)).elim
        | cons first rest => rfl
      rw [itemsFrom]
      apply (takes_acceptsOperator_none apart).skip
      rintro _ rfl
      simp only [begun]
      apply (takes_operator ",").bind
      intro _ _
      apply (next bound (by omega)).bind
      intro read like
      apply more left bound _ (by omega) (by omega)
      rw [List.map_append, List.map_append, same, List.map_singleton, List.map_singleton, like]

/-- Behind some items, more of them are read or what closes them is missing. -/
theorem explains_moreItems (closes : .operator closer ∈ closers) (notComma : closer ≠ ",")
    (explains : Explains room (.phrase OpensNamed) (readsWithin items image) item) (left : Nat)
    (gathered : List α) (some : gathered ≠ []) :
    Explains room .tail (readsMoreItems items image closer gathered)
      (itemsFrom item closer left gathered) := by
  have closed : Ends [.operator closer] := ends_cons closes []
  have filled (gathered : List α) (following : List Sign) (_ : Ends following) :
      ∃ result, readsMoreItems items image closer gathered [.operator closer] following result :=
    ⟨gathered, readsMoreItems_close gathered following⟩
  induction left generalizing gathered with
  | zero =>
      intro tokens start finish _
      exact explained_error [.operator closer] rfl ⟨(List.cons_ne_nil _ _).symm, fun _ => closed⟩
        (closed.stops (by decide)) (filled gathered)
  | succ left inductionHypothesis =>
      intro tokens start finish short
      have begun : gathered.isEmpty = false := List.isEmpty_eq_false_iff.2 some
      rw [itemsFrom]
      simp only [begun]
      apply explained_acceptsOperator
      · apply Manner.tail_proceeds
        · rintro same
          rw [same] at closes
          exact absurd closes (by decide)
        · exact (Sign.name_ne_operator _ _).symm
      · rintro token rest rfl
        exact explained_pure True.intro fun following _ => readsMoreItems_close gathered following
      · intro stops
        refine explained_operator (by decide) ?_ closed (filled gathered)
        rintro token rest rfl
        rw [List.length_cons] at short
        refine ((explains rest start finish (Nat.lt_of_succ_lt short)).bind (fun value =>
          (inductionHypothesis (gathered ++ [value]) (by simp)).mono (by omega)) closed ?_ ?_
            ?_).weaken id
        · exact fun value => filled (gathered ++ [value])
        · exact fun opens => opens.append closed
        · exact fun next more => readsMoreItems_comma notComma some next more

/-- What is read up to what closes it, behind a bracket. -/
abbrev readsItems (items : Nat → TagReader α) (image : α → γ) (closer : String) :
    Reading (List α) :=
  readsWithin (fun bound => itemsFrom (items bound) closer bound []) (List.map image)

theorem readsItems_close (following : List Sign) :
    readsItems items image closer [.operator closer] following [] := by
  intro bound some
  cases bound with
  | zero => cases some
  | succ bound =>
      change Takes (itemsFrom _ _ (bound + 1) []) _ _ _
      rw [itemsFrom]
      apply (takes_acceptsOperator closer).finish
      rintro _ rfl
      exact takes_pure rfl

/-- What is read as the first item and what is behind it, where the items are not closed at
once. -/
def readsFirstItems (items : Nat → TagReader α) (image : α → γ) (closer : String) :
    Reading (List α) :=
  fun signs following result => ∀ bound, signs.length ≤ bound →
    Takes (items (bound + 1) >>= fun next =>
        itemsFrom (items (bound + 1)) closer bound ([] ++ [next]))
      signs following fun read => read.map image = result.map image

theorem readsItems_first {signs following : List Sign} {result : List α}
    (stops : Stops [.operator closer] (signs ++ following))
    (reading : readsFirstItems items image closer signs following result) :
    readsItems items image closer signs following result := by
  intro bound enough
  cases bound with
  | zero => cases enough
  | succ bound =>
      change Takes (itemsFrom _ _ (bound + 1) []) _ _ _
      rw [itemsFrom]
      apply (takes_acceptsOperator_none stops).skip
      rintro _ rfl
      exact reading bound (Nat.le_of_lt_succ enough)

theorem explains_firstItems (closes : .operator closer ∈ closers) (notComma : closer ≠ ",")
    (explains : Explains room (.phrase OpensNamed) (readsWithin items image) item) (left : Nat) :
    Explains room (.phrase OpensNamed) (readsFirstItems items image closer)
      (item >>= fun next => itemsFrom item closer left ([] ++ [next])) := by
  intro tokens start finish short
  have closed : Ends [.operator closer] := ends_cons closes []
  refine (explains tokens start finish short).bind (fun value => (explains_moreItems closes
    notComma explains left [value] (List.cons_ne_nil _ _)).mono (Nat.le_of_lt short)) closed
    ?_ ?_ ?_
  · exact fun value following _ => ⟨_, readsMoreItems_close [value] following⟩
  · exact fun opens => opens.append closed
  · intro front back following value result next more bound enough
    rw [List.length_append] at enough
    apply (next (bound + 1) (by omega)).bind
    intro read like
    apply more bound (bound + 1) _ (by omega) (by omega)
    rw [List.nil_append, List.map_singleton, List.map_singleton, like]

/-- Items are read up to what closes them. -/
theorem explains_items (closer : String) (closes : .operator closer ∈ closers)
    (notComma : closer ≠ ",")
    (explains : Explains room (.phrase OpensNamed) (readsWithin items image) item) (left : Nat) :
    Explains room .any (readsItems items image closer) (itemsFrom item closer left []) := by
  have closed : Ends [.operator closer] := ends_cons closes []
  intro tokens start finish short
  cases left with
  | zero =>
      exact explained_error [.operator closer] rfl True.intro (closed.stops (by decide))
        fun following _ => ⟨[], readsItems_close following⟩
  | succ left =>
      rw [itemsFrom]
      apply explained_acceptsOperator
      · apply Manner.any_proceeds
        rintro same
        rw [same] at closes
        exact absurd closes (by decide)
      · rintro token rest rfl
        exact explained_pure True.intro fun following _ => readsItems_close following
      · intro stops
        have first := explains_firstItems closes notComma explains left tokens start finish short
        exact (first.apart stops (fun _ => OpensNamed.name) (by simp [Sign.name, Sign.operator])
          readsItems_first).weaken id

end Items

/-! ## Single expressions -/

section Enclosed

variable {closer : String}

/-- An expression in front of what closes it. -/
def closedBy (inner : TagReader Expression) (closer : String) : TagReader Expression :=
  inner >>= fun value => operator closer >>= fun _ => pure value

theorem closedBy_bind {α : Type} (inner : TagReader Expression) (closer : String)
    (change : Expression → α) :
    (inner >>= fun value => operator closer >>= fun _ => pure (change value)) =
      closedBy inner closer >>= fun value => pure (change value) := by
  simp [closedBy]

/-- What is read as an expression in front of what closes it. -/
abbrev readsClosed (closer : String) : Reading Expression :=
  readsWithin (fun bound => closedBy (expressionWithin bound) closer) unplaced

theorem readsClosed_append {front back following : List Sign} {value result : Expression}
    (reading : readsEnclosed front (back ++ following) value)
    (closing : back = [.operator closer] ∧ result = value) :
    readsClosed closer (front ++ back) following result := by
  obtain ⟨rfl, rfl⟩ := closing
  intro bound short
  rw [List.length_append] at short
  apply (reading bound (by omega)).bind
  intro read like
  apply (takes_operator closer).finish
  intro _ _
  exact takes_pure like

theorem explains_closedBy (closer : String) (closes : .operator closer ∈ closers)
    (explains : Explains room (.phrase OpensNamed) readsEnclosed inner) :
    Explains room (.phrase OpensNamed) (readsClosed closer) (closedBy inner closer) := by
  intro tokens start finish short
  have closed : Ends [.operator closer] := ends_cons closes []
  refine (explains tokens start finish short).bind ?_ closed (fun value _ _ => ⟨value, rfl, rfl⟩)
    (fun opens => opens.append closed) readsClosed_append
  intro value tokens start finish _
  refine explained_operator ?_ ?_ closed fun following _ => ⟨value, rfl, rfl⟩
  · rintro rfl
    exact absurd closes (by decide)
  · rintro token rest rfl
    exact explained_pure True.intro fun _ _ => ⟨rfl, rfl⟩

end Enclosed

/-! ## Entries -/

/-- What is read as an entry of a dictionary. -/
abbrev readsEntry : Reading (Expression × Expression) :=
  readsWithin (fun bound => entry (expressionWithin bound)) (Prod.map unplaced unplaced)

/-- What is read behind the key of an entry. -/
def readsValue (key : Expression) : Reading (Expression × Expression) :=
  fun signs following result => ∀ bound read, signs.length < bound → key.Like read →
    Takes (operator ":" >>= fun _ => expressionWithin bound >>= fun value => pure (read, value))
      signs following fun entry =>
        Prod.map unplaced unplaced entry = Prod.map unplaced unplaced result

theorem readsValue_cons {key value : Expression} {signs following : List Sign}
    (reading : readsEnclosed signs following value) :
    readsValue key (.operator ":" :: signs) following (key, value) := by
  intro bound read short like
  apply (takes_operator ":").bind
  intro _ _
  apply (reading bound (Nat.lt_of_succ_lt short)).finish
  intro readValue valueLike
  exact takes_pure (Prod.ext like valueLike)

theorem explains_entry (explains : Explains room (.phrase OpensNamed) readsEnclosed inner) :
    Explains room (.phrase OpensNamed) readsEntry (entry inner) := by
  intro tokens start finish short
  have closed : Ends [.operator ":", .name "x"] := ends_cons (by decide) _
  have filled (key : Expression) (following : List Sign) (ends : Ends following) :
      ∃ result, readsValue key [.operator ":", .name "x"] following result :=
    ⟨_, readsValue_cons (readsEnclosed_name ends)⟩
  refine (explains tokens start finish short).bind ?_ closed filled ?_ ?_
  · intro key tokens start finish fewer
    refine explained_operator (by decide) ?_ closed (filled key)
    rintro token rest rfl
    rw [List.length_cons] at fewer
    exact ((explains rest start finish (by omega)).weaken id).map (fun _ _ _ => True.intro)
      (fun _ _ _ => True.intro) readsValue_cons
  · exact fun opens => opens.append closed
  · intro front back following key result reading more bound enough
    rw [List.length_append] at enough
    apply (reading bound (by omega)).bind
    intro read like
    exact more bound read (by omega) like

/-! ## Arguments -/

section Arguments

variable {gathered : CallArguments Expression}

theorem Expression.likeArguments_iff {arguments read : CallArguments Expression} :
    LikeArguments arguments read ↔
      read.positional.map unplaced = arguments.positional.map unplaced ∧
        read.keyword.map (Prod.map id unplaced) = arguments.keyword.map (Prod.map id unplaced) := by
  rcases arguments with ⟨positional, keyword⟩
  rcases read with ⟨readPositional, readKeyword⟩
  simp [LikeArguments, unplacedArguments, unplacedItems_eq_map, unplacedKeywords_eq_map]

namespace Expression.LikeArguments

variable {arguments already : CallArguments Expression} {value read : Expression}

theorem unnamed (like : LikeArguments arguments already) (unnamed : arguments.keyword = []) :
    already.keyword = [] := by
  have same := (likeArguments_iff.1 like).2
  rwa [unnamed, List.map_nil, List.map_eq_nil_iff] at same

theorem positional (like : LikeArguments arguments already) (same : value.Like read) :
    LikeArguments { arguments with positional := arguments.positional ++ [value] }
      { already with positional := already.positional ++ [read] } := by
  obtain ⟨positional, keyword⟩ := likeArguments_iff.1 like
  refine likeArguments_iff.2 ⟨?_, keyword⟩
  rw [List.map_append, List.map_append, positional, List.map_singleton, List.map_singleton, same]

theorem keyword {text : String} (like : LikeArguments arguments already) (same : value.Like read) :
    LikeArguments { arguments with keyword := arguments.keyword ++ [(text, value)] }
      { already with keyword := already.keyword ++ [(text, read)] } := by
  obtain ⟨positional, keyword⟩ := likeArguments_iff.1 like
  refine likeArguments_iff.2 ⟨positional, ?_⟩
  rw [List.map_append, List.map_append, keyword, List.map_singleton, List.map_singleton,
    Prod.map_apply, Prod.map_apply, same]

end Expression.LikeArguments

/-- Tokens that do not begin as an argument with a name does. -/
def Unnamed (signs : List Sign) : Prop :=
  ∀ text rest, signs ≠ .name text :: .operator "=" :: rest

/-- What does not begin as an argument with a name still does not when other tokens follow. -/
theorem Unnamed.resumes {taken rest following : List Sign} (unnamed : Unnamed (taken ++ rest))
    (some : taken ≠ []) (resumes : Resumes rest following) : Unnamed (taken ++ following) := by
  intro text others same
  match taken with
  | [] => exact some rfl
  | [sign] =>
      obtain ⟨rfl, rfl⟩ := List.cons.inj same
      rcases resumes with ends | ⟨next, more, _, rfl, again, _⟩
      · exact absurd (ends _ rfl) (by decide)
      · obtain rfl : next = .operator "=" := (List.cons.inj again).1.symm
        exact unnamed text more rfl
  | sign :: second :: more =>
      obtain ⟨rfl, rest⟩ := List.cons.inj same
      obtain ⟨rfl, _⟩ := List.cons.inj rest
      exact unnamed text _ rfl

theorem Unnamed.completed {before rest more following : List Sign}
    (unnamed : Unnamed (before ++ rest)) (begun : before = [] → OpensNamed more)
    (stops : Stops [.operator "="] more) (ends : Ends following) :
    Unnamed (before ++ more ++ following) := by
  intro text others same
  match before with
  | [] =>
      obtain ⟨_, rfl, closes⟩ := begun rfl
      have tail : _ ++ following = .operator "=" :: others := (List.cons.inj same).2
      exact absurd ((closes.append ends) _ (by rw [tail]; rfl)) (by decide)
  | [sign] =>
      have tail : more ++ following = .operator "=" :: others := (List.cons.inj same).2
      cases more with
      | nil =>
          obtain rfl : following = .operator "=" :: others := tail
          exact absurd (ends _ rfl) (by decide)
      | cons next more =>
          obtain rfl : next = .operator "=" := (List.cons.inj tail).1
          exact stops _ rfl (List.mem_singleton_self _)
  | sign :: second :: back =>
      obtain ⟨rfl, rest⟩ := List.cons.inj same
      obtain ⟨rfl, _⟩ := List.cons.inj rest
      exact unnamed text _ rfl

/-- What is read as one more argument. -/
def readsArgument (gathered : CallArguments Expression) : Reading (CallArguments Expression) :=
  fun signs following result => ∀ bound already, signs.length < bound →
    LikeArguments gathered already →
      Takes (argument (expressionWithin bound) already) signs following (LikeArguments result)

theorem readsArgument_positional {signs following : List Sign} {value : Expression}
    (unnamed : gathered.keyword = []) (apart : Unnamed (signs ++ following))
    (reading : readsEnclosed signs following value) :
    readsArgument gathered signs following
      { gathered with positional := gathered.positional ++ [value] } := by
  intro bound already short like
  apply (takes_unnamed (reading bound short) apart (like.unnamed unnamed)).weaken
  rintro _ ⟨read, same, rfl⟩
  exact like.positional same

theorem readsArgument_keyword {signs following : List Sign} {value : Expression} (text : String)
    (reading : readsEnclosed signs following value) :
    readsArgument gathered (.name text :: .operator "=" :: signs) following
      { gathered with keyword := gathered.keyword ++ [(text, value)] } := by
  intro bound already short like
  apply (takes_named (reading bound (by simp at short; omega))).weaken
  rintro _ ⟨read, same, rfl⟩
  exact like.keyword same

/-- An argument without a name is an expression. -/
theorem explained_positional {tokens : List Token} {start finish : Position}
    (unnamed : gathered.keyword = []) (apart : Unnamed (tokens.map Token.sign))
    (explained : Explained (.phrase OpensNamed) readsEnclosed tokens start finish
      (inner.run.run ⟨tokens, start, finish⟩)) :
    Explained (.phrase OpensName) (readsArgument gathered) tokens start finish
      ((inner >>= fun value => pure { gathered with
        positional := gathered.positional ++ [value] }).run.run ⟨tokens, start, finish⟩) := by
  rw [run_bind]
  generalize inner.run.run ⟨tokens, start, finish⟩ = outcome at explained ⊢
  cases explained with
  | took split dotted kept again =>
      subst split
      rw [List.map_append] at apart
      exact .took rfl dotted kept fun following resumes =>
        readsArgument_positional unnamed (apart.resumes kept resumes) (again following resumes)
  | failed split blames begun stops completes =>
      subst split
      rw [List.map_append] at apart
      refine .failed rfl blames (fun none => (begun none).name) stops fun following ends => ?_
      obtain ⟨value, reading⟩ := completes following ends
      exact ⟨_, readsArgument_positional unnamed (apart.completed begun stops ends) reading⟩

theorem explained_keyword {first second : Token} {rest : List Token} {start finish : Position}
    {text : String} (isName : first.sign = .name text) (isEquals : second.sign = .operator "=")
    (explained : Explained (.phrase OpensNamed) readsEnclosed rest start finish
      (inner.run.run ⟨rest, start, finish⟩)) :
    Explained (.phrase OpensName) (readsArgument gathered) (first :: second :: rest) start finish
      ((TagReader.name "an argument name" >>= fun token => operator "=" >>= fun _ =>
        inner >>= fun value => pure { gathered with
          keyword := gathered.keyword ++ [(token.text, value)] }).run.run
        ⟨first :: second :: rest, start, finish⟩) := by
  have leads : Leads (TagReader.name "an argument name" >>= fun token => operator "=" >>= fun _ =>
      inner >>= fun value => pure { gathered with
        keyword := gathered.keyword ++ [(token.text, value)] })
      [.name text, .operator "="] (rest.map Token.sign) (fun _ : Token => inner >>= fun value =>
        pure { gathered with keyword := gathered.keyword ++ [(text, value)] }) fun _ => True := by
    apply (takes_name "an argument name" text).bind
    rintro token rfl
    exact (takes_operator "=").leads _
  obtain ⟨_, _, ran⟩ :=
    leads ⟨first :: second :: rest, start, finish⟩ [first, second] rest rfl
      (by simp [isName, isEquals]) rfl
  rw [ran]
  have inside : Explained .any
      (fun signs => readsArgument gathered (.name text :: .operator "=" :: signs)) rest start finish
      ((inner >>= fun value => pure { gathered with
        keyword := gathered.keyword ++ [(text, value)] }).run.run ⟨rest, start, finish⟩) :=
    (explained.weaken id).map (fun _ _ _ => True.intro) (fun _ _ _ => True.intro)
      (readsArgument_keyword text)
  exact (inside.cons isEquals (Manner.any_proceeds (by decide))).cons isName
    (Manner.phrase_proceeds (Sign.name_ne_dot text))

theorem explains_argument (explains : Explains room (.phrase OpensNamed) readsEnclosed inner)
    (gathered : CallArguments Expression) :
    Explains room (.phrase OpensName) (readsArgument gathered) (argument inner gathered) := by
  intro tokens start finish short
  rw [argument, run_bind]
  change Explained _ _ _ _ _ ((if _ then _ else _ :
    TagReader (CallArguments Expression)).run.run ⟨tokens, start, finish⟩)
  by_cases isKeyword : ∃ text rest, tokens.map Token.sign = .name text :: .operator "=" :: rest
  · rw [if_pos ((isKeyword_iff ⟨tokens, start, finish⟩).2 isKeyword)]
    obtain ⟨text, others, spelled⟩ := isKeyword
    obtain ⟨first, tokens, rfl, isName, spelled⟩ := List.map_eq_cons_iff.1 spelled
    obtain ⟨second, rest, rfl, isEquals, -⟩ := List.map_eq_cons_iff.1 spelled
    rw [List.length_cons, List.length_cons] at short
    exact explained_keyword isName isEquals (explains rest start finish (by omega))
  · rw [if_neg (mt (isKeyword_iff ⟨tokens, start, finish⟩).1 isKeyword)]
    by_cases unnamed : gathered.keyword = []
    · rw [if_neg (by simp [unnamed])]
      apply explained_positional unnamed _ (explains tokens start finish short)
      exact fun text rest same => isKeyword ⟨text, rest, same⟩
    · rw [if_pos (by simpa using unnamed)]
      refine explained_error [.name "x", .operator "=", .name "x"] rfl (fun _ => ⟨_, rfl⟩)
        (stops_cons (by decide)) fun following ends => ?_
      exact ⟨_, readsArgument_keyword "x" (readsEnclosed_name ends)⟩

/-- What is read from an argument up to what closes all of them. -/
def readsArguments (gathered : CallArguments Expression) : Reading (CallArguments Expression) :=
  fun signs following result => ∀ left bound already, signs.length < left →
    signs.length < bound → LikeArguments gathered already →
      Takes (argumentsFrom (expressionWithin bound) left already) signs following
        (LikeArguments result)

/-- What follows an argument: the end of all of them, or a comma and further ones. -/
def moreArguments (inner : TagReader Expression) (left : Nat)
    (gathered : CallArguments Expression) : TagReader (CallArguments Expression) :=
  acceptsOperator ")" >>= fun closed =>
    if closed then pure gathered
    else operator "," >>= fun _ => argumentsFrom inner left gathered

/-- What is read behind an argument. -/
def readsMoreArguments (gathered : CallArguments Expression) :
    Reading (CallArguments Expression) :=
  fun signs following result => ∀ left bound already, signs.length ≤ left →
    signs.length < bound → LikeArguments gathered already →
      Takes (moreArguments (expressionWithin bound) left already) signs following
        (LikeArguments result)

theorem readsMoreArguments_close (gathered : CallArguments Expression) (following : List Sign) :
    readsMoreArguments gathered [.operator ")"] following gathered := by
  intro left bound already _ _ like
  apply (takes_acceptsOperator ")").finish
  rintro _ rfl
  exact takes_pure like

theorem readsMoreArguments_comma {signs following : List Sign}
    {result : CallArguments Expression} (reading : readsArguments gathered signs following result) :
    readsMoreArguments gathered (comma :: signs) following result := by
  intro left bound already enough short like
  have apart : Stops [.operator ")"] (comma :: signs ++ following) := stops_cons (by decide)
  apply (takes_acceptsOperator_none apart).skip
  rintro _ rfl
  apply (takes_operator ",").bind
  intro _ _
  exact reading left bound already (Nat.lt_of_succ_le enough) (Nat.lt_of_succ_lt short) like

theorem readsArguments_append {front back following : List Sign}
    {next result : CallArguments Expression}
    (first : readsArgument gathered front (back ++ following) next)
    (more : readsMoreArguments next back following result) :
    readsArguments gathered (front ++ back) following result := by
  intro left bound already enough short like
  rw [List.length_append] at enough short
  cases left with
  | zero => cases enough
  | succ left =>
      apply (first bound already (by omega) like).bind
      intro read readLike
      exact more left bound read (by omega) (by omega) readLike

theorem readsArguments_name (gathered : CallArguments Expression) (following : List Sign) :
    ∃ result, readsArguments gathered
      ([.name "x", .operator "=", .name "x"] ++ [.operator ")"]) following result := by
  have closed : Ends ([.operator ")"] ++ following) := ends_cons (by decide) _
  exact ⟨_, readsArguments_append (readsArgument_keyword "x" (readsEnclosed_name closed))
    (readsMoreArguments_close _ following)⟩

theorem explains_moreArguments {left : Nat}
    (explains : ∀ gathered, Explains room (.phrase OpensName) (readsArguments gathered)
      (argumentsFrom inner left gathered)) (gathered : CallArguments Expression) :
    Explains room .tail (readsMoreArguments gathered) (moreArguments inner left gathered) := by
  intro tokens start finish short
  apply explained_acceptsOperator (Manner.tail_proceeds (by decide) (by decide))
  · rintro token rest rfl
    exact explained_pure True.intro fun following _ => readsMoreArguments_close gathered following
  · intro stops
    refine explained_operator (by decide) ?_ (ends_cons (by decide) []) fun following _ =>
      ⟨_, readsMoreArguments_close gathered following⟩
    rintro token rest rfl
    rw [List.length_cons] at short
    exact (explains gathered rest start finish (by omega)).weaken readsMoreArguments_comma

/-- Arguments are read up to what closes all of them. -/
theorem explains_argumentsFrom (explains : Explains room (.phrase OpensNamed) readsEnclosed inner)
    (left : Nat) (gathered : CallArguments Expression) :
    Explains room (.phrase OpensName) (readsArguments gathered)
      (argumentsFrom inner left gathered) := by
  induction left generalizing gathered with
  | zero =>
      intro tokens start finish _
      exact explained_error _ rfl (fun _ => ⟨_, rfl⟩) (stops_cons (by decide))
        fun following _ => readsArguments_name gathered following
  | succ left inductionHypothesis =>
      intro tokens start finish short
      have closed : Ends [.operator ")"] := ends_cons (by decide) []
      refine (explains_argument explains gathered tokens start finish short).bind (fun next =>
        (explains_moreArguments inductionHypothesis next).mono (Nat.le_of_lt short)) closed ?_ ?_
          readsArguments_append
      · exact fun next following _ => ⟨_, readsMoreArguments_close next following⟩
      · exact fun opens => opens.append _

/-- What is read of a call behind its parenthesis. -/
abbrev readsCall : Reading (CallArguments Expression) :=
  readsWithin (fun bound => callArguments (expressionWithin bound) bound) unplacedArguments

theorem readsCall_close (following : List Sign) :
    readsCall [.operator ")"] following CallArguments.none := by
  intro bound _
  apply (takes_acceptsOperator ")").finish
  rintro _ rfl
  exact takes_pure rfl

theorem explains_callArguments (explains : Explains room (.phrase OpensNamed) readsEnclosed inner)
    (bound : Nat) : Explains room .any readsCall (callArguments inner bound) := by
  intro tokens start finish short
  apply explained_acceptsOperator (Manner.any_proceeds (by decide))
  · rintro token rest rfl
    exact explained_pure True.intro fun following _ => readsCall_close following
  · intro stops
    refine ((explains_argumentsFrom explains bound .none tokens start finish short).apart stops
      (fun _ => id) (by decide) ?_).weaken id
    intro signs following result stops reading bound short
    apply (takes_acceptsOperator_none stops).skip
    rintro _ rfl
    exact reading bound bound .none short short rfl

/-- What is read as arguments that may be absent. -/
abbrev readsOptional : Reading (CallArguments Expression) :=
  readsWithin (fun bound => optionalArguments (expressionWithin bound) bound) unplacedArguments

theorem readsOptional_none {following : List Sign} (stops : Stops [.operator "("] following) :
    readsOptional [] following CallArguments.none := by
  intro bound _
  apply (takes_acceptsOperator_none stops).finish
  rintro _ rfl
  exact takes_pure rfl

theorem readsOptional_call {signs following : List Sign} {arguments : CallArguments Expression}
    (reading : readsCall signs following arguments) :
    readsOptional (.operator "(" :: signs) following arguments := by
  intro bound short
  apply (takes_acceptsOperator "(").bind
  rintro _ rfl
  exact reading bound (Nat.lt_of_succ_lt short)

theorem explains_optionalArguments
    (explains : Explains room (.phrase OpensNamed) readsEnclosed inner) (bound : Nat) :
    Explains room .any readsOptional (optionalArguments inner bound) := by
  intro tokens start finish short
  apply explained_acceptsOperator (Manner.any_proceeds (by decide))
  · rintro token rest rfl
    rw [List.length_cons] at short
    exact (explains_callArguments explains bound rest start finish (by omega)).weaken
      readsOptional_call
  · intro stops
    exact explained_pure True.intro fun following resumes =>
      readsOptional_none (resumes.stops (by decide) stops)

end Arguments

end TemplateEngine
