import TemplateEngine.Proofs.Reading

/-!
# Stray tokens

Reading fails with many faults, but never with one of those that are about tokens outside tags:
the characters of a source are taken apart with faults of their own, a tag is read with faults
about the tag, and between tags the tokens follow the grammar.  An error of a template may stem
from one of its parents, so the parents are included.
-/

namespace TemplateEngine

namespace Token

/-- What cannot be taken apart into tokens has a fault of its own. -/
theorem not_stray_of_readWord {first : Char} {rest : List Char} {fault : SyntaxFault}
    (failed : readWord first rest = .error fault) : ¬ fault.IsStray := by
  rw [readWord] at failed
  split at failed
  · cases failed
  split at failed
  · cases failed
  split at failed
  · split at failed
    · cases failed
    · cases failed
      exact id
  · split at failed
    · cases failed
    · cases failed
      exact id

theorem not_stray_of_lexemes {mode : Mode} {position : Position} {characters : List Char}
    {error : SyntaxError} (failed : lexemes mode position characters = .error error) :
    ¬ error.fault.IsStray := by
  fun_induction lexemes mode position characters generalizing error with
  | case1 => cases failed
  | case2 | case5 =>
      cases failed
      exact id
  | case3 | case4 | case6 | case8 =>
      rename_i inductionHypothesis
      exact inductionHypothesis (error_of_map_eq_error failed)
  | case7 =>
      cases failed
      exact not_stray_of_readWord ‹_›

theorem not_stray_of_tokenize {config : Config} {source : String} {error : SyntaxError}
    (failed : tokenize config source = .error error) : ¬ error.fault.IsStray :=
  not_stray_of_lexemes (error_of_map_eq_error ((tokenize_eq ..).symm.trans failed))

end Token

/-- No syntax error that an error is or stems from is about a stray token. -/
def TemplateError.Orderly (error : TemplateError) : Prop :=
  ∀ fault position, .parse ⟨fault, position⟩ ∈ error.chain → ¬ fault.IsStray

namespace Lineage

variable {config : Config} {statements : Registry StatementKind}

/-- An error of a parent is an error of its source, unless the parent cannot be found. -/
theorem orderly_of_loadParent
    {reader : Loader → String → String → Except TemplateError Lineage} {loader : Loader}
    (orderly : ∀ loader identifier source error,
      reader loader identifier source = .error error → error.Orderly)
    {filename : String} {error : TemplateError}
    (failed : loadParent reader loader filename = .error error) : error.Orderly := by
  intro fault position member
  rw [loadParent] at failed
  split at failed
  · cases failed
    simp [TemplateError.chain] at member
  dsimp only at failed
  split at failed
  · cases failed
  · cases failed
    simp [TemplateError.chain] at member
  rename_i derived _ loaded source _ found
  cases failed
  have inside : .parse ⟨fault, position⟩ ∈ source.chain := by
    simpa [TemplateError.chain] using member
  cases resolved : loader.resolve filename with
  | error absent =>
      rw [resolved] at found
      cases found
      simp [TemplateError.chain] at inside
  | ok name =>
      cases text : derived.read name with
      | error absent =>
          rw [resolved] at found
          change ((derived.read name).mapError _ >>= _) = _ at found
          rw [text] at found
          cases found
          simp [TemplateError.chain] at inside
      | ok content =>
          rw [resolved] at found
          change ((derived.read name).mapError _ >>= _) = _ at found
          rw [text] at found
          exact orderly derived name content source found fault position inside

/-- Reading is orderly as soon as the loading of parents is. -/
theorem orderly_of_read {loader : Loader} {identifier source : String}
    {loadParent : String → Except TemplateError Lineage}
    (parent : ∀ filename error, loadParent filename = .error error → error.Orderly)
    {error : TemplateError}
    (failed : read config statements loader identifier source loadParent = .error error) :
    error.Orderly := by
  have parse : ∀ error : SyntaxError, ¬ error.fault.IsStray →
      (TemplateError.parse error).Orderly := by
    intro error known fault position member
    cases List.mem_singleton.1 member
    exact known
  cases tokenized : Token.tokenize config source with
  | error fault =>
      simp only [read, tokenized] at failed
      cases failed
      exact parse fault (Token.not_stray_of_tokenize tokenized)
  | ok tokens =>
      have meets := read_meets statements loader identifier loadParent TemplateError.Orderly
        tokenized parse parent
      rw [failed] at meets
      exact meets

theorem orderly_of_ofSource {depth : Nat} {loader : Loader} {identifier source : String}
    {error : TemplateError}
    (failed : ofSource config statements depth loader identifier source = .error error) :
    error.Orderly := by
  induction depth generalizing loader identifier source error with
  | zero =>
      refine orderly_of_read ?_ failed
      intro filename error found
      cases found
      intro fault position member
      cases List.mem_singleton.1 member
  | succ depth inductionHypothesis =>
      refine orderly_of_read ?_ failed
      intro filename error found
      exact orderly_of_loadParent (fun _ _ _ _ => inductionHypothesis) found

/-- The tokens of a source are literal texts, comments and tags with words inside, and one
token that ends them; no text is empty, and no two follow each other.  So reading never meets
a token that can begin nothing, never misses the end of a tag, and never finds the end of the
source where it expects nothing in particular.  That holds of the parents of a template, too. -/
theorem grammatical (config : Config) :
    (∀ source tokens, Token.tokenize config source = .ok tokens → Token.Stream true tokens) ∧
      ∀ statements depth loader identifier source error,
        ofSource config statements depth loader identifier source = .error error →
          ∀ fault position, .parse ⟨fault, position⟩ ∈ error.chain →
            fault ≠ .endOfTemplate ∧ fault ≠ .endInsideTag ∧
              ∀ token, fault ≠ .unexpectedToken token := by
  constructor
  · intro source tokens read
    exact Token.stream_of_tokenize config read
  · intro statements depth loader identifier source error failed fault position member
    have known := orderly_of_ofSource failed fault position member
    refine ⟨?_, ?_, ?_⟩
    · rintro rfl
      exact known True.intro
    · rintro rfl
      exact known True.intro
    · rintro token rfl
      exact known True.intro

/-- A text, a comment and two tags in a loop that is not closed. -/
def unclosed : String :=
  "a\x7b# b #\x7d\x7b% for c in d -%\x7d\x7b\x7b '%\x7d' \x7d\x7d"

/-- Its tokens follow the grammar, and reading it misses the tag that closes the loop. -/
theorem grammatical_unclosed :
    ∃ tokens position,
      Token.tokenize .default unclosed = .ok tokens ∧ Token.Stream true tokens ∧
        ofSource .default Registries.standardStatements 0 .empty "page" unclosed =
          .error (.parse ⟨.unexpectedEnd ["else", "endfor"], position⟩) ∧
        SyntaxFault.unexpectedEnd ["else", "endfor"] ≠ .endOfTemplate := by
  have tokenized : (Token.tokenize .default unclosed).toOption.isSome = true := by
    decide +kernel
  have failed :
      (match ofSource .default Registries.standardStatements 0 .empty "page" unclosed with
        | .error (.parse error) => some error.fault
        | _ => none) = some (.unexpectedEnd ["else", "endfor"]) := by
    decide +kernel
  cases found : Token.tokenize .default unclosed with
  | error error =>
      rw [found] at tokenized
      cases tokenized
  | ok tokens =>
      split at failed
      · rename_i error ran
        rcases error with ⟨fault, position⟩
        cases Option.some.inj failed
        have known := (grammatical .default).2 _ _ _ _ _ _ ran _ position List.mem_cons_self
        exact ⟨tokens, position, rfl, (grammatical .default).1 _ _ found, ran, known.1⟩
      · cases failed

end Lineage

end TemplateEngine
