import TemplateEngine.Proofs.Nesting

/-!
# The depth of a rendering

The depth counts the includes and macro calls in progress, with one exception: a call of
`super` goes on at the depth of the block it belongs to, which may be less than the depth
of the caller.  What such calls hide is added up, and with it the account is exact at
every point of every rendering.
-/

namespace TemplateEngine

namespace Use

/-- Whether a use is an include or a macro call. -/
def enters : Use → Bool
  | .call => true
  | .inclusion => true
  | .block => false
  | .super _ _ => false

/-- By how much the depth of a use falls short of that of its caller. -/
def hides : Use → Int
  | .super caller stored => (caller : Int) - stored
  | _ => 0

/-- The count of includes and macro calls among some uses in progress. -/
def entered (uses : List Use) : Nat :=
  uses.countP enters

/-- By how much the depth falls short, given the uses in progress. -/
def hidden : List Use → Int
  | [] => 0
  | use :: uses => use.hides + hidden uses

/-- Whether the depth is accounted for by the uses in progress, and within the limit where
it has just been raised. -/
def accounted (uses : List Use) (depth : Nat) : Bool :=
  decide ((depth : Int) + hidden uses = entered uses) &&
    (!uses.head?.any enters || decide (depth ≤ Interpreter.maxDepth))

theorem accounted_iff (uses : List Use) (depth : Nat) :
    accounted uses depth = true ↔
      (depth : Int) + hidden uses = entered uses ∧
        (uses.head?.any enters = true → depth ≤ Interpreter.maxDepth) := by
  cases start : uses.head?.any enters <;> simp [accounted, start]

variable {uses : List Use} {depth : Nat}

theorem accounted_nil : accounted [] 0 = true := by
  decide

/-- Entering an include or macro call raises the depth and the count by one. -/
theorem accounted_enter {use : Use} (enters : use.enters = true) (hides : use.hides = 0)
    (allowed : accounted uses depth = true) (shallow : depth < Interpreter.maxDepth) :
    accounted (use :: uses) (depth + 1) = true := by
  rw [accounted_iff] at allowed ⊢
  simp only [hidden, entered, List.countP_cons, enters, hides, if_true]
  simp only [entered] at allowed
  omega

theorem accounted_block (allowed : accounted uses depth = true) :
    accounted (.block :: uses) depth = true := by
  rw [accounted_iff] at allowed ⊢
  simpa [hidden, entered, hides, enters] using allowed.1

/-- A call of `super` hides as much as the depth drops. -/
theorem accounted_super (stored : Nat) (allowed : accounted uses depth = true) :
    accounted (.super depth stored :: uses) stored = true := by
  rw [accounted_iff] at allowed ⊢
  have account := allowed.1
  simp only [entered] at account
  simp [hidden, entered, hides, enters]
  omega

/-- Entering fails where the includes and macro calls in progress reach the limit, not
counting what is hidden. -/
theorem enter_of_accounted (allowed : accounted uses depth = true) (name : String)
    (state : RunState) :
    Interpreter.enter depth name state =
      if (Interpreter.maxDepth : Int) + hidden uses ≤ entered uses then
        some (.error (.recursion name Interpreter.maxDepth), state)
      else some (.ok (depth + 1), state) := by
  have account := ((accounted_iff uses depth).1 allowed).1
  unfold Interpreter.enter
  by_cases deep : Interpreter.maxDepth ≤ depth
  · rw [if_pos deep, if_pos (by omega)]
    rfl
  · rw [if_neg deep, if_neg (by omega)]
    rfl

end Use

namespace Template

/-- At every point of a rendering the depth and what calls of `super` hide add up to the
count of includes and macro calls in progress.  So the depth is that count where nothing
is hidden, and only there; entering one more fails where the count exceeds the limit by
what is hidden. -/
theorem depth_accounted (natives : Natives) (template : Template) (data : Table Value)
    (limit : Option Nat) :
    (∀ alarm bound,
      template.outcome? (Interpreter.watched natives Use.accounted alarm bound []) data limit =
        template.execute? natives bound data limit) ∧
    ∀ uses depth, Use.accounted uses depth = true →
      (depth = Use.entered uses ↔ Use.hidden uses = 0) ∧
      (uses.head?.any Use.enters = true →
        (Use.entered uses : Int) ≤ Interpreter.maxDepth + Use.hidden uses) ∧
      ∀ name state, Interpreter.enter depth name state =
        if (Interpreter.maxDepth : Int) + Use.hidden uses ≤ Use.entered uses then
          some (.error (.recursion name Interpreter.maxDepth), state)
        else some (.ok (depth + 1), state) := by
  constructor
  · intro alarm bound
    have interprets := Discipline.watched_interprets natives
      (Use.accounted_enter rfl rfl) (Use.accounted_enter rfl rfl) Use.accounted_block
      Use.accounted_super alarm bound Use.accounted_nil
    rcases template.outcome?_of_interprets data limit interprets with ⟨_, excused⟩ | ⟨same, _⟩
    · cases excused
    · exact same
  · intro uses depth allowed
    rcases (Use.accounted_iff uses depth).1 allowed with ⟨account, shallow⟩
    refine ⟨?_, ?_, Use.enter_of_accounted allowed⟩
    · omega
    · intro enters
      have := shallow enters
      omega

end Template

end TemplateEngine
