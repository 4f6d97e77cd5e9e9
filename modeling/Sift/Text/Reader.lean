/-!
Readers take what they want off the front of a text and leave the rest, or reject it. A step that
is repeated takes at least one character each time it goes on, so the length of the text bounds
the number of steps.
-/

namespace Sift

abbrev Reader (α : Type) := StateT (List Char) Option α

namespace Reader

variable {α : Type}

/-- The next character, which stays. -/
def peek? : Reader (Option Char) := do
  return (← get).head?

/-- The next character, taken. -/
def next : Reader Char := fun
  | [] => none
  | c :: cs => some (c, cs)

/-- Takes the next character if it passes the test. -/
def nextIf? (test : Char → Bool) : Reader (Option Char) := fun
  | [] => some (none, [])
  | c :: cs => if test c then some (some c, cs) else some (none, c :: cs)

/-- Takes the next character if it is `c`, and says whether it was. -/
def accept (c : Char) : Reader Bool := do
  return (← nextIf? (· = c)).isSome

/-- Takes the next character, which has to be `c`. -/
def expect (c : Char) : Reader Unit := do
  if !(← accept c) then failure

/-- Takes `word` if the text begins with it, and says whether it did. -/
def acceptWord (word : String) : Reader Bool := fun cs =>
  if word.toList.isPrefixOf cs then some (true, cs.drop word.length) else some (false, cs)

/-- Takes all characters up to the first that fails the test. -/
def takeWhile (test : Char → Bool) : Reader (List Char) := fun cs =>
  some (cs.takeWhile test, cs.dropWhile test)

/-- Takes characters that pass the test, at least one. -/
def takeWhile1 (test : Char → Bool) : Reader (List Char) := do
  let taken ← takeWhile test
  if taken.isEmpty then failure else return taken

/-- Takes characters that pass the test, exactly `count`. -/
def takeExactly (test : Char → Bool) : Nat → Reader (List Char)
  | 0 => return []
  | count + 1 => do
      let c ← next
      if test c then return c :: (← takeExactly test count) else failure

/-- Whether nothing is left. -/
def atEnd : Reader Bool := do
  return (← get).isEmpty

/-- Repeats `step` until it gives nothing, for at most `steps` times. -/
def untilNoneWithin (step : Reader (Option α)) : (steps : Nat) → Reader (List α)
  | 0 => failure
  | steps + 1 => do
      match ← step with
      | none => return []
      | some item => return item :: (← untilNoneWithin step steps)

/-- Repeats `step` until it gives nothing, and collects what it gave. -/
def untilNone (step : Reader (Option α)) : Reader (List α) := do
  untilNoneWithin step ((← get).length + 1)

/-- Repeats `step` with the state it left, for at most `steps` times. -/
def iterateWithin {σ : Type} (step : σ → Reader (σ × Bool)) : (steps : Nat) → σ → Reader σ
  | 0, _ => failure
  | steps + 1, state => do
      match ← step state with
      | (state, true) => iterateWithin step steps state
      | (state, false) => return state

/-- Repeats `step`, each time with the state it left, until it says not to go on. -/
def iterate {σ : Type} (step : σ → Reader (σ × Bool)) (state : σ) : Reader σ := do
  iterateWithin step ((← get).length + 1) state

/-- What the reader makes of a whole text, if it leaves nothing of it. -/
def all? (reader : Reader α) (text : String) : Option α :=
  match reader text.toList with
  | some (result, []) => some result
  | _ => none

end Reader

end Sift
