import SinkPipeline.Text.Blank

/-! # Cutting text

  A text is cut in one of two ways:

  - at every **separator**, which gives one piece more than there are
    separators, and pieces may be empty;
  - into **runs**, the longest pieces without a separator, none of them empty.
-/

namespace SinkPipeline.Text

/-- The pieces of a text between its separators. -/
def cutAt (sep : Char) : List Char → List (List Char)
  | [] => [[]]
  | c :: cs =>
    if c = sep then [] :: cutAt sep cs
    else
      match cutAt sep cs with
      | [] => [[c]]
      | piece :: pieces => (c :: piece) :: pieces

/-- A character in front of a text that has been cut into runs: `acc.1` tells
    whether the first run of `acc.2` begins right here. -/
def prependToRun (isSep : Char → Bool) (c : Char) (acc : Bool × List (List Char)) :
    Bool × List (List Char) :=
  if isSep c then (false, acc.2)
  else
    match acc with
    | (true, run :: runs) => (true, (c :: run) :: runs)
    | (_, runs) => (true, [c] :: runs)

/-- The maximal runs of characters that are no separators. -/
def runsBetween (isSep : Char → Bool) (cs : List Char) : List (List Char) :=
  (cs.foldr (prependToRun isSep) (false, [])).2

/-- The words of a text between blanks. -/
def words (cs : List Char) : List (List Char) := runsBetween isBlank cs

/-- There is always a piece. -/
theorem cutAt_ne_nil (sep : Char) (cs : List Char) : cutAt sep cs ≠ [] := by
  cases cs with
  | nil => simp [cutAt]
  | cons c cs =>
    simp only [cutAt]
    split
    · simp
    · split <;> simp

end SinkPipeline.Text
