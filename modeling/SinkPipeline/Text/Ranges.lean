/-! # Sets of code points as ranges

  A property of characters that follows a table of the Unicode standard is
  kept as closed ranges of code points in rising order.
-/

namespace SinkPipeline.Text

/-- Closed ranges of code points. -/
abbrev Ranges : Type := Array (Nat × Nat)

/-- Does one of the ranges hold the code point? -/
def Ranges.contains (rs : Ranges) (n : Nat) : Bool := rs.any fun r => r.1 ≤ n && n ≤ r.2

end SinkPipeline.Text
