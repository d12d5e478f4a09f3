/-! # Environments

  An environment gives variables values.  The environment of a process is made
  of three **layers**: that of the parent, if it is inherited, then the overlay
  that a plan projects onto all its processes, then the stage's own entries.  A
  later layer wins.
-/

namespace SinkPipeline

/-- Variables with their values, each variable at most once. -/
abbrev Env : Type := List (String × String)

namespace Env

/-- The value of a variable. -/
def get? : Env → String → Option String
  | [], _ => none
  | (n, v) :: rest, name => if n = name then some v else get? rest name

/-- Give a variable a value: in its place if it is there, else at the end. -/
def set : Env → String → String → Env
  | [], name, v => [(name, v)]
  | (n, w) :: rest, name, v => if n = name then (n, v) :: rest else (n, w) :: set rest name v

/-- Set every variable of the second, in order. -/
def override (env more : Env) : Env := more.foldl (fun acc p => acc.set p.1 p.2) env

/-- The environment of a process. -/
def layered (parent overlay own : Env) (inherit : Bool) : Env :=
  ((if inherit then parent else []).override overlay).override own

/-! ### Laws -/

theorem get?_set (env : Env) (name other v : String) :
    (env.set name v).get? other = if other = name then some v else env.get? other := by
  induction env with
  | nil => simp [set, get?, eq_comm]
  | cons p env ih =>
    obtain ⟨n, w⟩ := p
    by_cases hn : n = name
    · subst hn
      by_cases ho : n = other
      · simp [set, get?, ho]
      · simp [set, get?, ho, Ne.symm ho]
    · by_cases ho : n = other
      · subst ho
        simp [set, get?, hn]
      · simp [set, get?, hn, ho, ih]

end Env

end SinkPipeline
