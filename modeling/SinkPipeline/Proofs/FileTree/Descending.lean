import SinkPipeline.Proofs.FileTree.Alike
import SinkPipeline.Proofs.FileTree.Making

/-! # Names that stay below a directory

  A name goes one directory down, double points go one up.  Some names **stay
  below** the directory that they are followed from if they never go above it
  and end further down.  This is told by counting, and then the place that they
  spell is strictly below the directory.

  Names that do not stay below may end there all the same, since they may leave
  the directory and come back.  They come back only by its last name.

  Without links, following names in a tree is nothing but reading their text.
-/

namespace SinkPipeline

namespace Path

/-! ### Double points resolved by text -/

theorem collapse_append (acc names rest : List String) :
    collapse acc (names ++ rest) = collapse (collapse acc names).reverse rest := by
  fun_induction collapse acc names with
  | case1 acc => rw [List.nil_append, List.reverse_reverse]
  | case2 acc names ih => rw [List.cons_append, collapse, ih]
  | case3 acc name names hname ih =>
    rw [List.cons_append, collapse]
    · exact ih
    · exact hname

/-- A last name that does not go up is the last one of the place. -/
theorem collapse_concat (acc names : List String) {name : String} (hname : name ≠ "..") :
    collapse acc (names ++ [name]) = collapse acc names ++ [name] := by
  rw [collapse_append, collapse, collapse, List.reverse_cons, List.reverse_reverse]
  exact hname

/-- A name that is neither among some names nor deep in a place is not deep in the
    place that the names lead to. -/
theorem not_mem_drop_collapse {last : String} {depth : Nat} {acc names : List String}
    (hacc : last ∉ acc.reverse.drop depth) (hnames : last ∉ names) :
    last ∉ (collapse acc names).drop depth := by
  fun_induction collapse acc names with
  | case1 acc => exact hacc
  | case2 acc names ih =>
    refine ih (fun hmem => hacc ?_) (List.not_mem_of_not_mem_cons hnames)
    rw [← List.dropLast_reverse] at hmem
    exact ((List.dropLast_sublist acc.reverse).drop depth).subset hmem
  | case3 acc name names _ ih =>
    refine ih (fun hmem => ?_) (List.not_mem_of_not_mem_cons hnames)
    rw [List.reverse_cons, List.drop_append] at hmem
    rcases List.mem_append.mp hmem with hmem | hmem
    · exact hacc hmem
    · have hlast := List.mem_singleton.mp (List.mem_of_mem_drop hmem)
      exact hnames (by simp [hlast])

end Path

namespace Place

/-! ### Strictly below -/

/-- Is the place below another one, and not that one itself? -/
def StrictlyBelow (top p : Place) : Prop := top <+: p ∧ p ≠ top

instance (top p : Place) : Decidable (StrictlyBelow top p) :=
  inferInstanceAs (Decidable (_ ∧ _))

theorem strictlyBelow_append {top rest : Place} (h : rest ≠ []) : StrictlyBelow top (top ++ rest) :=
  ⟨List.prefix_append _ _, by simpa using h⟩

/-- **Do some names stay below** the directory that they are followed from, when
    `depth` names have been followed already? -/
def staysBelow : Nat → List String → Bool
  | depth, [] => decide (0 < depth)
  | depth, name :: rest =>
    if name = ".." then decide (0 < depth) && staysBelow (depth - 1) rest
    else staysBelow (depth + 1) rest

/-- **Names that stay below a directory** lead strictly below it. -/
theorem strictlyBelow_collapse (acc : List String) {top names : List String}
    (h : staysBelow acc.length names = true) :
    StrictlyBelow top (Path.collapse (acc ++ top.reverse) names) := by
  generalize hdepth : acc.length = depth at h
  -- `acc` is what has been followed below the directory, last name first.
  fun_induction staysBelow depth names generalizing acc with
  | case1 depth =>
    have hacc : acc.reverse ≠ [] := by
      rw [decide_eq_true_eq, ← hdepth] at h
      simpa using List.ne_nil_of_length_pos h
    rw [Path.collapse, List.reverse_append, List.reverse_reverse]
    exact strictlyBelow_append hacc
  | case2 depth rest ih =>
    rw [Bool.and_eq_true, decide_eq_true_eq, ← hdepth] at h
    rw [Path.collapse]
    cases acc with
    | nil => exact absurd h.1 (Nat.lt_irrefl 0)
    | cons _ acc => exact ih acc (by simp [← hdepth]) (hdepth ▸ h.2)
  | case3 depth name rest hname ih =>
    rw [Path.collapse]
    · exact ih (name :: acc) (congrArg (· + 1) hdepth) h
    · exact hname

/-- **Only names that stay below a directory** lead strictly below it, if its last
    name is none of them. -/
theorem staysBelow_of_collapse (acc : List String) {front names : List String} {last : String}
    (hlast : last ∉ names)
    (h : StrictlyBelow (front ++ [last]) (Path.collapse (acc ++ (front ++ [last]).reverse) names)) :
    staysBelow acc.length names = true := by
  generalize hdepth : acc.length = depth
  fun_induction staysBelow depth names generalizing acc with
  | case1 depth =>
    rw [decide_eq_true_eq, ← hdepth, List.length_pos_iff]
    rintro rfl
    rw [List.nil_append, Path.collapse, List.reverse_reverse] at h
    exact h.2 rfl
  | case2 depth rest ih =>
    have hrest := List.not_mem_of_not_mem_cons hlast
    rw [Path.collapse] at h
    cases acc with
    | nil =>
      -- The directory is left, so its last name is gone for good.
      have hgone : last ∉ ((([] ++ (front ++ [last]).reverse).tail).reverse).drop front.length := by
        simp
      obtain ⟨below, hplace⟩ := h.1
      refine absurd ?_ (Path.not_mem_drop_collapse hgone hrest)
      rw [← hplace, List.append_assoc, List.drop_left]
      simp
    | cons _ acc =>
      rw [Bool.and_eq_true, decide_eq_true_eq, ← hdepth]
      exact ⟨Nat.succ_pos _, hdepth ▸ ih acc hrest h (by simp [← hdepth])⟩
  | case3 depth name rest hname ih =>
    rw [Path.collapse] at h
    · exact ih (name :: acc) (List.not_mem_of_not_mem_cons hlast) h
        (congrArg (· + 1) hdepth)
    · exact hname

end Place

namespace Tree

/-! ### Following names without links -/

/-- **Without links, names lead where their text says.** -/
theorem Leads.eq_collapse {t : Tree} (ht : t.Linkless) {links left : Nat} {start dir : Place}
    {names : List String} (h : t.Leads links start names left dir) :
    dir = Path.collapse start.reverse names := by
  induction h with
  | here => rw [Path.collapse, List.reverse_reverse]
  | up _ ih => rw [ih, Path.collapse, List.tail_reverse]
  | down hname _ _ _ ih =>
    rw [ih, Path.collapse, List.reverse_append, List.reverse_singleton, List.singleton_append]
    exact hname
  | across _ _ hget => exact absurd hget (ht _ _)

/-- Directories that are added are no links. -/
theorem AddsDirs.linkless {t t' : Tree} (h : t.AddsDirs t') (ht : t.Linkless) : t'.Linkless := by
  intro p target hlink
  rcases h p with hsame | ⟨-, hdir⟩
  · exact ht p target (hsame ▸ hlink)
  · rw [hdir] at hlink
    cases hlink

/-- A file that is put is no link. -/
theorem Linkless.put_file {t : Tree} (ht : t.Linkless) {p : Place} (f : File) (hp : p ≠ []) :
    (t.put p (.file f)).Linkless := by
  intro q target hlink
  by_cases hq : q = p
  · rw [hq, get?_put_self t _ hp] at hlink
    cases hlink
  · rw [get?_put_of_ne t _ hq] at hlink
    exact ht q target hlink

end Tree

end SinkPipeline
