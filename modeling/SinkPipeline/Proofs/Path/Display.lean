import SinkPipeline.Proofs.FileTree.Making
import SinkPipeline.Proofs.Planning

/-! # Paths as reports show them

  A report shows a path by the names that lead to it from the working directory,
  if there are such names, and by its own text otherwise.  The way to any other
  path begins with double points, and a report tells the two apart by the first
  two characters of the way.

  So names that lead down are not shown if the first of them begins with two
  points: a file below the directory `..cache` is shown by its own text.  In all
  other cases they are, and lead from the working directory back to the path.
-/

namespace SinkPipeline.Path

/-! ### What two sequences begin with -/

/-- What both begin with is dropped from both, and no more of it is left. -/
theorem dropCommon_spec (as bs : List String) :
    ∃ common, as = common ++ (dropCommon as bs).1 ∧ bs = common ++ (dropCommon as bs).2 := by
  fun_induction dropCommon as bs with
  | case1 as name bs ih =>
    obtain ⟨common, has, hbs⟩ := ih
    exact ⟨name :: common, congrArg (name :: ·) has, congrArg (name :: ·) hbs⟩
  | case2 => exact ⟨[], rfl, rfl⟩
  | case3 => exact ⟨[], rfl, rfl⟩

theorem dropCommon_append (as rest : List String) : dropCommon as (as ++ rest) = ([], rest) := by
  induction as with
  | nil => cases rest <;> rfl
  | cons a as ih => rw [List.cons_append, dropCommon, if_pos rfl, ih]

/-- There is no way up just if the first sequence begins the second. -/
theorem dropCommon_eq_nil_iff {as bs : List String} :
    (dropCommon as bs).1 = [] ↔ ∃ rest, bs = as ++ rest := by
  constructor
  · intro hnil
    obtain ⟨common, has, hbs⟩ := dropCommon_spec as bs
    rw [hnil, List.append_nil] at has
    exact ⟨_, by rw [has]; exact hbs⟩
  · rintro ⟨rest, rfl⟩
    rw [dropCommon_append]

/-! ### Ways that begin with two points -/

/-- Do the names begin with two points? -/
def beginUp : List String → Bool
  | [] => false
  | name :: _ => ['.', '.'].isPrefixOf name.toList

/-- The text of names begins as the first of them does. -/
theorem isPrefixOf_toString {names : List String} (h : ∀ name ∈ names, IsPart name) :
    ['.', '.'].isPrefixOf (Path.mk .here names).toString.toList = beginUp names := by
  rcases names with - | ⟨name, - | ⟨next, more⟩⟩
  · rfl
  · have htext : (Path.mk .here [name]).toString.toList = name.toList := by
      rw [toList_toString]
      simp [anchorText]
    rw [htext]
    rfl
  · have htext : ∃ rest, (Path.mk .here (name :: next :: more)).toString.toList =
        name.toList ++ '/' :: rest := by
      rw [toList_toString]
      simp [anchorText]
    obtain ⟨rest, htext⟩ := htext
    rw [htext]
    obtain ⟨hempty, -, -⟩ := h name (by simp)
    show _ = ['.', '.'].isPrefixOf name.toList
    -- A name of one character is followed by the slash, which is no point.
    rcases hname : name.toList with - | ⟨c, - | ⟨d, cs⟩⟩
    · exact absurd (String.toList_inj.mp hname) hempty
    · simp [List.isPrefixOf]
    · simp [List.isPrefixOf]

theorem isPrefixOf_toString_up (names : List String) :
    ['.', '.'].isPrefixOf (Path.mk .here (".." :: names)).toString.toList = true := by
  rw [toList_toString]
  cases names <;> simp [anchorText]

/-! ### Relative paths -/

/-- An absolute path is the same from everywhere. -/
theorem absolute_of_isAbsolute (cwd : Path) {p : Path} (hp : p.isAbsolute = true) :
    absolute cwd p = ⟨p.anchor, collapse [] p.parts⟩ := by
  have hjoin : cwd / p = p := by
    show cwd.join p = p
    unfold join
    rw [if_pos hp]
  unfold absolute
  rw [hjoin]

/-- Names without double points lead down from a direct path. -/
theorem absolute_names {cwd : Path} (hcwd : cwd.Direct) {names : List String}
    (hnames : ".." ∉ names) : absolute cwd ⟨.here, names⟩ = cwd.below names := by
  have hjoin : cwd / (⟨.here, names⟩ : Path) = cwd.below names := rfl
  have hplain : ".." ∉ (cwd.below names).parts := by
    simp [below, hcwd.plain, hnames]
  unfold absolute
  rw [hjoin]
  simp only [collapse_of_plain hplain]
  rfl

/-- **The way to a path** is that of the names that lead down to it. -/
theorem relative_of_below {cwd : Path} (hcwd : cwd.Direct) {p : Path} {names : List String}
    (h : (absolute cwd p).parts = cwd.parts ++ names) : relative cwd cwd p = ⟨.here, names⟩ := by
  unfold relative
  rw [hcwd.absolute_eq, h, dropCommon_append]
  rfl

/-- Where no names lead down, it begins by going up. -/
theorem relative_of_not_below {cwd : Path} (hcwd : cwd.Direct) {p : Path}
    (h : ∀ names, (absolute cwd p).parts ≠ cwd.parts ++ names) :
    ∃ names, relative cwd cwd p = ⟨.here, ".." :: names⟩ := by
  have hup : (dropCommon cwd.parts (absolute cwd p).parts).1 ≠ [] := by
    intro hnil
    obtain ⟨names, hnames⟩ := dropCommon_eq_nil_iff.mp hnil
    exact h names hnames
  unfold relative
  rw [hcwd.absolute_eq]
  cases hcut : dropCommon cwd.parts (absolute cwd p).parts with
  | mk up down =>
    rw [hcut] at hup
    obtain ⟨name, up, rfl⟩ := List.exists_cons_of_ne_nil hup
    exact ⟨up.map (fun _ => "..") ++ down, rfl⟩

/-! ### Displayed paths -/

theorem display_of_isAbsolute (cwd : Path) {text : String} (h : (ofString text).isAbsolute = true) :
    display cwd text =
      if ['.', '.'].isPrefixOf (relative cwd cwd (ofString text)).toString.toList then text
      else (relative cwd cwd (ofString text)).toString := by
  have hne : text ≠ "" := by
    rintro rfl
    cases h
  unfold display
  rw [if_neg hne]

/-- The text of an absolute path begins with a slash, so no names spell it. -/
theorem ne_toString_names {text : String} (h : (ofString text).isAbsolute = true)
    {names : List String} (hnames : ∀ name ∈ names, IsPart name) :
    (Path.mk .here names).toString ≠ text := by
  rintro rfl
  rw [ofString_toString (p := ⟨.here, names⟩) hnames] at h
  cases h

section

variable {cwd : Path} {text : String} {names : List String}

/-- Names that lead down to an absolute path may stand in a path. -/
theorem isPart_of_below (hcwd : cwd.Direct)
    (hparts : (absolute cwd (ofString text)).parts = cwd.parts ++ names) :
    ∀ name ∈ names, IsPart name := by
  intro name hname
  refine (direct_absolute hcwd.wellFormed hcwd.absolute (wellFormed_ofString text)).wellFormed name ?_
  rw [hparts]
  exact List.mem_append_right _ hname

/-- Names that lead down are shown unless they begin with two points. -/
theorem display_of_below (hcwd : cwd.Direct) (htext : (ofString text).isAbsolute = true)
    (hparts : (absolute cwd (ofString text)).parts = cwd.parts ++ names) :
    display cwd text = if beginUp names = true then text else (Path.mk .here names).toString := by
  rw [display_of_isAbsolute cwd htext, relative_of_below hcwd hparts,
    isPrefixOf_toString (isPart_of_below hcwd hparts)]

/-- Where no names lead down, the path's own text is shown. -/
theorem display_of_not_below (hcwd : cwd.Direct) (htext : (ofString text).isAbsolute = true)
    (hnone : ∀ names, (absolute cwd (ofString text)).parts ≠ cwd.parts ++ names) :
    display cwd text = text := by
  obtain ⟨names, hrelative⟩ := relative_of_not_below hcwd hnone
  rw [display_of_isAbsolute cwd htext, hrelative, if_pos (isPrefixOf_toString_up names)]

/-- Only names that lead down are shown, and only if they do not begin with two
    points. -/
theorem below_of_display (hcwd : cwd.Direct) (htext : (ofString text).isAbsolute = true)
    (hnames : ∀ name ∈ names, IsPart name) (h : display cwd text = (Path.mk .here names).toString) :
    (absolute cwd (ofString text)).parts = cwd.parts ++ names ∧ beginUp names = false := by
  have hshown : display cwd text ≠ text := fun hother =>
    ne_toString_names htext hnames (h.symm.trans hother)
  by_cases hsome : ∃ others, (absolute cwd (ofString text)).parts = cwd.parts ++ others
  · obtain ⟨others, hparts⟩ := hsome
    have hdisplay := display_of_below hcwd htext hparts
    by_cases hup : beginUp others = true
    · rw [if_pos hup] at hdisplay
      exact absurd hdisplay hshown
    · -- Names with the same text are the same.
      rw [if_neg hup, h] at hdisplay
      have heq := toString_inj (p := ⟨.here, names⟩) (q := ⟨.here, others⟩) hnames
        (isPart_of_below hcwd hparts) hdisplay
      cases heq
      exact ⟨hparts, by simpa using hup⟩
  · have haway := display_of_not_below hcwd htext fun others hparts => hsome ⟨others, hparts⟩
    exact absurd haway hshown

end

/-- **Displayed paths.**  An absolute path is displayed by the names that lead to
    it from the working directory if and only if there are such names and they do
    not begin with two points; otherwise its own text is shown.  The names that
    are shown lead back to the path; where path and directory begin with the same
    number of slashes, this is the path itself. -/
theorem display_by_names_iff {cwd : Path} (hcwd : cwd.Direct) {text : String}
    (htext : (ofString text).isAbsolute = true) :
    (∀ names, (∀ name ∈ names, IsPart name) →
      (display cwd text = (Path.mk .here names).toString ↔
        (absolute cwd (ofString text)).parts = cwd.parts ++ names ∧ beginUp names = false)) ∧
    ((∀ names, (absolute cwd (ofString text)).parts = cwd.parts ++ names → beginUp names = true) →
      display cwd text = text) ∧
    ∀ names, (absolute cwd (ofString text)).parts = cwd.parts ++ names → beginUp names = false →
      absolute cwd (ofString (display cwd text)) = cwd.below names ∧
        ((ofString text).anchor = cwd.anchor →
          absolute cwd (ofString (display cwd text)) = absolute cwd (ofString text)) := by
  refine ⟨?_, ?_, ?_⟩
  · intro names hnames
    constructor
    · exact below_of_display hcwd htext hnames
    · rintro ⟨hparts, hup⟩
      rw [display_of_below hcwd htext hparts, hup]
      rfl
  · intro hall
    by_cases hsome : ∃ names, (absolute cwd (ofString text)).parts = cwd.parts ++ names
    · obtain ⟨names, hparts⟩ := hsome
      rw [display_of_below hcwd htext hparts, if_pos (hall names hparts)]
    · exact display_of_not_below hcwd htext fun names hparts => hsome ⟨names, hparts⟩
  · intro names hparts hup
    have hdirect : (absolute cwd (ofString text)).Direct :=
      direct_absolute hcwd.wellFormed hcwd.absolute (wellFormed_ofString text)
    -- No name goes up, since an absolute path has none that does.
    have hplain : ".." ∉ names := fun hmem =>
      hdirect.plain (by rw [hparts]; exact List.mem_append_right _ hmem)
    have hback : absolute cwd (ofString (display cwd text)) = cwd.below names := by
      rw [display_of_below hcwd htext hparts, if_neg (by simp [hup]),
        ofString_toString (p := ⟨.here, names⟩) (isPart_of_below hcwd hparts),
        absolute_names hcwd hplain]
    refine ⟨hback, fun hanchor => ?_⟩
    have hsame : (absolute cwd (ofString text)).anchor = (ofString text).anchor := by
      rw [absolute_of_isAbsolute cwd htext]
    rw [hback, below, ← hparts, ← hanchor, ← hsame]

/-- A directory whose reports show paths. -/
def siteDir : Path := ⟨.root, ["srv", "site"]⟩

theorem siteDir_direct : siteDir.Direct := by
  have hparts : ∀ part ∈ ["srv", "site"], IsPart part := by decide
  exact ⟨hparts, rfl, by decide⟩

theorem siteDir_display_by_names_iff :
    siteDir.Direct ∧ (ofString "/srv/site/./out/../page.sql").isAbsolute = true ∧
      display siteDir "/srv/site/./out/../page.sql" = "page.sql" ∧
      absolute siteDir (ofString "page.sql") = ⟨.root, ["srv", "site", "page.sql"]⟩ := by
  have htext : (ofString "/srv/site/./out/../page.sql").isAbsolute = true := by decide
  have hparts : (absolute siteDir (ofString "/srv/site/./out/../page.sql")).parts =
      siteDir.parts ++ ["page.sql"] := by decide
  obtain ⟨hnames, -, hback⟩ := display_by_names_iff siteDir_direct htext
  have hshown := (hnames ["page.sql"] (by decide)).mpr ⟨hparts, by decide⟩
  have hlegal : (Path.mk .here ["page.sql"]).toString = "page.sql" := by decide
  rw [hlegal] at hshown
  have hagain := (hback ["page.sql"] hparts (by decide)).1
  rw [hshown] at hagain
  exact ⟨siteDir_direct, htext, hshown, hagain⟩

/-- **Names below the directory may not be shown**: a file below `..cache` is
    displayed by its own text. -/
theorem dotted_name_not_shown :
    siteDir.Direct ∧
      absolute siteDir (ofString "/srv/site/..cache/page") = siteDir.below ["..cache", "page"] ∧
      display siteDir "/srv/site/..cache/page" = "/srv/site/..cache/page" ∧
      display siteDir "/srv/site/..cache/page" ≠ (Path.mk .here ["..cache", "page"]).toString :=
  ⟨siteDir_direct, by decide, by decide, by decide⟩

end SinkPipeline.Path
