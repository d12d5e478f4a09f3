import SinkPipeline.Proofs.Path
import SinkPipeline.Proofs.SinkName.Grammar

/-! # The parts of a sink's name

  Every part of a sink's name is made of characters of the name.  So what can
  be said of the characters of the name can be said of its stage tokens, and of
  the name of the file that it writes.

  The latter is that of a generated file: its three parts are the basename,
  which holds no point, `auto`, and the nature, which is a word.
-/

namespace SinkPipeline

namespace SinkName

/-! ### The parts -/

/-- The parts are spelled by characters of the name. -/
structure SpelledBy (name : String) (n : SinkName) : Prop where
  /-- There is a basename. -/
  basename_ne : n.basename ≠ ""
  /-- It holds no point. -/
  basename : ∀ c ∈ n.basename.toList, c ∈ name.toList ∧ c ≠ '.'
  /-- The nature is a word. -/
  nature : ∀ c ∈ n.nature.toList, c ∈ name.toList ∧ isWordChar c = true
  /-- Stage tokens hold what the name holds. -/
  tokens : ∀ token ∈ n.preStages ++ n.postStages, token.toList ⊆ name.toList

/-- What stands in a bracket is part of what the bracket spells. -/
theorem subset_bracketText {b : Option (List Char)} {block : List Char} (h : b = some block) :
    block ⊆ bracketText b := by
  intro c hc
  simp [h, bracketText, hc]

/-- The tokens of a bracket are made of its characters. -/
theorem TokensOf.subset {tokens : List String} {b : Option (List Char)} (h : TokensOf tokens b) :
    ∀ token ∈ tokens, token.toList ⊆ bracketText b := by
  intro token htoken
  cases b with
  | none =>
    rw [show tokens = [] from h] at htoken
    cases htoken
  | some block =>
    have hspaced : Text.Spaced isSeparator block (tokens.map String.toList) := h
    exact List.Subset.trans (hspaced.subset _ (List.mem_map_of_mem htoken)) (subset_bracketText rfl)

/-- **The parts of a sink's name** are spelled by its characters. -/
theorem spelledBy_of_parse? {name : String} {n : SinkName} (h : parse? name = some n) :
    SpelledBy name n := by
  obtain ⟨r, hvalid, htext, hmeans⟩ := Layout.exists_of_ofChars? h
  -- Each part of the layout stands in the name.
  have hbasename : r.basename ⊆ name.toList := by
    intro c hc
    simp [← htext, Layout.text, hc]
  have hnature : r.nature ⊆ name.toList := by
    intro c hc
    simp [← htext, Layout.text, Layout.afterBasename, hc]
  have hpre : bracketText r.pre ⊆ name.toList := by
    intro c hc
    simp [← htext, Layout.text, Layout.afterBasename, hc]
  have hpost : bracketText r.post ⊆ name.toList := by
    intro c hc
    simp [← htext, Layout.text, Layout.afterBasename, Layout.tail, hc]
  refine ⟨?_, ?_, ?_, ?_⟩
  · intro hempty
    refine hvalid.basename_ne ?_
    rw [← hmeans.basename, hempty]
    rfl
  · intro c hc
    rw [hmeans.basename] at hc
    refine ⟨hbasename hc, ?_⟩
    rintro rfl
    exact hvalid.basename hc
  · intro c hc
    rw [hmeans.nature] at hc
    exact ⟨hnature hc, hvalid.nature.all c hc⟩
  · intro token htoken
    rcases List.mem_append.mp htoken with hmem | hmem
    · exact List.Subset.trans (hmeans.preStages.subset token hmem) hpre
    · exact List.Subset.trans (hmeans.postStages.subset token hmem) hpost

/-- **No name that begins with a point** is a sink's: there is no basename. -/
theorem parse?_eq_none_of_point {name : String} {cs : List Char} (h : name.toList = '.' :: cs) :
    parse? name = none := by
  have hbasename : ('.' :: cs).takeWhile (· != '.') = [] := rfl
  unfold parse? ofChars?
  rw [h, hbasename]
  rfl

variable {name : String} {n : SinkName}

theorem toList_outputName (n : SinkName) :
    n.outputName.toList = n.basename.toList ++ '.' :: (['a', 'u', 't', 'o'] ++ '.' :: n.nature.toList) := by
  have hauto : ".auto.".toList = '.' :: (['a', 'u', 't', 'o'] ++ ['.']) := by decide
  unfold outputName
  rw [String.toList_append, String.toList_append, hauto]
  simp

/-- **A sink writes a generated file.** -/
theorem SpelledBy.isGenerated_outputName (h : SpelledBy name n) :
    isGenerated n.outputName = true := by
  have hbasename : '.' ∉ n.basename.toList := fun hmem => (h.basename '.' hmem).2 rfl
  have hauto : '.' ∉ ['a', 'u', 't', 'o'] := by decide
  have hnature : '.' ∉ n.nature.toList := by
    intro hmem
    have hword := (h.nature '.' hmem).2
    revert hword
    decide
  unfold isGenerated
  rw [toList_outputName, Text.cutAt_append hbasename, Text.cutAt_append hauto,
    Text.cutAt_of_not_mem hnature]
  rfl

/-- The name of that file can be a part of a path, as the sink's own can. -/
theorem SpelledBy.isPart_outputName (h : SpelledBy name n) (hname : Path.IsPart name) :
    Path.IsPart n.outputName ∧ n.outputName ≠ ".." := by
  -- With `auto` and two points in it, it is too long for an empty name, `.` or `..`.
  have hlong : 6 ≤ n.outputName.toList.length := by
    rw [toList_outputName]
    simp only [List.length_append, List.length_cons]
    omega
  refine ⟨⟨?_, ?_, ?_⟩, ?_⟩
  · intro hsame
    rw [hsame] at hlong
    revert hlong
    decide
  · intro hsame
    rw [hsame] at hlong
    revert hlong
    decide
  · intro hmem
    rw [toList_outputName] at hmem
    rcases List.mem_append.mp hmem with hbasename | hrest
    · exact hname.2.2 (h.basename _ hbasename).1
    rcases List.mem_cons.mp hrest with hpoint | hrest
    · cases hpoint
    rcases List.mem_append.mp hrest with hauto | hrest
    · revert hauto
      decide
    rcases List.mem_cons.mp hrest with hpoint | hnature
    · cases hpoint
    · exact hname.2.2 (h.nature _ hnature).1
  · intro hsame
    rw [hsame] at hlong
    revert hlong
    decide

end SinkName

end SinkPipeline
