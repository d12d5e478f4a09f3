import SinkPipeline.Proofs.Json.Writing
import SinkPipeline.Proofs.Planning

/-! # What the processes of a pass are told

  The context of a pass is one variable of every process.  Its value is JSON in
  printable ASCII, so it can be handed over whatever the options hold; and what
  is decoded from it is the context, member for member.

  One thing only can be lost: two halves of a surrogate pair that stand next to
  each other are decoded as the character that they make up.
-/

namespace SinkPipeline

namespace RunOptions

/-- The strings of which the context is made. -/
def texts (o : RunOptions) : List String :=
  [o.mode, o.onError] ++ o.roots.map (·.toString) ++ o.includes ++ o.excludes ++
    o.searchDirs.map (·.toString)

/-- Does no string of the context hold two halves of a pair next to each other? -/
def Unpaired (o : RunOptions) : Prop := ∀ s ∈ o.texts, (Text.ofHeld s).Unpaired

instance (o : RunOptions) : Decidable o.Unpaired :=
  inferInstanceAs (Decidable (∀ s ∈ o.texts, (Text.ofHeld s).Unpaired))

/-- Options of characters alone hold no halves at all. -/
theorem unpaired_of_characters {o : RunOptions}
    (h : ∀ s ∈ o.texts, ∀ p ∈ Text.ofHeld s, p.isSurrogate = false) : o.Unpaired :=
  fun s hs => Text.unpaired_of_characters (h s hs)

/-- The names of the members of the context. -/
def contextNames : List String := ["mode", "roots", "include", "exclude", "search_dirs", "on_error"]

/-- **The context is read back.** -/
theorem sameMembers_context {o : RunOptions} (h : o.Unpaired) :
    Json.SameMembers (Json.held (Json.reread o.context)) o.context := by
  simp only [Unpaired, texts, List.mem_append, or_imp, forall_and] at h
  obtain ⟨⟨⟨⟨hwords, hroots⟩, hincludes⟩, hexcludes⟩, hsearchDirs⟩ := h
  have hdistinct : contextNames.Nodup := by decide
  have hnames : ∀ name ∈ contextNames, (Text.ofHeld name).Unpaired := by decide
  refine Json.sameMembers_reread hdistinct hnames fun m hm => ?_
  simp only [List.mem_cons, List.not_mem_nil, or_false] at hm
  rcases hm with rfl | rfl | rfl | rfl | rfl | rfl
  · exact Json.held_reread_str (hwords _ (by simp))
  · exact Json.held_reread_strings hroots
  · exact Json.held_reread_strings hincludes
  · exact Json.held_reread_strings hexcludes
  · exact Json.held_reread_strings hsearchDirs
  · exact Json.held_reread_str (hwords _ (by simp))

end RunOptions

namespace Pass

/-- Options with quotes, backslashes, control characters, a character outside the
    basic plane, and a byte that is no UTF-8. -/
def awkwardOptions : RunOptions where
  roots := [.ofString "/say \"so\"", .ofString "/back\\slash"]
  includes := ["\x00\x01\t\n\x7f", "é😀.*"]
  excludes := [Text.hold [.scalar 'x', .surrogate 0x480]]

/-- A sink in a pass with these options. -/
def awkwardSink : FileSink where
  key := "/say \"so\"/x.txt.sh"
  spec := ⟨.ofString "/say \"so\"", [], []⟩
  item := ⟨.ofString "/say \"so\"/x.txt.sh", "x.txt.sh", false⟩
  name := "x.txt.sh"
  parsed := { basename := "x", nature := "txt", isMulti := false, domain := "sh" }
  payload := some "x.txt.sh"

end Pass

end SinkPipeline
