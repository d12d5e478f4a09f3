import SinkPipeline.Proofs.Base64
import SinkPipeline.Proofs.Json.Fields
import SinkPipeline.Proofs.Json.Spelling
import SinkPipeline.Proofs.Output.ManyFiles
import SinkPipeline.Proofs.Text.Utf8

/-! # Records on lines

  A file can be written as a record in many ways: its bytes in base64 or, if
  they are UTF-8, as text, its members in any order and among others, and the
  object in any spelling.  However it is written, the line stands for itself
  between line feeds, and asks for just that file.
-/

namespace SinkPipeline

namespace Json

/-! ### Spellings stay on their line -/

theorem isSome_hexValue?_ne_newline {d : Char} (h : (Text.hexValue? d).isSome) : d ≠ '\n' := by
  rintro rfl
  cases h

theorem SpellsNumber.newline_not_mem {n : Nat} {ds : List Char} (h : SpellsNumber n ds) :
    '\n' ∉ ds := fun hmem => isSome_hexValue?_ne_newline (h.digits _ hmem) rfl

theorem SpellsPoint.newline_not_mem {p : Text.CodePoint} {piece : List Char}
    (h : SpellsPoint p piece) : '\n' ∉ piece := by
  cases h with
  | raw _ _ hcontrol =>
    rw [List.mem_singleton]
    rintro rfl
    exact absurd hcontrol (by decide)
  | short h =>
    simp only [List.mem_cons, List.not_mem_nil, or_false, not_or]
    refine ⟨by decide, ?_⟩
    rintro rfl
    cases h
  | number h => simp [h.newline_not_mem]
  | pair _ hhigh hlow => simp [hhigh.newline_not_mem, hlow.newline_not_mem]
  | half h => simp [h.newline_not_mem]

theorem Spells.newline_not_mem {t : Text} {body : List Char} (h : Spells t body) :
    '\n' ∉ body := by
  induction h with
  | nil => simp
  | cons first _ ih => simp [first.newline_not_mem, ih]

theorem IsGap.newline_not_mem {g : List Char} (h : IsGap g) : '\n' ∉ g := by
  intro hmem
  rcases h _ hmem with h | h | h <;> cases h

theorem SpellsValue.newline_not_mem {v : MemberValue} {text : List Char} (h : SpellsValue v text) :
    '\n' ∉ text := by
  cases h with
  | text h => simp [h.newline_not_mem]
  | null => decide

theorem SpellsMember.newline_not_mem {m : Text × MemberValue} {text : List Char}
    (h : SpellsMember m text) : '\n' ∉ text := by
  cases h with
  | mk hname hvalue h₁ h₂ h₃ h₄ =>
    simp [hname.newline_not_mem, hvalue.newline_not_mem, h₁.newline_not_mem, h₂.newline_not_mem,
      h₃.newline_not_mem, h₄.newline_not_mem]

theorem SpellsMembers.newline_not_mem {ms : List (Text × MemberValue)} {text : List Char}
    (h : SpellsMembers ms text) : '\n' ∉ text := by
  induction h with
  | last h => exact h.newline_not_mem
  | cons first _ ih => simp [first.newline_not_mem, ih]

theorem SpellsObject.newline_not_mem {ms : List (Text × MemberValue)} {line : List Char}
    (h : SpellsObject ms line) : '\n' ∉ line := by
  cases h with
  | mk h => simp [h.newline_not_mem]

/-- An object has no blanks at its ends. -/
theorem SpellsObject.stripBlanks {ms : List (Text × MemberValue)} {line : List Char}
    (h : SpellsObject ms line) : Text.stripBlanks line = line := by
  cases h with
  | @mk text h =>
    have hopen : Text.isBlank '\x7b' = false := by decide
    have hclose : Text.isBlank '\x7d' = false := by decide
    unfold Text.stripBlanks
    rw [List.cons_append, List.dropWhile_cons_of_neg (by simp [hopen])]
    simp [hclose]

end Json

namespace Record

open Json (MemberValue SpellsObject)

/-! ### Records -/

/-- **How bytes are held in a record**: the text of its content, and the member
    that tells the encoding, if there is one. -/
inductive Encodes (bytes : Bytes) : Text → List (Text × MemberValue) → Prop where
  /-- In base64. -/
  | base64 :
      Encodes bytes ((Base64.encode bytes).map .scalar)
        [(Text.ofString "encoding", .text (Text.ofString "base64"))]
  /-- As text, if they are the UTF-8 of one. -/
  | text {cs : List Char} (h : Text.Utf8.encodeChars cs = bytes) :
      Encodes bytes (cs.map .scalar) []
  /-- As text, with the encoding left open. -/
  | textNull {cs : List Char} (h : Text.Utf8.encodeChars cs = bytes) :
      Encodes bytes (cs.map .scalar) [(Text.ofString "encoding", .null)]

/-- **The lines that a file is written on** as a record: the members may be in
    any order, and there may be others whose values are strings. -/
inductive SpellsFile (path : String) (bytes : Bytes) : List Char → Prop where
  | mk {content : Text} {encoding others ms : List (Text × MemberValue)} {line : List Char}
      (hcontent : Encodes bytes content encoding)
      (hothers : ∀ m ∈ others, m.1 ∉ [Text.ofString "path", Text.ofString "content",
        Text.ofString "encoding"] ∧ ∃ t, m.2 = .text t)
      (hmembers : ms.Perm ((Text.ofString "path", .text (Text.ofString path)) ::
        (Text.ofString "content", .text content) :: (encoding ++ others)))
      (hline : SpellsObject ms line) : SpellsFile path bytes line

/-- The shortest line of a file of text, if nothing has to be escaped. -/
def rawLine (path content : List Char) : List Char :=
  '\x7b' :: (Json.rawMember "path".toList path ++ ',' :: Json.rawMember "content".toList content) ++
    ['\x7d']

theorem spellsFile_rawLine {path content : List Char} (hpath : ∀ c ∈ path, Json.IsRaw c)
    (hcontent : ∀ c ∈ content, Json.IsRaw c) :
    SpellsFile (String.ofList path) (Text.Utf8.encodeChars content) (rawLine path content) := by
  have hpathName : ∀ c ∈ "path".toList, Json.IsRaw c := Json.isRaw_of_all (by decide)
  have hcontentName : ∀ c ∈ "content".toList, Json.IsRaw c := Json.isRaw_of_all (by decide)
  have hfirst := Json.spellsMember_raw hpathName hpath
  have hsecond := Json.spellsMember_raw hcontentName hcontent
  refine @SpellsFile.mk _ _ _ _ [] _ _ (.text rfl) (by simp) ?_ (.mk (.cons hfirst (.last hsecond)))
  simp [Text.ofString]

section

variable {ms : List (Text × MemberValue)} {name : String} {v : MemberValue}

theorem basic_of_all (h : name.toList.all (fun c => decide (c.toNat < 0x10000)) = true) :
    ∀ c ∈ name.toList, c.toNat < 0x10000 := by simpa using h

/-- The name that a member of the basic plane is read under is its own. -/
theorem hold_joined_eq_iff {t : Text} (hbasic : ∀ c ∈ name.toList, c.toNat < 0x10000) :
    Text.hold t.joined = name ↔ t = Text.ofString name := by
  refine ⟨Text.eq_of_hold_joined hbasic, ?_⟩
  rintro rfl
  rw [Text.ofString, Text.joined_scalars, Text.hold_scalars, String.ofList_toList]

/-- What is read under a name that one member has. -/
theorem get?_of_mem (hbasic : ∀ c ∈ name.toList, c.toNat < 0x10000)
    (hmem : (Text.ofString name, v) ∈ ms)
    (hall : ∀ m ∈ ms, m.1 = Text.ofString name → m.2 = v) :
    (Fields.ofPairs (ms.map fun m => (Text.hold m.1.joined, m.2.json))).get? name =
      some v.json := by
  refine Fields.get?_update_of_mem ?_ ?_
  · refine List.mem_map.2 ⟨_, hmem, ?_⟩
    rw [(hold_joined_eq_iff hbasic).2 rfl]
  · intro p hp hname
    obtain ⟨m, hm, rfl⟩ := List.mem_map.1 hp
    rw [hall m hm ((hold_joined_eq_iff hbasic).1 hname)]

/-- What is read under a name that no member has. -/
theorem get?_of_not_mem (hbasic : ∀ c ∈ name.toList, c.toNat < 0x10000)
    (hnone : ∀ m ∈ ms, m.1 ≠ Text.ofString name) :
    (Fields.ofPairs (ms.map fun m => (Text.hold m.1.joined, m.2.json))).get? name = none := by
  refine Fields.get?_update_of_ne ?_
  intro p hp hname
  obtain ⟨m, hm, rfl⟩ := List.mem_map.1 hp
  exact hnone m hm ((hold_joined_eq_iff hbasic).1 hname)

/-- What is read under the name of a member, if its name is that of no other. -/
theorem get?_of_perm {own others : List (Text × MemberValue)} (hperm : ms.Perm (own ++ others))
    (hnodup : (own.map Prod.fst).Nodup) (hothers : ∀ m ∈ others, m.1 ∉ own.map Prod.fst)
    (hbasic : ∀ c ∈ name.toList, c.toNat < 0x10000) (hown : (Text.ofString name, v) ∈ own) :
    (Fields.ofPairs (ms.map fun m => (Text.hold m.1.joined, m.2.json))).get? name =
      some v.json := by
  refine get?_of_mem hbasic (hperm.mem_iff.2 (by simp [hown])) fun m hm hname => ?_
  rcases List.mem_append.1 (hperm.mem_iff.1 hm) with hmem | hmem
  · exact congrArg Prod.snd (List.inj_on_of_nodup_map hnodup hmem hown hname)
  · exact absurd (hname ▸ List.mem_map_of_mem hown) (hothers m hmem)

/-- A string of characters is read as it is. -/
theorem json_text_scalars (cs : List Char) :
    (MemberValue.text (cs.map .scalar)).json = .str (String.ofList cs) := by
  have hstring : Text.toString? (cs.map Text.CodePoint.scalar) = some (String.ofList cs) := by
    rw [Text.toString?, Text.toChars?_map_scalar]
    rfl
  rw [MemberValue.json, Text.joined_scalars, Json.ofText, hstring]

/-- A record is read from its three members. -/
theorem ofJson_of_members {fs : Fields} {path content : List Char} {encoding : Option Text}
    (hpath : fs.get? "path" = some (.str (String.ofList path)))
    (hcontent : fs.get? "content" = some (.str (String.ofList content)))
    (hencoding : fs.get? "encoding" = none ∧ encoding = none ∨
      fs.get? "encoding" = some .null ∧ encoding = none ∨
      ∃ e, fs.get? "encoding" = some (.str e) ∧ encoding = some (Text.ofString e)) :
    ofJson (.obj fs) = .ok ⟨path.map .scalar, content.map .scalar, encoding⟩ := by
  have htext : ∀ cs : List Char, Text.ofString (String.ofList cs) = cs.map .scalar := by
    intro cs
    rw [Text.ofString, String.toList_ofList]
  rcases hencoding with ⟨h, rfl⟩ | ⟨h, rfl⟩ | ⟨e, h, rfl⟩ <;>
    simp [ofJson, errorsOf, Json.members?, Json.member?, hpath, hcontent, h, stringError,
      optionalStringError, Json.text?, htext]

/-- A text of characters is encoded. -/
theorem encodeText_scalars (cs : List Char) :
    encodeText (cs.map .scalar) = .ok (Text.Utf8.encodeChars cs) := by
  have hnone : Fault.ofSurrogates? (fun _ => true) (cs.map Text.CodePoint.scalar) = none := by
    unfold Fault.ofSurrogates? Text.findSurrogate?
    rw [Option.map_map, Option.map_eq_none_iff, List.find?_eq_none]
    intro q hq
    have hmem := List.fst_mem_of_mem_zipIdx hq
    obtain ⟨c, -, hc⟩ := List.mem_map.1 hmem
    simp [← hc, Text.CodePoint.isSurrogate]
  have hchars : (cs.map Text.CodePoint.scalar).filterMap Text.CodePoint.scalar? = cs := by
    have hsome : Text.CodePoint.scalar? ∘ Text.CodePoint.scalar = some := rfl
    rw [List.filterMap_map, hsome, List.filterMap_some]
  rw [encodeText, hnone, hchars]

end

/-- The names of the members of a file: that of the encoding may be missing. -/
theorem Encodes.names_sublist {bytes : Bytes} {content : Text} {encoding : List (Text × MemberValue)}
    (h : Encodes bytes content encoding) (path : MemberValue) :
    (((Text.ofString "path", path) :: (Text.ofString "content", .text content) :: encoding).map
      Prod.fst).Sublist
      [Text.ofString "path", Text.ofString "content", Text.ofString "encoding"] := by
  cases h with
  | base64 => exact List.Sublist.refl _
  | text _ => exact ((List.nil_sublist _).cons_cons _).cons_cons _
  | textNull _ => exact List.Sublist.refl _

/-- **A record of the bytes** is what is read where these fields are looked up. -/
theorem Encodes.exists_record {bytes : Bytes} {content : Text} {encoding : List (Text × MemberValue)}
    (h : Encodes bytes content encoding) {path : String} {fs : Fields}
    (hpath : fs.get? "path" = some (MemberValue.text (Text.ofString path)).json)
    (hcontent : fs.get? "content" = some (MemberValue.text content).json)
    (hencoding : ∀ v, (Text.ofString "encoding", v) ∈ encoding → fs.get? "encoding" = some v.json)
    (hnone : encoding = [] → fs.get? "encoding" = none) :
    ∃ r, ofJson (.obj fs) = .ok r ∧ r.pathText = path ∧ r.decode = .ok bytes := by
  have hpathText : Text.hold (path.toList.map .scalar) = path := by
    rw [Text.hold_scalars, String.ofList_toList]
  rw [Text.ofString, json_text_scalars] at hpath
  cases h with
  | base64 =>
    have he := hencoding (.text (Text.ofString "base64")) (by simp)
    rw [Text.ofString, json_text_scalars, String.ofList_toList] at he
    rw [json_text_scalars] at hcontent
    refine ⟨_, ofJson_of_members hpath hcontent (.inr (.inr ⟨_, he, rfl⟩)), hpathText, ?_⟩
    have hword : some (Text.ofString "base64") = some base64Word := rfl
    rw [decode, if_pos hword]
    dsimp only
    rw [Base64.decode_encode]
  | text hbytes =>
    rw [json_text_scalars] at hcontent
    refine ⟨_, ofJson_of_members hpath hcontent (.inl ⟨hnone rfl, rfl⟩), hpathText, ?_⟩
    rw [decode, if_neg (by simp), encodeText_scalars, hbytes]
  | textNull hbytes =>
    have he := hencoding .null (by simp)
    rw [json_text_scalars] at hcontent
    refine ⟨_, ofJson_of_members hpath hcontent (.inr (.inl ⟨he, rfl⟩)), hpathText, ?_⟩
    rw [decode, if_neg (by simp), encodeText_scalars, hbytes]

/-- **A file is read back from its line.** -/
theorem ofLine_of_spellsFile {path : String} {bytes : Bytes} {line : List Char}
    (h : SpellsFile path bytes line) :
    ∃ r : Record, ofLine (String.ofList line) = .ok (some r) ∧ r.pathText = path ∧
      r.decode = .ok bytes := by
  cases h with
  | @mk content encoding others ms _ hcontent hothers hmembers hline =>
    have hsublist := hcontent.names_sublist (.text (Text.ofString path))
    have hnodup := hsublist.nodup (by decide)
    -- No other member has one of the three names, so a look-up finds what was spelled.
    have hapart : ∀ m ∈ others, m.1 ∉ ((Text.ofString "path", .text (Text.ofString path)) ::
        (Text.ofString "content", .text content) :: encoding).map Prod.fst :=
      fun m hm hname => (hothers m hm).1 (hsublist.subset hname)
    have hpath : (Fields.ofPairs (ms.map fun m => (Text.hold m.1.joined, m.2.json))).get? "path" =
        some (MemberValue.text (Text.ofString path)).json :=
      get?_of_perm hmembers hnodup hapart (basic_of_all (by decide)) (by simp)
    have hbody : (Fields.ofPairs (ms.map fun m => (Text.hold m.1.joined, m.2.json))).get? "content" =
        some (MemberValue.text content).json :=
      get?_of_perm hmembers hnodup hapart (basic_of_all (by decide)) (by simp)
    have hencoding : ∀ v, (Text.ofString "encoding", v) ∈ encoding →
        (Fields.ofPairs (ms.map fun m => (Text.hold m.1.joined, m.2.json))).get? "encoding" =
          some v.json :=
      fun v hv => get?_of_perm hmembers hnodup hapart (basic_of_all (by decide)) (by simp [hv])
    have hnone : encoding = [] →
        (Fields.ofPairs (ms.map fun m => (Text.hold m.1.joined, m.2.json))).get? "encoding" =
          none := by
      rintro rfl
      refine get?_of_not_mem (basic_of_all (by decide)) fun m hm hname => ?_
      have hmem := hmembers.mem_iff.1 hm
      rw [List.nil_append, List.mem_cons, List.mem_cons] at hmem
      rcases hmem with rfl | rfl | hother
      · exact absurd hname (by decide : Text.ofString "path" ≠ Text.ofString "encoding")
      · exact absurd hname (by decide : Text.ofString "content" ≠ Text.ofString "encoding")
      · exact (hothers m hother).1 (by simp [hname])
    obtain ⟨r, hread, hpathText, hdecode⟩ := hcontent.exists_record hpath hbody hencoding hnone
    refine ⟨r, ?_, hpathText, hdecode⟩
    rw [ofLine, Json.read_object hline]
    dsimp only
    rw [hread]
    rfl

end Record

namespace Materialize

/-- **What the line of a file asks for** is to write the file. -/
theorem asked_of_spellsFile {path : String} {bytes : Bytes} {line : List Char}
    (h : Record.SpellsFile path bytes line) (base : Path) :
    asked base line = .writing (Record.target base path) bytes := by
  obtain ⟨r, hline, hpath, hdecode⟩ := Record.ofLine_of_spellsFile h
  cases h with
  | mk _ _ _ hobject =>
    unfold asked
    rw [hobject.stripBlanks]
    cases hobject with
    | mk _ =>
      rw [List.cons_append] at hline ⊢
      dsimp only
      rw [hline]
      dsimp only
      rw [hdecode, hpath]

/-- The line of a file stays on its line. -/
theorem newline_not_mem_of_spellsFile {path : String} {bytes : Bytes} {line : List Char}
    (h : Record.SpellsFile path bytes line) : '\n' ∉ line := by
  cases h with
  | mk _ _ _ hline => exact hline.newline_not_mem

/-- Something is on the line of a file. -/
theorem ne_nil_of_spellsFile {path : String} {bytes : Bytes} {line : List Char}
    (h : Record.SpellsFile path bytes line) : line ≠ [] := by
  cases h with
  | mk _ _ _ hline =>
    cases hline with
    | mk _ => simp

end Materialize

end SinkPipeline
