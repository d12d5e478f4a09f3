import SinkPipeline.Proofs.Base64.Leniency
import SinkPipeline.Proofs.Output.Faults

/-! # Records whose base64 is corrupt

  The content of a record in base64 is **proper** if it is a well-formed text
  once its blanks are taken out.  A record is handled **strictly** if content
  that is not proper is a failure to write, and the bytes of other content are
  written as the content itself, without blanks and with no spare bits set.

  The decoder is lenient, so this is not so for all records, but just for those
  whose content is proper or holds nothing that the decoder could read.  What
  it does read is never lost on the way: the file of a record holds just the
  bytes of what is kept of its content, and where nothing well-formed is kept
  the run stops at the line of the record and leaves everything as it is.
-/

namespace SinkPipeline

namespace Record

/-! ### Content in base64 -/

/-- Is a content proper base64? -/
def IsProper (content : Text) : Prop :=
  ∃ cs : List Char, content = cs.map .scalar ∧ Base64.IsProper cs

/-- **The bytes that are read from a content**: it is in ASCII, and what is kept of
    it is well-formed and, with no spare bits set, what the bytes are written as. -/
def Reads (content : Text) (bytes : Bytes) : Prop :=
  ∃ cs : List Char, content = cs.map .scalar ∧ (∀ c ∈ cs, c.toNat < 128) ∧
    Base64.Padded (Base64.kept 0 0 cs) (Base64.encode bytes)

/-- The fault of a record whose content cannot be decoded. -/
def refusal (r : Record) (e : Base64.Fault) : Fault :=
  .ofKind .materialize ("Invalid base64 content for " ++ r.pathText) { path := .str r.pathText }
    (some (base64Fault e))

/-- **A record is handled strictly.** -/
structure IsStrict (r : Record) : Prop where
  /-- Content that is not proper is a failure to write. -/
  refuses : ¬IsProper r.content → ∃ f, r.decode = .error f ∧ f.IsMaterialize
  /-- Bytes are written as the content, without blanks and with no spare bits set. -/
  faithful : ∀ bytes, r.decode = .ok bytes → ∃ cs : List Char, r.content = cs.map .scalar ∧
    Base64.Padded (Base64.stripped cs) (Base64.encode bytes)

section

variable {r : Record}

/-- The decoder reads characters only. -/
theorem base64_decode_eq_ok_iff (content : Text) (bytes : Bytes) :
    Base64.decode content = .ok bytes ↔ Reads content bytes := by
  unfold Base64.decode Reads
  constructor
  · intro h
    split at h
    · cases h
    · next cs hcs =>
      split at h
      · next hascii =>
        refine ⟨cs, Text.eq_of_toChars? hcs, by simpa using hascii, ?_⟩
        exact (Base64.finish_eq_ok_iff cs bytes).mp h
      · cases h
  · rintro ⟨cs, rfl, hascii, hkept⟩
    rw [Text.toChars?_map_scalar]
    dsimp only
    rw [if_pos (by simpa using hascii)]
    exact (Base64.finish_eq_ok_iff cs bytes).mpr hkept

theorem decode_eq_ok_iff (hr : r.encoding = some base64Word) (bytes : Bytes) :
    r.decode = .ok bytes ↔ Reads r.content bytes := by
  rw [← base64_decode_eq_ok_iff, decode, if_pos hr]
  cases Base64.decode r.content <;> simp

/-- Content that cannot be decoded is a failure to write. -/
theorem eq_refusal_of_decode (hr : r.encoding = some base64Word) {f : Fault}
    (h : r.decode = .error f) : ∃ e, Base64.decode r.content = .error e ∧ f = r.refusal e := by
  rw [decode, if_pos hr] at h
  cases hdecode : Base64.decode r.content with
  | ok bytes =>
    rw [hdecode] at h
    cases h
  | error e =>
    rw [hdecode] at h
    cases h
    exact ⟨e, rfl, rfl⟩

theorem refusal_isMaterialize (r : Record) (e : Base64.Fault) : (r.refusal e).IsMaterialize :=
  ⟨_, _, _, rfl⟩

/-- If nothing is read from a content, the record has a failure to write. -/
theorem exists_refusal (hr : r.encoding = some base64Word) (h : ¬∃ bytes, Reads r.content bytes) :
    ∃ e, r.decode = .error (r.refusal e) := by
  cases hdecode : r.decode with
  | ok bytes => exact absurd ⟨bytes, (decode_eq_ok_iff hr bytes).mp hdecode⟩ h
  | error f =>
    obtain ⟨e, -, rfl⟩ := eq_refusal_of_decode hr hdecode
    exact ⟨e, rfl⟩

/-- **Which records are handled strictly**: those whose content is proper, or is
    refused anyway. -/
theorem isStrict_iff (hr : r.encoding = some base64Word) :
    r.IsStrict ↔ IsProper r.content ∨ ¬∃ bytes, Reads r.content bytes := by
  constructor
  · intro hstrict
    by_cases hproper : IsProper r.content
    · exact .inl hproper
    · right
      rintro ⟨bytes, hreads⟩
      obtain ⟨f, hf, -⟩ := hstrict.refuses hproper
      rw [(decode_eq_ok_iff hr bytes).mpr hreads] at hf
      cases hf
  · rintro (⟨cs, hcontent, hproper⟩ | hnone)
    · refine ⟨fun hnot => absurd ⟨cs, hcontent, hproper⟩ hnot, ?_⟩
      intro bytes hok
      obtain ⟨cs', hcontent', -, hkept⟩ := (decode_eq_ok_iff hr bytes).mp hok
      -- The content has one text, and it is proper: all of it is kept.
      obtain rfl : cs = cs' := by
        have hinj : Function.Injective Text.CodePoint.scalar := fun _ _ h => by cases h; rfl
        exact List.map_injective_iff.mpr hinj (hcontent.symm.trans hcontent')
      rw [hproper.kept_eq] at hkept
      exact ⟨cs, hcontent, hkept⟩
    · obtain ⟨e, he⟩ := exists_refusal hr hnone
      refine ⟨fun _ => ⟨_, he, r.refusal_isMaterialize e⟩, ?_⟩
      intro bytes hok
      rw [he] at hok
      cases hok

end

end Record

namespace Materialize

variable {ν : Type}

section

variable {base : Path} {line : List Char} {r : Record}

/-- What the line of a record asks for. -/
theorem asked_of_record (h : recordOn line = some r) (base : Path) :
    asked base line = match r.decode with
      | .error f => .fault f
      | .ok bytes => .writing (Record.target base r.pathText) bytes := by
  -- A blank line holds no record.
  have hblank : Record.ofLine (String.ofList []) = .ok none := rfl
  unfold recordOn at h
  unfold asked
  split
  · next hnil =>
    rw [hnil, hblank] at h
    cases h
  · cases hread : Record.ofLine (String.ofList (Text.stripBlanks line)) with
    | error f =>
      rw [hread] at h
      cases h
    | ok found =>
      rw [hread] at h
      obtain rfl : found = some r := h
      rfl

/-- A line that asks for a fault is not handled. -/
theorem HandlesAll.asked_ne_fault {n : Nat} {lines : List (List Char)} {xs : List Saved}
    {w w' : Diary × Site ν} (h : HandlesAll base n lines xs w w') (hline : line ∈ lines)
    (f : Fault) : asked base line ≠ .fault f := by
  intro hfault
  induction h with
  | nil n w => cases hline
  | cons first _ ih =>
    rcases List.mem_cons.mp hline with rfl | hrest
    · cases first with
      | blank _ hasked => cases hasked.symm.trans hfault
      | dropped _ _ hasked => cases hasked.symm.trans hfault
      | saved _ _ _ hasked _ => cases hasked.symm.trans hfault
    · exact ih hrest

end

/-- **Corrupt base64 is read leniently.**  A record in base64 has just the bytes
    that are read from what is kept of its content, and else a failure to write
    that names its path.  It is handled strictly just if its content is proper or
    nothing is read from it.  Over a stream, the line of such a record is handled
    only if bytes are read from the content, and then these are its file; else
    the run ends at the line in that failure and writes nothing for it. -/
theorem base64_read_leniently {r : Record} (hr : r.encoding = some Record.base64Word)
    {base : Path} (hbase : base.WellFormed) {mode : Mode} (hmode : mode.writes = true)
    (stream : Stream) (D : Diary) (s : Site ν) :
    (∀ bytes, r.decode = .ok bytes ↔ Record.Reads r.content bytes) ∧
    (∀ f, r.decode = .error f → ∃ e, Base64.decode r.content = .error e ∧ f = r.refusal e) ∧
    (r.IsStrict ↔ Record.IsProper r.content ∨ ¬∃ bytes, Record.Reads r.content bytes) ∧
    (multi .dryRun base stream).runOn D s = (.ok (dryRun true stream), D, s) ∧
    ∃ handled xs v res rest w,
      (multi mode base stream).runOn D s = (.ok (res, rest), w) ∧
      HandlesAll base 1 handled xs (D, s) v ∧ Finishes base stream handled xs v res w ∧
      xs.map (fun x => (x.target, x.bytes)) = handled.filterMap (file? base) ∧
      (∀ line ∈ handled, recordOn line = some r → ∃ bytes, Record.Reads r.content bytes ∧
        file? base line = some (Record.target base r.pathText, bytes)) ∧
      (∀ line after, linesRead stream = handled ++ line :: after → recordOn line = some r →
        (¬∃ bytes, Record.Reads r.content bytes) → ∃ e, res = .error (r.refusal e) ∧ w = v) := by
  obtain ⟨handled, xs, v, res, rest, w, hrun, hall, hfinish⟩ := runOn_multi hbase hmode stream D s
  refine ⟨Record.decode_eq_ok_iff hr, fun f => Record.eq_refusal_of_decode hr,
    Record.isStrict_iff hr, rfl, handled, xs, v, res, rest, w, hrun, hall, hfinish, hall.saved_eq,
    ?_, ?_⟩
  · intro line hline hrecord
    have hasked := asked_of_record hrecord base
    cases hdecode : r.decode with
    | error f =>
      rw [hdecode] at hasked
      exact absurd hasked (hall.asked_ne_fault hline f)
    | ok bytes =>
      rw [hdecode] at hasked
      refine ⟨bytes, (Record.decode_eq_ok_iff hr bytes).mp hdecode, ?_⟩
      rw [file?, hasked]
  · intro line after hlines hrecord hnone
    obtain ⟨e, he⟩ := Record.exists_refusal hr hnone
    have hasked := asked_of_record hrecord base
    rw [he] at hasked
    exact ⟨e, hfinish.of_asked_fault hlines hasked⟩

/-! ### Data behind padding -/

/-- A record with data behind padding. -/
def trailing : Record :=
  ⟨Text.ofString "a", Text.ofString "YQ==YWJj", some Record.base64Word⟩

/-- A line that holds it. -/
def trailingLine : List Char :=
  "\x7b\"path\":\"a\",\"content\":\"YQ==YWJj\",\"encoding\":\"base64\"\x7d".toList

/-- That line alone. -/
def trailingStream : Stream := .ofBytes (Text.Utf8.encodeChars trailingLine)

theorem trailing_base64_read_leniently :
    recordOn trailingLine = some trailing ∧
    trailing.encoding = some Record.base64Word ∧ (Path.mk .root ["out"]).WellFormed ∧
    Mode.build.writes = true ∧
    (∀ bytes, trailing.decode = .ok bytes ↔ Record.Reads trailing.content bytes) ∧
    (∀ f, trailing.decode = .error f →
      ∃ e, Base64.decode trailing.content = .error e ∧ f = trailing.refusal e) ∧
    (trailing.IsStrict ↔
      Record.IsProper trailing.content ∨ ¬∃ bytes, Record.Reads trailing.content bytes) ∧
    (multi .dryRun ⟨.root, ["out"]⟩ trailingStream).runOn {} bareSite =
      (.ok (dryRun true trailingStream), {}, bareSite) ∧
    ∃ handled xs v res rest w,
      (multi .build ⟨.root, ["out"]⟩ trailingStream).runOn {} bareSite = (.ok (res, rest), w) ∧
      HandlesAll ⟨.root, ["out"]⟩ 1 handled xs ({}, bareSite) v ∧
      Finishes ⟨.root, ["out"]⟩ trailingStream handled xs v res w ∧
      xs.map (fun x => (x.target, x.bytes)) = handled.filterMap (file? ⟨.root, ["out"]⟩) ∧
      (∀ line ∈ handled, recordOn line = some trailing →
        ∃ bytes, Record.Reads trailing.content bytes ∧
          file? ⟨.root, ["out"]⟩ line =
            some (Record.target ⟨.root, ["out"]⟩ trailing.pathText, bytes)) ∧
      (∀ line after, linesRead trailingStream = handled ++ line :: after →
        recordOn line = some trailing → (¬∃ bytes, Record.Reads trailing.content bytes) →
          ∃ e, res = .error (trailing.refusal e) ∧ w = v) :=
  ⟨rfl, rfl, Path.wellFormed_ofString "/out", rfl,
    base64_read_leniently rfl (Path.wellFormed_ofString "/out") rfl trailingStream {} bareSite⟩

/-- **Data behind padding is lost without a fault**: the content is not proper, but
    the record has bytes, those before the padding. -/
theorem trailing_not_strict :
    ¬Record.IsProper trailing.content ∧ trailing.decode = .ok [97] ∧ ¬trailing.IsStrict := by
  have hbytes : trailing.decode = .ok [97] := rfl
  have hproper : ¬Record.IsProper trailing.content := by
    rintro ⟨cs, hcontent, hproper⟩
    have hcs : "YQ==YWJj".toList = cs := Option.some.inj (by
      rw [← Text.toChars?_map_scalar, ← Text.toChars?_map_scalar cs, ← hcontent]
      rfl)
    obtain ⟨es, hes⟩ := hproper.padded
    have hsplit : Base64.stripped cs = "YQ=".toList ++ '=' :: "YWJj".toList := by
      rw [← hcs]
      rfl
    exact absurd (hes.padding_last hsplit 'Y' (by decide)) (by decide)
  refine ⟨hproper, hbytes, ?_⟩
  intro hstrict
  obtain ⟨f, hf, -⟩ := hstrict.refuses hproper
  rw [hbytes] at hf
  cases hf

end Materialize

end SinkPipeline
