import Mathlib.Tactic.SplitIfs
import SinkPipeline.Process.Machine
import SinkPipeline.Process.Projection
import SinkPipeline.Proofs.Path

/-! # What can be handed over

  The operating system takes no string with a NUL character, or with a surrogate
  that has no byte.  This is a property of single characters, so a string can
  be handed over if the strings that it is made of can.

  A stage is not refused if its variables, its arguments and its directory can
  be handed over.  JSON text always can: it is printable ASCII.
-/

namespace SinkPipeline

namespace Tree

/-! ### Characters -/

/-- Does the character hold a surrogate that has no byte? -/
def lacksByte (c : Char) : Bool :=
  (Text.CodePoint.ofHeld c).isSurrogate && !(Text.CodePoint.ofHeld c).isPathByte

/-- Can the character stand in a string that is handed over? -/
def Handable (c : Char) : Prop := c ≠ '\x00' ∧ lacksByte c = false

theorem ofSystemText?_eq_none_iff {s : String} :
    Fault.ofSystemText? s = none ↔ ∀ c ∈ s.toList, lacksByte c = false := by
  unfold Fault.ofSystemText? Fault.ofSurrogates? Text.findSurrogate? Text.ofHeld
  rw [Option.map_eq_none_iff, Option.map_eq_none_iff, List.find?_eq_none]
  constructor
  · intro h c hc
    obtain ⟨i, hi⟩ := List.mem_iff_getElem?.mp hc
    have hmem : (Text.CodePoint.ofHeld c, i) ∈ (s.toList.map Text.CodePoint.ofHeld).zipIdx := by
      rw [List.mem_zipIdx_iff_getElem?, List.getElem?_map, hi]
      rfl
    simpa [lacksByte] using h _ hmem
  · rintro h ⟨p, i⟩ hp
    rw [List.mem_zipIdx_iff_getElem?, List.getElem?_map] at hp
    obtain ⟨c, hc, rfl⟩ := Option.map_eq_some_iff.mp hp
    simpa [lacksByte] using h c (List.mem_of_getElem? hc)

/-- **A string can be handed over** if all of its characters can. -/
theorem refusal?_eq_none_iff {s : String} : refusal? s = none ↔ ∀ c ∈ s.toList, Handable c := by
  unfold refusal? hasNul
  rw [Option.or_eq_none_iff, ofSystemText?_eq_none_iff]
  constructor
  · rintro ⟨hbytes, hnul⟩ c hc
    refine ⟨?_, hbytes c hc⟩
    rintro rfl
    simp [hc] at hnul
  · intro h
    refine ⟨fun c hc => (h c hc).2, if_neg ?_⟩
    intro hnul
    exact (h '\x00' (by simpa using hnul)).1 rfl

theorem refusal?_append {s t : String} (hs : refusal? s = none) (ht : refusal? t = none) :
    refusal? (s ++ t) = none := by
  rw [refusal?_eq_none_iff] at hs ht ⊢
  intro c hc
  rw [String.toList_append] at hc
  rcases List.mem_append.mp hc with hc | hc
  · exact hs c hc
  · exact ht c hc

/-- The text of a path below a directory can be handed over if the directory and
    the name can. -/
theorem refusal?_child {dir : Path} {name : String} (hdir : refusal? dir.toString = none)
    (hname : refusal? name = none) : refusal? (dir.child name).toString = none := by
  rw [Path.toString_child]
  refine refusal?_append ?_ hname
  split
  · cases dir.anchor <;> rfl
  · exact refusal?_append hdir rfl

/-- A string of characters of another one can be handed over with it. -/
theorem refusal?_of_subset {s t : String} (h : s.toList ⊆ t.toList) (ht : refusal? t = none) :
    refusal? s = none := by
  rw [refusal?_eq_none_iff] at ht ⊢
  exact fun c hc => ht c (h hc)

theorem ofSystemText?_of_refusal? {s : String} (h : refusal? s = none) :
    Fault.ofSystemText? s = none :=
  ofSystemText?_eq_none_iff.mpr fun c hc => (refusal?_eq_none_iff.mp h c hc).2

end Tree

/-! ### Environments -/

namespace Env

/-- All variables of the environment can be handed over. -/
def Legal (env : Env) : Prop :=
  ∀ p ∈ env, Tree.refusal? p.1 = none ∧ '=' ∉ p.1.toList ∧ Tree.refusal? p.2 = none

theorem mem_set {env : Env} {name v : String} {p : String × String} (h : p ∈ env.set name v) :
    p = (name, v) ∨ p ∈ env := by
  induction env with
  | nil => exact .inl (List.mem_singleton.mp h)
  | cons q env ih =>
    obtain ⟨n, w⟩ := q
    unfold set at h
    split at h
    · next hname =>
      rcases List.mem_cons.mp h with rfl | h
      · exact .inl (by rw [hname])
      · exact .inr (List.mem_cons_of_mem _ h)
    · rcases List.mem_cons.mp h with rfl | h
      · exact .inr (by simp)
      · rcases ih h with hnew | hold
        · exact .inl hnew
        · exact .inr (List.mem_cons_of_mem _ hold)

theorem Legal.set {env : Env} (h : env.Legal) {name v : String} (hname : Tree.refusal? name = none)
    (hequals : '=' ∉ name.toList) (hv : Tree.refusal? v = none) : (env.set name v).Legal := by
  intro p hp
  rcases mem_set hp with rfl | hp
  · exact ⟨hname, hequals, hv⟩
  · exact h p hp

theorem Legal.override {env more : Env} (h : env.Legal) (hmore : more.Legal) :
    (env.override more).Legal := by
  unfold Env.override
  induction more generalizing env with
  | nil => exact h
  | cons p more ih =>
    obtain ⟨hname, hequals, hv⟩ := hmore p (by simp)
    exact ih (h.set hname hequals hv) fun q hq => hmore q (List.mem_cons_of_mem _ hq)

theorem Legal.layered {parent overlay own : Env} (hparent : parent.Legal) (hoverlay : overlay.Legal)
    (hown : own.Legal) (inherit : Bool) : (Env.layered parent overlay own inherit).Legal := by
  unfold Env.layered
  refine Legal.override (Legal.override ?_ hoverlay) hown
  split
  · exact hparent
  · intro p hp
    cases hp

end Env

/-- **A stage that can be handed over** is not refused. -/
theorem Machine.refusal?_eq_none {env : Env} {stage : Stage} (henv : env.Legal)
    (hargv : ∀ arg ∈ stage.argv, Tree.refusal? arg = none)
    (hcwd : ∀ dir, stage.cwd = some dir → Tree.refusal? dir = none) : refusal? env stage = none := by
  have hcommand := hargv stage.command (by simp [Stage.argv])
  unfold refusal?
  simp only [Option.or_eq_none_iff, List.findSome?_eq_none_iff]
  refine ⟨?_, Tree.ofSystemText?_of_refusal? hcommand, hargv, ?_, ?_⟩
  · intro p hp
    obtain ⟨hname, hequals, hv⟩ := henv p hp
    unfold variableRefusal?
    rw [Tree.ofSystemText?_of_refusal? hname, Option.none_or, if_neg (by simpa using hequals)]
    exact Tree.ofSystemText?_of_refusal? hv
  · intro p hp
    obtain ⟨hname, -, hv⟩ := henv p hp
    exact Tree.refusal?_append hname hv
  · cases hdir : stage.cwd with
    | none => rfl
    | some dir => exact hcwd dir hdir

/-! ### JSON text -/

namespace Json

/-- Is the character printable ASCII? -/
def Printable (c : Char) : Prop := 0x20 ≤ c.toNat ∧ c.toNat < 0x7F

instance : DecidablePred Printable := fun _ => inferInstanceAs (Decidable (_ ∧ _))

theorem Printable.handable {c : Char} (h : Printable c) : Tree.Handable c := by
  obtain ⟨hlow, hhigh⟩ := h
  constructor
  · rintro rfl
    revert hlow
    decide
  · have hscalar : Text.CodePoint.ofHeld c = .scalar c := by
      unfold Text.CodePoint.ofHeld Text.firstStandIn
      rw [dif_neg (by omega)]
    unfold Tree.lacksByte
    rw [hscalar]
    rfl

theorem printable_pair {a b : Char} (ha : Printable a) (hb : Printable b) :
    ∀ c ∈ [a, b], Printable c := by
  intro c hc
  rcases List.mem_cons.mp hc with rfl | hc
  · exact ha
  · rw [List.mem_singleton.mp hc]
    exact hb

theorem printable_hexDigits (width n : Nat) : ∀ c ∈ Text.hexDigits width n, Printable c := by
  induction width generalizing n with
  | zero => simp [Text.hexDigits]
  | succ width ih =>
    intro c hc
    unfold Text.hexDigits at hc
    rcases List.mem_append.mp hc with hhigh | hlow
    · exact ih (n / 16) c hhigh
    · rw [List.mem_singleton.mp hlow]
      have hdigit : ∀ d : Fin 16, Printable (Text.hexDigit d.val) := by decide
      exact hdigit ⟨n % 16, Nat.mod_lt _ (by decide)⟩

theorem printable_unicodeEscape (n : Nat) : ∀ c ∈ unicodeEscape n, Printable c := by
  intro c hc
  unfold unicodeEscape at hc
  rcases List.mem_cons.mp hc with rfl | hc
  · decide
  rcases List.mem_cons.mp hc with rfl | hc
  · decide
  · exact printable_hexDigits 4 n c hc

theorem printable_escapePoint (n : Nat) : ∀ c ∈ escapePoint n, Printable c := by
  have hshort : ∀ {d}, Printable d → ∀ c ∈ ['\\', d], Printable c := printable_pair (by decide)
  unfold escapePoint
  split_ifs with _ _ _ _ _ _ _ hplain
  · exact hshort (by decide)
  · exact hshort (by decide)
  · exact hshort (by decide)
  · exact hshort (by decide)
  · exact hshort (by decide)
  · exact hshort (by decide)
  · exact hshort (by decide)
  · intro c hc
    rw [List.mem_singleton.mp hc]
    have hvalid : n.isValidChar := .inl (by omega)
    unfold Printable
    rwa [Char.ofNat, dif_pos hvalid]
  · exact printable_unicodeEscape n
  · intro c hc
    rcases List.mem_append.mp hc with hc | hc
    · exact printable_unicodeEscape _ c hc
    · exact printable_unicodeEscape _ c hc

theorem printable_writeString (s : String) : ∀ c ∈ writeString s, Printable c := by
  have hquote : Printable '"' := by decide
  intro c hc
  unfold writeString writeText at hc
  rcases List.mem_cons.mp hc with rfl | hc
  · exact hquote
  rcases List.mem_append.mp hc with hc | hc
  · obtain ⟨p, -, hp⟩ := List.mem_flatMap.mp hc
    exact printable_escapePoint _ c hp
  · rw [List.mem_singleton.mp hc]
    exact hquote

theorem printable_joinWith {sep : List Char} (hsep : ∀ c ∈ sep, Printable c) {parts : List (List Char)}
    (hparts : ∀ part ∈ parts, ∀ c ∈ part, Printable c) : ∀ c ∈ joinWith sep parts, Printable c := by
  cases parts with
  | nil => simp [joinWith]
  | cons x xs =>
    intro c hc
    unfold joinWith at hc
    rcases List.mem_append.mp hc with hx | hxs
    · exact hparts x (by simp) c hx
    · obtain ⟨y, hy, hcy⟩ := List.mem_flatMap.mp hxs
      rcases List.mem_append.mp hcy with hcy | hcy
      · exact hsep c hcy
      · exact hparts y (List.mem_cons_of_mem _ hy) c hcy

/-- Is a value made of strings, arrays and objects alone, nested at most `n`
    deep? -/
inductive Textual : Nat → Json → Prop
  | str {n : Nat} (s : String) : Textual n (.str s)
  | arr {n : Nat} {items : List Json} : (∀ v ∈ items, Textual n v) → Textual (n + 1) (.arr items)
  | obj {n : Nat} {ms : Fields} : (∀ m ∈ ms, Textual n m.2) → Textual (n + 1) (.obj ms)

theorem textual_strings (xs : List String) : Textual 1 (strings xs) := by
  refine .arr fun v hv => ?_
  obtain ⟨x, -, rfl⟩ := List.mem_map.mp hv
  exact .str x

theorem writeItems_eq (st : Style) (items : List Json) :
    writeItems st items = items.map (write st) := by
  induction items with
  | nil => rfl
  | cons v vs ih => rw [writeItems, ih, List.map_cons]

theorem writeMembers_eq (st : Style) (ms : Fields) :
    writeMembers st ms = ms.map fun m => (m.1, write st m.2) := by
  induction ms with
  | nil => rfl
  | cons m ms ih => rw [writeMembers, ih, List.map_cons]

/-- **The text of such a value** is printable ASCII. -/
theorem printable_write {n : Nat} {v : Json} (hv : Textual n v) :
    ∀ c ∈ write spacedSorted v, Printable c := by
  have hblank : Printable ' ' := by decide
  have hcomma : ∀ c ∈ spacedSorted.comma.toList, Printable c := printable_pair (by decide) hblank
  have hcolon : ∀ c ∈ spacedSorted.colon.toList, Printable c := printable_pair (by decide) hblank
  induction hv with
  | str s =>
    rw [write]
    exact printable_writeString s
  | @arr n items _ ih =>
    intro c hc
    rw [write, writeItems_eq] at hc
    rcases List.mem_cons.mp hc with rfl | hc
    · decide
    rcases List.mem_append.mp hc with hc | hc
    · refine printable_joinWith hcomma (fun text htext => ?_) c hc
      obtain ⟨v, hv, rfl⟩ := List.mem_map.mp htext
      exact ih v hv
    · rw [List.mem_singleton.mp hc]
      decide
  | @obj n ms _ ih =>
    intro c hc
    rw [write, writeMembers_eq] at hc
    rcases List.mem_cons.mp hc with rfl | hc
    · decide
    rcases List.mem_append.mp hc with hc | hc
    · refine printable_joinWith hcomma (fun text htext => ?_) c hc
      obtain ⟨p, hp, rfl⟩ := List.mem_map.mp htext
      -- The members are sorted by name, and are still those of the object.
      obtain ⟨m, hm, rfl⟩ := List.mem_map.mp (List.mem_mergeSort.mp hp)
      intro d hd
      rcases List.mem_append.mp hd with hd | hd
      · rcases List.mem_append.mp hd with hd | hd
        · exact printable_writeString _ d hd
        · exact hcolon d hd
      · exact ih m hm d hd
    · rw [List.mem_singleton.mp hc]
      decide

/-- The text of such a value can be handed over. -/
theorem refusal?_render {n : Nat} {v : Json} (hv : Textual n v) :
    Tree.refusal? (v.render spacedSorted) = none := by
  rw [Tree.refusal?_eq_none_iff]
  intro c hc
  unfold render at hc
  rw [String.toList_ofList] at hc
  exact (printable_write hv c hc).handable

end Json

end SinkPipeline
