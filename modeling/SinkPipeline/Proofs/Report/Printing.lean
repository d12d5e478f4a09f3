import SinkPipeline.Proofs.Path
import SinkPipeline.Proofs.Report.Tags

/-! # What is printed of a text

  A report puts its lines together from tags, from words of its own, and from
  names that it was given.  Its own words are **quiet**: no character of them
  means anything in markup.  What is shown of a line is followed along its
  parts: each tag takes its place and is gone, and the text between two tags is
  shown without its escapes and with its emoji.

  A text that is shown is printed line by line.  If all its characters are
  **steady**, it is one line; whatever it is, no line has another character or
  more marks than the text has.
-/

namespace SinkPipeline

namespace Markup

open Emoji (marks isMark marks_append marks_cons marks_nil marks_eq_zero Codeless)

/-! ### Quiet text -/

/-- Is the character printed as it is?  Tabs, line feeds and what controls the
    terminal are not. -/
def isSteady (c : Char) : Bool := !isControl c && c != '\t' && c != '\n'

/-- Is the character printed as it is, and means nothing in markup? -/
def isQuiet (c : Char) : Bool := isSteady c && !isMark c && c != ']'

/-- A text of quiet characters. -/
def Quiet (cs : List Char) : Prop := ∀ c ∈ cs, isQuiet c = true

instance (cs : List Char) : Decidable (Quiet cs) :=
  decidable_of_iff (cs.all isQuiet = true) List.all_eq_true

theorem isQuiet_iff {c : Char} : isQuiet c = true ↔
    isSteady c = true ∧ isMark c = false ∧ c ≠ ']' := by
  simp [isQuiet, and_assoc]

theorem ne_of_isQuiet {c : Char} (h : isQuiet c = true) :
    c ≠ ':' ∧ c ≠ '[' ∧ c ≠ '\\' ∧ c ≠ ']' := by
  refine ⟨?_, ?_, ?_, ?_⟩ <;> rintro rfl <;> revert h <;> decide

namespace Quiet

variable {cs ds : List Char}

theorem append (h : Quiet cs) (h' : Quiet ds) : Quiet (cs ++ ds) := fun c hc =>
  (List.mem_append.mp hc).elim (h c) (h' c)

theorem marks_eq (h : Quiet cs) : marks cs = 0 :=
  marks_eq_zero fun c hc => (isQuiet_iff.mp (h c hc)).2.1

theorem steady (h : Quiet cs) : ∀ c ∈ cs, isSteady c = true := fun c hc =>
  (isQuiet_iff.mp (h c hc)).1

theorem plain_eq (h : Quiet cs) : plain cs = cs := by
  refine plain_eq_self ?_
  rintro ⟨front, back, rfl⟩
  exact (ne_of_isQuiet (h '[' (by simp))).2.1 rfl

theorem append_plain (h : Quiet cs) (ds : List Char) : plain (cs ++ ds) = cs ++ plain ds := by
  induction cs with
  | nil => rfl
  | cons c cs ih =>
    have hslash : c ≠ '\\' := (ne_of_isQuiet (h c (by simp))).2.2.1
    rw [List.cons_append, plain, ih fun d hd => h d (by simp [hd]), List.cons_append]
    exact fun _ heq => absurd heq hslash

theorem not_mem_colon (h : Quiet cs) : ':' ∉ cs := fun hmem =>
  (ne_of_isQuiet (h ':' hmem)).1 rfl

/-- Behind any text it is shown as it is. -/
theorem shown_append (h : Quiet cs) (ds : List Char) :
    Emoji.replace (plain (ds ++ cs)) = Emoji.replace (plain ds) ++ cs := by
  have hhead : ∀ c ∈ cs.head?, c ≠ '[' := fun c hc =>
    (ne_of_isQuiet (h c (List.mem_of_mem_head? hc))).2.1
  rw [plain_append ds hhead, h.plain_eq, Emoji.replace_append _ h.not_mem_colon]

/-- In front of any text it is shown as it is. -/
theorem append_shown (h : Quiet cs) (ds : List Char) :
    Emoji.replace (plain (cs ++ ds)) = cs ++ Emoji.replace (plain ds) := by
  rw [h.append_plain, Emoji.append_replace h.not_mem_colon]

end Quiet

/-! ### The scanner along a line -/

/-- No backslash stands behind what has been read. -/
def Scanner.AtEase (s : Scanner) : Prop :=
  match s.scan with
  | .between slashes => slashes = 0
  | .opening _ => True
  | .inside _ inner => inner.head? ≠ some '\\'

theorem Scanner.atEase_step (s : Scanner) {c : Char} (hc : c ≠ '\\') : (s.step c).AtEase := by
  obtain ⟨scan, position, pending, pieces⟩ := s
  have hplain : ∀ (s : Scanner) slashes pending n,
      ({ s.plainStep slashes pending c with position := n } : Scanner).AtEase := by
    intro s slashes pending n
    unfold Scanner.plainStep
    rw [if_neg hc]
    split
    · trivial
    · rfl
  cases scan with
  | between slashes => exact hplain _ slashes pending _
  | opening slashes =>
    by_cases hstart : startsTag c = true
    · simp [Scanner.step, Scanner.AtEase, hstart, hc]
    · simp only [Scanner.step, if_neg hstart]
      exact hplain _ 0 _ _
  | inside slashes inner =>
    by_cases hclose : c = ']'
    · simp only [Scanner.step, if_pos hclose]
      rfl
    · by_cases hopen : c = '['
      · simp only [Scanner.step, if_neg hclose, if_pos hopen]
        trivial
      · simp [Scanner.step, Scanner.AtEase, hclose, hopen, hc]

/-- A bracket that is not escaped opens what may be a tag behind the text before it. -/
theorem Scanner.step_bracket_of_atEase {s : Scanner} (h : s.AtEase) :
    (s.step '[').scan = .opening 0 ∧ (s.step '[').pending.reverse = s.unread ∧
      (s.step '[').pieces = s.pieces := by
  have hopening : (s.step '[').scan = .opening 0 := by
    obtain ⟨scan, position, pending, pieces⟩ := s
    cases scan with
    | between slashes =>
      obtain rfl : slashes = 0 := h
      rfl
    | opening slashes => rfl
    | inside slashes inner =>
      have hnone : inner.takeWhile (· == '\\') = [] := by
        cases inner with
        | nil => rfl
        | cons c inner =>
          have hc : c ≠ '\\' := by simpa [Scanner.AtEase] using h
          simp [hc]
      show Scan.opening (inner.takeWhile (· == '\\')).length = _
      rw [hnone]
      rfl
  have hnot : ¬ s.Closes '[' := fun hcloses => absurd hcloses.1 (by decide)
  obtain ⟨hunread, hpieces⟩ := Scanner.step_of_not_closes hnot
  have hboth : (s.step '[').unread = (s.step '[').pending.reverse ++ ['['] := by
    unfold Scanner.unread
    rw [hopening]
    rfl
  exact ⟨hopening, (List.append_inj' (hboth.symm.trans hunread) rfl).1, hpieces⟩

/-- **Quiet text** is read as it stands, wherever the scanner stood. -/
theorem Scanner.read_quiet (s : Scanner) {cs : List Char} (h : Quiet cs) :
    (s.read cs).unread = s.unread ++ cs ∧ (s.read cs).pieces = s.pieces := by
  induction cs generalizing s with
  | nil => exact ⟨by simp [Scanner.read], rfl⟩
  | cons c cs ih =>
    have hnot : ¬ s.Closes c := fun hclose => (ne_of_isQuiet (h c (by simp))).2.2.2 hclose.1
    obtain ⟨hunread, hpieces⟩ := Scanner.step_of_not_closes hnot
    obtain ⟨hunread', hpieces'⟩ := ih (s.step c) fun d hd => h d (by simp [hd])
    rw [Scanner.read_cons, hunread', hpieces', hunread, hpieces, List.append_assoc]
    exact ⟨rfl, rfl⟩

theorem Scanner.atEase_read_quiet (s : Scanner) {cs : List Char} (h : Quiet cs) (hne : cs ≠ []) :
    (s.read cs).AtEase := by
  obtain ⟨front, c, rfl⟩ := (List.eq_nil_or_concat cs).resolve_left hne
  rw [List.concat_eq_append, Scanner.read_append]
  exact Scanner.atEase_step _ (ne_of_isQuiet (h c (by simp))).2.2.1

theorem Scanner.read_inside {s : Scanner} {slashes : Nat} {inner : List Char}
    (h : s.scan = .inside slashes inner) {cs : List Char} (hopen : '[' ∉ cs) (hclose : ']' ∉ cs) :
    (s.read cs).scan = .inside slashes (cs.reverse ++ inner) ∧ (s.read cs).pending = s.pending ∧
      (s.read cs).pieces = s.pieces := by
  induction cs generalizing s inner with
  | nil => exact ⟨h, rfl, rfl⟩
  | cons c cs ih =>
    simp only [List.mem_cons, not_or] at hopen hclose
    obtain ⟨hscan, hpending, hpieces⟩ := Scanner.step_inside h (Ne.symm hopen.1) (Ne.symm hclose.1)
    obtain ⟨hscan', hpending', hpieces'⟩ := ih hscan hopen.2 hclose.2
    rw [Scanner.read_cons, hscan', hpending', hpieces', hpending, hpieces]
    exact ⟨by simp, rfl, rfl⟩

/-- A closing bracket makes a tag of what is inside if nothing escapes it. -/
theorem Scanner.step_close {s : Scanner} {inner : List Char} (h : s.scan = .inside 0 inner) :
    (s.step ']').scan = .between 0 ∧ (s.step ']').unread = [] ∧
      ∃ position, (s.step ']').pieces = .tag position inner.reverse :: s.flushed := by
  obtain ⟨scan, position, pending, pieces⟩ := s
  obtain rfl : scan = .inside 0 inner := h
  exact ⟨rfl, rfl, _, rfl⟩

/-- **A tag** that is not escaped is one more piece, and the text before it is
    settled. -/
theorem Scanner.read_tag {s : Scanner} (h : s.AtEase) {inner : List Char}
    (hstart : ∃ c ∈ inner.head?, startsTag c = true) (hopen : '[' ∉ inner) (hclose : ']' ∉ inner) :
    (s.read ('[' :: (inner ++ [']']))).scan = .between 0 ∧
      (s.read ('[' :: (inner ++ [']']))).unread = [] ∧
      ∃ position, (s.read ('[' :: (inner ++ [']']))).pieces = .tag position inner :: s.settled := by
  obtain ⟨c, hhead, hstart⟩ := hstart
  obtain ⟨cs, rfl⟩ := List.head?_eq_some_iff.mp hhead
  have hread : s.read ('[' :: (c :: cs ++ [']'])) =
      (((s.step '[').step c).read cs).step ']' := by
    rw [Scanner.read_cons, List.cons_append, Scanner.read_cons, Scanner.read_append]
    rfl
  -- Up to the closing bracket the text before the tag stays pending.
  obtain ⟨hscan₁, hpending₁, hpieces₁⟩ := Scanner.step_bracket_of_atEase h
  obtain ⟨hscan₂, hpending₂, hpieces₂⟩ := Scanner.step_opening hscan₁ hstart
  obtain ⟨hscan₃, hpending₃, hpieces₃⟩ := Scanner.read_inside hscan₂
    (List.not_mem_of_not_mem_cons hopen) (List.not_mem_of_not_mem_cons hclose)
  obtain ⟨hscan, hunread, position, hpieces⟩ := Scanner.step_close hscan₃
  have hflushed : (((s.step '[').step c).read cs).flushed = s.settled := by
    unfold Scanner.flushed Scanner.settled
    rw [hpending₃, hpending₂, hpieces₃, hpieces₂, hpieces₁, ← hpending₁]
    simp only [List.reverse_eq_nil_iff]
  have hback : (cs.reverse ++ [c]).reverse = c :: cs := by simp
  rw [hflushed, hback] at hpieces
  rw [hread]
  exact ⟨hscan, hunread, position, hpieces⟩

/-! ### What is shown of a line so far -/

/-- If the line ended here, it would show `out` and leave the looks of `stack`
    open. -/
def Scanner.Shows (s : Scanner) (stack : List String) (out : List Char) : Prop :=
  ∃ before, out = before ++ Emoji.replace (plain s.unread) ∧
    ∀ rest, shownFrom [] (s.pieces.reverse ++ rest) = (shownFrom stack rest).map (before ++ ·)

namespace Scanner.Shows

variable {s : Scanner} {stack stack' : List String} {out cs : List Char}

theorem start : ({} : Scanner).Shows [] [] := by
  refine ⟨[], rfl, fun rest => ?_⟩
  show shownFrom [] rest = _
  cases shownFrom [] rest <;> rfl

theorem quiet (h : s.Shows stack out) (hcs : Quiet cs) : (s.read cs).Shows stack (out ++ cs) := by
  obtain ⟨before, rfl, hbefore⟩ := h
  obtain ⟨hunread, hpieces⟩ := s.read_quiet hcs
  refine ⟨before, ?_, by rw [hpieces]; exact hbefore⟩
  rw [hunread, hcs.shown_append, List.append_assoc]

/-- A text without tags is shown without its escapes and with its emoji. -/
theorem tagless (h : s.Shows stack out) (hs : s.scan = .between 0) (hquiet : Quiet s.unread)
    (hcs : ¬ HoldsTag cs) : (s.read cs).Shows stack (out ++ Emoji.replace (plain cs)) := by
  obtain ⟨before, rfl, hbefore⟩ := h
  obtain ⟨hunread, hpieces⟩ := Scanner.read_of_tagless hs hcs
  refine ⟨before, ?_, by rw [hpieces]; exact hbefore⟩
  rw [hunread, hquiet.append_shown, hquiet.plain_eq, List.append_assoc,
    (Emoji.codeless_of_not_mem hquiet.not_mem_colon).replace_eq]

theorem settled (h : s.Shows stack out) (rest : List Piece) :
    shownFrom [] (s.settled.reverse ++ rest) = (shownFrom stack rest).map (out ++ ·) := by
  obtain ⟨before, rfl, hbefore⟩ := h
  unfold Scanner.settled
  split
  · next hnone =>
    rw [hbefore, hnone]
    show _ = (shownFrom stack rest).map (before ++ [] ++ ·)
    rw [List.append_nil]
  · rw [List.reverse_cons, List.append_assoc, hbefore, List.singleton_append, shownFrom_text]
    cases shownFrom stack rest with
    | error f => rfl
    | ok more => simp [Except.map]

/-- **A tag** shows nothing and turns the open looks. -/
theorem tag (h : s.Shows stack out) (hs : s.AtEase) {inner : List Char}
    (hturns : Turns inner stack stack') (hstart : ∃ c ∈ inner.head?, startsTag c = true)
    (hopen : '[' ∉ inner) (hclose : ']' ∉ inner) :
    (s.read ('[' :: (inner ++ [']']))).Shows stack' out := by
  obtain ⟨-, hunread, position, hpieces⟩ := Scanner.read_tag hs hstart hopen hclose
  refine ⟨out, ?_, fun rest => ?_⟩
  · rw [hunread]
    exact (List.append_nil out).symm
  · rw [hpieces, List.reverse_cons, List.append_assoc, h.settled, List.singleton_append,
      shownFrom_tag (applyTag_eq_ok_iff.mpr hturns)]

/-- Once the text has ended, all of it is shown. -/
theorem shown_eq {markup : List Char} (h : (Scanner.read {} markup).Shows stack out) :
    shown markup = .ok out := by
  have hsettled := h.settled []
  rw [List.append_nil, ← Scanner.finish_eq] at hsettled
  refine hsettled.trans ?_
  show Except.ok (out ++ []) = _
  rw [List.append_nil]

end Scanner.Shows

/-! ### Words of one's own -/

/-- A text between the tags of a look. -/
def styledText (look cs : List Char) : List Char :=
  '[' :: (look ++ [']']) ++ (cs ++ '[' :: ('/' :: look ++ [']']))

/-- Behind a look that has been closed nothing is unread. -/
theorem Scanner.read_styledText (s : Scanner) {look cs : List Char} (hlook : IsLook look)
    (hcs : Quiet cs) (hne : cs ≠ []) :
    (s.read (styledText look cs)).scan = .between 0 ∧
      (s.read (styledText look cs)).unread = [] := by
  obtain ⟨hopen, hclose⟩ := hlook.not_mem_brackets
  unfold styledText
  rw [Scanner.read_append, Scanner.read_append]
  have hease := Scanner.atEase_read_quiet (s.read ('[' :: (look ++ [']']))) hcs hne
  have hclosing := @Scanner.read_tag _ hease ('/' :: look) ⟨'/', rfl, by decide⟩
    (by simpa using hopen) (by simpa using hclose)
  exact ⟨hclosing.1, hclosing.2.1⟩

/-- A text in a look is shown as it is. -/
theorem Scanner.Shows.styled {s : Scanner} {stack : List String} {out cs look : List Char}
    (h : s.Shows stack out) (hs : s.AtEase) (hlook : IsLook look) (hcs : Quiet cs)
    (hne : cs ≠ []) : (s.read (styledText look cs)).Shows stack (out ++ cs) := by
  obtain ⟨form, hturns⟩ := hlook.turns
  obtain ⟨hopen, hclose⟩ := hlook.not_mem_brackets
  obtain ⟨c, hhead, hstart, -⟩ := hlook.starts
  have hopening := h.tag hs (hturns stack).1 ⟨c, hhead, hstart⟩ hopen hclose
  have hclosing := (hopening.quiet hcs).tag (Scanner.atEase_read_quiet _ hcs hne) (hturns stack).2
    ⟨'/', rfl, by decide⟩ (by simpa using hopen) (by simpa using hclose)
  unfold styledText
  rwa [Scanner.read_append, Scanner.read_append]

/-- A tag takes its bracket away again. -/
theorem Scanner.total_read_tag (s : Scanner) {inner : List Char}
    (hstart : ∃ c ∈ inner.head?, startsTag c = true) (hplain : ∀ c ∈ inner, isMark c = false) :
    (s.read ('[' :: (inner ++ [']']))).total ≤ s.total := by
  have hopen : '[' ∉ inner := fun hmem => absurd (hplain _ hmem) (by decide)
  have hless := s.total_read_of_holdsTag ⟨[], inner, [], rfl, hopen, hstart⟩
  have hbracket : marks ('[' :: (inner ++ [']'])) = 1 := by
    rw [marks_cons, marks_append, marks_eq_zero hplain]
    rfl
  rw [List.nil_append, hbracket] at hless
  omega

/-- Words, some of them in a look, and how they are shown. -/
inductive Spoken : List Char → List Char → Prop
  /-- No words. -/
  | nil : Spoken [] []
  /-- Quiet words. -/
  | quiet {cs markup told : List Char} : Quiet cs → cs ≠ [] → Spoken markup told →
      Spoken (cs ++ markup) (cs ++ told)
  /-- Quiet words in a look. -/
  | styled {look cs markup told : List Char} : IsLook look → Quiet cs → cs ≠ [] →
      Spoken markup told → Spoken (styledText look cs ++ markup) (cs ++ told)

namespace Spoken

variable {markup told : List Char}

theorem quiet_told (h : Spoken markup told) : Quiet told := by
  induction h with
  | nil => exact fun _ hc => absurd hc List.not_mem_nil
  | quiet hcs _ _ ih => exact hcs.append ih
  | styled _ hcs _ _ ih => exact hcs.append ih

/-- **Words of one's own are shown behind any text** that no backslash ends. -/
theorem shows (h : Spoken markup told) {s : Scanner} {stack : List String} {out : List Char}
    (hs : s.AtEase) (hshows : s.Shows stack out) : (s.read markup).Shows stack (out ++ told) := by
  induction h generalizing s out with
  | nil => rwa [List.append_nil]
  | quiet hcs hne _ ih =>
    -- Quiet words end in no backslash, so what follows them is not escaped.
    rw [Scanner.read_append, ← List.append_assoc]
    exact ih (Scanner.atEase_read_quiet s hcs hne) (hshows.quiet hcs)
  | @styled look cs _ _ hlook hcs hne _ ih =>
    have hclosed : (s.read (styledText look cs)).AtEase := by
      unfold Scanner.AtEase
      rw [(s.read_styledText hlook hcs hne).1]
    rw [Scanner.read_append, ← List.append_assoc]
    exact ih hclosed (hshows.styled hs hlook hcs hne)

/-- They add no marks to what may be shown. -/
theorem total_read_le (h : Spoken markup told) (s : Scanner) : (s.read markup).total ≤ s.total := by
  induction h generalizing s with
  | nil => exact Nat.le_refl _
  | @quiet cs _ _ hcs _ _ ih =>
    have hquiet := s.total_read_le cs
    have hrest := ih (s.read cs)
    rw [hcs.marks_eq] at hquiet
    rw [Scanner.read_append]
    omega
  | @styled look cs _ _ hlook hcs _ _ ih =>
    have hopening := Scanner.total_read_tag s (hlook.starts.imp fun _ h => ⟨h.1, h.2.1⟩)
      fun c hc => (hlook.plain c hc).1
    have hinside := (s.read ('[' :: (look ++ [']']))).total_read_le cs
    have hclosing := Scanner.total_read_tag ((s.read ('[' :: (look ++ [']']))).read cs)
      ⟨'/', rfl, by decide⟩
      (List.forall_mem_cons.mpr ⟨by decide, fun c hc => (hlook.plain c hc).1⟩)
    have hrest := ih (s.read (styledText look cs))
    rw [hcs.marks_eq] at hinside
    -- Opening tag, text and closing tag: none of the three raises the total.
    have hsplit : s.read (styledText look cs) =
        ((s.read ('[' :: (look ++ [']']))).read cs).read ('[' :: ('/' :: look ++ [']'])) := by
      unfold styledText
      rw [Scanner.read_append, Scanner.read_append]
    rw [Scanner.read_append]
    rw [← hsplit] at hclosing
    omega

end Spoken

/-! ### Verbatim texts -/

/-- A text that is printed as it is, character by character. -/
structure Verbatim (cs : List Char) : Prop where
  /-- No tag stands in it. -/
  tagless : ¬ HoldsTag cs
  /-- No backslash stands in front of a bracket. -/
  unescaped : ¬ HoldsEscape cs
  /-- No emoji is named in it. -/
  codeless : Codeless cs
  /-- Nothing in it controls the terminal, and neither a tab nor a line feed is in it. -/
  steady : ∀ c ∈ cs, isSteady c = true

theorem Verbatim.shown_eq {cs : List Char} (h : Verbatim cs) : Emoji.replace (plain cs) = cs := by
  rw [plain_eq_self h.unescaped, h.codeless.replace_eq]

/-- Without tags, a steady text that keeps its marks is printed as it is. -/
theorem verbatim_of_marks {cs : List Char} (htagless : ¬ HoldsTag cs)
    (hsteady : ∀ c ∈ cs, isSteady c = true) (h : marks cs ≤ marks (Emoji.replace (plain cs))) :
    Verbatim cs := by
  have hreplaced := Emoji.marks_replace (plain cs)
  have hplain := marks_plain cs
  have hunescaped : ¬ HoldsEscape cs := hplain.2 (by omega)
  have hcodeless := hreplaced.2 (by omega)
  rw [plain_eq_self hunescaped] at hcodeless
  exact ⟨htagless, hunescaped, hcodeless, hsteady⟩

/-- No tag stands in a text where no bracket is in front of what can begin one. -/
theorem not_holdsTag_of_pairs {cs : List Char}
    (h : ((cs.zip cs.tail).all fun p => p.1 != '[' || !startsTag p.2) = true) : ¬ HoldsTag cs := by
  have hpair : ∀ before c rest, ('[', c) ∈
      (before ++ '[' :: c :: rest : List Char).zip (before ++ '[' :: c :: rest).tail := by
    intro before c rest
    induction before with
    | nil => exact List.mem_cons_self
    | cons b before ih =>
      cases before with
      | nil => exact List.mem_cons_of_mem _ ih
      | cons d before => exact List.mem_cons_of_mem _ ih
  rintro ⟨before, inner, after, rfl, -, c, hhead, hstart⟩
  obtain ⟨more, rfl⟩ := List.head?_eq_some_iff.mp hhead
  have hnone := List.all_eq_true.mp h ('[', c) (hpair before c (more ++ ']' :: after))
  simp [hstart] at hnone

/-- Quiet text is verbatim. -/
theorem Quiet.verbatim {cs : List Char} (h : Quiet cs) : Verbatim cs := by
  have hopen : '[' ∉ cs := fun hmem => (ne_of_isQuiet (h _ hmem)).2.1 rfl
  refine ⟨?_, ?_, Emoji.codeless_of_not_mem h.not_mem_colon, h.steady⟩
  · rintro ⟨before, inner, after, rfl, -, -⟩
    exact hopen (by simp)
  · rintro ⟨before, after, rfl⟩
    exact hopen (by simp)

/-- A text without tags closes nothing. -/
theorem sound_of_tagless {markup : String} (h : ¬ HoldsTag markup.toList) : Sound markup := by
  have hquiet : Quiet ({} : Scanner).unread := fun _ hc => absurd hc List.not_mem_nil
  exact exists_shown_iff.mp ⟨_, (Scanner.Shows.start.tagless rfl hquiet h).shown_eq⟩

theorem sound_of_quiet {markup : String} (h : Quiet markup.toList) : Sound markup :=
  sound_of_tagless h.verbatim.tagless

/-! ### Lines -/

theorem expandTabs_of_not_mem {column : Nat} {cs : List Char} (h : '\t' ∉ cs) :
    expandTabs column cs = cs := by
  induction cs generalizing column with
  | nil => rfl
  | cons c cs ih =>
    simp only [List.mem_cons, not_or] at h
    rw [expandTabs, ih h.2]
    exact fun htab => h.1 htab.symm

/-- Only blanks come in for tabs, and no tab stays. -/
theorem of_mem_expandTabs {column : Nat} {cs : List Char} {c : Char}
    (h : c ∈ expandTabs column cs) : c = ' ' ∨ (c ∈ cs ∧ c ≠ '\t') := by
  fun_induction expandTabs column cs with
  | case1 => cases h
  | case2 column cs width ih =>
    rcases List.mem_append.mp h with hblank | hrest
    · exact .inl (List.eq_of_mem_replicate hblank)
    · exact (ih hrest).imp_right fun hlater => ⟨List.mem_cons_of_mem _ hlater.1, hlater.2⟩
  | case3 column d cs hne ih =>
    rcases List.mem_cons.mp h with rfl | hrest
    · exact .inr ⟨by simp, hne⟩
    · exact (ih hrest).imp_right fun hlater => ⟨List.mem_cons_of_mem _ hlater.1, hlater.2⟩

theorem marks_expandTabs (column : Nat) (cs : List Char) :
    marks (expandTabs column cs) = marks cs := by
  fun_induction expandTabs column cs with
  | case1 => rfl
  | case2 column cs width ih =>
    have hblanks : marks (List.replicate width ' ') = 0 :=
      marks_eq_zero fun c hc => by rw [List.eq_of_mem_replicate hc]; decide
    rw [marks_append, hblanks, ih, marks_cons '\t']
    rfl
  | case3 column d cs hne ih => rw [marks_cons d (expandTabs _ cs), ih, ← marks_cons]

theorem trimEnd_sublist (cs : List Char) : (trimEnd cs).Sublist cs := by
  have hreverse := (List.dropWhile_sublist Text.isBlank (l := cs.reverse)).reverse
  rwa [List.reverse_reverse] at hreverse

theorem trimEnd_of_last {cs : List Char} (h : ∀ c ∈ cs.getLast?, Text.isBlank c = false) :
    trimEnd cs = cs := by
  unfold trimEnd
  cases hback : cs.reverse with
  | nil =>
    rw [List.reverse_eq_nil_iff.mp hback]
    rfl
  | cons c rest =>
    have hlast : cs.getLast? = some c := by rw [← List.head?_reverse, hback]; rfl
    rw [List.dropWhile_cons_of_neg (by simp [h c hlast]), ← hback, List.reverse_reverse]

/-- **A steady text** that does not end in a blank is printed as one line. -/
theorem printed_of_shown {markup : String} {cs : List Char} (h : shown markup.toList = .ok cs)
    (hsteady : ∀ c ∈ cs, isSteady c = true) (hlast : ∀ c ∈ cs.getLast?, Text.isBlank c = false) :
    printed markup = .ok [String.ofList cs] := by
  have hcontrol : cs.filter (fun c => !isControl c) = cs := by
    refine List.filter_eq_self.mpr fun c hc => ?_
    have := hsteady c hc
    simp only [isSteady, Bool.and_eq_true] at this
    exact this.1.1
  have htab : '\t' ∉ cs := fun hc => absurd (hsteady _ hc) (by decide)
  have hline : '\n' ∉ cs := fun hc => absurd (hsteady _ hc) (by decide)
  unfold printed
  rw [h]
  show Except.ok ((Text.cutAt '\n' (cs.filter fun c => !isControl c)).map fun line =>
    String.ofList (trimEnd (expandTabs 0 line))) = _
  rw [hcontrol, Text.cutAt_of_not_mem hline, List.map_singleton, expandTabs_of_not_mem htab,
    trimEnd_of_last hlast]

/-- **Whatever is printed** was shown; there is a line of it, and no line has
    more marks than the text or a character that is not steady. -/
theorem exists_of_printed {markup : String} {lines : List String}
    (h : printed markup = .ok lines) :
    ∃ cs, shown markup.toList = .ok cs ∧ lines ≠ [] ∧
      ∀ line ∈ lines, marks line.toList ≤ marks cs ∧ ∀ c ∈ line.toList, isSteady c = true := by
  unfold printed at h
  cases hshown : shown markup.toList with
  | error f => rw [hshown] at h; cases h
  | ok cs =>
    rw [hshown] at h
    cases h
    refine ⟨cs, rfl, by simpa using Text.cutAt_ne_nil _ _, fun line hline => ?_⟩
    obtain ⟨piece, hpiece, rfl⟩ := List.mem_map.mp hline
    rw [String.toList_ofList]
    have hwithin : piece.Sublist cs :=
      (Text.sublist_of_mem_cutAt hpiece).trans List.filter_sublist
    refine ⟨?_, fun c hc => ?_⟩
    · -- Cutting, widening tabs and trimming add no mark.
      calc marks (trimEnd (expandTabs 0 piece))
          ≤ marks (expandTabs 0 piece) := (trimEnd_sublist _).countP_le
        _ = marks piece := marks_expandTabs 0 piece
        _ ≤ marks cs := hwithin.countP_le
    · rcases of_mem_expandTabs ((trimEnd_sublist _).subset hc) with rfl | ⟨hmem, htab⟩
      · decide
      · have hcontrol := (List.mem_filter.mp ((Text.sublist_of_mem_cutAt hpiece).subset hmem)).2
        have hfeed : c ≠ '\n' := fun heq => Text.not_mem_of_mem_cutAt hpiece (heq ▸ hmem)
        simp only [isSteady, Bool.and_eq_true, bne_iff_ne]
        exact ⟨⟨hcontrol, htab⟩, hfeed⟩

/-- Words of one's own are printed as one line. -/
theorem Spoken.printed_eq {markup : String} {told : List Char} (h : Spoken markup.toList told)
    (hlast : ∀ c ∈ told.getLast?, Text.isBlank c = false) :
    printed markup = .ok [String.ofList told] := by
  have hshows := h.shows (s := {}) rfl .start
  exact printed_of_shown hshows.shown_eq h.quiet_told.steady hlast

end Markup

end SinkPipeline
