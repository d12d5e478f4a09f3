import Mathlib.Data.List.Induction
import SinkPipeline.Proofs.Report.Codes
import SinkPipeline.Report.Markup

/-! # What the scanner of markup reads

  At every point the scanner has read some pieces, and behind them a text that
  may still turn out to hold a tag.

  - A character goes to the end of that text, unless it **closes** a tag.
  - In a text that **holds a tag** some character does, wherever the scanner
    stood before; in a text that holds none no character does if the scanner
    stood in ordinary text.
  - No character adds more marks than it is, and one that closes a tag takes one
    away: the bracket of the tag, or the backslash in front of it.
-/

namespace SinkPipeline.Markup

open Emoji (marks isMark marks_append marks_cons marks_reverse)

/-! ### Backslashes -/

theorem slashText_succ (n : Nat) : slashText (n + 1) = slashText n ++ ['\\'] :=
  List.replicate_succ'

theorem reverse_slashText (n : Nat) : (slashText n).reverse = slashText n := List.reverse_replicate

theorem marks_slashText (n : Nat) : marks (slashText n) = n := by
  induction n with
  | zero => rfl
  | succ n ih =>
    rw [slashText_succ, marks_append, ih]
    rfl

/-- Backslashes that are taken off a text can be put back. -/
theorem reverse_drop_append_slashText (inner : List Char) :
    (inner.drop (inner.takeWhile (· == '\\')).length).reverse ++
      slashText (inner.takeWhile (· == '\\')).length = inner.reverse := by
  induction inner with
  | nil => rfl
  | cons c cs ih =>
    by_cases hc : c = '\\'
    · subst hc
      have htake : ('\\' :: cs).takeWhile (· == '\\') = '\\' :: cs.takeWhile (· == '\\') := by simp
      rw [htake, List.length_cons, List.drop_succ_cons, slashText_succ, ← List.append_assoc, ih,
        List.reverse_cons]
    · have htake : (c :: cs).takeWhile (· == '\\') = [] := by simp [hc]
      rw [htake]
      simp [slashText]

/-! ### Escapes -/

/-- A backslash stands in front of a bracket. -/
def HoldsEscape (cs : List Char) : Prop := ['\\', '['] <:+: cs

/-- A text loses a mark with each backslash that vanishes. -/
theorem marks_plain (cs : List Char) :
    marks (plain cs) ≤ marks cs ∧ (marks (plain cs) = marks cs → ¬ HoldsEscape cs) := by
  fun_induction plain cs with
  | case1 cs ih =>
    have hbefore : marks ('\\' :: '[' :: cs) = 2 + marks cs := marks_append ['\\', '['] cs
    have hafter : marks ('[' :: plain cs) = 1 + marks (plain cs) := marks_append ['['] (plain cs)
    rw [hbefore, hafter]
    exact ⟨by omega, fun heq => absurd heq (by omega)⟩
  | case2 c cs hne ih =>
    rw [marks_cons c (plain cs), marks_cons c cs]
    refine ⟨by omega, fun heq hescape => ?_⟩
    rcases List.infix_cons_iff.mp hescape with hfront | hlater
    · obtain ⟨rfl, hnext⟩ := List.cons_prefix_cons.mp hfront
      obtain ⟨rest, rfl⟩ := hnext
      exact hne rest rfl rfl
    · exact ih.2 (by omega) hlater
  | case3 => exact ⟨Nat.le_refl _, fun _ hescape => by simpa using List.infix_nil.mp hescape⟩

/-- Without escapes nothing vanishes. -/
theorem plain_eq_self {cs : List Char} (h : ¬ HoldsEscape cs) : plain cs = cs := by
  fun_induction plain cs with
  | case1 cs ih => exact absurd ⟨[], cs, rfl⟩ h
  | case2 c cs hne ih =>
    rw [ih fun hlater => h (List.infix_cons_iff.mpr (.inr hlater))]
  | case3 => rfl

/-- A text that does not begin with a bracket goes on by itself. -/
theorem plain_append (cs : List Char) {ds : List Char} (h : ∀ d ∈ ds.head?, d ≠ '[') :
    plain (cs ++ ds) = plain cs ++ plain ds := by
  fun_induction plain cs with
  | case1 cs ih => rw [List.cons_append, List.cons_append, plain, ih, List.cons_append]
  | case2 c cs hne ih =>
    rw [List.cons_append, plain, ih, List.cons_append]
    rintro rest rfl hrest
    cases cs with
    | nil => exact h '[' (by simp only [List.nil_append] at hrest; simp [hrest]) rfl
    | cons d cs =>
      obtain ⟨rfl, rfl⟩ := List.cons.inj hrest
      exact hne cs rfl rfl
  | case3 => rfl

/-! ### What has been read -/

/-- What has been read behind the last piece. -/
def Scanner.unread (s : Scanner) : List Char :=
  match s.scan with
  | .between slashes => s.pending.reverse ++ slashText slashes
  | .opening slashes => s.pending.reverse ++ (slashText slashes ++ ['['])
  | .inside slashes inner => s.pending.reverse ++ (slashText slashes ++ '[' :: inner.reverse)

/-- A scanner behind some more characters. -/
def Scanner.read (s : Scanner) (cs : List Char) : Scanner := cs.foldl Scanner.step s

theorem Scanner.read_append (s : Scanner) (cs ds : List Char) :
    s.read (cs ++ ds) = (s.read cs).read ds := List.foldl_append

theorem Scanner.read_cons (s : Scanner) (c : Char) (cs : List Char) :
    s.read (c :: cs) = (s.step c).read cs := rfl

/-- The pieces, what has been read behind them being one more. -/
def Scanner.settled (s : Scanner) : List Piece :=
  if s.unread = [] then s.pieces else .text (plain s.unread) :: s.pieces

/-- Once the text has ended, it is settled. -/
theorem Scanner.finish_eq (s : Scanner) : s.finish = s.settled.reverse := by
  have hpending : s.finish = (Scanner.flushed { s with pending := s.unread.reverse }).reverse := by
    unfold Scanner.finish Scanner.unread
    cases s.scan <;> simp [reverse_slashText]
  rw [hpending]
  simp only [Scanner.flushed, Scanner.settled, List.reverse_eq_nil_iff, List.reverse_reverse]

/-! ### One character -/

theorem Scanner.plainStep_spec (s : Scanner) (slashes : Nat) (pending : List Char) (c : Char) :
    (s.plainStep slashes pending c).unread = pending.reverse ++ (slashText slashes ++ [c]) ∧
      (s.plainStep slashes pending c).pieces = s.pieces := by
  unfold Scanner.plainStep
  split
  · next hc =>
    subst hc
    refine ⟨?_, rfl⟩
    show pending.reverse ++ slashText (slashes + 1) = _
    rw [slashText_succ]
  · split
    · next hc =>
      subst hc
      exact ⟨rfl, rfl⟩
    · refine ⟨?_, rfl⟩
      show (c :: (slashText slashes ++ pending)).reverse ++ slashText 0 = _
      simp [slashText]

/-- Does the character close a tag? -/
def Scanner.Closes (s : Scanner) (c : Char) : Prop :=
  c = ']' ∧ ∃ slashes inner, s.scan = .inside slashes inner

/-- **A character that closes no tag** goes to the end of the text. -/
theorem Scanner.step_of_not_closes {s : Scanner} {c : Char} (h : ¬ s.Closes c) :
    (s.step c).unread = s.unread ++ [c] ∧ (s.step c).pieces = s.pieces := by
  obtain ⟨scan, position, pending, pieces⟩ := s
  cases scan with
  | between slashes =>
    have hspec := Scanner.plainStep_spec ⟨.between slashes, position, pending, pieces⟩ slashes
      pending c
    refine ⟨hspec.1.trans ?_, hspec.2⟩
    simp [Scanner.unread]
  | opening slashes =>
    by_cases hc : startsTag c = true
    · simp [Scanner.step, Scanner.unread, hc]
    · have hspec := Scanner.plainStep_spec ⟨.opening slashes, position, pending, pieces⟩ 0
        ('[' :: (slashText slashes ++ pending)) c
      have hstep : (Scanner.mk (.opening slashes) position pending pieces).step c =
          { (Scanner.mk (.opening slashes) position pending pieces).plainStep 0
              ('[' :: (slashText slashes ++ pending)) c with position := position + 1 } := by
        simp only [Scanner.step, if_neg hc]
      rw [hstep]
      refine ⟨hspec.1.trans ?_, hspec.2⟩
      simp [Scanner.unread, slashText]
  | inside slashes inner =>
    have hclose : c ≠ ']' := fun hc => h ⟨hc, slashes, inner, rfl⟩
    by_cases hc : c = '['
    · subst hc
      refine ⟨?_, by simp [Scanner.step]⟩
      have hback := reverse_drop_append_slashText inner
      simp only [Scanner.step, Scanner.unread, hclose, if_false, if_true, List.reverse_append,
        List.reverse_cons, reverse_slashText, List.append_assoc]
      rw [← hback]
      simp
    · simp [Scanner.step, Scanner.unread, hclose, hc]

/-- A bracket opens behind every text. -/
theorem Scanner.step_bracket (s : Scanner) : ∃ slashes, (s.step '[').scan = .opening slashes := by
  obtain ⟨scan, position, pending, pieces⟩ := s
  cases scan with
  | between slashes => exact ⟨slashes, rfl⟩
  | opening slashes => exact ⟨0, rfl⟩
  | inside slashes inner => exact ⟨_, rfl⟩

theorem Scanner.step_opening {s : Scanner} {slashes : Nat} (h : s.scan = .opening slashes)
    {c : Char} (hc : startsTag c = true) :
    (s.step c).scan = .inside slashes [c] ∧ (s.step c).pending = s.pending ∧
      (s.step c).pieces = s.pieces := by
  obtain ⟨scan, position, pending, pieces⟩ := s
  obtain rfl : scan = .opening slashes := h
  simp [Scanner.step, hc]

theorem Scanner.step_inside {s : Scanner} {slashes : Nat} {inner : List Char}
    (h : s.scan = .inside slashes inner) {c : Char} (hopen : c ≠ '[') (hclose : c ≠ ']') :
    (s.step c).scan = .inside slashes (c :: inner) ∧ (s.step c).pending = s.pending ∧
      (s.step c).pieces = s.pieces := by
  obtain ⟨scan, position, pending, pieces⟩ := s
  obtain rfl : scan = .inside slashes inner := h
  simp [Scanner.step, hopen, hclose]

/-! ### Marks -/

/-- How many marks are in a piece that is shown. -/
def Piece.marks : Piece → Nat
  | .text cs => Emoji.marks cs
  | .tag _ _ => 0

/-- How many marks are in pieces that are shown. -/
def textMarks : List Piece → Nat
  | [] => 0
  | p :: ps => p.marks + textMarks ps

@[simp] theorem textMarks_nil : textMarks [] = 0 := rfl

@[simp] theorem textMarks_cons (p : Piece) (ps : List Piece) :
    textMarks (p :: ps) = p.marks + textMarks ps := rfl

@[simp] theorem textMarks_append (ps qs : List Piece) :
    textMarks (ps ++ qs) = textMarks ps + textMarks qs := by
  induction ps with
  | nil => simp
  | cons p ps ih => simp [ih, Nat.add_assoc]

theorem textMarks_reverse (ps : List Piece) : textMarks ps.reverse = textMarks ps := by
  induction ps with
  | nil => rfl
  | cons p ps ih => simp [ih, Nat.add_comm]

/-- How many marks are in what has been read and may be shown. -/
def Scanner.total (s : Scanner) : Nat := textMarks s.pieces + marks s.unread

/-- What is pending is a piece of no more marks. -/
theorem Scanner.textMarks_flushed_le (s : Scanner) :
    textMarks s.flushed ≤ textMarks s.pieces + marks s.pending := by
  unfold Scanner.flushed
  split
  · omega
  · have hplain := (marks_plain s.pending.reverse).1
    rw [marks_reverse] at hplain
    rw [textMarks_cons]
    show marks (plain s.pending.reverse) + textMarks s.pieces ≤ _
    omega

/-- Of the backslashes before a bracket one half is kept. -/
theorem textMarks_halved (slashes : Nat) :
    textMarks (if slashes / 2 = 0 then [] else [Piece.text (slashText (slashes / 2))]) =
      slashes / 2 := by
  split
  · next hzero =>
    rw [hzero]
    rfl
  · rw [textMarks_cons, textMarks_nil]
    exact marks_slashText _

/-- The bracket goes, unless a backslash is left over for it. -/
theorem marks_closed_lt (slashes position : Nat) (inner : List Char) :
    (if slashes % 2 = 1 then Piece.text ('[' :: inner.reverse ++ [']'])
      else .tag position inner.reverse).marks + slashes / 2 < slashes + (1 + marks inner) := by
  split
  · next hodd =>
    have hescaped : (Piece.text ('[' :: inner.reverse ++ [']'])).marks = 1 + marks inner := by
      show marks ('[' :: inner.reverse ++ [']']) = _
      rw [marks_append, marks_cons '[', marks_reverse]
      rfl
    rw [hescaped]
    omega
  · show 0 + slashes / 2 < _
    omega

/-- **Closing a tag takes a mark away.** -/
theorem Scanner.total_step_closes {s : Scanner} {c : Char} (h : s.Closes c) :
    (s.step c).total < s.total := by
  obtain ⟨rfl, slashes, inner, hscan⟩ := h
  obtain ⟨scan, position, pending, pieces⟩ := s
  obtain rfl : scan = .inside slashes inner := hscan
  have hflushed := Scanner.textMarks_flushed_le ⟨.inside slashes inner, position, pending, pieces⟩
  have hbefore : (Scanner.mk (.inside slashes inner) position pending pieces).total =
      textMarks pieces + (marks pending + (slashes + (1 + marks inner))) := by
    show textMarks pieces +
      marks (pending.reverse ++ (slashText slashes ++ '[' :: inner.reverse)) = _
    rw [marks_append, marks_append, marks_slashText, marks_cons '[', marks_reverse, marks_reverse]
    rfl
  have hlast := marks_closed_lt slashes
    (position - (slashes + 1 + inner.length) + slashes / 2 * 2) inner
  -- What is pending, the backslashes that are kept, and the tag become pieces.
  have hpieces : ((Scanner.mk (.inside slashes inner) position pending pieces).step ']').pieces =
      (if slashes % 2 = 1 then Piece.text ('[' :: inner.reverse ++ [']'])
        else .tag (position - (slashes + 1 + inner.length) + slashes / 2 * 2) inner.reverse) ::
      ((if slashes / 2 = 0 then [] else [Piece.text (slashText (slashes / 2))]) ++
        (Scanner.mk (.inside slashes inner) position pending pieces).flushed) := rfl
  have hunread :
      ((Scanner.mk (.inside slashes inner) position pending pieces).step ']').unread = [] := rfl
  rw [hbefore]
  unfold Scanner.total
  rw [hpieces, hunread, textMarks_cons, textMarks_append, textMarks_halved, Emoji.marks_nil]
  simp only at hflushed
  omega

theorem Scanner.total_step_le (s : Scanner) (c : Char) :
    (s.step c).total ≤ s.total + marks [c] := by
  by_cases h : s.Closes c
  · have hless := Scanner.total_step_closes h
    omega
  · obtain ⟨hunread, hpieces⟩ := Scanner.step_of_not_closes h
    unfold Scanner.total
    rw [hunread, hpieces, marks_append]
    omega

theorem Scanner.total_read_le (s : Scanner) (cs : List Char) :
    (s.read cs).total ≤ s.total + marks cs := by
  induction cs generalizing s with
  | nil => exact Nat.le_refl _
  | cons c cs ih =>
    have hstep := s.total_step_le c
    have hrest := ih (s.step c)
    rw [Scanner.read_cons, marks_cons]
    omega

/-! ### Tags in a text -/

/-- A tag stands in the text: a bracket that begins as tags do and is closed
    before another one opens. -/
def HoldsTag (cs : List Char) : Prop :=
  ∃ before inner after, cs = before ++ '[' :: (inner ++ ']' :: after) ∧ '[' ∉ inner ∧
    ∃ c ∈ inner.head?, startsTag c = true

theorem HoldsTag.append_right {cs : List Char} (h : HoldsTag cs) (ds : List Char) :
    HoldsTag (cs ++ ds) := by
  obtain ⟨before, inner, after, rfl, hopen, hstart⟩ := h
  exact ⟨before, inner, after ++ ds, by simp, hopen, hstart⟩

/-- Inside of brackets the first closing one closes a tag. -/
theorem Scanner.total_read_inside {s : Scanner} {slashes : Nat} {inner : List Char}
    (h : s.scan = .inside slashes inner) {cs : List Char} (hcs : '[' ∉ cs) :
    (s.read (cs ++ [']'])).total < s.total + marks (cs ++ [']']) := by
  induction cs generalizing s inner with
  | nil =>
    have hless : (s.step ']').total < s.total := Scanner.total_step_closes ⟨rfl, slashes, inner, h⟩
    show (s.step ']').total < _
    omega
  | cons c cs ih =>
    have hrest : '[' ∉ cs := List.not_mem_of_not_mem_cons hcs
    rw [List.cons_append, Scanner.read_cons, marks_cons c]
    by_cases hc : c = ']'
    · have hless := Scanner.total_step_closes ⟨hc, slashes, inner, h⟩
      have hmore := (s.step c).total_read_le (cs ++ [']'])
      omega
    · have hopen : c ≠ '[' := fun hsame => hcs (by simp [hsame])
      have hmore := ih (Scanner.step_inside h hopen hc).1 hrest
      have hstep := s.total_step_le c
      omega

/-- **A tag takes a mark away**, wherever the scanner stood. -/
theorem Scanner.total_read_of_holdsTag (s : Scanner) {cs : List Char} (h : HoldsTag cs) :
    (s.read cs).total < s.total + marks cs := by
  obtain ⟨before, inner, after, rfl, hopen, c, hhead, hstart⟩ := h
  obtain ⟨more, rfl⟩ := List.head?_eq_some_iff.mp hhead
  have hsplit : before ++ '[' :: (c :: more ++ ']' :: after) =
      before ++ (['['] ++ ([c] ++ ((more ++ [']']) ++ after))) := by simp
  rw [hsplit]
  simp only [Scanner.read_append, marks_append]
  have hbefore := s.total_read_le before
  generalize s.read before = s₁ at hbefore ⊢
  obtain ⟨slashes, hopening⟩ := s₁.step_bracket
  have hbracket : (s₁.read ['[']).total ≤ s₁.total + marks ['['] := s₁.total_read_le ['[']
  have hscan : (s₁.read ['[']).scan = .opening slashes := hopening
  generalize s₁.read ['['] = s₂ at hbracket hscan ⊢
  have hfirst : (s₂.read [c]).total ≤ s₂.total + marks [c] := s₂.total_read_le [c]
  have hinside : (s₂.read [c]).scan = .inside slashes [c] := (Scanner.step_opening hscan hstart).1
  generalize s₂.read [c] = s₃ at hfirst hinside ⊢
  have hclosed := Scanner.total_read_inside hinside (List.not_mem_of_not_mem_cons hopen)
  have hafter := (s₃.read (more ++ [']'])).total_read_le after
  rw [marks_append more] at hclosed
  rw [Scanner.read_append] at hclosed hafter
  omega

/-- What the state tells about a text that was read from ordinary text on. -/
def Scanner.Stands (s : Scanner) (cs : List Char) : Prop :=
  match s.scan with
  | .between _ => True
  | .opening _ => ∃ front, cs = front ++ ['[']
  | .inside _ inner => (∃ front, cs = front ++ '[' :: inner.reverse) ∧ '[' ∉ inner ∧
      ∃ c ∈ inner.getLast?, startsTag c = true

theorem Scanner.Stands.step {s : Scanner} {cs : List Char} (h : s.Stands cs) {c : Char}
    (hc : ¬ s.Closes c) : (s.step c).Stands (cs ++ [c]) := by
  obtain ⟨scan, position, pending, pieces⟩ := s
  -- Outside of a tag, only an opening bracket has to stand in the text.
  have hplain : ∀ (s : Scanner) slashes pending n,
      ({ s.plainStep slashes pending c with position := n } : Scanner).Stands (cs ++ [c]) := by
    intro s slashes pending n
    unfold Scanner.plainStep
    split
    · trivial
    · split
      · next hopen => exact ⟨cs, by rw [hopen]⟩
      · trivial
  cases scan with
  | between slashes => exact hplain _ slashes pending _
  | opening slashes =>
    obtain ⟨front, rfl⟩ := h
    by_cases hstart : startsTag c = true
    · simp only [Scanner.step, if_pos hstart]
      refine ⟨⟨front, by simp⟩, ?_, c, rfl, hstart⟩
      simp only [List.mem_singleton]
      rintro rfl
      revert hstart
      decide
    · simp only [Scanner.step, if_neg hstart]
      exact hplain _ 0 _ _
  | inside slashes inner =>
    obtain ⟨⟨front, rfl⟩, hopen, d, hlast, hstart⟩ := h
    have hclose : c ≠ ']' := fun hsame => hc ⟨hsame, slashes, inner, rfl⟩
    by_cases hbracket : c = '['
    · subst hbracket
      simp only [Scanner.step, if_neg hclose, if_true]
      exact ⟨_, rfl⟩
    · simp only [Scanner.step, if_neg hclose, if_neg hbracket]
      refine ⟨⟨front, by simp⟩, ?_, d, ?_, hstart⟩
      · simp [hopen, Ne.symm hbracket]
      · rw [List.getLast?_cons, hlast]
        rfl

/-- **A text without tags** is read as it stands. -/
theorem Scanner.read_of_tagless {s : Scanner} {slashes : Nat} (hs : s.scan = .between slashes)
    {cs : List Char} (h : ¬ HoldsTag cs) :
    (s.read cs).unread = s.unread ++ cs ∧ (s.read cs).pieces = s.pieces := by
  -- Along the text the state tells what has been read of it.
  have hboth : ∀ ds, ¬ HoldsTag ds →
      ((s.read ds).unread = s.unread ++ ds ∧ (s.read ds).pieces = s.pieces) ∧
        (s.read ds).Stands ds := by
    intro ds
    induction ds using List.reverseRecOn with
    | nil =>
      refine fun _ => ⟨⟨by simp [Scanner.read], rfl⟩, ?_⟩
      show s.Stands []
      unfold Scanner.Stands
      rw [hs]
      trivial
    | append_singleton ds c ih =>
      intro hnone
      obtain ⟨⟨hunread, hpieces⟩, hstands⟩ := ih fun hold => hnone (hold.append_right [c])
      have hnot : ¬ (s.read ds).Closes c := by
        -- What it would close is a tag of the text.
        rintro ⟨rfl, slashes, inner, hscan⟩
        unfold Scanner.Stands at hstands
        rw [hscan] at hstands
        obtain ⟨⟨front, rfl⟩, hopen, d, hlast, hstart⟩ := hstands
        refine hnone ⟨front, inner.reverse, [], by simp, by simpa using hopen, d, ?_, hstart⟩
        rwa [List.head?_reverse]
      obtain ⟨hunread', hpieces'⟩ := Scanner.step_of_not_closes hnot
      have hstep : s.read (ds ++ [c]) = (s.read ds).step c := s.read_append ds [c]
      rw [hstep, hunread', hpieces', hunread, hpieces, List.append_assoc]
      exact ⟨⟨rfl, rfl⟩, hstands.step hnot⟩
  exact (hboth cs h).1

end SinkPipeline.Markup
