import SinkPipeline.Json.Reader

/-! # Spellings of JSON objects

  One value can be written in many ways.  A **spelling** of a string writes each
  of its code points raw, by a short escape, by its number, or by the numbers of
  a surrogate pair; quotes, backslashes and control characters are never raw.  A
  spelling of an object writes its members in order, with blanks wherever they
  may stand.  Here the members are strings or null.

  Every spelling of an object is read as that object.  Of a string with lone
  surrogates, what is read are its code points once neighbours that make a pair
  have been **joined**; a string of characters is read as it is.
-/

namespace SinkPipeline

namespace Text

/-! ### Joining -/

/-- The code points of a text once its surrogate pairs have been joined. -/
def joined (t : Text) : Text := (t.foldl (fun acc p => pushJoining p acc) []).reverse

@[simp] theorem pushJoining_scalar (c : Char) (acc : Text) :
    pushJoining (.scalar c) acc = .scalar c :: acc := by
  unfold pushJoining
  split
  · rfl
  · rfl

/-- A high half is joined to nothing before it. -/
theorem pushJoining_high {i : Fin 2048} (h : i.val < 1024) (acc : Text) :
    pushJoining (.surrogate i) acc = .surrogate i :: acc := by
  unfold pushJoining
  split
  · dsimp only
    rw [if_neg (by omega)]
  · rfl

/-- A low half is joined to a high half before it. -/
theorem pushJoining_low {i j : Fin 2048} (hi : i.val < 1024) (hj : 1024 ≤ j.val) (acc : Text) :
    pushJoining (.surrogate j) (.surrogate i :: acc) =
      .scalar (Char.ofNat (0x10000 + i.val * 1024 + (j.val - 1024))) :: acc := by
  unfold pushJoining
  dsimp only
  rw [if_pos ⟨hi, hj⟩]

/-- Characters are joined to nothing. -/
theorem foldl_pushJoining_scalars (cs : List Char) (acc : Text) :
    (cs.map CodePoint.scalar).foldl (fun acc p => pushJoining p acc) acc =
      (cs.map CodePoint.scalar).reverse ++ acc := by
  induction cs generalizing acc with
  | nil => rfl
  | cons c cs ih =>
    rw [List.map_cons, List.foldl_cons, pushJoining_scalar, ih]
    simp

@[simp] theorem joined_scalars (cs : List Char) :
    joined (cs.map CodePoint.scalar) = cs.map CodePoint.scalar := by
  rw [joined, foldl_pushJoining_scalars]
  simp

/-- Is the code point outside the basic plane, or a surrogate? -/
def CodePoint.IsExotic : CodePoint → Prop
  | .scalar c => 0x10000 ≤ c.toNat
  | .surrogate _ => True

/-- What is exotic stays so when it is joined. -/
theorem exists_exotic_pushJoining {p : CodePoint} {acc : Text}
    (h : p.IsExotic ∨ ∃ q ∈ acc, q.IsExotic) : ∃ q ∈ pushJoining p acc, q.IsExotic := by
  have hplain : ∃ q ∈ p :: acc, q.IsExotic := by
    rcases h with h | ⟨q, hq, h⟩
    · exact ⟨p, by simp, h⟩
    · exact ⟨q, by simp [hq], h⟩
  unfold pushJoining
  split
  · next i rest =>
    split
    · next j =>
      split
      · next hpair =>
        refine ⟨_, List.mem_cons_self, ?_⟩
        -- Two halves that pair give a character beyond the basic ones.
        have hsmall : (0x10000 + i.val * 1024 + (j.val - 1024)).isValidChar := by
          refine .inr ⟨by omega, ?_⟩
          have := j.isLt
          omega
        show 0x10000 ≤ (Char.ofNat _).toNat
        rw [toNat_ofNat hsmall]
        omega
      · exact hplain
    · exact hplain
  · exact hplain

/-- A text with a surrogate is joined to something exotic. -/
theorem exists_exotic_foldl {t acc : Text}
    (h : (∃ p ∈ t, p.isSurrogate = true) ∨ ∃ q ∈ acc, q.IsExotic) :
    ∃ q ∈ t.foldl (fun acc p => pushJoining p acc) acc, q.IsExotic := by
  induction t generalizing acc with
  | nil =>
    rcases h with ⟨p, hp, -⟩ | h
    · cases hp
    · exact h
  | cons p t ih =>
    rw [List.foldl_cons]
    refine ih ?_
    rcases h with ⟨q, hq, hsurrogate⟩ | h
    · rcases List.mem_cons.1 hq with rfl | hq
      · right
        refine exists_exotic_pushJoining (.inl ?_)
        cases q with
        | scalar c => cases hsurrogate
        | surrogate i => trivial
      · exact .inl ⟨q, hq, hsurrogate⟩
    · exact .inr (exists_exotic_pushJoining (.inr h))

/-- A text without surrogates is one of characters. -/
theorem eq_scalars_of_no_surrogate {t : Text} (h : ∀ p ∈ t, p.isSurrogate = false) :
    ∃ cs : List Char, t = cs.map CodePoint.scalar := by
  induction t with
  | nil => exact ⟨[], rfl⟩
  | cons p t ih =>
    obtain ⟨cs, rfl⟩ := ih fun q hq => h q (by simp [hq])
    cases p with
    | scalar c => exact ⟨c :: cs, rfl⟩
    | surrogate i => exact absurd (h _ List.mem_cons_self) (by simp [CodePoint.isSurrogate])

@[simp] theorem hold_scalars (cs : List Char) : hold (cs.map CodePoint.scalar) = String.ofList cs := by
  rw [hold, List.map_map]
  congr 1
  induction cs with
  | nil => rfl
  | cons c cs ih =>
    rw [List.map_cons, ih]
    rfl

/-- **A text that is read as a name of the basic plane** is that name. -/
theorem eq_of_hold_joined {t : Text} {s : String} (hbasic : ∀ c ∈ s.toList, c.toNat < 0x10000)
    (h : hold (joined t) = s) : t = ofString s := by
  -- A lone half would be held by a stand-in, which is above the basic characters.
  have hnone : ∀ p ∈ t, p.isSurrogate = false := by
    intro p hp
    rw [Bool.eq_false_iff]
    intro hsurrogate
    obtain ⟨q, hq, hexotic⟩ := exists_exotic_foldl (t := t) (.inl ⟨p, hp, hsurrogate⟩)
    have hheld : q.held ∈ s.toList := by
      rw [← h, hold, String.toList_ofList]
      exact List.mem_map_of_mem (by simpa [joined] using hq)
    have hsmall := hbasic _ hheld
    cases q with
    | scalar c => exact absurd hexotic (by simpa [CodePoint.IsExotic, CodePoint.held] using hsmall)
    | surrogate i =>
      have hvalid : (firstStandIn + i.val).isValidChar := by
        have := i.isLt
        refine .inr ⟨?_, ?_⟩ <;> simp only [firstStandIn] <;> omega
      have hvalue : (CodePoint.surrogate i).held.toNat = firstStandIn + i.val := by
        rw [CodePoint.held, toNat_ofNat hvalid]
      rw [hvalue] at hsmall
      simp only [firstStandIn] at hsmall
      omega
  obtain ⟨cs, rfl⟩ := eq_scalars_of_no_surrogate hnone
  rw [joined_scalars, hold_scalars] at h
  rw [ofString, ← h, String.toList_ofList]

end Text

namespace Json

open Text (CodePoint)

/-! ### Spellings -/

/-- Four hexadecimal digits, of either case, that spell a number. -/
structure SpellsNumber (n : Nat) (ds : List Char) : Prop where
  /-- There are four. -/
  length : ds.length = 4
  /-- They are digits. -/
  digits : ∀ d ∈ ds, (Text.hexValue? d).isSome
  /-- They spell the number. -/
  value : Text.hexNumber ds = n

/-- The ways in which a code point is written inside a string. -/
inductive SpellsPoint : CodePoint → List Char → Prop where
  /-- Raw, unless it is a quote, a backslash or a control character. -/
  | raw {c : Char} (hquote : c ≠ '"') (hbackslash : c ≠ '\\') (hcontrol : 0x20 ≤ c.toNat) :
      SpellsPoint (.scalar c) [c]
  /-- By a short escape. -/
  | short {c e : Char} (h : shortEscape? e = some c) : SpellsPoint (.scalar c) ['\\', e]
  /-- By its number. -/
  | number {c : Char} {ds : List Char} (h : SpellsNumber c.toNat ds) :
      SpellsPoint (.scalar c) ('\\' :: 'u' :: ds)
  /-- By the numbers of a surrogate pair. -/
  | pair {c : Char} {high low : List Char} (hc : 0x10000 ≤ c.toNat)
      (hhigh : SpellsNumber (0xD800 + (c.toNat - 0x10000) / 1024) high)
      (hlow : SpellsNumber (0xDC00 + (c.toNat - 0x10000) % 1024) low) :
      SpellsPoint (.scalar c) ('\\' :: 'u' :: high ++ '\\' :: 'u' :: low)
  /-- A lone surrogate, by its number. -/
  | half {i : Fin 2048} {ds : List Char} (h : SpellsNumber (0xD800 + i.val) ds) :
      SpellsPoint (.surrogate i) ('\\' :: 'u' :: ds)

/-- The ways in which a text is written between the quotes of a string. -/
inductive Spells : Text → List Char → Prop where
  | nil : Spells [] []
  | cons {p : CodePoint} {t : Text} {piece rest : List Char} (first : SpellsPoint p piece)
      (more : Spells t rest) : Spells (p :: t) (piece ++ rest)

/-- May the character stand raw in a string? -/
def IsRaw (c : Char) : Prop := c ≠ '"' ∧ c ≠ '\\' ∧ 0x20 ≤ c.toNat

instance (c : Char) : Decidable (IsRaw c) := inferInstanceAs (Decidable (_ ∧ _ ∧ _))

theorem isRaw_of_all {cs : List Char} (h : cs.all (fun c => decide (IsRaw c)) = true) :
    ∀ c ∈ cs, IsRaw c := by simpa using h

/-- A text may be written as it is, if all of its characters may. -/
theorem spells_raw {cs : List Char} (h : ∀ c ∈ cs, IsRaw c) : Spells (cs.map .scalar) cs := by
  induction cs with
  | nil => exact .nil
  | cons c cs ih =>
    obtain ⟨hquote, hbackslash, hcontrol⟩ := h c (by simp)
    exact .cons (.raw hquote hbackslash hcontrol) (ih fun d hd => h d (by simp [hd]))

/-- The value of a member. -/
inductive MemberValue where
  /-- A string. -/
  | text (t : Text)
  /-- The null value. -/
  | null

/-- The ways in which the value of a member is written. -/
inductive SpellsValue : MemberValue → List Char → Prop where
  | text {t : Text} {body : List Char} (h : Spells t body) :
      SpellsValue (.text t) ('"' :: body ++ ['"'])
  | null : SpellsValue .null ['n', 'u', 'l', 'l']

/-- Blanks between tokens that do not end a line. -/
def IsGap (g : List Char) : Prop := ∀ c ∈ g, c = ' ' ∨ c = '\t' ∨ c = '\r'

/-- The ways in which a member is written. -/
inductive SpellsMember : Text × MemberValue → List Char → Prop where
  | mk {name : Text} {v : MemberValue} {body text g₁ g₂ g₃ g₄ : List Char} (hname : Spells name body)
      (hvalue : SpellsValue v text) (h₁ : IsGap g₁) (h₂ : IsGap g₂) (h₃ : IsGap g₃)
      (h₄ : IsGap g₄) :
      SpellsMember (name, v) (g₁ ++ ('"' :: body ++ ['"']) ++ g₂ ++ ':' :: g₃ ++ text ++ g₄)

/-- The shortest way in which a member is written whose value is a string, if
    nothing has to be escaped. -/
def rawMember (name body : List Char) : List Char :=
  ('"' :: name ++ ['"']) ++ ':' :: ('"' :: body ++ ['"'])

theorem spellsMember_raw {name body : List Char} (hname : ∀ c ∈ name, IsRaw c)
    (hbody : ∀ c ∈ body, IsRaw c) :
    SpellsMember (name.map .scalar, .text (body.map .scalar)) (rawMember name body) := by
  have hnone : IsGap [] := by
    intro c hc
    cases hc
  have h := SpellsMember.mk (spells_raw hname) (.text (spells_raw hbody)) hnone hnone hnone hnone
  simpa [rawMember] using h

/-- The ways in which the members of an object are written, with commas. -/
inductive SpellsMembers : List (Text × MemberValue) → List Char → Prop where
  | last {m : Text × MemberValue} {text : List Char} (h : SpellsMember m text) :
      SpellsMembers [m] text
  | cons {m : Text × MemberValue} {ms : List (Text × MemberValue)} {text rest : List Char}
      (first : SpellsMember m text) (more : SpellsMembers ms rest) :
      SpellsMembers (m :: ms) (text ++ ',' :: rest)

/-- **The ways in which an object is written** on a line. -/
inductive SpellsObject (ms : List (Text × MemberValue)) : List Char → Prop where
  | mk {text : List Char} (h : SpellsMembers ms text) :
      SpellsObject ms ('\x7b' :: text ++ ['\x7d'])

/-! ### Scanning -/

section

variable {out : List Token} {acc : Text}

/-- The digits of an escape give its code point. -/
theorem scan_number {n : Nat} {ds : List Char} (h : SpellsNumber n ds) (acc : Text)
    (out : List Token) :
    ds.foldl scanFeed (.hex acc 3 0, out) = (.string (Text.pushJoining (.ofNat n) acc), out) := by
  obtain ⟨hlength, hdigits, hvalue⟩ := h
  match ds, hlength with
  | [a, b, c, d], _ =>
    obtain ⟨va, ha⟩ := Option.isSome_iff_exists.1 (hdigits a (by simp))
    obtain ⟨vb, hb⟩ := Option.isSome_iff_exists.1 (hdigits b (by simp))
    obtain ⟨vc, hc⟩ := Option.isSome_iff_exists.1 (hdigits c (by simp))
    obtain ⟨vd, hd⟩ := Option.isSome_iff_exists.1 (hdigits d (by simp))
    have hn : n = (((0 * 16 + va) * 16 + vb) * 16 + vc) * 16 + vd := by
      rw [← hvalue]
      simp [Text.hexNumber, ha, hb, hc, hd]
    simp [scanFeed, scanStep, ha, hb, hc, hd, hn]

theorem scan_escape {n : Nat} {ds : List Char} (h : SpellsNumber n ds) (acc : Text)
    (out : List Token) :
    ('\\' :: 'u' :: ds).foldl scanFeed (.string acc, out) =
      (.string (Text.pushJoining (.ofNat n) acc), out) := by
  rw [List.foldl_cons, List.foldl_cons]
  exact scan_number h acc out

/-- A number that is no surrogate's is that of its character. -/
theorem ofNat_toNat (c : Char) : CodePoint.ofNat c.toNat = .scalar c := by
  have hvalid : c.toNat < 0xD800 ∨ 0xDFFF < c.toNat ∧ c.toNat < 0x110000 := c.valid
  rw [CodePoint.ofNat, dif_neg (by omega), if_pos (by omega), Char.ofNat_toNat]

theorem ofNat_surrogate (i : Fin 2048) : CodePoint.ofNat (0xD800 + i.val) = .surrogate i := by
  have hi := i.isLt
  rw [CodePoint.ofNat, dif_pos ⟨by omega, by omega⟩]
  exact congrArg CodePoint.surrogate (Fin.ext (Nat.add_sub_cancel_left _ _))

/-- **One code point** is put at the end of what has been read. -/
theorem scan_point {p : CodePoint} {piece : List Char} (h : SpellsPoint p piece) (acc : Text)
    (out : List Token) :
    piece.foldl scanFeed (.string acc, out) = (.string (Text.pushJoining p acc), out) := by
  cases h with
  | @raw c hquote hbackslash hcontrol =>
    have hplain : ¬c.toNat < 0x20 := by omega
    rw [Text.pushJoining_scalar, List.foldl_cons, List.foldl_nil, scanFeed]
    simp only [scanStep, if_neg hquote, if_neg hbackslash, if_neg hplain]
    rfl
  | @short c e h =>
    have hu : e ≠ 'u' := by
      rintro rfl
      cases h
    rw [Text.pushJoining_scalar]
    simp [scanFeed, scanStep, hu, h]
  | @number c ds h =>
    rw [scan_escape h, ofNat_toNat]
  | @half i ds h =>
    rw [scan_escape h, ofNat_surrogate]
  | @pair c high low hc hhigh hlow =>
    have hvalid : c.toNat < 0xD800 ∨ 0xDFFF < c.toNat ∧ c.toNat < 0x110000 := c.valid
    -- The two halves, by their numbers.
    have hi : (c.toNat - 0x10000) / 1024 < 1024 := by omega
    have hj : 1024 + (c.toNat - 0x10000) % 1024 < 2048 := by omega
    have hfirst : CodePoint.ofNat (0xD800 + (c.toNat - 0x10000) / 1024) =
        .surrogate ⟨(c.toNat - 0x10000) / 1024, by omega⟩ := ofNat_surrogate ⟨_, by omega⟩
    have hsecond : CodePoint.ofNat (0xDC00 + (c.toNat - 0x10000) % 1024) =
        .surrogate ⟨1024 + (c.toNat - 0x10000) % 1024, hj⟩ := by
      have hnumber : 0xDC00 + (c.toNat - 0x10000) % 1024 =
          0xD800 + (1024 + (c.toNat - 0x10000) % 1024) := by omega
      rw [hnumber]
      exact ofNat_surrogate ⟨_, hj⟩
    rw [List.cons_append, List.cons_append, ← List.cons_append, ← List.cons_append,
      List.foldl_append, scan_escape hhigh, hfirst, Text.pushJoining_high hi, scan_escape hlow,
      hsecond, Text.pushJoining_low hi (by simp), Text.pushJoining_scalar]
    have hvalue : 0x10000 + (c.toNat - 0x10000) / 1024 * 1024 +
        (1024 + (c.toNat - 0x10000) % 1024 - 1024) = c.toNat := by omega
    dsimp only
    rw [hvalue, Char.ofNat_toNat]

/-- What stands between the quotes of a string. -/
theorem scan_spells {t : Text} {body : List Char} (h : Spells t body) (acc : Text)
    (out : List Token) :
    body.foldl scanFeed (.string acc, out) =
      (.string (t.foldl (fun acc p => Text.pushJoining p acc) acc), out) := by
  induction h generalizing acc with
  | nil => rfl
  | cons first _ ih => rw [List.foldl_append, scan_point first, ih, List.foldl_cons]

/-- **A string** is one token. -/
theorem scan_string {t : Text} {body : List Char} (h : Spells t body) (out : List Token) :
    ('"' :: body ++ ['"']).foldl scanFeed (.between, out) =
      (.between, .string t.joined :: out) := by
  rw [List.cons_append, List.foldl_cons, List.foldl_append]
  show ['"'].foldl scanFeed (body.foldl scanFeed (.string [], out)) = _
  rw [scan_spells h]
  rfl

theorem scan_gap {g : List Char} (h : IsGap g) (out : List Token) :
    g.foldl scanFeed (.between, out) = (.between, out) := by
  induction g with
  | nil => rfl
  | cons c g ih =>
    have hg : IsGap g := fun d hd => h d (by simp [hd])
    rw [List.foldl_cons]
    rcases h c (by simp) with rfl | rfl | rfl <;> exact ih hg

end

/-- The token of the value of a member. -/
def MemberValue.token : MemberValue → Token
  | .text t => .string t.joined
  | .null => .value .null

/-- What is read of the value of a member. -/
def MemberValue.json : MemberValue → Json
  | .text t => .ofText t.joined
  | .null => .null

/-- What a delimiter is as a token. -/
def Delimits (c : Char) (tok : Token) : Prop := (c = ',' ∧ tok = .comma) ∨ (c = '\x7d' ∧ tok = .closeObject)

/-- **A value** before a delimiter, which ends it if it is a word. -/
theorem scan_value {v : MemberValue} {text g : List Char} (h : SpellsValue v text) (hg : IsGap g)
    {c : Char} {tok : Token} (hc : Delimits c tok) (out : List Token) :
    (text ++ g ++ [c]).foldl scanFeed (.between, out) = (.between, tok :: v.token :: out) := by
  have hdelimiter : ∀ out, [c].foldl scanFeed (.between, out) = (.between, tok :: out) := by
    rcases hc with ⟨rfl, rfl⟩ | ⟨rfl, rfl⟩ <;> exact fun _ => rfl
  cases h with
  | text h =>
    rw [List.foldl_append, List.foldl_append, scan_string h, scan_gap hg, hdelimiter]
    rfl
  | null =>
    have hword : ['n', 'u', 'l', 'l'].foldl scanFeed (.between, out) =
        (.word ['l', 'l', 'u', 'n'], out) := rfl
    rw [List.foldl_append, List.foldl_append, hword]
    cases g with
    | nil => rcases hc with ⟨rfl, rfl⟩ | ⟨rfl, rfl⟩ <;> rfl
    | cons d g =>
      have hrest : IsGap g := fun e he => hg e (by simp [he])
      -- The first blank ends the word.
      have hblank : scanFeed (.word ['l', 'l', 'u', 'n'], out) d =
          (.between, .value .null :: out) := by
        rcases hg d (by simp) with rfl | rfl | rfl <;> rfl
      show [c].foldl scanFeed (g.foldl scanFeed (scanFeed (.word ['l', 'l', 'u', 'n'], out) d)) = _
      rw [hblank, scan_gap hrest, hdelimiter]
      rfl

/-- The tokens of a member, the last one first. -/
def memberTokens (m : Text × MemberValue) : List Token := [m.2.token, .colon, .string m.1.joined]

/-- **A member** before a delimiter. -/
theorem scan_member {m : Text × MemberValue} {text : List Char} (h : SpellsMember m text) {c : Char}
    {tok : Token} (hc : Delimits c tok) (out : List Token) :
    (text ++ [c]).foldl scanFeed (.between, out) = (.between, tok :: memberTokens m ++ out) := by
  cases h with
  | @mk name v body text g₁ g₂ g₃ g₄ hname hvalue h₁ h₂ h₃ h₄ =>
    have hcolon : ∀ out, [':'].foldl scanFeed (.between, out) = (.between, .colon :: out) :=
      fun _ => rfl
    have hpieces : g₁ ++ ('"' :: body ++ ['"']) ++ g₂ ++ ':' :: g₃ ++ text ++ g₄ ++ [c] =
        g₁ ++ (('"' :: body ++ ['"']) ++ (g₂ ++ ([':'] ++ (g₃ ++ (text ++ g₄ ++ [c]))))) := by
      simp
    rw [hpieces, List.foldl_append, scan_gap h₁, List.foldl_append, scan_string hname,
      List.foldl_append, scan_gap h₂, List.foldl_append, hcolon, List.foldl_append, scan_gap h₃,
      scan_value hvalue h₄ hc]
    rfl

/-! ### Reading -/

/-- The reader inside an object that is not inside another. -/
def inObject (expect : Expect) : Reading := ⟨[], 1, expect⟩

/-- The tokens of a member are read before its delimiter. -/
theorem read_member (m : Text × MemberValue) (members : List (String × Json)) {expect : Expect}
    (hexpect : expect = .name members ∨ expect = .firstName [] ∧ members = []) :
    (memberTokens m).reverse.foldlM readStep (inObject expect) =
      .ok ⟨[.object members (Text.hold m.1.joined)], 1, .after m.2.json⟩ := by
  obtain ⟨name, v⟩ := m
  rcases hexpect with rfl | ⟨rfl, rfl⟩ <;> cases v <;> rfl

/-- The members of an object, up to its end: the tokens, and what they are read
    as after the members before them. -/
theorem scan_read_members {ms : List (Text × MemberValue)} {text : List Char}
    (h : SpellsMembers ms text) (members : List (String × Json)) {expect : Expect}
    (hexpect : expect = .name members ∨ expect = .firstName [] ∧ members = []) (out : List Token) :
    ∃ ts : List Token, (text ++ ['\x7d']).foldl scanFeed (.between, out) = (.between, ts.reverse ++ out) ∧
      ts.foldlM readStep (inObject expect) =
        .ok ⟨[], 0, .after (.obj (Fields.ofPairs
          (members.reverse ++ ms.map fun m => (Text.hold m.1.joined, m.2.json))))⟩ := by
  -- Scanner and reader go along the members together: one hands over what the other takes.
  induction h generalizing members expect out with
  | @last m text h =>
    refine ⟨(memberTokens m).reverse ++ [.closeObject], ?_, ?_⟩
    · rw [scan_member h (.inr ⟨rfl, rfl⟩)]
      simp
    · rw [List.foldlM_append, read_member m members hexpect]
      simp [readStep, bind, Except.bind, pure, Except.pure]
  | @cons m ms text rest first _ ih =>
    have hnext := ih ((Text.hold m.1.joined, m.2.json) :: members) (.inl rfl)
      (.comma :: memberTokens m ++ out)
    obtain ⟨ts, hscan, hread⟩ := hnext
    refine ⟨(memberTokens m).reverse ++ .comma :: ts, ?_, ?_⟩
    · have hpieces : text ++ ',' :: rest ++ ['\x7d'] = (text ++ [',']) ++ (rest ++ ['\x7d']) := by
        simp
      rw [hpieces, List.foldl_append, scan_member first (.inl ⟨rfl, rfl⟩), hscan]
      simp
    · rw [List.foldlM_append, read_member m members hexpect]
      simp only [List.reverse_cons, List.append_assoc, List.singleton_append] at hread
      exact hread

/-- **Every spelling of an object is read** as the object of its members. -/
theorem read_object {ms : List (Text × MemberValue)} {line : List Char} (h : SpellsObject ms line) :
    read (String.ofList line) =
      .ok (.obj (Fields.ofPairs (ms.map fun m => (Text.hold m.1.joined, m.2.json)))) := by
  cases h with
  | @mk text h =>
    obtain ⟨ts, hscan, hread⟩ := scan_read_members h [] (.inr ⟨rfl, rfl⟩) [.openObject]
    have htokens : tokens ('\x7b' :: text ++ ['\x7d']) = .openObject :: ts := by
      rw [tokens, List.cons_append, List.foldl_cons]
      show (let out := (text ++ ['\x7d']).foldl scanFeed (.between, [.openObject])
        out.2.reverse ++ scanEnd out.1) = _
      rw [hscan]
      simp [scanEnd]
    rw [read, String.toList_ofList, htokens, readTokens, List.foldlM_cons]
    show (ts.foldlM readStep (inObject (.firstName [])) >>= readEnd) = _
    rw [hread]
    rfl

end Json

end SinkPipeline
