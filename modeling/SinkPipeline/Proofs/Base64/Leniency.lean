import SinkPipeline.Proofs.Base64

/-! # What the decoder of base64 forgives

  A text is **well-formed** base64 if it is a whole number of groups of four
  characters, of which the last one may end in padding.  The bits that a padded
  group has to spare may be anything; with these bits cleared, the text is just
  what its bytes are written as.

  The decoder does not ask for that.  What it reads is what is **kept** of the
  text: the characters of the alphabet up to the equals sign that fills a group,
  and the padding of that group.  Everything else is passed over, in between and
  behind.  A text has bytes just if what is kept of it is well-formed, and its
  bytes are those of what is kept.
-/

namespace SinkPipeline.Base64

/-! ### The alphabet -/

/-- Is a character in the alphabet? -/
def isData (c : Char) : Bool := (sextet? c).isSome

/-- Is a character a blank of ASCII? -/
def isSpace (c : Char) : Bool := [' ', '\t', '\n', '\r', '\x0b', '\x0c'].contains c

/-- The alphabet is in ASCII. -/
theorem toNat_lt_of_isData {c : Char} (h : isData c = true) : c.toNat < 128 := by
  have hlower : c.isLower = true → c.toNat ≤ 122 := by
    intro hc
    have hbetween : (decide (97 ≤ c.toNat) && decide (c.toNat ≤ 122)) = true := hc
    exact of_decide_eq_true (Bool.and_eq_true_iff.mp hbetween).2
  have hupper : c.isUpper = true → c.toNat ≤ 90 := by
    intro hc
    have hbetween : 65 ≤ c.toNat ∧ c.toNat ≤ 90 := of_decide_eq_true hc
    exact hbetween.2
  have hdigit : c.isDigit = true → c.toNat ≤ 57 := by
    intro hc
    have hbetween : (decide (48 ≤ c.toNat) && decide (c.toNat ≤ 57)) = true := hc
    exact of_decide_eq_true (Bool.and_eq_true_iff.mp hbetween).2
  -- One case for each range of the alphabet.
  unfold isData sextet? at h
  split at h
  · next hc => have := hupper hc; omega
  split at h
  · next hc => have := hlower hc; omega
  split at h
  · next hc => have := hdigit hc; omega
  split at h
  · next hc => rw [hc]; decide
  split at h
  · next hc => rw [hc]; decide
  · cases h

/-- A character of the alphabet has a value below 64, is the character of that
    value, and is neither padding nor a blank. -/
theorem isData_spec {c : Char} (h : isData c = true) :
    (∃ v, sextet? c = some v ∧ v < 64 ∧ sextetChar v = c) ∧ c ≠ '=' ∧ isSpace c = false := by
  have hall : ∀ i : Fin 128, isData (Char.ofNat i) = true →
      ((sextet? (Char.ofNat i)).any fun v => decide (v < 64 ∧ sextetChar v = Char.ofNat i)) = true ∧
        Char.ofNat i ≠ '=' ∧ isSpace (Char.ofNat i) = false := by decide
  have hchar := hall ⟨c.toNat, toNat_lt_of_isData h⟩
  rw [show Char.ofNat c.toNat = c from Char.ofNat_toNat c] at hchar
  obtain ⟨hvalue, hrest⟩ := hchar h
  obtain ⟨v, hv, hspec⟩ := (Option.any_eq_true _ _).mp hvalue
  exact ⟨⟨v, hv, of_decide_eq_true hspec⟩, hrest⟩

/-- The characters of the alphabet are those of the values below 64. -/
theorem exists_sextetChar {c : Char} (h : isData c = true) : ∃ v, v < 64 ∧ sextetChar v = c := by
  obtain ⟨⟨v, -, hv⟩, -⟩ := isData_spec h
  exact ⟨v, hv⟩

/-! ### Well-formed texts -/

/-- A character of the alphabet with the last bits of its value cleared: those
    below `unit`. -/
def cleared (unit : Nat) (c : Char) : Char :=
  sextetChar ((sextet? c).getD 0 / unit * unit)

/-- **Well-formed base64**, with the text that has no spare bits set: groups of
    four characters, the last of which may end in padding. -/
inductive Padded : List Char → List Char → Prop where
  | nil : Padded [] []
  /-- Four characters stand for three bytes. -/
  | group {a b c d : Char} {cs es : List Char} (ha : isData a) (hb : isData b) (hc : isData c)
      (hd : isData d) (rest : Padded cs es) : Padded (a :: b :: c :: d :: cs) (a :: b :: c :: d :: es)
  /-- Two stand for one byte; the last one has four bits to spare. -/
  | one {a b : Char} (ha : isData a) (hb : isData b) :
      Padded [a, b, '=', '='] [a, cleared 16 b, '=', '=']
  /-- Three stand for two bytes; the last one has two bits to spare. -/
  | two {a b c : Char} (ha : isData a) (hb : isData b) (hc : isData c) :
      Padded [a, b, c, '='] [a, b, cleared 4 c, '=']

theorem cleared_sextetChar {v unit : Nat} (h : v < 64) :
    cleared unit (sextetChar v) = sextetChar (v / unit * unit) := by
  rw [cleared, (sextetChar_spec h).1]
  rfl

/-- **Data does not go on behind padding.** -/
theorem Padded.padding_last {cs es before after : List Char} (h : Padded cs es)
    (hcs : cs = before ++ '=' :: after) : ∀ c ∈ after, c = '=' := by
  have hne : ∀ {x : Char}, isData x = true → x ≠ '=' := fun hx => (isData_spec hx).2.1
  induction h generalizing before with
  | nil => simp at hcs
  | @group a b c d cs es ha hb hc hd _ ih =>
    -- The sign is none of the four characters, so it stands in the rest.
    rcases before with _ | ⟨_, _ | ⟨_, _ | ⟨_, _ | ⟨_, before⟩⟩⟩⟩ <;>
      simp only [List.nil_append, List.cons_append, List.cons.injEq] at hcs
    · exact absurd hcs.1 (hne ha)
    · exact absurd hcs.2.1 (hne hb)
    · exact absurd hcs.2.2.1 (hne hc)
    · exact absurd hcs.2.2.2.1 (hne hd)
    · exact ih hcs.2.2.2.2
  | @one a b ha hb =>
    rcases before with _ | ⟨_, _ | ⟨_, before⟩⟩ <;>
      simp only [List.nil_append, List.cons_append, List.cons.injEq] at hcs
    · exact absurd hcs.1 (hne ha)
    · exact absurd hcs.2.1 (hne hb)
    · intro c hc
      have hmem : c ∈ before ++ '=' :: after := by simp [hc]
      rw [← hcs.2.2] at hmem
      simpa using hmem
  | @two a b c ha hb hc =>
    rcases before with _ | ⟨_, _ | ⟨_, _ | ⟨_, before⟩⟩⟩ <;>
      simp only [List.nil_append, List.cons_append, List.cons.injEq] at hcs
    · exact absurd hcs.1 (hne ha)
    · exact absurd hcs.2.1 (hne hb)
    · exact absurd hcs.2.2.1 (hne hc)
    · intro c hc
      have hmem : c ∈ before ++ '=' :: after := by simp [hc]
      rw [← hcs.2.2.2] at hmem
      simpa using hmem

/-! ### Well-formed texts are read -/

theorem toNat_toUInt8 {n : Nat} (h : n < 256) : n.toUInt8.toNat = n :=
  UInt8.toNat_ofNat_of_lt' h

/-- Four values are those of three bytes. -/
theorem exists_three {u v w x : Nat} (hu : u < 64) (hv : v < 64) (hw : w < 64) (hx : x < 64) :
    ∃ a b c : UInt8, ∀ rest, encode (a :: b :: c :: rest) =
      sextetChar u :: sextetChar v :: sextetChar w :: sextetChar x :: encode rest := by
  refine ⟨(u * 4 + v / 16).toUInt8, (v % 16 * 16 + w / 4).toUInt8, (w % 4 * 64 + x).toUInt8, ?_⟩
  intro rest
  have ha : (u * 4 + v / 16).toUInt8.toNat = u * 4 + v / 16 := toNat_toUInt8 (by omega)
  have hb : (v % 16 * 16 + w / 4).toUInt8.toNat = v % 16 * 16 + w / 4 := toNat_toUInt8 (by omega)
  have hc : (w % 4 * 64 + x).toUInt8.toNat = w % 4 * 64 + x := toNat_toUInt8 (by omega)
  rw [encode, ha, hb, hc]
  generalize hn : (u * 4 + v / 16) * 65536 + (v % 16 * 16 + w / 4) * 256 + (w % 4 * 64 + x) = n
  have hu' : n / 262144 = u := by omega
  have hv' : n / 4096 % 64 = v := by omega
  have hw' : n / 64 % 64 = w := by omega
  have hx' : n % 64 = x := by omega
  rw [hu', hv', hw', hx']

/-- Two values are those of one byte and four spare bits. -/
theorem exists_one {u v : Nat} (hu : u < 64) (hv : v < 64) (output : Bytes) :
    ∃ a : UInt8, ([sextetChar u, sextetChar v, '=', '='].foldl State.step (between output)).finish =
        .ok (output.reverse ++ [a]) ∧
      encode [a] = [sextetChar u, cleared 16 (sextetChar v), '=', '='] := by
  have hfirst : (u * 4 + v / 16).toUInt8.toNat = u * 4 + v / 16 := toNat_toUInt8 (by omega)
  refine ⟨(u * 4 + v / 16).toUInt8, ?_, ?_⟩
  · simp only [List.foldl_cons, List.foldl_nil]
    rw [step_sextetChar (s := between output) rfl hu,
      step_sextetChar (s := (between output).take _) rfl hv]
    simp [between, State.take, State.step, State.finish]
  · have hu' : (u * 4 + v / 16) * 16 / 64 = u := by omega
    have hv' : (u * 4 + v / 16) * 16 % 64 = v / 16 * 16 := by omega
    rw [cleared_sextetChar hv, encode, hfirst, hu', hv']

/-- Three values are those of two bytes and two spare bits. -/
theorem exists_two {u v w : Nat} (hu : u < 64) (hv : v < 64) (hw : w < 64) (output : Bytes) :
    ∃ a b : UInt8,
      ([sextetChar u, sextetChar v, sextetChar w, '='].foldl State.step (between output)).finish =
        .ok (output.reverse ++ [a, b]) ∧
      encode [a, b] = [sextetChar u, sextetChar v, cleared 4 (sextetChar w), '='] := by
  have hfirst : (u * 4 + v / 16).toUInt8.toNat = u * 4 + v / 16 := toNat_toUInt8 (by omega)
  have hsecond : (v % 16 * 16 + w / 4).toUInt8.toNat = v % 16 * 16 + w / 4 :=
    toNat_toUInt8 (by omega)
  refine ⟨(u * 4 + v / 16).toUInt8, (v % 16 * 16 + w / 4).toUInt8, ?_, ?_⟩
  · simp only [List.foldl_cons, List.foldl_nil]
    rw [step_sextetChar (s := between output) rfl hu,
      step_sextetChar (s := (between output).take _) rfl hv,
      step_sextetChar (s := ((between output).take _).take _) rfl hw]
    simp [between, State.take, State.step, State.finish]
  · rw [cleared_sextetChar hw, encode, hfirst, hsecond]
    generalize hn : (u * 4 + v / 16) * 1024 + (v % 16 * 16 + w / 4) * 4 = n
    have hu' : n / 4096 = u := by omega
    have hv' : n / 64 % 64 = v := by omega
    have hw' : n % 64 = w / 4 * 4 := by omega
    rw [hu', hv', hw']

/-- **A well-formed text has bytes**, and they are written as the text with its
    spare bits cleared. -/
theorem finish_padded {cs es : List Char} (h : Padded cs es) (output : Bytes) :
    ∃ bytes, (cs.foldl State.step (between output)).finish = .ok (output.reverse ++ bytes) ∧
      encode bytes = es := by
  induction h generalizing output with
  | nil => exact ⟨[], by simp [between, State.finish], rfl⟩
  | @group _ _ _ _ cs es ha hb hc hd _ ih =>
    obtain ⟨u, hu, rfl⟩ := exists_sextetChar ha
    obtain ⟨v, hv, rfl⟩ := exists_sextetChar hb
    obtain ⟨w, hw, rfl⟩ := exists_sextetChar hc
    obtain ⟨x, hx, rfl⟩ := exists_sextetChar hd
    obtain ⟨a, b, c, hencode⟩ := exists_three hu hv hw hx
    obtain ⟨bytes, hrest, hbytes⟩ := ih (c :: b :: a :: output)
    refine ⟨a :: b :: c :: bytes, ?_, by rw [hencode, hbytes]⟩
    -- The group is what its three bytes are written as, and those are read back.
    have hgroup := foldl_step_three a b c output cs
    rw [hencode] at hgroup
    show ((sextetChar u :: sextetChar v :: sextetChar w :: sextetChar x :: (encode [] ++ cs)).foldl
      State.step (between output)).finish = _
    rw [← hgroup] at hrest
    simpa using hrest
  | one ha hb =>
    obtain ⟨u, hu, rfl⟩ := exists_sextetChar ha
    obtain ⟨v, hv, rfl⟩ := exists_sextetChar hb
    obtain ⟨a, hfinish, hencode⟩ := exists_one hu hv output
    exact ⟨[a], hfinish, hencode⟩
  | two ha hb hc =>
    obtain ⟨u, hu, rfl⟩ := exists_sextetChar ha
    obtain ⟨v, hv, rfl⟩ := exists_sextetChar hb
    obtain ⟨w, hw, rfl⟩ := exists_sextetChar hc
    obtain ⟨a, b, hfinish, hencode⟩ := exists_two hu hv hw output
    exact ⟨[a, b], hfinish, hencode⟩

/-! ### What is kept of a text -/

/-- **What the decoder keeps of a text** behind `held` characters of a group and
    `signs` equals signs: the characters of the alphabet up to the equals sign
    that fills a group, and then the padding of this group.  A sign counts once
    two characters are held, and a character of the alphabet takes back the
    signs before it. -/
def kept (held signs : Nat) : List Char → List Char
  | [] => []
  | c :: cs =>
    if c = '=' then
      if 2 ≤ held then
        if 4 ≤ held + signs + 1 then List.replicate (4 - held) '='
        else kept held (signs + 1) cs
      else kept held signs cs
    else if isData c then c :: kept ((held + 1) % 4) 0 cs
    else kept held signs cs

/-- Once padding has ended the data, nothing more is looked at. -/
theorem foldl_step_of_complete {s : State} (h : s.complete = true) (cs : List Char) :
    cs.foldl State.step s = s := by
  induction cs with
  | nil => rfl
  | cons c cs ih =>
    have hstep : s.step c = s := by rw [State.step, h, if_pos rfl]
    rw [List.foldl_cons, hstep, ih]

/-- What a character of the alphabet does to a group. -/
theorem take_spec (s : State) (v : Nat) (h : s.position < 4) :
    (s.take v).position = (s.position + 1) % 4 ∧ (s.take v).padding = 0 ∧
      (s.take v).complete = s.complete := by
  obtain ⟨position, pending, padding, complete, output⟩ := s
  have hcases : position = 0 ∨ position = 1 ∨ position = 2 ∨ position = 3 := by
    dsimp only at h
    omega
  rcases hcases with rfl | rfl | rfl | rfl <;> simp [State.take]

theorem step_data {s : State} {c : Char} (hs : s.complete = false) (hc : isData c = true) :
    ∃ v, sextet? c = some v ∧ s.step c = s.take v := by
  obtain ⟨⟨v, hv, -, -⟩, hne, -⟩ := isData_spec hc
  refine ⟨v, hv, ?_⟩
  rw [State.step, hs, if_neg Bool.false_ne_true, if_neg hne, hv]

theorem step_other {s : State} {c : Char} (hne : c ≠ '=') (hc : ¬isData c = true) :
    s.step c = s := by
  have hnone : sextet? c = none := by simpa [isData] using hc
  unfold State.step
  rw [if_neg hne, hnone]
  exact ite_self s

/-- What an equals sign does to a group. -/
theorem step_sign {s : State} (hs : s.complete = false) :
    s.step '=' = if 2 ≤ s.position then
      if 4 ≤ s.position + s.padding + 1 then { s with complete := true }
      else { s with padding := s.padding + 1 }
    else s := by
  rw [State.step, hs, if_neg Bool.false_ne_true, if_pos rfl]

/-- The padding that fills a group ends the data. -/
theorem finish_replicate {s : State} (hs : s.complete = false) (htwo : 2 ≤ s.position)
    (hposition : s.position < 4) :
    ((List.replicate (4 - s.position) '=').foldl State.step { s with padding := 0 }).finish =
      State.finish { s with complete := true } := by
  have hcases : s.position = 2 ∨ s.position = 3 := by omega
  rcases hcases with h | h <;> simp [h, List.replicate, State.step, State.finish, hs]

/-- **The bytes of a text are those of what is kept of it.** -/
theorem finish_kept (cs : List Char) : ∀ s : State, s.complete = false → s.position < 4 →
    (cs.foldl State.step s).finish =
      ((kept s.position s.padding cs).foldl State.step { s with padding := 0 }).finish := by
  induction cs with
  | nil =>
    intro s hs hposition
    rfl
  | cons c cs ih =>
    intro s hs hposition
    rw [List.foldl_cons, kept]
    by_cases hsign : c = '='
    · rw [if_pos hsign, hsign, step_sign hs]
      by_cases htwo : 2 ≤ s.position
      · rw [if_pos htwo, if_pos htwo]
        by_cases hfull : 4 ≤ s.position + s.padding + 1
        · -- The sign fills the group, and so does the padding that is kept.
          rw [if_pos hfull, if_pos hfull, foldl_step_of_complete rfl,
            finish_replicate hs htwo hposition]
        · rw [if_neg hfull, if_neg hfull]
          exact ih { s with padding := s.padding + 1 } hs hposition
      · rw [if_neg htwo, if_neg htwo]
        exact ih s hs hposition
    · rw [if_neg hsign]
      by_cases hdata : isData c = true
      · obtain ⟨v, hv, hstep⟩ := step_data hs hdata
        obtain ⟨hposition', hpadding, hcomplete⟩ := take_spec s v hposition
        -- The same character is read by the state that has forgotten the padding.
        obtain ⟨v', hv', hstep'⟩ := step_data (s := { s with padding := 0 }) hs hdata
        obtain rfl : v = v' := Option.some.inj (hv.symm.trans hv')
        have hnext := ih (s.take v) (by rw [hcomplete, hs]) (by omega)
        have hsame : (⟨(s.take v).position, (s.take v).pending, 0, (s.take v).complete,
            (s.take v).output⟩ : State) = s.take v := by rw [← hpadding]
        rw [hsame, hposition', hpadding] at hnext
        rw [if_pos hdata, hstep, hnext, List.foldl_cons, hstep']
        rfl
      · rw [if_neg hdata, step_other hsign hdata]
        exact ih s hs hposition

/-- What is kept is data, and behind it the padding that fills its last group,
    or nothing. -/
theorem kept_shape (cs : List Char) : ∀ held signs, held < 4 → ∃ ds, (∀ d ∈ ds, isData d = true) ∧
    (kept held signs cs = ds ∨ 2 ≤ (held + ds.length) % 4 ∧
      kept held signs cs = ds ++ List.replicate (4 - (held + ds.length) % 4) '=') := by
  induction cs with
  | nil =>
    intro held signs hheld
    exact ⟨[], by simp, .inl rfl⟩
  | cons c cs ih =>
    intro held signs hheld
    rw [kept]
    split
    · split
      · split
        · next htwo _ =>
          refine ⟨[], by simp, .inr ?_⟩
          rw [List.length_nil, Nat.add_zero, Nat.mod_eq_of_lt hheld]
          exact ⟨htwo, rfl⟩
        · exact ih held (signs + 1) hheld
      · exact ih held signs hheld
    · split
      · next hdata =>
        obtain ⟨ds, hds, hkept⟩ := ih ((held + 1) % 4) 0 (Nat.mod_lt _ (by decide))
        have hlength : (held + (c :: ds).length) % 4 = ((held + 1) % 4 + ds.length) % 4 := by
          rw [List.length_cons]
          omega
        refine ⟨c :: ds, ?_, ?_⟩
        · simpa [hdata] using hds
        · rw [hlength, List.cons_append]
          rcases hkept with hkept | ⟨htwo, hkept⟩
          · exact .inl (congrArg (c :: ·) hkept)
          · exact .inr ⟨htwo, congrArg (c :: ·) hkept⟩
      · exact ih held signs hheld

/-- Data is well-formed if it is whole groups, or with the padding that its last
    group needs. -/
theorem exists_padded : ∀ ds : List Char, (∀ d ∈ ds, isData d = true) →
    (ds.length % 4 = 0 → ∃ es, Padded ds es) ∧
    (2 ≤ ds.length % 4 → ∃ es, Padded (ds ++ List.replicate (4 - ds.length % 4) '=') es)
  | [], _ => ⟨fun _ => ⟨_, .nil⟩, fun h => absurd h (by decide)⟩
  | [_], _ => ⟨fun h => by simp at h, fun h => by simp at h⟩
  | [_, _], h => ⟨fun h => by simp at h, fun _ => ⟨_, .one (h _ (by simp)) (h _ (by simp))⟩⟩
  | [_, _, _], h =>
    ⟨fun h => by simp at h, fun _ => ⟨_, .two (h _ (by simp)) (h _ (by simp)) (h _ (by simp))⟩⟩
  | a :: b :: c :: d :: ds, h => by
    obtain ⟨hwhole, hpadded⟩ := exists_padded ds fun x hx => h x (by simp [hx])
    -- A whole group in front leaves the length modulo four as it is.
    have hlength : (a :: b :: c :: d :: ds).length % 4 = ds.length % 4 := by
      simp only [List.length_cons]
      omega
    have hgroup : ∀ {cs es : List Char}, Padded cs es →
        Padded (a :: b :: c :: d :: cs) (a :: b :: c :: d :: es) :=
      fun hrest => .group (h _ (by simp)) (h _ (by simp)) (h _ (by simp)) (h _ (by simp)) hrest
    rw [hlength]
    constructor
    · intro hzero
      obtain ⟨es, hes⟩ := hwhole hzero
      exact ⟨_, hgroup hes⟩
    · intro htwo
      obtain ⟨es, hes⟩ := hpadded htwo
      exact ⟨_, hgroup hes⟩

/-- Data alone leaves the group that it has begun open. -/
theorem foldl_step_data {ds : List Char} (hds : ∀ d ∈ ds, isData d = true) :
    ∀ s : State, s.complete = false → s.position < 4 →
      (ds.foldl State.step s).position = (s.position + ds.length) % 4 ∧
        (ds.foldl State.step s).complete = false := by
  induction ds with
  | nil =>
    intro s hs hposition
    exact ⟨(Nat.mod_eq_of_lt hposition).symm, hs⟩
  | cons d ds ih =>
    intro s hs hposition
    obtain ⟨v, -, hstep⟩ := step_data hs (hds d (by simp))
    obtain ⟨hposition', -, hcomplete⟩ := take_spec s v hposition
    obtain ⟨hend, hopen⟩ := ih (fun x hx => hds x (by simp [hx])) (s.take v) (by rw [hcomplete, hs])
      (by omega)
    rw [List.foldl_cons, hstep]
    refine ⟨?_, hopen⟩
    rw [hend, hposition', List.length_cons]
    omega

/-! ### Proper texts -/

/-- A text without the blanks of ASCII. -/
def stripped (cs : List Char) : List Char := cs.filter (!isSpace ·)

/-- **A proper text** is well-formed once its blanks are taken out, and nothing
    but the alphabet, equals signs and blanks is in it. -/
structure IsProper (cs : List Char) : Prop where
  known : ∀ c ∈ cs, isData c = true ∨ c = '=' ∨ isSpace c = true
  padded : ∃ es, Padded (stripped cs) es

/-- Blanks make no difference to what is kept. -/
theorem kept_stripped (cs : List Char) :
    ∀ held signs, kept held signs (stripped cs) = kept held signs cs := by
  have hsign : isSpace '=' = false := by decide
  induction cs with
  | nil =>
    intro held signs
    rfl
  | cons c cs ih =>
    intro held signs
    by_cases hblank : isSpace c = true
    · have hne : c ≠ '=' := by
        rintro rfl
        rw [hsign] at hblank
        cases hblank
      have hdata : ¬isData c = true := by
        intro hc
        rw [(isData_spec hc).2.2] at hblank
        cases hblank
      rw [kept, if_neg hne, if_neg hdata, ← ih]
      simp [stripped, hblank]
    · have hcons : stripped (c :: cs) = c :: stripped cs := by simp [stripped, hblank]
      rw [hcons]
      simp only [kept, ih]

/-- A well-formed text is kept whole. -/
theorem kept_of_padded {cs es : List Char} (h : Padded cs es) : kept 0 0 cs = cs := by
  have hne : ∀ {x : Char}, isData x = true → x ≠ '=' := fun hx => (isData_spec hx).2.1
  induction h with
  | nil => rfl
  | group ha hb hc hd _ ih => simp [kept, ha, hb, hc, hd, hne ha, hne hb, hne hc, hne hd, ih]
  | one ha hb => simp [kept, ha, hb, hne ha, hne hb, List.replicate]
  | two ha hb hc => simp [kept, ha, hb, hc, hne ha, hne hb, hne hc]

/-- What is kept of a proper text is all of it but the blanks. -/
theorem IsProper.kept_eq {cs : List Char} (h : IsProper cs) : kept 0 0 cs = stripped cs := by
  obtain ⟨es, hes⟩ := h.padded
  rw [← kept_stripped, kept_of_padded hes]

/-! ### The law -/

theorem encode_injective {b b' : Bytes} (h : encode b = encode b') : b = b' := by
  have hb := finish_encode b []
  rw [h, finish_encode b' []] at hb
  simpa using hb.symm

/-- **Which texts have bytes**: those of which something well-formed is kept. -/
theorem finish_eq_ok_iff (cs : List Char) (bytes : Bytes) :
    (cs.foldl State.step {}).finish = .ok bytes ↔ Padded (kept 0 0 cs) (encode bytes) := by
  have hkept : (cs.foldl State.step {}).finish = ((kept 0 0 cs).foldl State.step (between [])).finish :=
    finish_kept cs {} rfl (by decide)
  have hread : ∀ {es : List Char}, Padded (kept 0 0 cs) es → ∃ b,
      (cs.foldl State.step {}).finish = .ok b ∧ encode b = es := by
    intro es hes
    obtain ⟨b, hb, hencode⟩ := finish_padded hes []
    exact ⟨b, hkept.trans hb, hencode⟩
  constructor
  · intro hok
    -- What is kept is well-formed, for otherwise a group is left open.
    have hpadded : ∃ es, Padded (kept 0 0 cs) es := by
      obtain ⟨ds, hds, hshape⟩ := kept_shape cs 0 0 (by decide)
      rw [Nat.zero_add] at hshape
      rcases hshape with hdata | ⟨htwo, hpad⟩
      · by_cases hwhole : ds.length % 4 = 0
        · rw [hdata]
          exact (exists_padded ds hds).1 hwhole
        · obtain ⟨hposition, hcomplete⟩ := foldl_step_data hds (between []) rfl (by decide)
          have hopen : (0 + ds.length) % 4 ≠ 0 := by rwa [Nat.zero_add]
          rw [hkept, hdata, State.finish, if_neg] at hok
          · split at hok <;> cases hok
          · rw [hcomplete, hposition]
            rintro (h | h)
            · cases h
            · exact hopen h
      · rw [hpad]
        exact (exists_padded ds hds).2 htwo
    obtain ⟨es, hes⟩ := hpadded
    obtain ⟨b, hb, rfl⟩ := hread hes
    rw [hb] at hok
    cases hok
    exact hes
  · intro hpadded
    obtain ⟨b, hb, hencode⟩ := hread hpadded
    rw [hb, encode_injective hencode]

end SinkPipeline.Base64
