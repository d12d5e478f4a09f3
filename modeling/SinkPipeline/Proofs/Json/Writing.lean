import Mathlib.Data.List.Chain
import SinkPipeline.Json.Writer
import SinkPipeline.Proofs.Json.Fields
import SinkPipeline.Proofs.Json.Spelling
import SinkPipeline.Proofs.Process.Handing
import SinkPipeline.Proofs.Text.Hex

/-! # What is written is read back

  The text of a value of strings, arrays and objects is read as that value.  The
  writer escapes every code point in one of the ways in which it may be spelled,
  so strings are read back; two halves of a surrogate pair that stand next to
  each other are the one exception, for they are read as a character.

  How a piece of text is read is told by **triples**: the reader before it, the
  piece, the reader after it.  They are put together piece by piece, as the
  writer puts the text together.
-/

namespace SinkPipeline

namespace Text

/-! ### Texts without pairs of halves -/

/-- Are the code points the two halves of a pair? -/
def CodePoint.Halves : CodePoint → CodePoint → Prop
  | .surrogate hi, .surrogate lo => hi.val < 1024 ∧ 1024 ≤ lo.val
  | _, _ => False

instance : DecidableRel CodePoint.Halves
  | .surrogate _, .surrogate _ => inferInstanceAs (Decidable (_ ∧ _))
  | .surrogate _, .scalar _ => isFalse id
  | .scalar _, _ => isFalse id

/-- Do no two halves of a pair stand next to each other? -/
def Unpaired (t : Text) : Prop := t.IsChain fun p q => ¬p.Halves q

instance (t : Text) : Decidable t.Unpaired := inferInstanceAs (Decidable (t.IsChain _))

/-- **A sequence of characters** holds no halves. -/
theorem unpaired_of_characters {t : Text} (h : ∀ p ∈ t, p.isSurrogate = false) : t.Unpaired := by
  induction t with
  | nil => exact .nil
  | cons p t ih =>
    have hrest : Unpaired t := ih fun q hq => h q (List.mem_cons_of_mem _ hq)
    cases t with
    | nil => exact .singleton p
    | cons q t =>
      refine List.isChain_cons_cons.mpr ⟨?_, hrest⟩
      cases p with
      | scalar c => exact id
      | surrogate i => cases h _ List.mem_cons_self

theorem pushJoining_of_not_halves {p q : CodePoint} (h : ¬q.Halves p) (acc : Text) :
    pushJoining p (q :: acc) = p :: q :: acc := by
  cases q with
  | scalar c => rfl
  | surrogate hi =>
    cases p with
    | scalar c => rfl
    | surrogate lo => exact if_neg h

theorem foldl_pushJoining {p : CodePoint} {t : Text} (h : Unpaired (p :: t)) (acc : Text) :
    t.foldl (fun acc q => pushJoining q acc) (p :: acc) = t.reverse ++ p :: acc := by
  induction t generalizing p acc with
  | nil => rfl
  | cons q t ih =>
    obtain ⟨hpair, hrest⟩ := List.isChain_cons_cons.mp h
    rw [List.foldl_cons, pushJoining_of_not_halves hpair, ih hrest]
    simp

/-- **Where there is no pair** nothing is joined. -/
theorem joined_of_unpaired {t : Text} (h : t.Unpaired) : t.joined = t := by
  cases t with
  | nil => rfl
  | cons p t =>
    have hfirst : pushJoining p [] = [p] := rfl
    rw [joined, List.foldl_cons, hfirst, foldl_pushJoining h]
    simp

theorem CodePoint.held_ofHeld (c : Char) : (CodePoint.ofHeld c).held = c := by
  unfold CodePoint.ofHeld
  split
  · next h =>
    show Char.ofNat (firstStandIn + (c.toNat - firstStandIn)) = c
    rw [Nat.add_sub_cancel' h.1, Char.ofNat_toNat]
  · rfl

/-- A string is what holds its text. -/
theorem hold_ofHeld (s : String) : hold (ofHeld s) = s := by
  have hsame : CodePoint.held ∘ CodePoint.ofHeld = id := funext CodePoint.held_ofHeld
  rw [hold, ofHeld, List.map_map, hsame, List.map_id, String.ofList_toList]

end Text

namespace Json

open Text (CodePoint)

/-! ### Strings -/

theorem spellsNumber_hexDigits {n : Nat} (h : n < 0x10000) : SpellsNumber n (Text.hexDigits 4 n) :=
  ⟨Text.length_hexDigits 4 n, Text.isSome_hexValue? 4 n, by
    rw [Text.hexNumber_hexDigits]
    exact Nat.mod_eq_of_lt h⟩

theorem spellsPoint_unicodeEscape {p : CodePoint} (h : p.toNat < 0x10000) :
    SpellsPoint p (unicodeEscape p.toNat) := by
  cases p with
  | scalar c => exact .number (spellsNumber_hexDigits h)
  | surrogate i => exact .half (spellsNumber_hexDigits h)

/-- **Each escape** is a spelling of its code point. -/
theorem spellsPoint_escapePoint (p : CodePoint) : SpellsPoint p (escapePoint p.toNat) := by
  have hshort : ∀ {c e : Char}, p.toNat = c.toNat → shortEscape? e = some c →
      SpellsPoint p ['\\', e] := by
    intro c e hc he
    rw [CodePoint.eq_of_toNat (q := .scalar c) hc]
    exact .short he
  unfold escapePoint
  split_ifs with hquote hbackslash hn hr ht hb hf hplain hbasic
  · exact hshort (c := '"') hquote rfl
  · exact hshort (c := '\\') hbackslash rfl
  · exact hshort (c := '\n') hn rfl
  · exact hshort (c := '\r') hr rfl
  · exact hshort (c := '\t') ht rfl
  · exact hshort (c := '\x08') hb rfl
  · exact hshort (c := '\x0c') hf rfl
  · cases p with
    | scalar c =>
      show SpellsPoint (.scalar c) [Char.ofNat c.toNat]
      rw [Char.ofNat_toNat]
      -- A quote and a backslash have been escaped above.
      refine .raw ?_ ?_ hplain.1
      · rintro rfl
        exact hquote rfl
      · rintro rfl
        exact hbackslash rfl
    | surrogate i =>
      simp only [CodePoint.toNat] at hplain
      omega
  · exact spellsPoint_unicodeEscape hbasic
  · cases p with
    | scalar c =>
      simp only [CodePoint.toNat] at hbasic ⊢
      have hvalid : c.toNat < 0xD800 ∨ 0xDFFF < c.toNat ∧ c.toNat < 0x110000 := c.valid
      refine .pair (by omega) (spellsNumber_hexDigits ?_) (spellsNumber_hexDigits ?_)
      · omega
      · omega
    | surrogate i =>
      simp only [CodePoint.toNat] at hbasic
      have := i.isLt
      omega

/-- **A written string** is a spelling of its text. -/
theorem spells_writeText (t : Text) : Spells t (t.flatMap fun p => escapePoint p.toNat) := by
  induction t with
  | nil => exact .nil
  | cons p t ih => exact .cons (spellsPoint_escapePoint p) ih

/-! ### Triples -/

/-- Before the piece the reader is `r`, after it `r'`. -/
def Reads (r : Reading) (piece : List Char) (r' : Reading) : Prop :=
  ∃ ts : List Token,
    (∀ out, piece.foldl scanFeed (.between, out) = (.between, ts.reverse ++ out)) ∧
      ts.foldlM readStep r = .ok r'

/-- May a value come next? -/
def Reading.TakesValue (r : Reading) : Prop := r.expect = .value ∨ r.expect = .firstItem

namespace Reads

variable {r r₁ r₂ : Reading} {stack : List Frame} {depth : Nat} {done : List Json}
  {ms : List (String × Json)} {key : String} {v : Json}

theorem append {a b : List Char} (ha : Reads r a r₁) (hb : Reads r₁ b r₂) :
    Reads r (a ++ b) r₂ := by
  obtain ⟨ts, hscan, hread⟩ := ha
  obtain ⟨us, hscan', hread'⟩ := hb
  refine ⟨ts ++ us, fun out => ?_, ?_⟩
  · rw [List.foldl_append, hscan, hscan', List.reverse_append, List.append_assoc]
  · rw [List.foldlM_append, hread]
    exact hread'

/-- A piece that is one token. -/
theorem token {piece : List Char} {tok : Token}
    (hscan : ∀ out, piece.foldl scanFeed (.between, out) = (.between, tok :: out))
    (hread : readStep r tok = .ok r₁) : Reads r piece r₁ := by
  refine ⟨[tok], hscan, ?_⟩
  rw [List.foldlM_cons, hread]
  rfl

/-! One token each: what begins a value, what ends one, and what stands between
two. -/

theorem text (h : r.TakesValue) (t : Text) :
    Reads r (writeText t) { r with expect := .after (.ofText t.joined) } := by
  refine token (scan_string (spells_writeText t)) ?_
  unfold readStep
  rcases h with h | h <;> rw [h] <;> rfl

theorem openArray (h : r.TakesValue) (hdepth : r.depth < maxDepth) :
    Reads r ['['] ⟨.array [] :: r.stack, r.depth + 1, .firstItem⟩ := by
  have hbegin : beginValue r .openArray = .ok ⟨.array [] :: r.stack, r.depth + 1, .firstItem⟩ :=
    if_neg (by omega)
  refine token (fun _ => rfl) (hbegin ▸ ?_)
  unfold readStep
  rcases h with h | h <;> rw [h]

theorem openObject (h : r.TakesValue) (hdepth : r.depth < maxDepth) :
    Reads r ['\x7b'] ⟨r.stack, r.depth + 1, .firstName []⟩ := by
  have hbegin : beginValue r .openObject = .ok ⟨r.stack, r.depth + 1, .firstName []⟩ :=
    if_neg (by omega)
  refine token (fun _ => rfl) (hbegin ▸ ?_)
  unfold readStep
  rcases h with h | h <;> rw [h]

theorem name (h : r.expect = .firstName ms ∨ r.expect = .name ms) (s : String) :
    Reads r (writeString s)
      { r with expect := .colon ms (Text.hold (Text.ofHeld s).joined) } := by
  refine token (scan_string (spells_writeText _)) ?_
  unfold readStep
  rcases h with h | h <;> rw [h]

theorem colon : Reads ⟨stack, depth, .colon ms key⟩ spacedSorted.colon.toList
    ⟨.object ms key :: stack, depth, .value⟩ := token (fun _ => rfl) rfl

theorem commaItem : Reads ⟨.array done :: stack, depth, .after v⟩ spacedSorted.comma.toList
    ⟨.array (v :: done) :: stack, depth, .value⟩ := token (fun _ => rfl) rfl

theorem commaMember : Reads ⟨.object ms key :: stack, depth, .after v⟩ spacedSorted.comma.toList
    ⟨stack, depth, .name ((key, v) :: ms)⟩ := token (fun _ => rfl) rfl

theorem closeArray : Reads ⟨.array done :: stack, depth + 1, .after v⟩ [']']
    ⟨stack, depth, .after (.arr (v :: done).reverse)⟩ := token (fun _ => rfl) rfl

theorem closeObject : Reads ⟨.object ms key :: stack, depth + 1, .after v⟩ ['\x7d']
    ⟨stack, depth, .after (.obj (Fields.ofPairs ((key, v) :: ms).reverse))⟩ :=
  token (fun _ => rfl) rfl

theorem emptyArray : Reads ⟨.array [] :: stack, depth + 1, .firstItem⟩ [']']
    ⟨stack, depth, .after (.arr [])⟩ := token (fun _ => rfl) rfl

theorem emptyObject : Reads ⟨stack, depth + 1, .firstName []⟩ ['\x7d']
    ⟨stack, depth, .after (.obj [])⟩ := token (fun _ => rfl) rfl

end Reads

/-! ### Values -/

/-- What is read of a written string: the halves that make a pair are joined. -/
def rereadName (s : String) : String := Text.hold (Text.ofHeld s).joined

mutual

/-- What is read of a written value: its strings with their pairs joined, its
    members in the order of their names. -/
def reread : Json → Json
  | .str s => .ofText (Text.ofHeld s).joined
  | .arr items => .arr (rereadItems items)
  | .obj ms =>
    .obj (Fields.ofPairs (((rereadMembers ms).mergeSort (fun a b => a.1 ≤ b.1)).map fun m =>
      (rereadName m.1, m.2)))
  | v => v

/-- What is read of each item. -/
def rereadItems : List Json → List Json
  | [] => []
  | v :: vs => reread v :: rereadItems vs

/-- What is read of the value of each member. -/
def rereadMembers : List (String × Json) → List (String × Json)
  | [] => []
  | (name, v) :: ms => (name, reread v) :: rereadMembers ms

end

theorem rereadItems_eq (items : List Json) : rereadItems items = items.map reread := by
  induction items with
  | nil => rfl
  | cons v vs ih => rw [rereadItems, ih, List.map_cons]

theorem rereadMembers_eq (ms : Fields) : rereadMembers ms = ms.map fun m => (m.1, reread m.2) := by
  induction ms with
  | nil => rfl
  | cons m ms ih => rw [rereadMembers, ih, List.map_cons]

/-- Changing the values of members does not change the order of their names. -/
theorem mergeSort_map_values {α β : Type} (ms : List (String × α)) (f : α → β) :
    (ms.map fun m => (m.1, f m.2)).mergeSort (fun a b => a.1 ≤ b.1) =
      (ms.mergeSort (fun a b => a.1 ≤ b.1)).map fun m => (m.1, f m.2) := by
  refine (List.map_mergeSort (f := fun m : String × α => (m.1, f m.2)) fun _ _ _ _ => ?_).symm
  rfl

section

variable {stack : List Frame} {depth : Nat}

/-- Is a value read back wherever one may come and the depth allows it? -/
def ReadBack (n : Nat) (v : Json) : Prop :=
  ∀ r : Reading, r.TakesValue → r.depth + n ≤ maxDepth →
    Reads r (write spacedSorted v) { r with expect := .after (reread v) }

/-- The items of an array after one of them, up to its end. -/
theorem reads_items {n : Nat} {items : List Json} (h : ∀ v ∈ items, ReadBack n v)
    (hdepth : depth + 1 + n ≤ maxDepth) (done : List Json) (v : Json) :
    Reads ⟨.array done :: stack, depth + 1, .after v⟩
      ((items.map (write spacedSorted)).flatMap (spacedSorted.comma.toList ++ ·) ++ [']'])
      ⟨stack, depth, .after (.arr (done.reverse ++ v :: items.map reread))⟩ := by
  induction items generalizing done v with
  | nil =>
    have hclose : Reads ⟨.array done :: stack, depth + 1, .after v⟩ [']'] _ := .closeArray
    simpa using hclose
  | cons w items ih =>
    have hvalue := h w List.mem_cons_self ⟨.array (v :: done) :: stack, depth + 1, .value⟩
      (.inl rfl) hdepth
    have hrest := ih (fun u hu => h u (List.mem_cons_of_mem _ hu)) (v :: done) (reread w)
    have hall := (Reads.commaItem.append hvalue).append hrest
    simpa using hall

/-- A member, where its name may come. -/
theorem reads_member {n : Nat} {m : String × Json} (h : ReadBack n m.2)
    (hdepth : depth + n ≤ maxDepth) {done : Fields} {expect : Expect}
    (hexpect : expect = .firstName done ∨ expect = .name done) :
    Reads ⟨stack, depth, expect⟩
      (writeString m.1 ++ spacedSorted.colon.toList ++ write spacedSorted m.2)
      ⟨.object done (rereadName m.1) :: stack, depth, .after (reread m.2)⟩ := by
  have hname := Reads.name (r := ⟨stack, depth, expect⟩) hexpect m.1
  exact (hname.append .colon).append (h _ (.inl rfl) hdepth)

/-- The members of an object after one of them, up to its end. -/
theorem reads_members {n : Nat} {ms : Fields} (h : ∀ m ∈ ms, ReadBack n m.2)
    (hdepth : depth + 1 + n ≤ maxDepth) (done : Fields) (key : String) (v : Json) :
    Reads ⟨.object done key :: stack, depth + 1, .after v⟩
      ((ms.map fun m => writeString m.1 ++ spacedSorted.colon.toList ++
        write spacedSorted m.2).flatMap (spacedSorted.comma.toList ++ ·) ++ ['\x7d'])
      ⟨stack, depth, .after (.obj (Fields.ofPairs
        (done.reverse ++ (key, v) :: ms.map fun m => (rereadName m.1, reread m.2))))⟩ := by
  induction ms generalizing done key v with
  | nil =>
    have hclose : Reads ⟨.object done key :: stack, depth + 1, .after v⟩ ['\x7d'] _ := .closeObject
    simpa using hclose
  | cons m ms ih =>
    have hmember : Reads ⟨stack, depth + 1, .name ((key, v) :: done)⟩ _ _ :=
      reads_member (h m List.mem_cons_self) hdepth (.inr rfl)
    have hrest := ih (fun u hu => h u (List.mem_cons_of_mem _ hu)) ((key, v) :: done)
      (rereadName m.1) (reread m.2)
    have hall := (Reads.commaMember.append hmember).append hrest
    simpa using hall

end

/-- **Written values are read back**, by induction on the value. -/
theorem readBack {n : Nat} {v : Json} (h : Textual n v) : ReadBack n v := by
  induction h with
  | str s =>
    intro r hr _
    rw [write, reread]
    exact .text hr _
  | @arr n items _ ih =>
    intro r hr hdepth
    rw [write, reread, writeItems_eq, rereadItems_eq]
    have hopen := Reads.openArray hr (by omega)
    cases items with
    | nil => exact hopen.append .emptyArray
    | cons v items =>
      have hfirst := ih v List.mem_cons_self ⟨.array [] :: r.stack, r.depth + 1, .firstItem⟩
        (.inr rfl) (show r.depth + 1 + n ≤ maxDepth by omega)
      have hrest : Reads ⟨.array [] :: r.stack, r.depth + 1, .after (reread v)⟩ _ _ :=
        reads_items (fun w hw => ih w (List.mem_cons_of_mem _ hw)) (by omega) [] (reread v)
      have hall := (hopen.append hfirst).append hrest
      simpa [joinWith] using hall
  | @obj n ms _ ih =>
    intro r hr hdepth
    have hsorted : orderMembers spacedSorted (ms.map fun m => (m.1, write spacedSorted m.2)) =
        (ms.mergeSort (fun a b => a.1 ≤ b.1)).map fun m => (m.1, write spacedSorted m.2) :=
      mergeSort_map_values ms _
    rw [write, reread, rereadMembers_eq, writeMembers_eq, hsorted, mergeSort_map_values]
    have hmembers : ∀ m ∈ ms.mergeSort (fun a b => a.1 ≤ b.1), ReadBack n m.2 := fun m hm =>
      ih m (List.mem_mergeSort.mp hm)
    have hopen := Reads.openObject hr (by omega)
    -- From here on the order of the members plays no part.
    generalize ms.mergeSort (fun a b => a.1 ≤ b.1) = sorted at hmembers ⊢
    cases sorted with
    | nil => exact hopen.append .emptyObject
    | cons m sorted =>
      have hfirst : Reads ⟨r.stack, r.depth + 1, .firstName []⟩ _ _ :=
        reads_member (hmembers m List.mem_cons_self) (show r.depth + 1 + n ≤ maxDepth by omega)
          (.inl rfl)
      have hrest : Reads ⟨.object [] (rereadName m.1) :: r.stack, r.depth + 1, .after (reread m.2)⟩
          _ _ :=
        reads_members (fun w hw => hmembers w (List.mem_cons_of_mem _ hw)) (by omega) []
          (rereadName m.1) (reread m.2)
      have hall := (hopen.append hfirst).append hrest
      simpa [joinWith, Function.comp_def] using hall

/-- **What is written is read back.** -/
theorem read_render {n : Nat} {v : Json} (h : Textual n v) (hdepth : n ≤ maxDepth) :
    read (v.render spacedSorted) = .ok (reread v) := by
  obtain ⟨ts, hscan, hread⟩ := readBack h {} (.inl rfl) ((Nat.zero_add n).symm ▸ hdepth)
  have htokens : tokens (write spacedSorted v) = ts := by
    rw [tokens, hscan]
    simp [scanEnd]
  rw [read, render, String.toList_ofList, htokens, readTokens, hread]
  rfl

/-! ### Nothing is lost -/

mutual

/-- The value with all its strings as ordinary ones, which hold the lone halves by
    their stand-ins. -/
def held : Json → Json
  | .halves t => .str (Text.hold t)
  | .arr items => .arr (heldItems items)
  | .obj ms => .obj (heldMembers ms)
  | v => v

/-- The items, all their strings as ordinary ones. -/
def heldItems : List Json → List Json
  | [] => []
  | v :: vs => held v :: heldItems vs

/-- The members, all strings of their values as ordinary ones. -/
def heldMembers : List (String × Json) → List (String × Json)
  | [] => []
  | (name, v) :: ms => (name, held v) :: heldMembers ms

end

theorem heldItems_eq (items : List Json) : heldItems items = items.map held := by
  induction items with
  | nil => rfl
  | cons v vs ih => rw [heldItems, ih, List.map_cons]

theorem heldMembers_eq (ms : Fields) : heldMembers ms = ms.map fun m => (m.1, held m.2) := by
  induction ms with
  | nil => rfl
  | cons m ms ih => rw [heldMembers, ih, List.map_cons]

theorem held_ofText (t : Text) : held (.ofText t) = .str (Text.hold t) := by
  unfold ofText
  cases h : t.toString? with
  | none => rfl
  | some s =>
    obtain ⟨cs, hcs, rfl⟩ := Option.map_eq_some_iff.mp h
    rw [Text.eq_of_toChars? hcs, Text.hold_scalars]
    rfl

theorem held_reread_str {s : String} (h : (Text.ofHeld s).Unpaired) :
    held (reread (.str s)) = .str s := by
  rw [reread, Text.joined_of_unpaired h, held_ofText, Text.hold_ofHeld]

theorem held_reread_strings {xs : List String} (h : ∀ x ∈ xs, (Text.ofHeld x).Unpaired) :
    held (reread (strings xs)) = strings xs := by
  have hitem : ∀ x ∈ xs, held (reread (.str x)) = .str x := fun x hx => held_reread_str (h x hx)
  rw [strings, reread, rereadItems_eq, held, heldItems_eq, List.map_map, List.map_map]
  exact congrArg Json.arr (List.map_congr_left hitem)

theorem rereadName_eq {s : String} (h : (Text.ofHeld s).Unpaired) : rereadName s = s := by
  rw [rereadName, Text.joined_of_unpaired h, Text.hold_ofHeld]

/-- Two halves of a pair are read as their character. -/
example : rereadName (Text.hold [.surrogate 0x3D, .surrogate 0x600]) = "😀" := by decide

/-- Are the values objects with the same members, in whatever order? -/
def SameMembers (v w : Json) : Prop :=
  ∃ ms ms' : Fields, v = .obj ms ∧ w = .obj ms' ∧ ms.Perm ms'

/-- **An object of distinct names** is read with the members that it has, if the
    value of each is. -/
theorem sameMembers_reread {ms : Fields} (hdistinct : (ms.map (·.1)).Nodup)
    (hnames : ∀ name ∈ ms.map (·.1), (Text.ofHeld name).Unpaired)
    (hvalues : ∀ m ∈ ms, held (reread m.2) = m.2) :
    SameMembers (held (reread (.obj ms))) (.obj ms) := by
  have hperm := List.mergeSort_perm ms fun a b => a.1 ≤ b.1
  have hread : reread (.obj ms) =
      .obj ((ms.mergeSort (fun a b => a.1 ≤ b.1)).map fun m => (m.1, reread m.2)) := by
    have hmembers : ((ms.mergeSort (fun a b => a.1 ≤ b.1)).map fun m => (m.1, reread m.2)).map
        (fun m => (rereadName m.1, m.2)) =
        (ms.mergeSort (fun a b => a.1 ≤ b.1)).map fun m => (m.1, reread m.2) := by
      rw [List.map_map]
      refine List.map_congr_left fun m hm => ?_
      rw [Function.comp_apply,
        rereadName_eq (hnames m.1 (List.mem_map_of_mem (hperm.mem_iff.mp hm)))]
    rw [reread, rereadMembers_eq, mergeSort_map_values, hmembers, Fields.ofPairs_eq]
    rw [List.map_map]
    exact (hperm.map _).nodup_iff.mpr hdistinct
  refine ⟨ms.mergeSort fun a b => a.1 ≤ b.1, ms, ?_, rfl, hperm⟩
  have hsame : ∀ m ∈ ms.mergeSort fun a b => a.1 ≤ b.1, (m.1, held (reread m.2)) = m := fun m hm =>
    Prod.ext rfl (hvalues m (hperm.mem_iff.mp hm))
  rw [hread, held, heldMembers_eq, List.map_map]
  exact congrArg Json.obj ((List.map_congr_left hsame).trans (List.map_id _))

end Json

end SinkPipeline
