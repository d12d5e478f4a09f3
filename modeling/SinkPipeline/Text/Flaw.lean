import SinkPipeline.Text.Quoted
import SinkPipeline.Text.Utf8

/-! # Flaws of UTF-8

  Where decoding must not go on over ill-formed input, the first **flaw** is
  reported: the bytes that are no character, and what is wrong with them.
-/

namespace SinkPipeline.Text.Utf8

/-- What is wrong with a sequence of bytes. -/
inductive FlawKind where
  /-- No character starts with its first byte. -/
  | badStart
  /-- A byte that does not continue the character. -/
  | badContinuation
  /-- The input ends inside a character. -/
  | cutShort
  deriving DecidableEq, Repr

/-- The wording for what is wrong. -/
def FlawKind.text : FlawKind → String
  | .badStart => "invalid start byte"
  | .badContinuation => "invalid continuation byte"
  | .cutShort => "unexpected end of data"

/-- Bytes that are no character. -/
structure Flaw where
  /-- Where they begin. -/
  start : Nat
  /-- How many they are. -/
  length : Nat
  /-- What is wrong with them. -/
  kind : FlawKind
  deriving DecidableEq, Repr

/-- The first flaw of an input whose bytes before `pos` are read, the current
    character having begun at `begun`. -/
def flawFrom (s : State) (begun pos : Nat) : Bytes → Option Flaw
  | [] =>
    match s with
    | .start => none
    | .inside .. => some ⟨begun, pos - begun, .cutShort⟩
  | b :: bytes =>
    match s with
    | .start =>
      match lead b.toNat with
      | (.start, _) =>
        if b.toNat < 0x80 then flawFrom .start (pos + 1) (pos + 1) bytes
        else some ⟨pos, 1, .badStart⟩
      | (s, _) => flawFrom s pos (pos + 1) bytes
    | .inside _ _ low high =>
      if low ≤ b.toNat ∧ b.toNat ≤ high then
        flawFrom (step s b).1 begun (pos + 1) bytes
      else some ⟨begun, pos - begun, .badContinuation⟩

/-- The first flaw of an input, if it is not well-formed. -/
def flaw? (bytes : Bytes) : Option Flaw := flawFrom .start 0 0 bytes

/-- The message about a flaw of an input. -/
def Flaw.message (f : Flaw) (bytes : Bytes) : String :=
  let what :=
    if f.length = 1 then
      "byte 0x" ++ String.ofList (Text.hexDigits 2 ((bytes[f.start]?.getD 0).toNat)) ++
        " in position " ++ toString f.start
    else "bytes in position " ++ toString f.start ++ "-" ++ toString (f.start + f.length - 1)
  "'utf-8' codec can't decode " ++ what ++ ": " ++ f.kind.text

end SinkPipeline.Text.Utf8
