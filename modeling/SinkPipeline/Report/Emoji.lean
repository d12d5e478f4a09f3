import SinkPipeline.Report.EmojiTable
import SinkPipeline.Text.Case
import SinkPipeline.Text.Cut
import SinkPipeline.Text.Hex

/-! # Emoji codes

  In a text that is printed, a name between two colons is a **code**: it stands
  for the emoji of that name, in any case of letters.  A name may end in
  `-emoji` or `-text`, which adds a character that chooses how the emoji is
  drawn.

  The text from one colon to the next is taken as a whole if no blank is in it,
  also when it names nothing: it then stays as it is, and its second colon
  opens no code.
-/

namespace SinkPipeline.Emoji

/-! ### Names -/

/-- The name and the characters that an entry of the table gives. -/
def ofEntry (entry : List Char) : String × List Char :=
  let (name, points) := entry.span (· != '=')
  let characters := (Text.cutAt '.' (points.drop 1)).map fun ds => Char.ofNat (Text.hexNumber ds)
  (String.ofList name, characters)

/-- Every name with its characters. -/
def all : List (String × List Char) := (Text.words table.toList).map ofEntry

/-- Does a code, a tag or an escape begin with the character? -/
def isMark (c : Char) : Bool := c == ':' || c == '[' || c == '\\'

/-- The emoji of a name in small letters.  No emoji is drawn with a mark, so
    none gives rise to another code or to a tag. -/
def named? (name : String) : Option (List Char) :=
  (all.lookup name).filter fun characters => !characters.any isMark

/-- The endings of names that choose how an emoji is drawn, each with its
    character. -/
def variants : List (List Char × Char) :=
  [("-emoji".toList, '\uFE0F'), ("-text".toList, '\uFE0E')]

/-- The text without the ending, if it has that ending. -/
def withoutEnding? (ending cs : List Char) : Option (List Char) :=
  if ending.isSuffixOf cs then some (cs.take (cs.length - ending.length)) else none

/-- A code's name without its ending, and what the ending adds. -/
def splitVariant (code : List Char) : List Char × List Char :=
  ((variants.findSome? fun v => (withoutEnding? v.1 code).map fun name => (name, [v.2])).getD
    (code, []))

/-! ### Codes -/

/-- What stands between the colon in front of a text and the next one, and what
    follows that. -/
def codeAtFront? (cs : List Char) : Option (List Char × List Char) :=
  match cs.span fun c => c != ':' && !Text.isBlank c with
  | (code, ':' :: rest) => some (code, rest)
  | _ => none

/-- What a code shows, `named` being the emoji of a name. -/
def ofCode (named : String → Option (List Char)) (code : List Char) : List Char :=
  let (name, drawn) := splitVariant code
  match named (Text.lower (String.ofList name)) with
  | some emoji => emoji ++ drawn
  | none => ':' :: code ++ [':']

/-- A text with its codes replaced, `fuel` being at least its length. -/
def replaceWith (named : String → Option (List Char)) : Nat → List Char → List Char
  | 0, cs => cs
  | _ + 1, [] => []
  | fuel + 1, c :: cs =>
    match if c = ':' then codeAtFront? cs else none with
    | some (code, rest) => ofCode named code ++ replaceWith named fuel rest
    | none => c :: replaceWith named fuel cs

/-- A text with its emoji codes replaced. -/
def replace (cs : List Char) : List Char := replaceWith named? cs.length cs

/-- A text without a colon stays as it is, whatever emoji there are. -/
theorem replaceWith_of_not_mem (named : String → Option (List Char)) (fuel : Nat)
    (cs : List Char) (h : ':' ∉ cs) : replaceWith named fuel cs = cs := by
  induction fuel generalizing cs with
  | zero => rfl
  | succ fuel ih =>
    cases cs with
    | nil => rfl
    | cons c cs =>
      simp only [List.mem_cons, not_or] at h
      simp [replaceWith, Ne.symm h.1, ih cs h.2]

end SinkPipeline.Emoji
