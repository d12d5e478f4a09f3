import SinkPipeline.Fault.Context
import SinkPipeline.Text.Case
import SinkPipeline.Text.Cut
import SinkPipeline.Text.Hex
import SinkPipeline.Text.Word

/-! # Looks

  A **look** says how text is drawn.  It is written as words:

  - an attribute such as `bold`, which is switched on, or off behind `not`;
  - a colour;
  - the colour of the background behind `on`;
  - the address of a link behind `link`.

  Of repeated words the last counts.  A look has one normal form, so that two
  ways to write it can be told to mean the same; a text that is no look is its
  own normal form but for blanks and the case of letters.
-/

namespace SinkPipeline

/-- How text is drawn. -/
structure Look where
  /-- The attributes that are switched, each on or off. -/
  attributes : List (String × Bool) := []
  /-- The colour. -/
  colour : Option String := none
  /-- The colour of the background. -/
  background : Option String := none
  /-- The address of a link. -/
  link : Option String := none
  deriving DecidableEq, Repr, Inhabited

namespace Look

/-! ### Words -/

/-- The words for attributes, in the order in which they are listed, with their
    short forms. -/
def attributeWords : List (String × List String) :=
  [("bold", ["b"]), ("dim", ["d"]), ("italic", ["i"]), ("underline", ["u"]), ("blink", []),
    ("blink2", []), ("reverse", ["r"]), ("conceal", ["c"]), ("strike", ["s"]),
    ("underline2", ["uu"]), ("frame", []), ("encircle", []), ("overline", ["o"])]

/-- The attribute that a word names. -/
def attributeOf? (word : String) : Option String :=
  (attributeWords.find? fun a => a.1 == word || a.2.contains word).map (·.1)

/-- The names of colours. -/
def colourNames : List String := ((Text.words "
  aquamarine1 aquamarine3 black blue blue1 blue3 blue_violet bright_black bright_blue bright_cyan
  bright_green bright_magenta bright_red bright_white bright_yellow cadet_blue chartreuse1
  chartreuse2 chartreuse3 chartreuse4 cornflower_blue cornsilk1 cyan cyan1 cyan2 cyan3 dark_blue
  dark_cyan dark_goldenrod dark_green dark_khaki dark_magenta dark_olive_green1 dark_olive_green2
  dark_olive_green3 dark_orange dark_orange3 dark_red dark_sea_green dark_sea_green1
  dark_sea_green2 dark_sea_green3 dark_sea_green4 dark_slate_gray1 dark_slate_gray2
  dark_slate_gray3 dark_turquoise dark_violet deep_pink1 deep_pink2 deep_pink3 deep_pink4
  deep_sky_blue1 deep_sky_blue2 deep_sky_blue3 deep_sky_blue4 dodger_blue1 dodger_blue2
  dodger_blue3 gold1 gold3 gray0 gray100 gray11 gray15 gray19 gray23 gray27 gray3 gray30 gray35
  gray37 gray39 gray42 gray46 gray50 gray53 gray54 gray58 gray62 gray63 gray66 gray69 gray7 gray70
  gray74 gray78 gray82 gray84 gray85 gray89 gray93 green green1 green3 green4 green_yellow grey0
  grey100 grey11 grey15 grey19 grey23 grey27 grey3 grey30 grey35 grey37 grey39 grey42 grey46
  grey50 grey53 grey54 grey58 grey62 grey63 grey66 grey69 grey7 grey70 grey74 grey78 grey82 grey84
  grey85 grey89 grey93 honeydew2 hot_pink hot_pink2 hot_pink3 indian_red indian_red1 khaki1 khaki3
  light_coral light_cyan1 light_cyan3 light_goldenrod1 light_goldenrod2 light_goldenrod3
  light_green light_pink1 light_pink3 light_pink4 light_salmon1 light_salmon3 light_sea_green
  light_sky_blue1 light_sky_blue3 light_slate_blue light_slate_gray light_slate_grey
  light_steel_blue light_steel_blue1 light_steel_blue3 light_yellow3 magenta magenta1 magenta2
  magenta3 medium_orchid medium_orchid1 medium_orchid3 medium_purple medium_purple1 medium_purple2
  medium_purple3 medium_purple4 medium_spring_green medium_turquoise medium_violet_red misty_rose1
  misty_rose3 navajo_white1 navajo_white3 navy_blue orange1 orange3 orange4 orange_red1 orchid
  orchid1 orchid2 pale_green1 pale_green3 pale_turquoise1 pale_turquoise4 pale_violet_red1 pink1
  pink3 plum1 plum2 plum3 plum4 purple purple3 purple4 red red1 red3 rosy_brown royal_blue1
  salmon1 sandy_brown sea_green1 sea_green2 sea_green3 sky_blue1 sky_blue2 sky_blue3 slate_blue1
  slate_blue3 spring_green1 spring_green2 spring_green3 spring_green4 steel_blue steel_blue1
  steel_blue3 tan thistle1 thistle3 turquoise2 turquoise4 violet wheat1 wheat4 white yellow
  yellow1 yellow2 yellow3 yellow4
".toList).map String.ofList)

/-- Why a text is no look. -/
inductive Flaw where
  /-- A word that means nothing where it stands. -/
  | unknownWord
  /-- A colour with a number that has no digits. -/
  | emptyNumber
  deriving DecidableEq, Repr

/-- The fault of a colour with a number that has no digits. -/
def emptyNumberFault : Fault := .plain .value "invalid literal for int() with base 10: ''"

/-- The value of a decimal digit of any script. -/
def digitValue? (c : Char) : Option Nat :=
  (Text.digitRanges.find? fun r => r.1 ≤ c.toNat && c.toNat ≤ r.2).map fun r => (c.toNat - r.1) % 10

/-- The number that decimal digits spell. -/
def number (cs : List Char) : Nat := cs.foldl (fun n c => n * 10 + (digitValue? c).getD 0) 0

/-- What stands between a word with an opening bracket and a closing bracket. -/
def argument? (word : String) (cs : List Char) : Option (List Char) :=
  let opening := word.toList ++ ['(']
  if opening.isPrefixOf cs ∧ cs.getLast? = some ')' ∧ opening.length < cs.length then
    some ((cs.drop opening.length).dropLast)
  else none

/-- Check the parts of a colour that is mixed: three numbers up to 255. -/
def checkMix (parts : List (List Char)) : Except Flaw Unit :=
  if parts.length ≠ 3 then .error .unknownWord
  else if parts.contains [] then .error .emptyNumber
  else if parts.all fun p => number p ≤ 255 then .ok ()
  else .error .unknownWord

/-- Check that a word in small letters is a colour: a name, six hexadecimal
    digits, a number of the palette, or a mix. -/
def checkColour (word : String) : Except Flaw Unit :=
  let cs := word.toList
  let known (b : Bool) : Except Flaw Unit := if b then .ok () else .error .unknownWord
  if word = "default" ∨ word ∈ colourNames then .ok ()
  else if cs.head? = some '#' then
    known (cs.length = 7 && (cs.drop 1).all fun c => (Text.hexValue? c).isSome)
  else
    match argument? "color" cs, argument? "rgb" cs with
    | some ds, _ => known (ds ≠ [] && ds.length ≤ 3 && ds.all Char.isDigit && number ds ≤ 255)
    | none, some mix =>
      if mix ≠ [] ∧ mix.all (fun c => c == ',' || (digitValue? c).isSome) then
        checkMix (Text.cutAt ',' mix)
      else .error .unknownWord
    | none, none => .error .unknownWord

/-! ### Reading -/

/-- Switch an attribute. -/
def switch (l : Look) (name : String) (on : Bool) : Look :=
  { l with attributes := (name, on) :: l.attributes.filter (·.1 ≠ name) }

/-- Read the words of a look, `l` being what those before say. -/
def readWords (l : Look) : List String → Except Flaw Look
  | [] => .ok l
  | w :: ws =>
    let word := Text.lower w
    if word = "on" then
      match ws with
      | [] => .error .unknownWord
      | c :: ws => do
        checkColour (Text.lower c)
        readWords { l with background := some (Text.lower c) } ws
    else if word = "not" then
      match ws with
      | [] => .error .unknownWord
      | a :: ws =>
        match attributeOf? a with
        | some a => readWords (l.switch a false) ws
        | none => .error .unknownWord
    else if word = "link" then
      match ws with
      | [] => .error .unknownWord
      | address :: ws => readWords { l with link := some address } ws
    else
      match attributeOf? word with
      | some a => readWords (l.switch a true) ws
      | none => do
        checkColour word
        readWords { l with colour := some word } ws

/-- The look that a text writes. -/
def read (cs : List Char) : Except Flaw Look :=
  let words := (Text.words cs).map String.ofList
  if words = ["none"] then .ok {} else readWords {} words

/-! ### The normal form -/

/-- The words of a look: the attributes in the order of their list, the colour,
    the background, the link. -/
def words (l : Look) : List String :=
  (attributeWords.filterMap fun a =>
    (l.attributes.lookup a.1).map fun on => if on then a.1 else "not " ++ a.1) ++
    l.colour.toList ++ (l.background.toList.flatMap fun c => ["on", c]) ++
    l.link.toList.flatMap fun address => ["link", address]

/-- The text of a look in its normal form. -/
def text (l : Look) : String := if l.words = [] then "none" else " ".intercalate l.words

/-- The normal form of a text.  A number without digits is a fault. -/
def normalForm (cs : List Char) : Except Fault String :=
  match read cs with
  | .ok l => .ok l.text
  | .error .unknownWord => .ok (Text.lower (Text.strip (String.ofList cs)))
  | .error .emptyNumber => .error emptyNumberFault

end Look

end SinkPipeline
