import CommentTags.Text.Letters
import CommentTags.Text.Lowercase

namespace CommentTags.Console

inductive Attribute where
  | bold
  | dim
  | italic
  | underline
  | blink
  | fastBlink
  | reverse
  | conceal
  | strike
  | doubleUnderline
  | frame
  | encircle
  | overline
deriving DecidableEq, Repr

namespace Attribute

def all : List Attribute :=
  [.bold, .dim, .italic, .underline, .blink, .fastBlink, .reverse, .conceal, .strike,
    .doubleUnderline, .frame, .encircle, .overline]

def name : Attribute → Text
  | .bold => "bold".toList
  | .dim => "dim".toList
  | .italic => "italic".toList
  | .underline => "underline".toList
  | .blink => "blink".toList
  | .fastBlink => "blink2".toList
  | .reverse => "reverse".toList
  | .conceal => "conceal".toList
  | .strike => "strike".toList
  | .doubleUnderline => "underline2".toList
  | .frame => "frame".toList
  | .encircle => "encircle".toList
  | .overline => "overline".toList

def shortName? : Attribute → Option Text
  | .bold => some ['b']
  | .dim => some ['d']
  | .italic => some ['i']
  | .underline => some ['u']
  | .reverse => some ['r']
  | .conceal => some ['c']
  | .strike => some ['s']
  | .doubleUnderline => some ['u', 'u']
  | .overline => some ['o']
  | _ => none

def ofName? (s : Text) : Option Attribute :=
  all.find? (fun a => a.name = s || a.shortName? = some s)

end Attribute

def colorLines : List String :=
  ["default",
   "black red green yellow blue magenta cyan white bright_black bright_red bright_green",
   "bright_yellow bright_blue bright_magenta bright_cyan bright_white grey0 gray0 navy_blue",
   "dark_blue blue3 blue1 dark_green deep_sky_blue4 dodger_blue3 dodger_blue2 green4",
   "spring_green4 turquoise4 deep_sky_blue3 dodger_blue1 green3 spring_green3 dark_cyan",
   "light_sea_green deep_sky_blue2 deep_sky_blue1 spring_green2 cyan3 dark_turquoise",
   "turquoise2 green1 spring_green1 medium_spring_green cyan2 cyan1 dark_red deep_pink4",
   "purple4 purple3 blue_violet orange4 grey37 gray37 medium_purple4 slate_blue3 royal_blue1",
   "chartreuse4 dark_sea_green4 pale_turquoise4 steel_blue steel_blue3 cornflower_blue",
   "chartreuse3 cadet_blue sky_blue3 steel_blue1 pale_green3 sea_green3 aquamarine3",
   "medium_turquoise chartreuse2 sea_green2 sea_green1 aquamarine1 dark_slate_gray2",
   "dark_magenta dark_violet purple light_pink4 plum4 medium_purple3 slate_blue1 yellow4",
   "wheat4 grey53 gray53 light_slate_grey light_slate_gray medium_purple light_slate_blue",
   "dark_olive_green3 dark_sea_green light_sky_blue3 sky_blue2 dark_sea_green3",
   "dark_slate_gray3 sky_blue1 chartreuse1 light_green pale_green1 dark_slate_gray1 red3",
   "medium_violet_red magenta3 dark_orange3 indian_red hot_pink3 medium_orchid3 medium_orchid",
   "medium_purple2 dark_goldenrod light_salmon3 rosy_brown grey63 gray63 medium_purple1 gold3",
   "dark_khaki navajo_white3 grey69 gray69 light_steel_blue3 light_steel_blue yellow3",
   "dark_sea_green2 light_cyan3 light_sky_blue1 green_yellow dark_olive_green2 dark_sea_green1",
   "pale_turquoise1 deep_pink3 magenta2 hot_pink2 orchid medium_orchid1 orange3 light_pink3",
   "pink3 plum3 violet light_goldenrod3 tan misty_rose3 thistle3 plum2 khaki3 light_goldenrod2",
   "light_yellow3 grey84 gray84 light_steel_blue1 yellow2 dark_olive_green1 honeydew2",
   "light_cyan1 red1 deep_pink2 deep_pink1 magenta1 orange_red1 indian_red1 hot_pink",
   "dark_orange salmon1 light_coral pale_violet_red1 orchid2 orchid1 orange1 sandy_brown",
   "light_salmon1 light_pink1 pink1 plum1 gold1 navajo_white1 misty_rose1 thistle1 yellow1",
   "light_goldenrod1 khaki1 wheat1 cornsilk1 grey100 gray100 grey3 gray3 grey7 gray7 grey11",
   "gray11 grey15 gray15 grey19 gray19 grey23 gray23 grey27 gray27 grey30 gray30 grey35 gray35",
   "grey39 gray39 grey42 gray42 grey46 gray46 grey50 gray50 grey54 gray54 grey58 gray58 grey62",
   "gray62 grey66 gray66 grey70 gray70 grey74 gray74 grey78 gray78 grey82 gray82 grey85 gray85",
   "grey89 gray89 grey93 gray93"]

def colorNames : List Text := colorLines.flatMap (fun line => Text.fields line.toList)

def arguments? (model s : Text) : Option Text :=
  let rest := s.drop model.length
  if model.isPrefixOf s && rest.head? = some '(' && rest.getLast? = some ')' then
    some ((rest.drop 1).dropLast)
  else none

inductive NumberError where
  | missing
  | tooLong (digits : Nat)
deriving DecidableEq, Repr

def NumberError.message : NumberError → Text
  | .missing => "invalid literal for int() with base 10: ''".toList
  | .tooLong digits => Text.tooManyDigits digits

inductive StyleError where
  | unknown
  | number (e : NumberError)
deriving DecidableEq, Repr

def share (digits : Text) : Except StyleError Nat :=
  if digits.isEmpty then .error (.number .missing)
  else if Text.digitLimit < digits.length then .error (.number (.tooLong digits.length))
  else .ok (Text.decimalsValue digits)

def color (word : Text) : Except StyleError Text :=
  let name := Text.lower word
  let known (b : Bool) : Except StyleError Text := if b then .ok name else .error .unknown
  match name, arguments? "color".toList name, arguments? "rgb".toList name with
  | '#' :: digits, _, _ => known (digits.length == 6 && digits.all Text.isHexDigit)
  | _, some digits, _ =>
    known (!digits.isEmpty && digits.length ≤ 3 && digits.all Text.isDigit &&
      Text.digitsValue digits ≤ 255)
  | _, _, some numbers =>
    match numbers.splitOn ',' with
    | [red, green, blue] =>
      if (red ++ green ++ blue).all Text.isDecimal then do
        let red ← share red
        let green ← share green
        let blue ← share blue
        known (max red (max green blue) ≤ 255)
      else .error .unknown
    | _ => .error .unknown
  | _, _, _ => known (colorNames.contains name)

structure Style where
  attributes : List (Attribute × Bool) := []
  color : Option Text := none
  background : Option Text := none
  link : Option Text := none
deriving DecidableEq, Repr

namespace Style

def describe (style : Style) : List Text → Except StyleError Style
  | [] => .ok style
  | word :: words =>
    let name := Text.lower word
    if name = "on".toList then
      match words with
      | [] => .error .unknown
      | next :: words => do
        describe { style with background := some (← Console.color next) } words
    else if name = "not".toList then
      match words with
      | [] => .error .unknown
      | next :: words =>
        match Attribute.ofName? next with
        | some a => describe { style with attributes := (a, false) :: style.attributes } words
        | none => .error .unknown
    else if name = "link".toList then
      match words with
      | [] => .error .unknown
      | next :: words => describe { style with link := some next } words
    else
      match Attribute.ofName? name with
      | some a => describe { style with attributes := (a, true) :: style.attributes } words
      | none => do describe { style with color := some (← Console.color name) } words

def ofWords (s : Text) : Except StyleError Style :=
  if Text.trim s = "none".toList then .ok {} else describe {} (Text.fields s)

def words (style : Style) : List Text :=
  let setting (a : Attribute) :=
    match style.attributes.lookup a with
    | some true => [a.name]
    | some false => ["not".toList, a.name]
    | none => []
  let after (word : String) (s : Option Text) := (s.map (fun s => [word.toList, s])).getD []
  Attribute.all.flatMap setting ++ style.color.toList ++ after "on" style.background ++
    after "link" style.link

def text (style : Style) : Text :=
  if style.words.isEmpty then "none".toList else Text.spaced style.words

end Style

def styleName (s : Text) : Except NumberError Text :=
  match Style.ofWords s with
  | .ok style => .ok style.text
  | .error .unknown => .ok (Text.lower (Text.trim s))
  | .error (.number e) => .error e

end CommentTags.Console
