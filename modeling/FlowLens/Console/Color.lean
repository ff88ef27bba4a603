/-
  Colours of a terminal: its own colour, sixteen standard ones, 256 by number, and
  any mixture of red, green and blue.  A terminal that does not show a colour gets
  the one that comes nearest to it.

  * `Color.read` is the colour that a word names;
  * `Color.within` is a colour as a terminal can show it;
  * `Color.codes` are the codes that switch to a colour.
-/
import FlowLens.Number.Double
import FlowLens.Number.IntegerText
import FlowLens.Text.LowerCase

namespace FlowLens

/-- A colour. -/
inductive Color where
  /-- The terminal's own. -/
  | own
  /-- One of the sixteen standard ones. -/
  | standard (n : Nat)
  /-- One of 256. -/
  | indexed (n : Nat)
  /-- A mixture of red, green and blue. -/
  | mixed (r g b : Nat)
  deriving DecidableEq, Repr

/-- The colours that a terminal can show. -/
inductive ColorDepth where
  /-- The standard ones. -/
  | standard
  /-- 256 of them. -/
  | indexed
  /-- All mixtures. -/
  | full
  deriving DecidableEq, Repr

/-- Why a word names no colour. -/
inductive ColorFault where
  /-- It is not understood. -/
  | unclear
  /-- A part of a mixture has no number. -/
  | noNumber
  deriving DecidableEq, Repr

namespace Color

/-! ## Names -/

/-- The names of colours and their numbers. -/
def names : List (String × Nat) := [
    ("black", 0), ("red", 1), ("green", 2), ("yellow", 3), ("blue", 4), ("magenta", 5), ("cyan", 6),
    ("white", 7), ("bright_black", 8), ("bright_red", 9), ("bright_green", 10),
    ("bright_yellow", 11), ("bright_blue", 12), ("bright_magenta", 13), ("bright_cyan", 14),
    ("bright_white", 15), ("grey0", 16), ("gray0", 16), ("navy_blue", 17), ("dark_blue", 18),
    ("blue3", 20), ("blue1", 21), ("dark_green", 22), ("deep_sky_blue4", 25), ("dodger_blue3", 26),
    ("dodger_blue2", 27), ("green4", 28), ("spring_green4", 29), ("turquoise4", 30),
    ("deep_sky_blue3", 32), ("dodger_blue1", 33), ("green3", 40), ("spring_green3", 41),
    ("dark_cyan", 36), ("light_sea_green", 37), ("deep_sky_blue2", 38), ("deep_sky_blue1", 39),
    ("spring_green2", 47), ("cyan3", 43), ("dark_turquoise", 44), ("turquoise2", 45),
    ("green1", 46), ("spring_green1", 48), ("medium_spring_green", 49), ("cyan2", 50),
    ("cyan1", 51), ("dark_red", 88), ("deep_pink4", 125), ("purple4", 55), ("purple3", 56),
    ("blue_violet", 57), ("orange4", 94), ("grey37", 59), ("gray37", 59), ("medium_purple4", 60),
    ("slate_blue3", 62), ("royal_blue1", 63), ("chartreuse4", 64), ("dark_sea_green4", 71),
    ("pale_turquoise4", 66), ("steel_blue", 67), ("steel_blue3", 68), ("cornflower_blue", 69),
    ("chartreuse3", 76), ("cadet_blue", 73), ("sky_blue3", 74), ("steel_blue1", 81),
    ("pale_green3", 114), ("sea_green3", 78), ("aquamarine3", 79), ("medium_turquoise", 80),
    ("chartreuse2", 112), ("sea_green2", 83), ("sea_green1", 85), ("aquamarine1", 122),
    ("dark_slate_gray2", 87), ("dark_magenta", 91), ("dark_violet", 128), ("purple", 129),
    ("light_pink4", 95), ("plum4", 96), ("medium_purple3", 98), ("slate_blue1", 99),
    ("yellow4", 106), ("wheat4", 101), ("grey53", 102), ("gray53", 102), ("light_slate_grey", 103),
    ("light_slate_gray", 103), ("medium_purple", 104), ("light_slate_blue", 105),
    ("dark_olive_green3", 149), ("dark_sea_green", 108), ("light_sky_blue3", 110),
    ("sky_blue2", 111), ("dark_sea_green3", 150), ("dark_slate_gray3", 116), ("sky_blue1", 117),
    ("chartreuse1", 118), ("light_green", 120), ("pale_green1", 156), ("dark_slate_gray1", 123),
    ("red3", 160), ("medium_violet_red", 126), ("magenta3", 164), ("dark_orange3", 166),
    ("indian_red", 167), ("hot_pink3", 168), ("medium_orchid3", 133), ("medium_orchid", 134),
    ("medium_purple2", 140), ("dark_goldenrod", 136), ("light_salmon3", 173), ("rosy_brown", 138),
    ("grey63", 139), ("gray63", 139), ("medium_purple1", 141), ("gold3", 178), ("dark_khaki", 143),
    ("navajo_white3", 144), ("grey69", 145), ("gray69", 145), ("light_steel_blue3", 146),
    ("light_steel_blue", 147), ("yellow3", 184), ("dark_sea_green2", 157), ("light_cyan3", 152),
    ("light_sky_blue1", 153), ("green_yellow", 154), ("dark_olive_green2", 155),
    ("dark_sea_green1", 193), ("pale_turquoise1", 159), ("deep_pink3", 162), ("magenta2", 200),
    ("hot_pink2", 169), ("orchid", 170), ("medium_orchid1", 207), ("orange3", 172),
    ("light_pink3", 174), ("pink3", 175), ("plum3", 176), ("violet", 177),
    ("light_goldenrod3", 179), ("tan", 180), ("misty_rose3", 181), ("thistle3", 182),
    ("plum2", 183), ("khaki3", 185), ("light_goldenrod2", 222), ("light_yellow3", 187),
    ("grey84", 188), ("gray84", 188), ("light_steel_blue1", 189), ("yellow2", 190),
    ("dark_olive_green1", 192), ("honeydew2", 194), ("light_cyan1", 195), ("red1", 196),
    ("deep_pink2", 197), ("deep_pink1", 199), ("magenta1", 201), ("orange_red1", 202),
    ("indian_red1", 204), ("hot_pink", 206), ("dark_orange", 208), ("salmon1", 209),
    ("light_coral", 210), ("pale_violet_red1", 211), ("orchid2", 212), ("orchid1", 213),
    ("orange1", 214), ("sandy_brown", 215), ("light_salmon1", 216), ("light_pink1", 217),
    ("pink1", 218), ("plum1", 219), ("gold1", 220), ("navajo_white1", 223), ("misty_rose1", 224),
    ("thistle1", 225), ("yellow1", 226), ("light_goldenrod1", 227), ("khaki1", 228),
    ("wheat1", 229), ("cornsilk1", 230), ("grey100", 231), ("gray100", 231), ("grey3", 232),
    ("gray3", 232), ("grey7", 233), ("gray7", 233), ("grey11", 234), ("gray11", 234),
    ("grey15", 235), ("gray15", 235), ("grey19", 236), ("gray19", 236), ("grey23", 237),
    ("gray23", 237), ("grey27", 238), ("gray27", 238), ("grey30", 239), ("gray30", 239),
    ("grey35", 240), ("gray35", 240), ("grey39", 241), ("gray39", 241), ("grey42", 242),
    ("gray42", 242), ("grey46", 243), ("gray46", 243), ("grey50", 244), ("gray50", 244),
    ("grey54", 245), ("gray54", 245), ("grey58", 246), ("gray58", 246), ("grey62", 247),
    ("gray62", 247), ("grey66", 248), ("gray66", 248), ("grey70", 249), ("gray70", 249),
    ("grey74", 250), ("gray74", 250), ("grey78", 251), ("gray78", 251), ("grey82", 252),
    ("gray82", 252), ("grey85", 253), ("gray85", 253), ("grey89", 254), ("gray89", 254),
    ("grey93", 255), ("gray93", 255)]

/-- The colour of a number. -/
def ofNumber (n : Nat) : Color :=
  if n < 16 then .standard n else .indexed n

/-- The colour of a number sign and six hexadecimal digits. -/
def ofHex? : Text → Option Color
  | .char '#' :: digits =>
    match digits.mapM CodePoint.hexDigit? with
    | some [a, b, c, d, e, f] => some (.mixed (16 * a + b) (16 * c + d) (16 * e + f))
    | _ => none
  | _ => none

/-- What a text has between `front` and a closing parenthesis at its end. -/
def argument? (front t : Text) : Option Text :=
  if front.isPrefixOf t && t.getLast? = some (.char ')') && front.length < t.length then
    some (t.drop front.length).dropLast
  else none

/-- The number of a text of digits of any script. -/
def number (digits : Text) : Nat :=
  ofDigits 10 (digits.map fun c => c.digit?.getD 0)

/-- The colour of a number in text: up to three digits, at most 255. -/
def ofNumberText? (t : Text) : Option Color :=
  if !t.isEmpty && t.length ≤ 3 && t.all CodePoint.isAsciiDigit && number t ≤ 255 then
    some (ofNumber (number t))
  else none

/-- The mixture of three numbers of at most 255. -/
def ofTriplet (t : Text) : Except ColorFault Color :=
  if t.isEmpty || !t.all (fun c => c.isDigit || c = .char ',') then .error .unclear
  else
    match Text.splitBy (· = .char ',') t with
    | [r, g, b] =>
      if [r, g, b].any (·.isEmpty) then .error .noNumber
      else if [r, g, b].all (number · ≤ 255) then .ok (.mixed (number r) (number g) (number b))
      else .error .unclear
    | _ => .error .unclear

/-- The colour that a word in lower case names. -/
def read (name : Text) : Except ColorFault Color :=
  let found (c : Option Color) : Except ColorFault Color :=
    match c with
    | some c => .ok c
    | none => .error .unclear
  if name = "default" then .ok .own
  else if let some (_, n) := names.find? fun entry => Text.ofString entry.1 = name then
    .ok (ofNumber n)
  else if let some c := ofHex? name then .ok c
  else if let some n := argument? "color(" name then found (ofNumberText? n)
  else if let some t := argument? "rgb(" name then ofTriplet t
  else .error .unclear

/-! ## Nearest colours -/

/-- The standard colours as mixtures. -/
def standardMixtures : List (Nat × Nat × Nat) := [
  (0, 0, 0), (170, 0, 0), (0, 170, 0), (170, 85, 0), (0, 0, 170), (170, 0, 170), (0, 170, 170),
  (170, 170, 170), (85, 85, 85), (255, 85, 85), (85, 255, 85), (255, 255, 85), (85, 85, 255),
  (255, 85, 255), (85, 255, 255), (255, 255, 255)]

/-- The first sixteen of the 256 colours as mixtures. -/
def firstMixtures : List (Nat × Nat × Nat) := [
  (0, 0, 0), (128, 0, 0), (0, 128, 0), (128, 128, 0), (0, 0, 128), (128, 0, 128), (0, 128, 128),
  (192, 192, 192), (128, 128, 128), (255, 0, 0), (0, 255, 0), (255, 255, 0), (0, 0, 255),
  (255, 0, 255), (0, 255, 255), (255, 255, 255)]

/-- The strength of a step of the colour cube. -/
def cubeStrength (step : Nat) : Nat :=
  if step = 0 then 0 else 55 + 40 * step

/-- One of the 256 colours as a mixture: sixteen, a cube of six steps for each part,
    and greys. -/
def mixtureOf (n : Nat) : Nat × Nat × Nat :=
  if n < 16 then firstMixtures.getD n (0, 0, 0)
  else if n < 232 then
    let k := n - 16
    (cubeStrength (k / 36), cubeStrength (k / 6 % 6), cubeStrength (k % 6))
  else (8 + 10 * (n - 232), 8 + 10 * (n - 232), 8 + 10 * (n - 232))

/-- How far apart two mixtures look. -/
def distance (c d : Nat × Nat × Nat) : Nat :=
  let mean := (c.1 + d.1) / 2
  let square (a b : Nat) : Nat := ((a : Int) - b).natAbs * ((a : Int) - b).natAbs
  (512 + mean) * square c.1 d.1 / 256 + 4 * square c.2.1 d.2.1 +
    (767 - mean) * square c.2.2 d.2.2 / 256

/-- The first of the standard colours that look most like a mixture. -/
def nearestStandard (c : Nat × Nat × Nat) : Nat :=
  let far := standardMixtures.map (distance c)
  (far.min?.map far.idxOf).getD 0

/-- The part of a mixture out of 255, as a double. -/
def share (n : Nat) : Double :=
  .ofRatio false n 255

/-- Whether a mixture is nearly grey: its saturation, worked out in double
    precision, is below 0.15. -/
def isGrayish (r g b : Nat) : Bool :=
  let top := max r (max g b)
  let low := min r (min g b)
  let gap := (share top).sub (share low)
  let sum := (share top).add (share low)
  let saturation :=
    if sum.le (.ofInt 1) then gap.dividedBy sum
    else gap.dividedBy (((Double.ofInt 2).sub (share top)).sub (share low))
  top = low || !(Double.ofRatio false 15 100).le saturation

/-- The grey of the 256 colours that comes nearest to a mixture. -/
def nearestGray (r g b : Nat) : Nat :=
  let level := roundDiv (25 * (max r (max g b) + min r (min g b))) 510
  if level = 0 then 16 else if level = 25 then 231 else 231 + level

/-- The step of the colour cube that comes nearest to a strength. -/
def cubeStep (strength : Nat) : Nat :=
  if strength < 95 then roundDiv strength 95 else roundDiv (strength - 55) 40

/-- A colour as a terminal can show it. -/
def within (depth : ColorDepth) : Color → Color
  | .indexed n =>
    match depth with
    | .standard => .standard (nearestStandard (mixtureOf n))
    | _ => .indexed n
  | .mixed r g b =>
    match depth with
    | .standard => .standard (nearestStandard (r, g, b))
    | .indexed =>
      if isGrayish r g b then .indexed (nearestGray r g b)
      else .indexed (16 + 36 * cubeStep r + 6 * cubeStep g + cubeStep b)
    | .full => .mixed r g b
  | c => c

/-- The codes that switch to a colour, of the text or of the ground behind it. -/
def codes (ground : Bool) : Color → List Text
  | .own => [if ground then "49" else "39"]
  | .standard n =>
    let base := if n < 8 then 30 else 82
    [natText (base + n + if ground then 10 else 0)]
  | .indexed n => [if ground then "48" else "38", "5", natText n]
  | .mixed r g b => [if ground then "48" else "38", "2", natText r, natText g, natText b]

end Color

end FlowLens
