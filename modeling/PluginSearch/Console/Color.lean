import PluginSearch.Text.Digits
import PluginSearch.Text.Lowercase

set_option autoImplicit false

namespace PluginSearch

def roundDiv (a b : Nat) : Nat :=
  let q := a / b
  let r := a % b
  if 2 * r < b then q else if b < 2 * r then q + 1 else q + q % 2

inductive Shade where
  | default
  | indexed (number : Nat)
  | mixed (red green blue : Nat)
  deriving Repr, DecidableEq, Inhabited

structure Color where
  name : String
  shade : Shade
  deriving Repr, DecidableEq, Inhabited

namespace Color

def numbers : List (String × Nat) :=
  [("black", 0), ("red", 1), ("green", 2), ("yellow", 3), ("blue", 4), ("magenta", 5), ("cyan", 6),
   ("white", 7), ("bright_black", 8), ("bright_red", 9), ("bright_green", 10),
   ("bright_yellow", 11), ("bright_blue", 12), ("bright_magenta", 13), ("bright_cyan", 14),
   ("bright_white", 15), ("navy_blue", 17), ("dark_blue", 18), ("blue3", 20), ("blue1", 21),
   ("dark_green", 22), ("deep_sky_blue4", 25), ("dodger_blue3", 26), ("dodger_blue2", 27),
   ("green4", 28), ("spring_green4", 29), ("turquoise4", 30), ("deep_sky_blue3", 32),
   ("dodger_blue1", 33), ("green3", 40), ("spring_green3", 41), ("dark_cyan", 36),
   ("light_sea_green", 37), ("deep_sky_blue2", 38), ("deep_sky_blue1", 39), ("spring_green2", 47),
   ("cyan3", 43), ("dark_turquoise", 44), ("turquoise2", 45), ("green1", 46),
   ("spring_green1", 48), ("medium_spring_green", 49), ("cyan2", 50), ("cyan1", 51),
   ("dark_red", 88), ("deep_pink4", 125), ("purple4", 55), ("purple3", 56), ("blue_violet", 57),
   ("orange4", 94), ("medium_purple4", 60), ("slate_blue3", 62), ("royal_blue1", 63),
   ("chartreuse4", 64), ("dark_sea_green4", 71), ("pale_turquoise4", 66), ("steel_blue", 67),
   ("steel_blue3", 68), ("cornflower_blue", 69), ("chartreuse3", 76), ("cadet_blue", 73),
   ("sky_blue3", 74), ("steel_blue1", 81), ("pale_green3", 114), ("sea_green3", 78),
   ("aquamarine3", 79), ("medium_turquoise", 80), ("chartreuse2", 112), ("sea_green2", 83),
   ("sea_green1", 85), ("aquamarine1", 122), ("dark_slate_gray2", 87), ("dark_magenta", 91),
   ("dark_violet", 128), ("purple", 129), ("light_pink4", 95), ("plum4", 96),
   ("medium_purple3", 98), ("slate_blue1", 99), ("yellow4", 106), ("wheat4", 101),
   ("light_slate_grey", 103), ("light_slate_gray", 103), ("medium_purple", 104),
   ("light_slate_blue", 105), ("dark_olive_green3", 149), ("dark_sea_green", 108),
   ("light_sky_blue3", 110), ("sky_blue2", 111), ("dark_sea_green3", 150),
   ("dark_slate_gray3", 116), ("sky_blue1", 117), ("chartreuse1", 118), ("light_green", 120),
   ("pale_green1", 156), ("dark_slate_gray1", 123), ("red3", 160), ("medium_violet_red", 126),
   ("magenta3", 164), ("dark_orange3", 166), ("indian_red", 167), ("hot_pink3", 168),
   ("medium_orchid3", 133), ("medium_orchid", 134), ("medium_purple2", 140),
   ("dark_goldenrod", 136), ("light_salmon3", 173), ("rosy_brown", 138), ("medium_purple1", 141),
   ("gold3", 178), ("dark_khaki", 143), ("navajo_white3", 144), ("light_steel_blue3", 146),
   ("light_steel_blue", 147), ("yellow3", 184), ("dark_sea_green2", 157), ("light_cyan3", 152),
   ("light_sky_blue1", 153), ("green_yellow", 154), ("dark_olive_green2", 155),
   ("dark_sea_green1", 193), ("pale_turquoise1", 159), ("deep_pink3", 162), ("magenta2", 200),
   ("hot_pink2", 169), ("orchid", 170), ("medium_orchid1", 207), ("orange3", 172),
   ("light_pink3", 174), ("pink3", 175), ("plum3", 176), ("violet", 177),
   ("light_goldenrod3", 179), ("tan", 180), ("misty_rose3", 181), ("thistle3", 182),
   ("plum2", 183), ("khaki3", 185), ("light_goldenrod2", 222), ("light_yellow3", 187),
   ("light_steel_blue1", 189), ("yellow2", 190), ("dark_olive_green1", 192), ("honeydew2", 194),
   ("light_cyan1", 195), ("red1", 196), ("deep_pink2", 197), ("deep_pink1", 199),
   ("magenta1", 201), ("orange_red1", 202), ("indian_red1", 204), ("hot_pink", 206),
   ("dark_orange", 208), ("salmon1", 209), ("light_coral", 210), ("pale_violet_red1", 211),
   ("orchid2", 212), ("orchid1", 213), ("orange1", 214), ("sandy_brown", 215),
   ("light_salmon1", 216), ("light_pink1", 217), ("pink1", 218), ("plum1", 219), ("gold1", 220),
   ("navajo_white1", 223), ("misty_rose1", 224), ("thistle1", 225), ("yellow1", 226),
   ("light_goldenrod1", 227), ("khaki1", 228), ("wheat1", 229), ("cornsilk1", 230)]

def grays : List (Nat × Nat) :=
  [(0, 16), (37, 59), (53, 102), (63, 139), (69, 145), (84, 188), (100, 231), (3, 232), (7, 233),
   (11, 234), (15, 235), (19, 236), (23, 237), (27, 238), (30, 239), (35, 240), (39, 241),
   (42, 242), (46, 243), (50, 244), (54, 245), (58, 246), (62, 247), (66, 248), (70, 249),
   (74, 250), (78, 251), (82, 252), (85, 253), (89, 254), (93, 255)]

def grayNumber? (name : String) : Option Nat :=
  (grays.find? fun (level, _) =>
    name = "gray" ++ toString level || name = "grey" ++ toString level).map (·.2)

def number? (name : String) : Option Nat := (numbers.lookup name).or (grayNumber? name)

def between? (opening : String) (cs : List Char) : Option (List Char) :=
  if opening.toList.isPrefixOf cs && cs.getLast? = some ')' then
    some (cs.drop opening.length).dropLast
  else none

def ofHex? (digits : List Char) : Option Shade :=
  if digits.length = 6 then do
    let red ← Hex.value? (digits.take 2)
    let green ← Hex.value? ((digits.drop 2).take 2)
    let blue ← Hex.value? (digits.drop 4)
    return .mixed red green blue
  else none

def ofNumber? (digits : List Char) : Option Shade :=
  if !digits.isEmpty && digits.length ≤ 3 && digits.all Char.isDigit then
    let n := Integer.valueFrom 0 digits
    if n < 256 then some (.indexed n) else none
  else none

-- Three amounts between commas. An amount that cannot be read is a fault, and not only no color.
def ofAmounts (cs : List Char) : Except Integer.Error (Option Shade) :=
  if cs.isEmpty || !cs.all fun c => c = ',' || Text.isDigit c then .ok none
  else match Text.splitAt ',' cs with
    | [red, green, blue] => do
      let red ← Integer.ofDigits red
      let green ← Integer.ofDigits green
      let blue ← Integer.ofDigits blue
      return if red < 256 ∧ green < 256 ∧ blue < 256 then some (.mixed red green blue) else none
    | _ => .ok none

def shadeOf (name : List Char) : Except Integer.Error (Option Shade) :=
  if name = "default".toList then .ok (some .default)
  else match number? (String.ofList name), name, between? "color(" name, between? "rgb(" name with
    | some n, _, _, _ => .ok (some (.indexed n))
    | none, '#' :: digits, _, _ => .ok (ofHex? digits)
    | none, _, some digits, _ => .ok (ofNumber? digits)
    | none, _, none, some amounts => ofAmounts amounts
    | none, _, none, none => .ok none

def ofWord (word : List Char) : Except Integer.Error (Option Color) :=
  let name := Lowercase.lower word
  (shadeOf name).map fun shade => shade.map (⟨String.ofList name, ·⟩)

end Color

inductive ColorDepth where
  | standard
  | indexed
  | mixed
  deriving Repr, DecidableEq

namespace Palette

abbrev Mixture := Nat × Nat × Nat

def standard : List Mixture :=
  [(0, 0, 0), (170, 0, 0), (0, 170, 0), (170, 85, 0), (0, 0, 170), (170, 0, 170), (0, 170, 170),
   (170, 170, 170), (85, 85, 85), (255, 85, 85), (85, 255, 85), (255, 255, 85), (85, 85, 255),
   (255, 85, 255), (85, 255, 255), (255, 255, 255)]

def cubeLevel (n : Nat) : Nat := if n = 0 then 0 else 55 + 40 * n

def mixture (number : Nat) : Mixture :=
  if number < 232 then
    let n := number - 16
    (cubeLevel (n / 36), cubeLevel (n / 6 % 6), cubeLevel (n % 6))
  else
    let level := 8 + 10 * (number - 232)
    (level, level, level)

def gap (a b : Nat) : Nat := max a b - min a b

def distance (a b : Mixture) : Nat :=
  let (red, green, blue) := (gap a.1 b.1, gap a.2.1 b.2.1, gap a.2.2 b.2.2)
  let mean := (a.1 + b.1) / 2
  (512 + mean) * red * red / 256 + 4 * green * green + (767 - mean) * blue * blue / 256

def nearest (m : Mixture) (entries : List Mixture) : Nat :=
  let distances := entries.map (distance m)
  let least := distances.foldl min (distances.headD 0)
  distances.findIdx (· = least)

def cubePlace (amount : Nat) : Nat :=
  if amount < 95 then roundDiv amount 95 else roundDiv (amount - 55) 40

-- A number without its fraction, to the nearest, to the even one of two that are as near.
def roundFloat (x : Float) : Nat :=
  let n := x.floor.toUInt64.toNat
  let rest := x - x.floor
  if rest < 0.5 then n else if 0.5 < rest then n + 1 else n + n % 2

def lightness (m : Mixture) : Float × Float :=
  let (red, green, blue) := (m.1.toFloat / 255.0, m.2.1.toFloat / 255.0, m.2.2.toFloat / 255.0)
  let high := max red (max green blue)
  let low := min red (min green blue)
  let both := high + low
  let l := both / 2.0
  if low == high then (l, 0.0)
  else (l, (high - low) / (if l <= 0.5 then both else 2.0 - both))

def indexOf (m : Mixture) : Nat :=
  let (l, saturation) := lightness m
  if saturation < 0.15 then
    match roundFloat (l * 25.0) with
    | 0 => 16
    | 25 => 231
    | gray => 231 + gray
  else 16 + 36 * cubePlace m.1 + 6 * cubePlace m.2.1 + cubePlace m.2.2

end Palette

namespace Shade

def reduce (depth : ColorDepth) : Shade → Shade
  | default => default
  | indexed n =>
    if depth = .standard ∧ 16 ≤ n then indexed (Palette.nearest (Palette.mixture n) Palette.standard)
    else indexed n
  | mixed red green blue =>
    match depth with
    | .standard => indexed (Palette.nearest (red, green, blue) Palette.standard)
    | .indexed => indexed (Palette.indexOf (red, green, blue))
    | .mixed => mixed red green blue

def codes (background : Bool) : Shade → List Nat
  | default => [if background then 49 else 39]
  | indexed n =>
    if n < 8 then [(if background then 40 else 30) + n]
    else if n < 16 then [(if background then 92 else 82) + n]
    else [if background then 48 else 38, 5, n]
  | mixed red green blue => [if background then 48 else 38, 2, red, green, blue]

end Shade

end PluginSearch
