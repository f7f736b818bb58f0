import LintBridge.Text.Blank
import LintBridge.Text.Pieces
import LintBridge.Text.DecimalDigit
/-!
Styles by name: attributes, a colour, a background and a link. Two spellings of one style
have the same normal form; a text that is no style is its own normal form, in lower case.
A colour with three numbers of which one is left out cannot be read at all.
-/
namespace LintBridge.Console

/-- The attributes in the order in which a normal form lists them. -/
def attributeNames : List String :=
  ["bold", "dim", "italic", "underline", "blink", "blink2", "reverse", "conceal", "strike",
    "underline2", "frame", "encircle", "overline"]

/-- Short names of attributes. -/
def attributeAliases : List (String × String) :=
  [("d", "dim"), ("b", "bold"), ("i", "italic"), ("u", "underline"), ("r", "reverse"),
    ("c", "conceal"), ("s", "strike"), ("uu", "underline2"), ("o", "overline")]

def attribute? (word : String) : Option String :=
  if attributeNames.contains word then some word else attributeAliases.lookup word

/-- The words between blanks. -/
def blankWords (s : List Char) : List (List Char) :=
  (Text.split ' ' (s.map fun c => if Text.isBlank c then ' ' else c)).filter fun w => !w.isEmpty

/-- The names of colours. -/
def colourNames : List String :=
  ["default", "black", "red", "green", "yellow", "blue", "magenta", "cyan", "white", "bright_black",
    "bright_red", "bright_green", "bright_yellow", "bright_blue", "bright_magenta", "bright_cyan",
    "bright_white", "grey0", "gray0", "navy_blue", "dark_blue", "blue3", "blue1", "dark_green",
    "deep_sky_blue4", "dodger_blue3", "dodger_blue2", "green4", "spring_green4", "turquoise4",
    "deep_sky_blue3", "dodger_blue1", "green3", "spring_green3", "dark_cyan", "light_sea_green",
    "deep_sky_blue2", "deep_sky_blue1", "spring_green2", "cyan3", "dark_turquoise", "turquoise2",
    "green1", "spring_green1", "medium_spring_green", "cyan2", "cyan1", "dark_red", "deep_pink4",
    "purple4", "purple3", "blue_violet", "orange4", "grey37", "gray37", "medium_purple4",
    "slate_blue3", "royal_blue1", "chartreuse4", "dark_sea_green4", "pale_turquoise4", "steel_blue",
    "steel_blue3", "cornflower_blue", "chartreuse3", "cadet_blue", "sky_blue3", "steel_blue1",
    "pale_green3", "sea_green3", "aquamarine3", "medium_turquoise", "chartreuse2", "sea_green2",
    "sea_green1", "aquamarine1", "dark_slate_gray2", "dark_magenta", "dark_violet", "purple",
    "light_pink4", "plum4", "medium_purple3", "slate_blue1", "yellow4", "wheat4", "grey53",
    "gray53", "light_slate_grey", "light_slate_gray", "medium_purple", "light_slate_blue",
    "dark_olive_green3", "dark_sea_green", "light_sky_blue3", "sky_blue2", "dark_sea_green3",
    "dark_slate_gray3", "sky_blue1", "chartreuse1", "light_green", "pale_green1",
    "dark_slate_gray1", "red3", "medium_violet_red", "magenta3", "dark_orange3", "indian_red",
    "hot_pink3", "medium_orchid3", "medium_orchid", "medium_purple2", "dark_goldenrod",
    "light_salmon3", "rosy_brown", "grey63", "gray63", "medium_purple1", "gold3", "dark_khaki",
    "navajo_white3", "grey69", "gray69", "light_steel_blue3", "light_steel_blue", "yellow3",
    "dark_sea_green2", "light_cyan3", "light_sky_blue1", "green_yellow", "dark_olive_green2",
    "dark_sea_green1", "pale_turquoise1", "deep_pink3", "magenta2", "hot_pink2", "orchid",
    "medium_orchid1", "orange3", "light_pink3", "pink3", "plum3", "violet", "light_goldenrod3",
    "tan", "misty_rose3", "thistle3", "plum2", "khaki3", "light_goldenrod2", "light_yellow3",
    "grey84", "gray84", "light_steel_blue1", "yellow2", "dark_olive_green1", "honeydew2",
    "light_cyan1", "red1", "deep_pink2", "deep_pink1", "magenta1", "orange_red1", "indian_red1",
    "hot_pink", "dark_orange", "salmon1", "light_coral", "pale_violet_red1", "orchid2", "orchid1",
    "orange1", "sandy_brown", "light_salmon1", "light_pink1", "pink1", "plum1", "gold1",
    "navajo_white1", "misty_rose1", "thistle1", "yellow1", "light_goldenrod1", "khaki1", "wheat1",
    "cornsilk1", "grey100", "gray100", "grey3", "gray3", "grey7", "gray7", "grey11", "gray11",
    "grey15", "gray15", "grey19", "gray19", "grey23", "gray23", "grey27", "gray27", "grey30",
    "gray30", "grey35", "gray35", "grey39", "gray39", "grey42", "gray42", "grey46", "gray46",
    "grey50", "gray50", "grey54", "gray54", "grey58", "gray58", "grey62", "gray62", "grey66",
    "gray66", "grey70", "gray70", "grey74", "gray74", "grey78", "gray78", "grey82", "gray82",
    "grey85", "gray85", "grey89", "gray89", "grey93", "gray93"]

/-- At most three decimal digits for a number of at most 255. -/
def isOctet (digits : List Char) : Bool :=
  !digits.isEmpty && digits.all Char.isDigit &&
    digits.foldl (fun n c => 10 * n + (c.toNat - 48)) 0 ≤ 255

/-- What stands between a name with an opening bracket and a closing bracket. -/
def argument? (name : String) (s : List Char) : Option (List Char) :=
  match Text.dropLead? (name ++ "(").toList s, s.getLast? with
  | some rest, some ')' => some rest.dropLast
  | _, _ => none

/-- Why words are no style: they do not name one, or a number in them cannot be read. -/
inductive StyleFault where
  | unknown | number
  deriving DecidableEq, Repr

/-- Read three numbers with commas between them. -/
def readNumbers (s : List Char) : Except StyleFault Unit :=
  let s := s.map Text.asciiDigit
  let parts := Text.split ',' s
  if !s.all (fun c => c.isDigit || c = ',') || parts.length ≠ 3 then .error .unknown
  else if parts.any fun part => part.isEmpty || digitLimit < part.length then .error .number
  else if parts.all isOctet then .ok () else .error .unknown

/-- Read a word in lower case as a colour: a name, six hexadecimal digits, one number, or three. -/
def readColour (word : String) : Except StyleFault Unit :=
  let s := word.toList
  if colourNames.contains word
      || (s.head? = some '#' && s.length = 7 && s.tail.all fun c => (Text.hexValue? c).isSome)
      || ((argument? "color" s).any fun n => n.length ≤ 3 && isOctet n) then .ok ()
  else match argument? "rgb" s with
    | some numbers => readNumbers numbers
    | none => .error .unknown

/-- A style. Attributes are switched on or off. -/
structure Style where
  attributes : List (String × Bool)
  colour : Option String
  background : Option String
  link : Option String
  deriving DecidableEq, Repr

def Style.plain : Style := ⟨[], none, none, none⟩

/-- Read the words of a style into what was read before. Words count in any case, but for a
link and for the attribute that is switched off. -/
def Style.ofWords (s : Style) : List String → Except StyleFault Style
  | [] => .ok s
  | word :: rest =>
    let word := word.toLower
    if word = "on" then
      match rest with
      | [] => .error .unknown
      | colour :: rest =>
        match readColour colour.toLower with
        | .error f => .error f
        | .ok () => ofWords { s with background := some colour.toLower } rest
    else if word = "not" then
      match rest with
      | [] => .error .unknown
      | name :: rest =>
        match attribute? name with
        | some name => ofWords { s with attributes := (name, false) :: s.attributes } rest
        | none => .error .unknown
    else if word = "link" then
      match rest with
      | [] => .error .unknown
      | url :: rest => ofWords { s with link := some url } rest
    else match attribute? word with
      | some name => ofWords { s with attributes := (name, true) :: s.attributes } rest
      | none =>
        match readColour word with
        | .error f => .error f
        | .ok () => ofWords { s with colour := some word } rest

/-- Read a style. -/
def Style.read (s : String) : Except StyleFault Style :=
  Style.plain.ofWords ((blankWords s.toList).map String.ofList)

/-- A style in its normal form. -/
def Style.text (s : Style) : String :=
  let attributes := attributeNames.filterMap fun name =>
    (s.attributes.lookup name).map fun on => if on then name else "not " ++ name
  let words := attributes ++ s.colour.toList ++ (s.background.elim [] fun c => ["on", c]) ++
    (s.link.elim [] fun url => ["link", url])
  if words.isEmpty then "none" else String.intercalate " " words

/-- The normal form of a style, or the text itself in lower case. There is none with a number
that cannot be read. -/
def normalStyle? (s : String) : Option String :=
  let trimmed := Text.stripped s
  if trimmed = "none" || trimmed.isEmpty then some "none"
  else match Style.read s with
    | .ok style => some style.text
    | .error .unknown => some trimmed.toLower
    | .error .number => none

end LintBridge.Console
