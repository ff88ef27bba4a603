/-
  Styles in words: attributes, a colour, a colour behind the text, and a link.
  Words that name the same style in different ways have the same normal form.

  * `Style.read` reads the words of a style;
  * `Style.normalForm` is the text by which names of styles are compared;
  * `Style.on` lays a style over another one;
  * `Style.around` are the codes for a terminal around a text in a style.
-/
import FlowLens.Console.Color

namespace FlowLens

/-! ## Attributes -/

/-- An attribute of a style, which is on, off, or left as it is. -/
inductive Attribute where
  | bold
  | dim
  | italic
  | underline
  | blink
  | blink2
  | reverse
  | conceal
  | strike
  | underline2
  | frame
  | encircle
  | overline
  deriving DecidableEq, Repr

namespace Attribute

/-- The attributes, in the order in which they are written. -/
def all : List Attribute :=
  [bold, dim, italic, underline, blink, blink2, reverse, conceal, strike, underline2, frame,
    encircle, overline]

/-- The name of an attribute. -/
def name : Attribute → Text
  | bold => "bold"
  | dim => "dim"
  | italic => "italic"
  | underline => "underline"
  | blink => "blink"
  | blink2 => "blink2"
  | reverse => "reverse"
  | conceal => "conceal"
  | strike => "strike"
  | underline2 => "underline2"
  | frame => "frame"
  | encircle => "encircle"
  | overline => "overline"

/-- The short name of an attribute, if it has one. -/
def shortName? : Attribute → Option Text
  | bold => some "b"
  | dim => some "d"
  | italic => some "i"
  | underline => some "u"
  | reverse => some "r"
  | conceal => some "c"
  | strike => some "s"
  | underline2 => some "uu"
  | overline => some "o"
  | _ => none

/-- The code that switches an attribute on. -/
def code : Attribute → Text
  | bold => "1"
  | dim => "2"
  | italic => "3"
  | underline => "4"
  | blink => "5"
  | blink2 => "6"
  | reverse => "7"
  | conceal => "8"
  | strike => "9"
  | underline2 => "21"
  | frame => "51"
  | encircle => "52"
  | overline => "53"

/-- The attribute that a word names. -/
def ofWord? (word : Text) : Option Attribute :=
  all.find? fun a => a.name = word || a.shortName? = some word

end Attribute

/-! ## Styles -/

/-- A colour and the word for it. -/
structure Paint where
  /-- The word. -/
  name : Text
  /-- The colour. -/
  color : Color
  deriving DecidableEq, Repr

/-- A style. -/
structure Style where
  /-- The attributes that are switched on or off. -/
  attributes : List (Attribute × Bool)
  /-- The colour. -/
  paint : Option Paint
  /-- The colour behind the text. -/
  ground : Option Paint
  /-- The link. -/
  link : Option Text
  deriving DecidableEq, Repr

namespace Style

/-- A style that changes nothing. -/
def plain : Style :=
  ⟨[], none, none, none⟩

/-- The attributes with one switched. -/
def switch (a : Attribute) (b : Bool) (attributes : List (Attribute × Bool)) :
    List (Attribute × Bool) :=
  (a, b) :: attributes.filter (·.1 ≠ a)

/-- A style over another one. -/
def on (top under : Style) : Style :=
  { attributes := top.attributes.foldr (fun (a, b) => switch a b) under.attributes
    paint := top.paint <|> under.paint
    ground := top.ground <|> under.ground
    link := top.link <|> under.link }

/-! ## Words -/

/-- The colour that a word names, in lower case. -/
def readPaint (word : Text) : Except ColorFault Paint := do
  let name := word.lower
  return ⟨name, ← Color.read name⟩

/-- A style with the words that follow. -/
def readWords (style : Style) : List Text → Except ColorFault Style
  | [] => .ok style
  | w :: rest =>
    let word := w.lower
    if word = "on" then
      match rest with
      | [] => .error .unclear
      | ground :: rest => do readWords { style with ground := some (← readPaint ground) } rest
    else if word = "not" then
      match rest with
      | [] => .error .unclear
      | name :: rest =>
        match Attribute.ofWord? name with
        | none => .error .unclear
        | some a => readWords { style with attributes := switch a false style.attributes } rest
    else if word = "link" then
      match rest with
      | [] => .error .unclear
      | target :: rest => readWords { style with link := some target } rest
    else
      match Attribute.ofWord? word with
      | some a => readWords { style with attributes := switch a true style.attributes } rest
      | none => do readWords { style with paint := some (← readPaint word) } rest

/-- The style that a text names. -/
def read (t : Text) : Except ColorFault Style :=
  if t.strip = "none" then .ok plain
  else readWords plain ((Text.splitBy CodePoint.isBlank t).filter (!·.isEmpty))

/-- A style in words: its attributes in order, its colours and its link. -/
def text (style : Style) : Text :=
  let attributes := Attribute.all.flatMap fun a =>
    match style.attributes.lookup a with
    | some true => [a.name]
    | some false => ["not", a.name]
    | none => []
  let paint := style.paint.toList.map Paint.name
  let ground := (style.ground.map fun g => (["on", g.name] : List Text)).getD []
  let link := (style.link.map fun l => (["link", l] : List Text)).getD []
  match attributes ++ paint ++ ground ++ link with
  | [] => "none"
  | words => Text.joinWith " " words

/-- The text by which names of styles are compared: the style in words, or a name
    that is no style in lower case. -/
def normalForm (name : Text) : Except ColorFault Text :=
  match read name with
  | .ok style => .ok style.text
  | .error .unclear => .ok name.strip.lower
  | .error .noNumber => .error .noNumber

/-! ## Codes -/

/-- A style without its colours. -/
def withoutColor (style : Style) : Style :=
  { style with paint := none, ground := none }

/-- The codes that switch to a style. -/
def codes (depth : ColorDepth) (style : Style) : List Text :=
  let attributes := Attribute.all.filter fun a => style.attributes.lookup a = some true
  let color (ground : Bool) (p : Option Paint) : List Text :=
    (p.map fun p => (p.color.within depth).codes ground).getD []
  attributes.map Attribute.code ++ color false style.paint ++ color true style.ground

/-- What stands before and behind a text in a style. -/
def around (depth : ColorDepth) (style : Style) : Text × Text :=
  let codes := style.codes depth
  let (front, back) : Text × Text :=
    if codes.isEmpty then ([], []) else ("\x1b[" ++ Text.joinWith ";" codes ++ "m", "\x1b[0m")
  match style.link with
  | some target => ("\x1b]8;;" ++ target ++ "\x1b\\" ++ front, back ++ "\x1b]8;;\x1b\\")
  | none => (front, back)

end Style

end FlowLens
