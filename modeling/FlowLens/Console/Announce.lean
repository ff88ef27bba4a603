/-
  Announcements on the error stream, with a symbol and a colour if wanted.

  * `announce` is what an announcement writes.
-/
import FlowLens.Console.StyledText
import FlowLens.Console.Terminal

namespace FlowLens

/-- What the error stream is connected to. -/
inductive Stream where
  /-- A terminal. -/
  | terminal
  /-- Something else. -/
  | pipe
  /-- Nothing. -/
  | absent
  /-- Something that cannot be asked. -/
  | broken
  deriving DecidableEq, Repr

/-- Whether a stream is known to be a terminal. -/
def Stream.isTerminal : Stream → Bool
  | terminal => true
  | _ => false

/-- The tone of an announcement. -/
inductive Tone where
  | info
  | ok
  | warn
  | fail
  deriving DecidableEq, Repr

/-- The symbol in front of an announcement. -/
def Tone.symbol : Tone → Text
  | info => "ℹ️ "
  | ok => "✅ "
  | warn => "⚠️ "
  | fail => "❌ "

/-- The colour of a tone. -/
def Tone.color : Tone → Text
  | info => "cyan"
  | ok => "green"
  | warn => "yellow"
  | fail => "red"

/-- A symbol, if symbols are wanted. -/
def emoji (symbol : Text) (enable : Bool) : Text :=
  if enable then symbol else []

/-- Why an announcement cannot be made. -/
inductive AnnounceFault where
  /-- The size of the console is no number. -/
  | console (fault : IntegerFault)
  /-- The console is too wide. -/
  | room (fault : RoomFault)
  /-- A style is none. -/
  | style (fault : ColorFault)
  deriving DecidableEq, Repr

/-- What an announcement writes to a stream.  Colours are used if they are wanted
    and the stream is a terminal that shows them; they are wanted on a terminal
    unless said.  Lines are as long as they are, but a console without cells shows
    nothing. -/
def announce (env : Environment) (stream : Stream) (tone : Tone) (useEmoji : Bool)
    (useColor : Option Bool) (msg : Text) : Except AnnounceFault Text := do
  let colored := useColor.getD true && stream.isTerminal
  let console ← (env.console stream.isTerminal).mapError .console
  let text := StyledText.ofText [] (emoji tone.symbol useEmoji ++ msg)
  let text := if colored then text.stretched tone.color else text
  let depth := if colored then console.depth else none
  let lines ← text.lines.mapM fun line => do
    let segments ← (PlacedText.mk 0 line 0).segments.mapError .style
    return Printout.text (segments.flatMap (Segment.written depth))
  if console.width = 0 then return [] else return Text.joinWith "\n" lines ++ "\n"

end FlowLens
