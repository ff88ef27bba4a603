/-
  Text in UTF-8.

  * `Utf8.front` looks at the front of some bytes: a character, or the longest
    start of one that cannot be completed;
  * `Utf8.decode?` refuses bytes that are no text, `Utf8.decodeLossy` writes a
    replacement character for each start that cannot be completed;
  * `Text.unixLines` makes every line end in a line feed.
-/
import FlowLens.Text.Basic

namespace FlowLens

namespace Utf8

/-- What the first byte of a longer character says. -/
structure Lead where
  /-- The bits of the character that it holds. -/
  bits : Nat
  /-- The number of bytes to follow. -/
  more : Nat
  /-- The least byte that may come next. -/
  low : Nat
  /-- The greatest byte that may come next. -/
  high : Nat

/-- The bytes that may start a longer character. -/
def lead? (b : Nat) : Option Lead :=
  if 0xC2 ≤ b ∧ b ≤ 0xDF then some ⟨b - 0xC0, 1, 0x80, 0xBF⟩
  else if b = 0xE0 then some ⟨0, 2, 0xA0, 0xBF⟩
  else if b = 0xED then some ⟨0xD, 2, 0x80, 0x9F⟩
  else if 0xE1 ≤ b ∧ b ≤ 0xEF then some ⟨b - 0xE0, 2, 0x80, 0xBF⟩
  else if b = 0xF0 then some ⟨0, 3, 0x90, 0xBF⟩
  else if 0xF1 ≤ b ∧ b ≤ 0xF3 then some ⟨b - 0xF0, 3, 0x80, 0xBF⟩
  else if b = 0xF4 then some ⟨4, 3, 0x80, 0x8F⟩
  else none

/-- The number that the bits so far and the next `more` bytes make, as far as
    these bytes may follow, and the rest. -/
def tail : Nat → Nat → Nat → Nat → List UInt8 → Option Nat × List UInt8
  | 0, _, _, bits, bytes => (some bits, bytes)
  | _ + 1, _, _, _, [] => (none, [])
  | more + 1, low, high, bits, b :: bytes =>
    if low ≤ b.toNat ∧ b.toNat ≤ high then tail more 0x80 0xBF (bits * 64 + (b.toNat - 0x80)) bytes
    else (none, b :: bytes)

/-- The front of a text that starts with the byte `b`: a character, or none, and
    the rest. -/
def front (b : UInt8) (bytes : List UInt8) : Option Char × List UInt8 :=
  if b.toNat < 0x80 then (some (Char.ofNat b.toNat), bytes)
  else
    match lead? b.toNat with
    | none => (none, bytes)
    | some l =>
      let (n, rest) := tail l.more l.low l.high l.bits bytes
      (n.map Char.ofNat, rest)

/-- The characters at the front of some bytes, `none` for each start that cannot
    be completed. -/
def scan : Nat → List UInt8 → List (Option Char)
  | 0, _ => []
  | _ + 1, [] => []
  | fuel + 1, b :: bytes =>
    let (c, rest) := front b bytes
    c :: scan fuel rest

/-- The text of some bytes, if they are one. -/
def decode? (bytes : List UInt8) : Option Text :=
  (scan bytes.length bytes).mapM fun c => c.map .char

/-- The text of some bytes, with a replacement character for each start that
    cannot be completed. -/
def decodeLossy (bytes : List UInt8) : Text :=
  (scan bytes.length bytes).map fun c => .char (c.getD '�')

/-- The bytes of a text; a surrogate that stands alone has none. -/
def encode (t : Text) : List UInt8 :=
  t.flatMap fun
    | .char c => String.utf8EncodeChar c
    | .lone _ => []

end Utf8

/-- The text with a line feed for every carriage return, and for one together
    with the line feed behind it. -/
def Text.unixLines : Text → Text
  | [] => []
  | .char '\r' :: .char '\n' :: rest => .char '\n' :: unixLines rest
  | .char '\r' :: rest => .char '\n' :: unixLines rest
  | c :: rest => c :: unixLines rest

end FlowLens
