import Clearance.Text.Printable

/-
  Quoted text: one line of printable characters between two
  quotes, from which the text can be read back.

  The single quote delimits, unless the text holds a single
  quote and no double quote. A backslash and the delimiter
  take a backslash in front; a line feed, a carriage return
  and a tab are a backslash and a letter; any other
  unprintable character is its code point in hexadecimal,
  two, four or eight digits wide.

  Key definitions include:
    * `Text.Quoted.delimiter`
    * `Text.Quoted.escape`
    * `Text.Quoted.encode`
    * `Text.Quoted.read`
    * `Text.Quoted.decode`
    * `Text.quote`
-/

------------------------------------------------------------
-- Hexadecimal Digits
------------------------------------------------------------

namespace Clearance

namespace Text

namespace Quoted

/- The digit of a number below sixteen, in lower case. -/
def hexDigit (n : Nat) : Char :=
  if n < 10 then
    Char.ofNat (0x30 + n)
  else
    Char.ofNat (0x57 + n)

/- The number that a lower-case digit stands for. -/
def hexValue (c : Char) : Nat :=
  if c.toNat < 0x57 then
    c.toNat - 0x30
  else
    c.toNat - 0x57

/- The last `width` digits of a number. -/
def hexDigits : Nat → Nat → List Char
  | 0, _ => []
  | width + 1, n =>
    hexDigits width (n / 16) ++ [hexDigit (n % 16)]

end Quoted

end Text

end Clearance

------------------------------------------------------------
-- Writing
------------------------------------------------------------

namespace Clearance

namespace Text

namespace Quoted

/- The quote that stands at both ends of a text. -/
def delimiter (text : List Char) : Char :=
  if text.contains '\x27' && !text.contains '\x22' then
    '\x22'
  else
    '\x27'

/- A character as it stands between two quotes. -/
def escape
    (quote : Char)
    (c : Char) : List Char :=
  if c = '\\' ∨ c = quote then
    ['\\', c]
  else if c = '\n' then
    ['\\', 'n']
  else if c = '\r' then
    ['\\', 'r']
  else if c = '\t' then
    ['\\', 't']
  else if isPrintable c then
    [c]
  else if c.toNat < 0x100 then
    '\\' :: 'x' :: hexDigits 2 c.toNat
  else if c.toNat < 0x10000 then
    '\\' :: 'u' :: hexDigits 4 c.toNat
  else
    '\\' :: 'U' :: hexDigits 8 c.toNat

/- A text between the quotes of its choice. -/
def encode (text : List Char) : List Char :=
  let quote := delimiter text
  quote :: (text.flatMap (escape quote) ++ [quote])

end Quoted

/- The quoted form of a text. -/
def quote (text : String) : String :=
  String.ofList (Quoted.encode text.toList)

end Text

end Clearance

------------------------------------------------------------
-- Reading
------------------------------------------------------------

namespace Clearance

namespace Text

namespace Quoted

/-
  Where a reader stands: between characters, behind a
  backslash, or within a code point of which `left` digits
  are to come.
-/
inductive Mode where
  | plain
  | escaped
  | digits (left value : Nat)

/- The character that a letter behind a backslash names. -/
def named (c : Char) : Char :=
  if c = 'n' then
    '\n'
  else if c = 'r' then
    '\r'
  else if c = 't' then
    '\t'
  else
    c

/- How many digits follow a letter behind a backslash. -/
def width (c : Char) : Nat :=
  if c = 'x' then
    2
  else if c = 'u' then
    4
  else if c = 'U' then
    8
  else
    0

/-
  Read up to the closing quote; the answer is the text and
  what stands behind the quote.
-/
def read (quote : Char) :
    Mode →
    List Char →
    Option (List Char × List Char)
  | _, [] =>
    none
  | .plain, c :: rest =>
    if c = quote then
      some ([], rest)
    else if c = '\\' then
      read quote .escaped rest
    else
      (read quote .plain rest).map fun (text, behind) =>
        (c :: text, behind)
  | .escaped, c :: rest =>
    if width c = 0 then
      (read quote .plain rest).map fun (text, behind) =>
        (named c :: text, behind)
    else
      read quote (.digits (width c) 0) rest
  | .digits left value, c :: rest =>
    let total := 16 * value + hexValue c
    if left ≤ 1 then
      (read quote .plain rest).map fun (text, behind) =>
        (Char.ofNat total :: text, behind)
    else
      read quote (.digits (left - 1) total) rest

/-
  Read a quoted text at the front; its first character is
  the delimiter.
-/
def decode : List Char → Option (List Char × List Char)
  | [] => none
  | quote :: rest => read quote .plain rest

end Quoted

end Text

end Clearance
