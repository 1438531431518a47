import RasterScript.Text.Unprintable

/-!
# Quoted — showing a name that holds characters nobody can see

A message that refuses a name because of a blank inside it shows the name with every invisible
character spelled out: the usual backslash escapes for TAB, LF, CR, NUL, quotes and the backslash,
and the code point in lower-case hexadecimal for everything else without a visible form.  A mark
that is unreadable without a character before it is spelled out only where there is none.
-/

namespace RasterScript

/-- A character by its code point: `\u`, then the number in hexadecimal between braces. -/
def codePointEscape (c : Char) : List Char :=
  '\\' :: 'u' :: '\x7b' :: (Nat.toDigits 16 c.toNat ++ ['\x7d'])

/-- `c` as it appears in a message; `atStart` tells whether no character stands before it. -/
def quoteChar (atStart : Bool) (c : Char) : List Char :=
  if c = '\x00' then ['\\', '0']
  else if c = '\t' then ['\\', 't']
  else if c = '\r' then ['\\', 'r']
  else if c = '\n' then ['\\', 'n']
  else if c = '\\' ∨ c = '"' ∨ c = '\'' then ['\\', c]
  else if atStart && needsBase c then codePointEscape c
  else if isUnprintable c then codePointEscape c
  else [c]

/-- `s` with its invisible characters spelled out. -/
def quoteChars : List Char → List Char
  | [] => []
  | c :: cs => quoteChar true c ++ cs.flatMap (quoteChar false)

def quoted (s : String) : String :=
  String.ofList (quoteChars s.toList)

end RasterScript
