import PageBuffer.Text.Extending
import PageBuffer.Text.Ignorable
import PageBuffer.Text.Unprintable

/-!
Texts in double quotes, so that they can be shown inside a message.

A quote, a backslash and four controls have a short escape.  A character that does not print, that
may be shown as nothing, or that would attach to the one before it, is written by its code point in
hexadecimal.  All else stands for itself.
-/

namespace PageBuffer.Text.Quoted

/-- The letter of a short escape. -/
def escapeLetter? : Char → Option Char
  | '\x00' => some '0'
  | '\t' => some 't'
  | '\n' => some 'n'
  | '\r' => some 'r'
  | '"' => some '"'
  | '\\' => some '\\'
  | _ => none

def isPlain (character : Char) : Bool :=
  !isExtending character && !isIgnorable character && !isUnprintable character

def encodeCharacter (character : Char) : List Char :=
  match escapeLetter? character with
  | some letter => ['\\', letter]
  | none =>
      if isPlain character then
        [character]
      else
        ['\\', 'u', '\x7b'] ++ Nat.toDigits 16 character.toNat ++ ['\x7d']

/-- The text in quotes. -/
def encode (text : List Char) : List Char :=
  '"' :: text.flatMap encodeCharacter ++ ['"']

def quote (text : String) : String :=
  String.ofList (encode text.toList)

end PageBuffer.Text.Quoted
