import Readiness.Double.Text
import Readiness.Json.Basic
import Readiness.Text.Decimal
import Readiness.Text.Hex

/-!
This module contains the printing of JSON in the two styles of the service: compact with all characters as they
are, for response bodies, and spaced and pure ASCII, for log lines.
-/

namespace Readiness
namespace Json

structure Style where
  itemSeparator : List Char
  keySeparator : List Char
  /-- Whether everything outside printable ASCII is escaped. -/
  ascii : Bool

/-- Response bodies. -/
def compact : Style :=
  ⟨[','], [':'], false⟩

/-- Log lines. -/
def spaced : Style :=
  ⟨[',', ' '], [':', ' '], true⟩

def unitEscape (n : Nat) : List Char :=
  '\\' :: 'u' :: Text.hex 4 n

/-- The escape of a character by its 16-bit units. -/
def unicodeEscape (n : Nat) : List Char :=
  if n < 0x10000 then
    unitEscape n
  else
    unitEscape (0xD800 + (n - 0x10000) / 0x400) ++ unitEscape (0xDC00 + (n - 0x10000) % 0x400)

def letterEscape? (c : Char) : Option Char :=
  if c = '"' then some '"'
  else if c = '\\' then some '\\'
  else if c = '\n' then some 'n'
  else if c = '\r' then some 'r'
  else if c = '\t' then some 't'
  else if c = Char.ofNat 8 then some 'b'
  else if c = Char.ofNat 12 then some 'f'
  else none

def renderChar (ascii : Bool) (c : Char) : List Char :=
  match letterEscape? c with
  | some l => ['\\', l]
  | none =>
    if c.toNat < 0x20 || (ascii && 0x7E < c.toNat) then unicodeEscape c.toNat else [c]

def renderString (ascii : Bool) (s : String) : List Char :=
  '"' :: s.toList.flatMap (renderChar ascii) ++ ['"']

def renderReal : Double → List Char
  | .nan => "NaN".toList
  | .inf s => (if s then "-Infinity" else "Infinity").toList
  | x => x.toText.toList

mutual

def render (style : Style) : Json → List Char
  | null => "null".toList
  | bool b => (if b then "true" else "false").toList
  | int n => Text.decimal n
  | real x => renderReal x
  | str s => renderString style.ascii s
  | arr items => '[' :: renderItems style items ++ [']']
  | obj fields => '{' :: renderFields style fields ++ ['}']

def renderItems (style : Style) : List Json → List Char
  | [] => []
  | [j] => render style j
  | j :: js => render style j ++ style.itemSeparator ++ renderItems style js

def renderFields (style : Style) : List (String × Json) → List Char
  | [] => []
  | [(k, j)] => renderString style.ascii k ++ style.keySeparator ++ render style j
  | (k, j) :: fs =>
    renderString style.ascii k ++ style.keySeparator ++ render style j ++ style.itemSeparator
      ++ renderFields style fs

end

def toText (style : Style) (j : Json) : String :=
  String.ofList (j.render style)

end Json
end Readiness
