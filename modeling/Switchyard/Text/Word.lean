import Switchyard.Text.Trait

/-!
# Words, digits and blanks

The three classes of characters that patterns name by a letter: what a word is made of, decimal
digits, and white space. They follow edition 16 of the character database. Names of groups follow
edition 17: they start with a letter of an alphabet and go on with letters and numbers.
-/

namespace Switchyard.Text

/-- Word characters: alphabetic ones, marks, decimal digits, connectors and joiners. -/
def wordSet : CodeSet :=
  .unions [alphabetic .sixteen, categoryGroup .sixteen 'M', categories .sixteen ["Nd", "Pc"],
    listedTrait "joincontrol"]

/-- Decimal digits. -/
def digitSet : CodeSet := category .sixteen "Nd"

/-- White space. -/
def spaceSet : CodeSet := listedTrait "whitespace"

/-- Whether a character is a decimal digit of any script. -/
def isDigit (c : Char) : Bool :=
  if c.toNat < 0x80 then c.isDigit else digitSet.contains c.toNat

/-- Whether a character is white space. -/
def isSpace (c : Char) : Bool :=
  if c.toNat < 0x80 then c = ' ' || (9 ≤ c.toNat && c.toNat ≤ 13) else spaceSet.contains c.toNat

/-- Whether a character can stand in a word. -/
def isWord (c : Char) : Bool :=
  if c.toNat < 0x80 then c.isAlphanum || c = '_' else wordSet.contains c.toNat

/-- Whether a character belongs to an alphabet. -/
def isAlphabetic (c : Char) : Bool :=
  if c.toNat < 0x80 then c.isAlpha else (alphabetic .seventeen).contains c.toNat

/-- Whether a character is a number of any kind. -/
def isNumeric (c : Char) : Bool :=
  if c.toNat < 0x80 then c.isDigit else (categoryGroup .seventeen 'N').contains c.toNat

end Switchyard.Text
