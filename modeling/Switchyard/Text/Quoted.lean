import Switchyard.Text.Trait

/-!
# Quoted text in messages

A text between quotation marks, the way diagnostics show one: quotation marks and backslashes are
escaped, common controls have a letter, and every other character that is not shown as itself stands
as its code point in braces. These are characters without a visible form of their own and those that
would join the character before them. The character database is that of edition 17.
-/

namespace Switchyard.Text

/-! ### Visible characters -/

/-- Characters that are not shown as themselves: controls, formats, separators, private use,
unassigned and ignorable ones, and those that extend another one. -/
def hiddenSet : CodeSet :=
  .unions [categories .seventeen ["Cc", "Cf", "Cn", "Co", "Cs", "Zl", "Zp", "Zs"], ignorable,
    extending .seventeen]

/-- Whether a character is shown as itself. -/
def isVisible (c : Char) : Bool :=
  if c.toNat < 0x80 then 0x20 ≤ c.toNat && c.toNat < 0x7f else !hiddenSet.contains c.toNat

/-! ### Quotation marks -/

/-- How a character stands inside quotation marks. -/
def quoteChar (c : Char) : List Char :=
  if c = '"' then ['\\', '"']
  else if c = '\\' then ['\\', '\\']
  else if c = '\n' then ['\\', 'n']
  else if c = '\r' then ['\\', 'r']
  else if c = '\t' then ['\\', 't']
  else if c = '\x00' then ['\\', '0']
  else if isVisible c then [c]
  else ['\\', 'u', '\x7b'] ++ Nat.toDigits 16 c.toNat ++ ['\x7d']

/-- A text in quotation marks. -/
def quote (s : String) : String :=
  String.ofList ('"' :: s.toList.flatMap quoteChar ++ ['"'])

/-- Texts in quotation marks, as a list in brackets. -/
def quoteList (texts : List String) : String :=
  "[" ++ ", ".intercalate (texts.map quote) ++ "]"

end Switchyard.Text
