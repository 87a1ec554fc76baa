import Switchyard.Text.Word

/-!
# The list of allowed modules

The setting is a text with commas between the names. Blanks around a name do not count, and neither
do empty names.
-/

namespace Switchyard.Settings

/-- A text without the blanks at its ends. -/
def trim (s : List Char) : List Char :=
  ((s.dropWhile Text.isSpace).reverse.dropWhile Text.isSpace).reverse

/-- The parts of a text between commas. -/
def items : List Char → List (List Char)
  | [] => [[]]
  | c :: rest =>
    if c = ',' then [] :: items rest
    else
      match items rest with
      | [] => [[c]]
      | part :: more => (c :: part) :: more

/-- The names that a list of modules holds; without a list there is none. -/
def allowList (modules : Option String) : List String :=
  ((items (modules.getD "").toList).map trim).filterMap fun name =>
    if name.isEmpty then none else some (String.ofList name)

end Switchyard.Settings
