import Switchyard.Text.Segment

/-!
# Properties by name

A property of characters is named by one word, `\p{Lu}`, or by a kind and a value, `\p{sc=Greek}`.
Names are read loosely: capitals, blanks, lines and a leading `is` do not count.

* One word names a trait, a general category or a group of them, or a script, in this order.
* The kinds are the general category (`gc`), the script (`sc`), the use in a script (`scx`), the
  edition by which a character was assigned (`age`) and the classes for cutting texts (`gcb`, `wb`,
  `sb`).
-/

namespace Switchyard.Text

/-! ### Names -/

/-- A name without what does not count in it. -/
def looseName (name : List Char) : String :=
  let bare := match name with
    | i :: s :: rest => if (i = 'i' ∨ i = 'I') ∧ (s = 's' ∨ s = 'S') then rest else name
    | _ => name
  let kept := bare.filter fun c => c.toNat < 0x80 && !([' ', '_', '-'].contains c)
  let kept := kept.map Char.toLower
  if kept == ['c'] && bare.length < name.length then "isc" else String.ofList kept

/-- Names of general categories, with the letters that they stand for. -/
def categoryNames : List (String × String) :=
  [("other", "C"), ("control", "Cc"), ("cntrl", "Cc"), ("format", "Cf"), ("unassigned", "Cn"),
   ("privateuse", "Co"), ("letter", "L"), ("casedletter", "LC"), ("lowercaseletter", "Ll"),
   ("modifierletter", "Lm"), ("otherletter", "Lo"), ("titlecaseletter", "Lt"),
   ("uppercaseletter", "Lu"), ("mark", "M"), ("combiningmark", "M"), ("spacingmark", "Mc"),
   ("enclosingmark", "Me"), ("nonspacingmark", "Mn"), ("number", "N"), ("decimalnumber", "Nd"),
   ("digit", "Nd"), ("letternumber", "Nl"), ("othernumber", "No"), ("punctuation", "P"),
   ("punct", "P"), ("connectorpunctuation", "Pc"), ("dashpunctuation", "Pd"),
   ("closepunctuation", "Pe"), ("finalpunctuation", "Pf"), ("initialpunctuation", "Pi"),
   ("otherpunctuation", "Po"), ("openpunctuation", "Ps"), ("symbol", "S"),
   ("currencysymbol", "Sc"), ("modifiersymbol", "Sk"), ("mathsymbol", "Sm"),
   ("othersymbol", "So"), ("separator", "Z"), ("lineseparator", "Zl"),
   ("paragraphseparator", "Zp"), ("spaceseparator", "Zs")]

/-- The code points of a category, or of a group of categories, by its loose name. Surrogates are no
characters, so they have no category by name. -/
def categoryNamed? (e : Edition) (name : String) : Option CodeSet :=
  if name = "any" then some .all
  else if name = "assigned" then some (category e "Cn").complement
  else if name = "ascii" then some (.range 0 0x7f)
  else
    let code := match categoryNames.find? (·.1 = name) with
      | some (_, code) => code
      | none => name
    match code.toList.map Char.toLower with
    | ['l', 'c'] => some (categories e ["Lu", "Ll", "Lt"])
    | [letter] =>
      if "clmnpsz".toList.contains letter then some (categoryGroup e letter.toUpper) else none
    | ['c', 's'] => none
    | [letter, second] =>
      let code := String.ofList [letter.toUpper, second]
      if ("Cn" :: categoryCodes).contains code then some (category e code) else none
    | _ => none

/-! ### Kinds of properties -/

/-- The code points that some edition, or one before it, was the first to assign. -/
def assignedBy? (name : String) : Option CodeSet :=
  let editions := ages.map (·.1)
  let early := editions.takeWhile fun v => !isNamed v
  match editions.find? isNamed with
  | some v => if v = "17.0" then none else some (.unions ((early ++ [v]).map assignedIn))
  | none => none
where
  /-- Whether the name stands for an edition: `v3_0` and `3.0` are the same. -/
  isNamed (v : String) : Bool :=
    name = v || name = String.ofList ('v' :: v.toList.filter (· ≠ '.'))

/-- The code points with a value of a property, both by their loose names. -/
def propertyValue? (e : Edition) (kind value : String) : Option CodeSet :=
  if kind = "gc" ∨ kind = "generalcategory" then categoryNamed? e value
  else if kind = "sc" ∨ kind = "script" then script? value
  else if kind = "scx" ∨ kind = "scriptextensions" then usedByScript? value
  else if kind = "age" then assignedBy? value
  else if kind = "gcb" ∨ kind = "graphemeclusterbreak" then clusterClass? e value
  else if kind = "wb" ∨ kind = "wordbreak" then wordClass? e value
  else if kind = "sb" ∨ kind = "sentencebreak" then sentenceClass? e value
  else none

/-- The code points that one word names, in its loose form. -/
def propertyNamed? (e : Edition) (name : String) : Option CodeSet :=
  ((trait? e name).or (categoryNamed? e name)).or (script? name)

end Switchyard.Text
