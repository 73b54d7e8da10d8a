import Reckon.Decimal.Layout
import Reckon.Text.Quoted

/-!
# Structured data

The content of an alias file: nested lists and mappings of texts, numbers and truth values. The
entries of a mapping keep the order of the file; a key that is not a text stands for itself as it is
shown.
-/

namespace Reckon

/-- A piece of structured data. -/
inductive Data where
  | null
  | bool (value : Bool)
  | integer (value : Int)
  | real (value : Float)
  | text (value : String)
  | list (items : List Data)
  | mapping (entries : List (String × Data))
  /-- A value of another kind, such as a date: how it is shown, and how it is inside of another. -/
  | other (shown inspected : String)
deriving Inhabited

namespace Data

/-- The value of the last entry with the given key. -/
def get? (key : String) (entries : List (String × Data)) : Option Data :=
  (entries.reverse.lookup key)

mutual

/-- How a value is shown inside of another one. -/
def inspect : Data → String
  | null => "None"
  | bool true => "True"
  | bool false => "False"
  | integer value => toString value
  | real value => Decimal.write value
  | text value => Text.quote value
  | list items => s!"[{inspectItems items}]"
  | mapping entries => "\x7b" ++ inspectEntries entries ++ "\x7d"
  | other _ inspected => inspected

/-- The items of a list, separated by commas. -/
def inspectItems : List Data → String
  | [] => ""
  | [item] => item.inspect
  | item :: items => item.inspect ++ ", " ++ inspectItems items

/-- The entries of a mapping, separated by commas. -/
def inspectEntries : List (String × Data) → String
  | [] => ""
  | [(key, value)] => s!"{Text.quote key}: {value.inspect}"
  | (key, value) :: entries =>
    s!"{Text.quote key}: {value.inspect}" ++ ", " ++ inspectEntries entries

end

/-- How a value is shown in a message: a text stands for itself. -/
def shown : Data → String
  | text value => value
  | other shown _ => shown
  | value => value.inspect

end Data

end Reckon
