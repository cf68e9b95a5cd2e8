import Covenant.Value.Basic
import Covenant.Text.Quoted

/-!
# How values read in diagnostics

`Value.literal` is the form in which a value stands inside another one;
`Value.display` is the form in which it stands alone, where a text is shown
as it is and a matcher without its frame.
-/

namespace Covenant

open Text

/-- Texts with a comma and a blank between them. -/
def commaSeparated (texts : List (List Char)) : List Char :=
  List.intercalate [',', ' '] texts

/-- A truth value as a word. -/
def truthWord (b : Bool) : List Char := if b then "True".toList else "False".toList

/-- A double as it reads in diagnostics. -/
def Double.literal (d : Double) : List Char := NumberLayout.plain.doubleText d

/-- A tuple's frame: a single element is followed by a comma. -/
def tupleLiteral : List (List Char) → List Char
  | [t] => '(' :: (t ++ [',', ')'])
  | ts => '(' :: (commaSeparated ts ++ [')'])

mutual

/-- A key as a literal. -/
def Key.literal : Key → List Char
  | .null => "None".toList
  | .bool b => truthWord b
  | .int i => intText i
  | .double d => d.literal
  | .str s => Text.literal s.toList
  | .bytes bs => literalBytes bs
  | .tuple ks => tupleLiteral (Key.literals ks)

/-- Keys as literals. -/
def Key.literals : List Key → List (List Char)
  | [] => []
  | k :: ks => k.literal :: Key.literals ks

end

namespace Value

mutual

/-- **A value as a literal.** -/
def literal : Value → List Char
  | .null => "None".toList
  | .bool b => truthWord b
  | .int i => intText i
  | .double d => d.literal
  | .str s => Text.literal s.toList
  | .bytes bs => literalBytes bs
  | .list vs => '[' :: (commaSeparated (literals vs) ++ [']'])
  | .tuple vs => tupleLiteral (literals vs)
  | .dict es => '{' :: (commaSeparated (entryLiterals es) ++ ['}'])
  | .matcher ⟨type, value, attributes, generator⟩ =>
    "Matcher(type=".toList ++ Text.literal type.toList ++ ", value=".toList ++ literal value
      ++ ", attributes=\x7b".toList ++ commaSeparated (attributeLiterals attributes)
      ++ "\x7d, generator=".toList
      ++ ((generator.map fun g => Text.literal g.toList).getD "None".toList) ++ [')']

/-- Values as literals. -/
def literals : List Value → List (List Char)
  | [] => []
  | v :: vs => literal v :: literals vs

/-- Entries as literals. -/
def entryLiterals : List (Key × Value) → List (List Char)
  | [] => []
  | (k, v) :: es => (k.literal ++ [':', ' '] ++ literal v) :: entryLiterals es

/-- Attributes as literals. -/
def attributeLiterals : List (String × Value) → List (List Char)
  | [] => []
  | (k, v) :: es => (Text.literal k.toList ++ [':', ' '] ++ literal v) :: attributeLiterals es

end

/-- **A value as it is shown on its own.** -/
def displayChars : Value → List Char
  | .str s => s.toList
  | .matcher ⟨type, value, attributes, generator⟩ =>
    "type=".toList ++ Text.literal type.toList ++ " value=".toList ++ literal value
      ++ " attributes=\x7b".toList ++ commaSeparated (attributeLiterals attributes)
      ++ "\x7d generator=".toList
      ++ (generator.map fun g => Text.literal g.toList).getD "None".toList
  | v => literal v

@[inherit_doc displayChars]
def display (v : Value) : String := String.ofList v.displayChars

/-- A tuple of one keeps its comma. -/
example : display (.tuple [.null]) = "(None,)" := by decide +kernel

end Value

/-- A list of texts as a literal. -/
def literalList (texts : List String) : String :=
  (Value.list (texts.map .str)).display

end Covenant
