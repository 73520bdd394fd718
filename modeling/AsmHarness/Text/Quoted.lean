import AsmHarness.Unicode.GeneralCategory
import AsmHarness.Unicode.Property.Marks

/-!
# Quoted text

Messages show a text between double quotes, in a form that keeps on one line and shows every
character: quotes and backslashes are escaped, and what has no visible form of its own is written as
its code point.
-/

namespace AsmHarness.Text

open Unicode

/-- The categories whose characters have no visible form. -/
def invisibleCategories : List GeneralCategory :=
  [.control, .format, .unassigned, .privateUse, .surrogate, .lineSeparator, .paragraphSeparator,
    .spaceSeparator]

/-- Whether a character can stand for itself in a message: it has a visible form, or is the space,
and does not merge into the character before it. -/
def isShown (c : Char) : Bool :=
  (c = ' ' || !invisibleCategories.contains (GeneralCategory.of c.toNat)) &&
    !Property.graphemeExtend.contains c.toNat

/-- How a character is written inside quotes. -/
def quoteChar (c : Char) : List Char :=
  match c with
  | '\x00' => ['\\', '0']
  | '\t' => ['\\', 't']
  | '\n' => ['\\', 'n']
  | '\r' => ['\\', 'r']
  | '"' => ['\\', '"']
  | '\\' => ['\\', '\\']
  | c => if isShown c then [c] else ['\\', 'u', '\x7b'] ++ Nat.toDigits 16 c.toNat ++ ['\x7d']

/-- A text between double quotes. -/
def quoted (text : String) : String :=
  .ofList ('"' :: (text.toList.flatMap quoteChar ++ ['"']))

end AsmHarness.Text
