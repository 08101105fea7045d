import ToolGate.Text.Category
import ToolGate.Text.Property

/-!
# Character classes

The classes that the program asks for again and again, made from the general
categories and the binary properties.
-/

namespace ToolGate.Text

/-- The characters of a property, none if the property is unknown. -/
def withProperty (name : String) : CharSet :=
  (Property.ofName? name).getD .empty

/-- Decimal digits of any script. -/
def digits : CharSet :=
  Category.ofNames ["nd"]

/-- Blanks, line ends among them. -/
def blanks : CharSet :=
  withProperty "whitespace"

/-- Characters of words: letters, marks, digits, connectors and joiners. -/
def wordCharacters : CharSet :=
  .unions
    [withProperty "alphabetic", Category.ofNames ["m", "nd", "pc"], withProperty "joincontrol"]

/-- Letters and numbers of any kind. -/
def alphanumerics : CharSet :=
  .union (withProperty "alphabetic") (Category.ofNames ["n"])

/-- Characters that join the character before them. -/
def graphemeExtenders : CharSet :=
  withProperty "graphemeextend"

/-- Characters that leave a visible trace, and the space. -/
def printables : CharSet :=
  .union (Category.ofNames ["c", "z"]).complement (.singleton ' ')

/-- The text holds nothing but blanks. -/
def isBlank (text : String) : Bool :=
  text.toList.all blanks.contains

end ToolGate.Text
