import JsonSchema.Text.Category
import JsonSchema.Text.Newer
import JsonSchema.Text.Property

set_option autoImplicit false

namespace JsonSchema.Text

def alphabetic : CharSet := (Property.find? "alphabetic").getD .empty

def nameLetters : CharSet := alphabetic.union Newer.alphabetic

def nameChars : CharSet :=
  CharSet.unions [nameLetters, Category.group Category.numbers, Newer.numbers]

def decimalDigits : CharSet := Category.single "nd"

def wordChars : CharSet :=
  CharSet.unions [alphabetic, Category.group Category.marks, decimalDigits, Category.single "pc",
    .ofRanges [(0x200C, 0x200D)]]

def blankChars : CharSet := (Property.find? "whitespace").getD .empty

end JsonSchema.Text
