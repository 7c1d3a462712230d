import GrammarScan.Unicode.Range

/-!
# Characters without ink

The characters of the Unicode standard, version 17.0, that leave no ink: controls (Cc), format
characters (Cf), private-use characters (Co), separators (Zl, Zp and Zs) other than the space, and
the letters that a display is told to ignore (Default_Ignorable_Code_Point).
-/

namespace GrammarScan.Unicode

/-- The controls. -/
def controls : List CharRange :=
  [⟨0x0000, 0x001F⟩, ⟨0x007F, 0x009F⟩]

/-- The format characters. -/
def formats : List CharRange :=
  [⟨0x00AD, 0x00AD⟩, ⟨0x0600, 0x0605⟩, ⟨0x061C, 0x061C⟩, ⟨0x06DD, 0x06DD⟩, ⟨0x070F, 0x070F⟩,
   ⟨0x0890, 0x0891⟩, ⟨0x08E2, 0x08E2⟩, ⟨0x180E, 0x180E⟩, ⟨0x200B, 0x200F⟩, ⟨0x202A, 0x202E⟩,
   ⟨0x2060, 0x2064⟩, ⟨0x2066, 0x206F⟩, ⟨0xFEFF, 0xFEFF⟩, ⟨0xFFF9, 0xFFFB⟩, ⟨0x110BD, 0x110BD⟩,
   ⟨0x110CD, 0x110CD⟩, ⟨0x13430, 0x1343F⟩, ⟨0x1BCA0, 0x1BCA3⟩, ⟨0x1D173, 0x1D17A⟩,
   ⟨0xE0001, 0xE0001⟩, ⟨0xE0020, 0xE007F⟩]

/-- The private-use characters. -/
def privateUse : List CharRange :=
  [⟨0xE000, 0xF8FF⟩, ⟨0xF0000, 0xFFFFD⟩, ⟨0x100000, 0x10FFFD⟩]

/-- The separators of words, lines and paragraphs, the space excepted. -/
def separators : List CharRange :=
  [⟨0x00A0, 0x00A0⟩, ⟨0x1680, 0x1680⟩, ⟨0x2000, 0x200A⟩, ⟨0x2028, 0x2029⟩, ⟨0x202F, 0x202F⟩,
   ⟨0x205F, 0x205F⟩, ⟨0x3000, 0x3000⟩]

/-- The letters that only fill the place of another one. -/
def fillers : List CharRange :=
  [⟨0x115F, 0x1160⟩, ⟨0x3164, 0x3164⟩, ⟨0xFFA0, 0xFFA0⟩]

end GrammarScan.Unicode
