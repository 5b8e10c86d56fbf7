import TimelineLisp.Text.CodeRange

/-!
# Blank characters

The characters that separate tokens and that are trimmed from both ends of a frame rate: those with
the Unicode property `White_Space`.
-/

namespace TimelineLisp

/-- The ranges of the property `White_Space`. -/
def blankRanges : List CodeRange :=
  [⟨0x9, 0xD⟩, ⟨0x20, 0x20⟩, ⟨0x85, 0x85⟩, ⟨0xA0, 0xA0⟩, ⟨0x1680, 0x1680⟩, ⟨0x2000, 0x200A⟩,
    ⟨0x2028, 0x2029⟩, ⟨0x202F, 0x202F⟩, ⟨0x205F, 0x205F⟩, ⟨0x3000, 0x3000⟩]

/-- The character is white space. -/
def isBlank (c : Char) : Bool :=
  CodeRange.covers blankRanges c

theorem isBlank_newline : isBlank '\n' = true := by decide

end TimelineLisp
