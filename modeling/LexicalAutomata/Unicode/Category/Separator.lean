import LexicalAutomata.Unicode.RunTable

namespace LexicalAutomata.Unicode

/-!
# Separators

The code points of the three separator categories.
-/

/-- Spaces, category `Zs`. -/
def spaceSeparator : RunTable where
  runs :=
    #[
      ⟨0x20, 0x20, 1⟩, ⟨0xA0, 0xA0, 1⟩, ⟨0x1680, 0x1680, 1⟩, ⟨0x2000, 0x200A, 1⟩,
      ⟨0x202F, 0x202F, 1⟩, ⟨0x205F, 0x205F, 1⟩, ⟨0x3000, 0x3000, 1⟩
    ]

/-- The line separator, category `Zl`. -/
def lineSeparator : RunTable where
  runs :=
    #[
      ⟨0x2028, 0x2028, 1⟩
    ]

/-- The paragraph separator, category `Zp`. -/
def paragraphSeparator : RunTable where
  runs :=
    #[
      ⟨0x2029, 0x2029, 1⟩
    ]

end LexicalAutomata.Unicode
