import LexicalAutomata.Unicode.RunTable

namespace LexicalAutomata.Unicode

/-!
# Mirrored characters

The code points with the property `Bidi_Mirrored`.
-/

/-- Characters drawn mirrored in text that runs from right to left. -/
def mirrored : RunTable where
  runs :=
    #[
      ⟨0x28, 0x29, 1⟩, ⟨0x3C, 0x3C, 1⟩, ⟨0x3E, 0x3E, 1⟩, ⟨0x5B, 0x5B, 1⟩, ⟨0x5D, 0x5D, 1⟩,
      ⟨0x7B, 0x7B, 1⟩, ⟨0x7D, 0x7D, 1⟩, ⟨0xAB, 0xAB, 1⟩, ⟨0xBB, 0xBB, 1⟩, ⟨0xF3A, 0xF3D, 1⟩,
      ⟨0x169B, 0x169C, 1⟩, ⟨0x2039, 0x203A, 1⟩, ⟨0x2045, 0x2046, 1⟩, ⟨0x207D, 0x207E, 1⟩,
      ⟨0x208D, 0x208E, 1⟩, ⟨0x2140, 0x2140, 1⟩, ⟨0x2201, 0x2204, 1⟩, ⟨0x2208, 0x220D, 1⟩,
      ⟨0x2211, 0x2211, 1⟩, ⟨0x2215, 0x2216, 1⟩, ⟨0x221A, 0x221D, 1⟩, ⟨0x221F, 0x2222, 1⟩,
      ⟨0x2224, 0x2224, 1⟩, ⟨0x2226, 0x2226, 1⟩, ⟨0x222B, 0x2233, 1⟩, ⟨0x2239, 0x2239, 1⟩,
      ⟨0x223B, 0x224C, 1⟩, ⟨0x2252, 0x2255, 1⟩, ⟨0x225F, 0x2260, 1⟩, ⟨0x2262, 0x2262, 1⟩,
      ⟨0x2264, 0x226B, 1⟩, ⟨0x226D, 0x228C, 1⟩, ⟨0x228F, 0x2292, 1⟩, ⟨0x2298, 0x2298, 1⟩,
      ⟨0x22A2, 0x22A3, 1⟩, ⟨0x22A6, 0x22B8, 1⟩, ⟨0x22BE, 0x22BF, 1⟩, ⟨0x22C9, 0x22CD, 1⟩,
      ⟨0x22D0, 0x22D1, 1⟩, ⟨0x22D6, 0x22ED, 1⟩, ⟨0x22F0, 0x22FF, 1⟩, ⟨0x2308, 0x230B, 1⟩,
      ⟨0x2320, 0x2321, 1⟩, ⟨0x2329, 0x232A, 1⟩, ⟨0x2768, 0x2775, 1⟩, ⟨0x27C0, 0x27C0, 1⟩,
      ⟨0x27C3, 0x27C6, 1⟩, ⟨0x27C8, 0x27C9, 1⟩, ⟨0x27CB, 0x27CD, 1⟩, ⟨0x27D3, 0x27D6, 1⟩,
      ⟨0x27DC, 0x27DE, 1⟩, ⟨0x27E2, 0x27EF, 1⟩, ⟨0x2983, 0x2998, 1⟩, ⟨0x299B, 0x29A0, 1⟩,
      ⟨0x29A2, 0x29AF, 1⟩, ⟨0x29B8, 0x29B8, 1⟩, ⟨0x29C0, 0x29C5, 1⟩, ⟨0x29C9, 0x29C9, 1⟩,
      ⟨0x29CE, 0x29D2, 1⟩, ⟨0x29D4, 0x29D5, 1⟩, ⟨0x29D8, 0x29DC, 1⟩, ⟨0x29E1, 0x29E1, 1⟩,
      ⟨0x29E3, 0x29E5, 1⟩, ⟨0x29E8, 0x29E9, 1⟩, ⟨0x29F4, 0x29F9, 1⟩, ⟨0x29FC, 0x29FD, 1⟩,
      ⟨0x2A0A, 0x2A1C, 1⟩, ⟨0x2A1E, 0x2A21, 1⟩, ⟨0x2A24, 0x2A24, 1⟩, ⟨0x2A26, 0x2A26, 1⟩,
      ⟨0x2A29, 0x2A29, 1⟩, ⟨0x2A2B, 0x2A2E, 1⟩, ⟨0x2A34, 0x2A35, 1⟩, ⟨0x2A3C, 0x2A3E, 1⟩,
      ⟨0x2A57, 0x2A58, 1⟩, ⟨0x2A64, 0x2A65, 1⟩, ⟨0x2A6A, 0x2A6D, 1⟩, ⟨0x2A6F, 0x2A70, 1⟩,
      ⟨0x2A73, 0x2A74, 1⟩, ⟨0x2A79, 0x2AA3, 1⟩, ⟨0x2AA6, 0x2AAD, 1⟩, ⟨0x2AAF, 0x2AD6, 1⟩,
      ⟨0x2ADC, 0x2ADC, 1⟩, ⟨0x2ADE, 0x2ADE, 1⟩, ⟨0x2AE2, 0x2AE6, 1⟩, ⟨0x2AEC, 0x2AEE, 1⟩,
      ⟨0x2AF3, 0x2AF3, 1⟩, ⟨0x2AF7, 0x2AFB, 1⟩, ⟨0x2AFD, 0x2AFD, 1⟩, ⟨0x2BFE, 0x2BFE, 1⟩,
      ⟨0x2E02, 0x2E05, 1⟩, ⟨0x2E09, 0x2E0A, 1⟩, ⟨0x2E0C, 0x2E0D, 1⟩, ⟨0x2E1C, 0x2E1D, 1⟩,
      ⟨0x2E20, 0x2E29, 1⟩, ⟨0x2E55, 0x2E5C, 1⟩, ⟨0x3008, 0x3011, 1⟩, ⟨0x3014, 0x301B, 1⟩,
      ⟨0xFE59, 0xFE5E, 1⟩, ⟨0xFE64, 0xFE65, 1⟩, ⟨0xFF08, 0xFF09, 1⟩, ⟨0xFF1C, 0xFF1C, 1⟩,
      ⟨0xFF1E, 0xFF1E, 1⟩, ⟨0xFF3B, 0xFF3B, 1⟩, ⟨0xFF3D, 0xFF3D, 1⟩, ⟨0xFF5B, 0xFF5B, 1⟩,
      ⟨0xFF5D, 0xFF5D, 1⟩, ⟨0xFF5F, 0xFF60, 1⟩, ⟨0xFF62, 0xFF63, 1⟩, ⟨0x1D6DB, 0x1D6DB, 1⟩,
      ⟨0x1D715, 0x1D715, 1⟩, ⟨0x1D74F, 0x1D74F, 1⟩, ⟨0x1D789, 0x1D789, 1⟩, ⟨0x1D7C3, 0x1D7C3, 1⟩
    ]

end LexicalAutomata.Unicode
