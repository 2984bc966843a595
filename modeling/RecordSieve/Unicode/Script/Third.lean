import RecordSieve.Unicode.Script.Basic

/-!
# Scripts from N to Z

The scripts whose names begin with these letters, with their characters and their extensions.
-/

namespace RecordSieve.Unicode

/-- The scripts whose names begin with the letters from N to Z. -/
def scriptsNtoZ : List Script :=
  [⟨["Nabataean", "Nbat"],
    [(0x10880, 0x1089E), (0x108A7, 0x108AF)],
    []⟩,
   ⟨["Nag_Mundari", "Nagm"],
    [(0x1E4D0, 0x1E4F9)],
    []⟩,
   ⟨["Nandinagari", "Nand"],
    [(0x119A0, 0x119A7), (0x119AA, 0x119D7), (0x119DA, 0x119E4)],
    [(0x0951, 0x0951), (0x0964, 0x0965), (0x0CE6, 0x0CEF), (0x1CE9, 0x1CE9), (0x1CF2, 0x1CF2),
     (0x1CFA, 0x1CFA), (0xA830, 0xA835)]⟩,
   ⟨["New_Tai_Lue", "Talu"],
    [(0x1980, 0x19AB), (0x19B0, 0x19C9), (0x19D0, 0x19DA), (0x19DE, 0x19DF)],
    []⟩,
   ⟨["Newa"],
    [(0x11400, 0x1145B), (0x1145D, 0x11461)],
    [(0x0951, 0x0952), (0x1CD5, 0x1CD5), (0x1CD7, 0x1CD8), (0x1CE2, 0x1CE2), (0x1CE9, 0x1CE9),
     (0x1CEB, 0x1CEB), (0x1CED, 0x1CED)]⟩,
   ⟨["Nko", "Nkoo"],
    [(0x07C0, 0x07FA), (0x07FD, 0x07FF)],
    [(0x060C, 0x060C), (0x061B, 0x061B), (0x061F, 0x061F), (0xFD3E, 0xFD3F)]⟩,
   ⟨["Nushu", "Nshu"],
    [(0x16FE1, 0x16FE1), (0x1B170, 0x1B2FB)],
    []⟩,
   ⟨["Nyiakeng_Puachue_Hmong", "Hmnp"],
    [(0x1E100, 0x1E12C), (0x1E130, 0x1E13D), (0x1E140, 0x1E149), (0x1E14E, 0x1E14F)],
    []⟩,
   ⟨["Ogham", "Ogam"],
    [(0x1680, 0x169C)],
    []⟩,
   ⟨["Ol_Chiki", "Olck"],
    [(0x1C50, 0x1C7F)],
    []⟩,
   ⟨["Ol_Onal", "Onao"],
    [(0x1E5D0, 0x1E5FA), (0x1E5FF, 0x1E5FF)],
    [(0x0964, 0x0965)]⟩,
   ⟨["Old_Hungarian", "Hung"],
    [(0x10C80, 0x10CB2), (0x10CC0, 0x10CF2), (0x10CFA, 0x10CFF)],
    [(0x205A, 0x205A), (0x205D, 0x205D), (0x2E31, 0x2E31), (0x2E41, 0x2E41)]⟩,
   ⟨["Old_Italic", "Ital"],
    [(0x10300, 0x10323), (0x1032D, 0x1032F)],
    []⟩,
   ⟨["Old_North_Arabian", "Narb"],
    [(0x10A80, 0x10A9F)],
    []⟩,
   ⟨["Old_Permic", "Perm"],
    [(0x10350, 0x1037A)],
    [(0x00B7, 0x00B7), (0x0300, 0x0300), (0x0306, 0x0308), (0x0313, 0x0313), (0x0483, 0x0483)]⟩,
   ⟨["Old_Persian", "Xpeo"],
    [(0x103A0, 0x103C3), (0x103C8, 0x103D5)],
    []⟩,
   ⟨["Old_Sogdian", "Sogo"],
    [(0x10F00, 0x10F27)],
    []⟩,
   ⟨["Old_South_Arabian", "Sarb"],
    [(0x10A60, 0x10A7F)],
    []⟩,
   ⟨["Old_Turkic", "Orkh"],
    [(0x10C00, 0x10C48)],
    [(0x205A, 0x205A), (0x2E30, 0x2E30)]⟩,
   ⟨["Old_Uyghur", "Ougr"],
    [(0x10F70, 0x10F89)],
    [(0x0640, 0x0640), (0x10AF2, 0x10AF2)]⟩,
   ⟨["Oriya", "Orya"],
    [(0x0B01, 0x0B03), (0x0B05, 0x0B0C), (0x0B0F, 0x0B10), (0x0B13, 0x0B28), (0x0B2A, 0x0B30),
     (0x0B32, 0x0B33), (0x0B35, 0x0B39), (0x0B3C, 0x0B44), (0x0B47, 0x0B48), (0x0B4B, 0x0B4D),
     (0x0B55, 0x0B57), (0x0B5C, 0x0B5D), (0x0B5F, 0x0B63), (0x0B66, 0x0B77)],
    [(0x0951, 0x0952), (0x0964, 0x0965), (0x1CDA, 0x1CDA), (0x1CF2, 0x1CF2)]⟩,
   ⟨["Osage", "Osge"],
    [(0x104B0, 0x104D3), (0x104D8, 0x104FB)],
    [(0x0301, 0x0301), (0x0304, 0x0304), (0x030B, 0x030B), (0x0358, 0x0358)]⟩,
   ⟨["Osmanya", "Osma"],
    [(0x10480, 0x1049D), (0x104A0, 0x104A9)],
    []⟩,
   ⟨["Pahawh_Hmong", "Hmng"],
    [(0x16B00, 0x16B45), (0x16B50, 0x16B59), (0x16B5B, 0x16B61), (0x16B63, 0x16B77),
     (0x16B7D, 0x16B8F)],
    []⟩,
   ⟨["Palmyrene", "Palm"],
    [(0x10860, 0x1087F)],
    []⟩,
   ⟨["Pau_Cin_Hau", "Pauc"],
    [(0x11AC0, 0x11AF8)],
    []⟩,
   ⟨["Phags_Pa", "Phag"],
    [(0xA840, 0xA877)],
    [(0x1802, 0x1803), (0x1805, 0x1805), (0x202F, 0x202F), (0x3002, 0x3002)]⟩,
   ⟨["Phoenician", "Phnx"],
    [(0x10900, 0x1091B), (0x1091F, 0x1091F)],
    []⟩,
   ⟨["Psalter_Pahlavi", "Phlp"],
    [(0x10B80, 0x10B91), (0x10B99, 0x10B9C), (0x10BA9, 0x10BAF)],
    [(0x0640, 0x0640)]⟩,
   ⟨["Rejang", "Rjng"],
    [(0xA930, 0xA953), (0xA95F, 0xA95F)],
    []⟩,
   ⟨["Runic", "Runr"],
    [(0x16A0, 0x16EA), (0x16EE, 0x16F8)],
    [(0x16EB, 0x16ED)]⟩,
   ⟨["Samaritan", "Samr"],
    [(0x0800, 0x082D), (0x0830, 0x083E)],
    [(0x2E31, 0x2E31)]⟩,
   ⟨["Saurashtra", "Saur"],
    [(0xA880, 0xA8C5), (0xA8CE, 0xA8D9)],
    []⟩,
   ⟨["Sharada", "Shrd"],
    [(0x11180, 0x111DF)],
    [(0x0951, 0x0951), (0x1CD7, 0x1CD7), (0x1CD9, 0x1CD9), (0x1CDC, 0x1CDD), (0x1CE0, 0x1CE0),
     (0x1CEA, 0x1CEA), (0x1CED, 0x1CED), (0xA830, 0xA835), (0xA838, 0xA838)]⟩,
   ⟨["Shavian", "Shaw"],
    [(0x10450, 0x1047F)],
    [(0x00B7, 0x00B7)]⟩,
   ⟨["Siddham", "Sidd"],
    [(0x11580, 0x115B5), (0x115B8, 0x115DD)],
    []⟩,
   ⟨["SignWriting", "Sgnw"],
    [(0x1D800, 0x1DA8B), (0x1DA9B, 0x1DA9F), (0x1DAA1, 0x1DAAF)],
    []⟩,
   ⟨["Sinhala", "Sinh"],
    [(0x0D81, 0x0D83), (0x0D85, 0x0D96), (0x0D9A, 0x0DB1), (0x0DB3, 0x0DBB), (0x0DBD, 0x0DBD),
     (0x0DC0, 0x0DC6), (0x0DCA, 0x0DCA), (0x0DCF, 0x0DD4), (0x0DD6, 0x0DD6), (0x0DD8, 0x0DDF),
     (0x0DE6, 0x0DEF), (0x0DF2, 0x0DF4), (0x111E1, 0x111F4)],
    [(0x0964, 0x0965), (0x1CF2, 0x1CF2)]⟩,
   ⟨["Sogdian", "Sogd"],
    [(0x10F30, 0x10F59)],
    [(0x0640, 0x0640)]⟩,
   ⟨["Sora_Sompeng", "Sora"],
    [(0x110D0, 0x110E8), (0x110F0, 0x110F9)],
    []⟩,
   ⟨["Soyombo", "Soyo"],
    [(0x11A50, 0x11AA2)],
    []⟩,
   ⟨["Sundanese", "Sund"],
    [(0x1B80, 0x1BBF), (0x1CC0, 0x1CC7)],
    []⟩,
   ⟨["Sunuwar", "Sunu"],
    [(0x11BC0, 0x11BE1), (0x11BF0, 0x11BF9)],
    [(0x0300, 0x0301), (0x0303, 0x0303), (0x030D, 0x030D), (0x0310, 0x0310), (0x032D, 0x032D),
     (0x0331, 0x0331)]⟩,
   ⟨["Syloti_Nagri", "Sylo"],
    [(0xA800, 0xA82C)],
    [(0x0964, 0x0965), (0x09E6, 0x09EF)]⟩,
   ⟨["Syriac", "Syrc"],
    [(0x0700, 0x070D), (0x070F, 0x074A), (0x074D, 0x074F), (0x0860, 0x086A)],
    [(0x0303, 0x0304), (0x0307, 0x0308), (0x030A, 0x030A), (0x0323, 0x0325), (0x032D, 0x032E),
     (0x0330, 0x0331), (0x060C, 0x060C), (0x061B, 0x061C), (0x061F, 0x061F), (0x0640, 0x0640),
     (0x064B, 0x0655), (0x0670, 0x0670), (0x1DF8, 0x1DF8), (0x1DFA, 0x1DFA)]⟩,
   ⟨["Tagalog", "Tglg"],
    [(0x1700, 0x1715), (0x171F, 0x171F)],
    [(0x1735, 0x1736)]⟩,
   ⟨["Tagbanwa", "Tagb"],
    [(0x1760, 0x176C), (0x176E, 0x1770), (0x1772, 0x1773)],
    [(0x1735, 0x1736)]⟩,
   ⟨["Tai_Le", "Tale"],
    [(0x1950, 0x196D), (0x1970, 0x1974)],
    [(0x0300, 0x0301), (0x0307, 0x0308), (0x030C, 0x030C), (0x1040, 0x1049)]⟩,
   ⟨["Tai_Tham", "Lana"],
    [(0x1A20, 0x1A5E), (0x1A60, 0x1A7C), (0x1A7F, 0x1A89), (0x1A90, 0x1A99), (0x1AA0, 0x1AAD)],
    []⟩,
   ⟨["Tai_Viet", "Tavt"],
    [(0xAA80, 0xAAC2), (0xAADB, 0xAADF)],
    []⟩,
   ⟨["Takri", "Takr"],
    [(0x11680, 0x116B9), (0x116C0, 0x116C9)],
    [(0x0964, 0x0965), (0xA830, 0xA839)]⟩,
   ⟨["Tamil", "Taml"],
    [(0x0B82, 0x0B83), (0x0B85, 0x0B8A), (0x0B8E, 0x0B90), (0x0B92, 0x0B95), (0x0B99, 0x0B9A),
     (0x0B9C, 0x0B9C), (0x0B9E, 0x0B9F), (0x0BA3, 0x0BA4), (0x0BA8, 0x0BAA), (0x0BAE, 0x0BB9),
     (0x0BBE, 0x0BC2), (0x0BC6, 0x0BC8), (0x0BCA, 0x0BCD), (0x0BD0, 0x0BD0), (0x0BD7, 0x0BD7),
     (0x0BE6, 0x0BFA), (0x11FC0, 0x11FF1), (0x11FFF, 0x11FFF)],
    [(0x0951, 0x0952), (0x0964, 0x0965), (0x1CDA, 0x1CDA), (0xA8F3, 0xA8F3), (0x11301, 0x11301),
     (0x11303, 0x11303), (0x1133B, 0x1133C)]⟩,
   ⟨["Tangsa", "Tnsa"],
    [(0x16A70, 0x16ABE), (0x16AC0, 0x16AC9)],
    []⟩,
   ⟨["Tangut", "Tang"],
    [(0x16FE0, 0x16FE0), (0x17000, 0x187F7), (0x18800, 0x18AFF), (0x18D00, 0x18D08)],
    [(0x2FF0, 0x2FFF), (0x31EF, 0x31EF)]⟩,
   ⟨["Telugu", "Telu"],
    [(0x0C00, 0x0C0C), (0x0C0E, 0x0C10), (0x0C12, 0x0C28), (0x0C2A, 0x0C39), (0x0C3C, 0x0C44),
     (0x0C46, 0x0C48), (0x0C4A, 0x0C4D), (0x0C55, 0x0C56), (0x0C58, 0x0C5A), (0x0C5D, 0x0C5D),
     (0x0C60, 0x0C63), (0x0C66, 0x0C6F), (0x0C77, 0x0C7F)],
    [(0x0951, 0x0952), (0x0964, 0x0965), (0x1CD5, 0x1CD6), (0x1CD8, 0x1CD8), (0x1CDA, 0x1CDA),
     (0x1CF2, 0x1CF2)]⟩,
   ⟨["Thaana", "Thaa"],
    [(0x0780, 0x07B1)],
    [(0x060C, 0x060C), (0x061B, 0x061C), (0x061F, 0x061F), (0x0660, 0x0669), (0xFDF2, 0xFDF2),
     (0xFDFD, 0xFDFD)]⟩,
   ⟨["Thai"],
    [(0x0E01, 0x0E3A), (0x0E40, 0x0E5B)],
    [(0x02BC, 0x02BC), (0x02D7, 0x02D7), (0x0303, 0x0303), (0x0331, 0x0331)]⟩,
   ⟨["Tibetan", "Tibt"],
    [(0x0F00, 0x0F47), (0x0F49, 0x0F6C), (0x0F71, 0x0F97), (0x0F99, 0x0FBC), (0x0FBE, 0x0FCC),
     (0x0FCE, 0x0FD4), (0x0FD9, 0x0FDA)],
    [(0x3008, 0x300B)]⟩,
   ⟨["Tifinagh", "Tfng"],
    [(0x2D30, 0x2D67), (0x2D6F, 0x2D70), (0x2D7F, 0x2D7F)],
    [(0x0302, 0x0302), (0x0304, 0x0304), (0x0306, 0x0309), (0x0323, 0x0323)]⟩,
   ⟨["Tirhuta", "Tirh"],
    [(0x11480, 0x114C7), (0x114D0, 0x114D9)],
    [(0x0951, 0x0952), (0x0964, 0x0965), (0x1CD5, 0x1CD5), (0x1CE2, 0x1CE2), (0x1CF2, 0x1CF2),
     (0xA830, 0xA839)]⟩,
   ⟨["Todhri", "Todr"],
    [(0x105C0, 0x105F3)],
    [(0x0301, 0x0301), (0x0304, 0x0304), (0x0307, 0x0307), (0x0311, 0x0311), (0x0313, 0x0313),
     (0x035E, 0x035E)]⟩,
   ⟨["Toto"],
    [(0x1E290, 0x1E2AE)],
    [(0x02BC, 0x02BC)]⟩,
   ⟨["Tulu_Tigalari", "Tutg"],
    [(0x11380, 0x11389), (0x1138B, 0x1138B), (0x1138E, 0x1138E), (0x11390, 0x113B5),
     (0x113B7, 0x113C0), (0x113C2, 0x113C2), (0x113C5, 0x113C5), (0x113C7, 0x113CA),
     (0x113CC, 0x113D5), (0x113D7, 0x113D8), (0x113E1, 0x113E2)],
    [(0x0CE6, 0x0CEF), (0x1CF2, 0x1CF2), (0x1CF4, 0x1CF4), (0xA830, 0xA835), (0xA8F1, 0xA8F1)]⟩,
   ⟨["Ugaritic", "Ugar"],
    [(0x10380, 0x1039D), (0x1039F, 0x1039F)],
    []⟩,
   ⟨["Vai", "Vaii"],
    [(0xA500, 0xA62B)],
    []⟩,
   ⟨["Vithkuqi", "Vith"],
    [(0x10570, 0x1057A), (0x1057C, 0x1058A), (0x1058C, 0x10592), (0x10594, 0x10595),
     (0x10597, 0x105A1), (0x105A3, 0x105B1), (0x105B3, 0x105B9), (0x105BB, 0x105BC)],
    []⟩,
   ⟨["Wancho", "Wcho"],
    [(0x1E2C0, 0x1E2F9), (0x1E2FF, 0x1E2FF)],
    []⟩,
   ⟨["Warang_Citi", "Wara"],
    [(0x118A0, 0x118F2), (0x118FF, 0x118FF)],
    []⟩,
   ⟨["Yezidi", "Yezi"],
    [(0x10E80, 0x10EA9), (0x10EAB, 0x10EAD), (0x10EB0, 0x10EB1)],
    [(0x060C, 0x060C), (0x061B, 0x061B), (0x061F, 0x061F), (0x0660, 0x0669)]⟩,
   ⟨["Yi", "Yiii"],
    [(0xA000, 0xA48C), (0xA490, 0xA4C6)],
    [(0x3001, 0x3002), (0x3008, 0x3011), (0x3014, 0x301B), (0x30FB, 0x30FB), (0xFF61, 0xFF65)]⟩,
   ⟨["Zanabazar_Square", "Zanb"],
    [(0x11A00, 0x11A47)],
    []⟩]

end RecordSieve.Unicode
