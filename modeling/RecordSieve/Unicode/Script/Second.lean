import RecordSieve.Unicode.Script.Basic

/-!
# Scripts from H to M

The scripts whose names begin with these letters, with their characters and their extensions.
-/

namespace RecordSieve.Unicode

/-- The scripts whose names begin with the letters from H to M. -/
def scriptsHtoM : List Script :=
  [⟨["Han", "Hani"],
    [(0x2E80, 0x2E99), (0x2E9B, 0x2EF3), (0x2F00, 0x2FD5), (0x3005, 0x3005), (0x3007, 0x3007),
     (0x3021, 0x3029), (0x3038, 0x303B), (0x3400, 0x4DBF), (0x4E00, 0x9FFF), (0xF900, 0xFA6D),
     (0xFA70, 0xFAD9), (0x16FE2, 0x16FE3), (0x16FF0, 0x16FF1), (0x20000, 0x2A6DF),
     (0x2A700, 0x2B739), (0x2B740, 0x2B81D), (0x2B820, 0x2CEA1), (0x2CEB0, 0x2EBE0),
     (0x2EBF0, 0x2EE5D), (0x2F800, 0x2FA1D), (0x30000, 0x3134A), (0x31350, 0x323AF)],
    [(0x00B7, 0x00B7), (0x2FF0, 0x2FFF), (0x3001, 0x3003), (0x3006, 0x3006), (0x3008, 0x3011),
     (0x3013, 0x301F), (0x302A, 0x302D), (0x3030, 0x3030), (0x3037, 0x3037), (0x303C, 0x303F),
     (0x30FB, 0x30FB), (0x3190, 0x319F), (0x31C0, 0x31E5), (0x31EF, 0x31EF), (0x3220, 0x3247),
     (0x3280, 0x32B0), (0x32C0, 0x32CB), (0x32FF, 0x32FF), (0x3358, 0x3370), (0x337B, 0x337F),
     (0x33E0, 0x33FE), (0xA700, 0xA707), (0xFE45, 0xFE46), (0xFF61, 0xFF65), (0x1D360, 0x1D371),
     (0x1F250, 0x1F251)]⟩,
   ⟨["Hangul", "Hang"],
    [(0x1100, 0x11FF), (0x302E, 0x302F), (0x3131, 0x318E), (0x3200, 0x321E), (0x3260, 0x327E),
     (0xA960, 0xA97C), (0xAC00, 0xD7A3), (0xD7B0, 0xD7C6), (0xD7CB, 0xD7FB), (0xFFA0, 0xFFBE),
     (0xFFC2, 0xFFC7), (0xFFCA, 0xFFCF), (0xFFD2, 0xFFD7), (0xFFDA, 0xFFDC)],
    [(0x3001, 0x3003), (0x3008, 0x3011), (0x3013, 0x301F), (0x3030, 0x3030), (0x3037, 0x3037),
     (0x30FB, 0x30FB), (0xFE45, 0xFE46), (0xFF61, 0xFF65)]⟩,
   ⟨["Hanifi_Rohingya", "Rohg"],
    [(0x10D00, 0x10D27), (0x10D30, 0x10D39)],
    [(0x060C, 0x060C), (0x061B, 0x061B), (0x061F, 0x061F), (0x0640, 0x0640), (0x06D4, 0x06D4)]⟩,
   ⟨["Hanunoo", "Hano"],
    [(0x1720, 0x1734)],
    [(0x1735, 0x1736)]⟩,
   ⟨["Hatran", "Hatr"],
    [(0x108E0, 0x108F2), (0x108F4, 0x108F5), (0x108FB, 0x108FF)],
    []⟩,
   ⟨["Hebrew", "Hebr"],
    [(0x0591, 0x05C7), (0x05D0, 0x05EA), (0x05EF, 0x05F4), (0xFB1D, 0xFB36), (0xFB38, 0xFB3C),
     (0xFB3E, 0xFB3E), (0xFB40, 0xFB41), (0xFB43, 0xFB44), (0xFB46, 0xFB4F)],
    [(0x0307, 0x0308)]⟩,
   ⟨["Hiragana", "Hira"],
    [(0x3041, 0x3096), (0x309D, 0x309F), (0x1B001, 0x1B11F), (0x1B132, 0x1B132),
     (0x1B150, 0x1B152), (0x1F200, 0x1F200)],
    [(0x3001, 0x3003), (0x3008, 0x3011), (0x3013, 0x301F), (0x3030, 0x3035), (0x3037, 0x3037),
     (0x303C, 0x303D), (0x3099, 0x309C), (0x30A0, 0x30A0), (0x30FB, 0x30FC), (0xFE45, 0xFE46),
     (0xFF61, 0xFF65), (0xFF70, 0xFF70), (0xFF9E, 0xFF9F)]⟩,
   ⟨["Imperial_Aramaic", "Armi"],
    [(0x10840, 0x10855), (0x10857, 0x1085F)],
    []⟩,
   ⟨["Inscriptional_Pahlavi", "Phli"],
    [(0x10B60, 0x10B72), (0x10B78, 0x10B7F)],
    []⟩,
   ⟨["Inscriptional_Parthian", "Prti"],
    [(0x10B40, 0x10B55), (0x10B58, 0x10B5F)],
    []⟩,
   ⟨["Javanese", "Java"],
    [(0xA980, 0xA9CD), (0xA9D0, 0xA9D9), (0xA9DE, 0xA9DF)],
    [(0xA9CF, 0xA9CF)]⟩,
   ⟨["Kaithi", "Kthi"],
    [(0x11080, 0x110C2), (0x110CD, 0x110CD)],
    [(0x0966, 0x096F), (0x2E31, 0x2E31), (0xA830, 0xA839)]⟩,
   ⟨["Kannada", "Knda"],
    [(0x0C80, 0x0C8C), (0x0C8E, 0x0C90), (0x0C92, 0x0CA8), (0x0CAA, 0x0CB3), (0x0CB5, 0x0CB9),
     (0x0CBC, 0x0CC4), (0x0CC6, 0x0CC8), (0x0CCA, 0x0CCD), (0x0CD5, 0x0CD6), (0x0CDD, 0x0CDE),
     (0x0CE0, 0x0CE3), (0x0CE6, 0x0CEF), (0x0CF1, 0x0CF3)],
    [(0x0951, 0x0952), (0x0964, 0x0965), (0x1CD0, 0x1CD0), (0x1CD2, 0x1CD3), (0x1CDA, 0x1CDA),
     (0x1CF2, 0x1CF2), (0x1CF4, 0x1CF4), (0xA830, 0xA835)]⟩,
   ⟨["Katakana", "Kana"],
    [(0x30A1, 0x30FA), (0x30FD, 0x30FF), (0x31F0, 0x31FF), (0x32D0, 0x32FE), (0x3300, 0x3357),
     (0xFF66, 0xFF6F), (0xFF71, 0xFF9D), (0x1AFF0, 0x1AFF3), (0x1AFF5, 0x1AFFB),
     (0x1AFFD, 0x1AFFE), (0x1B000, 0x1B000), (0x1B120, 0x1B122), (0x1B155, 0x1B155),
     (0x1B164, 0x1B167)],
    [(0x0305, 0x0305), (0x0323, 0x0323), (0x3001, 0x3003), (0x3008, 0x3011), (0x3013, 0x301F),
     (0x3030, 0x3035), (0x3037, 0x3037), (0x303C, 0x303D), (0x3099, 0x309C), (0x30A0, 0x30A0),
     (0x30FB, 0x30FC), (0xFE45, 0xFE46), (0xFF61, 0xFF65), (0xFF70, 0xFF70), (0xFF9E, 0xFF9F)]⟩,
   ⟨["Kawi"],
    [(0x11F00, 0x11F10), (0x11F12, 0x11F3A), (0x11F3E, 0x11F5A)],
    []⟩,
   ⟨["Kayah_Li", "Kali"],
    [(0xA900, 0xA92D), (0xA92F, 0xA92F)],
    [(0xA92E, 0xA92E)]⟩,
   ⟨["Kharoshthi", "Khar"],
    [(0x10A00, 0x10A03), (0x10A05, 0x10A06), (0x10A0C, 0x10A13), (0x10A15, 0x10A17),
     (0x10A19, 0x10A35), (0x10A38, 0x10A3A), (0x10A3F, 0x10A48), (0x10A50, 0x10A58)],
    []⟩,
   ⟨["Khitan_Small_Script", "Kits"],
    [(0x16FE4, 0x16FE4), (0x18B00, 0x18CD5), (0x18CFF, 0x18CFF)],
    []⟩,
   ⟨["Khmer", "Khmr"],
    [(0x1780, 0x17DD), (0x17E0, 0x17E9), (0x17F0, 0x17F9), (0x19E0, 0x19FF)],
    []⟩,
   ⟨["Khojki", "Khoj"],
    [(0x11200, 0x11211), (0x11213, 0x11241)],
    [(0x0AE6, 0x0AEF), (0xA830, 0xA839)]⟩,
   ⟨["Khudawadi", "Sind"],
    [(0x112B0, 0x112EA), (0x112F0, 0x112F9)],
    [(0x0964, 0x0965), (0xA830, 0xA839)]⟩,
   ⟨["Kirat_Rai", "Krai"],
    [(0x16D40, 0x16D79)],
    []⟩,
   ⟨["Lao", "Laoo"],
    [(0x0E81, 0x0E82), (0x0E84, 0x0E84), (0x0E86, 0x0E8A), (0x0E8C, 0x0EA3), (0x0EA5, 0x0EA5),
     (0x0EA7, 0x0EBD), (0x0EC0, 0x0EC4), (0x0EC6, 0x0EC6), (0x0EC8, 0x0ECE), (0x0ED0, 0x0ED9),
     (0x0EDC, 0x0EDF)],
    []⟩,
   ⟨["Latin", "Latn"],
    [(0x0041, 0x005A), (0x0061, 0x007A), (0x00AA, 0x00AA), (0x00BA, 0x00BA), (0x00C0, 0x00D6),
     (0x00D8, 0x00F6), (0x00F8, 0x02B8), (0x02E0, 0x02E4), (0x1D00, 0x1D25), (0x1D2C, 0x1D5C),
     (0x1D62, 0x1D65), (0x1D6B, 0x1D77), (0x1D79, 0x1DBE), (0x1E00, 0x1EFF), (0x2071, 0x2071),
     (0x207F, 0x207F), (0x2090, 0x209C), (0x212A, 0x212B), (0x2132, 0x2132), (0x214E, 0x214E),
     (0x2160, 0x2188), (0x2C60, 0x2C7F), (0xA722, 0xA787), (0xA78B, 0xA7CD), (0xA7D0, 0xA7D1),
     (0xA7D3, 0xA7D3), (0xA7D5, 0xA7DC), (0xA7F2, 0xA7FF), (0xAB30, 0xAB5A), (0xAB5C, 0xAB64),
     (0xAB66, 0xAB69), (0xFB00, 0xFB06), (0xFF21, 0xFF3A), (0xFF41, 0xFF5A), (0x10780, 0x10785),
     (0x10787, 0x107B0), (0x107B2, 0x107BA), (0x1DF00, 0x1DF1E), (0x1DF25, 0x1DF2A)],
    [(0x00B7, 0x00B7), (0x02BC, 0x02BC), (0x02C7, 0x02C7), (0x02C9, 0x02CB), (0x02CD, 0x02CD),
     (0x02D7, 0x02D7), (0x02D9, 0x02D9), (0x0300, 0x030E), (0x0310, 0x0311), (0x0313, 0x0313),
     (0x0323, 0x0325), (0x032D, 0x032E), (0x0330, 0x0331), (0x0358, 0x0358), (0x035E, 0x035E),
     (0x0363, 0x036F), (0x0485, 0x0486), (0x0951, 0x0952), (0x10FB, 0x10FB), (0x1DF8, 0x1DF8),
     (0x202F, 0x202F), (0x20F0, 0x20F0), (0x2E17, 0x2E17), (0xA700, 0xA707), (0xA92E, 0xA92E)]⟩,
   ⟨["Lepcha", "Lepc"],
    [(0x1C00, 0x1C37), (0x1C3B, 0x1C49), (0x1C4D, 0x1C4F)],
    []⟩,
   ⟨["Limbu", "Limb"],
    [(0x1900, 0x191E), (0x1920, 0x192B), (0x1930, 0x193B), (0x1940, 0x1940), (0x1944, 0x194F)],
    [(0x0965, 0x0965)]⟩,
   ⟨["Linear_A", "Lina"],
    [(0x10600, 0x10736), (0x10740, 0x10755), (0x10760, 0x10767)],
    [(0x10107, 0x10133)]⟩,
   ⟨["Linear_B", "Linb"],
    [(0x10000, 0x1000B), (0x1000D, 0x10026), (0x10028, 0x1003A), (0x1003C, 0x1003D),
     (0x1003F, 0x1004D), (0x10050, 0x1005D), (0x10080, 0x100FA)],
    [(0x10100, 0x10102), (0x10107, 0x10133), (0x10137, 0x1013F)]⟩,
   ⟨["Lisu"],
    [(0xA4D0, 0xA4FF), (0x11FB0, 0x11FB0)],
    [(0x02BC, 0x02BC), (0x02CD, 0x02CD), (0x300A, 0x300B)]⟩,
   ⟨["Lycian", "Lyci"],
    [(0x10280, 0x1029C)],
    [(0x205A, 0x205A)]⟩,
   ⟨["Lydian", "Lydi"],
    [(0x10920, 0x10939), (0x1093F, 0x1093F)],
    [(0x00B7, 0x00B7), (0x2E31, 0x2E31)]⟩,
   ⟨["Mahajani", "Mahj"],
    [(0x11150, 0x11176)],
    [(0x00B7, 0x00B7), (0x0964, 0x096F), (0xA830, 0xA839)]⟩,
   ⟨["Makasar", "Maka"],
    [(0x11EE0, 0x11EF8)],
    []⟩,
   ⟨["Malayalam", "Mlym"],
    [(0x0D00, 0x0D0C), (0x0D0E, 0x0D10), (0x0D12, 0x0D44), (0x0D46, 0x0D48), (0x0D4A, 0x0D4F),
     (0x0D54, 0x0D63), (0x0D66, 0x0D7F)],
    [(0x0951, 0x0952), (0x0964, 0x0965), (0x1CDA, 0x1CDA), (0x1CF2, 0x1CF2), (0xA830, 0xA832)]⟩,
   ⟨["Mandaic", "Mand"],
    [(0x0840, 0x085B), (0x085E, 0x085E)],
    [(0x0640, 0x0640)]⟩,
   ⟨["Manichaean", "Mani"],
    [(0x10AC0, 0x10AE6), (0x10AEB, 0x10AF6)],
    [(0x0640, 0x0640)]⟩,
   ⟨["Marchen", "Marc"],
    [(0x11C70, 0x11C8F), (0x11C92, 0x11CA7), (0x11CA9, 0x11CB6)],
    []⟩,
   ⟨["Masaram_Gondi", "Gonm"],
    [(0x11D00, 0x11D06), (0x11D08, 0x11D09), (0x11D0B, 0x11D36), (0x11D3A, 0x11D3A),
     (0x11D3C, 0x11D3D), (0x11D3F, 0x11D47), (0x11D50, 0x11D59)],
    [(0x0964, 0x0965)]⟩,
   ⟨["Medefaidrin", "Medf"],
    [(0x16E40, 0x16E9A)],
    []⟩,
   ⟨["Meetei_Mayek", "Mtei"],
    [(0xAAE0, 0xAAF6), (0xABC0, 0xABED), (0xABF0, 0xABF9)],
    []⟩,
   ⟨["Mende_Kikakui", "Mend"],
    [(0x1E800, 0x1E8C4), (0x1E8C7, 0x1E8D6)],
    []⟩,
   ⟨["Meroitic_Cursive", "Merc"],
    [(0x109A0, 0x109B7), (0x109BC, 0x109CF), (0x109D2, 0x109FF)],
    []⟩,
   ⟨["Meroitic_Hieroglyphs", "Mero"],
    [(0x10980, 0x1099F)],
    [(0x205D, 0x205D)]⟩,
   ⟨["Miao", "Plrd"],
    [(0x16F00, 0x16F4A), (0x16F4F, 0x16F87), (0x16F8F, 0x16F9F)],
    []⟩,
   ⟨["Modi"],
    [(0x11600, 0x11644), (0x11650, 0x11659)],
    [(0xA830, 0xA839)]⟩,
   ⟨["Mongolian", "Mong"],
    [(0x1800, 0x1801), (0x1804, 0x1804), (0x1806, 0x1819), (0x1820, 0x1878), (0x1880, 0x18AA),
     (0x11660, 0x1166C)],
    [(0x1802, 0x1803), (0x1805, 0x1805), (0x202F, 0x202F), (0x3001, 0x3002), (0x3008, 0x300B)]⟩,
   ⟨["Mro", "Mroo"],
    [(0x16A40, 0x16A5E), (0x16A60, 0x16A69), (0x16A6E, 0x16A6F)],
    []⟩,
   ⟨["Multani", "Mult"],
    [(0x11280, 0x11286), (0x11288, 0x11288), (0x1128A, 0x1128D), (0x1128F, 0x1129D),
     (0x1129F, 0x112A9)],
    [(0x0A66, 0x0A6F)]⟩,
   ⟨["Myanmar", "Mymr"],
    [(0x1000, 0x109F), (0xA9E0, 0xA9FE), (0xAA60, 0xAA7F), (0x116D0, 0x116E3)],
    [(0xA92E, 0xA92E)]⟩]

end RecordSieve.Unicode
