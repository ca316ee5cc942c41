/-!
# Names of characters

The standard names of characters in common use: the letters of Europe, punctuation, currencies,
symbols and pictures, with the short names of controls.

Main statement: `mem_of_characterNamed?`, a character found stands in the table under the capitals
of its name.
-/
namespace FormStudio

/-- The characters of ASCII and of the languages of western Europe. -/
def latinNames : List (String × Nat) := [
  ("SPACE", 0x20), ("EXCLAMATION MARK", 0x21), ("QUOTATION MARK", 0x22), ("NUMBER SIGN", 0x23),
  ("DOLLAR SIGN", 0x24), ("PERCENT SIGN", 0x25), ("AMPERSAND", 0x26), ("APOSTROPHE", 0x27),
  ("LEFT PARENTHESIS", 0x28), ("RIGHT PARENTHESIS", 0x29), ("ASTERISK", 0x2a), ("PLUS SIGN", 0x2b),
  ("COMMA", 0x2c), ("HYPHEN-MINUS", 0x2d), ("FULL STOP", 0x2e), ("SOLIDUS", 0x2f),
  ("DIGIT ZERO", 0x30), ("DIGIT ONE", 0x31), ("DIGIT TWO", 0x32), ("DIGIT THREE", 0x33),
  ("DIGIT FOUR", 0x34), ("DIGIT FIVE", 0x35), ("DIGIT SIX", 0x36), ("DIGIT SEVEN", 0x37),
  ("DIGIT EIGHT", 0x38), ("DIGIT NINE", 0x39), ("COLON", 0x3a), ("SEMICOLON", 0x3b),
  ("LESS-THAN SIGN", 0x3c), ("EQUALS SIGN", 0x3d), ("GREATER-THAN SIGN", 0x3e),
  ("QUESTION MARK", 0x3f), ("COMMERCIAL AT", 0x40), ("LATIN CAPITAL LETTER A", 0x41),
  ("LATIN CAPITAL LETTER B", 0x42), ("LATIN CAPITAL LETTER C", 0x43),
  ("LATIN CAPITAL LETTER D", 0x44), ("LATIN CAPITAL LETTER E", 0x45),
  ("LATIN CAPITAL LETTER F", 0x46), ("LATIN CAPITAL LETTER G", 0x47),
  ("LATIN CAPITAL LETTER H", 0x48), ("LATIN CAPITAL LETTER I", 0x49),
  ("LATIN CAPITAL LETTER J", 0x4a), ("LATIN CAPITAL LETTER K", 0x4b),
  ("LATIN CAPITAL LETTER L", 0x4c), ("LATIN CAPITAL LETTER M", 0x4d),
  ("LATIN CAPITAL LETTER N", 0x4e), ("LATIN CAPITAL LETTER O", 0x4f),
  ("LATIN CAPITAL LETTER P", 0x50), ("LATIN CAPITAL LETTER Q", 0x51),
  ("LATIN CAPITAL LETTER R", 0x52), ("LATIN CAPITAL LETTER S", 0x53),
  ("LATIN CAPITAL LETTER T", 0x54), ("LATIN CAPITAL LETTER U", 0x55),
  ("LATIN CAPITAL LETTER V", 0x56), ("LATIN CAPITAL LETTER W", 0x57),
  ("LATIN CAPITAL LETTER X", 0x58), ("LATIN CAPITAL LETTER Y", 0x59),
  ("LATIN CAPITAL LETTER Z", 0x5a), ("LEFT SQUARE BRACKET", 0x5b), ("REVERSE SOLIDUS", 0x5c),
  ("RIGHT SQUARE BRACKET", 0x5d), ("CIRCUMFLEX ACCENT", 0x5e), ("LOW LINE", 0x5f),
  ("GRAVE ACCENT", 0x60), ("LATIN SMALL LETTER A", 0x61), ("LATIN SMALL LETTER B", 0x62),
  ("LATIN SMALL LETTER C", 0x63), ("LATIN SMALL LETTER D", 0x64), ("LATIN SMALL LETTER E", 0x65),
  ("LATIN SMALL LETTER F", 0x66), ("LATIN SMALL LETTER G", 0x67), ("LATIN SMALL LETTER H", 0x68),
  ("LATIN SMALL LETTER I", 0x69), ("LATIN SMALL LETTER J", 0x6a), ("LATIN SMALL LETTER K", 0x6b),
  ("LATIN SMALL LETTER L", 0x6c), ("LATIN SMALL LETTER M", 0x6d), ("LATIN SMALL LETTER N", 0x6e),
  ("LATIN SMALL LETTER O", 0x6f), ("LATIN SMALL LETTER P", 0x70), ("LATIN SMALL LETTER Q", 0x71),
  ("LATIN SMALL LETTER R", 0x72), ("LATIN SMALL LETTER S", 0x73), ("LATIN SMALL LETTER T", 0x74),
  ("LATIN SMALL LETTER U", 0x75), ("LATIN SMALL LETTER V", 0x76), ("LATIN SMALL LETTER W", 0x77),
  ("LATIN SMALL LETTER X", 0x78), ("LATIN SMALL LETTER Y", 0x79), ("LATIN SMALL LETTER Z", 0x7a),
  ("LEFT CURLY BRACKET", 0x7b), ("VERTICAL LINE", 0x7c), ("RIGHT CURLY BRACKET", 0x7d),
  ("TILDE", 0x7e), ("NO-BREAK SPACE", 0xa0), ("INVERTED EXCLAMATION MARK", 0xa1),
  ("CENT SIGN", 0xa2), ("POUND SIGN", 0xa3), ("CURRENCY SIGN", 0xa4), ("YEN SIGN", 0xa5),
  ("BROKEN BAR", 0xa6), ("SECTION SIGN", 0xa7), ("DIAERESIS", 0xa8), ("COPYRIGHT SIGN", 0xa9),
  ("FEMININE ORDINAL INDICATOR", 0xaa), ("LEFT-POINTING DOUBLE ANGLE QUOTATION MARK", 0xab),
  ("NOT SIGN", 0xac), ("SOFT HYPHEN", 0xad), ("REGISTERED SIGN", 0xae), ("MACRON", 0xaf),
  ("DEGREE SIGN", 0xb0), ("PLUS-MINUS SIGN", 0xb1), ("SUPERSCRIPT TWO", 0xb2),
  ("SUPERSCRIPT THREE", 0xb3), ("ACUTE ACCENT", 0xb4), ("MICRO SIGN", 0xb5), ("PILCROW SIGN", 0xb6),
  ("MIDDLE DOT", 0xb7), ("CEDILLA", 0xb8), ("SUPERSCRIPT ONE", 0xb9),
  ("MASCULINE ORDINAL INDICATOR", 0xba), ("RIGHT-POINTING DOUBLE ANGLE QUOTATION MARK", 0xbb),
  ("VULGAR FRACTION ONE QUARTER", 0xbc), ("VULGAR FRACTION ONE HALF", 0xbd),
  ("VULGAR FRACTION THREE QUARTERS", 0xbe), ("INVERTED QUESTION MARK", 0xbf),
  ("LATIN CAPITAL LETTER A WITH GRAVE", 0xc0), ("LATIN CAPITAL LETTER A WITH ACUTE", 0xc1),
  ("LATIN CAPITAL LETTER A WITH CIRCUMFLEX", 0xc2), ("LATIN CAPITAL LETTER A WITH TILDE", 0xc3),
  ("LATIN CAPITAL LETTER A WITH DIAERESIS", 0xc4), ("LATIN CAPITAL LETTER A WITH RING ABOVE", 0xc5),
  ("LATIN CAPITAL LETTER AE", 0xc6), ("LATIN CAPITAL LETTER C WITH CEDILLA", 0xc7),
  ("LATIN CAPITAL LETTER E WITH GRAVE", 0xc8), ("LATIN CAPITAL LETTER E WITH ACUTE", 0xc9),
  ("LATIN CAPITAL LETTER E WITH CIRCUMFLEX", 0xca), ("LATIN CAPITAL LETTER E WITH DIAERESIS", 0xcb),
  ("LATIN CAPITAL LETTER I WITH GRAVE", 0xcc), ("LATIN CAPITAL LETTER I WITH ACUTE", 0xcd),
  ("LATIN CAPITAL LETTER I WITH CIRCUMFLEX", 0xce), ("LATIN CAPITAL LETTER I WITH DIAERESIS", 0xcf),
  ("LATIN CAPITAL LETTER ETH", 0xd0), ("LATIN CAPITAL LETTER N WITH TILDE", 0xd1),
  ("LATIN CAPITAL LETTER O WITH GRAVE", 0xd2), ("LATIN CAPITAL LETTER O WITH ACUTE", 0xd3),
  ("LATIN CAPITAL LETTER O WITH CIRCUMFLEX", 0xd4), ("LATIN CAPITAL LETTER O WITH TILDE", 0xd5),
  ("LATIN CAPITAL LETTER O WITH DIAERESIS", 0xd6), ("MULTIPLICATION SIGN", 0xd7),
  ("LATIN CAPITAL LETTER O WITH STROKE", 0xd8), ("LATIN CAPITAL LETTER U WITH GRAVE", 0xd9),
  ("LATIN CAPITAL LETTER U WITH ACUTE", 0xda), ("LATIN CAPITAL LETTER U WITH CIRCUMFLEX", 0xdb),
  ("LATIN CAPITAL LETTER U WITH DIAERESIS", 0xdc), ("LATIN CAPITAL LETTER Y WITH ACUTE", 0xdd),
  ("LATIN CAPITAL LETTER THORN", 0xde), ("LATIN SMALL LETTER SHARP S", 0xdf),
  ("LATIN SMALL LETTER A WITH GRAVE", 0xe0), ("LATIN SMALL LETTER A WITH ACUTE", 0xe1),
  ("LATIN SMALL LETTER A WITH CIRCUMFLEX", 0xe2), ("LATIN SMALL LETTER A WITH TILDE", 0xe3),
  ("LATIN SMALL LETTER A WITH DIAERESIS", 0xe4), ("LATIN SMALL LETTER A WITH RING ABOVE", 0xe5),
  ("LATIN SMALL LETTER AE", 0xe6), ("LATIN SMALL LETTER C WITH CEDILLA", 0xe7),
  ("LATIN SMALL LETTER E WITH GRAVE", 0xe8), ("LATIN SMALL LETTER E WITH ACUTE", 0xe9),
  ("LATIN SMALL LETTER E WITH CIRCUMFLEX", 0xea), ("LATIN SMALL LETTER E WITH DIAERESIS", 0xeb),
  ("LATIN SMALL LETTER I WITH GRAVE", 0xec), ("LATIN SMALL LETTER I WITH ACUTE", 0xed),
  ("LATIN SMALL LETTER I WITH CIRCUMFLEX", 0xee), ("LATIN SMALL LETTER I WITH DIAERESIS", 0xef),
  ("LATIN SMALL LETTER ETH", 0xf0), ("LATIN SMALL LETTER N WITH TILDE", 0xf1),
  ("LATIN SMALL LETTER O WITH GRAVE", 0xf2), ("LATIN SMALL LETTER O WITH ACUTE", 0xf3),
  ("LATIN SMALL LETTER O WITH CIRCUMFLEX", 0xf4), ("LATIN SMALL LETTER O WITH TILDE", 0xf5),
  ("LATIN SMALL LETTER O WITH DIAERESIS", 0xf6), ("DIVISION SIGN", 0xf7),
  ("LATIN SMALL LETTER O WITH STROKE", 0xf8), ("LATIN SMALL LETTER U WITH GRAVE", 0xf9),
  ("LATIN SMALL LETTER U WITH ACUTE", 0xfa), ("LATIN SMALL LETTER U WITH CIRCUMFLEX", 0xfb),
  ("LATIN SMALL LETTER U WITH DIAERESIS", 0xfc), ("LATIN SMALL LETTER Y WITH ACUTE", 0xfd),
  ("LATIN SMALL LETTER THORN", 0xfe), ("LATIN SMALL LETTER Y WITH DIAERESIS", 0xff),
  ("LATIN CAPITAL LETTER A WITH MACRON", 0x100), ("LATIN SMALL LETTER A WITH MACRON", 0x101),
  ("LATIN CAPITAL LETTER A WITH BREVE", 0x102), ("LATIN SMALL LETTER A WITH BREVE", 0x103),
  ("LATIN CAPITAL LETTER A WITH OGONEK", 0x104), ("LATIN SMALL LETTER A WITH OGONEK", 0x105),
  ("LATIN CAPITAL LETTER C WITH ACUTE", 0x106), ("LATIN SMALL LETTER C WITH ACUTE", 0x107),
  ("LATIN CAPITAL LETTER C WITH CIRCUMFLEX", 0x108),
  ("LATIN SMALL LETTER C WITH CIRCUMFLEX", 0x109), ("LATIN CAPITAL LETTER C WITH DOT ABOVE", 0x10a),
  ("LATIN SMALL LETTER C WITH DOT ABOVE", 0x10b), ("LATIN CAPITAL LETTER C WITH CARON", 0x10c),
  ("LATIN SMALL LETTER C WITH CARON", 0x10d), ("LATIN CAPITAL LETTER D WITH CARON", 0x10e),
  ("LATIN SMALL LETTER D WITH CARON", 0x10f), ("LATIN CAPITAL LETTER D WITH STROKE", 0x110),
  ("LATIN SMALL LETTER D WITH STROKE", 0x111), ("LATIN CAPITAL LETTER E WITH MACRON", 0x112),
  ("LATIN SMALL LETTER E WITH MACRON", 0x113), ("LATIN CAPITAL LETTER E WITH BREVE", 0x114),
  ("LATIN SMALL LETTER E WITH BREVE", 0x115), ("LATIN CAPITAL LETTER E WITH DOT ABOVE", 0x116),
  ("LATIN SMALL LETTER E WITH DOT ABOVE", 0x117), ("LATIN CAPITAL LETTER E WITH OGONEK", 0x118),
  ("LATIN SMALL LETTER E WITH OGONEK", 0x119), ("LATIN CAPITAL LETTER E WITH CARON", 0x11a),
  ("LATIN SMALL LETTER E WITH CARON", 0x11b), ("LATIN CAPITAL LETTER G WITH CIRCUMFLEX", 0x11c),
  ("LATIN SMALL LETTER G WITH CIRCUMFLEX", 0x11d), ("LATIN CAPITAL LETTER G WITH BREVE", 0x11e),
  ("LATIN SMALL LETTER G WITH BREVE", 0x11f), ("LATIN CAPITAL LETTER G WITH DOT ABOVE", 0x120),
  ("LATIN SMALL LETTER G WITH DOT ABOVE", 0x121), ("LATIN CAPITAL LETTER G WITH CEDILLA", 0x122),
  ("LATIN SMALL LETTER G WITH CEDILLA", 0x123), ("LATIN CAPITAL LETTER H WITH CIRCUMFLEX", 0x124),
  ("LATIN SMALL LETTER H WITH CIRCUMFLEX", 0x125), ("LATIN CAPITAL LETTER H WITH STROKE", 0x126),
  ("LATIN SMALL LETTER H WITH STROKE", 0x127), ("LATIN CAPITAL LETTER I WITH TILDE", 0x128),
  ("LATIN SMALL LETTER I WITH TILDE", 0x129), ("LATIN CAPITAL LETTER I WITH MACRON", 0x12a),
  ("LATIN SMALL LETTER I WITH MACRON", 0x12b), ("LATIN CAPITAL LETTER I WITH BREVE", 0x12c),
  ("LATIN SMALL LETTER I WITH BREVE", 0x12d), ("LATIN CAPITAL LETTER I WITH OGONEK", 0x12e),
  ("LATIN SMALL LETTER I WITH OGONEK", 0x12f), ("LATIN CAPITAL LETTER I WITH DOT ABOVE", 0x130),
  ("LATIN SMALL LETTER DOTLESS I", 0x131), ("LATIN CAPITAL LIGATURE IJ", 0x132),
  ("LATIN SMALL LIGATURE IJ", 0x133), ("LATIN CAPITAL LETTER J WITH CIRCUMFLEX", 0x134),
  ("LATIN SMALL LETTER J WITH CIRCUMFLEX", 0x135), ("LATIN CAPITAL LETTER K WITH CEDILLA", 0x136),
  ("LATIN SMALL LETTER K WITH CEDILLA", 0x137), ("LATIN SMALL LETTER KRA", 0x138),
  ("LATIN CAPITAL LETTER L WITH ACUTE", 0x139), ("LATIN SMALL LETTER L WITH ACUTE", 0x13a),
  ("LATIN CAPITAL LETTER L WITH CEDILLA", 0x13b), ("LATIN SMALL LETTER L WITH CEDILLA", 0x13c),
  ("LATIN CAPITAL LETTER L WITH CARON", 0x13d), ("LATIN SMALL LETTER L WITH CARON", 0x13e),
  ("LATIN CAPITAL LETTER L WITH MIDDLE DOT", 0x13f),
  ("LATIN SMALL LETTER L WITH MIDDLE DOT", 0x140), ("LATIN CAPITAL LETTER L WITH STROKE", 0x141),
  ("LATIN SMALL LETTER L WITH STROKE", 0x142), ("LATIN CAPITAL LETTER N WITH ACUTE", 0x143),
  ("LATIN SMALL LETTER N WITH ACUTE", 0x144), ("LATIN CAPITAL LETTER N WITH CEDILLA", 0x145),
  ("LATIN SMALL LETTER N WITH CEDILLA", 0x146), ("LATIN CAPITAL LETTER N WITH CARON", 0x147),
  ("LATIN SMALL LETTER N WITH CARON", 0x148),
  ("LATIN SMALL LETTER N PRECEDED BY APOSTROPHE", 0x149), ("LATIN CAPITAL LETTER ENG", 0x14a),
  ("LATIN SMALL LETTER ENG", 0x14b), ("LATIN CAPITAL LETTER O WITH MACRON", 0x14c),
  ("LATIN SMALL LETTER O WITH MACRON", 0x14d), ("LATIN CAPITAL LETTER O WITH BREVE", 0x14e),
  ("LATIN SMALL LETTER O WITH BREVE", 0x14f), ("LATIN CAPITAL LETTER O WITH DOUBLE ACUTE", 0x150),
  ("LATIN SMALL LETTER O WITH DOUBLE ACUTE", 0x151), ("LATIN CAPITAL LIGATURE OE", 0x152),
  ("LATIN SMALL LIGATURE OE", 0x153), ("LATIN CAPITAL LETTER R WITH ACUTE", 0x154),
  ("LATIN SMALL LETTER R WITH ACUTE", 0x155), ("LATIN CAPITAL LETTER R WITH CEDILLA", 0x156),
  ("LATIN SMALL LETTER R WITH CEDILLA", 0x157), ("LATIN CAPITAL LETTER R WITH CARON", 0x158),
  ("LATIN SMALL LETTER R WITH CARON", 0x159), ("LATIN CAPITAL LETTER S WITH ACUTE", 0x15a),
  ("LATIN SMALL LETTER S WITH ACUTE", 0x15b), ("LATIN CAPITAL LETTER S WITH CIRCUMFLEX", 0x15c),
  ("LATIN SMALL LETTER S WITH CIRCUMFLEX", 0x15d), ("LATIN CAPITAL LETTER S WITH CEDILLA", 0x15e),
  ("LATIN SMALL LETTER S WITH CEDILLA", 0x15f), ("LATIN CAPITAL LETTER S WITH CARON", 0x160),
  ("LATIN SMALL LETTER S WITH CARON", 0x161), ("LATIN CAPITAL LETTER T WITH CEDILLA", 0x162),
  ("LATIN SMALL LETTER T WITH CEDILLA", 0x163), ("LATIN CAPITAL LETTER T WITH CARON", 0x164),
  ("LATIN SMALL LETTER T WITH CARON", 0x165), ("LATIN CAPITAL LETTER T WITH STROKE", 0x166),
  ("LATIN SMALL LETTER T WITH STROKE", 0x167), ("LATIN CAPITAL LETTER U WITH TILDE", 0x168),
  ("LATIN SMALL LETTER U WITH TILDE", 0x169), ("LATIN CAPITAL LETTER U WITH MACRON", 0x16a),
  ("LATIN SMALL LETTER U WITH MACRON", 0x16b), ("LATIN CAPITAL LETTER U WITH BREVE", 0x16c),
  ("LATIN SMALL LETTER U WITH BREVE", 0x16d), ("LATIN CAPITAL LETTER U WITH RING ABOVE", 0x16e),
  ("LATIN SMALL LETTER U WITH RING ABOVE", 0x16f),
  ("LATIN CAPITAL LETTER U WITH DOUBLE ACUTE", 0x170),
  ("LATIN SMALL LETTER U WITH DOUBLE ACUTE", 0x171), ("LATIN CAPITAL LETTER U WITH OGONEK", 0x172),
  ("LATIN SMALL LETTER U WITH OGONEK", 0x173), ("LATIN CAPITAL LETTER W WITH CIRCUMFLEX", 0x174),
  ("LATIN SMALL LETTER W WITH CIRCUMFLEX", 0x175),
  ("LATIN CAPITAL LETTER Y WITH CIRCUMFLEX", 0x176),
  ("LATIN SMALL LETTER Y WITH CIRCUMFLEX", 0x177), ("LATIN CAPITAL LETTER Y WITH DIAERESIS", 0x178),
  ("LATIN CAPITAL LETTER Z WITH ACUTE", 0x179), ("LATIN SMALL LETTER Z WITH ACUTE", 0x17a),
  ("LATIN CAPITAL LETTER Z WITH DOT ABOVE", 0x17b), ("LATIN SMALL LETTER Z WITH DOT ABOVE", 0x17c),
  ("LATIN CAPITAL LETTER Z WITH CARON", 0x17d), ("LATIN SMALL LETTER Z WITH CARON", 0x17e),
  ("LATIN SMALL LETTER LONG S", 0x17f)]

/-- Greek and Cyrillic letters. -/
def greekNames : List (String × Nat) := [
  ("GREEK CAPITAL LETTER ALPHA WITH TONOS", 0x386), ("GREEK ANO TELEIA", 0x387),
  ("GREEK CAPITAL LETTER EPSILON WITH TONOS", 0x388),
  ("GREEK CAPITAL LETTER ETA WITH TONOS", 0x389), ("GREEK CAPITAL LETTER IOTA WITH TONOS", 0x38a),
  ("GREEK CAPITAL LETTER OMICRON WITH TONOS", 0x38c),
  ("GREEK CAPITAL LETTER UPSILON WITH TONOS", 0x38e),
  ("GREEK CAPITAL LETTER OMEGA WITH TONOS", 0x38f),
  ("GREEK SMALL LETTER IOTA WITH DIALYTIKA AND TONOS", 0x390),
  ("GREEK CAPITAL LETTER ALPHA", 0x391), ("GREEK CAPITAL LETTER BETA", 0x392),
  ("GREEK CAPITAL LETTER GAMMA", 0x393), ("GREEK CAPITAL LETTER DELTA", 0x394),
  ("GREEK CAPITAL LETTER EPSILON", 0x395), ("GREEK CAPITAL LETTER ZETA", 0x396),
  ("GREEK CAPITAL LETTER ETA", 0x397), ("GREEK CAPITAL LETTER THETA", 0x398),
  ("GREEK CAPITAL LETTER IOTA", 0x399), ("GREEK CAPITAL LETTER KAPPA", 0x39a),
  ("GREEK CAPITAL LETTER LAMDA", 0x39b), ("GREEK CAPITAL LETTER MU", 0x39c),
  ("GREEK CAPITAL LETTER NU", 0x39d), ("GREEK CAPITAL LETTER XI", 0x39e),
  ("GREEK CAPITAL LETTER OMICRON", 0x39f), ("GREEK CAPITAL LETTER PI", 0x3a0),
  ("GREEK CAPITAL LETTER RHO", 0x3a1), ("GREEK CAPITAL LETTER SIGMA", 0x3a3),
  ("GREEK CAPITAL LETTER TAU", 0x3a4), ("GREEK CAPITAL LETTER UPSILON", 0x3a5),
  ("GREEK CAPITAL LETTER PHI", 0x3a6), ("GREEK CAPITAL LETTER CHI", 0x3a7),
  ("GREEK CAPITAL LETTER PSI", 0x3a8), ("GREEK CAPITAL LETTER OMEGA", 0x3a9),
  ("GREEK CAPITAL LETTER IOTA WITH DIALYTIKA", 0x3aa),
  ("GREEK CAPITAL LETTER UPSILON WITH DIALYTIKA", 0x3ab),
  ("GREEK SMALL LETTER ALPHA WITH TONOS", 0x3ac), ("GREEK SMALL LETTER EPSILON WITH TONOS", 0x3ad),
  ("GREEK SMALL LETTER ETA WITH TONOS", 0x3ae), ("GREEK SMALL LETTER IOTA WITH TONOS", 0x3af),
  ("GREEK SMALL LETTER UPSILON WITH DIALYTIKA AND TONOS", 0x3b0),
  ("GREEK SMALL LETTER ALPHA", 0x3b1), ("GREEK SMALL LETTER BETA", 0x3b2),
  ("GREEK SMALL LETTER GAMMA", 0x3b3), ("GREEK SMALL LETTER DELTA", 0x3b4),
  ("GREEK SMALL LETTER EPSILON", 0x3b5), ("GREEK SMALL LETTER ZETA", 0x3b6),
  ("GREEK SMALL LETTER ETA", 0x3b7), ("GREEK SMALL LETTER THETA", 0x3b8),
  ("GREEK SMALL LETTER IOTA", 0x3b9), ("GREEK SMALL LETTER KAPPA", 0x3ba),
  ("GREEK SMALL LETTER LAMDA", 0x3bb), ("GREEK SMALL LETTER MU", 0x3bc),
  ("GREEK SMALL LETTER NU", 0x3bd), ("GREEK SMALL LETTER XI", 0x3be),
  ("GREEK SMALL LETTER OMICRON", 0x3bf), ("GREEK SMALL LETTER PI", 0x3c0),
  ("GREEK SMALL LETTER RHO", 0x3c1), ("GREEK SMALL LETTER FINAL SIGMA", 0x3c2),
  ("GREEK SMALL LETTER SIGMA", 0x3c3), ("GREEK SMALL LETTER TAU", 0x3c4),
  ("GREEK SMALL LETTER UPSILON", 0x3c5), ("GREEK SMALL LETTER PHI", 0x3c6),
  ("GREEK SMALL LETTER CHI", 0x3c7), ("GREEK SMALL LETTER PSI", 0x3c8),
  ("GREEK SMALL LETTER OMEGA", 0x3c9), ("GREEK SMALL LETTER IOTA WITH DIALYTIKA", 0x3ca),
  ("GREEK SMALL LETTER UPSILON WITH DIALYTIKA", 0x3cb),
  ("GREEK SMALL LETTER OMICRON WITH TONOS", 0x3cc),
  ("GREEK SMALL LETTER UPSILON WITH TONOS", 0x3cd), ("GREEK SMALL LETTER OMEGA WITH TONOS", 0x3ce),
  ("CYRILLIC CAPITAL LETTER IO", 0x401), ("CYRILLIC CAPITAL LETTER DJE", 0x402),
  ("CYRILLIC CAPITAL LETTER GJE", 0x403), ("CYRILLIC CAPITAL LETTER UKRAINIAN IE", 0x404),
  ("CYRILLIC CAPITAL LETTER DZE", 0x405),
  ("CYRILLIC CAPITAL LETTER BYELORUSSIAN-UKRAINIAN I", 0x406),
  ("CYRILLIC CAPITAL LETTER YI", 0x407), ("CYRILLIC CAPITAL LETTER JE", 0x408),
  ("CYRILLIC CAPITAL LETTER LJE", 0x409), ("CYRILLIC CAPITAL LETTER NJE", 0x40a),
  ("CYRILLIC CAPITAL LETTER TSHE", 0x40b), ("CYRILLIC CAPITAL LETTER KJE", 0x40c),
  ("CYRILLIC CAPITAL LETTER I WITH GRAVE", 0x40d), ("CYRILLIC CAPITAL LETTER SHORT U", 0x40e),
  ("CYRILLIC CAPITAL LETTER DZHE", 0x40f), ("CYRILLIC CAPITAL LETTER A", 0x410),
  ("CYRILLIC CAPITAL LETTER BE", 0x411), ("CYRILLIC CAPITAL LETTER VE", 0x412),
  ("CYRILLIC CAPITAL LETTER GHE", 0x413), ("CYRILLIC CAPITAL LETTER DE", 0x414),
  ("CYRILLIC CAPITAL LETTER IE", 0x415), ("CYRILLIC CAPITAL LETTER ZHE", 0x416),
  ("CYRILLIC CAPITAL LETTER ZE", 0x417), ("CYRILLIC CAPITAL LETTER I", 0x418),
  ("CYRILLIC CAPITAL LETTER SHORT I", 0x419), ("CYRILLIC CAPITAL LETTER KA", 0x41a),
  ("CYRILLIC CAPITAL LETTER EL", 0x41b), ("CYRILLIC CAPITAL LETTER EM", 0x41c),
  ("CYRILLIC CAPITAL LETTER EN", 0x41d), ("CYRILLIC CAPITAL LETTER O", 0x41e),
  ("CYRILLIC CAPITAL LETTER PE", 0x41f), ("CYRILLIC CAPITAL LETTER ER", 0x420),
  ("CYRILLIC CAPITAL LETTER ES", 0x421), ("CYRILLIC CAPITAL LETTER TE", 0x422),
  ("CYRILLIC CAPITAL LETTER U", 0x423), ("CYRILLIC CAPITAL LETTER EF", 0x424),
  ("CYRILLIC CAPITAL LETTER HA", 0x425), ("CYRILLIC CAPITAL LETTER TSE", 0x426),
  ("CYRILLIC CAPITAL LETTER CHE", 0x427), ("CYRILLIC CAPITAL LETTER SHA", 0x428),
  ("CYRILLIC CAPITAL LETTER SHCHA", 0x429), ("CYRILLIC CAPITAL LETTER HARD SIGN", 0x42a),
  ("CYRILLIC CAPITAL LETTER YERU", 0x42b), ("CYRILLIC CAPITAL LETTER SOFT SIGN", 0x42c),
  ("CYRILLIC CAPITAL LETTER E", 0x42d), ("CYRILLIC CAPITAL LETTER YU", 0x42e),
  ("CYRILLIC CAPITAL LETTER YA", 0x42f), ("CYRILLIC SMALL LETTER A", 0x430),
  ("CYRILLIC SMALL LETTER BE", 0x431), ("CYRILLIC SMALL LETTER VE", 0x432),
  ("CYRILLIC SMALL LETTER GHE", 0x433), ("CYRILLIC SMALL LETTER DE", 0x434),
  ("CYRILLIC SMALL LETTER IE", 0x435), ("CYRILLIC SMALL LETTER ZHE", 0x436),
  ("CYRILLIC SMALL LETTER ZE", 0x437), ("CYRILLIC SMALL LETTER I", 0x438),
  ("CYRILLIC SMALL LETTER SHORT I", 0x439), ("CYRILLIC SMALL LETTER KA", 0x43a),
  ("CYRILLIC SMALL LETTER EL", 0x43b), ("CYRILLIC SMALL LETTER EM", 0x43c),
  ("CYRILLIC SMALL LETTER EN", 0x43d), ("CYRILLIC SMALL LETTER O", 0x43e),
  ("CYRILLIC SMALL LETTER PE", 0x43f), ("CYRILLIC SMALL LETTER ER", 0x440),
  ("CYRILLIC SMALL LETTER ES", 0x441), ("CYRILLIC SMALL LETTER TE", 0x442),
  ("CYRILLIC SMALL LETTER U", 0x443), ("CYRILLIC SMALL LETTER EF", 0x444),
  ("CYRILLIC SMALL LETTER HA", 0x445), ("CYRILLIC SMALL LETTER TSE", 0x446),
  ("CYRILLIC SMALL LETTER CHE", 0x447), ("CYRILLIC SMALL LETTER SHA", 0x448),
  ("CYRILLIC SMALL LETTER SHCHA", 0x449), ("CYRILLIC SMALL LETTER HARD SIGN", 0x44a),
  ("CYRILLIC SMALL LETTER YERU", 0x44b), ("CYRILLIC SMALL LETTER SOFT SIGN", 0x44c),
  ("CYRILLIC SMALL LETTER E", 0x44d), ("CYRILLIC SMALL LETTER YU", 0x44e),
  ("CYRILLIC SMALL LETTER YA", 0x44f), ("CYRILLIC SMALL LETTER IE WITH GRAVE", 0x450),
  ("CYRILLIC SMALL LETTER IO", 0x451), ("CYRILLIC SMALL LETTER DJE", 0x452),
  ("CYRILLIC SMALL LETTER GJE", 0x453), ("CYRILLIC SMALL LETTER UKRAINIAN IE", 0x454),
  ("CYRILLIC SMALL LETTER DZE", 0x455), ("CYRILLIC SMALL LETTER BYELORUSSIAN-UKRAINIAN I", 0x456),
  ("CYRILLIC SMALL LETTER YI", 0x457), ("CYRILLIC SMALL LETTER JE", 0x458),
  ("CYRILLIC SMALL LETTER LJE", 0x459), ("CYRILLIC SMALL LETTER NJE", 0x45a),
  ("CYRILLIC SMALL LETTER TSHE", 0x45b), ("CYRILLIC SMALL LETTER KJE", 0x45c),
  ("CYRILLIC SMALL LETTER I WITH GRAVE", 0x45d), ("CYRILLIC SMALL LETTER SHORT U", 0x45e),
  ("CYRILLIC SMALL LETTER DZHE", 0x45f)]

/-- Punctuation, spaces, currencies and letter-like symbols. -/
def punctuationNames : List (String × Nat) := [
  ("EN QUAD", 0x2000), ("EM QUAD", 0x2001), ("EN SPACE", 0x2002), ("EM SPACE", 0x2003),
  ("THREE-PER-EM SPACE", 0x2004), ("FOUR-PER-EM SPACE", 0x2005), ("SIX-PER-EM SPACE", 0x2006),
  ("FIGURE SPACE", 0x2007), ("PUNCTUATION SPACE", 0x2008), ("THIN SPACE", 0x2009),
  ("HAIR SPACE", 0x200a), ("ZERO WIDTH SPACE", 0x200b), ("ZERO WIDTH NON-JOINER", 0x200c),
  ("ZERO WIDTH JOINER", 0x200d), ("LEFT-TO-RIGHT MARK", 0x200e), ("RIGHT-TO-LEFT MARK", 0x200f),
  ("HYPHEN", 0x2010), ("NON-BREAKING HYPHEN", 0x2011), ("FIGURE DASH", 0x2012), ("EN DASH", 0x2013),
  ("EM DASH", 0x2014), ("HORIZONTAL BAR", 0x2015), ("DOUBLE VERTICAL LINE", 0x2016),
  ("DOUBLE LOW LINE", 0x2017), ("LEFT SINGLE QUOTATION MARK", 0x2018),
  ("RIGHT SINGLE QUOTATION MARK", 0x2019), ("SINGLE LOW-9 QUOTATION MARK", 0x201a),
  ("SINGLE HIGH-REVERSED-9 QUOTATION MARK", 0x201b), ("LEFT DOUBLE QUOTATION MARK", 0x201c),
  ("RIGHT DOUBLE QUOTATION MARK", 0x201d), ("DOUBLE LOW-9 QUOTATION MARK", 0x201e),
  ("DOUBLE HIGH-REVERSED-9 QUOTATION MARK", 0x201f), ("DAGGER", 0x2020), ("DOUBLE DAGGER", 0x2021),
  ("BULLET", 0x2022), ("TRIANGULAR BULLET", 0x2023), ("ONE DOT LEADER", 0x2024),
  ("TWO DOT LEADER", 0x2025), ("HORIZONTAL ELLIPSIS", 0x2026), ("HYPHENATION POINT", 0x2027),
  ("LINE SEPARATOR", 0x2028), ("PARAGRAPH SEPARATOR", 0x2029), ("LEFT-TO-RIGHT EMBEDDING", 0x202a),
  ("RIGHT-TO-LEFT EMBEDDING", 0x202b), ("POP DIRECTIONAL FORMATTING", 0x202c),
  ("LEFT-TO-RIGHT OVERRIDE", 0x202d), ("RIGHT-TO-LEFT OVERRIDE", 0x202e),
  ("NARROW NO-BREAK SPACE", 0x202f), ("PER MILLE SIGN", 0x2030), ("PER TEN THOUSAND SIGN", 0x2031),
  ("PRIME", 0x2032), ("DOUBLE PRIME", 0x2033), ("TRIPLE PRIME", 0x2034), ("REVERSED PRIME", 0x2035),
  ("REVERSED DOUBLE PRIME", 0x2036), ("REVERSED TRIPLE PRIME", 0x2037), ("CARET", 0x2038),
  ("SINGLE LEFT-POINTING ANGLE QUOTATION MARK", 0x2039),
  ("SINGLE RIGHT-POINTING ANGLE QUOTATION MARK", 0x203a), ("REFERENCE MARK", 0x203b),
  ("DOUBLE EXCLAMATION MARK", 0x203c), ("INTERROBANG", 0x203d), ("OVERLINE", 0x203e),
  ("UNDERTIE", 0x203f), ("CHARACTER TIE", 0x2040), ("CARET INSERTION POINT", 0x2041),
  ("ASTERISM", 0x2042), ("HYPHEN BULLET", 0x2043), ("FRACTION SLASH", 0x2044),
  ("LEFT SQUARE BRACKET WITH QUILL", 0x2045), ("RIGHT SQUARE BRACKET WITH QUILL", 0x2046),
  ("DOUBLE QUESTION MARK", 0x2047), ("QUESTION EXCLAMATION MARK", 0x2048),
  ("EXCLAMATION QUESTION MARK", 0x2049), ("TIRONIAN SIGN ET", 0x204a),
  ("REVERSED PILCROW SIGN", 0x204b), ("BLACK LEFTWARDS BULLET", 0x204c),
  ("BLACK RIGHTWARDS BULLET", 0x204d), ("LOW ASTERISK", 0x204e), ("REVERSED SEMICOLON", 0x204f),
  ("CLOSE UP", 0x2050), ("TWO ASTERISKS ALIGNED VERTICALLY", 0x2051),
  ("COMMERCIAL MINUS SIGN", 0x2052), ("SWUNG DASH", 0x2053), ("INVERTED UNDERTIE", 0x2054),
  ("FLOWER PUNCTUATION MARK", 0x2055), ("THREE DOT PUNCTUATION", 0x2056),
  ("QUADRUPLE PRIME", 0x2057), ("FOUR DOT PUNCTUATION", 0x2058), ("FIVE DOT PUNCTUATION", 0x2059),
  ("TWO DOT PUNCTUATION", 0x205a), ("FOUR DOT MARK", 0x205b), ("DOTTED CROSS", 0x205c),
  ("TRICOLON", 0x205d), ("VERTICAL FOUR DOTS", 0x205e), ("MEDIUM MATHEMATICAL SPACE", 0x205f),
  ("EURO-CURRENCY SIGN", 0x20a0), ("COLON SIGN", 0x20a1), ("CRUZEIRO SIGN", 0x20a2),
  ("FRENCH FRANC SIGN", 0x20a3), ("LIRA SIGN", 0x20a4), ("MILL SIGN", 0x20a5),
  ("NAIRA SIGN", 0x20a6), ("PESETA SIGN", 0x20a7), ("RUPEE SIGN", 0x20a8), ("WON SIGN", 0x20a9),
  ("NEW SHEQEL SIGN", 0x20aa), ("DONG SIGN", 0x20ab), ("EURO SIGN", 0x20ac), ("KIP SIGN", 0x20ad),
  ("TUGRIK SIGN", 0x20ae), ("DRACHMA SIGN", 0x20af), ("GERMAN PENNY SIGN", 0x20b0),
  ("PESO SIGN", 0x20b1), ("GUARANI SIGN", 0x20b2), ("AUSTRAL SIGN", 0x20b3),
  ("HRYVNIA SIGN", 0x20b4), ("CEDI SIGN", 0x20b5), ("LIVRE TOURNOIS SIGN", 0x20b6),
  ("SPESMILO SIGN", 0x20b7), ("TENGE SIGN", 0x20b8), ("INDIAN RUPEE SIGN", 0x20b9),
  ("TURKISH LIRA SIGN", 0x20ba), ("NORDIC MARK SIGN", 0x20bb), ("MANAT SIGN", 0x20bc),
  ("RUBLE SIGN", 0x20bd), ("LARI SIGN", 0x20be), ("BITCOIN SIGN", 0x20bf), ("SOM SIGN", 0x20c0),
  ("DEGREE CELSIUS", 0x2103), ("NUMERO SIGN", 0x2116), ("TRADE MARK SIGN", 0x2122),
  ("OHM SIGN", 0x2126), ("KELVIN SIGN", 0x212a), ("ANGSTROM SIGN", 0x212b),
  ("IDEOGRAPHIC SPACE", 0x3000), ("ZERO WIDTH NO-BREAK SPACE", 0xfeff),
  ("REPLACEMENT CHARACTER", 0xfffd)]

/-- Arrows, mathematical signs and geometric shapes. -/
def symbolNames : List (String × Nat) := [
  ("LEFTWARDS ARROW", 0x2190), ("UPWARDS ARROW", 0x2191), ("RIGHTWARDS ARROW", 0x2192),
  ("DOWNWARDS ARROW", 0x2193), ("LEFT RIGHT ARROW", 0x2194), ("UP DOWN ARROW", 0x2195),
  ("NORTH WEST ARROW", 0x2196), ("NORTH EAST ARROW", 0x2197), ("SOUTH EAST ARROW", 0x2198),
  ("SOUTH WEST ARROW", 0x2199), ("LEFTWARDS ARROW WITH STROKE", 0x219a),
  ("RIGHTWARDS ARROW WITH STROKE", 0x219b), ("LEFTWARDS WAVE ARROW", 0x219c),
  ("RIGHTWARDS WAVE ARROW", 0x219d), ("LEFTWARDS TWO HEADED ARROW", 0x219e),
  ("UPWARDS TWO HEADED ARROW", 0x219f), ("RIGHTWARDS TWO HEADED ARROW", 0x21a0),
  ("DOWNWARDS TWO HEADED ARROW", 0x21a1), ("LEFTWARDS ARROW WITH TAIL", 0x21a2),
  ("RIGHTWARDS ARROW WITH TAIL", 0x21a3), ("LEFTWARDS ARROW FROM BAR", 0x21a4),
  ("UPWARDS ARROW FROM BAR", 0x21a5), ("RIGHTWARDS ARROW FROM BAR", 0x21a6),
  ("DOWNWARDS ARROW FROM BAR", 0x21a7), ("UP DOWN ARROW WITH BASE", 0x21a8),
  ("LEFTWARDS ARROW WITH HOOK", 0x21a9), ("RIGHTWARDS ARROW WITH HOOK", 0x21aa),
  ("LEFTWARDS ARROW WITH LOOP", 0x21ab), ("RIGHTWARDS ARROW WITH LOOP", 0x21ac),
  ("LEFT RIGHT WAVE ARROW", 0x21ad), ("LEFT RIGHT ARROW WITH STROKE", 0x21ae),
  ("DOWNWARDS ZIGZAG ARROW", 0x21af), ("UPWARDS ARROW WITH TIP LEFTWARDS", 0x21b0),
  ("UPWARDS ARROW WITH TIP RIGHTWARDS", 0x21b1), ("DOWNWARDS ARROW WITH TIP LEFTWARDS", 0x21b2),
  ("DOWNWARDS ARROW WITH TIP RIGHTWARDS", 0x21b3),
  ("RIGHTWARDS ARROW WITH CORNER DOWNWARDS", 0x21b4),
  ("DOWNWARDS ARROW WITH CORNER LEFTWARDS", 0x21b5), ("ANTICLOCKWISE TOP SEMICIRCLE ARROW", 0x21b6),
  ("CLOCKWISE TOP SEMICIRCLE ARROW", 0x21b7), ("NORTH WEST ARROW TO LONG BAR", 0x21b8),
  ("LEFTWARDS ARROW TO BAR OVER RIGHTWARDS ARROW TO BAR", 0x21b9),
  ("ANTICLOCKWISE OPEN CIRCLE ARROW", 0x21ba), ("CLOCKWISE OPEN CIRCLE ARROW", 0x21bb),
  ("LEFTWARDS HARPOON WITH BARB UPWARDS", 0x21bc),
  ("LEFTWARDS HARPOON WITH BARB DOWNWARDS", 0x21bd),
  ("UPWARDS HARPOON WITH BARB RIGHTWARDS", 0x21be), ("UPWARDS HARPOON WITH BARB LEFTWARDS", 0x21bf),
  ("RIGHTWARDS HARPOON WITH BARB UPWARDS", 0x21c0),
  ("RIGHTWARDS HARPOON WITH BARB DOWNWARDS", 0x21c1),
  ("DOWNWARDS HARPOON WITH BARB RIGHTWARDS", 0x21c2),
  ("DOWNWARDS HARPOON WITH BARB LEFTWARDS", 0x21c3),
  ("RIGHTWARDS ARROW OVER LEFTWARDS ARROW", 0x21c4),
  ("UPWARDS ARROW LEFTWARDS OF DOWNWARDS ARROW", 0x21c5),
  ("LEFTWARDS ARROW OVER RIGHTWARDS ARROW", 0x21c6), ("LEFTWARDS PAIRED ARROWS", 0x21c7),
  ("UPWARDS PAIRED ARROWS", 0x21c8), ("RIGHTWARDS PAIRED ARROWS", 0x21c9),
  ("DOWNWARDS PAIRED ARROWS", 0x21ca), ("LEFTWARDS HARPOON OVER RIGHTWARDS HARPOON", 0x21cb),
  ("RIGHTWARDS HARPOON OVER LEFTWARDS HARPOON", 0x21cc),
  ("LEFTWARDS DOUBLE ARROW WITH STROKE", 0x21cd), ("LEFT RIGHT DOUBLE ARROW WITH STROKE", 0x21ce),
  ("RIGHTWARDS DOUBLE ARROW WITH STROKE", 0x21cf), ("LEFTWARDS DOUBLE ARROW", 0x21d0),
  ("UPWARDS DOUBLE ARROW", 0x21d1), ("RIGHTWARDS DOUBLE ARROW", 0x21d2),
  ("DOWNWARDS DOUBLE ARROW", 0x21d3), ("LEFT RIGHT DOUBLE ARROW", 0x21d4),
  ("UP DOWN DOUBLE ARROW", 0x21d5), ("NORTH WEST DOUBLE ARROW", 0x21d6),
  ("NORTH EAST DOUBLE ARROW", 0x21d7), ("SOUTH EAST DOUBLE ARROW", 0x21d8),
  ("SOUTH WEST DOUBLE ARROW", 0x21d9), ("LEFTWARDS TRIPLE ARROW", 0x21da),
  ("RIGHTWARDS TRIPLE ARROW", 0x21db), ("LEFTWARDS SQUIGGLE ARROW", 0x21dc),
  ("RIGHTWARDS SQUIGGLE ARROW", 0x21dd), ("UPWARDS ARROW WITH DOUBLE STROKE", 0x21de),
  ("DOWNWARDS ARROW WITH DOUBLE STROKE", 0x21df), ("LEFTWARDS DASHED ARROW", 0x21e0),
  ("UPWARDS DASHED ARROW", 0x21e1), ("RIGHTWARDS DASHED ARROW", 0x21e2),
  ("DOWNWARDS DASHED ARROW", 0x21e3), ("LEFTWARDS ARROW TO BAR", 0x21e4),
  ("RIGHTWARDS ARROW TO BAR", 0x21e5), ("LEFTWARDS WHITE ARROW", 0x21e6),
  ("UPWARDS WHITE ARROW", 0x21e7), ("RIGHTWARDS WHITE ARROW", 0x21e8),
  ("DOWNWARDS WHITE ARROW", 0x21e9), ("UPWARDS WHITE ARROW FROM BAR", 0x21ea),
  ("UPWARDS WHITE ARROW ON PEDESTAL", 0x21eb),
  ("UPWARDS WHITE ARROW ON PEDESTAL WITH HORIZONTAL BAR", 0x21ec),
  ("UPWARDS WHITE ARROW ON PEDESTAL WITH VERTICAL BAR", 0x21ed),
  ("UPWARDS WHITE DOUBLE ARROW", 0x21ee), ("UPWARDS WHITE DOUBLE ARROW ON PEDESTAL", 0x21ef),
  ("RIGHTWARDS WHITE ARROW FROM WALL", 0x21f0), ("NORTH WEST ARROW TO CORNER", 0x21f1),
  ("SOUTH EAST ARROW TO CORNER", 0x21f2), ("UP DOWN WHITE ARROW", 0x21f3),
  ("RIGHT ARROW WITH SMALL CIRCLE", 0x21f4), ("DOWNWARDS ARROW LEFTWARDS OF UPWARDS ARROW", 0x21f5),
  ("THREE RIGHTWARDS ARROWS", 0x21f6), ("LEFTWARDS ARROW WITH VERTICAL STROKE", 0x21f7),
  ("RIGHTWARDS ARROW WITH VERTICAL STROKE", 0x21f8),
  ("LEFT RIGHT ARROW WITH VERTICAL STROKE", 0x21f9),
  ("LEFTWARDS ARROW WITH DOUBLE VERTICAL STROKE", 0x21fa),
  ("RIGHTWARDS ARROW WITH DOUBLE VERTICAL STROKE", 0x21fb),
  ("LEFT RIGHT ARROW WITH DOUBLE VERTICAL STROKE", 0x21fc), ("LEFTWARDS OPEN-HEADED ARROW", 0x21fd),
  ("RIGHTWARDS OPEN-HEADED ARROW", 0x21fe), ("LEFT RIGHT OPEN-HEADED ARROW", 0x21ff),
  ("FOR ALL", 0x2200), ("COMPLEMENT", 0x2201), ("PARTIAL DIFFERENTIAL", 0x2202),
  ("THERE EXISTS", 0x2203), ("THERE DOES NOT EXIST", 0x2204), ("EMPTY SET", 0x2205),
  ("INCREMENT", 0x2206), ("NABLA", 0x2207), ("ELEMENT OF", 0x2208), ("NOT AN ELEMENT OF", 0x2209),
  ("SMALL ELEMENT OF", 0x220a), ("CONTAINS AS MEMBER", 0x220b),
  ("DOES NOT CONTAIN AS MEMBER", 0x220c), ("SMALL CONTAINS AS MEMBER", 0x220d),
  ("END OF PROOF", 0x220e), ("N-ARY PRODUCT", 0x220f), ("N-ARY COPRODUCT", 0x2210),
  ("N-ARY SUMMATION", 0x2211), ("MINUS SIGN", 0x2212), ("SQUARE ROOT", 0x221a),
  ("INFINITY", 0x221e), ("ALMOST EQUAL TO", 0x2248), ("NOT EQUAL TO", 0x2260),
  ("IDENTICAL TO", 0x2261), ("LESS-THAN OR EQUAL TO", 0x2264), ("GREATER-THAN OR EQUAL TO", 0x2265),
  ("BLACK SQUARE", 0x25a0), ("WHITE SQUARE", 0x25a1), ("BLACK CIRCLE", 0x25cf),
  ("WHITE CIRCLE", 0x25cb)]

def pictureNames : List (String × Nat) := [
  ("BLACK SUN WITH RAYS", 0x2600), ("CLOUD", 0x2601), ("UMBRELLA", 0x2602), ("SNOWMAN", 0x2603),
  ("COMET", 0x2604), ("BLACK STAR", 0x2605), ("WHITE STAR", 0x2606), ("LIGHTNING", 0x2607),
  ("THUNDERSTORM", 0x2608), ("SUN", 0x2609), ("ASCENDING NODE", 0x260a),
  ("DESCENDING NODE", 0x260b), ("CONJUNCTION", 0x260c), ("OPPOSITION", 0x260d),
  ("BLACK TELEPHONE", 0x260e), ("WHITE TELEPHONE", 0x260f), ("BALLOT BOX", 0x2610),
  ("BALLOT BOX WITH CHECK", 0x2611), ("BALLOT BOX WITH X", 0x2612), ("SALTIRE", 0x2613),
  ("UMBRELLA WITH RAIN DROPS", 0x2614), ("HOT BEVERAGE", 0x2615), ("WHITE SHOGI PIECE", 0x2616),
  ("BLACK SHOGI PIECE", 0x2617), ("SHAMROCK", 0x2618),
  ("REVERSED ROTATED FLORAL HEART BULLET", 0x2619), ("BLACK LEFT POINTING INDEX", 0x261a),
  ("BLACK RIGHT POINTING INDEX", 0x261b), ("WHITE LEFT POINTING INDEX", 0x261c),
  ("WHITE UP POINTING INDEX", 0x261d), ("WHITE RIGHT POINTING INDEX", 0x261e),
  ("WHITE DOWN POINTING INDEX", 0x261f), ("SKULL AND CROSSBONES", 0x2620), ("CAUTION SIGN", 0x2621),
  ("RADIOACTIVE SIGN", 0x2622), ("BIOHAZARD SIGN", 0x2623), ("CADUCEUS", 0x2624), ("ANKH", 0x2625),
  ("ORTHODOX CROSS", 0x2626), ("CHI RHO", 0x2627), ("CROSS OF LORRAINE", 0x2628),
  ("CROSS OF JERUSALEM", 0x2629), ("STAR AND CRESCENT", 0x262a), ("FARSI SYMBOL", 0x262b),
  ("ADI SHAKTI", 0x262c), ("HAMMER AND SICKLE", 0x262d), ("PEACE SYMBOL", 0x262e),
  ("YIN YANG", 0x262f), ("TRIGRAM FOR HEAVEN", 0x2630), ("TRIGRAM FOR LAKE", 0x2631),
  ("TRIGRAM FOR FIRE", 0x2632), ("TRIGRAM FOR THUNDER", 0x2633), ("TRIGRAM FOR WIND", 0x2634),
  ("TRIGRAM FOR WATER", 0x2635), ("TRIGRAM FOR MOUNTAIN", 0x2636), ("TRIGRAM FOR EARTH", 0x2637),
  ("WHEEL OF DHARMA", 0x2638), ("WHITE FROWNING FACE", 0x2639), ("WHITE SMILING FACE", 0x263a),
  ("BLACK SMILING FACE", 0x263b), ("WHITE SUN WITH RAYS", 0x263c), ("FIRST QUARTER MOON", 0x263d),
  ("LAST QUARTER MOON", 0x263e), ("MERCURY", 0x263f), ("FEMALE SIGN", 0x2640), ("EARTH", 0x2641),
  ("MALE SIGN", 0x2642), ("JUPITER", 0x2643), ("SATURN", 0x2644), ("URANUS", 0x2645),
  ("NEPTUNE", 0x2646), ("PLUTO", 0x2647), ("ARIES", 0x2648), ("TAURUS", 0x2649), ("GEMINI", 0x264a),
  ("CANCER", 0x264b), ("LEO", 0x264c), ("VIRGO", 0x264d), ("LIBRA", 0x264e), ("SCORPIUS", 0x264f),
  ("SAGITTARIUS", 0x2650), ("CAPRICORN", 0x2651), ("AQUARIUS", 0x2652), ("PISCES", 0x2653),
  ("WHITE CHESS KING", 0x2654), ("WHITE CHESS QUEEN", 0x2655), ("WHITE CHESS ROOK", 0x2656),
  ("WHITE CHESS BISHOP", 0x2657), ("WHITE CHESS KNIGHT", 0x2658), ("WHITE CHESS PAWN", 0x2659),
  ("BLACK CHESS KING", 0x265a), ("BLACK CHESS QUEEN", 0x265b), ("BLACK CHESS ROOK", 0x265c),
  ("BLACK CHESS BISHOP", 0x265d), ("BLACK CHESS KNIGHT", 0x265e), ("BLACK CHESS PAWN", 0x265f),
  ("BLACK SPADE SUIT", 0x2660), ("WHITE HEART SUIT", 0x2661), ("WHITE DIAMOND SUIT", 0x2662),
  ("BLACK CLUB SUIT", 0x2663), ("WHITE SPADE SUIT", 0x2664), ("BLACK HEART SUIT", 0x2665),
  ("BLACK DIAMOND SUIT", 0x2666), ("WHITE CLUB SUIT", 0x2667), ("HOT SPRINGS", 0x2668),
  ("QUARTER NOTE", 0x2669), ("EIGHTH NOTE", 0x266a), ("BEAMED EIGHTH NOTES", 0x266b),
  ("BEAMED SIXTEENTH NOTES", 0x266c), ("MUSIC FLAT SIGN", 0x266d), ("MUSIC NATURAL SIGN", 0x266e),
  ("MUSIC SHARP SIGN", 0x266f), ("WEST SYRIAC CROSS", 0x2670), ("EAST SYRIAC CROSS", 0x2671),
  ("UNIVERSAL RECYCLING SYMBOL", 0x2672), ("RECYCLING SYMBOL FOR TYPE-1 PLASTICS", 0x2673),
  ("RECYCLING SYMBOL FOR TYPE-2 PLASTICS", 0x2674),
  ("RECYCLING SYMBOL FOR TYPE-3 PLASTICS", 0x2675),
  ("RECYCLING SYMBOL FOR TYPE-4 PLASTICS", 0x2676),
  ("RECYCLING SYMBOL FOR TYPE-5 PLASTICS", 0x2677),
  ("RECYCLING SYMBOL FOR TYPE-6 PLASTICS", 0x2678),
  ("RECYCLING SYMBOL FOR TYPE-7 PLASTICS", 0x2679),
  ("RECYCLING SYMBOL FOR GENERIC MATERIALS", 0x267a), ("BLACK UNIVERSAL RECYCLING SYMBOL", 0x267b),
  ("RECYCLED PAPER SYMBOL", 0x267c), ("PARTIALLY-RECYCLED PAPER SYMBOL", 0x267d),
  ("PERMANENT PAPER SIGN", 0x267e), ("WHEELCHAIR SYMBOL", 0x267f), ("DIE FACE-1", 0x2680),
  ("DIE FACE-2", 0x2681), ("DIE FACE-3", 0x2682), ("DIE FACE-4", 0x2683), ("DIE FACE-5", 0x2684),
  ("DIE FACE-6", 0x2685), ("WHITE CIRCLE WITH DOT RIGHT", 0x2686),
  ("WHITE CIRCLE WITH TWO DOTS", 0x2687), ("BLACK CIRCLE WITH WHITE DOT RIGHT", 0x2688),
  ("BLACK CIRCLE WITH TWO WHITE DOTS", 0x2689), ("MONOGRAM FOR YANG", 0x268a),
  ("MONOGRAM FOR YIN", 0x268b), ("DIGRAM FOR GREATER YANG", 0x268c),
  ("DIGRAM FOR LESSER YIN", 0x268d), ("DIGRAM FOR LESSER YANG", 0x268e),
  ("DIGRAM FOR GREATER YIN", 0x268f), ("WHITE FLAG", 0x2690), ("BLACK FLAG", 0x2691),
  ("HAMMER AND PICK", 0x2692), ("ANCHOR", 0x2693), ("CROSSED SWORDS", 0x2694),
  ("STAFF OF AESCULAPIUS", 0x2695), ("SCALES", 0x2696), ("ALEMBIC", 0x2697), ("FLOWER", 0x2698),
  ("GEAR", 0x2699), ("STAFF OF HERMES", 0x269a), ("ATOM SYMBOL", 0x269b), ("FLEUR-DE-LIS", 0x269c),
  ("OUTLINED WHITE STAR", 0x269d), ("THREE LINES CONVERGING RIGHT", 0x269e),
  ("THREE LINES CONVERGING LEFT", 0x269f), ("WARNING SIGN", 0x26a0), ("HIGH VOLTAGE SIGN", 0x26a1),
  ("DOUBLED FEMALE SIGN", 0x26a2), ("DOUBLED MALE SIGN", 0x26a3),
  ("INTERLOCKED FEMALE AND MALE SIGN", 0x26a4), ("MALE AND FEMALE SIGN", 0x26a5),
  ("MALE WITH STROKE SIGN", 0x26a6), ("MALE WITH STROKE AND MALE AND FEMALE SIGN", 0x26a7),
  ("VERTICAL MALE WITH STROKE SIGN", 0x26a8), ("HORIZONTAL MALE WITH STROKE SIGN", 0x26a9),
  ("MEDIUM WHITE CIRCLE", 0x26aa), ("MEDIUM BLACK CIRCLE", 0x26ab),
  ("MEDIUM SMALL WHITE CIRCLE", 0x26ac), ("MARRIAGE SYMBOL", 0x26ad), ("DIVORCE SYMBOL", 0x26ae),
  ("UNMARRIED PARTNERSHIP SYMBOL", 0x26af), ("COFFIN", 0x26b0), ("FUNERAL URN", 0x26b1),
  ("NEUTER", 0x26b2), ("CERES", 0x26b3), ("PALLAS", 0x26b4), ("JUNO", 0x26b5), ("VESTA", 0x26b6),
  ("CHIRON", 0x26b7), ("BLACK MOON LILITH", 0x26b8), ("SEXTILE", 0x26b9), ("SEMISEXTILE", 0x26ba),
  ("QUINCUNX", 0x26bb), ("SESQUIQUADRATE", 0x26bc), ("SOCCER BALL", 0x26bd), ("BASEBALL", 0x26be),
  ("SQUARED KEY", 0x26bf), ("WHITE DRAUGHTS MAN", 0x26c0), ("WHITE DRAUGHTS KING", 0x26c1),
  ("BLACK DRAUGHTS MAN", 0x26c2), ("BLACK DRAUGHTS KING", 0x26c3), ("SNOWMAN WITHOUT SNOW", 0x26c4),
  ("SUN BEHIND CLOUD", 0x26c5), ("RAIN", 0x26c6), ("BLACK SNOWMAN", 0x26c7),
  ("THUNDER CLOUD AND RAIN", 0x26c8), ("TURNED WHITE SHOGI PIECE", 0x26c9),
  ("TURNED BLACK SHOGI PIECE", 0x26ca), ("WHITE DIAMOND IN SQUARE", 0x26cb),
  ("CROSSING LANES", 0x26cc), ("DISABLED CAR", 0x26cd), ("OPHIUCHUS", 0x26ce), ("PICK", 0x26cf),
  ("CAR SLIDING", 0x26d0), ("HELMET WITH WHITE CROSS", 0x26d1), ("CIRCLED CROSSING LANES", 0x26d2),
  ("CHAINS", 0x26d3), ("NO ENTRY", 0x26d4), ("ALTERNATE ONE-WAY LEFT WAY TRAFFIC", 0x26d5),
  ("BLACK TWO-WAY LEFT WAY TRAFFIC", 0x26d6), ("WHITE TWO-WAY LEFT WAY TRAFFIC", 0x26d7),
  ("BLACK LEFT LANE MERGE", 0x26d8), ("WHITE LEFT LANE MERGE", 0x26d9), ("DRIVE SLOW SIGN", 0x26da),
  ("HEAVY WHITE DOWN-POINTING TRIANGLE", 0x26db), ("LEFT CLOSED ENTRY", 0x26dc),
  ("SQUARED SALTIRE", 0x26dd), ("FALLING DIAGONAL IN WHITE CIRCLE IN BLACK SQUARE", 0x26de),
  ("BLACK TRUCK", 0x26df), ("RESTRICTED LEFT ENTRY-1", 0x26e0), ("RESTRICTED LEFT ENTRY-2", 0x26e1),
  ("ASTRONOMICAL SYMBOL FOR URANUS", 0x26e2),
  ("HEAVY CIRCLE WITH STROKE AND TWO DOTS ABOVE", 0x26e3), ("PENTAGRAM", 0x26e4),
  ("RIGHT-HANDED INTERLACED PENTAGRAM", 0x26e5), ("LEFT-HANDED INTERLACED PENTAGRAM", 0x26e6),
  ("INVERTED PENTAGRAM", 0x26e7), ("BLACK CROSS ON SHIELD", 0x26e8), ("SHINTO SHRINE", 0x26e9),
  ("CHURCH", 0x26ea), ("CASTLE", 0x26eb), ("HISTORIC SITE", 0x26ec), ("GEAR WITHOUT HUB", 0x26ed),
  ("GEAR WITH HANDLES", 0x26ee), ("MAP SYMBOL FOR LIGHTHOUSE", 0x26ef), ("MOUNTAIN", 0x26f0),
  ("UMBRELLA ON GROUND", 0x26f1), ("FOUNTAIN", 0x26f2), ("FLAG IN HOLE", 0x26f3), ("FERRY", 0x26f4),
  ("SAILBOAT", 0x26f5), ("SQUARE FOUR CORNERS", 0x26f6), ("SKIER", 0x26f7), ("ICE SKATE", 0x26f8),
  ("PERSON WITH BALL", 0x26f9), ("TENT", 0x26fa), ("JAPANESE BANK SYMBOL", 0x26fb),
  ("HEADSTONE GRAVEYARD SYMBOL", 0x26fc), ("FUEL PUMP", 0x26fd), ("CUP ON BLACK SQUARE", 0x26fe),
  ("WHITE FLAG WITH HORIZONTAL MIDDLE BLACK STRIPE", 0x26ff), ("BLACK SAFETY SCISSORS", 0x2700),
  ("UPPER BLADE SCISSORS", 0x2701), ("BLACK SCISSORS", 0x2702), ("LOWER BLADE SCISSORS", 0x2703),
  ("WHITE SCISSORS", 0x2704), ("WHITE HEAVY CHECK MARK", 0x2705),
  ("TELEPHONE LOCATION SIGN", 0x2706), ("TAPE DRIVE", 0x2707), ("AIRPLANE", 0x2708),
  ("ENVELOPE", 0x2709), ("RAISED FIST", 0x270a), ("RAISED HAND", 0x270b), ("VICTORY HAND", 0x270c),
  ("WRITING HAND", 0x270d), ("LOWER RIGHT PENCIL", 0x270e), ("PENCIL", 0x270f),
  ("UPPER RIGHT PENCIL", 0x2710), ("WHITE NIB", 0x2711), ("BLACK NIB", 0x2712),
  ("CHECK MARK", 0x2713), ("HEAVY CHECK MARK", 0x2714), ("MULTIPLICATION X", 0x2715),
  ("HEAVY MULTIPLICATION X", 0x2716), ("BALLOT X", 0x2717), ("HEAVY BALLOT X", 0x2718),
  ("OUTLINED GREEK CROSS", 0x2719), ("HEAVY GREEK CROSS", 0x271a), ("OPEN CENTRE CROSS", 0x271b),
  ("HEAVY OPEN CENTRE CROSS", 0x271c), ("LATIN CROSS", 0x271d),
  ("SHADOWED WHITE LATIN CROSS", 0x271e), ("OUTLINED LATIN CROSS", 0x271f),
  ("MALTESE CROSS", 0x2720), ("STAR OF DAVID", 0x2721), ("FOUR TEARDROP-SPOKED ASTERISK", 0x2722),
  ("FOUR BALLOON-SPOKED ASTERISK", 0x2723), ("HEAVY FOUR BALLOON-SPOKED ASTERISK", 0x2724),
  ("FOUR CLUB-SPOKED ASTERISK", 0x2725), ("BLACK FOUR POINTED STAR", 0x2726),
  ("WHITE FOUR POINTED STAR", 0x2727), ("SPARKLES", 0x2728), ("STRESS OUTLINED WHITE STAR", 0x2729),
  ("CIRCLED WHITE STAR", 0x272a), ("OPEN CENTRE BLACK STAR", 0x272b),
  ("BLACK CENTRE WHITE STAR", 0x272c), ("OUTLINED BLACK STAR", 0x272d),
  ("HEAVY OUTLINED BLACK STAR", 0x272e), ("PINWHEEL STAR", 0x272f), ("SHADOWED WHITE STAR", 0x2730),
  ("HEAVY ASTERISK", 0x2731), ("OPEN CENTRE ASTERISK", 0x2732), ("EIGHT SPOKED ASTERISK", 0x2733),
  ("EIGHT POINTED BLACK STAR", 0x2734), ("EIGHT POINTED PINWHEEL STAR", 0x2735),
  ("SIX POINTED BLACK STAR", 0x2736), ("EIGHT POINTED RECTILINEAR BLACK STAR", 0x2737),
  ("HEAVY EIGHT POINTED RECTILINEAR BLACK STAR", 0x2738), ("TWELVE POINTED BLACK STAR", 0x2739),
  ("SIXTEEN POINTED ASTERISK", 0x273a), ("TEARDROP-SPOKED ASTERISK", 0x273b),
  ("OPEN CENTRE TEARDROP-SPOKED ASTERISK", 0x273c), ("HEAVY TEARDROP-SPOKED ASTERISK", 0x273d),
  ("SIX PETALLED BLACK AND WHITE FLORETTE", 0x273e), ("BLACK FLORETTE", 0x273f),
  ("WHITE FLORETTE", 0x2740), ("EIGHT PETALLED OUTLINED BLACK FLORETTE", 0x2741),
  ("CIRCLED OPEN CENTRE EIGHT POINTED STAR", 0x2742),
  ("HEAVY TEARDROP-SPOKED PINWHEEL ASTERISK", 0x2743), ("SNOWFLAKE", 0x2744),
  ("TIGHT TRIFOLIATE SNOWFLAKE", 0x2745), ("HEAVY CHEVRON SNOWFLAKE", 0x2746), ("SPARKLE", 0x2747),
  ("HEAVY SPARKLE", 0x2748), ("BALLOON-SPOKED ASTERISK", 0x2749),
  ("EIGHT TEARDROP-SPOKED PROPELLER ASTERISK", 0x274a),
  ("HEAVY EIGHT TEARDROP-SPOKED PROPELLER ASTERISK", 0x274b), ("CROSS MARK", 0x274c),
  ("SHADOWED WHITE CIRCLE", 0x274d), ("NEGATIVE SQUARED CROSS MARK", 0x274e),
  ("LOWER RIGHT DROP-SHADOWED WHITE SQUARE", 0x274f),
  ("UPPER RIGHT DROP-SHADOWED WHITE SQUARE", 0x2750), ("LOWER RIGHT SHADOWED WHITE SQUARE", 0x2751),
  ("UPPER RIGHT SHADOWED WHITE SQUARE", 0x2752), ("BLACK QUESTION MARK ORNAMENT", 0x2753),
  ("WHITE QUESTION MARK ORNAMENT", 0x2754), ("WHITE EXCLAMATION MARK ORNAMENT", 0x2755),
  ("BLACK DIAMOND MINUS WHITE X", 0x2756), ("HEAVY EXCLAMATION MARK SYMBOL", 0x2757),
  ("LIGHT VERTICAL BAR", 0x2758), ("MEDIUM VERTICAL BAR", 0x2759), ("HEAVY VERTICAL BAR", 0x275a),
  ("HEAVY SINGLE TURNED COMMA QUOTATION MARK ORNAMENT", 0x275b),
  ("HEAVY SINGLE COMMA QUOTATION MARK ORNAMENT", 0x275c),
  ("HEAVY DOUBLE TURNED COMMA QUOTATION MARK ORNAMENT", 0x275d),
  ("HEAVY DOUBLE COMMA QUOTATION MARK ORNAMENT", 0x275e),
  ("HEAVY LOW SINGLE COMMA QUOTATION MARK ORNAMENT", 0x275f),
  ("HEAVY LOW DOUBLE COMMA QUOTATION MARK ORNAMENT", 0x2760),
  ("CURVED STEM PARAGRAPH SIGN ORNAMENT", 0x2761), ("HEAVY EXCLAMATION MARK ORNAMENT", 0x2762),
  ("HEAVY HEART EXCLAMATION MARK ORNAMENT", 0x2763), ("HEAVY BLACK HEART", 0x2764),
  ("ROTATED HEAVY BLACK HEART BULLET", 0x2765), ("FLORAL HEART", 0x2766),
  ("ROTATED FLORAL HEART BULLET", 0x2767), ("MEDIUM LEFT PARENTHESIS ORNAMENT", 0x2768),
  ("MEDIUM RIGHT PARENTHESIS ORNAMENT", 0x2769),
  ("MEDIUM FLATTENED LEFT PARENTHESIS ORNAMENT", 0x276a),
  ("MEDIUM FLATTENED RIGHT PARENTHESIS ORNAMENT", 0x276b),
  ("MEDIUM LEFT-POINTING ANGLE BRACKET ORNAMENT", 0x276c),
  ("MEDIUM RIGHT-POINTING ANGLE BRACKET ORNAMENT", 0x276d),
  ("HEAVY LEFT-POINTING ANGLE QUOTATION MARK ORNAMENT", 0x276e),
  ("HEAVY RIGHT-POINTING ANGLE QUOTATION MARK ORNAMENT", 0x276f),
  ("HEAVY LEFT-POINTING ANGLE BRACKET ORNAMENT", 0x2770),
  ("HEAVY RIGHT-POINTING ANGLE BRACKET ORNAMENT", 0x2771),
  ("LIGHT LEFT TORTOISE SHELL BRACKET ORNAMENT", 0x2772),
  ("LIGHT RIGHT TORTOISE SHELL BRACKET ORNAMENT", 0x2773),
  ("MEDIUM LEFT CURLY BRACKET ORNAMENT", 0x2774), ("MEDIUM RIGHT CURLY BRACKET ORNAMENT", 0x2775),
  ("DINGBAT NEGATIVE CIRCLED DIGIT ONE", 0x2776), ("DINGBAT NEGATIVE CIRCLED DIGIT TWO", 0x2777),
  ("DINGBAT NEGATIVE CIRCLED DIGIT THREE", 0x2778), ("DINGBAT NEGATIVE CIRCLED DIGIT FOUR", 0x2779),
  ("DINGBAT NEGATIVE CIRCLED DIGIT FIVE", 0x277a), ("DINGBAT NEGATIVE CIRCLED DIGIT SIX", 0x277b),
  ("DINGBAT NEGATIVE CIRCLED DIGIT SEVEN", 0x277c),
  ("DINGBAT NEGATIVE CIRCLED DIGIT EIGHT", 0x277d), ("DINGBAT NEGATIVE CIRCLED DIGIT NINE", 0x277e),
  ("DINGBAT NEGATIVE CIRCLED NUMBER TEN", 0x277f), ("DINGBAT CIRCLED SANS-SERIF DIGIT ONE", 0x2780),
  ("DINGBAT CIRCLED SANS-SERIF DIGIT TWO", 0x2781),
  ("DINGBAT CIRCLED SANS-SERIF DIGIT THREE", 0x2782),
  ("DINGBAT CIRCLED SANS-SERIF DIGIT FOUR", 0x2783),
  ("DINGBAT CIRCLED SANS-SERIF DIGIT FIVE", 0x2784),
  ("DINGBAT CIRCLED SANS-SERIF DIGIT SIX", 0x2785),
  ("DINGBAT CIRCLED SANS-SERIF DIGIT SEVEN", 0x2786),
  ("DINGBAT CIRCLED SANS-SERIF DIGIT EIGHT", 0x2787),
  ("DINGBAT CIRCLED SANS-SERIF DIGIT NINE", 0x2788),
  ("DINGBAT CIRCLED SANS-SERIF NUMBER TEN", 0x2789),
  ("DINGBAT NEGATIVE CIRCLED SANS-SERIF DIGIT ONE", 0x278a),
  ("DINGBAT NEGATIVE CIRCLED SANS-SERIF DIGIT TWO", 0x278b),
  ("DINGBAT NEGATIVE CIRCLED SANS-SERIF DIGIT THREE", 0x278c),
  ("DINGBAT NEGATIVE CIRCLED SANS-SERIF DIGIT FOUR", 0x278d),
  ("DINGBAT NEGATIVE CIRCLED SANS-SERIF DIGIT FIVE", 0x278e),
  ("DINGBAT NEGATIVE CIRCLED SANS-SERIF DIGIT SIX", 0x278f),
  ("DINGBAT NEGATIVE CIRCLED SANS-SERIF DIGIT SEVEN", 0x2790),
  ("DINGBAT NEGATIVE CIRCLED SANS-SERIF DIGIT EIGHT", 0x2791),
  ("DINGBAT NEGATIVE CIRCLED SANS-SERIF DIGIT NINE", 0x2792),
  ("DINGBAT NEGATIVE CIRCLED SANS-SERIF NUMBER TEN", 0x2793),
  ("HEAVY WIDE-HEADED RIGHTWARDS ARROW", 0x2794), ("HEAVY PLUS SIGN", 0x2795),
  ("HEAVY MINUS SIGN", 0x2796), ("HEAVY DIVISION SIGN", 0x2797), ("HEAVY SOUTH EAST ARROW", 0x2798),
  ("HEAVY RIGHTWARDS ARROW", 0x2799), ("HEAVY NORTH EAST ARROW", 0x279a),
  ("DRAFTING POINT RIGHTWARDS ARROW", 0x279b), ("HEAVY ROUND-TIPPED RIGHTWARDS ARROW", 0x279c),
  ("TRIANGLE-HEADED RIGHTWARDS ARROW", 0x279d), ("HEAVY TRIANGLE-HEADED RIGHTWARDS ARROW", 0x279e),
  ("DASHED TRIANGLE-HEADED RIGHTWARDS ARROW", 0x279f),
  ("HEAVY DASHED TRIANGLE-HEADED RIGHTWARDS ARROW", 0x27a0), ("BLACK RIGHTWARDS ARROW", 0x27a1),
  ("THREE-D TOP-LIGHTED RIGHTWARDS ARROWHEAD", 0x27a2),
  ("THREE-D BOTTOM-LIGHTED RIGHTWARDS ARROWHEAD", 0x27a3), ("BLACK RIGHTWARDS ARROWHEAD", 0x27a4),
  ("HEAVY BLACK CURVED DOWNWARDS AND RIGHTWARDS ARROW", 0x27a5),
  ("HEAVY BLACK CURVED UPWARDS AND RIGHTWARDS ARROW", 0x27a6),
  ("SQUAT BLACK RIGHTWARDS ARROW", 0x27a7),
  ("HEAVY CONCAVE-POINTED BLACK RIGHTWARDS ARROW", 0x27a8),
  ("RIGHT-SHADED WHITE RIGHTWARDS ARROW", 0x27a9), ("LEFT-SHADED WHITE RIGHTWARDS ARROW", 0x27aa),
  ("BACK-TILTED SHADOWED WHITE RIGHTWARDS ARROW", 0x27ab),
  ("FRONT-TILTED SHADOWED WHITE RIGHTWARDS ARROW", 0x27ac),
  ("HEAVY LOWER RIGHT-SHADOWED WHITE RIGHTWARDS ARROW", 0x27ad),
  ("HEAVY UPPER RIGHT-SHADOWED WHITE RIGHTWARDS ARROW", 0x27ae),
  ("NOTCHED LOWER RIGHT-SHADOWED WHITE RIGHTWARDS ARROW", 0x27af), ("CURLY LOOP", 0x27b0),
  ("NOTCHED UPPER RIGHT-SHADOWED WHITE RIGHTWARDS ARROW", 0x27b1),
  ("CIRCLED HEAVY WHITE RIGHTWARDS ARROW", 0x27b2), ("WHITE-FEATHERED RIGHTWARDS ARROW", 0x27b3),
  ("BLACK-FEATHERED SOUTH EAST ARROW", 0x27b4), ("BLACK-FEATHERED RIGHTWARDS ARROW", 0x27b5),
  ("BLACK-FEATHERED NORTH EAST ARROW", 0x27b6), ("HEAVY BLACK-FEATHERED SOUTH EAST ARROW", 0x27b7),
  ("HEAVY BLACK-FEATHERED RIGHTWARDS ARROW", 0x27b8),
  ("HEAVY BLACK-FEATHERED NORTH EAST ARROW", 0x27b9), ("TEARDROP-BARBED RIGHTWARDS ARROW", 0x27ba),
  ("HEAVY TEARDROP-SHANKED RIGHTWARDS ARROW", 0x27bb), ("WEDGE-TAILED RIGHTWARDS ARROW", 0x27bc),
  ("HEAVY WEDGE-TAILED RIGHTWARDS ARROW", 0x27bd), ("OPEN-OUTLINED RIGHTWARDS ARROW", 0x27be),
  ("DOUBLE CURLY LOOP", 0x27bf), ("SNAKE", 0x1f40d), ("THUMBS UP SIGN", 0x1f44d),
  ("PARTY POPPER", 0x1f389), ("PILE OF POO", 0x1f4a9), ("GRINNING FACE", 0x1f600),
  ("GRINNING FACE WITH SMILING EYES", 0x1f601), ("FACE WITH TEARS OF JOY", 0x1f602),
  ("SMILING FACE WITH OPEN MOUTH", 0x1f603),
  ("SMILING FACE WITH OPEN MOUTH AND SMILING EYES", 0x1f604),
  ("SMILING FACE WITH OPEN MOUTH AND COLD SWEAT", 0x1f605),
  ("SMILING FACE WITH OPEN MOUTH AND TIGHTLY-CLOSED EYES", 0x1f606),
  ("SMILING FACE WITH HALO", 0x1f607), ("SMILING FACE WITH HORNS", 0x1f608),
  ("WINKING FACE", 0x1f609), ("SMILING FACE WITH SMILING EYES", 0x1f60a),
  ("FACE SAVOURING DELICIOUS FOOD", 0x1f60b), ("RELIEVED FACE", 0x1f60c),
  ("SMILING FACE WITH HEART-SHAPED EYES", 0x1f60d), ("SMILING FACE WITH SUNGLASSES", 0x1f60e),
  ("SMIRKING FACE", 0x1f60f), ("NEUTRAL FACE", 0x1f610), ("EXPRESSIONLESS FACE", 0x1f611),
  ("UNAMUSED FACE", 0x1f612), ("FACE WITH COLD SWEAT", 0x1f613), ("PENSIVE FACE", 0x1f614),
  ("CONFUSED FACE", 0x1f615), ("CONFOUNDED FACE", 0x1f616), ("KISSING FACE", 0x1f617),
  ("FACE THROWING A KISS", 0x1f618), ("KISSING FACE WITH SMILING EYES", 0x1f619),
  ("KISSING FACE WITH CLOSED EYES", 0x1f61a), ("FACE WITH STUCK-OUT TONGUE", 0x1f61b),
  ("FACE WITH STUCK-OUT TONGUE AND WINKING EYE", 0x1f61c),
  ("FACE WITH STUCK-OUT TONGUE AND TIGHTLY-CLOSED EYES", 0x1f61d), ("DISAPPOINTED FACE", 0x1f61e),
  ("WORRIED FACE", 0x1f61f), ("ANGRY FACE", 0x1f620), ("POUTING FACE", 0x1f621),
  ("CRYING FACE", 0x1f622), ("PERSEVERING FACE", 0x1f623), ("FACE WITH LOOK OF TRIUMPH", 0x1f624),
  ("DISAPPOINTED BUT RELIEVED FACE", 0x1f625), ("FROWNING FACE WITH OPEN MOUTH", 0x1f626),
  ("ANGUISHED FACE", 0x1f627), ("FEARFUL FACE", 0x1f628), ("WEARY FACE", 0x1f629),
  ("SLEEPY FACE", 0x1f62a), ("TIRED FACE", 0x1f62b), ("GRIMACING FACE", 0x1f62c),
  ("LOUDLY CRYING FACE", 0x1f62d), ("FACE WITH OPEN MOUTH", 0x1f62e), ("HUSHED FACE", 0x1f62f),
  ("FACE WITH OPEN MOUTH AND COLD SWEAT", 0x1f630), ("FACE SCREAMING IN FEAR", 0x1f631),
  ("ASTONISHED FACE", 0x1f632), ("FLUSHED FACE", 0x1f633), ("SLEEPING FACE", 0x1f634),
  ("DIZZY FACE", 0x1f635), ("FACE WITHOUT MOUTH", 0x1f636), ("FACE WITH MEDICAL MASK", 0x1f637),
  ("GRINNING CAT FACE WITH SMILING EYES", 0x1f638), ("CAT FACE WITH TEARS OF JOY", 0x1f639),
  ("SMILING CAT FACE WITH OPEN MOUTH", 0x1f63a),
  ("SMILING CAT FACE WITH HEART-SHAPED EYES", 0x1f63b), ("CAT FACE WITH WRY SMILE", 0x1f63c),
  ("KISSING CAT FACE WITH CLOSED EYES", 0x1f63d), ("POUTING CAT FACE", 0x1f63e),
  ("CRYING CAT FACE", 0x1f63f), ("WEARY CAT FACE", 0x1f640), ("SLIGHTLY FROWNING FACE", 0x1f641),
  ("SLIGHTLY SMILING FACE", 0x1f642), ("UPSIDE-DOWN FACE", 0x1f643),
  ("FACE WITH ROLLING EYES", 0x1f644), ("FACE WITH NO GOOD GESTURE", 0x1f645),
  ("FACE WITH OK GESTURE", 0x1f646), ("PERSON BOWING DEEPLY", 0x1f647),
  ("SEE-NO-EVIL MONKEY", 0x1f648), ("HEAR-NO-EVIL MONKEY", 0x1f649),
  ("SPEAK-NO-EVIL MONKEY", 0x1f64a), ("HAPPY PERSON RAISING ONE HAND", 0x1f64b),
  ("PERSON RAISING BOTH HANDS IN CELEBRATION", 0x1f64c), ("PERSON FROWNING", 0x1f64d),
  ("PERSON WITH POUTING FACE", 0x1f64e), ("PERSON WITH FOLDED HANDS", 0x1f64f)]

def controlNames : List (String × Nat) := [
  ("NULL", 0x0), ("NUL", 0x0), ("START OF HEADING", 0x1), ("SOH", 0x1), ("START OF TEXT", 0x2),
  ("STX", 0x2), ("END OF TEXT", 0x3), ("ETX", 0x3), ("END OF TRANSMISSION", 0x4), ("EOT", 0x4),
  ("ENQUIRY", 0x5), ("ENQ", 0x5), ("ACKNOWLEDGE", 0x6), ("ACK", 0x6), ("ALERT", 0x7), ("BEL", 0x7),
  ("BACKSPACE", 0x8), ("BS", 0x8), ("CHARACTER TABULATION", 0x9), ("HORIZONTAL TABULATION", 0x9),
  ("HT", 0x9), ("TAB", 0x9), ("LINE FEED", 0xa), ("NEW LINE", 0xa), ("END OF LINE", 0xa),
  ("LF", 0xa), ("NL", 0xa), ("EOL", 0xa), ("LINE TABULATION", 0xb), ("VERTICAL TABULATION", 0xb),
  ("VT", 0xb), ("FORM FEED", 0xc), ("FF", 0xc), ("CARRIAGE RETURN", 0xd), ("CR", 0xd),
  ("SHIFT OUT", 0xe), ("LOCKING-SHIFT ONE", 0xe), ("SO", 0xe), ("SHIFT IN", 0xf),
  ("LOCKING-SHIFT ZERO", 0xf), ("SI", 0xf), ("ESCAPE", 0x1b), ("ESC", 0x1b),
  ("INFORMATION SEPARATOR FOUR", 0x1c), ("FILE SEPARATOR", 0x1c), ("FS", 0x1c),
  ("INFORMATION SEPARATOR THREE", 0x1d), ("GROUP SEPARATOR", 0x1d), ("GS", 0x1d),
  ("INFORMATION SEPARATOR TWO", 0x1e), ("RECORD SEPARATOR", 0x1e), ("RS", 0x1e),
  ("INFORMATION SEPARATOR ONE", 0x1f), ("UNIT SEPARATOR", 0x1f), ("US", 0x1f), ("DELETE", 0x7f),
  ("DEL", 0x7f), ("NEXT LINE", 0x85), ("NEL", 0x85), ("SP", 0x20), ("NBSP", 0xa0), ("SHY", 0xad),
  ("ZWSP", 0x200b), ("ZWNJ", 0x200c), ("ZWJ", 0x200d), ("BYTE ORDER MARK", 0xfeff), ("BOM", 0xfeff),
  ("ZWNBSP", 0xfeff)]

def characterNames : List (String × Nat) :=
  latinNames ++ greekNames ++ punctuationNames ++ symbolNames ++ pictureNames ++ controlNames

/-- The code point of the character with a name, in any case. -/
def characterNamed? (name : String) : Option Nat :=
  let capitals := name.toUpper
  (characterNames.find? fun entry => entry.1 == capitals).map Prod.snd

theorem mem_of_characterNamed? {name : String} {code : Nat} (h : characterNamed? name = some code) :
    (name.toUpper, code) ∈ characterNames := by
  obtain ⟨entry, he, rfl⟩ := Option.map_eq_some_iff.1 h
  have hn := List.find?_some he
  rw [← eq_of_beq hn]
  exact List.mem_of_find?_eq_some he

end FormStudio
