import ShadowLint.Text.Ranges

/-!
Characters by their names. Syllables of Hangul and unified ideographs are named by
rule. Of the other characters only those below U+0530 and those from U+2000 to
U+22FF are known by name, and by their aliases if they have some.
-/

namespace ShadowLint.Text

/-! ## Names by rule -/

def syllableParts : List (List String) := [
  ["G", "GG", "N", "D", "DD", "R", "M", "B", "BB", "S", "SS", "", "J", "JJ", "C", "K", "T", "P",
    "H"],
  ["A", "AE", "YA", "YAE", "EO", "E", "YEO", "YE", "O", "WA", "WAE", "OE", "YO", "U", "WEO", "WE",
    "WI", "YU", "EU", "YI", "I"],
  ["", "G", "GG", "GS", "N", "NJ", "NH", "D", "L", "LG", "LM", "LB", "LS", "LT", "LP", "LH", "M",
    "B", "BS", "S", "SS", "NG", "J", "C", "K", "T", "P", "H"]]

def longestPart? (parts : List String) (text : List Char) : Option (Nat × Nat) :=
  parts.zipIdx.foldl (fun longest (part, place) =>
    if part.toList.isPrefixOf text && longest.all (·.2 < part.length) then
      some (place, part.length)
    else longest) none

/-- The number of a syllable among all of them, from the parts still to come. -/
def syllableFrom (number : Nat) : (parts : List (List String)) → List Char → Option Nat
  | [], rest => if rest.isEmpty then some number else none
  | parts :: later, text =>
    match longestPart? parts text with
    | none => none
    | some (place, length) =>
      syllableFrom (number * parts.length + place) later (text.drop length)

def ideographRanges : List (Nat × Nat) := [
  (0x3400, 0x4DBF), (0x4E00, 0x9FFF), (0x20000, 0x2A6DF), (0x2A700, 0x2B738),
  (0x2B740, 0x2B81D), (0x2B820, 0x2CEA1), (0x2CEB0, 0x2EBE0), (0x30000, 0x3134A)]

def isCapitalHex (char : Char) : Bool := char.isDigit || ('A' ≤ char && char ≤ 'F')

def ideograph? (digits : List Char) : Option Nat :=
  let code := digits.foldl (fun value digit =>
    16 * value + (digit.toNat - if digit.isDigit then 48 else 55)) 0
  if (digits.length = 4 || digits.length = 5) && digits.all isCapitalHex &&
      inRanges ideographRanges code then
    some code
  else none

/-! ## Listed names -/

/-- Names of consecutive characters: the first of them, how the names start, and
how each of them goes on. -/
def nameRuns : List (Nat × String × List String) := [
  (0x20, "", ["SPACE", "EXCLAMATION MARK", "QUOTATION MARK", "NUMBER SIGN", "DOLLAR SIGN",
    "PERCENT SIGN", "AMPERSAND", "APOSTROPHE", "LEFT PARENTHESIS", "RIGHT PARENTHESIS", "ASTERISK",
    "PLUS SIGN", "COMMA", "HYPHEN-MINUS", "FULL STOP", "SOLIDUS", "DIGIT ZERO", "DIGIT ONE",
    "DIGIT TWO", "DIGIT THREE", "DIGIT FOUR", "DIGIT FIVE", "DIGIT SIX", "DIGIT SEVEN",
    "DIGIT EIGHT", "DIGIT NINE", "COLON", "SEMICOLON", "LESS-THAN SIGN", "EQUALS SIGN",
    "GREATER-THAN SIGN", "QUESTION MARK", "COMMERCIAL AT"]),
  (0x41, "LATIN CAPITAL LETTER ", ["A", "B", "C", "D", "E", "F", "G", "H", "I", "J", "K", "L", "M",
    "N", "O", "P", "Q", "R", "S", "T", "U", "V", "W", "X", "Y", "Z"]),
  (0x5B, "", ["LEFT SQUARE BRACKET", "REVERSE SOLIDUS", "RIGHT SQUARE BRACKET", "CIRCUMFLEX ACCENT",
    "LOW LINE", "GRAVE ACCENT"]),
  (0x61, "LATIN SMALL LETTER ", ["A", "B", "C", "D", "E", "F", "G", "H", "I", "J", "K", "L", "M",
    "N", "O", "P", "Q", "R", "S", "T", "U", "V", "W", "X", "Y", "Z"]),
  (0x7B, "", ["LEFT CURLY BRACKET", "VERTICAL LINE", "RIGHT CURLY BRACKET", "TILDE"]),
  (0xA0, "", ["NO-BREAK SPACE", "INVERTED EXCLAMATION MARK", "CENT SIGN", "POUND SIGN",
    "CURRENCY SIGN", "YEN SIGN", "BROKEN BAR", "SECTION SIGN", "DIAERESIS", "COPYRIGHT SIGN",
    "FEMININE ORDINAL INDICATOR", "LEFT-POINTING DOUBLE ANGLE QUOTATION MARK", "NOT SIGN",
    "SOFT HYPHEN", "REGISTERED SIGN", "MACRON", "DEGREE SIGN", "PLUS-MINUS SIGN", "SUPERSCRIPT TWO",
    "SUPERSCRIPT THREE", "ACUTE ACCENT", "MICRO SIGN", "PILCROW SIGN", "MIDDLE DOT", "CEDILLA",
    "SUPERSCRIPT ONE", "MASCULINE ORDINAL INDICATOR", "RIGHT-POINTING DOUBLE ANGLE QUOTATION MARK",
    "VULGAR FRACTION ONE QUARTER", "VULGAR FRACTION ONE HALF", "VULGAR FRACTION THREE QUARTERS",
    "INVERTED QUESTION MARK"]),
  (0xC0, "LATIN CAPITAL LETTER ", ["A WITH GRAVE", "A WITH ACUTE", "A WITH CIRCUMFLEX",
    "A WITH TILDE", "A WITH DIAERESIS", "A WITH RING ABOVE", "AE", "C WITH CEDILLA", "E WITH GRAVE",
    "E WITH ACUTE", "E WITH CIRCUMFLEX", "E WITH DIAERESIS", "I WITH GRAVE", "I WITH ACUTE",
    "I WITH CIRCUMFLEX", "I WITH DIAERESIS", "ETH", "N WITH TILDE", "O WITH GRAVE", "O WITH ACUTE",
    "O WITH CIRCUMFLEX", "O WITH TILDE", "O WITH DIAERESIS"]),
  (0xD7, "", ["MULTIPLICATION SIGN"]),
  (0xD8, "LATIN CAPITAL LETTER ", ["O WITH STROKE", "U WITH GRAVE", "U WITH ACUTE",
    "U WITH CIRCUMFLEX", "U WITH DIAERESIS", "Y WITH ACUTE", "THORN"]),
  (0xDF, "LATIN SMALL LETTER ", ["SHARP S", "A WITH GRAVE", "A WITH ACUTE", "A WITH CIRCUMFLEX",
    "A WITH TILDE", "A WITH DIAERESIS", "A WITH RING ABOVE", "AE", "C WITH CEDILLA", "E WITH GRAVE",
    "E WITH ACUTE", "E WITH CIRCUMFLEX", "E WITH DIAERESIS", "I WITH GRAVE", "I WITH ACUTE",
    "I WITH CIRCUMFLEX", "I WITH DIAERESIS", "ETH", "N WITH TILDE", "O WITH GRAVE", "O WITH ACUTE",
    "O WITH CIRCUMFLEX", "O WITH TILDE", "O WITH DIAERESIS"]),
  (0xF7, "", ["DIVISION SIGN"]),
  (0xF8, "LATIN SMALL LETTER ", ["O WITH STROKE", "U WITH GRAVE", "U WITH ACUTE",
    "U WITH CIRCUMFLEX", "U WITH DIAERESIS", "Y WITH ACUTE", "THORN", "Y WITH DIAERESIS"]),
  (0x130, "LATIN ", ["CAPITAL LETTER I WITH DOT ABOVE", "SMALL LETTER DOTLESS I",
    "CAPITAL LIGATURE IJ", "SMALL LIGATURE IJ"]),
  (0x138, "", ["LATIN SMALL LETTER KRA"]),
  (0x149, "", ["LATIN SMALL LETTER N PRECEDED BY APOSTROPHE"]),
  (0x152, "LATIN ", ["CAPITAL LIGATURE OE", "SMALL LIGATURE OE"]),
  (0x178, "", ["LATIN CAPITAL LETTER Y WITH DIAERESIS"]),
  (0x17F, "LATIN ", ["SMALL LETTER LONG S", "SMALL LETTER B WITH STROKE",
    "CAPITAL LETTER B WITH HOOK"]),
  (0x186, "LATIN ", ["CAPITAL LETTER OPEN O", "CAPITAL LETTER C WITH HOOK",
    "SMALL LETTER C WITH HOOK", "CAPITAL LETTER AFRICAN D", "CAPITAL LETTER D WITH HOOK",
    "CAPITAL LETTER D WITH TOPBAR", "SMALL LETTER D WITH TOPBAR", "SMALL LETTER TURNED DELTA",
    "CAPITAL LETTER REVERSED E", "CAPITAL LETTER SCHWA", "CAPITAL LETTER OPEN E",
    "CAPITAL LETTER F WITH HOOK", "SMALL LETTER F WITH HOOK", "CAPITAL LETTER G WITH HOOK",
    "CAPITAL LETTER GAMMA", "SMALL LETTER HV", "CAPITAL LETTER IOTA",
    "CAPITAL LETTER I WITH STROKE", "CAPITAL LETTER K WITH HOOK", "SMALL LETTER K WITH HOOK",
    "SMALL LETTER L WITH BAR", "SMALL LETTER LAMBDA WITH STROKE", "CAPITAL LETTER TURNED M",
    "CAPITAL LETTER N WITH LEFT HOOK", "SMALL LETTER N WITH LONG RIGHT LEG",
    "CAPITAL LETTER O WITH MIDDLE TILDE"]),
  (0x1A6, "LATIN ", ["LETTER YR", "CAPITAL LETTER TONE TWO", "SMALL LETTER TONE TWO",
    "CAPITAL LETTER ESH", "LETTER REVERSED ESH LOOP", "SMALL LETTER T WITH PALATAL HOOK",
    "CAPITAL LETTER T WITH HOOK", "SMALL LETTER T WITH HOOK",
    "CAPITAL LETTER T WITH RETROFLEX HOOK", "CAPITAL LETTER U WITH HORN",
    "SMALL LETTER U WITH HORN", "CAPITAL LETTER UPSILON", "CAPITAL LETTER V WITH HOOK"]),
  (0x1B7, "LATIN ", ["CAPITAL LETTER EZH", "CAPITAL LETTER EZH REVERSED",
    "SMALL LETTER EZH REVERSED", "SMALL LETTER EZH WITH TAIL", "LETTER TWO WITH STROKE",
    "CAPITAL LETTER TONE FIVE", "SMALL LETTER TONE FIVE",
    "LETTER INVERTED GLOTTAL STOP WITH STROKE", "LETTER WYNN", "LETTER DENTAL CLICK",
    "LETTER LATERAL CLICK", "LETTER ALVEOLAR CLICK", "LETTER RETROFLEX CLICK",
    "CAPITAL LETTER DZ WITH CARON", "CAPITAL LETTER D WITH SMALL LETTER Z WITH CARON",
    "SMALL LETTER DZ WITH CARON", "CAPITAL LETTER LJ", "CAPITAL LETTER L WITH SMALL LETTER J",
    "SMALL LETTER LJ", "CAPITAL LETTER NJ", "CAPITAL LETTER N WITH SMALL LETTER J",
    "SMALL LETTER NJ"]),
  (0x1DD, "", ["LATIN SMALL LETTER TURNED E"]),
  (0x1F0, "LATIN ", ["SMALL LETTER J WITH CARON", "CAPITAL LETTER DZ",
    "CAPITAL LETTER D WITH SMALL LETTER Z", "SMALL LETTER DZ", "CAPITAL LETTER G WITH ACUTE",
    "SMALL LETTER G WITH ACUTE", "CAPITAL LETTER HWAIR", "CAPITAL LETTER WYNN"]),
  (0x220, "LATIN ", ["CAPITAL LETTER N WITH LONG RIGHT LEG", "SMALL LETTER D WITH CURL"]),
  (0x234, "LATIN SMALL LETTER ", ["L WITH CURL", "N WITH CURL", "T WITH CURL", "DOTLESS J",
    "DB DIGRAPH", "QP DIGRAPH"]),
  (0x23A, "LATIN ", ["CAPITAL LETTER A WITH STROKE", "CAPITAL LETTER C WITH STROKE",
    "SMALL LETTER C WITH STROKE", "CAPITAL LETTER L WITH BAR",
    "CAPITAL LETTER T WITH DIAGONAL STROKE", "SMALL LETTER S WITH SWASH TAIL",
    "SMALL LETTER Z WITH SWASH TAIL", "CAPITAL LETTER GLOTTAL STOP", "SMALL LETTER GLOTTAL STOP",
    "CAPITAL LETTER B WITH STROKE", "CAPITAL LETTER U BAR", "CAPITAL LETTER TURNED V"]),
  (0x24A, "LATIN ", ["CAPITAL LETTER SMALL Q WITH HOOK TAIL", "SMALL LETTER Q WITH HOOK TAIL"]),
  (0x250, "LATIN SMALL LETTER ", ["TURNED A", "ALPHA", "TURNED ALPHA", "B WITH HOOK", "OPEN O",
    "C WITH CURL", "D WITH TAIL", "D WITH HOOK", "REVERSED E", "SCHWA", "SCHWA WITH HOOK", "OPEN E",
    "REVERSED OPEN E", "REVERSED OPEN E WITH HOOK", "CLOSED REVERSED OPEN E",
    "DOTLESS J WITH STROKE", "G WITH HOOK", "SCRIPT G"]),
  (0x262, "", ["LATIN LETTER SMALL CAPITAL G"]),
  (0x263, "LATIN SMALL LETTER ", ["GAMMA", "RAMS HORN", "TURNED H", "H WITH HOOK", "HENG WITH HOOK",
    "I WITH STROKE", "IOTA"]),
  (0x26A, "", ["LATIN LETTER SMALL CAPITAL I"]),
  (0x26B, "LATIN SMALL LETTER ", ["L WITH MIDDLE TILDE", "L WITH BELT", "L WITH RETROFLEX HOOK",
    "LEZH", "TURNED M", "TURNED M WITH LONG LEG", "M WITH HOOK", "N WITH LEFT HOOK",
    "N WITH RETROFLEX HOOK"]),
  (0x274, "LATIN ", ["LETTER SMALL CAPITAL N", "SMALL LETTER BARRED O", "LETTER SMALL CAPITAL OE"]),
  (0x277, "LATIN SMALL LETTER ", ["CLOSED OMEGA", "PHI", "TURNED R", "TURNED R WITH LONG LEG",
    "TURNED R WITH HOOK", "R WITH LONG LEG", "R WITH TAIL", "R WITH FISHHOOK",
    "REVERSED R WITH FISHHOOK"]),
  (0x280, "LATIN LETTER SMALL CAPITAL ", ["R", "INVERTED R"]),
  (0x282, "LATIN SMALL LETTER ", ["S WITH HOOK", "ESH", "DOTLESS J WITH STROKE AND HOOK",
    "SQUAT REVERSED ESH", "ESH WITH CURL", "TURNED T", "T WITH RETROFLEX HOOK", "U BAR", "UPSILON",
    "V WITH HOOK", "TURNED V", "TURNED W", "TURNED Y"]),
  (0x28F, "LATIN ", ["LETTER SMALL CAPITAL Y", "SMALL LETTER Z WITH RETROFLEX HOOK",
    "SMALL LETTER Z WITH CURL", "SMALL LETTER EZH", "SMALL LETTER EZH WITH CURL",
    "LETTER GLOTTAL STOP", "LETTER PHARYNGEAL VOICED FRICATIVE", "LETTER INVERTED GLOTTAL STOP",
    "LETTER STRETCHED C", "LETTER BILABIAL CLICK", "LETTER SMALL CAPITAL B",
    "SMALL LETTER CLOSED OPEN E", "LETTER SMALL CAPITAL G WITH HOOK", "LETTER SMALL CAPITAL H",
    "SMALL LETTER J WITH CROSSED-TAIL", "SMALL LETTER TURNED K", "LETTER SMALL CAPITAL L",
    "SMALL LETTER Q WITH HOOK", "LETTER GLOTTAL STOP WITH STROKE",
    "LETTER REVERSED GLOTTAL STOP WITH STROKE"]),
  (0x2A3, "LATIN SMALL LETTER ", ["DZ DIGRAPH", "DEZH DIGRAPH", "DZ DIGRAPH WITH CURL",
    "TS DIGRAPH", "TESH DIGRAPH", "TC DIGRAPH WITH CURL", "FENG DIGRAPH", "LS DIGRAPH",
    "LZ DIGRAPH"]),
  (0x2AC, "LATIN ", ["LETTER BILABIAL PERCUSSIVE", "LETTER BIDENTAL PERCUSSIVE",
    "SMALL LETTER TURNED H WITH FISHHOOK", "SMALL LETTER TURNED H WITH FISHHOOK AND TAIL"]),
  (0x2B0, "MODIFIER LETTER SMALL ", ["H", "H WITH HOOK", "J", "R", "TURNED R", "TURNED R WITH HOOK",
    "CAPITAL INVERTED R", "W", "Y"]),
  (0x2B9, "MODIFIER LETTER ", ["PRIME", "DOUBLE PRIME", "TURNED COMMA", "APOSTROPHE",
    "REVERSED COMMA", "RIGHT HALF RING", "LEFT HALF RING", "GLOTTAL STOP", "REVERSED GLOTTAL STOP",
    "LEFT ARROWHEAD", "RIGHT ARROWHEAD", "UP ARROWHEAD", "DOWN ARROWHEAD", "CIRCUMFLEX ACCENT"]),
  (0x2C7, "", ["CARON"]),
  (0x2C8, "MODIFIER LETTER ", ["VERTICAL LINE", "MACRON", "ACUTE ACCENT", "GRAVE ACCENT",
    "LOW VERTICAL LINE", "LOW MACRON", "LOW GRAVE ACCENT", "LOW ACUTE ACCENT", "TRIANGULAR COLON",
    "HALF TRIANGULAR COLON", "CENTRED RIGHT HALF RING", "CENTRED LEFT HALF RING", "UP TACK",
    "DOWN TACK", "PLUS SIGN", "MINUS SIGN"]),
  (0x2D8, "", ["BREVE", "DOT ABOVE", "RING ABOVE", "OGONEK", "SMALL TILDE", "DOUBLE ACUTE ACCENT"]),
  (0x2DE, "MODIFIER LETTER ", ["RHOTIC HOOK", "CROSS ACCENT", "SMALL GAMMA", "SMALL L", "SMALL S",
    "SMALL X", "SMALL REVERSED GLOTTAL STOP", "EXTRA-HIGH TONE BAR", "HIGH TONE BAR",
    "MID TONE BAR", "LOW TONE BAR", "EXTRA-LOW TONE BAR", "YIN DEPARTING TONE MARK",
    "YANG DEPARTING TONE MARK", "VOICING", "UNASPIRATED", "DOUBLE APOSTROPHE", "LOW DOWN ARROWHEAD",
    "LOW UP ARROWHEAD", "LOW LEFT ARROWHEAD", "LOW RIGHT ARROWHEAD", "LOW RING",
    "MIDDLE GRAVE ACCENT", "MIDDLE DOUBLE GRAVE ACCENT", "MIDDLE DOUBLE ACUTE ACCENT", "LOW TILDE",
    "RAISED COLON", "BEGIN HIGH TONE", "END HIGH TONE", "BEGIN LOW TONE", "END LOW TONE", "SHELF",
    "OPEN SHELF", "LOW LEFT ARROW"]),
  (0x300, "COMBINING ", ["GRAVE ACCENT", "ACUTE ACCENT", "CIRCUMFLEX ACCENT", "TILDE", "MACRON",
    "OVERLINE", "BREVE", "DOT ABOVE", "DIAERESIS", "HOOK ABOVE", "RING ABOVE",
    "DOUBLE ACUTE ACCENT", "CARON", "VERTICAL LINE ABOVE", "DOUBLE VERTICAL LINE ABOVE",
    "DOUBLE GRAVE ACCENT", "CANDRABINDU", "INVERTED BREVE", "TURNED COMMA ABOVE", "COMMA ABOVE",
    "REVERSED COMMA ABOVE", "COMMA ABOVE RIGHT", "GRAVE ACCENT BELOW", "ACUTE ACCENT BELOW",
    "LEFT TACK BELOW", "RIGHT TACK BELOW", "LEFT ANGLE ABOVE", "HORN", "LEFT HALF RING BELOW",
    "UP TACK BELOW", "DOWN TACK BELOW", "PLUS SIGN BELOW", "MINUS SIGN BELOW",
    "PALATALIZED HOOK BELOW", "RETROFLEX HOOK BELOW", "DOT BELOW", "DIAERESIS BELOW", "RING BELOW",
    "COMMA BELOW", "CEDILLA", "OGONEK", "VERTICAL LINE BELOW", "BRIDGE BELOW",
    "INVERTED DOUBLE ARCH BELOW", "CARON BELOW", "CIRCUMFLEX ACCENT BELOW", "BREVE BELOW",
    "INVERTED BREVE BELOW", "TILDE BELOW", "MACRON BELOW", "LOW LINE", "DOUBLE LOW LINE",
    "TILDE OVERLAY", "SHORT STROKE OVERLAY", "LONG STROKE OVERLAY", "SHORT SOLIDUS OVERLAY",
    "LONG SOLIDUS OVERLAY", "RIGHT HALF RING BELOW", "INVERTED BRIDGE BELOW", "SQUARE BELOW",
    "SEAGULL BELOW", "X ABOVE", "VERTICAL TILDE", "DOUBLE OVERLINE", "GRAVE TONE MARK",
    "ACUTE TONE MARK", "GREEK PERISPOMENI", "GREEK KORONIS", "GREEK DIALYTIKA TONOS",
    "GREEK YPOGEGRAMMENI", "BRIDGE ABOVE", "EQUALS SIGN BELOW", "DOUBLE VERTICAL LINE BELOW",
    "LEFT ANGLE BELOW", "NOT TILDE ABOVE", "HOMOTHETIC ABOVE", "ALMOST EQUAL TO ABOVE",
    "LEFT RIGHT ARROW BELOW", "UPWARDS ARROW BELOW", "GRAPHEME JOINER", "RIGHT ARROWHEAD ABOVE",
    "LEFT HALF RING ABOVE", "FERMATA", "X BELOW", "LEFT ARROWHEAD BELOW", "RIGHT ARROWHEAD BELOW",
    "RIGHT ARROWHEAD AND UP ARROWHEAD BELOW", "RIGHT HALF RING ABOVE", "DOT ABOVE RIGHT",
    "ASTERISK BELOW", "DOUBLE RING BELOW", "ZIGZAG ABOVE"]),
  (0x35C, "COMBINING DOUBLE ", ["BREVE BELOW", "BREVE", "MACRON", "MACRON BELOW", "TILDE",
    "INVERTED BREVE", "RIGHTWARDS ARROW BELOW"]),
  (0x363, "COMBINING LATIN SMALL LETTER ", ["A", "E", "I", "O", "U", "C", "D", "H", "M", "R", "T",
    "V", "X"]),
  (0x374, "GREEK ", ["NUMERAL SIGN", "LOWER NUMERAL SIGN", "CAPITAL LETTER PAMPHYLIAN DIGAMMA",
    "SMALL LETTER PAMPHYLIAN DIGAMMA"]),
  (0x37A, "GREEK ", ["YPOGEGRAMMENI", "SMALL REVERSED LUNATE SIGMA SYMBOL",
    "SMALL DOTTED LUNATE SIGMA SYMBOL", "SMALL REVERSED DOTTED LUNATE SIGMA SYMBOL",
    "QUESTION MARK", "CAPITAL LETTER YOT"]),
  (0x384, "GREEK ", ["TONOS", "DIALYTIKA TONOS", "CAPITAL LETTER ALPHA WITH TONOS", "ANO TELEIA",
    "CAPITAL LETTER EPSILON WITH TONOS", "CAPITAL LETTER ETA WITH TONOS",
    "CAPITAL LETTER IOTA WITH TONOS"]),
  (0x38C, "", ["GREEK CAPITAL LETTER OMICRON WITH TONOS"]),
  (0x38E, "GREEK ", ["CAPITAL LETTER UPSILON WITH TONOS", "CAPITAL LETTER OMEGA WITH TONOS",
    "SMALL LETTER IOTA WITH DIALYTIKA AND TONOS"]),
  (0x391, "GREEK CAPITAL LETTER ", ["ALPHA", "BETA", "GAMMA", "DELTA", "EPSILON", "ZETA", "ETA",
    "THETA", "IOTA", "KAPPA", "LAMDA", "MU", "NU", "XI", "OMICRON", "PI", "RHO"]),
  (0x3A3, "GREEK CAPITAL LETTER ", ["SIGMA", "TAU", "UPSILON", "PHI", "CHI", "PSI", "OMEGA",
    "IOTA WITH DIALYTIKA", "UPSILON WITH DIALYTIKA"]),
  (0x3AC, "GREEK SMALL LETTER ", ["ALPHA WITH TONOS", "EPSILON WITH TONOS", "ETA WITH TONOS",
    "IOTA WITH TONOS", "UPSILON WITH DIALYTIKA AND TONOS", "ALPHA", "BETA", "GAMMA", "DELTA",
    "EPSILON", "ZETA", "ETA", "THETA", "IOTA", "KAPPA", "LAMDA", "MU", "NU", "XI", "OMICRON", "PI",
    "RHO", "FINAL SIGMA", "SIGMA", "TAU", "UPSILON", "PHI", "CHI", "PSI", "OMEGA",
    "IOTA WITH DIALYTIKA", "UPSILON WITH DIALYTIKA", "OMICRON WITH TONOS", "UPSILON WITH TONOS",
    "OMEGA WITH TONOS"]),
  (0x3CF, "GREEK ", ["CAPITAL KAI SYMBOL", "BETA SYMBOL", "THETA SYMBOL",
    "UPSILON WITH HOOK SYMBOL", "UPSILON WITH ACUTE AND HOOK SYMBOL",
    "UPSILON WITH DIAERESIS AND HOOK SYMBOL", "PHI SYMBOL", "PI SYMBOL", "KAI SYMBOL",
    "LETTER ARCHAIC KOPPA", "SMALL LETTER ARCHAIC KOPPA", "LETTER STIGMA", "SMALL LETTER STIGMA",
    "LETTER DIGAMMA", "SMALL LETTER DIGAMMA", "LETTER KOPPA", "SMALL LETTER KOPPA", "LETTER SAMPI",
    "SMALL LETTER SAMPI"]),
  (0x3F0, "GREEK ", ["KAPPA SYMBOL", "RHO SYMBOL", "LUNATE SIGMA SYMBOL", "LETTER YOT",
    "CAPITAL THETA SYMBOL", "LUNATE EPSILON SYMBOL", "REVERSED LUNATE EPSILON SYMBOL",
    "CAPITAL LETTER SHO", "SMALL LETTER SHO", "CAPITAL LUNATE SIGMA SYMBOL", "CAPITAL LETTER SAN",
    "SMALL LETTER SAN", "RHO WITH STROKE SYMBOL", "CAPITAL REVERSED LUNATE SIGMA SYMBOL",
    "CAPITAL DOTTED LUNATE SIGMA SYMBOL", "CAPITAL REVERSED DOTTED LUNATE SIGMA SYMBOL"]),
  (0x400, "CYRILLIC CAPITAL LETTER ", ["IE WITH GRAVE", "IO", "DJE", "GJE", "UKRAINIAN IE", "DZE",
    "BYELORUSSIAN-UKRAINIAN I", "YI", "JE", "LJE", "NJE", "TSHE", "KJE", "I WITH GRAVE", "SHORT U",
    "DZHE", "A", "BE", "VE", "GHE", "DE", "IE", "ZHE", "ZE", "I", "SHORT I", "KA", "EL", "EM", "EN",
    "O", "PE", "ER", "ES", "TE", "U", "EF", "HA", "TSE", "CHE", "SHA", "SHCHA", "HARD SIGN", "YERU",
    "SOFT SIGN", "E", "YU", "YA"]),
  (0x430, "CYRILLIC SMALL LETTER ", ["A", "BE", "VE", "GHE", "DE", "IE", "ZHE", "ZE", "I",
    "SHORT I", "KA", "EL", "EM", "EN", "O", "PE", "ER", "ES", "TE", "U", "EF", "HA", "TSE", "CHE",
    "SHA", "SHCHA", "HARD SIGN", "YERU", "SOFT SIGN", "E", "YU", "YA", "IE WITH GRAVE", "IO", "DJE",
    "GJE", "UKRAINIAN IE", "DZE", "BYELORUSSIAN-UKRAINIAN I", "YI", "JE", "LJE", "NJE", "TSHE",
    "KJE", "I WITH GRAVE", "SHORT U", "DZHE"]),
  (0x482, "", ["CYRILLIC THOUSANDS SIGN"]),
  (0x483, "COMBINING CYRILLIC ", ["TITLO", "PALATALIZATION", "DASIA PNEUMATA", "PSILI PNEUMATA",
    "POKRYTIE", "HUNDRED THOUSANDS SIGN", "MILLIONS SIGN"]),
  (0x4A4, "CYRILLIC ", ["CAPITAL LIGATURE EN GHE", "SMALL LIGATURE EN GHE"]),
  (0x4B4, "CYRILLIC ", ["CAPITAL LIGATURE TE TSE", "SMALL LIGATURE TE TSE"]),
  (0x4C0, "", ["CYRILLIC LETTER PALOCHKA"]),
  (0x4CF, "", ["CYRILLIC SMALL LETTER PALOCHKA"]),
  (0x4D4, "CYRILLIC ", ["CAPITAL LIGATURE A IE", "SMALL LIGATURE A IE"]),
  (0x2000, "", ["EN QUAD", "EM QUAD", "EN SPACE", "EM SPACE", "THREE-PER-EM SPACE",
    "FOUR-PER-EM SPACE", "SIX-PER-EM SPACE", "FIGURE SPACE", "PUNCTUATION SPACE", "THIN SPACE",
    "HAIR SPACE", "ZERO WIDTH SPACE", "ZERO WIDTH NON-JOINER", "ZERO WIDTH JOINER",
    "LEFT-TO-RIGHT MARK", "RIGHT-TO-LEFT MARK", "HYPHEN", "NON-BREAKING HYPHEN", "FIGURE DASH",
    "EN DASH", "EM DASH", "HORIZONTAL BAR", "DOUBLE VERTICAL LINE", "DOUBLE LOW LINE",
    "LEFT SINGLE QUOTATION MARK", "RIGHT SINGLE QUOTATION MARK", "SINGLE LOW-9 QUOTATION MARK",
    "SINGLE HIGH-REVERSED-9 QUOTATION MARK", "LEFT DOUBLE QUOTATION MARK",
    "RIGHT DOUBLE QUOTATION MARK", "DOUBLE LOW-9 QUOTATION MARK",
    "DOUBLE HIGH-REVERSED-9 QUOTATION MARK", "DAGGER", "DOUBLE DAGGER", "BULLET",
    "TRIANGULAR BULLET", "ONE DOT LEADER", "TWO DOT LEADER", "HORIZONTAL ELLIPSIS",
    "HYPHENATION POINT", "LINE SEPARATOR", "PARAGRAPH SEPARATOR", "LEFT-TO-RIGHT EMBEDDING",
    "RIGHT-TO-LEFT EMBEDDING", "POP DIRECTIONAL FORMATTING", "LEFT-TO-RIGHT OVERRIDE",
    "RIGHT-TO-LEFT OVERRIDE", "NARROW NO-BREAK SPACE", "PER MILLE SIGN", "PER TEN THOUSAND SIGN",
    "PRIME", "DOUBLE PRIME", "TRIPLE PRIME", "REVERSED PRIME", "REVERSED DOUBLE PRIME",
    "REVERSED TRIPLE PRIME", "CARET", "SINGLE LEFT-POINTING ANGLE QUOTATION MARK",
    "SINGLE RIGHT-POINTING ANGLE QUOTATION MARK", "REFERENCE MARK", "DOUBLE EXCLAMATION MARK",
    "INTERROBANG", "OVERLINE", "UNDERTIE", "CHARACTER TIE", "CARET INSERTION POINT", "ASTERISM",
    "HYPHEN BULLET", "FRACTION SLASH", "LEFT SQUARE BRACKET WITH QUILL",
    "RIGHT SQUARE BRACKET WITH QUILL", "DOUBLE QUESTION MARK", "QUESTION EXCLAMATION MARK",
    "EXCLAMATION QUESTION MARK", "TIRONIAN SIGN ET", "REVERSED PILCROW SIGN",
    "BLACK LEFTWARDS BULLET", "BLACK RIGHTWARDS BULLET", "LOW ASTERISK", "REVERSED SEMICOLON",
    "CLOSE UP", "TWO ASTERISKS ALIGNED VERTICALLY", "COMMERCIAL MINUS SIGN", "SWUNG DASH",
    "INVERTED UNDERTIE", "FLOWER PUNCTUATION MARK", "THREE DOT PUNCTUATION", "QUADRUPLE PRIME",
    "FOUR DOT PUNCTUATION", "FIVE DOT PUNCTUATION", "TWO DOT PUNCTUATION", "FOUR DOT MARK",
    "DOTTED CROSS", "TRICOLON", "VERTICAL FOUR DOTS", "MEDIUM MATHEMATICAL SPACE", "WORD JOINER",
    "FUNCTION APPLICATION", "INVISIBLE TIMES", "INVISIBLE SEPARATOR", "INVISIBLE PLUS"]),
  (0x2066, "", ["LEFT-TO-RIGHT ISOLATE", "RIGHT-TO-LEFT ISOLATE", "FIRST STRONG ISOLATE",
    "POP DIRECTIONAL ISOLATE", "INHIBIT SYMMETRIC SWAPPING", "ACTIVATE SYMMETRIC SWAPPING",
    "INHIBIT ARABIC FORM SHAPING", "ACTIVATE ARABIC FORM SHAPING", "NATIONAL DIGIT SHAPES",
    "NOMINAL DIGIT SHAPES", "SUPERSCRIPT ZERO", "SUPERSCRIPT LATIN SMALL LETTER I"]),
  (0x2074, "SUPERSCRIPT ", ["FOUR", "FIVE", "SIX", "SEVEN", "EIGHT", "NINE", "PLUS SIGN", "MINUS",
    "EQUALS SIGN", "LEFT PARENTHESIS", "RIGHT PARENTHESIS", "LATIN SMALL LETTER N"]),
  (0x2080, "SUBSCRIPT ", ["ZERO", "ONE", "TWO", "THREE", "FOUR", "FIVE", "SIX", "SEVEN", "EIGHT",
    "NINE", "PLUS SIGN", "MINUS", "EQUALS SIGN", "LEFT PARENTHESIS", "RIGHT PARENTHESIS"]),
  (0x2090, "LATIN SUBSCRIPT SMALL LETTER ", ["A", "E", "O", "X", "SCHWA", "H", "K", "L", "M", "N",
    "P", "S", "T"]),
  (0x20A0, "", ["EURO-CURRENCY SIGN", "COLON SIGN", "CRUZEIRO SIGN", "FRENCH FRANC SIGN",
    "LIRA SIGN", "MILL SIGN", "NAIRA SIGN", "PESETA SIGN", "RUPEE SIGN", "WON SIGN",
    "NEW SHEQEL SIGN", "DONG SIGN", "EURO SIGN", "KIP SIGN", "TUGRIK SIGN", "DRACHMA SIGN",
    "GERMAN PENNY SIGN", "PESO SIGN", "GUARANI SIGN", "AUSTRAL SIGN", "HRYVNIA SIGN", "CEDI SIGN",
    "LIVRE TOURNOIS SIGN", "SPESMILO SIGN", "TENGE SIGN", "INDIAN RUPEE SIGN", "TURKISH LIRA SIGN",
    "NORDIC MARK SIGN", "MANAT SIGN", "RUBLE SIGN", "LARI SIGN", "BITCOIN SIGN", "SOM SIGN"]),
  (0x20D0, "COMBINING ", ["LEFT HARPOON ABOVE", "RIGHT HARPOON ABOVE", "LONG VERTICAL LINE OVERLAY",
    "SHORT VERTICAL LINE OVERLAY", "ANTICLOCKWISE ARROW ABOVE", "CLOCKWISE ARROW ABOVE",
    "LEFT ARROW ABOVE", "RIGHT ARROW ABOVE", "RING OVERLAY", "CLOCKWISE RING OVERLAY",
    "ANTICLOCKWISE RING OVERLAY", "THREE DOTS ABOVE", "FOUR DOTS ABOVE", "ENCLOSING CIRCLE",
    "ENCLOSING SQUARE", "ENCLOSING DIAMOND", "ENCLOSING CIRCLE BACKSLASH", "LEFT RIGHT ARROW ABOVE",
    "ENCLOSING SCREEN", "ENCLOSING KEYCAP", "ENCLOSING UPWARD POINTING TRIANGLE",
    "REVERSE SOLIDUS OVERLAY", "DOUBLE VERTICAL STROKE OVERLAY", "ANNUITY SYMBOL",
    "TRIPLE UNDERDOT", "WIDE BRIDGE ABOVE", "LEFTWARDS ARROW OVERLAY",
    "LONG DOUBLE SOLIDUS OVERLAY", "RIGHTWARDS HARPOON WITH BARB DOWNWARDS",
    "LEFTWARDS HARPOON WITH BARB DOWNWARDS", "LEFT ARROW BELOW", "RIGHT ARROW BELOW",
    "ASTERISK ABOVE"]),
  (0x2100, "", ["ACCOUNT OF", "ADDRESSED TO THE SUBJECT", "DOUBLE-STRUCK CAPITAL C",
    "DEGREE CELSIUS", "CENTRE LINE SYMBOL", "CARE OF", "CADA UNA", "EULER CONSTANT", "SCRUPLE",
    "DEGREE FAHRENHEIT", "SCRIPT SMALL G", "SCRIPT CAPITAL H", "BLACK-LETTER CAPITAL H",
    "DOUBLE-STRUCK CAPITAL H", "PLANCK CONSTANT", "PLANCK CONSTANT OVER TWO PI", "SCRIPT CAPITAL I",
    "BLACK-LETTER CAPITAL I", "SCRIPT CAPITAL L", "SCRIPT SMALL L", "L B BAR SYMBOL",
    "DOUBLE-STRUCK CAPITAL N", "NUMERO SIGN", "SOUND RECORDING COPYRIGHT", "SCRIPT CAPITAL P",
    "DOUBLE-STRUCK CAPITAL P", "DOUBLE-STRUCK CAPITAL Q", "SCRIPT CAPITAL R",
    "BLACK-LETTER CAPITAL R", "DOUBLE-STRUCK CAPITAL R", "PRESCRIPTION TAKE", "RESPONSE",
    "SERVICE MARK", "TELEPHONE SIGN", "TRADE MARK SIGN", "VERSICLE", "DOUBLE-STRUCK CAPITAL Z",
    "OUNCE SIGN", "OHM SIGN", "INVERTED OHM SIGN", "BLACK-LETTER CAPITAL Z",
    "TURNED GREEK SMALL LETTER IOTA", "KELVIN SIGN", "ANGSTROM SIGN", "SCRIPT CAPITAL B",
    "BLACK-LETTER CAPITAL C", "ESTIMATED SYMBOL", "SCRIPT SMALL E", "SCRIPT CAPITAL E",
    "SCRIPT CAPITAL F", "TURNED CAPITAL F", "SCRIPT CAPITAL M", "SCRIPT SMALL O", "ALEF SYMBOL",
    "BET SYMBOL", "GIMEL SYMBOL", "DALET SYMBOL", "INFORMATION SOURCE", "ROTATED CAPITAL Q",
    "FACSIMILE SIGN", "DOUBLE-STRUCK SMALL PI", "DOUBLE-STRUCK SMALL GAMMA",
    "DOUBLE-STRUCK CAPITAL GAMMA", "DOUBLE-STRUCK CAPITAL PI", "DOUBLE-STRUCK N-ARY SUMMATION",
    "TURNED SANS-SERIF CAPITAL G", "TURNED SANS-SERIF CAPITAL L", "REVERSED SANS-SERIF CAPITAL L",
    "TURNED SANS-SERIF CAPITAL Y"]),
  (0x2145, "DOUBLE-STRUCK ITALIC ", ["CAPITAL D", "SMALL D", "SMALL E", "SMALL I", "SMALL J"]),
  (0x214A, "", ["PROPERTY LINE", "TURNED AMPERSAND", "PER SIGN", "AKTIESELSKAB", "TURNED SMALL F",
    "SYMBOL FOR SAMARITAN SOURCE"]),
  (0x2150, "VULGAR FRACTION ", ["ONE SEVENTH", "ONE NINTH", "ONE TENTH", "ONE THIRD", "TWO THIRDS",
    "ONE FIFTH", "TWO FIFTHS", "THREE FIFTHS", "FOUR FIFTHS", "ONE SIXTH", "FIVE SIXTHS",
    "ONE EIGHTH", "THREE EIGHTHS", "FIVE EIGHTHS", "SEVEN EIGHTHS"]),
  (0x215F, "", ["FRACTION NUMERATOR ONE"]),
  (0x2160, "ROMAN NUMERAL ", ["ONE", "TWO", "THREE", "FOUR", "FIVE", "SIX", "SEVEN", "EIGHT",
    "NINE", "TEN", "ELEVEN", "TWELVE", "FIFTY", "ONE HUNDRED", "FIVE HUNDRED", "ONE THOUSAND"]),
  (0x2170, "SMALL ROMAN NUMERAL ", ["ONE", "TWO", "THREE", "FOUR", "FIVE", "SIX", "SEVEN", "EIGHT",
    "NINE", "TEN", "ELEVEN", "TWELVE", "FIFTY", "ONE HUNDRED", "FIVE HUNDRED", "ONE THOUSAND"]),
  (0x2180, "ROMAN NUMERAL ", ["ONE THOUSAND C D", "FIVE THOUSAND", "TEN THOUSAND",
    "REVERSED ONE HUNDRED"]),
  (0x2184, "", ["LATIN SMALL LETTER REVERSED C", "ROMAN NUMERAL SIX LATE FORM",
    "ROMAN NUMERAL FIFTY EARLY FORM", "ROMAN NUMERAL FIFTY THOUSAND",
    "ROMAN NUMERAL ONE HUNDRED THOUSAND", "VULGAR FRACTION ZERO THIRDS", "TURNED DIGIT TWO",
    "TURNED DIGIT THREE"]),
  (0x2190, "", ["LEFTWARDS ARROW", "UPWARDS ARROW", "RIGHTWARDS ARROW", "DOWNWARDS ARROW",
    "LEFT RIGHT ARROW", "UP DOWN ARROW", "NORTH WEST ARROW", "NORTH EAST ARROW", "SOUTH EAST ARROW",
    "SOUTH WEST ARROW", "LEFTWARDS ARROW WITH STROKE", "RIGHTWARDS ARROW WITH STROKE",
    "LEFTWARDS WAVE ARROW", "RIGHTWARDS WAVE ARROW", "LEFTWARDS TWO HEADED ARROW",
    "UPWARDS TWO HEADED ARROW", "RIGHTWARDS TWO HEADED ARROW", "DOWNWARDS TWO HEADED ARROW",
    "LEFTWARDS ARROW WITH TAIL", "RIGHTWARDS ARROW WITH TAIL", "LEFTWARDS ARROW FROM BAR",
    "UPWARDS ARROW FROM BAR", "RIGHTWARDS ARROW FROM BAR", "DOWNWARDS ARROW FROM BAR",
    "UP DOWN ARROW WITH BASE", "LEFTWARDS ARROW WITH HOOK", "RIGHTWARDS ARROW WITH HOOK",
    "LEFTWARDS ARROW WITH LOOP", "RIGHTWARDS ARROW WITH LOOP", "LEFT RIGHT WAVE ARROW",
    "LEFT RIGHT ARROW WITH STROKE", "DOWNWARDS ZIGZAG ARROW", "UPWARDS ARROW WITH TIP LEFTWARDS",
    "UPWARDS ARROW WITH TIP RIGHTWARDS", "DOWNWARDS ARROW WITH TIP LEFTWARDS",
    "DOWNWARDS ARROW WITH TIP RIGHTWARDS", "RIGHTWARDS ARROW WITH CORNER DOWNWARDS",
    "DOWNWARDS ARROW WITH CORNER LEFTWARDS", "ANTICLOCKWISE TOP SEMICIRCLE ARROW",
    "CLOCKWISE TOP SEMICIRCLE ARROW", "NORTH WEST ARROW TO LONG BAR",
    "LEFTWARDS ARROW TO BAR OVER RIGHTWARDS ARROW TO BAR", "ANTICLOCKWISE OPEN CIRCLE ARROW",
    "CLOCKWISE OPEN CIRCLE ARROW", "LEFTWARDS HARPOON WITH BARB UPWARDS",
    "LEFTWARDS HARPOON WITH BARB DOWNWARDS", "UPWARDS HARPOON WITH BARB RIGHTWARDS",
    "UPWARDS HARPOON WITH BARB LEFTWARDS", "RIGHTWARDS HARPOON WITH BARB UPWARDS",
    "RIGHTWARDS HARPOON WITH BARB DOWNWARDS", "DOWNWARDS HARPOON WITH BARB RIGHTWARDS",
    "DOWNWARDS HARPOON WITH BARB LEFTWARDS", "RIGHTWARDS ARROW OVER LEFTWARDS ARROW",
    "UPWARDS ARROW LEFTWARDS OF DOWNWARDS ARROW", "LEFTWARDS ARROW OVER RIGHTWARDS ARROW",
    "LEFTWARDS PAIRED ARROWS", "UPWARDS PAIRED ARROWS", "RIGHTWARDS PAIRED ARROWS",
    "DOWNWARDS PAIRED ARROWS", "LEFTWARDS HARPOON OVER RIGHTWARDS HARPOON",
    "RIGHTWARDS HARPOON OVER LEFTWARDS HARPOON", "LEFTWARDS DOUBLE ARROW WITH STROKE",
    "LEFT RIGHT DOUBLE ARROW WITH STROKE", "RIGHTWARDS DOUBLE ARROW WITH STROKE",
    "LEFTWARDS DOUBLE ARROW", "UPWARDS DOUBLE ARROW", "RIGHTWARDS DOUBLE ARROW",
    "DOWNWARDS DOUBLE ARROW", "LEFT RIGHT DOUBLE ARROW", "UP DOWN DOUBLE ARROW",
    "NORTH WEST DOUBLE ARROW", "NORTH EAST DOUBLE ARROW", "SOUTH EAST DOUBLE ARROW",
    "SOUTH WEST DOUBLE ARROW", "LEFTWARDS TRIPLE ARROW", "RIGHTWARDS TRIPLE ARROW",
    "LEFTWARDS SQUIGGLE ARROW", "RIGHTWARDS SQUIGGLE ARROW", "UPWARDS ARROW WITH DOUBLE STROKE",
    "DOWNWARDS ARROW WITH DOUBLE STROKE", "LEFTWARDS DASHED ARROW", "UPWARDS DASHED ARROW",
    "RIGHTWARDS DASHED ARROW", "DOWNWARDS DASHED ARROW", "LEFTWARDS ARROW TO BAR",
    "RIGHTWARDS ARROW TO BAR", "LEFTWARDS WHITE ARROW", "UPWARDS WHITE ARROW",
    "RIGHTWARDS WHITE ARROW", "DOWNWARDS WHITE ARROW"]),
  (0x21EA, "UPWARDS WHITE ", ["ARROW FROM BAR", "ARROW ON PEDESTAL",
    "ARROW ON PEDESTAL WITH HORIZONTAL BAR", "ARROW ON PEDESTAL WITH VERTICAL BAR", "DOUBLE ARROW",
    "DOUBLE ARROW ON PEDESTAL"]),
  (0x21F0, "", ["RIGHTWARDS WHITE ARROW FROM WALL", "NORTH WEST ARROW TO CORNER",
    "SOUTH EAST ARROW TO CORNER", "UP DOWN WHITE ARROW", "RIGHT ARROW WITH SMALL CIRCLE",
    "DOWNWARDS ARROW LEFTWARDS OF UPWARDS ARROW", "THREE RIGHTWARDS ARROWS",
    "LEFTWARDS ARROW WITH VERTICAL STROKE", "RIGHTWARDS ARROW WITH VERTICAL STROKE",
    "LEFT RIGHT ARROW WITH VERTICAL STROKE", "LEFTWARDS ARROW WITH DOUBLE VERTICAL STROKE",
    "RIGHTWARDS ARROW WITH DOUBLE VERTICAL STROKE", "LEFT RIGHT ARROW WITH DOUBLE VERTICAL STROKE",
    "LEFTWARDS OPEN-HEADED ARROW", "RIGHTWARDS OPEN-HEADED ARROW", "LEFT RIGHT OPEN-HEADED ARROW",
    "FOR ALL", "COMPLEMENT", "PARTIAL DIFFERENTIAL", "THERE EXISTS", "THERE DOES NOT EXIST",
    "EMPTY SET", "INCREMENT", "NABLA", "ELEMENT OF", "NOT AN ELEMENT OF", "SMALL ELEMENT OF",
    "CONTAINS AS MEMBER", "DOES NOT CONTAIN AS MEMBER", "SMALL CONTAINS AS MEMBER", "END OF PROOF",
    "N-ARY PRODUCT", "N-ARY COPRODUCT", "N-ARY SUMMATION", "MINUS SIGN", "MINUS-OR-PLUS SIGN",
    "DOT PLUS", "DIVISION SLASH", "SET MINUS", "ASTERISK OPERATOR", "RING OPERATOR",
    "BULLET OPERATOR", "SQUARE ROOT", "CUBE ROOT", "FOURTH ROOT", "PROPORTIONAL TO", "INFINITY",
    "RIGHT ANGLE", "ANGLE", "MEASURED ANGLE", "SPHERICAL ANGLE", "DIVIDES", "DOES NOT DIVIDE",
    "PARALLEL TO", "NOT PARALLEL TO", "LOGICAL AND", "LOGICAL OR", "INTERSECTION", "UNION",
    "INTEGRAL", "DOUBLE INTEGRAL", "TRIPLE INTEGRAL", "CONTOUR INTEGRAL", "SURFACE INTEGRAL",
    "VOLUME INTEGRAL", "CLOCKWISE INTEGRAL", "CLOCKWISE CONTOUR INTEGRAL",
    "ANTICLOCKWISE CONTOUR INTEGRAL", "THEREFORE", "BECAUSE", "RATIO", "PROPORTION", "DOT MINUS",
    "EXCESS", "GEOMETRIC PROPORTION", "HOMOTHETIC", "TILDE OPERATOR", "REVERSED TILDE",
    "INVERTED LAZY S", "SINE WAVE", "WREATH PRODUCT", "NOT TILDE", "MINUS TILDE",
    "ASYMPTOTICALLY EQUAL TO", "NOT ASYMPTOTICALLY EQUAL TO", "APPROXIMATELY EQUAL TO",
    "APPROXIMATELY BUT NOT ACTUALLY EQUAL TO", "NEITHER APPROXIMATELY NOR ACTUALLY EQUAL TO",
    "ALMOST EQUAL TO", "NOT ALMOST EQUAL TO", "ALMOST EQUAL OR EQUAL TO", "TRIPLE TILDE",
    "ALL EQUAL TO", "EQUIVALENT TO", "GEOMETRICALLY EQUIVALENT TO", "DIFFERENCE BETWEEN",
    "APPROACHES THE LIMIT", "GEOMETRICALLY EQUAL TO", "APPROXIMATELY EQUAL TO OR THE IMAGE OF",
    "IMAGE OF OR APPROXIMATELY EQUAL TO", "COLON EQUALS", "EQUALS COLON", "RING IN EQUAL TO",
    "RING EQUAL TO", "CORRESPONDS TO", "ESTIMATES", "EQUIANGULAR TO", "STAR EQUALS",
    "DELTA EQUAL TO", "EQUAL TO BY DEFINITION", "MEASURED BY", "QUESTIONED EQUAL TO",
    "NOT EQUAL TO", "IDENTICAL TO", "NOT IDENTICAL TO", "STRICTLY EQUIVALENT TO",
    "LESS-THAN OR EQUAL TO", "GREATER-THAN OR EQUAL TO", "LESS-THAN OVER EQUAL TO",
    "GREATER-THAN OVER EQUAL TO", "LESS-THAN BUT NOT EQUAL TO", "GREATER-THAN BUT NOT EQUAL TO",
    "MUCH LESS-THAN", "MUCH GREATER-THAN", "BETWEEN", "NOT EQUIVALENT TO", "NOT LESS-THAN",
    "NOT GREATER-THAN", "NEITHER LESS-THAN NOR EQUAL TO", "NEITHER GREATER-THAN NOR EQUAL TO",
    "LESS-THAN OR EQUIVALENT TO", "GREATER-THAN OR EQUIVALENT TO",
    "NEITHER LESS-THAN NOR EQUIVALENT TO", "NEITHER GREATER-THAN NOR EQUIVALENT TO",
    "LESS-THAN OR GREATER-THAN", "GREATER-THAN OR LESS-THAN", "NEITHER LESS-THAN NOR GREATER-THAN",
    "NEITHER GREATER-THAN NOR LESS-THAN", "PRECEDES", "SUCCEEDS", "PRECEDES OR EQUAL TO",
    "SUCCEEDS OR EQUAL TO", "PRECEDES OR EQUIVALENT TO", "SUCCEEDS OR EQUIVALENT TO",
    "DOES NOT PRECEDE", "DOES NOT SUCCEED", "SUBSET OF", "SUPERSET OF", "NOT A SUBSET OF",
    "NOT A SUPERSET OF", "SUBSET OF OR EQUAL TO", "SUPERSET OF OR EQUAL TO",
    "NEITHER A SUBSET OF NOR EQUAL TO", "NEITHER A SUPERSET OF NOR EQUAL TO",
    "SUBSET OF WITH NOT EQUAL TO", "SUPERSET OF WITH NOT EQUAL TO", "MULTISET",
    "MULTISET MULTIPLICATION", "MULTISET UNION"]),
  (0x228F, "SQUARE ", ["IMAGE OF", "ORIGINAL OF", "IMAGE OF OR EQUAL TO", "ORIGINAL OF OR EQUAL TO",
    "CAP", "CUP"]),
  (0x2295, "CIRCLED ", ["PLUS", "MINUS", "TIMES", "DIVISION SLASH", "DOT OPERATOR", "RING OPERATOR",
    "ASTERISK OPERATOR", "EQUALS", "DASH"]),
  (0x229E, "", ["SQUARED PLUS", "SQUARED MINUS", "SQUARED TIMES", "SQUARED DOT OPERATOR",
    "RIGHT TACK", "LEFT TACK", "DOWN TACK", "UP TACK", "ASSERTION", "MODELS", "TRUE", "FORCES",
    "TRIPLE VERTICAL BAR RIGHT TURNSTILE", "DOUBLE VERTICAL BAR DOUBLE RIGHT TURNSTILE",
    "DOES NOT PROVE", "NOT TRUE", "DOES NOT FORCE",
    "NEGATED DOUBLE VERTICAL BAR DOUBLE RIGHT TURNSTILE", "PRECEDES UNDER RELATION",
    "SUCCEEDS UNDER RELATION", "NORMAL SUBGROUP OF", "CONTAINS AS NORMAL SUBGROUP",
    "NORMAL SUBGROUP OF OR EQUAL TO", "CONTAINS AS NORMAL SUBGROUP OR EQUAL TO", "ORIGINAL OF",
    "IMAGE OF", "MULTIMAP", "HERMITIAN CONJUGATE MATRIX", "INTERCALATE", "XOR", "NAND", "NOR",
    "RIGHT ANGLE WITH ARC", "RIGHT TRIANGLE", "N-ARY LOGICAL AND", "N-ARY LOGICAL OR",
    "N-ARY INTERSECTION", "N-ARY UNION", "DIAMOND OPERATOR", "DOT OPERATOR", "STAR OPERATOR",
    "DIVISION TIMES", "BOWTIE", "LEFT NORMAL FACTOR SEMIDIRECT PRODUCT",
    "RIGHT NORMAL FACTOR SEMIDIRECT PRODUCT", "LEFT SEMIDIRECT PRODUCT", "RIGHT SEMIDIRECT PRODUCT",
    "REVERSED TILDE EQUALS", "CURLY LOGICAL OR", "CURLY LOGICAL AND", "DOUBLE SUBSET",
    "DOUBLE SUPERSET", "DOUBLE INTERSECTION", "DOUBLE UNION", "PITCHFORK", "EQUAL AND PARALLEL TO",
    "LESS-THAN WITH DOT", "GREATER-THAN WITH DOT", "VERY MUCH LESS-THAN", "VERY MUCH GREATER-THAN",
    "LESS-THAN EQUAL TO OR GREATER-THAN", "GREATER-THAN EQUAL TO OR LESS-THAN",
    "EQUAL TO OR LESS-THAN", "EQUAL TO OR GREATER-THAN", "EQUAL TO OR PRECEDES",
    "EQUAL TO OR SUCCEEDS", "DOES NOT PRECEDE OR EQUAL", "DOES NOT SUCCEED OR EQUAL",
    "NOT SQUARE IMAGE OF OR EQUAL TO", "NOT SQUARE ORIGINAL OF OR EQUAL TO",
    "SQUARE IMAGE OF OR NOT EQUAL TO", "SQUARE ORIGINAL OF OR NOT EQUAL TO",
    "LESS-THAN BUT NOT EQUIVALENT TO", "GREATER-THAN BUT NOT EQUIVALENT TO",
    "PRECEDES BUT NOT EQUIVALENT TO", "SUCCEEDS BUT NOT EQUIVALENT TO", "NOT NORMAL SUBGROUP OF",
    "DOES NOT CONTAIN AS NORMAL SUBGROUP", "NOT NORMAL SUBGROUP OF OR EQUAL TO",
    "DOES NOT CONTAIN AS NORMAL SUBGROUP OR EQUAL", "VERTICAL ELLIPSIS",
    "MIDLINE HORIZONTAL ELLIPSIS", "UP RIGHT DIAGONAL ELLIPSIS", "DOWN RIGHT DIAGONAL ELLIPSIS",
    "ELEMENT OF WITH LONG HORIZONTAL STROKE",
    "ELEMENT OF WITH VERTICAL BAR AT END OF HORIZONTAL STROKE",
    "SMALL ELEMENT OF WITH VERTICAL BAR AT END OF HORIZONTAL STROKE", "ELEMENT OF WITH DOT ABOVE",
    "ELEMENT OF WITH OVERBAR", "SMALL ELEMENT OF WITH OVERBAR", "ELEMENT OF WITH UNDERBAR",
    "ELEMENT OF WITH TWO HORIZONTAL STROKES", "CONTAINS WITH LONG HORIZONTAL STROKE",
    "CONTAINS WITH VERTICAL BAR AT END OF HORIZONTAL STROKE",
    "SMALL CONTAINS WITH VERTICAL BAR AT END OF HORIZONTAL STROKE", "CONTAINS WITH OVERBAR",
    "SMALL CONTAINS WITH OVERBAR", "Z NOTATION BAG MEMBERSHIP"])]

/-- Capital and small letters by turns: the first of them, their script, and how
the names of both go on. -/
def letterPairs : List (Nat × String × List String) := [
  (0x100, "LATIN", ["A WITH MACRON", "A WITH BREVE", "A WITH OGONEK", "C WITH ACUTE",
    "C WITH CIRCUMFLEX", "C WITH DOT ABOVE", "C WITH CARON", "D WITH CARON", "D WITH STROKE",
    "E WITH MACRON", "E WITH BREVE", "E WITH DOT ABOVE", "E WITH OGONEK", "E WITH CARON",
    "G WITH CIRCUMFLEX", "G WITH BREVE", "G WITH DOT ABOVE", "G WITH CEDILLA", "H WITH CIRCUMFLEX",
    "H WITH STROKE", "I WITH TILDE", "I WITH MACRON", "I WITH BREVE", "I WITH OGONEK"]),
  (0x134, "LATIN", ["J WITH CIRCUMFLEX", "K WITH CEDILLA"]),
  (0x139, "LATIN", ["L WITH ACUTE", "L WITH CEDILLA", "L WITH CARON", "L WITH MIDDLE DOT",
    "L WITH STROKE", "N WITH ACUTE", "N WITH CEDILLA", "N WITH CARON"]),
  (0x14A, "LATIN", ["ENG", "O WITH MACRON", "O WITH BREVE", "O WITH DOUBLE ACUTE"]),
  (0x154, "LATIN", ["R WITH ACUTE", "R WITH CEDILLA", "R WITH CARON", "S WITH ACUTE",
    "S WITH CIRCUMFLEX", "S WITH CEDILLA", "S WITH CARON", "T WITH CEDILLA", "T WITH CARON",
    "T WITH STROKE", "U WITH TILDE", "U WITH MACRON", "U WITH BREVE", "U WITH RING ABOVE",
    "U WITH DOUBLE ACUTE", "U WITH OGONEK", "W WITH CIRCUMFLEX", "Y WITH CIRCUMFLEX"]),
  (0x179, "LATIN", ["Z WITH ACUTE", "Z WITH DOT ABOVE", "Z WITH CARON"]),
  (0x182, "LATIN", ["B WITH TOPBAR", "TONE SIX"]),
  (0x1A0, "LATIN", ["O WITH HORN", "OI", "P WITH HOOK"]),
  (0x1B3, "LATIN", ["Y WITH HOOK", "Z WITH STROKE"]),
  (0x1CD, "LATIN", ["A WITH CARON", "I WITH CARON", "O WITH CARON", "U WITH CARON",
    "U WITH DIAERESIS AND MACRON", "U WITH DIAERESIS AND ACUTE", "U WITH DIAERESIS AND CARON",
    "U WITH DIAERESIS AND GRAVE"]),
  (0x1DE, "LATIN", ["A WITH DIAERESIS AND MACRON", "A WITH DOT ABOVE AND MACRON", "AE WITH MACRON",
    "G WITH STROKE", "G WITH CARON", "K WITH CARON", "O WITH OGONEK", "O WITH OGONEK AND MACRON",
    "EZH WITH CARON"]),
  (0x1F8, "LATIN", ["N WITH GRAVE", "A WITH RING ABOVE AND ACUTE", "AE WITH ACUTE",
    "O WITH STROKE AND ACUTE", "A WITH DOUBLE GRAVE", "A WITH INVERTED BREVE",
    "E WITH DOUBLE GRAVE", "E WITH INVERTED BREVE", "I WITH DOUBLE GRAVE", "I WITH INVERTED BREVE",
    "O WITH DOUBLE GRAVE", "O WITH INVERTED BREVE", "R WITH DOUBLE GRAVE", "R WITH INVERTED BREVE",
    "U WITH DOUBLE GRAVE", "U WITH INVERTED BREVE", "S WITH COMMA BELOW", "T WITH COMMA BELOW",
    "YOGH", "H WITH CARON"]),
  (0x222, "LATIN", ["OU", "Z WITH HOOK", "A WITH DOT ABOVE", "E WITH CEDILLA",
    "O WITH DIAERESIS AND MACRON", "O WITH TILDE AND MACRON", "O WITH DOT ABOVE",
    "O WITH DOT ABOVE AND MACRON", "Y WITH MACRON"]),
  (0x246, "LATIN", ["E WITH STROKE", "J WITH STROKE"]),
  (0x24C, "LATIN", ["R WITH STROKE", "Y WITH STROKE"]),
  (0x370, "GREEK", ["HETA", "ARCHAIC SAMPI"]),
  (0x3E2, "COPTIC", ["SHEI", "FEI", "KHEI", "HORI", "GANGIA", "SHIMA", "DEI"]),
  (0x460, "CYRILLIC", ["OMEGA", "YAT", "IOTIFIED E", "LITTLE YUS", "IOTIFIED LITTLE YUS", "BIG YUS",
    "IOTIFIED BIG YUS", "KSI", "PSI", "FITA", "IZHITSA", "IZHITSA WITH DOUBLE GRAVE ACCENT", "UK",
    "ROUND OMEGA", "OMEGA WITH TITLO", "OT", "KOPPA"]),
  (0x48A, "CYRILLIC", ["SHORT I WITH TAIL", "SEMISOFT SIGN", "ER WITH TICK", "GHE WITH UPTURN",
    "GHE WITH STROKE", "GHE WITH MIDDLE HOOK", "ZHE WITH DESCENDER", "ZE WITH DESCENDER",
    "KA WITH DESCENDER", "KA WITH VERTICAL STROKE", "KA WITH STROKE", "BASHKIR KA",
    "EN WITH DESCENDER"]),
  (0x4A6, "CYRILLIC", ["PE WITH MIDDLE HOOK", "ABKHASIAN HA", "ES WITH DESCENDER",
    "TE WITH DESCENDER", "STRAIGHT U", "STRAIGHT U WITH STROKE", "HA WITH DESCENDER"]),
  (0x4B6, "CYRILLIC", ["CHE WITH DESCENDER", "CHE WITH VERTICAL STROKE", "SHHA", "ABKHASIAN CHE",
    "ABKHASIAN CHE WITH DESCENDER"]),
  (0x4C1, "CYRILLIC", ["ZHE WITH BREVE", "KA WITH HOOK", "EL WITH TAIL", "EN WITH HOOK",
    "EN WITH TAIL", "KHAKASSIAN CHE", "EM WITH TAIL"]),
  (0x4D0, "CYRILLIC", ["A WITH BREVE", "A WITH DIAERESIS"]),
  (0x4D6, "CYRILLIC", ["IE WITH BREVE", "SCHWA", "SCHWA WITH DIAERESIS", "ZHE WITH DIAERESIS",
    "ZE WITH DIAERESIS", "ABKHASIAN DZE", "I WITH MACRON", "I WITH DIAERESIS", "O WITH DIAERESIS",
    "BARRED O", "BARRED O WITH DIAERESIS", "E WITH DIAERESIS", "U WITH MACRON", "U WITH DIAERESIS",
    "U WITH DOUBLE ACUTE", "CHE WITH DIAERESIS", "GHE WITH DESCENDER", "YERU WITH DIAERESIS",
    "GHE WITH STROKE AND HOOK", "HA WITH HOOK", "HA WITH STROKE", "KOMI DE", "KOMI DJE", "KOMI ZJE",
    "KOMI DZJE", "KOMI LJE", "KOMI NJE", "KOMI SJE", "KOMI TJE", "REVERSED ZE", "EL WITH HOOK",
    "LHA", "RHA", "YAE", "QA", "WE", "ALEUT KA", "EL WITH MIDDLE HOOK", "EN WITH MIDDLE HOOK",
    "PE WITH DESCENDER", "SHHA WITH DESCENDER", "EN WITH LEFT HOOK", "DZZHE", "DCHE",
    "EL WITH DESCENDER"])]

def nameAliases : List (Nat × List String) := [
  (0x0, ["NULL", "NUL"]), (0x1, ["START OF HEADING", "SOH"]), (0x2, ["START OF TEXT", "STX"]),
  (0x3, ["END OF TEXT", "ETX"]), (0x4, ["END OF TRANSMISSION", "EOT"]), (0x5, ["ENQUIRY", "ENQ"]),
  (0x6, ["ACKNOWLEDGE", "ACK"]), (0x7, ["ALERT", "BEL"]), (0x8, ["BACKSPACE", "BS"]),
  (0x9, ["CHARACTER TABULATION", "HORIZONTAL TABULATION", "HT", "TAB"]),
  (0xA, ["LINE FEED", "NEW LINE", "END OF LINE", "LF", "NL", "EOL"]),
  (0xB, ["LINE TABULATION", "VERTICAL TABULATION", "VT"]), (0xC, ["FORM FEED", "FF"]),
  (0xD, ["CARRIAGE RETURN", "CR"]), (0xE, ["SHIFT OUT", "LOCKING-SHIFT ONE", "SO"]),
  (0xF, ["SHIFT IN", "LOCKING-SHIFT ZERO", "SI"]), (0x10, ["DATA LINK ESCAPE", "DLE"]),
  (0x11, ["DEVICE CONTROL ONE", "DC1"]), (0x12, ["DEVICE CONTROL TWO", "DC2"]),
  (0x13, ["DEVICE CONTROL THREE", "DC3"]), (0x14, ["DEVICE CONTROL FOUR", "DC4"]),
  (0x15, ["NEGATIVE ACKNOWLEDGE", "NAK"]), (0x16, ["SYNCHRONOUS IDLE", "SYN"]),
  (0x17, ["END OF TRANSMISSION BLOCK", "ETB"]), (0x18, ["CANCEL", "CAN"]),
  (0x19, ["END OF MEDIUM", "EOM"]), (0x1A, ["SUBSTITUTE", "SUB"]), (0x1B, ["ESCAPE", "ESC"]),
  (0x1C, ["INFORMATION SEPARATOR FOUR", "FILE SEPARATOR", "FS"]),
  (0x1D, ["INFORMATION SEPARATOR THREE", "GROUP SEPARATOR", "GS"]),
  (0x1E, ["INFORMATION SEPARATOR TWO", "RECORD SEPARATOR", "RS"]),
  (0x1F, ["INFORMATION SEPARATOR ONE", "UNIT SEPARATOR", "US"]), (0x20, ["SP"]),
  (0x7F, ["DELETE", "DEL"]), (0x80, ["PADDING CHARACTER", "PAD"]),
  (0x81, ["HIGH OCTET PRESET", "HOP"]), (0x82, ["BREAK PERMITTED HERE", "BPH"]),
  (0x83, ["NO BREAK HERE", "NBH"]), (0x84, ["INDEX", "IND"]), (0x85, ["NEXT LINE", "NEL"]),
  (0x86, ["START OF SELECTED AREA", "SSA"]), (0x87, ["END OF SELECTED AREA", "ESA"]),
  (0x88, ["CHARACTER TABULATION SET", "HORIZONTAL TABULATION SET", "HTS"]),
  (0x89, ["CHARACTER TABULATION WITH JUSTIFICATION", "HORIZONTAL TABULATION WITH JUSTIFICATION",
    "HTJ"]), (0x8A, ["LINE TABULATION SET", "VERTICAL TABULATION SET", "VTS"]),
  (0x8B, ["PARTIAL LINE FORWARD", "PARTIAL LINE DOWN", "PLD"]),
  (0x8C, ["PARTIAL LINE BACKWARD", "PARTIAL LINE UP", "PLU"]),
  (0x8D, ["REVERSE LINE FEED", "REVERSE INDEX", "RI"]),
  (0x8E, ["SINGLE SHIFT TWO", "SINGLE-SHIFT-2", "SS2"]),
  (0x8F, ["SINGLE SHIFT THREE", "SINGLE-SHIFT-3", "SS3"]), (0x90, ["DEVICE CONTROL STRING", "DCS"]),
  (0x91, ["PRIVATE USE ONE", "PRIVATE USE-1", "PU1"]),
  (0x92, ["PRIVATE USE TWO", "PRIVATE USE-2", "PU2"]), (0x93, ["SET TRANSMIT STATE", "STS"]),
  (0x94, ["CANCEL CHARACTER", "CCH"]), (0x95, ["MESSAGE WAITING", "MW"]),
  (0x96, ["START OF GUARDED AREA", "START OF PROTECTED AREA", "SPA"]),
  (0x97, ["END OF GUARDED AREA", "END OF PROTECTED AREA", "EPA"]),
  (0x98, ["START OF STRING", "SOS"]), (0x99, ["SINGLE GRAPHIC CHARACTER INTRODUCER", "SGC"]),
  (0x9A, ["SINGLE CHARACTER INTRODUCER", "SCI"]), (0x9B, ["CONTROL SEQUENCE INTRODUCER", "CSI"]),
  (0x9C, ["STRING TERMINATOR", "ST"]), (0x9D, ["OPERATING SYSTEM COMMAND", "OSC"]),
  (0x9E, ["PRIVACY MESSAGE", "PM"]), (0x9F, ["APPLICATION PROGRAM COMMAND", "APC"]),
  (0xA0, ["NBSP"]), (0xAD, ["SHY"]), (0x1A2, ["LATIN CAPITAL LETTER GHA"]),
  (0x1A3, ["LATIN SMALL LETTER GHA"]), (0x34F, ["CGJ"]), (0x200B, ["ZWSP"]), (0x200C, ["ZWNJ"]),
  (0x200D, ["ZWJ"]), (0x200E, ["LRM"]), (0x200F, ["RLM"]), (0x202A, ["LRE"]), (0x202B, ["RLE"]),
  (0x202C, ["PDF"]), (0x202D, ["LRO"]), (0x202E, ["RLO"]), (0x202F, ["NNBSP"]), (0x205F, ["MMSP"]),
  (0x2060, ["WJ"]), (0x2066, ["LRI"]), (0x2067, ["RLI"]), (0x2068, ["FSI"]), (0x2069, ["PDI"]),
  (0x2118, ["WEIERSTRASS ELLIPTIC FUNCTION"])]

def endingPlace? (start : String) (endings : List String) (name : List Char) : Option Nat :=
  if start.toList.isPrefixOf name then
    endings.idxOf? (String.ofList (name.drop start.length))
  else none

def listedCharacter? (name : List Char) : Option Nat :=
  let inRuns := nameRuns.findSome? fun (first, start, endings) =>
    (endingPlace? start endings name).map (first + ·)
  let inPairs (offset : Nat) (size : String) :=
    letterPairs.findSome? fun (first, script, endings) =>
      (endingPlace? (script ++ size) endings name).map (first + offset + 2 * ·)
  let inAliases := nameAliases.findSome? fun (code, names) =>
    if names.contains (String.ofList name) then some code else none
  inRuns <|> inPairs 0 " CAPITAL LETTER " <|> inPairs 1 " SMALL LETTER " <|> inAliases

/-- The character of the name. Names by rule are in capitals, and in all others
the case of letters does not count. -/
def characterNamed? (name : List Char) : Option Nat :=
  let syllable := "HANGUL SYLLABLE ".toList
  let ideograph := "CJK UNIFIED IDEOGRAPH-".toList
  if syllable.isPrefixOf name then
    (syllableFrom 0 syllableParts (name.drop syllable.length)).map (0xAC00 + ·)
  else if ideograph.isPrefixOf name then ideograph? (name.drop ideograph.length)
  else listedCharacter? (name.map Char.toUpper)

example : characterNamed? "Digit One".toList = some 0x31 := by decide +kernel
example : characterNamed? "HANGUL SYLLABLE HAN".toList = some 0xD55C := by decide +kernel

end ShadowLint.Text
