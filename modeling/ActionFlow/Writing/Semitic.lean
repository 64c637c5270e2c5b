import ActionFlow.Text.CharacterName.Run

/-!
# Names of Semitic letters

The names of the letters of Hebrew, Arabic, Syriac and kindred scripts.
-/

namespace ActionFlow.Text

/-- The names of letters of Semitic scripts. -/
def semiticNames : List NameRun := [
  ⟨0x591, "HEBREW ACCENT ", ["ETNAHTA", "SEGOL", "SHALSHELET", "ZAQEF QATAN", "ZAQEF GADOL",
    "TIPEHA", "REVIA", "ZARQA", "PASHTA", "YETIV", "TEVIR", "GERESH", "GERESH MUQDAM",
    "GERSHAYIM", "QARNEY PARA", "TELISHA GEDOLA", "PAZER", "ATNAH HAFUKH", "MUNAH", "MAHAPAKH",
    "MERKHA", "MERKHA KEFULA", "DARGA", "QADMA", "TELISHA QETANA", "YERAH BEN YOMO", "OLE",
    "ILUY", "DEHI", "ZINOR"]⟩,
  ⟨0x5AF, "", ["HEBREW MARK MASORA CIRCLE"]⟩,
  ⟨0x5B0, "HEBREW POINT ", ["SHEVA", "HATAF SEGOL", "HATAF PATAH", "HATAF QAMATS", "HIRIQ",
    "TSERE", "SEGOL", "PATAH", "QAMATS", "HOLAM", "HOLAM HASER FOR VAV", "QUBUTS",
    "DAGESH OR MAPIQ", "METEG"]⟩,
  ⟨0x5BE, "HEBREW ", ["PUNCTUATION MAQAF", "POINT RAFE", "PUNCTUATION PASEQ", "POINT SHIN DOT",
    "POINT SIN DOT", "PUNCTUATION SOF PASUQ", "MARK UPPER DOT", "MARK LOWER DOT",
    "PUNCTUATION NUN HAFUKHA", "POINT QAMATS QATAN"]⟩,
  ⟨0x5D0, "HEBREW LETTER ", ["ALEF", "BET", "GIMEL", "DALET", "HE", "VAV", "ZAYIN", "HET", "TET",
    "YOD", "FINAL KAF", "KAF", "LAMED", "FINAL MEM", "MEM", "FINAL NUN", "NUN", "SAMEKH", "AYIN",
    "FINAL PE", "PE", "FINAL TSADI", "TSADI", "QOF", "RESH", "SHIN", "TAV"]⟩,
  ⟨0x5EF, "HEBREW ", ["YOD TRIANGLE", "LIGATURE YIDDISH DOUBLE VAV", "LIGATURE YIDDISH VAV YOD",
    "LIGATURE YIDDISH DOUBLE YOD", "PUNCTUATION GERESH", "PUNCTUATION GERSHAYIM"]⟩,
  ⟨0x600, "ARABIC ", ["NUMBER SIGN", "SIGN SANAH", "FOOTNOTE MARKER", "SIGN SAFHA",
    "SIGN SAMVAT", "NUMBER MARK ABOVE"]⟩,
  ⟨0x606, "", ["ARABIC-INDIC CUBE ROOT", "ARABIC-INDIC FOURTH ROOT", "ARABIC RAY",
    "ARABIC-INDIC PER MILLE SIGN", "ARABIC-INDIC PER TEN THOUSAND SIGN", "AFGHANI SIGN"]⟩,
  ⟨0x60C, "ARABIC ", ["COMMA", "DATE SEPARATOR", "POETIC VERSE SIGN", "SIGN MISRA",
    "SIGN SALLALLAHOU ALAYHE WASSALLAM", "SIGN ALAYHE ASSALLAM", "SIGN RAHMATULLAH ALAYHE",
    "SIGN RADI ALLAHOU ANHU", "SIGN TAKHALLUS", "SMALL HIGH TAH",
    "SMALL HIGH LIGATURE ALEF WITH LAM WITH YEH", "SMALL HIGH ZAIN", "SMALL FATHA",
    "SMALL DAMMA", "SMALL KASRA", "SEMICOLON", "LETTER MARK", "END OF TEXT MARK",
    "TRIPLE DOT PUNCTUATION MARK", "QUESTION MARK"]⟩,
  ⟨0x620, "ARABIC LETTER ", ["KASHMIRI YEH", "HAMZA", "ALEF WITH MADDA ABOVE",
    "ALEF WITH HAMZA ABOVE", "WAW WITH HAMZA ABOVE", "ALEF WITH HAMZA BELOW",
    "YEH WITH HAMZA ABOVE", "ALEF", "BEH", "TEH MARBUTA", "TEH", "THEH", "JEEM", "HAH", "KHAH",
    "DAL", "THAL", "REH", "ZAIN", "SEEN", "SHEEN", "SAD", "DAD", "TAH", "ZAH", "AIN", "GHAIN",
    "KEHEH WITH TWO DOTS ABOVE", "KEHEH WITH THREE DOTS BELOW", "FARSI YEH WITH INVERTED V",
    "FARSI YEH WITH TWO DOTS ABOVE", "FARSI YEH WITH THREE DOTS ABOVE"]⟩,
  ⟨0x640, "", ["ARABIC TATWEEL"]⟩,
  ⟨0x641, "ARABIC LETTER ", ["FEH", "QAF", "KAF", "LAM", "MEEM", "NOON", "HEH", "WAW",
    "ALEF MAKSURA", "YEH"]⟩,
  ⟨0x64B, "ARABIC ", ["FATHATAN", "DAMMATAN", "KASRATAN", "FATHA", "DAMMA", "KASRA", "SHADDA",
    "SUKUN", "MADDAH ABOVE", "HAMZA ABOVE", "HAMZA BELOW", "SUBSCRIPT ALEF", "INVERTED DAMMA",
    "MARK NOON GHUNNA", "ZWARAKAY", "VOWEL SIGN SMALL V ABOVE",
    "VOWEL SIGN INVERTED SMALL V ABOVE", "VOWEL SIGN DOT BELOW", "REVERSED DAMMA",
    "FATHA WITH TWO DOTS", "WAVY HAMZA BELOW"]⟩,
  ⟨0x660, "ARABIC-INDIC DIGIT ", ["ZERO", "ONE", "TWO", "THREE", "FOUR", "FIVE", "SIX", "SEVEN",
    "EIGHT", "NINE"]⟩,
  ⟨0x66A, "ARABIC ", ["PERCENT SIGN", "DECIMAL SEPARATOR", "THOUSANDS SEPARATOR",
    "FIVE POINTED STAR"]⟩,
  ⟨0x66E, "ARABIC LETTER ", ["DOTLESS BEH", "DOTLESS QAF", "SUPERSCRIPT ALEF", "ALEF WASLA",
    "ALEF WITH WAVY HAMZA ABOVE", "ALEF WITH WAVY HAMZA BELOW", "HIGH HAMZA", "HIGH HAMZA ALEF",
    "HIGH HAMZA WAW", "U WITH HAMZA ABOVE", "HIGH HAMZA YEH", "TTEH", "TTEHEH", "BEEH",
    "TEH WITH RING", "TEH WITH THREE DOTS ABOVE DOWNWARDS", "PEH", "TEHEH", "BEHEH",
    "HAH WITH HAMZA ABOVE", "HAH WITH TWO DOTS VERTICAL ABOVE", "NYEH", "DYEH",
    "HAH WITH THREE DOTS ABOVE", "TCHEH", "TCHEHEH", "DDAL", "DAL WITH RING",
    "DAL WITH DOT BELOW", "DAL WITH DOT BELOW AND SMALL TAH", "DAHAL", "DDAHAL", "DUL",
    "DAL WITH THREE DOTS ABOVE DOWNWARDS", "DAL WITH FOUR DOTS ABOVE", "RREH",
    "REH WITH SMALL V", "REH WITH RING", "REH WITH DOT BELOW", "REH WITH SMALL V BELOW",
    "REH WITH DOT BELOW AND DOT ABOVE", "REH WITH TWO DOTS ABOVE", "JEH",
    "REH WITH FOUR DOTS ABOVE", "SEEN WITH DOT BELOW AND DOT ABOVE",
    "SEEN WITH THREE DOTS BELOW", "SEEN WITH THREE DOTS BELOW AND THREE DOTS ABOVE",
    "SAD WITH TWO DOTS BELOW", "SAD WITH THREE DOTS ABOVE", "TAH WITH THREE DOTS ABOVE",
    "AIN WITH THREE DOTS ABOVE", "DOTLESS FEH", "FEH WITH DOT MOVED BELOW", "FEH WITH DOT BELOW",
    "VEH", "FEH WITH THREE DOTS BELOW", "PEHEH", "QAF WITH DOT ABOVE",
    "QAF WITH THREE DOTS ABOVE", "KEHEH", "SWASH KAF", "KAF WITH RING", "KAF WITH DOT ABOVE",
    "NG", "KAF WITH THREE DOTS BELOW", "GAF", "GAF WITH RING", "NGOEH",
    "GAF WITH TWO DOTS BELOW", "GUEH", "GAF WITH THREE DOTS ABOVE", "LAM WITH SMALL V",
    "LAM WITH DOT ABOVE", "LAM WITH THREE DOTS ABOVE", "LAM WITH THREE DOTS BELOW",
    "NOON WITH DOT BELOW", "NOON GHUNNA", "RNOON", "NOON WITH RING",
    "NOON WITH THREE DOTS ABOVE", "HEH DOACHASHMEE", "TCHEH WITH DOT ABOVE",
    "HEH WITH YEH ABOVE", "HEH GOAL", "HEH GOAL WITH HAMZA ABOVE", "TEH MARBUTA GOAL",
    "WAW WITH RING", "KIRGHIZ OE", "OE", "U", "YU", "KIRGHIZ YU", "WAW WITH TWO DOTS ABOVE",
    "VE", "FARSI YEH", "YEH WITH TAIL", "YEH WITH SMALL V", "WAW WITH DOT ABOVE", "E",
    "YEH WITH THREE DOTS BELOW", "YEH BARREE", "YEH BARREE WITH HAMZA ABOVE"]⟩,
  ⟨0x6D4, "ARABIC ", ["FULL STOP", "LETTER AE"]⟩,
  ⟨0x6D6, "ARABIC SMALL HIGH ", ["LIGATURE SAD WITH LAM WITH ALEF MAKSURA",
    "LIGATURE QAF WITH LAM WITH ALEF MAKSURA", "MEEM INITIAL FORM", "LAM ALEF", "JEEM",
    "THREE DOTS", "SEEN"]⟩,
  ⟨0x6DD, "ARABIC ", ["END OF AYAH", "START OF RUB EL HIZB", "SMALL HIGH ROUNDED ZERO",
    "SMALL HIGH UPRIGHT RECTANGULAR ZERO", "SMALL HIGH DOTLESS HEAD OF KHAH",
    "SMALL HIGH MEEM ISOLATED FORM", "SMALL LOW SEEN", "SMALL HIGH MADDA", "SMALL WAW",
    "SMALL YEH", "SMALL HIGH YEH", "SMALL HIGH NOON", "PLACE OF SAJDAH", "EMPTY CENTRE LOW STOP",
    "EMPTY CENTRE HIGH STOP", "ROUNDED HIGH STOP WITH FILLED CENTRE", "SMALL LOW MEEM",
    "LETTER DAL WITH INVERTED V", "LETTER REH WITH INVERTED V"]⟩,
  ⟨0x6F0, "EXTENDED ARABIC-INDIC DIGIT ", ["ZERO", "ONE", "TWO", "THREE", "FOUR", "FIVE", "SIX",
    "SEVEN", "EIGHT", "NINE"]⟩,
  ⟨0x6FA, "ARABIC ", ["LETTER SHEEN WITH DOT BELOW", "LETTER DAD WITH DOT BELOW",
    "LETTER GHAIN WITH DOT BELOW", "SIGN SINDHI AMPERSAND", "SIGN SINDHI POSTPOSITION MEN",
    "LETTER HEH WITH INVERTED V"]⟩,
  ⟨0x700, "SYRIAC ", ["END OF PARAGRAPH", "SUPRALINEAR FULL STOP", "SUBLINEAR FULL STOP",
    "SUPRALINEAR COLON", "SUBLINEAR COLON", "HORIZONTAL COLON", "COLON SKEWED LEFT",
    "COLON SKEWED RIGHT", "SUPRALINEAR COLON SKEWED LEFT", "SUBLINEAR COLON SKEWED RIGHT",
    "CONTRACTION", "HARKLEAN OBELUS", "HARKLEAN METOBELUS", "HARKLEAN ASTERISCUS"]⟩,
  ⟨0x70F, "", ["SYRIAC ABBREVIATION MARK"]⟩,
  ⟨0x710, "SYRIAC LETTER ", ["ALAPH", "SUPERSCRIPT ALAPH", "BETH", "GAMAL", "GAMAL GARSHUNI",
    "DALATH", "DOTLESS DALATH RISH", "HE", "WAW", "ZAIN", "HETH", "TETH", "TETH GARSHUNI",
    "YUDH", "YUDH HE", "KAPH", "LAMADH", "MIM", "NUN", "SEMKATH", "FINAL SEMKATH", "E", "PE",
    "REVERSED PE", "SADHE", "QAPH", "RISH", "SHIN", "TAW", "PERSIAN BHETH", "PERSIAN GHAMAL",
    "PERSIAN DHALATH"]⟩,
  ⟨0x730, "SYRIAC ", ["PTHAHA ABOVE", "PTHAHA BELOW", "PTHAHA DOTTED", "ZQAPHA ABOVE",
    "ZQAPHA BELOW", "ZQAPHA DOTTED", "RBASA ABOVE", "RBASA BELOW", "DOTTED ZLAMA HORIZONTAL",
    "DOTTED ZLAMA ANGULAR", "HBASA ABOVE", "HBASA BELOW", "HBASA-ESASA DOTTED", "ESASA ABOVE",
    "ESASA BELOW", "RWAHA", "FEMININE DOT", "QUSHSHAYA", "RUKKAKHA", "TWO VERTICAL DOTS ABOVE",
    "TWO VERTICAL DOTS BELOW", "THREE DOTS ABOVE", "THREE DOTS BELOW", "OBLIQUE LINE ABOVE",
    "OBLIQUE LINE BELOW", "MUSIC", "BARREKH"]⟩,
  ⟨0x74D, "SYRIAC LETTER SOGDIAN ", ["ZHAIN", "KHAPH", "FE"]⟩,
  ⟨0x750, "ARABIC LETTER BEH WITH ", ["THREE DOTS HORIZONTALLY BELOW",
    "DOT BELOW AND THREE DOTS ABOVE", "THREE DOTS POINTING UPWARDS BELOW",
    "THREE DOTS POINTING UPWARDS BELOW AND TWO DOTS ABOVE", "TWO DOTS BELOW AND DOT ABOVE",
    "INVERTED SMALL V BELOW", "SMALL V"]⟩,
  ⟨0x757, "ARABIC LETTER ", ["HAH WITH TWO DOTS ABOVE",
    "HAH WITH THREE DOTS POINTING UPWARDS BELOW",
    "DAL WITH TWO DOTS VERTICALLY BELOW AND SMALL TAH", "DAL WITH INVERTED SMALL V BELOW",
    "REH WITH STROKE", "SEEN WITH FOUR DOTS ABOVE", "AIN WITH TWO DOTS ABOVE",
    "AIN WITH THREE DOTS POINTING DOWNWARDS ABOVE", "AIN WITH TWO DOTS VERTICALLY ABOVE",
    "FEH WITH TWO DOTS BELOW", "FEH WITH THREE DOTS POINTING UPWARDS BELOW",
    "KEHEH WITH DOT ABOVE", "KEHEH WITH THREE DOTS ABOVE",
    "KEHEH WITH THREE DOTS POINTING UPWARDS BELOW", "MEEM WITH DOT ABOVE", "MEEM WITH DOT BELOW",
    "NOON WITH TWO DOTS BELOW", "NOON WITH SMALL TAH", "NOON WITH SMALL V", "LAM WITH BAR",
    "REH WITH TWO DOTS VERTICALLY ABOVE", "REH WITH HAMZA ABOVE",
    "SEEN WITH TWO DOTS VERTICALLY ABOVE", "HAH WITH SMALL ARABIC LETTER TAH BELOW",
    "HAH WITH SMALL ARABIC LETTER TAH AND TWO DOTS",
    "SEEN WITH SMALL ARABIC LETTER TAH AND TWO DOTS",
    "REH WITH SMALL ARABIC LETTER TAH AND TWO DOTS", "HAH WITH SMALL ARABIC LETTER TAH ABOVE"]⟩,
  ⟨0x773, "ARABIC LETTER ALEF WITH EXTENDED ARABIC-INDIC DIGIT ", ["TWO ABOVE", "THREE ABOVE"]⟩,
  ⟨0x775, "ARABIC LETTER FARSI YEH WITH EXTENDED ARABIC-INDIC DIGIT ", ["TWO ABOVE",
    "THREE ABOVE", "FOUR BELOW"]⟩,
  ⟨0x778, "ARABIC LETTER WAW WITH EXTENDED ARABIC-INDIC DIGIT ", ["TWO ABOVE", "THREE ABOVE"]⟩,
  ⟨0x77A, "ARABIC LETTER YEH BARREE WITH EXTENDED ARABIC-INDIC DIGIT ", ["TWO ABOVE",
    "THREE ABOVE"]⟩,
  ⟨0x77C, "ARABIC LETTER ", ["HAH WITH EXTENDED ARABIC-INDIC DIGIT FOUR BELOW",
    "SEEN WITH EXTENDED ARABIC-INDIC DIGIT FOUR ABOVE", "SEEN WITH INVERTED V",
    "KAF WITH TWO DOTS ABOVE"]⟩,
  ⟨0x780, "THAANA LETTER ", ["HAA", "SHAVIYANI", "NOONU", "RAA", "BAA", "LHAVIYANI", "KAAFU",
    "ALIFU", "VAAVU", "MEEMU", "FAAFU", "DHAALU", "THAA", "LAAMU", "GAAFU", "GNAVIYANI", "SEENU",
    "DAVIYANI", "ZAVIYANI", "TAVIYANI", "YAA", "PAVIYANI", "JAVIYANI", "CHAVIYANI", "TTAA",
    "HHAA", "KHAA", "THAALU", "ZAA", "SHEENU", "SAADHU", "DAADHU", "TO", "ZO", "AINU", "GHAINU",
    "QAAFU", "WAAVU"]⟩,
  ⟨0x7A6, "THAANA ", ["ABAFILI", "AABAAFILI", "IBIFILI", "EEBEEFILI", "UBUFILI", "OOBOOFILI",
    "EBEFILI", "EYBEYFILI", "OBOFILI", "OABOAFILI", "SUKUN", "LETTER NAA"]⟩,
  ⟨0x800, "SAMARITAN LETTER ", ["ALAF", "BIT", "GAMAN", "DALAT", "IY", "BAA", "ZEN", "IT", "TIT",
    "YUT", "KAAF", "LABAT", "MIM", "NUN", "SINGAAT", "IN", "FI", "TSAADIY", "QUF", "RISH",
    "SHAN", "TAAF"]⟩,
  ⟨0x816, "SAMARITAN ", ["MARK IN", "MARK IN-ALAF", "MARK OCCLUSION", "MARK DAGESH",
    "MODIFIER LETTER EPENTHETIC YUT", "MARK EPENTHETIC YUT"]⟩,
  ⟨0x81C, "SAMARITAN VOWEL SIGN ", ["LONG E", "E", "OVERLONG AA", "LONG AA", "AA", "OVERLONG A",
    "LONG A", "A"]⟩,
  ⟨0x824, "SAMARITAN ", ["MODIFIER LETTER SHORT A", "VOWEL SIGN SHORT A", "VOWEL SIGN LONG U",
    "VOWEL SIGN U", "MODIFIER LETTER I", "VOWEL SIGN LONG I", "VOWEL SIGN I", "VOWEL SIGN O",
    "VOWEL SIGN SUKUN", "MARK NEQUDAA"]⟩,
  ⟨0x830, "SAMARITAN PUNCTUATION ", ["NEQUDAA", "AFSAAQ", "ANGED", "BAU", "ATMAAU",
    "SHIYYAALAA"]⟩,
  ⟨0x836, "", ["SAMARITAN ABBREVIATION MARK"]⟩,
  ⟨0x837, "SAMARITAN PUNCTUATION ", ["MELODIC QITSA", "ZIQAA", "QITSA", "ZAEF", "TURU",
    "ARKAANU", "SOF MASHFAAT", "ANNAAU"]⟩,
  ⟨0x840, "MANDAIC LETTER ", ["HALQA", "AB", "AG", "AD", "AH", "USHENNA", "AZ", "IT", "ATT",
    "AKSA", "AK", "AL", "AM", "AN", "AS", "IN", "AP", "ASZ", "AQ", "AR", "ASH", "AT", "DUSHENNA",
    "KAD", "AIN"]⟩,
  ⟨0x859, "MANDAIC ", ["AFFRICATION MARK", "VOCALIZATION MARK", "GEMINATION MARK"]⟩,
  ⟨0x85E, "", ["MANDAIC PUNCTUATION"]⟩,
  ⟨0x860, "SYRIAC LETTER MALAYALAM ", ["NGA", "JA", "NYA", "TTA", "NNA", "NNNA", "BHA", "RA",
    "LLA", "LLLA", "SSA"]⟩,
  ⟨0x870, "ARABIC LETTER ALEF WITH ", ["ATTACHED FATHA", "ATTACHED TOP RIGHT FATHA",
    "RIGHT MIDDLE STROKE", "LEFT MIDDLE STROKE", "ATTACHED KASRA", "ATTACHED BOTTOM RIGHT KASRA",
    "ATTACHED ROUND DOT ABOVE", "ATTACHED RIGHT ROUND DOT", "ATTACHED LEFT ROUND DOT",
    "ATTACHED ROUND DOT BELOW", "DOT ABOVE", "ATTACHED TOP RIGHT FATHA AND DOT ABOVE",
    "RIGHT MIDDLE STROKE AND DOT ABOVE", "ATTACHED BOTTOM RIGHT KASRA AND DOT ABOVE",
    "ATTACHED TOP RIGHT FATHA AND LEFT RING", "RIGHT MIDDLE STROKE AND LEFT RING",
    "ATTACHED BOTTOM RIGHT KASRA AND LEFT RING", "ATTACHED RIGHT HAMZA", "ATTACHED LEFT HAMZA"]⟩,
  ⟨0x883, "ARABIC ", ["TATWEEL WITH OVERSTRUCK HAMZA", "TATWEEL WITH OVERSTRUCK WAW",
    "TATWEEL WITH TWO DOTS BELOW", "LETTER THIN YEH", "BASELINE ROUND DOT", "RAISED ROUND DOT",
    "LETTER NOON WITH INVERTED SMALL V", "LETTER HAH WITH INVERTED SMALL V BELOW",
    "LETTER TAH WITH DOT BELOW", "LETTER TAH WITH THREE DOTS BELOW",
    "LETTER KEHEH WITH TWO DOTS VERTICALLY BELOW", "VERTICAL TAIL"]⟩,
  ⟨0x890, "ARABIC ", ["POUND MARK ABOVE", "PIASTRE MARK ABOVE"]⟩,
  ⟨0x898, "ARABIC ", ["SMALL HIGH WORD AL-JUZ", "SMALL LOW WORD ISHMAAM",
    "SMALL LOW WORD IMAALA", "SMALL LOW WORD TASHEEL", "MADDA WAAJIB",
    "SUPERSCRIPT ALEF MOKHASSAS", "DOUBLED MADDA", "HALF MADDA OVER MADDA"]⟩,
  ⟨0x8A0, "ARABIC LETTER ", ["BEH WITH SMALL V BELOW", "BEH WITH HAMZA ABOVE",
    "JEEM WITH TWO DOTS ABOVE", "TAH WITH TWO DOTS ABOVE",
    "FEH WITH DOT BELOW AND THREE DOTS ABOVE", "QAF WITH DOT BELOW", "LAM WITH DOUBLE BAR",
    "MEEM WITH THREE DOTS ABOVE", "YEH WITH TWO DOTS BELOW AND HAMZA ABOVE",
    "YEH WITH TWO DOTS BELOW AND DOT ABOVE", "REH WITH LOOP", "WAW WITH DOT WITHIN",
    "ROHINGYA YEH", "LOW ALEF", "DAL WITH THREE DOTS BELOW", "SAD WITH THREE DOTS BELOW",
    "GAF WITH INVERTED STROKE", "STRAIGHT WAW", "ZAIN WITH INVERTED V ABOVE",
    "AIN WITH THREE DOTS BELOW", "KAF WITH DOT BELOW", "QAF WITH DOT BELOW AND NO DOTS ABOVE",
    "BEH WITH SMALL MEEM ABOVE", "PEH WITH SMALL MEEM ABOVE", "TEH WITH SMALL TEH ABOVE",
    "REH WITH SMALL NOON ABOVE", "YEH WITH TWO DOTS BELOW AND SMALL NOON ABOVE", "AFRICAN FEH",
    "AFRICAN QAF", "AFRICAN NOON", "PEH WITH SMALL V", "TEH WITH SMALL V", "TTEH WITH SMALL V",
    "TCHEH WITH SMALL V", "KEHEH WITH SMALL V", "GHAIN WITH THREE DOTS ABOVE",
    "AFRICAN QAF WITH THREE DOTS ABOVE", "JEEM WITH THREE DOTS ABOVE",
    "JEEM WITH THREE DOTS BELOW", "LAM WITH SMALL ARABIC LETTER TAH ABOVE", "GRAF"]⟩,
  ⟨0x8C9, "ARABIC ", ["SMALL FARSI YEH", "SMALL HIGH FARSI YEH",
    "SMALL HIGH YEH BARREE WITH TWO DOTS BELOW", "SMALL HIGH WORD SAH", "SMALL HIGH ZAH",
    "LARGE ROUND DOT ABOVE", "LARGE ROUND DOT BELOW", "SUKUN BELOW", "LARGE CIRCLE BELOW",
    "LARGE ROUND DOT INSIDE CIRCLE BELOW"]⟩,
  ⟨0x8D3, "ARABIC SMALL ", ["LOW WAW", "HIGH WORD AR-RUB", "HIGH SAD", "HIGH AIN", "HIGH QAF",
    "HIGH NOON WITH KASRA", "LOW NOON WITH KASRA"]⟩,
  ⟨0x8DA, "ARABIC SMALL HIGH WORD ", ["ATH-THALATHA", "AS-SAJDA", "AN-NISF", "SAKTA", "QIF",
    "WAQFA"]⟩,
  ⟨0x8E0, "ARABIC ", ["SMALL HIGH FOOTNOTE MARKER", "SMALL HIGH SIGN SAFHA",
    "DISPUTED END OF AYAH", "TURNED DAMMA BELOW", "CURLY FATHA", "CURLY DAMMA", "CURLY KASRA",
    "CURLY FATHATAN", "CURLY DAMMATAN", "CURLY KASRATAN", "TONE ONE DOT ABOVE",
    "TONE TWO DOTS ABOVE", "TONE LOOP ABOVE", "TONE ONE DOT BELOW", "TONE TWO DOTS BELOW",
    "TONE LOOP BELOW", "OPEN FATHATAN", "OPEN DAMMATAN", "OPEN KASRATAN", "SMALL HIGH WAW",
    "FATHA WITH RING", "FATHA WITH DOT ABOVE", "KASRA WITH DOT BELOW", "LEFT ARROWHEAD ABOVE",
    "RIGHT ARROWHEAD ABOVE", "LEFT ARROWHEAD BELOW", "RIGHT ARROWHEAD BELOW",
    "DOUBLE RIGHT ARROWHEAD ABOVE", "DOUBLE RIGHT ARROWHEAD ABOVE WITH DOT",
    "RIGHT ARROWHEAD ABOVE WITH DOT", "DAMMA WITH DOT", "MARK SIDEWAYS NOON GHUNNA"]⟩,
  ⟨0xFB1D, "HEBREW ", ["LETTER YOD WITH HIRIQ", "POINT JUDEO-SPANISH VARIKA",
    "LIGATURE YIDDISH YOD YOD PATAH"]⟩,
  ⟨0xFB20, "HEBREW LETTER ", ["ALTERNATIVE AYIN", "WIDE ALEF", "WIDE DALET", "WIDE HE",
    "WIDE KAF", "WIDE LAMED", "WIDE FINAL MEM", "WIDE RESH", "WIDE TAV", "ALTERNATIVE PLUS SIGN",
    "SHIN WITH SHIN DOT", "SHIN WITH SIN DOT", "SHIN WITH DAGESH AND SHIN DOT",
    "SHIN WITH DAGESH AND SIN DOT", "ALEF WITH PATAH", "ALEF WITH QAMATS", "ALEF WITH MAPIQ",
    "BET WITH DAGESH", "GIMEL WITH DAGESH", "DALET WITH DAGESH", "HE WITH MAPIQ",
    "VAV WITH DAGESH", "ZAYIN WITH DAGESH"]⟩,
  ⟨0xFB38, "HEBREW LETTER ", ["TET WITH DAGESH", "YOD WITH DAGESH", "FINAL KAF WITH DAGESH",
    "KAF WITH DAGESH", "LAMED WITH DAGESH"]⟩,
  ⟨0xFB3E, "", ["HEBREW LETTER MEM WITH DAGESH"]⟩,
  ⟨0xFB40, "HEBREW LETTER ", ["NUN WITH DAGESH", "SAMEKH WITH DAGESH"]⟩,
  ⟨0xFB43, "HEBREW LETTER ", ["FINAL PE WITH DAGESH", "PE WITH DAGESH"]⟩,
  ⟨0xFB46, "HEBREW LETTER ", ["TSADI WITH DAGESH", "QOF WITH DAGESH", "RESH WITH DAGESH",
    "SHIN WITH DAGESH", "TAV WITH DAGESH", "VAV WITH HOLAM", "BET WITH RAFE", "KAF WITH RAFE",
    "PE WITH RAFE"]⟩,
  ⟨0xFB4F, "", ["HEBREW LIGATURE ALEF LAMED"]⟩,
  ⟨0xFB50, "ARABIC LETTER ", ["ALEF WASLA ISOLATED FORM", "ALEF WASLA FINAL FORM",
    "BEEH ISOLATED FORM", "BEEH FINAL FORM", "BEEH INITIAL FORM", "BEEH MEDIAL FORM",
    "PEH ISOLATED FORM", "PEH FINAL FORM", "PEH INITIAL FORM", "PEH MEDIAL FORM",
    "BEHEH ISOLATED FORM", "BEHEH FINAL FORM", "BEHEH INITIAL FORM", "BEHEH MEDIAL FORM",
    "TTEHEH ISOLATED FORM", "TTEHEH FINAL FORM", "TTEHEH INITIAL FORM", "TTEHEH MEDIAL FORM",
    "TEHEH ISOLATED FORM", "TEHEH FINAL FORM", "TEHEH INITIAL FORM", "TEHEH MEDIAL FORM",
    "TTEH ISOLATED FORM", "TTEH FINAL FORM", "TTEH INITIAL FORM", "TTEH MEDIAL FORM",
    "VEH ISOLATED FORM", "VEH FINAL FORM", "VEH INITIAL FORM", "VEH MEDIAL FORM",
    "PEHEH ISOLATED FORM", "PEHEH FINAL FORM", "PEHEH INITIAL FORM", "PEHEH MEDIAL FORM",
    "DYEH ISOLATED FORM", "DYEH FINAL FORM", "DYEH INITIAL FORM", "DYEH MEDIAL FORM",
    "NYEH ISOLATED FORM", "NYEH FINAL FORM", "NYEH INITIAL FORM", "NYEH MEDIAL FORM",
    "TCHEH ISOLATED FORM", "TCHEH FINAL FORM", "TCHEH INITIAL FORM", "TCHEH MEDIAL FORM",
    "TCHEHEH ISOLATED FORM", "TCHEHEH FINAL FORM", "TCHEHEH INITIAL FORM", "TCHEHEH MEDIAL FORM",
    "DDAHAL ISOLATED FORM", "DDAHAL FINAL FORM", "DAHAL ISOLATED FORM", "DAHAL FINAL FORM",
    "DUL ISOLATED FORM", "DUL FINAL FORM", "DDAL ISOLATED FORM", "DDAL FINAL FORM",
    "JEH ISOLATED FORM", "JEH FINAL FORM", "RREH ISOLATED FORM", "RREH FINAL FORM",
    "KEHEH ISOLATED FORM", "KEHEH FINAL FORM", "KEHEH INITIAL FORM", "KEHEH MEDIAL FORM",
    "GAF ISOLATED FORM", "GAF FINAL FORM", "GAF INITIAL FORM", "GAF MEDIAL FORM",
    "GUEH ISOLATED FORM", "GUEH FINAL FORM", "GUEH INITIAL FORM", "GUEH MEDIAL FORM",
    "NGOEH ISOLATED FORM", "NGOEH FINAL FORM", "NGOEH INITIAL FORM", "NGOEH MEDIAL FORM",
    "NOON GHUNNA ISOLATED FORM", "NOON GHUNNA FINAL FORM", "RNOON ISOLATED FORM",
    "RNOON FINAL FORM", "RNOON INITIAL FORM", "RNOON MEDIAL FORM",
    "HEH WITH YEH ABOVE ISOLATED FORM", "HEH WITH YEH ABOVE FINAL FORM",
    "HEH GOAL ISOLATED FORM", "HEH GOAL FINAL FORM", "HEH GOAL INITIAL FORM",
    "HEH GOAL MEDIAL FORM"]⟩,
  ⟨0xFBAA, "ARABIC LETTER HEH DOACHASHMEE ", ["ISOLATED FORM", "FINAL FORM", "INITIAL FORM",
    "MEDIAL FORM"]⟩,
  ⟨0xFBAE, "ARABIC LETTER YEH BARREE ", ["ISOLATED FORM", "FINAL FORM",
    "WITH HAMZA ABOVE ISOLATED FORM", "WITH HAMZA ABOVE FINAL FORM"]⟩,
  ⟨0xFBB2, "ARABIC SYMBOL ", ["DOT ABOVE", "DOT BELOW", "TWO DOTS ABOVE", "TWO DOTS BELOW",
    "THREE DOTS ABOVE", "THREE DOTS BELOW", "THREE DOTS POINTING DOWNWARDS ABOVE",
    "THREE DOTS POINTING DOWNWARDS BELOW", "FOUR DOTS ABOVE", "FOUR DOTS BELOW",
    "DOUBLE VERTICAL BAR BELOW", "TWO DOTS VERTICALLY ABOVE", "TWO DOTS VERTICALLY BELOW",
    "RING", "SMALL TAH ABOVE", "SMALL TAH BELOW", "WASLA ABOVE"]⟩,
  ⟨0xFBD3, "ARABIC LETTER ", ["NG ISOLATED FORM", "NG FINAL FORM", "NG INITIAL FORM",
    "NG MEDIAL FORM", "U ISOLATED FORM", "U FINAL FORM", "OE ISOLATED FORM", "OE FINAL FORM",
    "YU ISOLATED FORM", "YU FINAL FORM", "U WITH HAMZA ABOVE ISOLATED FORM", "VE ISOLATED FORM",
    "VE FINAL FORM", "KIRGHIZ OE ISOLATED FORM", "KIRGHIZ OE FINAL FORM",
    "KIRGHIZ YU ISOLATED FORM", "KIRGHIZ YU FINAL FORM", "E ISOLATED FORM", "E FINAL FORM",
    "E INITIAL FORM", "E MEDIAL FORM"]⟩,
  ⟨0xFBE8, "ARABIC LETTER UIGHUR KAZAKH KIRGHIZ ALEF MAKSURA ", ["INITIAL FORM", "MEDIAL FORM"]⟩,
  ⟨0xFBEA, "ARABIC LIGATURE YEH WITH HAMZA ABOVE WITH ", ["ALEF ISOLATED FORM",
    "ALEF FINAL FORM", "AE ISOLATED FORM", "AE FINAL FORM", "WAW ISOLATED FORM",
    "WAW FINAL FORM", "U ISOLATED FORM", "U FINAL FORM", "OE ISOLATED FORM", "OE FINAL FORM",
    "YU ISOLATED FORM", "YU FINAL FORM", "E ISOLATED FORM", "E FINAL FORM", "E INITIAL FORM"]⟩,
  ⟨0xFBF9, "ARABIC LIGATURE UIGHUR KIRGHIZ YEH WITH HAMZA ABOVE WITH ALEF MAKSURA ", [
    "ISOLATED FORM", "FINAL FORM", "INITIAL FORM"]⟩,
  ⟨0xFBFC, "ARABIC LETTER FARSI YEH ", ["ISOLATED FORM", "FINAL FORM", "INITIAL FORM",
    "MEDIAL FORM"]⟩,
  ⟨0xFC00, "ARABIC LIGATURE YEH WITH HAMZA ABOVE WITH ", ["JEEM ISOLATED FORM",
    "HAH ISOLATED FORM", "MEEM ISOLATED FORM", "ALEF MAKSURA ISOLATED FORM",
    "YEH ISOLATED FORM"]⟩,
  ⟨0xFC05, "ARABIC LIGATURE BEH WITH ", ["JEEM ISOLATED FORM", "HAH ISOLATED FORM",
    "KHAH ISOLATED FORM", "MEEM ISOLATED FORM", "ALEF MAKSURA ISOLATED FORM",
    "YEH ISOLATED FORM"]⟩,
  ⟨0xFC0B, "ARABIC LIGATURE TEH WITH ", ["JEEM ISOLATED FORM", "HAH ISOLATED FORM",
    "KHAH ISOLATED FORM", "MEEM ISOLATED FORM", "ALEF MAKSURA ISOLATED FORM",
    "YEH ISOLATED FORM"]⟩,
  ⟨0xFC11, "ARABIC LIGATURE ", ["THEH WITH JEEM ISOLATED FORM", "THEH WITH MEEM ISOLATED FORM",
    "THEH WITH ALEF MAKSURA ISOLATED FORM", "THEH WITH YEH ISOLATED FORM",
    "JEEM WITH HAH ISOLATED FORM", "JEEM WITH MEEM ISOLATED FORM", "HAH WITH JEEM ISOLATED FORM",
    "HAH WITH MEEM ISOLATED FORM", "KHAH WITH JEEM ISOLATED FORM", "KHAH WITH HAH ISOLATED FORM",
    "KHAH WITH MEEM ISOLATED FORM", "SEEN WITH JEEM ISOLATED FORM",
    "SEEN WITH HAH ISOLATED FORM", "SEEN WITH KHAH ISOLATED FORM",
    "SEEN WITH MEEM ISOLATED FORM", "SAD WITH HAH ISOLATED FORM", "SAD WITH MEEM ISOLATED FORM",
    "DAD WITH JEEM ISOLATED FORM", "DAD WITH HAH ISOLATED FORM", "DAD WITH KHAH ISOLATED FORM",
    "DAD WITH MEEM ISOLATED FORM", "TAH WITH HAH ISOLATED FORM", "TAH WITH MEEM ISOLATED FORM",
    "ZAH WITH MEEM ISOLATED FORM", "AIN WITH JEEM ISOLATED FORM", "AIN WITH MEEM ISOLATED FORM",
    "GHAIN WITH JEEM ISOLATED FORM", "GHAIN WITH MEEM ISOLATED FORM",
    "FEH WITH JEEM ISOLATED FORM", "FEH WITH HAH ISOLATED FORM", "FEH WITH KHAH ISOLATED FORM",
    "FEH WITH MEEM ISOLATED FORM", "FEH WITH ALEF MAKSURA ISOLATED FORM",
    "FEH WITH YEH ISOLATED FORM", "QAF WITH HAH ISOLATED FORM", "QAF WITH MEEM ISOLATED FORM",
    "QAF WITH ALEF MAKSURA ISOLATED FORM", "QAF WITH YEH ISOLATED FORM"]⟩,
  ⟨0xFC37, "ARABIC LIGATURE KAF WITH ", ["ALEF ISOLATED FORM", "JEEM ISOLATED FORM",
    "HAH ISOLATED FORM", "KHAH ISOLATED FORM", "LAM ISOLATED FORM", "MEEM ISOLATED FORM",
    "ALEF MAKSURA ISOLATED FORM", "YEH ISOLATED FORM"]⟩,
  ⟨0xFC3F, "ARABIC LIGATURE LAM WITH ", ["JEEM ISOLATED FORM", "HAH ISOLATED FORM",
    "KHAH ISOLATED FORM", "MEEM ISOLATED FORM", "ALEF MAKSURA ISOLATED FORM",
    "YEH ISOLATED FORM"]⟩,
  ⟨0xFC45, "ARABIC LIGATURE MEEM WITH ", ["JEEM ISOLATED FORM", "HAH ISOLATED FORM",
    "KHAH ISOLATED FORM", "MEEM ISOLATED FORM", "ALEF MAKSURA ISOLATED FORM",
    "YEH ISOLATED FORM"]⟩,
  ⟨0xFC4B, "ARABIC LIGATURE NOON WITH ", ["JEEM ISOLATED FORM", "HAH ISOLATED FORM",
    "KHAH ISOLATED FORM", "MEEM ISOLATED FORM", "ALEF MAKSURA ISOLATED FORM",
    "YEH ISOLATED FORM"]⟩,
  ⟨0xFC51, "ARABIC LIGATURE ", ["HEH WITH JEEM ISOLATED FORM", "HEH WITH MEEM ISOLATED FORM",
    "HEH WITH ALEF MAKSURA ISOLATED FORM", "HEH WITH YEH ISOLATED FORM",
    "YEH WITH JEEM ISOLATED FORM", "YEH WITH HAH ISOLATED FORM", "YEH WITH KHAH ISOLATED FORM",
    "YEH WITH MEEM ISOLATED FORM", "YEH WITH ALEF MAKSURA ISOLATED FORM",
    "YEH WITH YEH ISOLATED FORM", "THAL WITH SUPERSCRIPT ALEF ISOLATED FORM",
    "REH WITH SUPERSCRIPT ALEF ISOLATED FORM",
    "ALEF MAKSURA WITH SUPERSCRIPT ALEF ISOLATED FORM"]⟩,
  ⟨0xFC5E, "ARABIC LIGATURE SHADDA WITH ", ["DAMMATAN ISOLATED FORM", "KASRATAN ISOLATED FORM",
    "FATHA ISOLATED FORM", "DAMMA ISOLATED FORM", "KASRA ISOLATED FORM",
    "SUPERSCRIPT ALEF ISOLATED FORM"]⟩,
  ⟨0xFC64, "ARABIC LIGATURE YEH WITH HAMZA ABOVE WITH ", ["REH FINAL FORM", "ZAIN FINAL FORM",
    "MEEM FINAL FORM", "NOON FINAL FORM", "ALEF MAKSURA FINAL FORM", "YEH FINAL FORM"]⟩,
  ⟨0xFC6A, "ARABIC LIGATURE BEH WITH ", ["REH FINAL FORM", "ZAIN FINAL FORM", "MEEM FINAL FORM",
    "NOON FINAL FORM", "ALEF MAKSURA FINAL FORM", "YEH FINAL FORM"]⟩,
  ⟨0xFC70, "ARABIC LIGATURE TEH WITH ", ["REH FINAL FORM", "ZAIN FINAL FORM", "MEEM FINAL FORM",
    "NOON FINAL FORM", "ALEF MAKSURA FINAL FORM", "YEH FINAL FORM"]⟩,
  ⟨0xFC76, "ARABIC LIGATURE THEH WITH ", ["REH FINAL FORM", "ZAIN FINAL FORM", "MEEM FINAL FORM",
    "NOON FINAL FORM", "ALEF MAKSURA FINAL FORM", "YEH FINAL FORM"]⟩,
  ⟨0xFC7C, "ARABIC LIGATURE ", ["FEH WITH ALEF MAKSURA FINAL FORM", "FEH WITH YEH FINAL FORM",
    "QAF WITH ALEF MAKSURA FINAL FORM", "QAF WITH YEH FINAL FORM", "KAF WITH ALEF FINAL FORM",
    "KAF WITH LAM FINAL FORM", "KAF WITH MEEM FINAL FORM", "KAF WITH ALEF MAKSURA FINAL FORM",
    "KAF WITH YEH FINAL FORM", "LAM WITH MEEM FINAL FORM", "LAM WITH ALEF MAKSURA FINAL FORM",
    "LAM WITH YEH FINAL FORM", "MEEM WITH ALEF FINAL FORM", "MEEM WITH MEEM FINAL FORM",
    "NOON WITH REH FINAL FORM", "NOON WITH ZAIN FINAL FORM", "NOON WITH MEEM FINAL FORM",
    "NOON WITH NOON FINAL FORM", "NOON WITH ALEF MAKSURA FINAL FORM", "NOON WITH YEH FINAL FORM",
    "ALEF MAKSURA WITH SUPERSCRIPT ALEF FINAL FORM"]⟩,
  ⟨0xFC91, "ARABIC LIGATURE YEH WITH ", ["REH FINAL FORM", "ZAIN FINAL FORM", "MEEM FINAL FORM",
    "NOON FINAL FORM", "ALEF MAKSURA FINAL FORM", "YEH FINAL FORM"]⟩,
  ⟨0xFC97, "ARABIC LIGATURE YEH WITH HAMZA ABOVE WITH ", ["JEEM INITIAL FORM",
    "HAH INITIAL FORM", "KHAH INITIAL FORM", "MEEM INITIAL FORM", "HEH INITIAL FORM"]⟩,
  ⟨0xFC9C, "ARABIC LIGATURE BEH WITH ", ["JEEM INITIAL FORM", "HAH INITIAL FORM",
    "KHAH INITIAL FORM", "MEEM INITIAL FORM", "HEH INITIAL FORM"]⟩,
  ⟨0xFCA1, "ARABIC LIGATURE ", ["TEH WITH JEEM INITIAL FORM", "TEH WITH HAH INITIAL FORM",
    "TEH WITH KHAH INITIAL FORM", "TEH WITH MEEM INITIAL FORM", "TEH WITH HEH INITIAL FORM",
    "THEH WITH MEEM INITIAL FORM", "JEEM WITH HAH INITIAL FORM", "JEEM WITH MEEM INITIAL FORM",
    "HAH WITH JEEM INITIAL FORM", "HAH WITH MEEM INITIAL FORM", "KHAH WITH JEEM INITIAL FORM",
    "KHAH WITH MEEM INITIAL FORM", "SEEN WITH JEEM INITIAL FORM", "SEEN WITH HAH INITIAL FORM",
    "SEEN WITH KHAH INITIAL FORM", "SEEN WITH MEEM INITIAL FORM", "SAD WITH HAH INITIAL FORM",
    "SAD WITH KHAH INITIAL FORM", "SAD WITH MEEM INITIAL FORM", "DAD WITH JEEM INITIAL FORM",
    "DAD WITH HAH INITIAL FORM", "DAD WITH KHAH INITIAL FORM", "DAD WITH MEEM INITIAL FORM",
    "TAH WITH HAH INITIAL FORM", "ZAH WITH MEEM INITIAL FORM", "AIN WITH JEEM INITIAL FORM",
    "AIN WITH MEEM INITIAL FORM", "GHAIN WITH JEEM INITIAL FORM", "GHAIN WITH MEEM INITIAL FORM",
    "FEH WITH JEEM INITIAL FORM", "FEH WITH HAH INITIAL FORM", "FEH WITH KHAH INITIAL FORM",
    "FEH WITH MEEM INITIAL FORM", "QAF WITH HAH INITIAL FORM", "QAF WITH MEEM INITIAL FORM",
    "KAF WITH JEEM INITIAL FORM", "KAF WITH HAH INITIAL FORM", "KAF WITH KHAH INITIAL FORM",
    "KAF WITH LAM INITIAL FORM", "KAF WITH MEEM INITIAL FORM", "LAM WITH JEEM INITIAL FORM",
    "LAM WITH HAH INITIAL FORM", "LAM WITH KHAH INITIAL FORM", "LAM WITH MEEM INITIAL FORM",
    "LAM WITH HEH INITIAL FORM", "MEEM WITH JEEM INITIAL FORM", "MEEM WITH HAH INITIAL FORM",
    "MEEM WITH KHAH INITIAL FORM", "MEEM WITH MEEM INITIAL FORM", "NOON WITH JEEM INITIAL FORM",
    "NOON WITH HAH INITIAL FORM", "NOON WITH KHAH INITIAL FORM", "NOON WITH MEEM INITIAL FORM",
    "NOON WITH HEH INITIAL FORM", "HEH WITH JEEM INITIAL FORM", "HEH WITH MEEM INITIAL FORM",
    "HEH WITH SUPERSCRIPT ALEF INITIAL FORM", "YEH WITH JEEM INITIAL FORM",
    "YEH WITH HAH INITIAL FORM", "YEH WITH KHAH INITIAL FORM", "YEH WITH MEEM INITIAL FORM",
    "YEH WITH HEH INITIAL FORM", "YEH WITH HAMZA ABOVE WITH MEEM MEDIAL FORM",
    "YEH WITH HAMZA ABOVE WITH HEH MEDIAL FORM", "BEH WITH MEEM MEDIAL FORM",
    "BEH WITH HEH MEDIAL FORM", "TEH WITH MEEM MEDIAL FORM", "TEH WITH HEH MEDIAL FORM",
    "THEH WITH MEEM MEDIAL FORM", "THEH WITH HEH MEDIAL FORM", "SEEN WITH MEEM MEDIAL FORM",
    "SEEN WITH HEH MEDIAL FORM", "SHEEN WITH MEEM MEDIAL FORM", "SHEEN WITH HEH MEDIAL FORM",
    "KAF WITH LAM MEDIAL FORM", "KAF WITH MEEM MEDIAL FORM", "LAM WITH MEEM MEDIAL FORM",
    "NOON WITH MEEM MEDIAL FORM", "NOON WITH HEH MEDIAL FORM", "YEH WITH MEEM MEDIAL FORM",
    "YEH WITH HEH MEDIAL FORM", "SHADDA WITH FATHA MEDIAL FORM", "SHADDA WITH DAMMA MEDIAL FORM",
    "SHADDA WITH KASRA MEDIAL FORM", "TAH WITH ALEF MAKSURA ISOLATED FORM",
    "TAH WITH YEH ISOLATED FORM", "AIN WITH ALEF MAKSURA ISOLATED FORM",
    "AIN WITH YEH ISOLATED FORM", "GHAIN WITH ALEF MAKSURA ISOLATED FORM",
    "GHAIN WITH YEH ISOLATED FORM", "SEEN WITH ALEF MAKSURA ISOLATED FORM",
    "SEEN WITH YEH ISOLATED FORM", "SHEEN WITH ALEF MAKSURA ISOLATED FORM",
    "SHEEN WITH YEH ISOLATED FORM", "HAH WITH ALEF MAKSURA ISOLATED FORM",
    "HAH WITH YEH ISOLATED FORM", "JEEM WITH ALEF MAKSURA ISOLATED FORM",
    "JEEM WITH YEH ISOLATED FORM", "KHAH WITH ALEF MAKSURA ISOLATED FORM",
    "KHAH WITH YEH ISOLATED FORM", "SAD WITH ALEF MAKSURA ISOLATED FORM",
    "SAD WITH YEH ISOLATED FORM", "DAD WITH ALEF MAKSURA ISOLATED FORM",
    "DAD WITH YEH ISOLATED FORM", "SHEEN WITH JEEM ISOLATED FORM",
    "SHEEN WITH HAH ISOLATED FORM", "SHEEN WITH KHAH ISOLATED FORM",
    "SHEEN WITH MEEM ISOLATED FORM", "SHEEN WITH REH ISOLATED FORM",
    "SEEN WITH REH ISOLATED FORM", "SAD WITH REH ISOLATED FORM", "DAD WITH REH ISOLATED FORM",
    "TAH WITH ALEF MAKSURA FINAL FORM", "TAH WITH YEH FINAL FORM",
    "AIN WITH ALEF MAKSURA FINAL FORM", "AIN WITH YEH FINAL FORM",
    "GHAIN WITH ALEF MAKSURA FINAL FORM", "GHAIN WITH YEH FINAL FORM",
    "SEEN WITH ALEF MAKSURA FINAL FORM", "SEEN WITH YEH FINAL FORM",
    "SHEEN WITH ALEF MAKSURA FINAL FORM", "SHEEN WITH YEH FINAL FORM",
    "HAH WITH ALEF MAKSURA FINAL FORM", "HAH WITH YEH FINAL FORM",
    "JEEM WITH ALEF MAKSURA FINAL FORM", "JEEM WITH YEH FINAL FORM",
    "KHAH WITH ALEF MAKSURA FINAL FORM", "KHAH WITH YEH FINAL FORM",
    "SAD WITH ALEF MAKSURA FINAL FORM", "SAD WITH YEH FINAL FORM",
    "DAD WITH ALEF MAKSURA FINAL FORM", "DAD WITH YEH FINAL FORM", "SHEEN WITH JEEM FINAL FORM",
    "SHEEN WITH HAH FINAL FORM", "SHEEN WITH KHAH FINAL FORM", "SHEEN WITH MEEM FINAL FORM",
    "SHEEN WITH REH FINAL FORM", "SEEN WITH REH FINAL FORM", "SAD WITH REH FINAL FORM",
    "DAD WITH REH FINAL FORM", "SHEEN WITH JEEM INITIAL FORM", "SHEEN WITH HAH INITIAL FORM",
    "SHEEN WITH KHAH INITIAL FORM", "SHEEN WITH MEEM INITIAL FORM", "SEEN WITH HEH INITIAL FORM",
    "SHEEN WITH HEH INITIAL FORM", "TAH WITH MEEM INITIAL FORM", "SEEN WITH JEEM MEDIAL FORM",
    "SEEN WITH HAH MEDIAL FORM", "SEEN WITH KHAH MEDIAL FORM", "SHEEN WITH JEEM MEDIAL FORM",
    "SHEEN WITH HAH MEDIAL FORM", "SHEEN WITH KHAH MEDIAL FORM", "TAH WITH MEEM MEDIAL FORM",
    "ZAH WITH MEEM MEDIAL FORM", "ALEF WITH FATHATAN FINAL FORM",
    "ALEF WITH FATHATAN ISOLATED FORM"]⟩,
  ⟨0xFD3E, "ORNATE ", ["LEFT PARENTHESIS", "RIGHT PARENTHESIS"]⟩,
  ⟨0xFD40, "ARABIC LIGATURE ", ["RAHIMAHU ALLAAH", "RADI ALLAAHU ANH", "RADI ALLAAHU ANHAA",
    "RADI ALLAAHU ANHUM", "RADI ALLAAHU ANHUMAA", "RADI ALLAAHU ANHUNNA",
    "SALLALLAAHU ALAYHI WA-AALIH", "ALAYHI AS-SALAAM", "ALAYHIM AS-SALAAM",
    "ALAYHIMAA AS-SALAAM", "ALAYHI AS-SALAATU WAS-SALAAM", "QUDDISA SIRRAH",
    "SALLALLAHU ALAYHI WAAALIHEE WA-SALLAM", "ALAYHAA AS-SALAAM", "TABAARAKA WA-TAAALAA",
    "RAHIMAHUM ALLAAH", "TEH WITH JEEM WITH MEEM INITIAL FORM",
    "TEH WITH HAH WITH JEEM FINAL FORM", "TEH WITH HAH WITH JEEM INITIAL FORM",
    "TEH WITH HAH WITH MEEM INITIAL FORM", "TEH WITH KHAH WITH MEEM INITIAL FORM",
    "TEH WITH MEEM WITH JEEM INITIAL FORM", "TEH WITH MEEM WITH HAH INITIAL FORM",
    "TEH WITH MEEM WITH KHAH INITIAL FORM", "JEEM WITH MEEM WITH HAH FINAL FORM",
    "JEEM WITH MEEM WITH HAH INITIAL FORM", "HAH WITH MEEM WITH YEH FINAL FORM",
    "HAH WITH MEEM WITH ALEF MAKSURA FINAL FORM", "SEEN WITH HAH WITH JEEM INITIAL FORM",
    "SEEN WITH JEEM WITH HAH INITIAL FORM", "SEEN WITH JEEM WITH ALEF MAKSURA FINAL FORM"]⟩,
  ⟨0xFD5F, "ARABIC LIGATURE SEEN WITH MEEM WITH ", ["HAH FINAL FORM", "HAH INITIAL FORM",
    "JEEM INITIAL FORM", "MEEM FINAL FORM", "MEEM INITIAL FORM"]⟩,
  ⟨0xFD64, "ARABIC LIGATURE SAD WITH ", ["HAH WITH HAH FINAL FORM", "HAH WITH HAH INITIAL FORM",
    "MEEM WITH MEEM FINAL FORM"]⟩,
  ⟨0xFD67, "ARABIC LIGATURE SHEEN WITH ", ["HAH WITH MEEM FINAL FORM",
    "HAH WITH MEEM INITIAL FORM", "JEEM WITH YEH FINAL FORM", "MEEM WITH KHAH FINAL FORM",
    "MEEM WITH KHAH INITIAL FORM", "MEEM WITH MEEM FINAL FORM", "MEEM WITH MEEM INITIAL FORM"]⟩,
  ⟨0xFD6E, "ARABIC LIGATURE DAD WITH ", ["HAH WITH ALEF MAKSURA FINAL FORM",
    "KHAH WITH MEEM FINAL FORM", "KHAH WITH MEEM INITIAL FORM"]⟩,
  ⟨0xFD71, "ARABIC LIGATURE TAH WITH MEEM WITH ", ["HAH FINAL FORM", "HAH INITIAL FORM",
    "MEEM INITIAL FORM", "YEH FINAL FORM"]⟩,
  ⟨0xFD75, "ARABIC LIGATURE AIN WITH ", ["JEEM WITH MEEM FINAL FORM",
    "MEEM WITH MEEM FINAL FORM", "MEEM WITH MEEM INITIAL FORM",
    "MEEM WITH ALEF MAKSURA FINAL FORM"]⟩,
  ⟨0xFD79, "ARABIC LIGATURE GHAIN WITH MEEM WITH ", ["MEEM FINAL FORM", "YEH FINAL FORM",
    "ALEF MAKSURA FINAL FORM"]⟩,
  ⟨0xFD7C, "ARABIC LIGATURE FEH WITH KHAH WITH MEEM ", ["FINAL FORM", "INITIAL FORM"]⟩,
  ⟨0xFD7E, "ARABIC LIGATURE QAF WITH MEEM WITH ", ["HAH FINAL FORM", "MEEM FINAL FORM"]⟩,
  ⟨0xFD80, "ARABIC LIGATURE LAM WITH ", ["HAH WITH MEEM FINAL FORM", "HAH WITH YEH FINAL FORM",
    "HAH WITH ALEF MAKSURA FINAL FORM", "JEEM WITH JEEM INITIAL FORM",
    "JEEM WITH JEEM FINAL FORM", "KHAH WITH MEEM FINAL FORM", "KHAH WITH MEEM INITIAL FORM",
    "MEEM WITH HAH FINAL FORM", "MEEM WITH HAH INITIAL FORM"]⟩,
  ⟨0xFD89, "ARABIC LIGATURE MEEM WITH ", ["HAH WITH JEEM INITIAL FORM",
    "HAH WITH MEEM INITIAL FORM", "HAH WITH YEH FINAL FORM", "JEEM WITH HAH INITIAL FORM",
    "JEEM WITH MEEM INITIAL FORM", "KHAH WITH JEEM INITIAL FORM", "KHAH WITH MEEM INITIAL FORM"]⟩,
  ⟨0xFD92, "ARABIC LIGATURE ", ["MEEM WITH JEEM WITH KHAH INITIAL FORM",
    "HEH WITH MEEM WITH JEEM INITIAL FORM", "HEH WITH MEEM WITH MEEM INITIAL FORM",
    "NOON WITH HAH WITH MEEM INITIAL FORM", "NOON WITH HAH WITH ALEF MAKSURA FINAL FORM",
    "NOON WITH JEEM WITH MEEM FINAL FORM", "NOON WITH JEEM WITH MEEM INITIAL FORM",
    "NOON WITH JEEM WITH ALEF MAKSURA FINAL FORM", "NOON WITH MEEM WITH YEH FINAL FORM",
    "NOON WITH MEEM WITH ALEF MAKSURA FINAL FORM", "YEH WITH MEEM WITH MEEM FINAL FORM",
    "YEH WITH MEEM WITH MEEM INITIAL FORM", "BEH WITH KHAH WITH YEH FINAL FORM",
    "TEH WITH JEEM WITH YEH FINAL FORM", "TEH WITH JEEM WITH ALEF MAKSURA FINAL FORM",
    "TEH WITH KHAH WITH YEH FINAL FORM", "TEH WITH KHAH WITH ALEF MAKSURA FINAL FORM",
    "TEH WITH MEEM WITH YEH FINAL FORM", "TEH WITH MEEM WITH ALEF MAKSURA FINAL FORM",
    "JEEM WITH MEEM WITH YEH FINAL FORM", "JEEM WITH HAH WITH ALEF MAKSURA FINAL FORM",
    "JEEM WITH MEEM WITH ALEF MAKSURA FINAL FORM", "SEEN WITH KHAH WITH ALEF MAKSURA FINAL FORM",
    "SAD WITH HAH WITH YEH FINAL FORM", "SHEEN WITH HAH WITH YEH FINAL FORM",
    "DAD WITH HAH WITH YEH FINAL FORM", "LAM WITH JEEM WITH YEH FINAL FORM",
    "LAM WITH MEEM WITH YEH FINAL FORM", "YEH WITH HAH WITH YEH FINAL FORM",
    "YEH WITH JEEM WITH YEH FINAL FORM", "YEH WITH MEEM WITH YEH FINAL FORM",
    "MEEM WITH MEEM WITH YEH FINAL FORM", "QAF WITH MEEM WITH YEH FINAL FORM",
    "NOON WITH HAH WITH YEH FINAL FORM", "QAF WITH MEEM WITH HAH INITIAL FORM",
    "LAM WITH HAH WITH MEEM INITIAL FORM", "AIN WITH MEEM WITH YEH FINAL FORM",
    "KAF WITH MEEM WITH YEH FINAL FORM", "NOON WITH JEEM WITH HAH INITIAL FORM",
    "MEEM WITH KHAH WITH YEH FINAL FORM", "LAM WITH JEEM WITH MEEM INITIAL FORM",
    "KAF WITH MEEM WITH MEEM FINAL FORM", "LAM WITH JEEM WITH MEEM FINAL FORM",
    "NOON WITH JEEM WITH HAH FINAL FORM", "JEEM WITH HAH WITH YEH FINAL FORM",
    "HAH WITH JEEM WITH YEH FINAL FORM", "MEEM WITH JEEM WITH YEH FINAL FORM",
    "FEH WITH MEEM WITH YEH FINAL FORM", "BEH WITH HAH WITH YEH FINAL FORM",
    "KAF WITH MEEM WITH MEEM INITIAL FORM", "AIN WITH JEEM WITH MEEM INITIAL FORM",
    "SAD WITH MEEM WITH MEEM INITIAL FORM", "SEEN WITH KHAH WITH YEH FINAL FORM",
    "NOON WITH JEEM WITH YEH FINAL FORM"]⟩,
  ⟨0xFDCF, "", ["ARABIC LIGATURE SALAAMUHU ALAYNAA"]⟩,
  ⟨0xFDF0, "ARABIC LIGATURE ", ["SALLA USED AS KORANIC STOP SIGN ISOLATED FORM",
    "QALA USED AS KORANIC STOP SIGN ISOLATED FORM", "ALLAH ISOLATED FORM", "AKBAR ISOLATED FORM",
    "MOHAMMAD ISOLATED FORM", "SALAM ISOLATED FORM", "RASOUL ISOLATED FORM",
    "ALAYHE ISOLATED FORM", "WASALLAM ISOLATED FORM", "SALLA ISOLATED FORM",
    "SALLALLAHOU ALAYHE WASALLAM", "JALLAJALALOUHOU"]⟩,
  ⟨0xFDFC, "", ["RIAL SIGN"]⟩,
  ⟨0xFDFD, "ARABIC LIGATURE ", ["BISMILLAH AR-RAHMAN AR-RAHEEM", "SUBHAANAHU WA TAAALAA",
    "AZZA WA JALL"]⟩,
  ⟨0xFE70, "ARABIC ", ["FATHATAN ISOLATED FORM", "TATWEEL WITH FATHATAN ABOVE",
    "DAMMATAN ISOLATED FORM", "TAIL FRAGMENT", "KASRATAN ISOLATED FORM"]⟩,
  ⟨0xFE76, "ARABIC ", ["FATHA ISOLATED FORM", "FATHA MEDIAL FORM", "DAMMA ISOLATED FORM",
    "DAMMA MEDIAL FORM", "KASRA ISOLATED FORM", "KASRA MEDIAL FORM", "SHADDA ISOLATED FORM",
    "SHADDA MEDIAL FORM", "SUKUN ISOLATED FORM", "SUKUN MEDIAL FORM"]⟩,
  ⟨0xFE80, "ARABIC LETTER ", ["HAMZA ISOLATED FORM", "ALEF WITH MADDA ABOVE ISOLATED FORM",
    "ALEF WITH MADDA ABOVE FINAL FORM", "ALEF WITH HAMZA ABOVE ISOLATED FORM",
    "ALEF WITH HAMZA ABOVE FINAL FORM", "WAW WITH HAMZA ABOVE ISOLATED FORM",
    "WAW WITH HAMZA ABOVE FINAL FORM", "ALEF WITH HAMZA BELOW ISOLATED FORM",
    "ALEF WITH HAMZA BELOW FINAL FORM", "YEH WITH HAMZA ABOVE ISOLATED FORM",
    "YEH WITH HAMZA ABOVE FINAL FORM", "YEH WITH HAMZA ABOVE INITIAL FORM",
    "YEH WITH HAMZA ABOVE MEDIAL FORM", "ALEF ISOLATED FORM", "ALEF FINAL FORM",
    "BEH ISOLATED FORM", "BEH FINAL FORM", "BEH INITIAL FORM", "BEH MEDIAL FORM",
    "TEH MARBUTA ISOLATED FORM", "TEH MARBUTA FINAL FORM", "TEH ISOLATED FORM", "TEH FINAL FORM",
    "TEH INITIAL FORM", "TEH MEDIAL FORM", "THEH ISOLATED FORM", "THEH FINAL FORM",
    "THEH INITIAL FORM", "THEH MEDIAL FORM", "JEEM ISOLATED FORM", "JEEM FINAL FORM",
    "JEEM INITIAL FORM", "JEEM MEDIAL FORM", "HAH ISOLATED FORM", "HAH FINAL FORM",
    "HAH INITIAL FORM", "HAH MEDIAL FORM", "KHAH ISOLATED FORM", "KHAH FINAL FORM",
    "KHAH INITIAL FORM", "KHAH MEDIAL FORM", "DAL ISOLATED FORM", "DAL FINAL FORM",
    "THAL ISOLATED FORM", "THAL FINAL FORM", "REH ISOLATED FORM", "REH FINAL FORM",
    "ZAIN ISOLATED FORM", "ZAIN FINAL FORM", "SEEN ISOLATED FORM", "SEEN FINAL FORM",
    "SEEN INITIAL FORM", "SEEN MEDIAL FORM", "SHEEN ISOLATED FORM", "SHEEN FINAL FORM",
    "SHEEN INITIAL FORM", "SHEEN MEDIAL FORM", "SAD ISOLATED FORM", "SAD FINAL FORM",
    "SAD INITIAL FORM", "SAD MEDIAL FORM", "DAD ISOLATED FORM", "DAD FINAL FORM",
    "DAD INITIAL FORM", "DAD MEDIAL FORM", "TAH ISOLATED FORM", "TAH FINAL FORM",
    "TAH INITIAL FORM", "TAH MEDIAL FORM", "ZAH ISOLATED FORM", "ZAH FINAL FORM",
    "ZAH INITIAL FORM", "ZAH MEDIAL FORM", "AIN ISOLATED FORM", "AIN FINAL FORM",
    "AIN INITIAL FORM", "AIN MEDIAL FORM", "GHAIN ISOLATED FORM", "GHAIN FINAL FORM",
    "GHAIN INITIAL FORM", "GHAIN MEDIAL FORM", "FEH ISOLATED FORM", "FEH FINAL FORM",
    "FEH INITIAL FORM", "FEH MEDIAL FORM", "QAF ISOLATED FORM", "QAF FINAL FORM",
    "QAF INITIAL FORM", "QAF MEDIAL FORM", "KAF ISOLATED FORM", "KAF FINAL FORM",
    "KAF INITIAL FORM", "KAF MEDIAL FORM", "LAM ISOLATED FORM", "LAM FINAL FORM",
    "LAM INITIAL FORM", "LAM MEDIAL FORM", "MEEM ISOLATED FORM", "MEEM FINAL FORM",
    "MEEM INITIAL FORM", "MEEM MEDIAL FORM", "NOON ISOLATED FORM", "NOON FINAL FORM",
    "NOON INITIAL FORM", "NOON MEDIAL FORM", "HEH ISOLATED FORM", "HEH FINAL FORM",
    "HEH INITIAL FORM", "HEH MEDIAL FORM", "WAW ISOLATED FORM", "WAW FINAL FORM",
    "ALEF MAKSURA ISOLATED FORM", "ALEF MAKSURA FINAL FORM", "YEH ISOLATED FORM",
    "YEH FINAL FORM", "YEH INITIAL FORM", "YEH MEDIAL FORM"]⟩,
  ⟨0xFEF5, "ARABIC LIGATURE LAM WITH ALEF ", ["WITH MADDA ABOVE ISOLATED FORM",
    "WITH MADDA ABOVE FINAL FORM", "WITH HAMZA ABOVE ISOLATED FORM",
    "WITH HAMZA ABOVE FINAL FORM", "WITH HAMZA BELOW ISOLATED FORM",
    "WITH HAMZA BELOW FINAL FORM", "ISOLATED FORM", "FINAL FORM"]⟩,
  ⟨0x10D00, "HANIFI ROHINGYA LETTER ", ["A", "BA", "PA", "TA", "TTA", "JA", "CA", "HA", "KHA",
    "FA", "DA", "DDA", "RA", "RRA", "ZA", "SA", "SHA", "KA", "GA", "LA", "MA", "NA", "WA",
    "KINNA WA", "YA", "KINNA YA", "NGA", "NYA", "VA"]⟩,
  ⟨0x10D1D, "HANIFI ROHINGYA ", ["VOWEL A", "VOWEL I", "VOWEL U", "VOWEL E", "VOWEL O",
    "MARK SAKIN", "MARK NA KHONNA", "SIGN HARBAHAY", "SIGN TAHALA", "SIGN TANA", "SIGN TASSI"]⟩,
  ⟨0x10D30, "HANIFI ROHINGYA DIGIT ", ["ZERO", "ONE", "TWO", "THREE", "FOUR", "FIVE", "SIX",
    "SEVEN", "EIGHT", "NINE"]⟩,
  ⟨0x10E60, "RUMI DIGIT ", ["ONE", "TWO", "THREE", "FOUR", "FIVE", "SIX", "SEVEN", "EIGHT",
    "NINE"]⟩,
  ⟨0x10E69, "RUMI NUMBER ", ["TEN", "TWENTY", "THIRTY", "FORTY", "FIFTY", "SIXTY", "SEVENTY",
    "EIGHTY", "NINETY", "ONE HUNDRED", "TWO HUNDRED", "THREE HUNDRED", "FOUR HUNDRED",
    "FIVE HUNDRED", "SIX HUNDRED", "SEVEN HUNDRED", "EIGHT HUNDRED", "NINE HUNDRED"]⟩,
  ⟨0x10E7B, "RUMI FRACTION ", ["ONE HALF", "ONE QUARTER", "ONE THIRD", "TWO THIRDS"]⟩,
  ⟨0x10E80, "YEZIDI LETTER ", ["ELIF", "BE", "PE", "PHE", "THE", "SE", "CIM", "CHIM", "CHHIM",
    "HHA", "XA", "DAL", "ZAL", "RA", "RHA", "ZA", "JA", "SIN", "SHIN", "SAD", "DAD", "TA", "ZE",
    "EYN", "XHEYN", "FA", "VA", "VA ALTERNATE FORM", "QAF", "KAF", "KHAF", "GAF", "LAM", "MIM",
    "NUN", "UM", "WAW", "OW", "EW", "HAY", "YOT", "ET"]⟩,
  ⟨0x10EAB, "YEZIDI ", ["COMBINING HAMZA MARK", "COMBINING MADDA MARK", "HYPHENATION MARK"]⟩,
  ⟨0x10EB0, "YEZIDI LETTER ", ["LAM WITH DOT ABOVE", "YOT WITH CIRCUMFLEX ABOVE"]⟩,
  ⟨0x1EC71, "INDIC SIYAQ NUMBER ", ["ONE", "TWO", "THREE", "FOUR", "FIVE", "SIX", "SEVEN",
    "EIGHT", "NINE", "TEN", "TWENTY", "THIRTY", "FORTY", "FIFTY", "SIXTY", "SEVENTY", "EIGHTY",
    "NINETY", "ONE HUNDRED", "TWO HUNDRED", "THREE HUNDRED", "FOUR HUNDRED", "FIVE HUNDRED",
    "SIX HUNDRED", "SEVEN HUNDRED", "EIGHT HUNDRED", "NINE HUNDRED", "ONE THOUSAND",
    "TWO THOUSAND", "THREE THOUSAND", "FOUR THOUSAND", "FIVE THOUSAND", "SIX THOUSAND",
    "SEVEN THOUSAND", "EIGHT THOUSAND", "NINE THOUSAND", "TEN THOUSAND", "TWENTY THOUSAND",
    "THIRTY THOUSAND", "FORTY THOUSAND", "FIFTY THOUSAND", "SIXTY THOUSAND", "SEVENTY THOUSAND",
    "EIGHTY THOUSAND", "NINETY THOUSAND", "LAKH", "LAKHAN"]⟩,
  ⟨0x1ECA0, "INDIC SIYAQ ", ["LAKH MARK", "NUMBER KAROR", "NUMBER KARORAN"]⟩,
  ⟨0x1ECA3, "INDIC SIYAQ NUMBER PREFIXED ", ["ONE", "TWO", "THREE", "FOUR", "FIVE", "SIX",
    "SEVEN", "EIGHT", "NINE"]⟩,
  ⟨0x1ECAC, "INDIC SIYAQ ", ["PLACEHOLDER", "FRACTION ONE QUARTER", "FRACTION ONE HALF",
    "FRACTION THREE QUARTERS", "RUPEE MARK", "NUMBER ALTERNATE ONE", "NUMBER ALTERNATE TWO",
    "NUMBER ALTERNATE TEN THOUSAND", "ALTERNATE LAKH MARK"]⟩,
  ⟨0x1ED01, "OTTOMAN SIYAQ NUMBER ", ["ONE", "TWO", "THREE", "FOUR", "FIVE", "SIX", "SEVEN",
    "EIGHT", "NINE", "TEN", "TWENTY", "THIRTY", "FORTY", "FIFTY", "SIXTY", "SEVENTY", "EIGHTY",
    "NINETY", "ONE HUNDRED", "TWO HUNDRED", "THREE HUNDRED", "FOUR HUNDRED", "FIVE HUNDRED",
    "SIX HUNDRED", "SEVEN HUNDRED", "EIGHT HUNDRED", "NINE HUNDRED", "ONE THOUSAND",
    "TWO THOUSAND", "THREE THOUSAND", "FOUR THOUSAND", "FIVE THOUSAND", "SIX THOUSAND",
    "SEVEN THOUSAND", "EIGHT THOUSAND", "NINE THOUSAND", "TEN THOUSAND", "TWENTY THOUSAND",
    "THIRTY THOUSAND", "FORTY THOUSAND", "FIFTY THOUSAND", "SIXTY THOUSAND", "SEVENTY THOUSAND",
    "EIGHTY THOUSAND", "NINETY THOUSAND"]⟩,
  ⟨0x1ED2E, "", ["OTTOMAN SIYAQ MARRATAN"]⟩,
  ⟨0x1ED2F, "OTTOMAN SIYAQ ALTERNATE NUMBER ", ["TWO", "THREE", "FOUR", "FIVE", "SIX", "SEVEN",
    "EIGHT", "NINE", "TEN", "FOUR HUNDRED", "SIX HUNDRED", "TWO THOUSAND", "TEN THOUSAND"]⟩,
  ⟨0x1ED3C, "OTTOMAN SIYAQ FRACTION ONE ", ["HALF", "SIXTH"]⟩]

end ActionFlow.Text
