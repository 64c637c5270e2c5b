import ActionFlow.Text.CharacterName.Run

/-!
# Names of East Asian characters

The names of jamo and Mongolian letters, of kana, bopomofo, radicals and compounds, of
Yi, and of the rarer scripts and wide and narrow forms.
-/

namespace ActionFlow.Text

/-- The names of jamo and Mongolian letters. -/
def jamoNames : List NameRun := [
  ⟨0x1100, "HANGUL CHOSEONG ", ["KIYEOK", "SSANGKIYEOK", "NIEUN", "TIKEUT", "SSANGTIKEUT",
    "RIEUL", "MIEUM", "PIEUP", "SSANGPIEUP", "SIOS", "SSANGSIOS", "IEUNG", "CIEUC", "SSANGCIEUC",
    "CHIEUCH", "KHIEUKH", "THIEUTH", "PHIEUPH", "HIEUH", "NIEUN-KIYEOK", "SSANGNIEUN",
    "NIEUN-TIKEUT", "NIEUN-PIEUP", "TIKEUT-KIYEOK", "RIEUL-NIEUN", "SSANGRIEUL", "RIEUL-HIEUH",
    "KAPYEOUNRIEUL", "MIEUM-PIEUP", "KAPYEOUNMIEUM", "PIEUP-KIYEOK", "PIEUP-NIEUN",
    "PIEUP-TIKEUT", "PIEUP-SIOS", "PIEUP-SIOS-KIYEOK", "PIEUP-SIOS-TIKEUT", "PIEUP-SIOS-PIEUP",
    "PIEUP-SSANGSIOS", "PIEUP-SIOS-CIEUC", "PIEUP-CIEUC", "PIEUP-CHIEUCH", "PIEUP-THIEUTH",
    "PIEUP-PHIEUPH", "KAPYEOUNPIEUP", "KAPYEOUNSSANGPIEUP", "SIOS-KIYEOK", "SIOS-NIEUN",
    "SIOS-TIKEUT", "SIOS-RIEUL", "SIOS-MIEUM", "SIOS-PIEUP", "SIOS-PIEUP-KIYEOK",
    "SIOS-SSANGSIOS", "SIOS-IEUNG", "SIOS-CIEUC", "SIOS-CHIEUCH", "SIOS-KHIEUKH", "SIOS-THIEUTH",
    "SIOS-PHIEUPH", "SIOS-HIEUH", "CHITUEUMSIOS", "CHITUEUMSSANGSIOS", "CEONGCHIEUMSIOS",
    "CEONGCHIEUMSSANGSIOS", "PANSIOS", "IEUNG-KIYEOK", "IEUNG-TIKEUT", "IEUNG-MIEUM",
    "IEUNG-PIEUP", "IEUNG-SIOS", "IEUNG-PANSIOS", "SSANGIEUNG", "IEUNG-CIEUC", "IEUNG-CHIEUCH",
    "IEUNG-THIEUTH", "IEUNG-PHIEUPH", "YESIEUNG", "CIEUC-IEUNG", "CHITUEUMCIEUC",
    "CHITUEUMSSANGCIEUC", "CEONGCHIEUMCIEUC", "CEONGCHIEUMSSANGCIEUC", "CHIEUCH-KHIEUKH",
    "CHIEUCH-HIEUH", "CHITUEUMCHIEUCH", "CEONGCHIEUMCHIEUCH", "PHIEUPH-PIEUP", "KAPYEOUNPHIEUPH",
    "SSANGHIEUH", "YEORINHIEUH", "KIYEOK-TIKEUT", "NIEUN-SIOS", "NIEUN-CIEUC", "NIEUN-HIEUH",
    "TIKEUT-RIEUL", "FILLER"]⟩,
  ⟨0x1160, "HANGUL JUNGSEONG ", ["FILLER", "A", "AE", "YA", "YAE", "EO", "E", "YEO", "YE", "O",
    "WA", "WAE", "OE", "YO", "U", "WEO", "WE", "WI", "YU", "EU", "YI", "I", "A-O", "A-U", "YA-O",
    "YA-YO", "EO-O", "EO-U", "EO-EU", "YEO-O", "YEO-U", "O-EO", "O-E", "O-YE", "O-O", "O-U",
    "YO-YA", "YO-YAE", "YO-YEO", "YO-O", "YO-I", "U-A", "U-AE", "U-EO-EU", "U-YE", "U-U", "YU-A",
    "YU-EO", "YU-E", "YU-YEO", "YU-YE", "YU-U", "YU-I", "EU-U", "EU-EU", "YI-U", "I-A", "I-YA",
    "I-O", "I-U", "I-EU", "I-ARAEA", "ARAEA", "ARAEA-EO", "ARAEA-U", "ARAEA-I", "SSANGARAEA",
    "A-EU", "YA-U", "YEO-YA", "O-YA", "O-YAE"]⟩,
  ⟨0x11A8, "HANGUL JONGSEONG ", ["KIYEOK", "SSANGKIYEOK", "KIYEOK-SIOS", "NIEUN", "NIEUN-CIEUC",
    "NIEUN-HIEUH", "TIKEUT", "RIEUL", "RIEUL-KIYEOK", "RIEUL-MIEUM", "RIEUL-PIEUP", "RIEUL-SIOS",
    "RIEUL-THIEUTH", "RIEUL-PHIEUPH", "RIEUL-HIEUH", "MIEUM", "PIEUP", "PIEUP-SIOS", "SIOS",
    "SSANGSIOS", "IEUNG", "CIEUC", "CHIEUCH", "KHIEUKH", "THIEUTH", "PHIEUPH", "HIEUH",
    "KIYEOK-RIEUL", "KIYEOK-SIOS-KIYEOK", "NIEUN-KIYEOK", "NIEUN-TIKEUT", "NIEUN-SIOS",
    "NIEUN-PANSIOS", "NIEUN-THIEUTH", "TIKEUT-KIYEOK", "TIKEUT-RIEUL", "RIEUL-KIYEOK-SIOS",
    "RIEUL-NIEUN", "RIEUL-TIKEUT", "RIEUL-TIKEUT-HIEUH", "SSANGRIEUL", "RIEUL-MIEUM-KIYEOK",
    "RIEUL-MIEUM-SIOS", "RIEUL-PIEUP-SIOS", "RIEUL-PIEUP-HIEUH", "RIEUL-KAPYEOUNPIEUP",
    "RIEUL-SSANGSIOS", "RIEUL-PANSIOS", "RIEUL-KHIEUKH", "RIEUL-YEORINHIEUH", "MIEUM-KIYEOK",
    "MIEUM-RIEUL", "MIEUM-PIEUP", "MIEUM-SIOS", "MIEUM-SSANGSIOS", "MIEUM-PANSIOS",
    "MIEUM-CHIEUCH", "MIEUM-HIEUH", "KAPYEOUNMIEUM", "PIEUP-RIEUL", "PIEUP-PHIEUPH",
    "PIEUP-HIEUH", "KAPYEOUNPIEUP", "SIOS-KIYEOK", "SIOS-TIKEUT", "SIOS-RIEUL", "SIOS-PIEUP",
    "PANSIOS", "IEUNG-KIYEOK", "IEUNG-SSANGKIYEOK", "SSANGIEUNG", "IEUNG-KHIEUKH", "YESIEUNG",
    "YESIEUNG-SIOS", "YESIEUNG-PANSIOS", "PHIEUPH-PIEUP", "KAPYEOUNPHIEUPH", "HIEUH-NIEUN",
    "HIEUH-RIEUL", "HIEUH-MIEUM", "HIEUH-PIEUP", "YEORINHIEUH", "KIYEOK-NIEUN", "KIYEOK-PIEUP",
    "KIYEOK-CHIEUCH", "KIYEOK-KHIEUKH", "KIYEOK-HIEUH", "SSANGNIEUN"]⟩,
  ⟨0x1800, "MONGOLIAN ", ["BIRGA", "ELLIPSIS", "COMMA", "FULL STOP", "COLON", "FOUR DOTS",
    "TODO SOFT HYPHEN", "SIBE SYLLABLE BOUNDARY MARKER", "MANCHU COMMA", "MANCHU FULL STOP",
    "NIRUGU", "FREE VARIATION SELECTOR ONE", "FREE VARIATION SELECTOR TWO",
    "FREE VARIATION SELECTOR THREE", "VOWEL SEPARATOR", "FREE VARIATION SELECTOR FOUR"]⟩,
  ⟨0x1810, "MONGOLIAN DIGIT ", ["ZERO", "ONE", "TWO", "THREE", "FOUR", "FIVE", "SIX", "SEVEN",
    "EIGHT", "NINE"]⟩,
  ⟨0x1820, "MONGOLIAN LETTER ", ["A", "E", "I", "O", "U", "OE", "UE", "EE", "NA", "ANG", "BA",
    "PA", "QA", "GA", "MA", "LA", "SA", "SHA", "TA", "DA", "CHA", "JA", "YA", "RA", "WA", "FA",
    "KA", "KHA", "TSA", "ZA", "HAA", "ZRA", "LHA", "ZHI", "CHI"]⟩,
  ⟨0x1843, "MONGOLIAN LETTER TODO ", ["LONG VOWEL SIGN", "E", "I", "O", "U", "OE", "UE", "ANG",
    "BA", "PA", "QA", "GA", "MA", "TA", "DA", "CHA", "JA", "TSA", "YA", "WA", "KA", "GAA", "HAA",
    "JIA", "NIA", "DZA"]⟩,
  ⟨0x185D, "MONGOLIAN LETTER SIBE ", ["E", "I", "IY", "UE", "U", "ANG", "KA", "GA", "HA", "PA",
    "SHA", "TA", "DA", "JA", "FA", "GAA", "HAA", "TSA", "ZA", "RAA", "CHA", "ZHA"]⟩,
  ⟨0x1873, "MONGOLIAN LETTER ", ["MANCHU I", "MANCHU KA", "MANCHU RA", "MANCHU FA", "MANCHU ZHA",
    "CHA WITH TWO DOTS"]⟩,
  ⟨0x1880, "MONGOLIAN LETTER ALI GALI ", ["ANUSVARA ONE", "VISARGA ONE", "DAMARU", "UBADAMA",
    "INVERTED UBADAMA", "BALUDA", "THREE BALUDA", "A", "I", "KA", "NGA", "CA", "TTA", "TTHA",
    "DDA", "NNA", "TA", "DA", "PA", "PHA", "SSA", "ZHA", "ZA", "AH"]⟩,
  ⟨0x1898, "MONGOLIAN LETTER TODO ALI GALI ", ["TA", "ZHA"]⟩,
  ⟨0x189A, "MONGOLIAN LETTER MANCHU ALI GALI ", ["GHA", "NGA", "CA", "JHA", "TTA", "DDHA", "TA",
    "DHA", "SSA", "CYA", "ZHA", "ZA"]⟩,
  ⟨0x18A6, "MONGOLIAN LETTER ", ["ALI GALI HALF U", "ALI GALI HALF YA", "MANCHU ALI GALI BHA",
    "ALI GALI DAGALGA", "MANCHU ALI GALI LHA"]⟩]

/-- The names of radicals, kana and compounds. -/
def kanaNames : List NameRun := [
  ⟨0x2E80, "CJK RADICAL ", ["REPEAT", "CLIFF", "SECOND ONE", "SECOND TWO", "SECOND THREE",
    "PERSON", "BOX", "TABLE", "KNIFE ONE", "KNIFE TWO", "DIVINATION", "SEAL", "SMALL ONE",
    "SMALL TWO", "LAME ONE", "LAME TWO", "LAME THREE", "LAME FOUR", "SNAKE", "THREAD",
    "SNOUT ONE", "SNOUT TWO", "HEART ONE", "HEART TWO", "HAND", "RAP"]⟩,
  ⟨0x2E9B, "CJK RADICAL ", ["CHOKE", "SUN", "MOON", "DEATH", "MOTHER", "CIVILIAN", "WATER ONE",
    "WATER TWO", "FIRE", "PAW ONE", "PAW TWO", "SIMPLIFIED HALF TREE TRUNK", "COW", "DOG",
    "JADE", "BOLT OF CLOTH", "EYE", "SPIRIT ONE", "SPIRIT TWO", "BAMBOO", "SILK",
    "C-SIMPLIFIED SILK", "NET ONE", "NET TWO", "NET THREE", "NET FOUR", "MESH", "SHEEP", "RAM",
    "EWE", "OLD", "BRUSH ONE", "BRUSH TWO", "MEAT", "MORTAR", "GRASS ONE", "GRASS TWO",
    "GRASS THREE", "TIGER", "CLOTHES", "WEST ONE", "WEST TWO", "C-SIMPLIFIED SEE",
    "SIMPLIFIED HORN", "HORN", "C-SIMPLIFIED SPEECH", "C-SIMPLIFIED SHELL", "FOOT",
    "C-SIMPLIFIED CART", "SIMPLIFIED WALK", "WALK ONE", "WALK TWO", "CITY", "C-SIMPLIFIED GOLD",
    "LONG ONE", "LONG TWO", "C-SIMPLIFIED LONG", "C-SIMPLIFIED GATE", "MOUND ONE", "MOUND TWO",
    "RAIN", "BLUE", "C-SIMPLIFIED TANNED LEATHER", "C-SIMPLIFIED LEAF", "C-SIMPLIFIED WIND",
    "C-SIMPLIFIED FLY", "EAT ONE", "EAT TWO", "EAT THREE", "C-SIMPLIFIED EAT", "HEAD",
    "C-SIMPLIFIED HORSE", "BONE", "GHOST", "C-SIMPLIFIED FISH", "C-SIMPLIFIED BIRD",
    "C-SIMPLIFIED SALT", "SIMPLIFIED WHEAT", "SIMPLIFIED YELLOW", "C-SIMPLIFIED FROG",
    "J-SIMPLIFIED EVEN", "C-SIMPLIFIED EVEN", "J-SIMPLIFIED TOOTH", "C-SIMPLIFIED TOOTH",
    "J-SIMPLIFIED DRAGON", "C-SIMPLIFIED DRAGON", "TURTLE", "J-SIMPLIFIED TURTLE",
    "C-SIMPLIFIED TURTLE"]⟩,
  ⟨0x2F00, "KANGXI RADICAL ", ["ONE", "LINE", "DOT", "SLASH", "SECOND", "HOOK", "TWO", "LID",
    "MAN", "LEGS", "ENTER", "EIGHT", "DOWN BOX", "COVER", "ICE", "TABLE", "OPEN BOX", "KNIFE",
    "POWER", "WRAP", "SPOON", "RIGHT OPEN BOX", "HIDING ENCLOSURE", "TEN", "DIVINATION", "SEAL",
    "CLIFF", "PRIVATE", "AGAIN", "MOUTH", "ENCLOSURE", "EARTH", "SCHOLAR", "GO", "GO SLOWLY",
    "EVENING", "BIG", "WOMAN", "CHILD", "ROOF", "INCH", "SMALL", "LAME", "CORPSE", "SPROUT",
    "MOUNTAIN", "RIVER", "WORK", "ONESELF", "TURBAN", "DRY", "SHORT THREAD", "DOTTED CLIFF",
    "LONG STRIDE"]⟩,
  ⟨0x2F36, "KANGXI RADICAL ", ["TWO HANDS", "SHOOT", "BOW", "SNOUT", "BRISTLE", "STEP", "HEART",
    "HALBERD", "DOOR", "HAND", "BRANCH", "RAP", "SCRIPT", "DIPPER", "AXE", "SQUARE", "NOT",
    "SUN", "SAY", "MOON", "TREE", "LACK", "STOP", "DEATH", "WEAPON", "DO NOT", "COMPARE", "FUR",
    "CLAN", "STEAM", "WATER", "FIRE", "CLAW", "FATHER", "DOUBLE X", "HALF TREE TRUNK", "SLICE",
    "FANG", "COW", "DOG", "PROFOUND", "JADE", "MELON", "TILE", "SWEET", "LIFE", "USE", "FIELD",
    "BOLT OF CLOTH", "SICKNESS", "DOTTED TENT", "WHITE", "SKIN", "DISH", "EYE", "SPEAR", "ARROW",
    "STONE", "SPIRIT", "TRACK", "GRAIN", "CAVE", "STAND", "BAMBOO", "RICE", "SILK", "JAR", "NET",
    "SHEEP", "FEATHER", "OLD", "AND", "PLOW", "EAR", "BRUSH", "MEAT", "MINISTER", "SELF",
    "ARRIVE", "MORTAR", "TONGUE", "OPPOSE", "BOAT", "STOPPING", "COLOR", "GRASS", "TIGER",
    "INSECT", "BLOOD", "WALK ENCLOSURE", "CLOTHES", "WEST", "SEE", "HORN", "SPEECH", "VALLEY",
    "BEAN", "PIG", "BADGER", "SHELL", "RED", "RUN", "FOOT", "BODY", "CART", "BITTER", "MORNING",
    "WALK", "CITY", "WINE", "DISTINGUISH", "VILLAGE", "GOLD", "LONG", "GATE", "MOUND", "SLAVE",
    "SHORT TAILED BIRD", "RAIN", "BLUE", "WRONG", "FACE", "LEATHER", "TANNED LEATHER", "LEEK",
    "SOUND", "LEAF", "WIND", "FLY", "EAT", "HEAD", "FRAGRANT", "HORSE", "BONE", "TALL", "HAIR",
    "FIGHT", "SACRIFICIAL WINE", "CAULDRON", "GHOST", "FISH", "BIRD", "SALT", "DEER", "WHEAT",
    "HEMP", "YELLOW", "MILLET", "BLACK", "EMBROIDERY", "FROG", "TRIPOD", "DRUM", "RAT", "NOSE",
    "EVEN", "TOOTH", "DRAGON", "TURTLE", "FLUTE"]⟩,
  ⟨0x2FF0, "IDEOGRAPHIC DESCRIPTION CHARACTER ", ["LEFT TO RIGHT", "ABOVE TO BELOW",
    "LEFT TO MIDDLE AND RIGHT", "ABOVE TO MIDDLE AND BELOW", "FULL SURROUND",
    "SURROUND FROM ABOVE", "SURROUND FROM BELOW", "SURROUND FROM LEFT",
    "SURROUND FROM UPPER LEFT", "SURROUND FROM UPPER RIGHT", "SURROUND FROM LOWER LEFT",
    "OVERLAID"]⟩,
  ⟨0x3000, "IDEOGRAPHIC ", ["SPACE", "COMMA", "FULL STOP"]⟩,
  ⟨0x3003, "", ["DITTO MARK", "JAPANESE INDUSTRIAL STANDARD SYMBOL",
    "IDEOGRAPHIC ITERATION MARK", "IDEOGRAPHIC CLOSING MARK", "IDEOGRAPHIC NUMBER ZERO",
    "LEFT ANGLE BRACKET", "RIGHT ANGLE BRACKET", "LEFT DOUBLE ANGLE BRACKET",
    "RIGHT DOUBLE ANGLE BRACKET", "LEFT CORNER BRACKET", "RIGHT CORNER BRACKET",
    "LEFT WHITE CORNER BRACKET", "RIGHT WHITE CORNER BRACKET", "LEFT BLACK LENTICULAR BRACKET",
    "RIGHT BLACK LENTICULAR BRACKET", "POSTAL MARK", "GETA MARK", "LEFT TORTOISE SHELL BRACKET",
    "RIGHT TORTOISE SHELL BRACKET", "LEFT WHITE LENTICULAR BRACKET",
    "RIGHT WHITE LENTICULAR BRACKET", "LEFT WHITE TORTOISE SHELL BRACKET",
    "RIGHT WHITE TORTOISE SHELL BRACKET", "LEFT WHITE SQUARE BRACKET",
    "RIGHT WHITE SQUARE BRACKET", "WAVE DASH", "REVERSED DOUBLE PRIME QUOTATION MARK",
    "DOUBLE PRIME QUOTATION MARK", "LOW DOUBLE PRIME QUOTATION MARK", "POSTAL MARK FACE"]⟩,
  ⟨0x3021, "HANGZHOU NUMERAL ", ["ONE", "TWO", "THREE", "FOUR", "FIVE", "SIX", "SEVEN", "EIGHT",
    "NINE"]⟩,
  ⟨0x302A, "IDEOGRAPHIC ", ["LEVEL TONE MARK", "RISING TONE MARK", "DEPARTING TONE MARK",
    "ENTERING TONE MARK"]⟩,
  ⟨0x302E, "", ["HANGUL SINGLE DOT TONE MARK", "HANGUL DOUBLE DOT TONE MARK", "WAVY DASH"]⟩,
  ⟨0x3031, "VERTICAL KANA REPEAT ", ["MARK", "WITH VOICED SOUND MARK", "MARK UPPER HALF",
    "WITH VOICED SOUND MARK UPPER HALF", "MARK LOWER HALF"]⟩,
  ⟨0x3036, "", ["CIRCLED POSTAL MARK", "IDEOGRAPHIC TELEGRAPH LINE FEED SEPARATOR SYMBOL",
    "HANGZHOU NUMERAL TEN", "HANGZHOU NUMERAL TWENTY", "HANGZHOU NUMERAL THIRTY",
    "VERTICAL IDEOGRAPHIC ITERATION MARK", "MASU MARK", "PART ALTERNATION MARK",
    "IDEOGRAPHIC VARIATION INDICATOR", "IDEOGRAPHIC HALF FILL SPACE"]⟩,
  ⟨0x3041, "HIRAGANA LETTER ", ["SMALL A", "A", "SMALL I", "I", "SMALL U", "U", "SMALL E", "E",
    "SMALL O", "O", "KA", "GA", "KI", "GI", "KU", "GU", "KE", "GE", "KO", "GO", "SA", "ZA", "SI",
    "ZI", "SU", "ZU", "SE", "ZE", "SO", "ZO", "TA", "DA", "TI", "DI", "SMALL TU", "TU", "DU",
    "TE", "DE", "TO", "DO", "NA", "NI", "NU", "NE", "NO", "HA", "BA", "PA", "HI", "BI", "PI",
    "HU", "BU", "PU", "HE", "BE", "PE", "HO", "BO", "PO", "MA", "MI", "MU", "ME", "MO",
    "SMALL YA", "YA", "SMALL YU", "YU", "SMALL YO", "YO", "RA", "RI", "RU", "RE", "RO",
    "SMALL WA", "WA", "WI", "WE", "WO", "N", "VU", "SMALL KA", "SMALL KE"]⟩,
  ⟨0x3099, "COMBINING KATAKANA-HIRAGANA ", ["VOICED SOUND MARK", "SEMI-VOICED SOUND MARK"]⟩,
  ⟨0x309B, "", ["KATAKANA-HIRAGANA VOICED SOUND MARK",
    "KATAKANA-HIRAGANA SEMI-VOICED SOUND MARK", "HIRAGANA ITERATION MARK",
    "HIRAGANA VOICED ITERATION MARK", "HIRAGANA DIGRAPH YORI",
    "KATAKANA-HIRAGANA DOUBLE HYPHEN"]⟩,
  ⟨0x30A1, "KATAKANA LETTER ", ["SMALL A", "A", "SMALL I", "I", "SMALL U", "U", "SMALL E", "E",
    "SMALL O", "O", "KA", "GA", "KI", "GI", "KU", "GU", "KE", "GE", "KO", "GO", "SA", "ZA", "SI",
    "ZI", "SU", "ZU", "SE", "ZE", "SO", "ZO", "TA", "DA", "TI", "DI", "SMALL TU", "TU", "DU",
    "TE", "DE", "TO", "DO", "NA", "NI", "NU", "NE", "NO", "HA", "BA", "PA", "HI", "BI", "PI",
    "HU", "BU", "PU", "HE", "BE", "PE", "HO", "BO", "PO", "MA", "MI", "MU", "ME", "MO",
    "SMALL YA", "YA", "SMALL YU", "YU", "SMALL YO", "YO", "RA", "RI", "RU", "RE", "RO",
    "SMALL WA", "WA", "WI", "WE", "WO", "N", "VU", "SMALL KA", "SMALL KE", "VA", "VI", "VE",
    "VO"]⟩,
  ⟨0x30FB, "", ["KATAKANA MIDDLE DOT", "KATAKANA-HIRAGANA PROLONGED SOUND MARK",
    "KATAKANA ITERATION MARK", "KATAKANA VOICED ITERATION MARK", "KATAKANA DIGRAPH KOTO"]⟩,
  ⟨0x3105, "BOPOMOFO LETTER ", ["B", "P", "M", "F", "D", "T", "N", "L", "G", "K", "H", "J", "Q",
    "X", "ZH", "CH", "SH", "R", "Z", "C", "S", "A", "O", "E", "EH", "AI", "EI", "AU", "OU", "AN",
    "EN", "ANG", "ENG", "ER", "I", "U", "IU", "V", "NG", "GN", "IH", "O WITH DOT ABOVE", "NN"]⟩,
  ⟨0x3131, "HANGUL LETTER ", ["KIYEOK", "SSANGKIYEOK", "KIYEOK-SIOS", "NIEUN", "NIEUN-CIEUC",
    "NIEUN-HIEUH", "TIKEUT", "SSANGTIKEUT", "RIEUL", "RIEUL-KIYEOK", "RIEUL-MIEUM",
    "RIEUL-PIEUP", "RIEUL-SIOS", "RIEUL-THIEUTH", "RIEUL-PHIEUPH", "RIEUL-HIEUH", "MIEUM",
    "PIEUP", "SSANGPIEUP", "PIEUP-SIOS", "SIOS", "SSANGSIOS", "IEUNG", "CIEUC", "SSANGCIEUC",
    "CHIEUCH", "KHIEUKH", "THIEUTH", "PHIEUPH", "HIEUH", "A", "AE", "YA", "YAE", "EO", "E",
    "YEO", "YE", "O", "WA", "WAE", "OE", "YO", "U", "WEO", "WE", "WI", "YU", "EU", "YI", "I"]⟩,
  ⟨0x3164, "", ["HANGUL FILLER"]⟩,
  ⟨0x3165, "HANGUL LETTER ", ["SSANGNIEUN", "NIEUN-TIKEUT", "NIEUN-SIOS", "NIEUN-PANSIOS",
    "RIEUL-KIYEOK-SIOS", "RIEUL-TIKEUT", "RIEUL-PIEUP-SIOS", "RIEUL-PANSIOS",
    "RIEUL-YEORINHIEUH", "MIEUM-PIEUP", "MIEUM-SIOS", "MIEUM-PANSIOS", "KAPYEOUNMIEUM",
    "PIEUP-KIYEOK", "PIEUP-TIKEUT", "PIEUP-SIOS-KIYEOK", "PIEUP-SIOS-TIKEUT", "PIEUP-CIEUC",
    "PIEUP-THIEUTH", "KAPYEOUNPIEUP", "KAPYEOUNSSANGPIEUP", "SIOS-KIYEOK", "SIOS-NIEUN",
    "SIOS-TIKEUT", "SIOS-PIEUP", "SIOS-CIEUC", "PANSIOS", "SSANGIEUNG", "YESIEUNG",
    "YESIEUNG-SIOS", "YESIEUNG-PANSIOS", "KAPYEOUNPHIEUPH", "SSANGHIEUH", "YEORINHIEUH", "YO-YA",
    "YO-YAE", "YO-I", "YU-YEO", "YU-YE", "YU-I", "ARAEA", "ARAEAE"]⟩,
  ⟨0x3190, "IDEOGRAPHIC ANNOTATION ", ["LINKING MARK", "REVERSE MARK", "ONE MARK", "TWO MARK",
    "THREE MARK", "FOUR MARK", "TOP MARK", "MIDDLE MARK", "BOTTOM MARK", "FIRST MARK",
    "SECOND MARK", "THIRD MARK", "FOURTH MARK", "HEAVEN MARK", "EARTH MARK", "MAN MARK"]⟩,
  ⟨0x31A0, "BOPOMOFO LETTER ", ["BU", "ZI", "JI", "GU", "EE", "ENN", "OO", "ONN", "IR", "ANN",
    "INN", "UNN", "IM", "NGG", "AINN", "AUNN", "AM", "OM", "ONG", "INNN"]⟩,
  ⟨0x31B4, "BOPOMOFO FINAL LETTER ", ["P", "T", "K", "H"]⟩,
  ⟨0x31B8, "BOPOMOFO ", ["LETTER GH", "LETTER LH", "LETTER ZY", "FINAL LETTER G", "LETTER GW",
    "LETTER KW", "LETTER OE", "LETTER AH"]⟩,
  ⟨0x31C0, "CJK STROKE ", ["T", "WG", "XG", "BXG", "SW", "HZZ", "HZG", "HP", "HZWG", "SZWG",
    "HZT", "HZZP", "HPWG", "HZW", "HZZZ", "N", "H", "S", "P", "SP", "D", "HZ", "HG", "SZ", "SWZ",
    "ST", "SG", "PD", "PZ", "TN", "SZZ", "SWG", "HXWG", "HZZZG", "PG", "Q"]⟩,
  ⟨0x31F0, "KATAKANA LETTER SMALL ", ["KU", "SI", "SU", "TO", "NU", "HA", "HI", "HU", "HE", "HO",
    "MU", "RA", "RI", "RU", "RE", "RO"]⟩,
  ⟨0x3200, "PARENTHESIZED HANGUL ", ["KIYEOK", "NIEUN", "TIKEUT", "RIEUL", "MIEUM", "PIEUP",
    "SIOS", "IEUNG", "CIEUC", "CHIEUCH", "KHIEUKH", "THIEUTH", "PHIEUPH", "HIEUH", "KIYEOK A",
    "NIEUN A", "TIKEUT A", "RIEUL A", "MIEUM A", "PIEUP A", "SIOS A", "IEUNG A", "CIEUC A",
    "CHIEUCH A", "KHIEUKH A", "THIEUTH A", "PHIEUPH A", "HIEUH A", "CIEUC U"]⟩,
  ⟨0x321D, "PARENTHESIZED KOREAN CHARACTER ", ["OJEON", "O HU"]⟩,
  ⟨0x3220, "PARENTHESIZED IDEOGRAPH ", ["ONE", "TWO", "THREE", "FOUR", "FIVE", "SIX", "SEVEN",
    "EIGHT", "NINE", "TEN", "MOON", "FIRE", "WATER", "WOOD", "METAL", "EARTH", "SUN", "STOCK",
    "HAVE", "SOCIETY", "NAME", "SPECIAL", "FINANCIAL", "CONGRATULATION", "LABOR", "REPRESENT",
    "CALL", "STUDY", "SUPERVISE", "ENTERPRISE", "RESOURCE", "ALLIANCE", "FESTIVAL", "REST",
    "SELF", "REACH"]⟩,
  ⟨0x3244, "CIRCLED IDEOGRAPH ", ["QUESTION", "KINDERGARTEN", "SCHOOL", "KOTO"]⟩,
  ⟨0x3248, "CIRCLED NUMBER ", ["TEN ON BLACK SQUARE", "TWENTY ON BLACK SQUARE",
    "THIRTY ON BLACK SQUARE", "FORTY ON BLACK SQUARE", "FIFTY ON BLACK SQUARE",
    "SIXTY ON BLACK SQUARE", "SEVENTY ON BLACK SQUARE", "EIGHTY ON BLACK SQUARE"]⟩,
  ⟨0x3250, "", ["PARTNERSHIP SIGN"]⟩,
  ⟨0x3251, "CIRCLED NUMBER TWENTY ", ["ONE", "TWO", "THREE", "FOUR", "FIVE", "SIX", "SEVEN",
    "EIGHT", "NINE"]⟩,
  ⟨0x325A, "CIRCLED NUMBER ", ["THIRTY", "THIRTY ONE", "THIRTY TWO", "THIRTY THREE",
    "THIRTY FOUR", "THIRTY FIVE"]⟩,
  ⟨0x3260, "CIRCLED HANGUL ", ["KIYEOK", "NIEUN", "TIKEUT", "RIEUL", "MIEUM", "PIEUP", "SIOS",
    "IEUNG", "CIEUC", "CHIEUCH", "KHIEUKH", "THIEUTH", "PHIEUPH", "HIEUH", "KIYEOK A", "NIEUN A",
    "TIKEUT A", "RIEUL A", "MIEUM A", "PIEUP A", "SIOS A", "IEUNG A", "CIEUC A", "CHIEUCH A",
    "KHIEUKH A", "THIEUTH A", "PHIEUPH A", "HIEUH A"]⟩,
  ⟨0x327C, "CIRCLED KOREAN CHARACTER ", ["CHAMKO", "JUEUI"]⟩,
  ⟨0x327E, "", ["CIRCLED HANGUL IEUNG U", "KOREAN STANDARD SYMBOL"]⟩,
  ⟨0x3280, "CIRCLED IDEOGRAPH ", ["ONE", "TWO", "THREE", "FOUR", "FIVE", "SIX", "SEVEN", "EIGHT",
    "NINE", "TEN", "MOON", "FIRE", "WATER", "WOOD", "METAL", "EARTH", "SUN", "STOCK", "HAVE",
    "SOCIETY", "NAME", "SPECIAL", "FINANCIAL", "CONGRATULATION", "LABOR", "SECRET", "MALE",
    "FEMALE", "SUITABLE", "EXCELLENT", "PRINT", "ATTENTION", "ITEM", "REST", "COPY", "CORRECT",
    "HIGH", "CENTRE", "LOW", "LEFT", "RIGHT", "MEDICINE", "RELIGION", "STUDY", "SUPERVISE",
    "ENTERPRISE", "RESOURCE", "ALLIANCE", "NIGHT"]⟩,
  ⟨0x32B1, "CIRCLED NUMBER ", ["THIRTY SIX", "THIRTY SEVEN", "THIRTY EIGHT", "THIRTY NINE",
    "FORTY", "FORTY ONE", "FORTY TWO", "FORTY THREE", "FORTY FOUR", "FORTY FIVE", "FORTY SIX",
    "FORTY SEVEN", "FORTY EIGHT", "FORTY NINE", "FIFTY"]⟩,
  ⟨0x32C0, "IDEOGRAPHIC TELEGRAPH SYMBOL FOR ", ["JANUARY", "FEBRUARY", "MARCH", "APRIL", "MAY",
    "JUNE", "JULY", "AUGUST", "SEPTEMBER", "OCTOBER", "NOVEMBER", "DECEMBER"]⟩,
  ⟨0x32CC, "", ["SQUARE HG", "SQUARE ERG", "SQUARE EV", "LIMITED LIABILITY SIGN"]⟩,
  ⟨0x32D0, "CIRCLED KATAKANA ", ["A", "I", "U", "E", "O", "KA", "KI", "KU", "KE", "KO", "SA",
    "SI", "SU", "SE", "SO", "TA", "TI", "TU", "TE", "TO", "NA", "NI", "NU", "NE", "NO", "HA",
    "HI", "HU", "HE", "HO", "MA", "MI", "MU", "ME", "MO", "YA", "YU", "YO", "RA", "RI", "RU",
    "RE", "RO", "WA", "WI", "WE", "WO"]⟩,
  ⟨0x32FF, "SQUARE ", ["ERA NAME REIWA", "APAATO", "ARUHUA", "ANPEA", "AARU", "ININGU", "INTI",
    "UON", "ESUKUUDO", "EEKAA", "ONSU", "OOMU", "KAIRI", "KARATTO", "KARORII", "GARON", "GANMA",
    "GIGA", "GINII", "KYURII", "GIRUDAA", "KIRO", "KIROGURAMU", "KIROMEETORU", "KIROWATTO",
    "GURAMU", "GURAMUTON", "KURUZEIRO", "KUROONE", "KEESU", "KORUNA", "KOOPO", "SAIKURU",
    "SANTIIMU", "SIRINGU", "SENTI", "SENTO", "DAASU", "DESI", "DORU", "TON", "NANO", "NOTTO",
    "HAITU", "PAASENTO", "PAATU", "BAARERU", "PIASUTORU", "PIKURU", "PIKO", "BIRU", "HUARADDO",
    "HUIITO", "BUSSYERU", "HURAN", "HEKUTAARU", "PESO", "PENIHI", "HERUTU", "PENSU", "PEEZI",
    "BEETA", "POINTO", "BORUTO", "HON", "PONDO", "HOORU", "HOON", "MAIKURO", "MAIRU", "MAHHA",
    "MARUKU", "MANSYON", "MIKURON", "MIRI", "MIRIBAARU", "MEGA", "MEGATON", "MEETORU", "YAADO",
    "YAARU", "YUAN", "RITTORU", "RIRA", "RUPII", "RUUBURU", "REMU", "RENTOGEN", "WATTO"]⟩,
  ⟨0x3358, "IDEOGRAPHIC TELEGRAPH SYMBOL FOR HOUR ", ["ZERO", "ONE", "TWO", "THREE", "FOUR",
    "FIVE", "SIX", "SEVEN", "EIGHT", "NINE", "TEN", "ELEVEN", "TWELVE", "THIRTEEN", "FOURTEEN",
    "FIFTEEN", "SIXTEEN", "SEVENTEEN", "EIGHTEEN", "NINETEEN", "TWENTY", "TWENTY-ONE",
    "TWENTY-TWO", "TWENTY-THREE", "TWENTY-FOUR"]⟩,
  ⟨0x3371, "SQUARE ", ["HPA", "DA", "AU", "BAR", "OV", "PC", "DM", "DM SQUARED", "DM CUBED",
    "IU", "ERA NAME HEISEI", "ERA NAME SYOUWA", "ERA NAME TAISYOU", "ERA NAME MEIZI",
    "CORPORATION", "PA AMPS", "NA", "MU A", "MA", "KA", "KB", "MB", "GB", "CAL", "KCAL", "PF",
    "NF", "MU F", "MU G", "MG", "KG", "HZ", "KHZ", "MHZ", "GHZ", "THZ", "MU L", "ML", "DL", "KL",
    "FM", "NM", "MU M", "MM", "CM", "KM", "MM SQUARED", "CM SQUARED", "M SQUARED", "KM SQUARED",
    "MM CUBED", "CM CUBED", "M CUBED", "KM CUBED", "M OVER S", "M OVER S SQUARED", "PA", "KPA",
    "MPA", "GPA", "RAD", "RAD OVER S", "RAD OVER S SQUARED", "PS", "NS", "MU S", "MS", "PV",
    "NV", "MU V", "MV", "KV", "MV MEGA", "PW", "NW", "MU W", "MW", "KW", "MW MEGA", "K OHM",
    "M OHM", "AM", "BQ", "CC", "CD", "C OVER KG", "CO", "DB", "GY", "HA", "HP", "IN", "KK",
    "KM CAPITAL", "KT", "LM", "LN", "LOG", "LX", "MB SMALL", "MIL", "MOL", "PH", "PM", "PPM",
    "PR", "SR", "SV", "WB", "V OVER M", "A OVER M"]⟩,
  ⟨0x33E0, "IDEOGRAPHIC TELEGRAPH SYMBOL FOR DAY ", ["ONE", "TWO", "THREE", "FOUR", "FIVE",
    "SIX", "SEVEN", "EIGHT", "NINE", "TEN", "ELEVEN", "TWELVE", "THIRTEEN", "FOURTEEN",
    "FIFTEEN", "SIXTEEN", "SEVENTEEN", "EIGHTEEN", "NINETEEN", "TWENTY", "TWENTY-ONE",
    "TWENTY-TWO", "TWENTY-THREE", "TWENTY-FOUR", "TWENTY-FIVE", "TWENTY-SIX", "TWENTY-SEVEN",
    "TWENTY-EIGHT", "TWENTY-NINE", "THIRTY", "THIRTY-ONE"]⟩,
  ⟨0x33FF, "", ["SQUARE GAL"]⟩,
  ⟨0x4DC0, "HEXAGRAM FOR ", ["THE CREATIVE HEAVEN", "THE RECEPTIVE EARTH",
    "DIFFICULTY AT THE BEGINNING", "YOUTHFUL FOLLY", "WAITING", "CONFLICT", "THE ARMY",
    "HOLDING TOGETHER", "SMALL TAMING", "TREADING", "PEACE", "STANDSTILL", "FELLOWSHIP",
    "GREAT POSSESSION", "MODESTY", "ENTHUSIASM", "FOLLOWING", "WORK ON THE DECAYED", "APPROACH",
    "CONTEMPLATION", "BITING THROUGH", "GRACE", "SPLITTING APART", "RETURN", "INNOCENCE",
    "GREAT TAMING", "MOUTH CORNERS", "GREAT PREPONDERANCE", "THE ABYSMAL WATER",
    "THE CLINGING FIRE", "INFLUENCE", "DURATION", "RETREAT", "GREAT POWER", "PROGRESS",
    "DARKENING OF THE LIGHT", "THE FAMILY", "OPPOSITION", "OBSTRUCTION", "DELIVERANCE",
    "DECREASE", "INCREASE", "BREAKTHROUGH", "COMING TO MEET", "GATHERING TOGETHER",
    "PUSHING UPWARD", "OPPRESSION", "THE WELL", "REVOLUTION", "THE CAULDRON",
    "THE AROUSING THUNDER", "THE KEEPING STILL MOUNTAIN", "DEVELOPMENT", "THE MARRYING MAIDEN",
    "ABUNDANCE", "THE WANDERER", "THE GENTLE WIND", "THE JOYOUS LAKE", "DISPERSION",
    "LIMITATION", "INNER TRUTH", "SMALL PREPONDERANCE", "AFTER COMPLETION", "BEFORE COMPLETION"]⟩]

/-- The names of signs of Yi and of Hangul extensions. -/
def yiNames : List NameRun := [
  ⟨0xA000, "YI SYLLABLE ", ["IT", "IX", "I", "IP", "IET", "IEX", "IE", "IEP", "AT", "AX", "A",
    "AP", "UOX", "UO", "UOP", "OT", "OX", "O", "OP", "EX", "E", "WU", "BIT", "BIX", "BI", "BIP",
    "BIET", "BIEX", "BIE", "BIEP", "BAT", "BAX", "BA", "BAP", "BUOX", "BUO", "BUOP", "BOT",
    "BOX", "BO", "BOP", "BEX", "BE", "BEP", "BUT"]⟩,
  ⟨0xA02D, "YI SYLLABLE ", ["BUX", "BU", "BUP", "BURX", "BUR", "BYT", "BYX", "BY", "BYP", "BYRX",
    "BYR", "PIT", "PIX", "PI", "PIP", "PIEX", "PIE", "PIEP", "PAT", "PAX", "PA", "PAP", "PUOX",
    "PUO", "PUOP", "POT", "POX", "PO", "POP", "PUT", "PUX", "PU", "PUP", "PURX", "PUR", "PYT",
    "PYX", "PY", "PYP", "PYRX", "PYR", "BBIT", "BBIX", "BBI", "BBIP", "BBIET", "BBIEX", "BBIE",
    "BBIEP", "BBAT", "BBAX", "BBA", "BBAP", "BBUOX", "BBUO", "BBUOP", "BBOT", "BBOX", "BBO",
    "BBOP", "BBEX", "BBE", "BBEP", "BBUT", "BBUX", "BBU", "BBUP", "BBURX", "BBUR", "BBYT",
    "BBYX", "BBY", "BBYP", "NBIT", "NBIX", "NBI", "NBIP", "NBIEX", "NBIE", "NBIEP", "NBAT",
    "NBAX", "NBA", "NBAP", "NBOT", "NBOX", "NBO", "NBOP", "NBUT", "NBUX", "NBU", "NBUP", "NBURX",
    "NBUR", "NBYT", "NBYX", "NBY", "NBYP", "NBYRX", "NBYR", "HMIT", "HMIX", "HMI", "HMIP",
    "HMIEX", "HMIE", "HMIEP", "HMAT", "HMAX", "HMA", "HMAP", "HMUOX", "HMUO", "HMUOP", "HMOT",
    "HMOX", "HMO", "HMOP", "HMUT", "HMUX", "HMU", "HMUP", "HMURX", "HMUR", "HMYX", "HMY", "HMYP",
    "HMYRX", "HMYR", "MIT", "MIX", "MI", "MIP", "MIEX", "MIE", "MIEP", "MAT", "MAX", "MA", "MAP",
    "MUOT", "MUOX", "MUO", "MUOP", "MOT", "MOX", "MO", "MOP", "MEX", "ME", "MUT", "MUX", "MU",
    "MUP", "MURX", "MUR", "MYT", "MYX", "MY", "MYP"]⟩,
  ⟨0xA0CD, "YI SYLLABLE ", ["FIT", "FIX", "FI", "FIP", "FAT", "FAX", "FA", "FAP", "FOX", "FO",
    "FOP", "FUT", "FUX", "FU", "FUP", "FURX", "FUR", "FYT", "FYX", "FY", "FYP", "VIT", "VIX",
    "VI", "VIP", "VIET", "VIEX", "VIE", "VIEP", "VAT", "VAX", "VA", "VAP", "VOT", "VOX", "VO",
    "VOP", "VEX", "VEP", "VUT", "VUX", "VU", "VUP", "VURX", "VUR", "VYT", "VYX", "VY", "VYP",
    "VYRX", "VYR", "DIT", "DIX", "DI", "DIP", "DIEX", "DIE", "DIEP", "DAT", "DAX", "DA", "DAP",
    "DUOX", "DUO", "DOT", "DOX", "DO", "DOP", "DEX", "DE", "DEP", "DUT", "DUX", "DU", "DUP",
    "DURX", "DUR", "TIT", "TIX", "TI", "TIP", "TIEX", "TIE", "TIEP", "TAT", "TAX", "TA", "TAP",
    "TUOT", "TUOX", "TUO", "TUOP", "TOT", "TOX", "TO", "TOP", "TEX", "TE", "TEP", "TUT", "TUX",
    "TU", "TUP", "TURX", "TUR", "DDIT", "DDIX", "DDI", "DDIP", "DDIEX", "DDIE", "DDIEP", "DDAT",
    "DDAX", "DDA", "DDAP", "DDUOX", "DDUO", "DDUOP", "DDOT", "DDOX", "DDO", "DDOP", "DDEX",
    "DDE", "DDEP", "DDUT", "DDUX", "DDU", "DDUP", "DDURX", "DDUR", "NDIT", "NDIX", "NDI", "NDIP",
    "NDIEX", "NDIE", "NDAT", "NDAX", "NDA", "NDAP", "NDOT", "NDOX", "NDO", "NDOP", "NDEX", "NDE",
    "NDEP", "NDUT", "NDUX", "NDU", "NDUP", "NDURX", "NDUR", "HNIT", "HNIX", "HNI", "HNIP",
    "HNIET"]⟩,
  ⟨0xA16D, "YI SYLLABLE ", ["HNIEX", "HNIE", "HNIEP", "HNAT", "HNAX", "HNA", "HNAP", "HNUOX",
    "HNUO", "HNOT", "HNOX", "HNOP", "HNEX", "HNE", "HNEP", "HNUT", "NIT", "NIX", "NI", "NIP",
    "NIEX", "NIE", "NIEP", "NAX", "NA", "NAP", "NUOX", "NUO", "NUOP", "NOT", "NOX", "NO", "NOP",
    "NEX", "NE", "NEP", "NUT", "NUX", "NU", "NUP", "NURX", "NUR", "HLIT", "HLIX", "HLI", "HLIP",
    "HLIEX", "HLIE", "HLIEP", "HLAT", "HLAX", "HLA", "HLAP", "HLUOX", "HLUO", "HLUOP", "HLOX",
    "HLO", "HLOP", "HLEX", "HLE", "HLEP", "HLUT", "HLUX", "HLU", "HLUP", "HLURX", "HLUR", "HLYT",
    "HLYX", "HLY", "HLYP", "HLYRX", "HLYR", "LIT", "LIX", "LI", "LIP", "LIET", "LIEX", "LIE",
    "LIEP", "LAT", "LAX", "LA", "LAP", "LUOT", "LUOX", "LUO", "LUOP", "LOT", "LOX", "LO", "LOP",
    "LEX", "LE", "LEP", "LUT", "LUX", "LU", "LUP", "LURX", "LUR", "LYT", "LYX", "LY", "LYP",
    "LYRX", "LYR", "GIT", "GIX", "GI", "GIP", "GIET", "GIEX", "GIE", "GIEP", "GAT", "GAX", "GA",
    "GAP", "GUOT", "GUOX", "GUO", "GUOP", "GOT", "GOX", "GO", "GOP", "GET", "GEX", "GE", "GEP",
    "GUT", "GUX", "GU", "GUP", "GURX", "GUR", "KIT", "KIX", "KI", "KIP", "KIEX", "KIE", "KIEP",
    "KAT", "KAX", "KA", "KAP", "KUOX", "KUO", "KUOP", "KOT", "KOX", "KO", "KOP", "KET", "KEX",
    "KE"]⟩,
  ⟨0xA20D, "YI SYLLABLE ", ["KEP", "KUT", "KUX", "KU", "KUP", "KURX", "KUR", "GGIT", "GGIX",
    "GGI", "GGIEX", "GGIE", "GGIEP", "GGAT", "GGAX", "GGA", "GGAP", "GGUOT", "GGUOX", "GGUO",
    "GGUOP", "GGOT", "GGOX", "GGO", "GGOP", "GGET", "GGEX", "GGE", "GGEP", "GGUT", "GGUX", "GGU",
    "GGUP", "GGURX", "GGUR", "MGIEX", "MGIE", "MGAT", "MGAX", "MGA", "MGAP", "MGUOX", "MGUO",
    "MGUOP", "MGOT", "MGOX", "MGO", "MGOP", "MGEX", "MGE", "MGEP", "MGUT", "MGUX", "MGU", "MGUP",
    "MGURX", "MGUR", "HXIT", "HXIX", "HXI", "HXIP", "HXIET", "HXIEX", "HXIE", "HXIEP", "HXAT",
    "HXAX", "HXA", "HXAP", "HXUOT", "HXUOX", "HXUO", "HXUOP", "HXOT", "HXOX", "HXO", "HXOP",
    "HXEX", "HXE", "HXEP", "NGIEX", "NGIE", "NGIEP", "NGAT", "NGAX", "NGA", "NGAP", "NGUOT",
    "NGUOX", "NGUO", "NGOT", "NGOX", "NGO", "NGOP", "NGEX", "NGE", "NGEP", "HIT", "HIEX", "HIE",
    "HAT", "HAX", "HA", "HAP", "HUOT", "HUOX", "HUO", "HUOP", "HOT", "HOX", "HO", "HOP", "HEX",
    "HE", "HEP", "WAT", "WAX", "WA", "WAP", "WUOX", "WUO", "WUOP", "WOX", "WO", "WOP", "WEX",
    "WE", "WEP", "ZIT", "ZIX", "ZI", "ZIP", "ZIEX", "ZIE", "ZIEP", "ZAT", "ZAX", "ZA", "ZAP",
    "ZUOX", "ZUO", "ZUOP", "ZOT", "ZOX", "ZO", "ZOP", "ZEX", "ZE", "ZEP", "ZUT", "ZUX", "ZU",
    "ZUP", "ZURX", "ZUR", "ZYT", "ZYX", "ZY", "ZYP", "ZYRX"]⟩,
  ⟨0xA2AD, "YI SYLLABLE ", ["ZYR", "CIT", "CIX", "CI", "CIP", "CIET", "CIEX", "CIE", "CIEP",
    "CAT", "CAX", "CA", "CAP", "CUOX", "CUO", "CUOP", "COT", "COX", "CO", "COP", "CEX", "CE",
    "CEP", "CUT", "CUX", "CU", "CUP", "CURX", "CUR", "CYT", "CYX", "CY", "CYP", "CYRX", "CYR",
    "ZZIT", "ZZIX", "ZZI", "ZZIP", "ZZIET", "ZZIEX", "ZZIE", "ZZIEP", "ZZAT", "ZZAX", "ZZA",
    "ZZAP", "ZZOX", "ZZO", "ZZOP", "ZZEX", "ZZE", "ZZEP", "ZZUX", "ZZU", "ZZUP", "ZZURX", "ZZUR",
    "ZZYT", "ZZYX", "ZZY", "ZZYP", "ZZYRX", "ZZYR", "NZIT", "NZIX", "NZI", "NZIP", "NZIEX",
    "NZIE", "NZIEP", "NZAT", "NZAX", "NZA", "NZAP", "NZUOX", "NZUO", "NZOX", "NZOP", "NZEX",
    "NZE", "NZUX", "NZU", "NZUP", "NZURX", "NZUR", "NZYT", "NZYX", "NZY", "NZYP", "NZYRX",
    "NZYR", "SIT", "SIX", "SI", "SIP", "SIEX", "SIE", "SIEP", "SAT", "SAX", "SA", "SAP", "SUOX",
    "SUO", "SUOP", "SOT", "SOX", "SO", "SOP", "SEX", "SE", "SEP", "SUT", "SUX", "SU", "SUP",
    "SURX", "SUR", "SYT", "SYX", "SY", "SYP", "SYRX", "SYR", "SSIT", "SSIX", "SSI", "SSIP",
    "SSIEX", "SSIE", "SSIEP", "SSAT", "SSAX", "SSA", "SSAP", "SSOT", "SSOX", "SSO", "SSOP",
    "SSEX", "SSE", "SSEP", "SSUT", "SSUX", "SSU", "SSUP", "SSYT", "SSYX", "SSY", "SSYP", "SSYRX",
    "SSYR", "ZHAT", "ZHAX", "ZHA", "ZHAP", "ZHUOX", "ZHUO", "ZHUOP"]⟩,
  ⟨0xA34D, "YI SYLLABLE ", ["ZHOT", "ZHOX", "ZHO", "ZHOP", "ZHET", "ZHEX", "ZHE", "ZHEP", "ZHUT",
    "ZHUX", "ZHU", "ZHUP", "ZHURX", "ZHUR", "ZHYT", "ZHYX", "ZHY", "ZHYP", "ZHYRX", "ZHYR",
    "CHAT", "CHAX", "CHA", "CHAP", "CHUOT", "CHUOX", "CHUO", "CHUOP", "CHOT", "CHOX", "CHO",
    "CHOP", "CHET", "CHEX", "CHE", "CHEP", "CHUX", "CHU", "CHUP", "CHURX", "CHUR", "CHYT",
    "CHYX", "CHY", "CHYP", "CHYRX", "CHYR", "RRAX", "RRA", "RRUOX", "RRUO", "RROT", "RROX",
    "RRO", "RROP", "RRET", "RREX", "RRE", "RREP", "RRUT", "RRUX", "RRU", "RRUP", "RRURX", "RRUR",
    "RRYT", "RRYX", "RRY", "RRYP", "RRYRX", "RRYR", "NRAT", "NRAX", "NRA", "NRAP", "NROX", "NRO",
    "NROP", "NRET", "NREX", "NRE", "NREP", "NRUT", "NRUX", "NRU", "NRUP", "NRURX", "NRUR",
    "NRYT", "NRYX", "NRY", "NRYP", "NRYRX", "NRYR", "SHAT", "SHAX", "SHA", "SHAP", "SHUOX",
    "SHUO", "SHUOP", "SHOT", "SHOX", "SHO", "SHOP", "SHET", "SHEX", "SHE", "SHEP", "SHUT",
    "SHUX", "SHU", "SHUP", "SHURX", "SHUR", "SHYT", "SHYX", "SHY", "SHYP", "SHYRX", "SHYR",
    "RAT", "RAX", "RA", "RAP", "RUOX", "RUO", "RUOP", "ROT", "ROX", "RO", "ROP", "REX", "RE",
    "REP", "RUT", "RUX", "RU", "RUP", "RURX", "RUR", "RYT", "RYX", "RY", "RYP", "RYRX", "RYR",
    "JIT", "JIX", "JI", "JIP", "JIET", "JIEX", "JIE", "JIEP", "JUOT", "JUOX", "JUO", "JUOP",
    "JOT"]⟩,
  ⟨0xA3ED, "YI SYLLABLE ", ["JOX", "JO", "JOP", "JUT", "JUX", "JU", "JUP", "JURX", "JUR", "JYT",
    "JYX", "JY", "JYP", "JYRX", "JYR", "QIT", "QIX", "QI", "QIP", "QIET", "QIEX", "QIE", "QIEP",
    "QUOT", "QUOX", "QUO", "QUOP", "QOT", "QOX", "QO", "QOP", "QUT", "QUX", "QU", "QUP", "QURX",
    "QUR", "QYT", "QYX", "QY", "QYP", "QYRX", "QYR", "JJIT", "JJIX", "JJI", "JJIP", "JJIET",
    "JJIEX", "JJIE", "JJIEP", "JJUOX", "JJUO", "JJUOP", "JJOT", "JJOX", "JJO", "JJOP", "JJUT",
    "JJUX", "JJU", "JJUP", "JJURX", "JJUR", "JJYT", "JJYX", "JJY", "JJYP", "NJIT", "NJIX", "NJI",
    "NJIP", "NJIET", "NJIEX", "NJIE", "NJIEP", "NJUOX", "NJUO", "NJOT", "NJOX", "NJO", "NJOP",
    "NJUX", "NJU", "NJUP", "NJURX", "NJUR", "NJYT", "NJYX", "NJY", "NJYP", "NJYRX", "NJYR",
    "NYIT", "NYIX", "NYI", "NYIP", "NYIET", "NYIEX", "NYIE", "NYIEP", "NYUOX", "NYUO", "NYUOP",
    "NYOT", "NYOX", "NYO", "NYOP", "NYUT", "NYUX", "NYU", "NYUP", "XIT", "XIX", "XI", "XIP",
    "XIET", "XIEX", "XIE", "XIEP", "XUOX", "XUO", "XOT", "XOX", "XO", "XOP", "XYT", "XYX", "XY",
    "XYP", "XYRX", "XYR", "YIT", "YIX", "YI", "YIP", "YIET", "YIEX", "YIE", "YIEP", "YUOT",
    "YUOX", "YUO", "YUOP", "YOT", "YOX", "YO", "YOP", "YUT", "YUX", "YU", "YUP", "YURX", "YUR",
    "YYT", "YYX", "YY", "YYP", "YYRX", "YYR"]⟩,
  ⟨0xA490, "YI RADICAL ", ["QOT", "LI", "KIT", "NYIP", "CYP", "SSI", "GGOP", "GEP", "MI", "HXIT",
    "LYR", "BBUT", "MOP", "YO", "PUT", "HXUO", "TAT", "GA", "ZUP", "CYT", "DDUR", "BUR", "GGUO",
    "NYOP", "TU", "OP", "JJUT", "ZOT", "PYT", "HMO", "YIT", "VUR", "SHY", "VEP", "ZA", "JO",
    "NZUP", "JJY", "GOT", "JJIE", "WO", "DU", "SHUR", "LIE", "CY", "CUOP", "CIP", "HXOP", "SHAT",
    "ZUR", "SHOP", "CHE", "ZZIET", "NBIE", "KE"]⟩,
  ⟨0xA4D0, "LISU LETTER ", ["BA", "PA", "PHA", "DA", "TA", "THA", "GA", "KA", "KHA", "JA", "CA",
    "CHA", "DZA", "TSA", "TSHA", "MA", "NA", "LA", "SA", "ZHA", "ZA", "NGA", "HA", "XA", "HHA",
    "FA", "WA", "SHA", "YA", "GHA", "A", "AE", "E", "EU", "I", "O", "U", "UE", "UH", "OE",
    "TONE MYA TI", "TONE NA PO", "TONE MYA CYA", "TONE MYA BO", "TONE MYA NA", "TONE MYA JEU"]⟩,
  ⟨0xA4FE, "LISU PUNCTUATION ", ["COMMA", "FULL STOP"]⟩,
  ⟨0xA840, "PHAGS-PA LETTER ", ["KA", "KHA", "GA", "NGA", "CA", "CHA", "JA", "NYA", "TA", "THA",
    "DA", "NA", "PA", "PHA", "BA", "MA", "TSA", "TSHA", "DZA", "WA", "ZHA", "ZA", "SMALL A",
    "YA", "RA", "LA", "SHA", "SA", "HA", "A", "I", "U", "E", "O", "QA", "XA", "FA", "GGA", "EE"]⟩,
  ⟨0xA867, "PHAGS-PA SUBJOINED LETTER ", ["WA", "YA"]⟩,
  ⟨0xA869, "PHAGS-PA LETTER ", ["TTA", "TTHA", "DDA", "NNA", "ALTERNATE YA", "VOICELESS SHA",
    "VOICED HA", "ASPIRATED FA"]⟩,
  ⟨0xA871, "PHAGS-PA ", ["SUBJOINED LETTER RA", "SUPERFIXED LETTER RA", "LETTER CANDRABINDU",
    "SINGLE HEAD MARK", "DOUBLE HEAD MARK", "MARK SHAD", "MARK DOUBLE SHAD"]⟩,
  ⟨0xD7B0, "HANGUL JUNGSEONG ", ["O-YEO", "O-O-I", "YO-A", "YO-AE", "YO-EO", "U-YEO", "U-I-I",
    "YU-AE", "YU-O", "EU-A", "EU-EO", "EU-E", "EU-O", "I-YA-O", "I-YAE", "I-YEO", "I-YE",
    "I-O-I", "I-YO", "I-YU", "I-I", "ARAEA-A", "ARAEA-E"]⟩,
  ⟨0xD7CB, "HANGUL JONGSEONG ", ["NIEUN-RIEUL", "NIEUN-CHIEUCH", "SSANGTIKEUT",
    "SSANGTIKEUT-PIEUP", "TIKEUT-PIEUP", "TIKEUT-SIOS", "TIKEUT-SIOS-KIYEOK", "TIKEUT-CIEUC",
    "TIKEUT-CHIEUCH", "TIKEUT-THIEUTH", "RIEUL-SSANGKIYEOK", "RIEUL-KIYEOK-HIEUH",
    "SSANGRIEUL-KHIEUKH", "RIEUL-MIEUM-HIEUH", "RIEUL-PIEUP-TIKEUT", "RIEUL-PIEUP-PHIEUPH",
    "RIEUL-YESIEUNG", "RIEUL-YEORINHIEUH-HIEUH", "KAPYEOUNRIEUL", "MIEUM-NIEUN",
    "MIEUM-SSANGNIEUN", "SSANGMIEUM", "MIEUM-PIEUP-SIOS", "MIEUM-CIEUC", "PIEUP-TIKEUT",
    "PIEUP-RIEUL-PHIEUPH", "PIEUP-MIEUM", "SSANGPIEUP", "PIEUP-SIOS-TIKEUT", "PIEUP-CIEUC",
    "PIEUP-CHIEUCH", "SIOS-MIEUM", "SIOS-KAPYEOUNPIEUP", "SSANGSIOS-KIYEOK", "SSANGSIOS-TIKEUT",
    "SIOS-PANSIOS", "SIOS-CIEUC", "SIOS-CHIEUCH", "SIOS-THIEUTH", "SIOS-HIEUH", "PANSIOS-PIEUP",
    "PANSIOS-KAPYEOUNPIEUP", "YESIEUNG-MIEUM", "YESIEUNG-HIEUH", "CIEUC-PIEUP",
    "CIEUC-SSANGPIEUP", "SSANGCIEUC", "PHIEUPH-SIOS", "PHIEUPH-THIEUTH"]⟩]

/-- The names of wide and narrow forms and of rarer scripts. -/
def rareEastAsianNames : List NameRun := [
  ⟨0xFE10, "PRESENTATION FORM FOR VERTICAL ", ["COMMA", "IDEOGRAPHIC COMMA",
    "IDEOGRAPHIC FULL STOP", "COLON", "SEMICOLON", "EXCLAMATION MARK", "QUESTION MARK",
    "LEFT WHITE LENTICULAR BRACKET", "RIGHT WHITE LENTICULAR BRAKCET", "HORIZONTAL ELLIPSIS"]⟩,
  ⟨0xFE30, "PRESENTATION FORM FOR VERTICAL ", ["TWO DOT LEADER", "EM DASH", "EN DASH",
    "LOW LINE", "WAVY LOW LINE", "LEFT PARENTHESIS", "RIGHT PARENTHESIS", "LEFT CURLY BRACKET",
    "RIGHT CURLY BRACKET", "LEFT TORTOISE SHELL BRACKET", "RIGHT TORTOISE SHELL BRACKET",
    "LEFT BLACK LENTICULAR BRACKET", "RIGHT BLACK LENTICULAR BRACKET",
    "LEFT DOUBLE ANGLE BRACKET", "RIGHT DOUBLE ANGLE BRACKET", "LEFT ANGLE BRACKET",
    "RIGHT ANGLE BRACKET", "LEFT CORNER BRACKET", "RIGHT CORNER BRACKET",
    "LEFT WHITE CORNER BRACKET", "RIGHT WHITE CORNER BRACKET"]⟩,
  ⟨0xFE45, "", ["SESAME DOT", "WHITE SESAME DOT",
    "PRESENTATION FORM FOR VERTICAL LEFT SQUARE BRACKET",
    "PRESENTATION FORM FOR VERTICAL RIGHT SQUARE BRACKET", "DASHED OVERLINE",
    "CENTRELINE OVERLINE", "WAVY OVERLINE", "DOUBLE WAVY OVERLINE", "DASHED LOW LINE",
    "CENTRELINE LOW LINE", "WAVY LOW LINE", "SMALL COMMA", "SMALL IDEOGRAPHIC COMMA",
    "SMALL FULL STOP"]⟩,
  ⟨0xFE54, "SMALL ", ["SEMICOLON", "COLON", "QUESTION MARK", "EXCLAMATION MARK", "EM DASH",
    "LEFT PARENTHESIS", "RIGHT PARENTHESIS", "LEFT CURLY BRACKET", "RIGHT CURLY BRACKET",
    "LEFT TORTOISE SHELL BRACKET", "RIGHT TORTOISE SHELL BRACKET", "NUMBER SIGN", "AMPERSAND",
    "ASTERISK", "PLUS SIGN", "HYPHEN-MINUS", "LESS-THAN SIGN", "GREATER-THAN SIGN",
    "EQUALS SIGN"]⟩,
  ⟨0xFE68, "SMALL ", ["REVERSE SOLIDUS", "DOLLAR SIGN", "PERCENT SIGN", "COMMERCIAL AT"]⟩,
  ⟨0xFF01, "FULLWIDTH ", ["EXCLAMATION MARK", "QUOTATION MARK", "NUMBER SIGN", "DOLLAR SIGN",
    "PERCENT SIGN", "AMPERSAND", "APOSTROPHE", "LEFT PARENTHESIS", "RIGHT PARENTHESIS",
    "ASTERISK", "PLUS SIGN", "COMMA", "HYPHEN-MINUS", "FULL STOP", "SOLIDUS", "DIGIT ZERO",
    "DIGIT ONE", "DIGIT TWO", "DIGIT THREE", "DIGIT FOUR", "DIGIT FIVE", "DIGIT SIX",
    "DIGIT SEVEN", "DIGIT EIGHT", "DIGIT NINE", "COLON", "SEMICOLON", "LESS-THAN SIGN",
    "EQUALS SIGN", "GREATER-THAN SIGN", "QUESTION MARK", "COMMERCIAL AT"]⟩,
  ⟨0xFF21, "FULLWIDTH LATIN CAPITAL LETTER ", ["A", "B", "C", "D", "E", "F", "G", "H", "I", "J",
    "K", "L", "M", "N", "O", "P", "Q", "R", "S", "T", "U", "V", "W", "X", "Y", "Z"]⟩,
  ⟨0xFF3B, "FULLWIDTH ", ["LEFT SQUARE BRACKET", "REVERSE SOLIDUS", "RIGHT SQUARE BRACKET",
    "CIRCUMFLEX ACCENT", "LOW LINE", "GRAVE ACCENT"]⟩,
  ⟨0xFF41, "FULLWIDTH LATIN SMALL LETTER ", ["A", "B", "C", "D", "E", "F", "G", "H", "I", "J",
    "K", "L", "M", "N", "O", "P", "Q", "R", "S", "T", "U", "V", "W", "X", "Y", "Z"]⟩,
  ⟨0xFF5B, "FULLWIDTH ", ["LEFT CURLY BRACKET", "VERTICAL LINE", "RIGHT CURLY BRACKET", "TILDE",
    "LEFT WHITE PARENTHESIS", "RIGHT WHITE PARENTHESIS"]⟩,
  ⟨0xFF61, "HALFWIDTH ", ["IDEOGRAPHIC FULL STOP", "LEFT CORNER BRACKET", "RIGHT CORNER BRACKET",
    "IDEOGRAPHIC COMMA", "KATAKANA MIDDLE DOT", "KATAKANA LETTER WO"]⟩,
  ⟨0xFF67, "HALFWIDTH KATAKANA LETTER SMALL ", ["A", "I", "U", "E", "O", "YA", "YU", "YO", "TU"]⟩,
  ⟨0xFF70, "", ["HALFWIDTH KATAKANA-HIRAGANA PROLONGED SOUND MARK"]⟩,
  ⟨0xFF71, "HALFWIDTH KATAKANA LETTER ", ["A", "I", "U", "E", "O", "KA", "KI", "KU", "KE", "KO",
    "SA", "SI", "SU", "SE", "SO", "TA", "TI", "TU", "TE", "TO", "NA", "NI", "NU", "NE", "NO",
    "HA", "HI", "HU", "HE", "HO", "MA", "MI", "MU", "ME", "MO", "YA", "YU", "YO", "RA", "RI",
    "RU", "RE", "RO", "WA", "N"]⟩,
  ⟨0xFF9E, "HALFWIDTH ", ["KATAKANA VOICED SOUND MARK", "KATAKANA SEMI-VOICED SOUND MARK",
    "HANGUL FILLER"]⟩,
  ⟨0xFFA1, "HALFWIDTH HANGUL LETTER ", ["KIYEOK", "SSANGKIYEOK", "KIYEOK-SIOS", "NIEUN",
    "NIEUN-CIEUC", "NIEUN-HIEUH", "TIKEUT", "SSANGTIKEUT", "RIEUL", "RIEUL-KIYEOK",
    "RIEUL-MIEUM", "RIEUL-PIEUP", "RIEUL-SIOS", "RIEUL-THIEUTH", "RIEUL-PHIEUPH", "RIEUL-HIEUH",
    "MIEUM", "PIEUP", "SSANGPIEUP", "PIEUP-SIOS", "SIOS", "SSANGSIOS", "IEUNG", "CIEUC",
    "SSANGCIEUC", "CHIEUCH", "KHIEUKH", "THIEUTH", "PHIEUPH", "HIEUH"]⟩,
  ⟨0xFFC2, "HALFWIDTH HANGUL LETTER ", ["A", "AE", "YA", "YAE", "EO", "E"]⟩,
  ⟨0xFFCA, "HALFWIDTH HANGUL LETTER ", ["YEO", "YE", "O", "WA", "WAE", "OE"]⟩,
  ⟨0xFFD2, "HALFWIDTH HANGUL LETTER ", ["YO", "U", "WEO", "WE", "WI", "YU"]⟩,
  ⟨0xFFDA, "HALFWIDTH HANGUL LETTER ", ["EU", "YI", "I"]⟩,
  ⟨0xFFE0, "FULLWIDTH ", ["CENT SIGN", "POUND SIGN", "NOT SIGN", "MACRON", "BROKEN BAR",
    "YEN SIGN", "WON SIGN"]⟩,
  ⟨0xFFE8, "HALFWIDTH ", ["FORMS LIGHT VERTICAL", "LEFTWARDS ARROW", "UPWARDS ARROW",
    "RIGHTWARDS ARROW", "DOWNWARDS ARROW", "BLACK SQUARE", "WHITE CIRCLE"]⟩,
  ⟨0x16F00, "MIAO LETTER ", ["PA", "BA", "YI PA", "PLA", "MA", "MHA", "ARCHAIC MA", "FA", "VA",
    "VFA", "TA", "DA", "YI TTA", "YI TA", "TTA", "DDA", "NA", "NHA", "YI NNA", "ARCHAIC NA",
    "NNA", "NNHA", "LA", "LYA", "LHA", "LHYA", "TLHA", "DLHA", "TLHYA", "DLHYA", "KA", "GA",
    "YI KA", "QA", "QGA", "NGA", "NGHA", "ARCHAIC NGA", "HA", "XA", "GHA", "GHHA", "TSSA",
    "DZZA", "NYA", "NYHA", "TSHA", "DZHA", "YI TSHA", "YI DZHA", "REFORMED TSHA", "SHA", "SSA",
    "ZHA", "ZSHA", "TSA", "DZA", "YI TSA", "SA", "ZA", "ZSA", "ZZA", "ZZSA", "ARCHAIC ZZA",
    "ZZYA", "ZZSYA", "WA", "AH", "HHA", "BRI", "SYI", "DZYI", "TE", "TSE", "RTE"]⟩,
  ⟨0x16F4F, "MIAO ", ["SIGN CONSONANT MODIFIER BAR", "LETTER NASALIZATION", "SIGN ASPIRATION",
    "SIGN REFORMED VOICING", "SIGN REFORMED ASPIRATION"]⟩,
  ⟨0x16F54, "MIAO VOWEL SIGN ", ["A", "AA", "AHH", "AN", "ANG", "O", "OO", "WO", "W", "E", "EN",
    "ENG", "OEY", "I", "IA", "IAN", "IANG", "IO", "IE", "II", "IU", "ING", "U", "UA", "UAN",
    "UANG", "UU", "UEI", "UNG", "Y", "YI", "AE", "AEE", "ERR", "ROUNDED ERR", "ER", "ROUNDED ER",
    "AI", "EI", "AU", "OU", "N", "NG", "UOG", "YUI", "OG", "OER", "VW", "IG", "EA", "IONG",
    "UI"]⟩,
  ⟨0x16F8F, "MIAO TONE ", ["RIGHT", "TOP RIGHT", "ABOVE", "BELOW"]⟩,
  ⟨0x16F93, "MIAO LETTER ", ["TONE-2", "TONE-3", "TONE-4", "TONE-5", "TONE-6", "TONE-7",
    "TONE-8"]⟩,
  ⟨0x16F9A, "MIAO LETTER REFORMED ", ["TONE-1", "TONE-2", "TONE-4", "TONE-5", "TONE-6",
    "TONE-8"]⟩,
  ⟨0x16FE0, "", ["TANGUT ITERATION MARK", "NUSHU ITERATION MARK", "OLD CHINESE HOOK MARK",
    "OLD CHINESE ITERATION MARK", "KHITAN SMALL SCRIPT FILLER"]⟩,
  ⟨0x16FF0, "VIETNAMESE ALTERNATE READING MARK ", ["CA", "NHAY"]⟩,
  ⟨0x1AFF0, "KATAKANA LETTER MINNAN ", ["TONE-2", "TONE-3", "TONE-4", "TONE-5"]⟩,
  ⟨0x1AFF5, "KATAKANA LETTER MINNAN ", ["TONE-7", "TONE-8", "NASALIZED TONE-1",
    "NASALIZED TONE-2", "NASALIZED TONE-3", "NASALIZED TONE-4", "NASALIZED TONE-5"]⟩,
  ⟨0x1AFFD, "KATAKANA LETTER MINNAN NASALIZED ", ["TONE-7", "TONE-8"]⟩,
  ⟨0x1B000, "", ["KATAKANA LETTER ARCHAIC E", "HIRAGANA LETTER ARCHAIC YE"]⟩,
  ⟨0x1B002, "HENTAIGANA LETTER ", ["A-1", "A-2", "A-3", "A-WO", "I-1", "I-2", "I-3", "I-4",
    "U-1", "U-2", "U-3", "U-4", "U-5", "E-2", "E-3", "E-4", "E-5", "E-6", "O-1", "O-2", "O-3",
    "KA-1", "KA-2", "KA-3", "KA-4", "KA-5", "KA-6", "KA-7", "KA-8", "KA-9", "KA-10", "KA-11",
    "KA-KE", "KI-1", "KI-2", "KI-3", "KI-4", "KI-5", "KI-6", "KI-7", "KI-8", "KU-1", "KU-2",
    "KU-3", "KU-4", "KU-5", "KU-6", "KU-7", "KE-1", "KE-2", "KE-3", "KE-4", "KE-5", "KE-6",
    "KO-1", "KO-2", "KO-3", "KO-KI", "SA-1", "SA-2", "SA-3", "SA-4", "SA-5", "SA-6", "SA-7",
    "SA-8", "SI-1", "SI-2", "SI-3", "SI-4", "SI-5", "SI-6", "SU-1", "SU-2", "SU-3", "SU-4",
    "SU-5", "SU-6", "SU-7", "SU-8", "SE-1", "SE-2", "SE-3", "SE-4", "SE-5", "SO-1", "SO-2",
    "SO-3", "SO-4", "SO-5", "SO-6", "SO-7", "TA-1", "TA-2", "TA-3", "TA-4", "TI-1", "TI-2",
    "TI-3", "TI-4", "TI-5", "TI-6", "TI-7", "TU-1", "TU-2", "TU-3", "TU-4", "TU-TO", "TE-1",
    "TE-2", "TE-3", "TE-4", "TE-5", "TE-6", "TE-7", "TE-8", "TE-9", "TO-1", "TO-2", "TO-3",
    "TO-4", "TO-5", "TO-6", "TO-RA", "NA-1"]⟩,
  ⟨0x1B07F, "HENTAIGANA LETTER ", ["NA-2", "NA-3", "NA-4", "NA-5", "NA-6", "NA-7", "NA-8",
    "NA-9", "NI-1", "NI-2", "NI-3", "NI-4", "NI-5", "NI-6", "NI-7", "NI-TE", "NU-1", "NU-2",
    "NU-3", "NE-1", "NE-2", "NE-3", "NE-4", "NE-5", "NE-6", "NE-KO", "NO-1", "NO-2", "NO-3",
    "NO-4", "NO-5", "HA-1", "HA-2", "HA-3", "HA-4", "HA-5", "HA-6", "HA-7", "HA-8", "HA-9",
    "HA-10", "HA-11", "HI-1", "HI-2", "HI-3", "HI-4", "HI-5", "HI-6", "HI-7", "HU-1", "HU-2",
    "HU-3", "HE-1", "HE-2", "HE-3", "HE-4", "HE-5", "HE-6", "HE-7", "HO-1", "HO-2", "HO-3",
    "HO-4", "HO-5", "HO-6", "HO-7", "HO-8", "MA-1", "MA-2", "MA-3", "MA-4", "MA-5", "MA-6",
    "MA-7", "MI-1", "MI-2", "MI-3", "MI-4", "MI-5", "MI-6", "MI-7", "MU-1", "MU-2", "MU-3",
    "MU-4", "ME-1", "ME-2", "ME-MA", "MO-1", "MO-2", "MO-3", "MO-4", "MO-5", "MO-6", "YA-1",
    "YA-2", "YA-3", "YA-4", "YA-5", "YA-YO", "YU-1", "YU-2", "YU-3", "YU-4", "YO-1", "YO-2",
    "YO-3", "YO-4", "YO-5", "YO-6", "RA-1", "RA-2", "RA-3", "RA-4", "RI-1", "RI-2", "RI-3",
    "RI-4", "RI-5", "RI-6", "RI-7", "RU-1", "RU-2", "RU-3", "RU-4", "RU-5", "RU-6", "RE-1",
    "RE-2", "RE-3", "RE-4", "RO-1", "RO-2", "RO-3", "RO-4", "RO-5", "RO-6", "WA-1", "WA-2",
    "WA-3", "WA-4", "WA-5", "WI-1", "WI-2", "WI-3", "WI-4", "WI-5", "WE-1", "WE-2", "WE-3",
    "WE-4", "WO-1", "WO-2", "WO-3", "WO-4", "WO-5", "WO-6", "WO-7", "N-MU-MO-1", "N-MU-MO-2"]⟩,
  ⟨0x1B11F, "", ["HIRAGANA LETTER ARCHAIC WU"]⟩,
  ⟨0x1B120, "KATAKANA LETTER ARCHAIC ", ["YI", "YE", "WU"]⟩,
  ⟨0x1B150, "HIRAGANA LETTER SMALL ", ["WI", "WE", "WO"]⟩,
  ⟨0x1B164, "KATAKANA LETTER SMALL ", ["WI", "WE", "WO", "N"]⟩,
  ⟨0x1D300, "", ["MONOGRAM FOR EARTH"]⟩,
  ⟨0x1D301, "DIGRAM FOR ", ["HEAVENLY EARTH", "HUMAN EARTH", "EARTHLY HEAVEN", "EARTHLY HUMAN",
    "EARTH"]⟩,
  ⟨0x1D306, "TETRAGRAM FOR ", ["CENTRE", "FULL CIRCLE", "MIRED", "BARRIER", "KEEPING SMALL",
    "CONTRARIETY", "ASCENT", "OPPOSITION", "BRANCHING OUT", "DEFECTIVENESS OR DISTORTION",
    "DIVERGENCE", "YOUTHFULNESS", "INCREASE", "PENETRATION", "REACH", "CONTACT", "HOLDING BACK",
    "WAITING", "FOLLOWING", "ADVANCE", "RELEASE", "RESISTANCE", "EASE", "JOY", "CONTENTION",
    "ENDEAVOUR", "DUTIES", "CHANGE", "DECISIVENESS", "BOLD RESOLUTION", "PACKING", "LEGION",
    "CLOSENESS", "KINSHIP", "GATHERING", "STRENGTH", "PURITY", "FULLNESS", "RESIDENCE",
    "LAW OR MODEL", "RESPONSE", "GOING TO MEET", "ENCOUNTERS", "STOVE", "GREATNESS",
    "ENLARGEMENT", "PATTERN", "RITUAL", "FLIGHT", "VASTNESS OR WASTING", "CONSTANCY", "MEASURE",
    "ETERNITY", "UNITY", "DIMINISHMENT", "CLOSED MOUTH", "GUARDEDNESS", "GATHERING IN",
    "MASSING", "ACCUMULATION", "EMBELLISHMENT", "DOUBT", "WATCH", "SINKING", "INNER",
    "DEPARTURE", "DARKENING", "DIMMING", "EXHAUSTION", "SEVERANCE", "STOPPAGE", "HARDNESS",
    "COMPLETION", "CLOSURE", "FAILURE", "AGGRAVATION", "COMPLIANCE", "ON THE VERGE",
    "DIFFICULTIES", "LABOURING", "FOSTERING"]⟩,
  ⟨0x1F200, "", ["SQUARE HIRAGANA HOKA", "SQUARED KATAKANA KOKO", "SQUARED KATAKANA SA"]⟩,
  ⟨0x1F210, "SQUARED ", ["CJK UNIFIED IDEOGRAPH-624B", "CJK UNIFIED IDEOGRAPH-5B57",
    "CJK UNIFIED IDEOGRAPH-53CC", "KATAKANA DE"]⟩,
  ⟨0x1F214, "SQUARED CJK UNIFIED ", ["IDEOGRAPH-4E8C", "IDEOGRAPH-591A", "IDEOGRAPH-89E3",
    "IDEOGRAPH-5929", "IDEOGRAPH-4EA4", "IDEOGRAPH-6620", "IDEOGRAPH-7121", "IDEOGRAPH-6599",
    "IDEOGRAPH-524D", "IDEOGRAPH-5F8C", "IDEOGRAPH-518D", "IDEOGRAPH-65B0", "IDEOGRAPH-521D",
    "IDEOGRAPH-7D42", "IDEOGRAPH-751F", "IDEOGRAPH-8CA9", "IDEOGRAPH-58F0", "IDEOGRAPH-5439",
    "IDEOGRAPH-6F14", "IDEOGRAPH-6295", "IDEOGRAPH-6355", "IDEOGRAPH-4E00", "IDEOGRAPH-4E09",
    "IDEOGRAPH-904A", "IDEOGRAPH-5DE6", "IDEOGRAPH-4E2D", "IDEOGRAPH-53F3", "IDEOGRAPH-6307",
    "IDEOGRAPH-8D70", "IDEOGRAPH-6253", "IDEOGRAPH-7981", "IDEOGRAPH-7A7A", "IDEOGRAPH-5408",
    "IDEOGRAPH-6E80", "IDEOGRAPH-6709", "IDEOGRAPH-6708", "IDEOGRAPH-7533", "IDEOGRAPH-5272",
    "IDEOGRAPH-55B6", "IDEOGRAPH-914D"]⟩,
  ⟨0x1F240, "TORTOISE SHELL BRACKETED CJK UNIFIED ", ["IDEOGRAPH-672C", "IDEOGRAPH-4E09",
    "IDEOGRAPH-4E8C", "IDEOGRAPH-5B89", "IDEOGRAPH-70B9", "IDEOGRAPH-6253", "IDEOGRAPH-76D7",
    "IDEOGRAPH-52DD", "IDEOGRAPH-6557"]⟩,
  ⟨0x1F250, "CIRCLED IDEOGRAPH ", ["ADVANTAGE", "ACCEPT"]⟩,
  ⟨0x1F260, "ROUNDED SYMBOL FOR ", ["FU", "LU", "SHOU", "XI", "SHUANGXI", "CAI"]⟩]

end ActionFlow.Text
