import ActionFlow.Text.CharacterName.Run

/-!
# Names of European letters

The names of the letters of Greek, Cyrillic, Armenian, Georgian, Runic and other
alphabets of Europe.
-/

namespace ActionFlow.Text

/-- The names of letters of European alphabets. -/
def europeanNames : List NameRun := [
  ⟨0x370, "GREEK ", ["CAPITAL LETTER HETA", "SMALL LETTER HETA", "CAPITAL LETTER ARCHAIC SAMPI",
    "SMALL LETTER ARCHAIC SAMPI", "NUMERAL SIGN", "LOWER NUMERAL SIGN",
    "CAPITAL LETTER PAMPHYLIAN DIGAMMA", "SMALL LETTER PAMPHYLIAN DIGAMMA"]⟩,
  ⟨0x37A, "GREEK ", ["YPOGEGRAMMENI", "SMALL REVERSED LUNATE SIGMA SYMBOL",
    "SMALL DOTTED LUNATE SIGMA SYMBOL", "SMALL REVERSED DOTTED LUNATE SIGMA SYMBOL",
    "QUESTION MARK", "CAPITAL LETTER YOT"]⟩,
  ⟨0x384, "GREEK ", ["TONOS", "DIALYTIKA TONOS", "CAPITAL LETTER ALPHA WITH TONOS",
    "ANO TELEIA"]⟩,
  ⟨0x388, "GREEK CAPITAL LETTER ", ["EPSILON WITH TONOS", "ETA WITH TONOS", "IOTA WITH TONOS"]⟩,
  ⟨0x38C, "", ["GREEK CAPITAL LETTER OMICRON WITH TONOS"]⟩,
  ⟨0x38E, "GREEK ", ["CAPITAL LETTER UPSILON WITH TONOS", "CAPITAL LETTER OMEGA WITH TONOS",
    "SMALL LETTER IOTA WITH DIALYTIKA AND TONOS"]⟩,
  ⟨0x391, "GREEK CAPITAL LETTER ", ["ALPHA", "BETA", "GAMMA", "DELTA", "EPSILON", "ZETA", "ETA",
    "THETA", "IOTA", "KAPPA", "LAMDA", "MU", "NU", "XI", "OMICRON", "PI", "RHO"]⟩,
  ⟨0x3A3, "GREEK CAPITAL LETTER ", ["SIGMA", "TAU", "UPSILON", "PHI", "CHI", "PSI", "OMEGA",
    "IOTA WITH DIALYTIKA", "UPSILON WITH DIALYTIKA"]⟩,
  ⟨0x3AC, "GREEK SMALL LETTER ", ["ALPHA WITH TONOS", "EPSILON WITH TONOS", "ETA WITH TONOS",
    "IOTA WITH TONOS", "UPSILON WITH DIALYTIKA AND TONOS", "ALPHA", "BETA", "GAMMA", "DELTA",
    "EPSILON", "ZETA", "ETA", "THETA", "IOTA", "KAPPA", "LAMDA", "MU", "NU", "XI", "OMICRON",
    "PI", "RHO", "FINAL SIGMA", "SIGMA", "TAU", "UPSILON", "PHI", "CHI", "PSI", "OMEGA",
    "IOTA WITH DIALYTIKA", "UPSILON WITH DIALYTIKA", "OMICRON WITH TONOS", "UPSILON WITH TONOS",
    "OMEGA WITH TONOS"]⟩,
  ⟨0x3CF, "GREEK ", ["CAPITAL KAI SYMBOL", "BETA SYMBOL", "THETA SYMBOL",
    "UPSILON WITH HOOK SYMBOL", "UPSILON WITH ACUTE AND HOOK SYMBOL",
    "UPSILON WITH DIAERESIS AND HOOK SYMBOL", "PHI SYMBOL", "PI SYMBOL", "KAI SYMBOL",
    "LETTER ARCHAIC KOPPA", "SMALL LETTER ARCHAIC KOPPA", "LETTER STIGMA", "SMALL LETTER STIGMA",
    "LETTER DIGAMMA", "SMALL LETTER DIGAMMA", "LETTER KOPPA", "SMALL LETTER KOPPA",
    "LETTER SAMPI", "SMALL LETTER SAMPI"]⟩,
  ⟨0x3E2, "COPTIC ", ["CAPITAL LETTER SHEI", "SMALL LETTER SHEI", "CAPITAL LETTER FEI",
    "SMALL LETTER FEI", "CAPITAL LETTER KHEI", "SMALL LETTER KHEI", "CAPITAL LETTER HORI",
    "SMALL LETTER HORI", "CAPITAL LETTER GANGIA", "SMALL LETTER GANGIA", "CAPITAL LETTER SHIMA",
    "SMALL LETTER SHIMA", "CAPITAL LETTER DEI", "SMALL LETTER DEI"]⟩,
  ⟨0x3F0, "GREEK ", ["KAPPA SYMBOL", "RHO SYMBOL", "LUNATE SIGMA SYMBOL", "LETTER YOT",
    "CAPITAL THETA SYMBOL", "LUNATE EPSILON SYMBOL", "REVERSED LUNATE EPSILON SYMBOL",
    "CAPITAL LETTER SHO", "SMALL LETTER SHO", "CAPITAL LUNATE SIGMA SYMBOL",
    "CAPITAL LETTER SAN", "SMALL LETTER SAN", "RHO WITH STROKE SYMBOL",
    "CAPITAL REVERSED LUNATE SIGMA SYMBOL", "CAPITAL DOTTED LUNATE SIGMA SYMBOL",
    "CAPITAL REVERSED DOTTED LUNATE SIGMA SYMBOL"]⟩,
  ⟨0x400, "CYRILLIC CAPITAL LETTER ", ["IE WITH GRAVE", "IO", "DJE", "GJE", "UKRAINIAN IE",
    "DZE", "BYELORUSSIAN-UKRAINIAN I", "YI", "JE", "LJE", "NJE", "TSHE", "KJE", "I WITH GRAVE",
    "SHORT U", "DZHE", "A", "BE", "VE", "GHE", "DE", "IE", "ZHE", "ZE", "I", "SHORT I", "KA",
    "EL", "EM", "EN", "O", "PE", "ER", "ES", "TE", "U", "EF", "HA", "TSE", "CHE", "SHA", "SHCHA",
    "HARD SIGN", "YERU", "SOFT SIGN", "E", "YU", "YA"]⟩,
  ⟨0x430, "CYRILLIC SMALL LETTER ", ["A", "BE", "VE", "GHE", "DE", "IE", "ZHE", "ZE", "I",
    "SHORT I", "KA", "EL", "EM", "EN", "O", "PE", "ER", "ES", "TE", "U", "EF", "HA", "TSE",
    "CHE", "SHA", "SHCHA", "HARD SIGN", "YERU", "SOFT SIGN", "E", "YU", "YA", "IE WITH GRAVE",
    "IO", "DJE", "GJE", "UKRAINIAN IE", "DZE", "BYELORUSSIAN-UKRAINIAN I", "YI", "JE", "LJE",
    "NJE", "TSHE", "KJE", "I WITH GRAVE", "SHORT U", "DZHE"]⟩,
  ⟨0x460, "CYRILLIC ", ["CAPITAL LETTER OMEGA", "SMALL LETTER OMEGA", "CAPITAL LETTER YAT",
    "SMALL LETTER YAT", "CAPITAL LETTER IOTIFIED E", "SMALL LETTER IOTIFIED E",
    "CAPITAL LETTER LITTLE YUS", "SMALL LETTER LITTLE YUS", "CAPITAL LETTER IOTIFIED LITTLE YUS",
    "SMALL LETTER IOTIFIED LITTLE YUS", "CAPITAL LETTER BIG YUS", "SMALL LETTER BIG YUS",
    "CAPITAL LETTER IOTIFIED BIG YUS", "SMALL LETTER IOTIFIED BIG YUS", "CAPITAL LETTER KSI",
    "SMALL LETTER KSI", "CAPITAL LETTER PSI", "SMALL LETTER PSI", "CAPITAL LETTER FITA",
    "SMALL LETTER FITA", "CAPITAL LETTER IZHITSA", "SMALL LETTER IZHITSA",
    "CAPITAL LETTER IZHITSA WITH DOUBLE GRAVE ACCENT",
    "SMALL LETTER IZHITSA WITH DOUBLE GRAVE ACCENT", "CAPITAL LETTER UK", "SMALL LETTER UK",
    "CAPITAL LETTER ROUND OMEGA", "SMALL LETTER ROUND OMEGA", "CAPITAL LETTER OMEGA WITH TITLO",
    "SMALL LETTER OMEGA WITH TITLO", "CAPITAL LETTER OT", "SMALL LETTER OT",
    "CAPITAL LETTER KOPPA", "SMALL LETTER KOPPA", "THOUSANDS SIGN"]⟩,
  ⟨0x483, "COMBINING CYRILLIC ", ["TITLO", "PALATALIZATION", "DASIA PNEUMATA", "PSILI PNEUMATA",
    "POKRYTIE", "HUNDRED THOUSANDS SIGN", "MILLIONS SIGN"]⟩,
  ⟨0x48A, "CYRILLIC ", ["CAPITAL LETTER SHORT I WITH TAIL", "SMALL LETTER SHORT I WITH TAIL",
    "CAPITAL LETTER SEMISOFT SIGN", "SMALL LETTER SEMISOFT SIGN", "CAPITAL LETTER ER WITH TICK",
    "SMALL LETTER ER WITH TICK"]⟩,
  ⟨0x490, "CYRILLIC ", ["CAPITAL LETTER GHE WITH UPTURN", "SMALL LETTER GHE WITH UPTURN",
    "CAPITAL LETTER GHE WITH STROKE", "SMALL LETTER GHE WITH STROKE",
    "CAPITAL LETTER GHE WITH MIDDLE HOOK", "SMALL LETTER GHE WITH MIDDLE HOOK",
    "CAPITAL LETTER ZHE WITH DESCENDER", "SMALL LETTER ZHE WITH DESCENDER",
    "CAPITAL LETTER ZE WITH DESCENDER", "SMALL LETTER ZE WITH DESCENDER",
    "CAPITAL LETTER KA WITH DESCENDER", "SMALL LETTER KA WITH DESCENDER",
    "CAPITAL LETTER KA WITH VERTICAL STROKE", "SMALL LETTER KA WITH VERTICAL STROKE",
    "CAPITAL LETTER KA WITH STROKE", "SMALL LETTER KA WITH STROKE", "CAPITAL LETTER BASHKIR KA",
    "SMALL LETTER BASHKIR KA", "CAPITAL LETTER EN WITH DESCENDER",
    "SMALL LETTER EN WITH DESCENDER", "CAPITAL LIGATURE EN GHE", "SMALL LIGATURE EN GHE",
    "CAPITAL LETTER PE WITH MIDDLE HOOK", "SMALL LETTER PE WITH MIDDLE HOOK",
    "CAPITAL LETTER ABKHASIAN HA", "SMALL LETTER ABKHASIAN HA",
    "CAPITAL LETTER ES WITH DESCENDER", "SMALL LETTER ES WITH DESCENDER",
    "CAPITAL LETTER TE WITH DESCENDER", "SMALL LETTER TE WITH DESCENDER",
    "CAPITAL LETTER STRAIGHT U", "SMALL LETTER STRAIGHT U",
    "CAPITAL LETTER STRAIGHT U WITH STROKE", "SMALL LETTER STRAIGHT U WITH STROKE",
    "CAPITAL LETTER HA WITH DESCENDER", "SMALL LETTER HA WITH DESCENDER",
    "CAPITAL LIGATURE TE TSE", "SMALL LIGATURE TE TSE", "CAPITAL LETTER CHE WITH DESCENDER",
    "SMALL LETTER CHE WITH DESCENDER", "CAPITAL LETTER CHE WITH VERTICAL STROKE",
    "SMALL LETTER CHE WITH VERTICAL STROKE", "CAPITAL LETTER SHHA", "SMALL LETTER SHHA",
    "CAPITAL LETTER ABKHASIAN CHE", "SMALL LETTER ABKHASIAN CHE",
    "CAPITAL LETTER ABKHASIAN CHE WITH DESCENDER", "SMALL LETTER ABKHASIAN CHE WITH DESCENDER",
    "LETTER PALOCHKA", "CAPITAL LETTER ZHE WITH BREVE", "SMALL LETTER ZHE WITH BREVE",
    "CAPITAL LETTER KA WITH HOOK", "SMALL LETTER KA WITH HOOK", "CAPITAL LETTER EL WITH TAIL",
    "SMALL LETTER EL WITH TAIL", "CAPITAL LETTER EN WITH HOOK", "SMALL LETTER EN WITH HOOK",
    "CAPITAL LETTER EN WITH TAIL", "SMALL LETTER EN WITH TAIL", "CAPITAL LETTER KHAKASSIAN CHE",
    "SMALL LETTER KHAKASSIAN CHE", "CAPITAL LETTER EM WITH TAIL", "SMALL LETTER EM WITH TAIL",
    "SMALL LETTER PALOCHKA", "CAPITAL LETTER A WITH BREVE", "SMALL LETTER A WITH BREVE",
    "CAPITAL LETTER A WITH DIAERESIS", "SMALL LETTER A WITH DIAERESIS", "CAPITAL LIGATURE A IE",
    "SMALL LIGATURE A IE", "CAPITAL LETTER IE WITH BREVE", "SMALL LETTER IE WITH BREVE",
    "CAPITAL LETTER SCHWA", "SMALL LETTER SCHWA", "CAPITAL LETTER SCHWA WITH DIAERESIS",
    "SMALL LETTER SCHWA WITH DIAERESIS", "CAPITAL LETTER ZHE WITH DIAERESIS",
    "SMALL LETTER ZHE WITH DIAERESIS", "CAPITAL LETTER ZE WITH DIAERESIS",
    "SMALL LETTER ZE WITH DIAERESIS", "CAPITAL LETTER ABKHASIAN DZE",
    "SMALL LETTER ABKHASIAN DZE", "CAPITAL LETTER I WITH MACRON", "SMALL LETTER I WITH MACRON",
    "CAPITAL LETTER I WITH DIAERESIS", "SMALL LETTER I WITH DIAERESIS",
    "CAPITAL LETTER O WITH DIAERESIS", "SMALL LETTER O WITH DIAERESIS",
    "CAPITAL LETTER BARRED O", "SMALL LETTER BARRED O", "CAPITAL LETTER BARRED O WITH DIAERESIS",
    "SMALL LETTER BARRED O WITH DIAERESIS", "CAPITAL LETTER E WITH DIAERESIS",
    "SMALL LETTER E WITH DIAERESIS", "CAPITAL LETTER U WITH MACRON",
    "SMALL LETTER U WITH MACRON", "CAPITAL LETTER U WITH DIAERESIS",
    "SMALL LETTER U WITH DIAERESIS", "CAPITAL LETTER U WITH DOUBLE ACUTE",
    "SMALL LETTER U WITH DOUBLE ACUTE", "CAPITAL LETTER CHE WITH DIAERESIS",
    "SMALL LETTER CHE WITH DIAERESIS", "CAPITAL LETTER GHE WITH DESCENDER",
    "SMALL LETTER GHE WITH DESCENDER", "CAPITAL LETTER YERU WITH DIAERESIS",
    "SMALL LETTER YERU WITH DIAERESIS", "CAPITAL LETTER GHE WITH STROKE AND HOOK",
    "SMALL LETTER GHE WITH STROKE AND HOOK", "CAPITAL LETTER HA WITH HOOK",
    "SMALL LETTER HA WITH HOOK", "CAPITAL LETTER HA WITH STROKE", "SMALL LETTER HA WITH STROKE",
    "CAPITAL LETTER KOMI DE", "SMALL LETTER KOMI DE", "CAPITAL LETTER KOMI DJE",
    "SMALL LETTER KOMI DJE", "CAPITAL LETTER KOMI ZJE", "SMALL LETTER KOMI ZJE",
    "CAPITAL LETTER KOMI DZJE", "SMALL LETTER KOMI DZJE", "CAPITAL LETTER KOMI LJE",
    "SMALL LETTER KOMI LJE", "CAPITAL LETTER KOMI NJE", "SMALL LETTER KOMI NJE",
    "CAPITAL LETTER KOMI SJE", "SMALL LETTER KOMI SJE", "CAPITAL LETTER KOMI TJE",
    "SMALL LETTER KOMI TJE", "CAPITAL LETTER REVERSED ZE", "SMALL LETTER REVERSED ZE",
    "CAPITAL LETTER EL WITH HOOK", "SMALL LETTER EL WITH HOOK", "CAPITAL LETTER LHA",
    "SMALL LETTER LHA", "CAPITAL LETTER RHA", "SMALL LETTER RHA", "CAPITAL LETTER YAE",
    "SMALL LETTER YAE", "CAPITAL LETTER QA", "SMALL LETTER QA", "CAPITAL LETTER WE",
    "SMALL LETTER WE", "CAPITAL LETTER ALEUT KA", "SMALL LETTER ALEUT KA",
    "CAPITAL LETTER EL WITH MIDDLE HOOK", "SMALL LETTER EL WITH MIDDLE HOOK",
    "CAPITAL LETTER EN WITH MIDDLE HOOK", "SMALL LETTER EN WITH MIDDLE HOOK",
    "CAPITAL LETTER PE WITH DESCENDER", "SMALL LETTER PE WITH DESCENDER",
    "CAPITAL LETTER SHHA WITH DESCENDER", "SMALL LETTER SHHA WITH DESCENDER",
    "CAPITAL LETTER EN WITH LEFT HOOK", "SMALL LETTER EN WITH LEFT HOOK", "CAPITAL LETTER DZZHE",
    "SMALL LETTER DZZHE", "CAPITAL LETTER DCHE", "SMALL LETTER DCHE",
    "CAPITAL LETTER EL WITH DESCENDER", "SMALL LETTER EL WITH DESCENDER"]⟩,
  ⟨0x531, "ARMENIAN CAPITAL LETTER ", ["AYB", "BEN", "GIM", "DA", "ECH", "ZA", "EH", "ET", "TO",
    "ZHE", "INI", "LIWN", "XEH", "CA", "KEN", "HO", "JA", "GHAD", "CHEH", "MEN", "YI", "NOW",
    "SHA", "VO", "CHA", "PEH", "JHEH", "RA", "SEH", "VEW", "TIWN", "REH", "CO", "YIWN", "PIWR",
    "KEH", "OH", "FEH"]⟩,
  ⟨0x559, "ARMENIAN ", ["MODIFIER LETTER LEFT HALF RING", "APOSTROPHE", "EMPHASIS MARK",
    "EXCLAMATION MARK", "COMMA", "QUESTION MARK", "ABBREVIATION MARK"]⟩,
  ⟨0x560, "ARMENIAN SMALL LETTER ", ["TURNED AYB", "AYB", "BEN", "GIM", "DA", "ECH", "ZA", "EH",
    "ET", "TO", "ZHE", "INI", "LIWN", "XEH", "CA", "KEN", "HO", "JA", "GHAD", "CHEH", "MEN",
    "YI", "NOW", "SHA", "VO", "CHA", "PEH", "JHEH", "RA", "SEH", "VEW", "TIWN", "REH", "CO",
    "YIWN", "PIWR", "KEH", "OH", "FEH"]⟩,
  ⟨0x587, "ARMENIAN ", ["SMALL LIGATURE ECH YIWN", "SMALL LETTER YI WITH STROKE", "FULL STOP",
    "HYPHEN"]⟩,
  ⟨0x58D, "", ["RIGHT-FACING ARMENIAN ETERNITY SIGN", "LEFT-FACING ARMENIAN ETERNITY SIGN",
    "ARMENIAN DRAM SIGN"]⟩,
  ⟨0x10A0, "GEORGIAN CAPITAL LETTER ", ["AN", "BAN", "GAN", "DON", "EN", "VIN", "ZEN", "TAN",
    "IN", "KAN", "LAS", "MAN", "NAR", "ON", "PAR", "ZHAR", "RAE", "SAN", "TAR", "UN", "PHAR",
    "KHAR", "GHAN", "QAR", "SHIN", "CHIN", "CAN", "JIL", "CIL", "CHAR", "XAN", "JHAN", "HAE",
    "HE", "HIE", "WE", "HAR", "HOE"]⟩,
  ⟨0x10C7, "", ["GEORGIAN CAPITAL LETTER YN"]⟩,
  ⟨0x10CD, "", ["GEORGIAN CAPITAL LETTER AEN"]⟩,
  ⟨0x10D0, "GEORGIAN LETTER ", ["AN", "BAN", "GAN", "DON", "EN", "VIN", "ZEN", "TAN", "IN",
    "KAN", "LAS", "MAN", "NAR", "ON", "PAR", "ZHAR", "RAE", "SAN", "TAR", "UN", "PHAR", "KHAR",
    "GHAN", "QAR", "SHIN", "CHIN", "CAN", "JIL", "CIL", "CHAR", "XAN", "JHAN", "HAE", "HE",
    "HIE", "WE", "HAR", "HOE", "FI", "YN", "ELIFI", "TURNED GAN", "AIN"]⟩,
  ⟨0x10FB, "", ["GEORGIAN PARAGRAPH SEPARATOR", "MODIFIER LETTER GEORGIAN NAR"]⟩,
  ⟨0x10FD, "GEORGIAN LETTER ", ["AEN", "HARD SIGN", "LABIAL SIGN"]⟩,
  ⟨0x1680, "", ["OGHAM SPACE MARK"]⟩,
  ⟨0x1681, "OGHAM LETTER ", ["BEITH", "LUIS", "FEARN", "SAIL", "NION", "UATH", "DAIR", "TINNE",
    "COLL", "CEIRT", "MUIN", "GORT", "NGEADAL", "STRAIF", "RUIS", "AILM", "ONN", "UR", "EADHADH",
    "IODHADH", "EABHADH", "OR", "UILLEANN", "IFIN", "EAMHANCHOLL", "PEITH"]⟩,
  ⟨0x169B, "OGHAM ", ["FEATHER MARK", "REVERSED FEATHER MARK"]⟩,
  ⟨0x16A0, "RUNIC LETTER ", ["FEHU FEOH FE F", "V", "URUZ UR U", "YR", "Y", "W",
    "THURISAZ THURS THORN", "ETH", "ANSUZ A", "OS O", "AC A", "AESC", "LONG-BRANCH-OSS O",
    "SHORT-TWIG-OSS O", "O", "OE", "ON", "RAIDO RAD REID R", "KAUNA", "CEN", "KAUN K", "G",
    "ENG", "GEBO GYFU G", "GAR", "WUNJO WYNN W", "HAGLAZ H", "HAEGL H", "LONG-BRANCH-HAGALL H",
    "SHORT-TWIG-HAGALL H", "NAUDIZ NYD NAUD N", "SHORT-TWIG-NAUD N", "DOTTED-N", "ISAZ IS ISS I",
    "E", "JERAN J", "GER", "LONG-BRANCH-AR AE", "SHORT-TWIG-AR A", "IWAZ EOH", "PERTHO PEORTH P",
    "ALGIZ EOLHX", "SOWILO S", "SIGEL LONG-BRANCH-SOL S", "SHORT-TWIG-SOL S", "C", "Z",
    "TIWAZ TIR TYR T", "SHORT-TWIG-TYR T", "D", "BERKANAN BEORC BJARKAN B",
    "SHORT-TWIG-BJARKAN B", "DOTTED-P", "OPEN-P", "EHWAZ EH E", "MANNAZ MAN M",
    "LONG-BRANCH-MADR M", "SHORT-TWIG-MADR M", "LAUKAZ LAGU LOGR L", "DOTTED-L", "INGWAZ", "ING",
    "DAGAZ DAEG D", "OTHALAN ETHEL O", "EAR", "IOR", "CWEORTH", "CALC", "CEALC", "STAN",
    "LONG-BRANCH-YR", "SHORT-TWIG-YR", "ICELANDIC-YR", "Q", "X"]⟩,
  ⟨0x16EB, "RUNIC ", ["SINGLE PUNCTUATION", "MULTIPLE PUNCTUATION", "CROSS PUNCTUATION",
    "ARLAUG SYMBOL", "TVIMADUR SYMBOL", "BELGTHOR SYMBOL", "LETTER K", "LETTER SH", "LETTER OO"]⟩,
  ⟨0x16F4, "RUNIC LETTER FRANKS CASKET ", ["OS", "IS", "EH", "AC", "AESC"]⟩,
  ⟨0x1C80, "CYRILLIC SMALL LETTER ", ["ROUNDED VE", "LONG-LEGGED DE", "NARROW O", "WIDE ES",
    "TALL TE", "THREE-LEGGED TE", "TALL HARD SIGN", "TALL YAT", "UNBLENDED UK"]⟩,
  ⟨0x1C90, "GEORGIAN MTAVRULI CAPITAL LETTER ", ["AN", "BAN", "GAN", "DON", "EN", "VIN", "ZEN",
    "TAN", "IN", "KAN", "LAS", "MAN", "NAR", "ON", "PAR", "ZHAR", "RAE", "SAN", "TAR", "UN",
    "PHAR", "KHAR", "GHAN", "QAR", "SHIN", "CHIN", "CAN", "JIL", "CIL", "CHAR", "XAN", "JHAN",
    "HAE", "HE", "HIE", "WE", "HAR", "HOE", "FI", "YN", "ELIFI", "TURNED GAN", "AIN"]⟩,
  ⟨0x1CBD, "GEORGIAN MTAVRULI CAPITAL LETTER ", ["AEN", "HARD SIGN", "LABIAL SIGN"]⟩,
  ⟨0x1F00, "GREEK SMALL LETTER ALPHA WITH ", ["PSILI", "DASIA", "PSILI AND VARIA",
    "DASIA AND VARIA", "PSILI AND OXIA", "DASIA AND OXIA", "PSILI AND PERISPOMENI",
    "DASIA AND PERISPOMENI"]⟩,
  ⟨0x1F08, "GREEK CAPITAL LETTER ALPHA WITH ", ["PSILI", "DASIA", "PSILI AND VARIA",
    "DASIA AND VARIA", "PSILI AND OXIA", "DASIA AND OXIA", "PSILI AND PERISPOMENI",
    "DASIA AND PERISPOMENI"]⟩,
  ⟨0x1F10, "GREEK SMALL LETTER EPSILON WITH ", ["PSILI", "DASIA", "PSILI AND VARIA",
    "DASIA AND VARIA", "PSILI AND OXIA", "DASIA AND OXIA"]⟩,
  ⟨0x1F18, "GREEK CAPITAL LETTER EPSILON WITH ", ["PSILI", "DASIA", "PSILI AND VARIA",
    "DASIA AND VARIA", "PSILI AND OXIA", "DASIA AND OXIA"]⟩,
  ⟨0x1F20, "GREEK SMALL LETTER ETA WITH ", ["PSILI", "DASIA", "PSILI AND VARIA",
    "DASIA AND VARIA", "PSILI AND OXIA", "DASIA AND OXIA", "PSILI AND PERISPOMENI",
    "DASIA AND PERISPOMENI"]⟩,
  ⟨0x1F28, "GREEK CAPITAL LETTER ETA WITH ", ["PSILI", "DASIA", "PSILI AND VARIA",
    "DASIA AND VARIA", "PSILI AND OXIA", "DASIA AND OXIA", "PSILI AND PERISPOMENI",
    "DASIA AND PERISPOMENI"]⟩,
  ⟨0x1F30, "GREEK SMALL LETTER IOTA WITH ", ["PSILI", "DASIA", "PSILI AND VARIA",
    "DASIA AND VARIA", "PSILI AND OXIA", "DASIA AND OXIA", "PSILI AND PERISPOMENI",
    "DASIA AND PERISPOMENI"]⟩,
  ⟨0x1F38, "GREEK CAPITAL LETTER IOTA WITH ", ["PSILI", "DASIA", "PSILI AND VARIA",
    "DASIA AND VARIA", "PSILI AND OXIA", "DASIA AND OXIA", "PSILI AND PERISPOMENI",
    "DASIA AND PERISPOMENI"]⟩,
  ⟨0x1F40, "GREEK SMALL LETTER OMICRON WITH ", ["PSILI", "DASIA", "PSILI AND VARIA",
    "DASIA AND VARIA", "PSILI AND OXIA", "DASIA AND OXIA"]⟩,
  ⟨0x1F48, "GREEK CAPITAL LETTER OMICRON WITH ", ["PSILI", "DASIA", "PSILI AND VARIA",
    "DASIA AND VARIA", "PSILI AND OXIA", "DASIA AND OXIA"]⟩,
  ⟨0x1F50, "GREEK SMALL LETTER UPSILON WITH ", ["PSILI", "DASIA", "PSILI AND VARIA",
    "DASIA AND VARIA", "PSILI AND OXIA", "DASIA AND OXIA", "PSILI AND PERISPOMENI",
    "DASIA AND PERISPOMENI"]⟩,
  ⟨0x1F59, "", ["GREEK CAPITAL LETTER UPSILON WITH DASIA"]⟩,
  ⟨0x1F5B, "", ["GREEK CAPITAL LETTER UPSILON WITH DASIA AND VARIA"]⟩,
  ⟨0x1F5D, "", ["GREEK CAPITAL LETTER UPSILON WITH DASIA AND OXIA"]⟩,
  ⟨0x1F5F, "", ["GREEK CAPITAL LETTER UPSILON WITH DASIA AND PERISPOMENI"]⟩,
  ⟨0x1F60, "GREEK SMALL LETTER OMEGA WITH ", ["PSILI", "DASIA", "PSILI AND VARIA",
    "DASIA AND VARIA", "PSILI AND OXIA", "DASIA AND OXIA", "PSILI AND PERISPOMENI",
    "DASIA AND PERISPOMENI"]⟩,
  ⟨0x1F68, "GREEK CAPITAL LETTER OMEGA WITH ", ["PSILI", "DASIA", "PSILI AND VARIA",
    "DASIA AND VARIA", "PSILI AND OXIA", "DASIA AND OXIA", "PSILI AND PERISPOMENI",
    "DASIA AND PERISPOMENI"]⟩,
  ⟨0x1F70, "GREEK SMALL LETTER ", ["ALPHA WITH VARIA", "ALPHA WITH OXIA", "EPSILON WITH VARIA",
    "EPSILON WITH OXIA", "ETA WITH VARIA", "ETA WITH OXIA", "IOTA WITH VARIA", "IOTA WITH OXIA",
    "OMICRON WITH VARIA", "OMICRON WITH OXIA", "UPSILON WITH VARIA", "UPSILON WITH OXIA",
    "OMEGA WITH VARIA", "OMEGA WITH OXIA"]⟩,
  ⟨0x1F80, "GREEK SMALL LETTER ALPHA WITH ", ["PSILI AND YPOGEGRAMMENI",
    "DASIA AND YPOGEGRAMMENI", "PSILI AND VARIA AND YPOGEGRAMMENI",
    "DASIA AND VARIA AND YPOGEGRAMMENI", "PSILI AND OXIA AND YPOGEGRAMMENI",
    "DASIA AND OXIA AND YPOGEGRAMMENI", "PSILI AND PERISPOMENI AND YPOGEGRAMMENI",
    "DASIA AND PERISPOMENI AND YPOGEGRAMMENI"]⟩,
  ⟨0x1F88, "GREEK CAPITAL LETTER ALPHA WITH ", ["PSILI AND PROSGEGRAMMENI",
    "DASIA AND PROSGEGRAMMENI", "PSILI AND VARIA AND PROSGEGRAMMENI",
    "DASIA AND VARIA AND PROSGEGRAMMENI", "PSILI AND OXIA AND PROSGEGRAMMENI",
    "DASIA AND OXIA AND PROSGEGRAMMENI", "PSILI AND PERISPOMENI AND PROSGEGRAMMENI",
    "DASIA AND PERISPOMENI AND PROSGEGRAMMENI"]⟩,
  ⟨0x1F90, "GREEK SMALL LETTER ETA WITH ", ["PSILI AND YPOGEGRAMMENI", "DASIA AND YPOGEGRAMMENI",
    "PSILI AND VARIA AND YPOGEGRAMMENI", "DASIA AND VARIA AND YPOGEGRAMMENI",
    "PSILI AND OXIA AND YPOGEGRAMMENI", "DASIA AND OXIA AND YPOGEGRAMMENI",
    "PSILI AND PERISPOMENI AND YPOGEGRAMMENI", "DASIA AND PERISPOMENI AND YPOGEGRAMMENI"]⟩,
  ⟨0x1F98, "GREEK CAPITAL LETTER ETA WITH ", ["PSILI AND PROSGEGRAMMENI",
    "DASIA AND PROSGEGRAMMENI", "PSILI AND VARIA AND PROSGEGRAMMENI",
    "DASIA AND VARIA AND PROSGEGRAMMENI", "PSILI AND OXIA AND PROSGEGRAMMENI",
    "DASIA AND OXIA AND PROSGEGRAMMENI", "PSILI AND PERISPOMENI AND PROSGEGRAMMENI",
    "DASIA AND PERISPOMENI AND PROSGEGRAMMENI"]⟩,
  ⟨0x1FA0, "GREEK SMALL LETTER OMEGA WITH ", ["PSILI AND YPOGEGRAMMENI",
    "DASIA AND YPOGEGRAMMENI", "PSILI AND VARIA AND YPOGEGRAMMENI",
    "DASIA AND VARIA AND YPOGEGRAMMENI", "PSILI AND OXIA AND YPOGEGRAMMENI",
    "DASIA AND OXIA AND YPOGEGRAMMENI", "PSILI AND PERISPOMENI AND YPOGEGRAMMENI",
    "DASIA AND PERISPOMENI AND YPOGEGRAMMENI"]⟩,
  ⟨0x1FA8, "GREEK CAPITAL LETTER OMEGA WITH ", ["PSILI AND PROSGEGRAMMENI",
    "DASIA AND PROSGEGRAMMENI", "PSILI AND VARIA AND PROSGEGRAMMENI",
    "DASIA AND VARIA AND PROSGEGRAMMENI", "PSILI AND OXIA AND PROSGEGRAMMENI",
    "DASIA AND OXIA AND PROSGEGRAMMENI", "PSILI AND PERISPOMENI AND PROSGEGRAMMENI",
    "DASIA AND PERISPOMENI AND PROSGEGRAMMENI"]⟩,
  ⟨0x1FB0, "GREEK SMALL LETTER ALPHA WITH ", ["VRACHY", "MACRON", "VARIA AND YPOGEGRAMMENI",
    "YPOGEGRAMMENI", "OXIA AND YPOGEGRAMMENI"]⟩,
  ⟨0x1FB6, "GREEK SMALL LETTER ALPHA WITH ", ["PERISPOMENI", "PERISPOMENI AND YPOGEGRAMMENI"]⟩,
  ⟨0x1FB8, "GREEK CAPITAL LETTER ALPHA WITH ", ["VRACHY", "MACRON", "VARIA", "OXIA",
    "PROSGEGRAMMENI"]⟩,
  ⟨0x1FBD, "GREEK ", ["KORONIS", "PROSGEGRAMMENI", "PSILI", "PERISPOMENI",
    "DIALYTIKA AND PERISPOMENI"]⟩,
  ⟨0x1FC2, "GREEK SMALL LETTER ETA WITH ", ["VARIA AND YPOGEGRAMMENI", "YPOGEGRAMMENI",
    "OXIA AND YPOGEGRAMMENI"]⟩,
  ⟨0x1FC6, "GREEK SMALL LETTER ETA WITH ", ["PERISPOMENI", "PERISPOMENI AND YPOGEGRAMMENI"]⟩,
  ⟨0x1FC8, "GREEK CAPITAL LETTER ", ["EPSILON WITH VARIA", "EPSILON WITH OXIA", "ETA WITH VARIA",
    "ETA WITH OXIA", "ETA WITH PROSGEGRAMMENI"]⟩,
  ⟨0x1FCD, "GREEK PSILI AND ", ["VARIA", "OXIA", "PERISPOMENI"]⟩,
  ⟨0x1FD0, "GREEK SMALL LETTER IOTA WITH ", ["VRACHY", "MACRON", "DIALYTIKA AND VARIA",
    "DIALYTIKA AND OXIA"]⟩,
  ⟨0x1FD6, "GREEK SMALL LETTER IOTA WITH ", ["PERISPOMENI", "DIALYTIKA AND PERISPOMENI"]⟩,
  ⟨0x1FD8, "GREEK CAPITAL LETTER IOTA WITH ", ["VRACHY", "MACRON", "VARIA", "OXIA"]⟩,
  ⟨0x1FDD, "GREEK DASIA AND ", ["VARIA", "OXIA", "PERISPOMENI"]⟩,
  ⟨0x1FE0, "GREEK SMALL LETTER ", ["UPSILON WITH VRACHY", "UPSILON WITH MACRON",
    "UPSILON WITH DIALYTIKA AND VARIA", "UPSILON WITH DIALYTIKA AND OXIA", "RHO WITH PSILI",
    "RHO WITH DASIA", "UPSILON WITH PERISPOMENI", "UPSILON WITH DIALYTIKA AND PERISPOMENI"]⟩,
  ⟨0x1FE8, "GREEK CAPITAL LETTER UPSILON WITH ", ["VRACHY", "MACRON", "VARIA", "OXIA"]⟩,
  ⟨0x1FEC, "GREEK ", ["CAPITAL LETTER RHO WITH DASIA", "DIALYTIKA AND VARIA",
    "DIALYTIKA AND OXIA", "VARIA"]⟩,
  ⟨0x1FF2, "GREEK SMALL LETTER OMEGA WITH ", ["VARIA AND YPOGEGRAMMENI", "YPOGEGRAMMENI",
    "OXIA AND YPOGEGRAMMENI"]⟩,
  ⟨0x1FF6, "GREEK SMALL LETTER OMEGA WITH ", ["PERISPOMENI", "PERISPOMENI AND YPOGEGRAMMENI"]⟩,
  ⟨0x1FF8, "GREEK CAPITAL LETTER ", ["OMICRON WITH VARIA", "OMICRON WITH OXIA",
    "OMEGA WITH VARIA", "OMEGA WITH OXIA", "OMEGA WITH PROSGEGRAMMENI"]⟩,
  ⟨0x1FFD, "GREEK ", ["OXIA", "DASIA"]⟩,
  ⟨0x2C00, "GLAGOLITIC CAPITAL LETTER ", ["AZU", "BUKY", "VEDE", "GLAGOLI", "DOBRO", "YESTU",
    "ZHIVETE", "DZELO", "ZEMLJA", "IZHE", "INITIAL IZHE", "I", "DJERVI", "KAKO", "LJUDIJE",
    "MYSLITE", "NASHI", "ONU", "POKOJI", "RITSI", "SLOVO", "TVRIDO", "UKU", "FRITU", "HERU",
    "OTU", "PE", "SHTA", "TSI", "CHRIVI", "SHA", "YERU", "YERI", "YATI", "SPIDERY HA", "YU",
    "SMALL YUS", "SMALL YUS WITH TAIL", "YO", "IOTATED SMALL YUS", "BIG YUS", "IOTATED BIG YUS",
    "FITA", "IZHITSA", "SHTAPIC", "TROKUTASTI A", "LATINATE MYSLITE", "CAUDATE CHRIVI"]⟩,
  ⟨0x2C30, "GLAGOLITIC SMALL LETTER ", ["AZU", "BUKY", "VEDE", "GLAGOLI", "DOBRO", "YESTU",
    "ZHIVETE", "DZELO", "ZEMLJA", "IZHE", "INITIAL IZHE", "I", "DJERVI", "KAKO", "LJUDIJE",
    "MYSLITE", "NASHI", "ONU", "POKOJI", "RITSI", "SLOVO", "TVRIDO", "UKU", "FRITU", "HERU",
    "OTU", "PE", "SHTA", "TSI", "CHRIVI", "SHA", "YERU", "YERI", "YATI", "SPIDERY HA", "YU",
    "SMALL YUS", "SMALL YUS WITH TAIL", "YO", "IOTATED SMALL YUS", "BIG YUS", "IOTATED BIG YUS",
    "FITA", "IZHITSA", "SHTAPIC", "TROKUTASTI A", "LATINATE MYSLITE", "CAUDATE CHRIVI"]⟩,
  ⟨0x2C80, "COPTIC ", ["CAPITAL LETTER ALFA", "SMALL LETTER ALFA", "CAPITAL LETTER VIDA",
    "SMALL LETTER VIDA", "CAPITAL LETTER GAMMA", "SMALL LETTER GAMMA", "CAPITAL LETTER DALDA",
    "SMALL LETTER DALDA", "CAPITAL LETTER EIE", "SMALL LETTER EIE", "CAPITAL LETTER SOU",
    "SMALL LETTER SOU", "CAPITAL LETTER ZATA", "SMALL LETTER ZATA", "CAPITAL LETTER HATE",
    "SMALL LETTER HATE", "CAPITAL LETTER THETHE", "SMALL LETTER THETHE", "CAPITAL LETTER IAUDA",
    "SMALL LETTER IAUDA", "CAPITAL LETTER KAPA", "SMALL LETTER KAPA", "CAPITAL LETTER LAULA",
    "SMALL LETTER LAULA", "CAPITAL LETTER MI", "SMALL LETTER MI", "CAPITAL LETTER NI",
    "SMALL LETTER NI", "CAPITAL LETTER KSI", "SMALL LETTER KSI", "CAPITAL LETTER O",
    "SMALL LETTER O", "CAPITAL LETTER PI", "SMALL LETTER PI", "CAPITAL LETTER RO",
    "SMALL LETTER RO", "CAPITAL LETTER SIMA", "SMALL LETTER SIMA", "CAPITAL LETTER TAU",
    "SMALL LETTER TAU", "CAPITAL LETTER UA", "SMALL LETTER UA", "CAPITAL LETTER FI",
    "SMALL LETTER FI", "CAPITAL LETTER KHI", "SMALL LETTER KHI", "CAPITAL LETTER PSI",
    "SMALL LETTER PSI", "CAPITAL LETTER OOU", "SMALL LETTER OOU",
    "CAPITAL LETTER DIALECT-P ALEF", "SMALL LETTER DIALECT-P ALEF",
    "CAPITAL LETTER OLD COPTIC AIN", "SMALL LETTER OLD COPTIC AIN",
    "CAPITAL LETTER CRYPTOGRAMMIC EIE", "SMALL LETTER CRYPTOGRAMMIC EIE",
    "CAPITAL LETTER DIALECT-P KAPA", "SMALL LETTER DIALECT-P KAPA",
    "CAPITAL LETTER DIALECT-P NI", "SMALL LETTER DIALECT-P NI",
    "CAPITAL LETTER CRYPTOGRAMMIC NI", "SMALL LETTER CRYPTOGRAMMIC NI",
    "CAPITAL LETTER OLD COPTIC OOU", "SMALL LETTER OLD COPTIC OOU", "CAPITAL LETTER SAMPI",
    "SMALL LETTER SAMPI", "CAPITAL LETTER CROSSED SHEI", "SMALL LETTER CROSSED SHEI",
    "CAPITAL LETTER OLD COPTIC SHEI", "SMALL LETTER OLD COPTIC SHEI",
    "CAPITAL LETTER OLD COPTIC ESH", "SMALL LETTER OLD COPTIC ESH",
    "CAPITAL LETTER AKHMIMIC KHEI", "SMALL LETTER AKHMIMIC KHEI",
    "CAPITAL LETTER DIALECT-P HORI", "SMALL LETTER DIALECT-P HORI",
    "CAPITAL LETTER OLD COPTIC HORI", "SMALL LETTER OLD COPTIC HORI",
    "CAPITAL LETTER OLD COPTIC HA", "SMALL LETTER OLD COPTIC HA", "CAPITAL LETTER L-SHAPED HA",
    "SMALL LETTER L-SHAPED HA", "CAPITAL LETTER OLD COPTIC HEI", "SMALL LETTER OLD COPTIC HEI",
    "CAPITAL LETTER OLD COPTIC HAT", "SMALL LETTER OLD COPTIC HAT",
    "CAPITAL LETTER OLD COPTIC GANGIA", "SMALL LETTER OLD COPTIC GANGIA",
    "CAPITAL LETTER OLD COPTIC DJA", "SMALL LETTER OLD COPTIC DJA",
    "CAPITAL LETTER OLD COPTIC SHIMA", "SMALL LETTER OLD COPTIC SHIMA",
    "CAPITAL LETTER OLD NUBIAN SHIMA", "SMALL LETTER OLD NUBIAN SHIMA",
    "CAPITAL LETTER OLD NUBIAN NGI", "SMALL LETTER OLD NUBIAN NGI",
    "CAPITAL LETTER OLD NUBIAN NYI", "SMALL LETTER OLD NUBIAN NYI",
    "CAPITAL LETTER OLD NUBIAN WAU", "SMALL LETTER OLD NUBIAN WAU", "SYMBOL KAI", "SYMBOL MI RO",
    "SYMBOL PI RO", "SYMBOL STAUROS", "SYMBOL TAU RO", "SYMBOL KHI RO", "SYMBOL SHIMA SIMA",
    "CAPITAL LETTER CRYPTOGRAMMIC SHEI", "SMALL LETTER CRYPTOGRAMMIC SHEI",
    "CAPITAL LETTER CRYPTOGRAMMIC GANGIA", "SMALL LETTER CRYPTOGRAMMIC GANGIA",
    "COMBINING NI ABOVE", "COMBINING SPIRITUS ASPER", "COMBINING SPIRITUS LENIS",
    "CAPITAL LETTER BOHAIRIC KHEI", "SMALL LETTER BOHAIRIC KHEI"]⟩,
  ⟨0x2CF9, "COPTIC OLD NUBIAN ", ["FULL STOP", "DIRECT QUESTION MARK", "INDIRECT QUESTION MARK",
    "VERSE DIVIDER"]⟩,
  ⟨0x2CFD, "COPTIC ", ["FRACTION ONE HALF", "FULL STOP", "MORPHOLOGICAL DIVIDER"]⟩,
  ⟨0x2D00, "GEORGIAN SMALL LETTER ", ["AN", "BAN", "GAN", "DON", "EN", "VIN", "ZEN", "TAN", "IN",
    "KAN", "LAS", "MAN", "NAR", "ON", "PAR", "ZHAR", "RAE", "SAN", "TAR", "UN", "PHAR", "KHAR",
    "GHAN", "QAR", "SHIN", "CHIN", "CAN", "JIL", "CIL", "CHAR", "XAN", "JHAN", "HAE", "HE",
    "HIE", "WE", "HAR", "HOE"]⟩,
  ⟨0x2D27, "", ["GEORGIAN SMALL LETTER YN"]⟩,
  ⟨0x2D2D, "", ["GEORGIAN SMALL LETTER AEN"]⟩,
  ⟨0x2DE0, "COMBINING CYRILLIC LETTER ", ["BE", "VE", "GHE", "DE", "ZHE", "ZE", "KA", "EL", "EM",
    "EN", "O", "PE", "ER", "ES", "TE", "HA", "TSE", "CHE", "SHA", "SHCHA", "FITA", "ES-TE", "A",
    "IE", "DJERV", "MONOGRAPH UK", "YAT", "YU", "IOTIFIED A", "LITTLE YUS", "BIG YUS",
    "IOTIFIED BIG YUS"]⟩,
  ⟨0xA640, "CYRILLIC ", ["CAPITAL LETTER ZEMLYA", "SMALL LETTER ZEMLYA", "CAPITAL LETTER DZELO",
    "SMALL LETTER DZELO", "CAPITAL LETTER REVERSED DZE", "SMALL LETTER REVERSED DZE",
    "CAPITAL LETTER IOTA", "SMALL LETTER IOTA", "CAPITAL LETTER DJERV", "SMALL LETTER DJERV",
    "CAPITAL LETTER MONOGRAPH UK", "SMALL LETTER MONOGRAPH UK", "CAPITAL LETTER BROAD OMEGA",
    "SMALL LETTER BROAD OMEGA", "CAPITAL LETTER NEUTRAL YER", "SMALL LETTER NEUTRAL YER",
    "CAPITAL LETTER YERU WITH BACK YER", "SMALL LETTER YERU WITH BACK YER",
    "CAPITAL LETTER IOTIFIED YAT", "SMALL LETTER IOTIFIED YAT", "CAPITAL LETTER REVERSED YU",
    "SMALL LETTER REVERSED YU", "CAPITAL LETTER IOTIFIED A", "SMALL LETTER IOTIFIED A",
    "CAPITAL LETTER CLOSED LITTLE YUS", "SMALL LETTER CLOSED LITTLE YUS",
    "CAPITAL LETTER BLENDED YUS", "SMALL LETTER BLENDED YUS",
    "CAPITAL LETTER IOTIFIED CLOSED LITTLE YUS", "SMALL LETTER IOTIFIED CLOSED LITTLE YUS",
    "CAPITAL LETTER YN", "SMALL LETTER YN", "CAPITAL LETTER REVERSED TSE",
    "SMALL LETTER REVERSED TSE", "CAPITAL LETTER SOFT DE", "SMALL LETTER SOFT DE",
    "CAPITAL LETTER SOFT EL", "SMALL LETTER SOFT EL", "CAPITAL LETTER SOFT EM",
    "SMALL LETTER SOFT EM", "CAPITAL LETTER MONOCULAR O", "SMALL LETTER MONOCULAR O",
    "CAPITAL LETTER BINOCULAR O", "SMALL LETTER BINOCULAR O",
    "CAPITAL LETTER DOUBLE MONOCULAR O", "SMALL LETTER DOUBLE MONOCULAR O",
    "LETTER MULTIOCULAR O"]⟩,
  ⟨0xA66F, "COMBINING CYRILLIC ", ["VZMET", "TEN MILLIONS SIGN", "HUNDRED MILLIONS SIGN",
    "THOUSAND MILLIONS SIGN"]⟩,
  ⟨0xA673, "", ["SLAVONIC ASTERISK"]⟩,
  ⟨0xA674, "COMBINING CYRILLIC LETTER ", ["UKRAINIAN IE", "I", "YI", "U", "HARD SIGN", "YERU",
    "SOFT SIGN", "OMEGA"]⟩,
  ⟨0xA67C, "COMBINING CYRILLIC ", ["KAVYKA", "PAYEROK"]⟩,
  ⟨0xA67E, "CYRILLIC ", ["KAVYKA", "PAYEROK", "CAPITAL LETTER DWE", "SMALL LETTER DWE",
    "CAPITAL LETTER DZWE", "SMALL LETTER DZWE", "CAPITAL LETTER ZHWE", "SMALL LETTER ZHWE",
    "CAPITAL LETTER CCHE", "SMALL LETTER CCHE", "CAPITAL LETTER DZZE", "SMALL LETTER DZZE",
    "CAPITAL LETTER TE WITH MIDDLE HOOK", "SMALL LETTER TE WITH MIDDLE HOOK",
    "CAPITAL LETTER TWE", "SMALL LETTER TWE", "CAPITAL LETTER TSWE", "SMALL LETTER TSWE",
    "CAPITAL LETTER TSSE", "SMALL LETTER TSSE", "CAPITAL LETTER TCHE", "SMALL LETTER TCHE",
    "CAPITAL LETTER HWE", "SMALL LETTER HWE", "CAPITAL LETTER SHWE", "SMALL LETTER SHWE",
    "CAPITAL LETTER DOUBLE O", "SMALL LETTER DOUBLE O", "CAPITAL LETTER CROSSED O",
    "SMALL LETTER CROSSED O"]⟩,
  ⟨0xA69C, "MODIFIER LETTER CYRILLIC ", ["HARD SIGN", "SOFT SIGN"]⟩,
  ⟨0xA69E, "COMBINING CYRILLIC LETTER ", ["EF", "IOTIFIED E"]⟩,
  ⟨0xFB13, "ARMENIAN SMALL LIGATURE ", ["MEN NOW", "MEN ECH", "MEN INI", "VEW NOW", "MEN XEH"]⟩,
  ⟨0x10350, "OLD PERMIC LETTER ", ["AN", "BUR", "GAI", "DOI", "E", "ZHOI", "DZHOI", "ZATA",
    "DZITA", "I", "KOKE", "LEI", "MENOE", "NENOE", "VOOI", "PEEI", "REI", "SII", "TAI", "U",
    "CHERY", "SHOOI", "SHCHOOI", "YRY", "YERU", "O", "OO", "EF", "HA", "TSIU", "VER", "YER",
    "YERI", "YAT", "IE", "YU", "YA", "IA"]⟩,
  ⟨0x10376, "COMBINING OLD PERMIC LETTER ", ["AN", "DOI", "ZATA", "NENOE", "SII"]⟩,
  ⟨0x10400, "DESERET CAPITAL LETTER ", ["LONG I", "LONG E", "LONG A", "LONG AH", "LONG O",
    "LONG OO", "SHORT I", "SHORT E", "SHORT A", "SHORT AH", "SHORT O", "SHORT OO", "AY", "OW",
    "WU", "YEE", "H", "PEE", "BEE", "TEE", "DEE", "CHEE", "JEE", "KAY", "GAY", "EF", "VEE",
    "ETH", "THEE", "ES", "ZEE", "ESH", "ZHEE", "ER", "EL", "EM", "EN", "ENG", "OI", "EW"]⟩,
  ⟨0x10428, "DESERET SMALL LETTER ", ["LONG I", "LONG E", "LONG A", "LONG AH", "LONG O",
    "LONG OO", "SHORT I", "SHORT E", "SHORT A", "SHORT AH", "SHORT O", "SHORT OO", "AY", "OW",
    "WU", "YEE", "H", "PEE", "BEE", "TEE", "DEE", "CHEE", "JEE", "KAY", "GAY", "EF", "VEE",
    "ETH", "THEE", "ES", "ZEE", "ESH", "ZHEE", "ER", "EL", "EM", "EN", "ENG", "OI", "EW"]⟩,
  ⟨0x10450, "SHAVIAN LETTER ", ["PEEP", "TOT", "KICK", "FEE", "THIGH", "SO", "SURE", "CHURCH",
    "YEA", "HUNG", "BIB", "DEAD", "GAG", "VOW", "THEY", "ZOO", "MEASURE", "JUDGE", "WOE",
    "HA-HA", "LOLL", "MIME", "IF", "EGG", "ASH", "ADO", "ON", "WOOL", "OUT", "AH", "ROAR", "NUN",
    "EAT", "AGE", "ICE", "UP", "OAK", "OOZE", "OIL", "AWE", "ARE", "OR", "AIR", "ERR", "ARRAY",
    "EAR", "IAN", "YEW"]⟩,
  ⟨0x10500, "ELBASAN LETTER ", ["A", "BE", "CE", "CHE", "DE", "NDE", "DHE", "EI", "E", "FE",
    "GE", "GJE", "HE", "I", "JE", "KE", "LE", "LLE", "ME", "NE", "NA", "NJE", "O", "PE", "QE",
    "RE", "RRE", "SE", "SHE", "TE", "THE", "U", "VE", "XE", "Y", "ZE", "ZHE", "GHE", "GHAMMA",
    "KHE"]⟩,
  ⟨0x10530, "CAUCASIAN ALBANIAN LETTER ", ["ALT", "BET", "GIM", "DAT", "EB", "ZARL", "EYN",
    "ZHIL", "TAS", "CHA", "YOWD", "ZHA", "IRB", "SHA", "LAN", "INYA", "XEYN", "DYAN", "CAR",
    "JHOX", "KAR", "LYIT", "HEYT", "QAY", "AOR", "CHOY", "CHI", "CYAY", "MAQ", "QAR", "NOWC",
    "DZYAY", "SHAK", "JAYN", "ON", "TYAY", "FAM", "DZAY", "CHAT", "PEN", "GHEYS", "RAT", "SEYK",
    "VEYZ", "TIWR", "SHOY", "IWN", "CYAW", "CAYN", "YAYD", "PIWR", "KIW"]⟩,
  ⟨0x1056F, "", ["CAUCASIAN ALBANIAN CITATION MARK"]⟩,
  ⟨0x10570, "VITHKUQI CAPITAL LETTER ", ["A", "BBE", "BE", "CE", "CHE", "DE", "DHE", "EI", "E",
    "FE", "GA"]⟩,
  ⟨0x1057C, "VITHKUQI CAPITAL LETTER ", ["HA", "HHA", "I", "IJE", "JE", "KA", "LA", "LLA", "ME",
    "NE", "NJE", "O", "PE", "QA", "RE"]⟩,
  ⟨0x1058C, "VITHKUQI CAPITAL LETTER ", ["SE", "SHE", "TE", "THE", "U", "VE", "XE"]⟩,
  ⟨0x10594, "VITHKUQI CAPITAL LETTER ", ["Y", "ZE"]⟩,
  ⟨0x10597, "VITHKUQI SMALL LETTER ", ["A", "BBE", "BE", "CE", "CHE", "DE", "DHE", "EI", "E",
    "FE", "GA"]⟩,
  ⟨0x105A3, "VITHKUQI SMALL LETTER ", ["HA", "HHA", "I", "IJE", "JE", "KA", "LA", "LLA", "ME",
    "NE", "NJE", "O", "PE", "QA", "RE"]⟩,
  ⟨0x105B3, "VITHKUQI SMALL LETTER ", ["SE", "SHE", "TE", "THE", "U", "VE", "XE"]⟩,
  ⟨0x105BB, "VITHKUQI SMALL LETTER ", ["Y", "ZE"]⟩,
  ⟨0x10C80, "OLD HUNGARIAN CAPITAL LETTER ", ["A", "AA", "EB", "AMB", "EC", "ENC", "ECS", "ED",
    "AND", "E", "CLOSE E", "EE", "EF", "EG", "EGY", "EH", "I", "II", "EJ", "EK", "AK", "UNK",
    "EL", "ELY", "EM", "EN", "ENY", "O", "OO", "NIKOLSBURG OE", "RUDIMENTA OE", "OEE", "EP",
    "EMP", "ER", "SHORT ER", "ES", "ESZ", "ET", "ENT", "ETY", "ECH", "U", "UU", "NIKOLSBURG UE",
    "RUDIMENTA UE", "EV", "EZ", "EZS", "ENT-SHAPED SIGN", "US"]⟩,
  ⟨0x10CC0, "OLD HUNGARIAN SMALL LETTER ", ["A", "AA", "EB", "AMB", "EC", "ENC", "ECS", "ED",
    "AND", "E", "CLOSE E", "EE", "EF", "EG", "EGY", "EH", "I", "II", "EJ", "EK", "AK", "UNK",
    "EL", "ELY", "EM", "EN", "ENY", "O", "OO", "NIKOLSBURG OE", "RUDIMENTA OE", "OEE", "EP",
    "EMP", "ER", "SHORT ER", "ES", "ESZ", "ET", "ENT", "ETY", "ECH", "U", "UU", "NIKOLSBURG UE",
    "RUDIMENTA UE", "EV", "EZ", "EZS", "ENT-SHAPED SIGN", "US"]⟩,
  ⟨0x10CFA, "OLD HUNGARIAN NUMBER ", ["ONE", "FIVE", "TEN", "FIFTY", "ONE HUNDRED",
    "ONE THOUSAND"]⟩,
  ⟨0x1E000, "COMBINING GLAGOLITIC LETTER ", ["AZU", "BUKY", "VEDE", "GLAGOLI", "DOBRO", "YESTU",
    "ZHIVETE"]⟩,
  ⟨0x1E008, "COMBINING GLAGOLITIC LETTER ", ["ZEMLJA", "IZHE", "INITIAL IZHE", "I", "DJERVI",
    "KAKO", "LJUDIJE", "MYSLITE", "NASHI", "ONU", "POKOJI", "RITSI", "SLOVO", "TVRIDO", "UKU",
    "FRITU", "HERU"]⟩,
  ⟨0x1E01B, "COMBINING GLAGOLITIC LETTER ", ["SHTA", "TSI", "CHRIVI", "SHA", "YERU", "YERI",
    "YATI"]⟩,
  ⟨0x1E023, "COMBINING GLAGOLITIC LETTER ", ["YU", "SMALL YUS"]⟩,
  ⟨0x1E026, "COMBINING GLAGOLITIC LETTER ", ["YO", "IOTATED SMALL YUS", "BIG YUS",
    "IOTATED BIG YUS", "FITA"]⟩]

end ActionFlow.Text
