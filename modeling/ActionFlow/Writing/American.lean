import ActionFlow.Text.CharacterName.Run

/-!
# Names of American letters

The names of the letters of Cherokee, Canadian syllabics and Osage.
-/

namespace ActionFlow.Text

/-- The names of letters of the scripts of America. -/
def americanNames : List NameRun := [
  ⟨0x13A0, "CHEROKEE LETTER ", ["A", "E", "I", "O", "U", "V", "GA", "KA", "GE", "GI", "GO", "GU",
    "GV", "HA", "HE", "HI", "HO", "HU", "HV", "LA", "LE", "LI", "LO", "LU", "LV", "MA", "ME",
    "MI", "MO", "MU", "NA", "HNA", "NAH", "NE", "NI", "NO", "NU", "NV", "QUA", "QUE", "QUI",
    "QUO", "QUU", "QUV", "SA", "S", "SE", "SI", "SO", "SU", "SV", "DA", "TA", "DE", "TE", "DI",
    "TI", "DO", "DU", "DV", "DLA", "TLA", "TLE", "TLI", "TLO", "TLU", "TLV", "TSA", "TSE", "TSI",
    "TSO", "TSU", "TSV", "WA", "WE", "WI", "WO", "WU", "WV", "YA", "YE", "YI", "YO", "YU", "YV",
    "MV"]⟩,
  ⟨0x13F8, "CHEROKEE SMALL LETTER ", ["YE", "YI", "YO", "YU", "YV", "MV"]⟩,
  ⟨0x1400, "CANADIAN SYLLABICS ", ["HYPHEN", "E", "AAI", "I", "II", "O", "OO", "Y-CREE OO",
    "CARRIER EE", "CARRIER I", "A", "AA", "WE", "WEST-CREE WE", "WI", "WEST-CREE WI", "WII",
    "WEST-CREE WII", "WO", "WEST-CREE WO", "WOO", "WEST-CREE WOO", "NASKAPI WOO", "WA",
    "WEST-CREE WA", "WAA", "WEST-CREE WAA", "NASKAPI WAA", "AI", "Y-CREE W", "GLOTTAL STOP",
    "FINAL ACUTE", "FINAL GRAVE", "FINAL BOTTOM HALF RING", "FINAL TOP HALF RING",
    "FINAL RIGHT HALF RING", "FINAL RING", "FINAL DOUBLE ACUTE",
    "FINAL DOUBLE SHORT VERTICAL STROKES", "FINAL MIDDLE DOT", "FINAL SHORT HORIZONTAL STROKE",
    "FINAL PLUS", "FINAL DOWN TACK", "EN", "IN", "ON", "AN", "PE", "PAAI", "PI", "PII", "PO",
    "POO", "Y-CREE POO", "CARRIER HEE", "CARRIER HI", "PA", "PAA", "PWE", "WEST-CREE PWE", "PWI",
    "WEST-CREE PWI", "PWII", "WEST-CREE PWII", "PWO", "WEST-CREE PWO", "PWOO", "WEST-CREE PWOO",
    "PWA", "WEST-CREE PWA", "PWAA", "WEST-CREE PWAA", "Y-CREE PWAA", "P", "WEST-CREE P",
    "CARRIER H", "TE", "TAAI", "TI", "TII", "TO", "TOO", "Y-CREE TOO", "CARRIER DEE",
    "CARRIER DI", "TA", "TAA", "TWE", "WEST-CREE TWE", "TWI", "WEST-CREE TWI", "TWII",
    "WEST-CREE TWII", "TWO", "WEST-CREE TWO", "TWOO", "WEST-CREE TWOO", "TWA", "WEST-CREE TWA",
    "TWAA", "WEST-CREE TWAA", "NASKAPI TWAA", "T", "TTE", "TTI", "TTO"]⟩,
  ⟨0x146A, "CANADIAN SYLLABICS ", ["TTA", "KE", "KAAI", "KI", "KII", "KO", "KOO", "Y-CREE KOO",
    "KA", "KAA", "KWE", "WEST-CREE KWE", "KWI", "WEST-CREE KWI", "KWII", "WEST-CREE KWII", "KWO",
    "WEST-CREE KWO", "KWOO", "WEST-CREE KWOO", "KWA", "WEST-CREE KWA", "KWAA", "WEST-CREE KWAA",
    "NASKAPI KWAA", "K", "KW", "SOUTH-SLAVEY KEH", "SOUTH-SLAVEY KIH", "SOUTH-SLAVEY KOH",
    "SOUTH-SLAVEY KAH", "CE", "CAAI", "CI", "CII", "CO", "COO", "Y-CREE COO", "CA", "CAA", "CWE",
    "WEST-CREE CWE", "CWI", "WEST-CREE CWI", "CWII", "WEST-CREE CWII", "CWO", "WEST-CREE CWO",
    "CWOO", "WEST-CREE CWOO", "CWA", "WEST-CREE CWA", "CWAA", "WEST-CREE CWAA", "NASKAPI CWAA",
    "C", "SAYISI TH", "ME", "MAAI", "MI", "MII", "MO", "MOO", "Y-CREE MOO", "MA", "MAA", "MWE",
    "WEST-CREE MWE", "MWI", "WEST-CREE MWI", "MWII", "WEST-CREE MWII", "MWO", "WEST-CREE MWO",
    "MWOO", "WEST-CREE MWOO", "MWA", "WEST-CREE MWA", "MWAA", "WEST-CREE MWAA", "NASKAPI MWAA",
    "M", "WEST-CREE M", "MH", "ATHAPASCAN M", "SAYISI M", "NE", "NAAI", "NI", "NII", "NO", "NOO",
    "Y-CREE NOO", "NA", "NAA", "NWE", "WEST-CREE NWE", "NWA", "WEST-CREE NWA", "NWAA",
    "WEST-CREE NWAA", "NASKAPI NWAA", "N", "CARRIER NG", "NH", "LE", "LAAI", "LI", "LII", "LO",
    "LOO", "Y-CREE LOO", "LA", "LAA", "LWE", "WEST-CREE LWE", "LWI", "WEST-CREE LWI", "LWII",
    "WEST-CREE LWII", "LWO", "WEST-CREE LWO", "LWOO", "WEST-CREE LWOO", "LWA", "WEST-CREE LWA",
    "LWAA", "WEST-CREE LWAA", "L", "WEST-CREE L", "MEDIAL L", "SE", "SAAI", "SI", "SII", "SO",
    "SOO", "Y-CREE SOO", "SA", "SAA", "SWE", "WEST-CREE SWE", "SWI", "WEST-CREE SWI", "SWII",
    "WEST-CREE SWII", "SWO", "WEST-CREE SWO", "SWOO", "WEST-CREE SWOO", "SWA", "WEST-CREE SWA",
    "SWAA", "WEST-CREE SWAA", "NASKAPI SWAA", "S", "ATHAPASCAN S", "SW", "BLACKFOOT S",
    "MOOSE-CREE SK"]⟩,
  ⟨0x150A, "CANADIAN SYLLABICS NASKAPI ", ["SKW", "S-W", "SPWA", "STWA", "SKWA", "SCWA"]⟩,
  ⟨0x1510, "CANADIAN SYLLABICS ", ["SHE", "SHI", "SHII", "SHO", "SHOO", "SHA", "SHAA", "SHWE",
    "WEST-CREE SHWE", "SHWI", "WEST-CREE SHWI", "SHWII", "WEST-CREE SHWII", "SHWO",
    "WEST-CREE SHWO", "SHWOO", "WEST-CREE SHWOO", "SHWA", "WEST-CREE SHWA", "SHWAA",
    "WEST-CREE SHWAA", "SH", "YE", "YAAI", "YI", "YII", "YO", "YOO", "Y-CREE YOO", "YA", "YAA",
    "YWE", "WEST-CREE YWE", "YWI", "WEST-CREE YWI", "YWII", "WEST-CREE YWII", "YWO",
    "WEST-CREE YWO", "YWOO", "WEST-CREE YWOO", "YWA", "WEST-CREE YWA", "YWAA", "WEST-CREE YWAA",
    "NASKAPI YWAA", "Y", "BIBLE-CREE Y", "WEST-CREE Y", "SAYISI YI", "RE", "R-CREE RE",
    "WEST-CREE LE", "RAAI", "RI", "RII", "RO", "ROO", "WEST-CREE LO", "RA", "RAA",
    "WEST-CREE LA", "RWAA", "WEST-CREE RWAA", "R", "WEST-CREE R", "MEDIAL R", "FE", "FAAI", "FI",
    "FII", "FO", "FOO", "FA", "FAA", "FWAA", "WEST-CREE FWAA", "F", "THE", "N-CREE THE", "THI",
    "N-CREE THI", "THII", "N-CREE THII", "THO", "THOO", "THA", "THAA", "THWAA",
    "WEST-CREE THWAA", "TH", "TTHE", "TTHI", "TTHO", "TTHA", "TTH", "TYE", "TYI", "TYO", "TYA",
    "NUNAVIK HE", "NUNAVIK HI", "NUNAVIK HII", "NUNAVIK HO", "NUNAVIK HOO", "NUNAVIK HA",
    "NUNAVIK HAA", "NUNAVIK H", "NUNAVUT H", "HK", "QAAI", "QI", "QII", "QO", "QOO", "QA", "QAA",
    "Q", "TLHE", "TLHI", "TLHO", "TLHA", "WEST-CREE RE", "WEST-CREE RI", "WEST-CREE RO",
    "WEST-CREE RA", "NGAAI", "NGI", "NGII", "NGO", "NGOO", "NGA", "NGAA", "NG", "NNG",
    "SAYISI SHE", "SAYISI SHI", "SAYISI SHO", "SAYISI SHA", "WOODS-CREE THE", "WOODS-CREE THI",
    "WOODS-CREE THO", "WOODS-CREE THA", "WOODS-CREE TH", "LHI", "LHII", "LHO", "LHOO", "LHA",
    "LHAA", "LH", "TH-CREE THE", "TH-CREE THI", "TH-CREE THII", "TH-CREE THO", "TH-CREE THOO",
    "TH-CREE THA", "TH-CREE THAA", "TH-CREE TH", "AIVILIK B"]⟩,
  ⟨0x15B0, "CANADIAN SYLLABICS BLACKFOOT ", ["E", "I", "O", "A", "WE", "WI", "WO", "WA", "NE",
    "NI", "NO", "NA", "KE", "KI", "KO", "KA"]⟩,
  ⟨0x15C0, "CANADIAN SYLLABICS SAYISI ", ["HE", "HI", "HO", "HA"]⟩,
  ⟨0x15C4, "CANADIAN SYLLABICS CARRIER ", ["GHU", "GHO", "GHE", "GHEE", "GHI", "GHA", "RU", "RO",
    "RE", "REE", "RI", "RA", "WU", "WO", "WE", "WEE", "WI", "WA", "HWU", "HWO", "HWE", "HWEE",
    "HWI", "HWA", "THU", "THO", "THE", "THEE", "THI", "THA", "TTU", "TTO", "TTE", "TTEE", "TTI",
    "TTA", "PU", "PO", "PE", "PEE", "PI", "PA", "P", "GU", "GO", "GE", "GEE", "GI", "GA", "KHU",
    "KHO", "KHE", "KHEE", "KHI", "KHA", "KKU", "KKO", "KKE", "KKEE", "KKI", "KKA", "KK", "NU",
    "NO", "NE", "NEE", "NI", "NA", "MU", "MO", "ME", "MEE", "MI", "MA", "YU", "YO", "YE", "YEE",
    "YI", "YA", "JU"]⟩,
  ⟨0x1615, "CANADIAN SYLLABICS ", ["SAYISI JU", "CARRIER JO", "CARRIER JE", "CARRIER JEE",
    "CARRIER JI", "SAYISI JI"]⟩,
  ⟨0x161B, "CANADIAN SYLLABICS CARRIER ", ["JA", "JJU", "JJO", "JJE", "JJEE", "JJI", "JJA", "LU",
    "LO", "LE", "LEE", "LI", "LA", "DLU", "DLO", "DLE", "DLEE", "DLI", "DLA", "LHU", "LHO",
    "LHE", "LHEE", "LHI", "LHA", "TLHU", "TLHO", "TLHE", "TLHEE", "TLHI", "TLHA", "TLU", "TLO",
    "TLE", "TLEE", "TLI", "TLA", "ZU", "ZO", "ZE", "ZEE", "ZI", "ZA", "Z", "INITIAL Z", "DZU",
    "DZO", "DZE", "DZEE", "DZI", "DZA", "SU", "SO", "SE", "SEE", "SI", "SA", "SHU", "SHO", "SHE",
    "SHEE", "SHI", "SHA", "SH", "TSU", "TSO", "TSE", "TSEE", "TSI", "TSA", "CHU", "CHO", "CHE",
    "CHEE", "CHI", "CHA", "TTSU", "TTSO", "TTSE", "TTSEE", "TTSI", "TTSA"]⟩,
  ⟨0x166D, "CANADIAN SYLLABICS ", ["CHI SIGN", "FULL STOP", "QAI", "NGAI", "NNGI", "NNGII",
    "NNGO", "NNGOO", "NNGA", "NNGAA", "WOODS-CREE THWEE", "WOODS-CREE THWI", "WOODS-CREE THWII",
    "WOODS-CREE THWO", "WOODS-CREE THWOO", "WOODS-CREE THWA", "WOODS-CREE THWAA",
    "WOODS-CREE FINAL TH", "BLACKFOOT W"]⟩,
  ⟨0x18B0, "CANADIAN SYLLABICS ", ["OY", "AY", "AAY", "WAY", "POY", "PAY", "PWOY", "TAY", "KAY",
    "KWAY", "MAY", "NOY", "NAY", "LAY", "SOY", "SAY", "SHOY", "SHAY", "SHWOY", "YOY", "YAY",
    "RAY", "NWI", "OJIBWAY NWI", "NWII", "OJIBWAY NWII", "NWO", "OJIBWAY NWO", "NWOO",
    "OJIBWAY NWOO", "RWEE", "RWI", "RWII", "RWO", "RWOO", "RWA", "OJIBWAY P", "OJIBWAY T",
    "OJIBWAY K", "OJIBWAY C", "OJIBWAY M", "OJIBWAY N", "OJIBWAY S", "OJIBWAY SH", "EASTERN W",
    "WESTERN W", "FINAL SMALL RING", "FINAL RAISED DOT", "R-CREE RWE", "WEST-CREE LOO",
    "WEST-CREE LAA", "THWE", "THWA", "TTHWE", "TTHOO", "TTHAA", "TLHWE", "TLHOO", "SAYISI SHWE",
    "SAYISI SHOO", "SAYISI HOO", "CARRIER GWU", "CARRIER DENE GEE", "CARRIER GAA", "CARRIER GWA",
    "SAYISI JUU", "CARRIER JWA", "BEAVER DENE L", "BEAVER DENE R", "CARRIER DENTAL S"]⟩,
  ⟨0xAB70, "CHEROKEE SMALL LETTER ", ["A", "E", "I", "O", "U", "V", "GA", "KA", "GE", "GI", "GO",
    "GU", "GV", "HA", "HE", "HI", "HO", "HU", "HV", "LA", "LE", "LI", "LO", "LU", "LV", "MA",
    "ME", "MI", "MO", "MU", "NA", "HNA", "NAH", "NE", "NI", "NO", "NU", "NV", "QUA", "QUE",
    "QUI", "QUO", "QUU", "QUV", "SA", "S", "SE", "SI", "SO", "SU", "SV", "DA", "TA", "DE", "TE",
    "DI", "TI", "DO", "DU", "DV", "DLA", "TLA", "TLE", "TLI", "TLO", "TLU", "TLV", "TSA", "TSE",
    "TSI", "TSO", "TSU", "TSV", "WA", "WE", "WI", "WO", "WU", "WV", "YA"]⟩,
  ⟨0x104B0, "OSAGE CAPITAL LETTER ", ["A", "AI", "AIN", "AH", "BRA", "CHA", "EHCHA", "E", "EIN",
    "HA", "HYA", "I", "KA", "EHKA", "KYA", "LA", "MA", "NA", "O", "OIN", "PA", "EHPA", "SA",
    "SHA", "TA", "EHTA", "TSA", "EHTSA", "TSHA", "DHA", "U", "WA", "KHA", "GHA", "ZA", "ZHA"]⟩,
  ⟨0x104D8, "OSAGE SMALL LETTER ", ["A", "AI", "AIN", "AH", "BRA", "CHA", "EHCHA", "E", "EIN",
    "HA", "HYA", "I", "KA", "EHKA", "KYA", "LA", "MA", "NA", "O", "OIN", "PA", "EHPA", "SA",
    "SHA", "TA", "EHTA", "TSA", "EHTSA", "TSHA", "DHA", "U", "WA", "KHA", "GHA", "ZA", "ZHA"]⟩]

end ActionFlow.Text
