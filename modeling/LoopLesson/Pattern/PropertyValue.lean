/-!
The properties of characters that a pattern may ask for, and their values.

Names are those of the Unicode character database, the short one first.
-/

namespace LoopLesson

/-- A value of a property of characters. -/
structure PropertyValue where
  names : List String
  /-- The number of bytes of a machine that finds a character with this value, if there are any such
  characters. -/
  weight : Option Nat
deriving DecidableEq, Repr

namespace PropertyValue

/-- The properties that a character has or has not. -/
def binaryProperties : List PropertyValue := [
  { names := ["AHex", "ASCII_Hex_Digit"], weight := some 88 },
  { names := ["Alpha", "Alphabetic"], weight := some 45404 },
  { names := ["Bidi_C", "Bidi_Control"], weight := some 336 },
  { names := ["Bidi_M", "Bidi_Mirrored"], weight := some 5560 },
  { names := ["Cased"], weight := some 10200 },
  { names := ["CI", "Case_Ignorable"], weight := some 23728 },
  { names := ["CWCF", "Changes_When_Casefolded"], weight := some 24888 },
  { names := ["CWCM", "Changes_When_Casemapped"], weight := some 8296 },
  { names := ["CWL", "Changes_When_Lowercased"], weight := some 24292 },
  { names := ["CWT", "Changes_When_Titlecased"], weight := some 25104 },
  { names := ["CWU", "Changes_When_Uppercased"], weight := some 25172 },
  { names := ["Dash"], weight := some 1564 },
  { names := ["Dep", "Deprecated"], weight := some 736 },
  { names := ["DI", "Default_Ignorable_Code_Point"], weight := some 1476 },
  { names := ["Dia", "Diacritic"], weight := some 12404 },
  { names := ["EBase", "Emoji_Modifier_Base"], weight := some 2144 },
  { names := ["EComp", "Emoji_Component"], weight := some 908 },
  { names := ["EMod", "Emoji_Modifier"], weight := some 196 },
  { names := ["Emoji"], weight := some 7660 },
  { names := ["EPres", "Emoji_Presentation"], weight := some 4856 },
  { names := ["Ext", "Extender"], weight := some 2500 },
  { names := ["ExtPict", "Extended_Pictographic"], weight := some 5072 },
  { names := ["Gr_Base", "Grapheme_Base"], weight := some 53956 },
  { names := ["Gr_Ext", "Grapheme_Extend"], weight := some 19532 },
  { names := ["Gr_Link", "Grapheme_Link"], weight := some 1900 },
  { names := ["Hex", "Hex_Digit"], weight := some 376 },
  { names := ["Hyphen"], weight := some 840 },
  { names := ["IDC", "ID_Continue"], weight := some 47760 },
  { names := ["ID_Compat_Math_Continue"], weight := some 1000 },
  { names := ["ID_Compat_Math_Start"], weight := some 600 },
  { names := ["Ideo", "Ideographic"], weight := some 3744 },
  { names := ["IDS", "ID_Start"], weight := some 41488 },
  { names := ["IDSB", "IDS_Binary_Operator"], weight := some 200 },
  { names := ["IDST", "IDS_Trinary_Operator"], weight := some 164 },
  { names := ["IDSU", "IDS_Unary_Operator"], weight := some 200 },
  { names := ["Join_C", "Join_Control"], weight := some 164 },
  { names := ["LOE", "Logical_Order_Exception"], weight := some 540 },
  { names := ["Lower", "Lowercase"], weight := some 27952 },
  { names := ["Math"], weight := some 7068 },
  { names := ["MCM", "Modifier_Combining_Mark"], weight := some 500 },
  { names := ["NChar", "Noncharacter_Code_Point"], weight := some 1992 },
  { names := ["OAlpha", "Other_Alphabetic"], weight := some 16000 },
  { names := ["ODI", "Other_Default_Ignorable_Code_Point"], weight := some 700 },
  { names := ["OGr_Ext", "Other_Grapheme_Extend"], weight := some 1400 },
  { names := ["OIDC", "Other_ID_Continue"], weight := some 700 },
  { names := ["OIDS", "Other_ID_Start"], weight := some 400 },
  { names := ["OLower", "Other_Lowercase"], weight := some 1600 },
  { names := ["OMath", "Other_Math"], weight := some 7000 },
  { names := ["OUpper", "Other_Uppercase"], weight := some 500 },
  { names := ["Pat_Syn", "Pattern_Syntax"], weight := some 1792 },
  { names := ["Pat_WS", "Pattern_White_Space"], weight := some 340 },
  { names := ["PCM", "Prepended_Concatenation_Mark"], weight := some 636 },
  { names := ["QMark", "Quotation_Mark"], weight := some 852 },
  { names := ["Radical"], weight := some 404 },
  { names := ["RI", "Regional_Indicator"], weight := some 196 },
  { names := ["SD", "Soft_Dotted"], weight := some 2248 },
  { names := ["STerm", "Sentence_Terminal"], weight := some 5348 },
  { names := ["Term", "Terminal_Punctuation"], weight := some 6900 },
  { names := ["UIdeo", "Unified_Ideograph"], weight := some 2604 },
  { names := ["Upper", "Uppercase"], weight := some 26764 },
  { names := ["VS", "Variation_Selector"], weight := some 500 },
  { names := ["WSpace", "White_Space", "space"], weight := some 680 },
  { names := ["XIDC", "XID_Continue"], weight := some 48148 },
  { names := ["XIDS", "XID_Start"], weight := some 41876 }]

/-- The general categories and the classes that are made of them. -/
def generalCategories : List PropertyValue := [
  { names := ["C", "Other"], weight := some 41780 },
  { names := ["Cc", "Control", "cntrl"], weight := some 204 },
  { names := ["Cf", "Format"], weight := some 1784 },
  { names := ["Cn", "Unassigned"], weight := some 41128 },
  { names := ["Co", "Private_Use"], weight := some 864 },
  { names := ["Cs", "Surrogate"], weight := none },
  { names := ["L", "Letter"], weight := some 41352 },
  { names := ["LC", "Cased_Letter"], weight := some 9404 },
  { names := ["Ll", "Lowercase_Letter"], weight := some 27324 },
  { names := ["Lm", "Modifier_Letter"], weight := some 4776 },
  { names := ["Lo", "Other_Letter"], weight := some 32764 },
  { names := ["Lt", "Titlecase_Letter"], weight := some 552 },
  { names := ["Lu", "Uppercase_Letter"], weight := some 26284 },
  { names := ["M", "Mark", "Combining_Mark"], weight := some 18140 },
  { names := ["Mc", "Spacing_Mark"], weight := some 9924 },
  { names := ["Me", "Enclosing_Mark"], weight := some 468 },
  { names := ["Mn", "Nonspacing_Mark"], weight := some 18756 },
  { names := ["N", "Number"], weight := some 9272 },
  { names := ["Nd", "Decimal_Number", "digit"], weight := some 4640 },
  { names := ["Nl", "Letter_Number"], weight := some 1112 },
  { names := ["No", "Other_Number"], weight := some 5100 },
  { names := ["P", "Punctuation", "punct"], weight := some 11472 },
  { names := ["Pc", "Connector_Punctuation"], weight := some 540 },
  { names := ["Pd", "Dash_Punctuation"], weight := some 1324 },
  { names := ["Pe", "Close_Punctuation"], weight := some 3504 },
  { names := ["Pf", "Final_Punctuation"], weight := some 552 },
  { names := ["Pi", "Initial_Punctuation"], weight := some 588 },
  { names := ["Po", "Other_Punctuation"], weight := some 10868 },
  { names := ["Ps", "Open_Punctuation"], weight := some 3644 },
  { names := ["S", "Symbol"], weight := some 15384 },
  { names := ["Sc", "Currency_Symbol"], weight := some 1720 },
  { names := ["Sk", "Modifier_Symbol"], weight := some 2020 },
  { names := ["Sm", "Math_Symbol"], weight := some 3860 },
  { names := ["So", "Other_Symbol"], weight := some 12748 },
  { names := ["Z", "Separator"], weight := some 608 },
  { names := ["Zl", "Line_Separator"], weight := some 164 },
  { names := ["Zp", "Paragraph_Separator"], weight := some 164 },
  { names := ["Zs", "Space_Separator"], weight := some 572 },
  { names := ["Any"], weight := some 964 },
  { names := ["Assigned"], weight := some 49068 },
  { names := ["ASCII"], weight := some 72 }]

/-- The scripts. -/
def scripts : List PropertyValue := [
  { names := ["Adlm", "Adlam"], weight := some 336 },
  { names := ["Aghb", "Caucasian_Albanian"], weight := some 300 },
  { names := ["Ahom", "Ahom"], weight := some 336 },
  { names := ["Arab", "Arabic"], weight := some 3544 },
  { names := ["Armi", "Imperial_Aramaic"], weight := some 232 },
  { names := ["Armn", "Armenian"], weight := some 440 },
  { names := ["Avst", "Avestan"], weight := some 232 },
  { names := ["Bali", "Balinese"], weight := some 268 },
  { names := ["Bamu", "Bamum"], weight := some 432 },
  { names := ["Bass", "Bassa_Vah"], weight := some 232 },
  { names := ["Batk", "Batak"], weight := some 200 },
  { names := ["Beng", "Bengali"], weight := some 700 },
  { names := ["Bhks", "Bhaiksuki"], weight := some 372 },
  { names := ["Bopo", "Bopomofo"], weight := some 300 },
  { names := ["Brah", "Brahmi"], weight := some 336 },
  { names := ["Brai", "Braille"], weight := some 164 },
  { names := ["Bugi", "Buginese"], weight := some 200 },
  { names := ["Buhd", "Buhid"], weight := some 164 },
  { names := ["Cakm", "Chakma"], weight := some 300 },
  { names := ["Cans", "Canadian_Aboriginal"], weight := some 432 },
  { names := ["Cari", "Carian"], weight := some 264 },
  { names := ["Cham", "Cham"], weight := some 304 },
  { names := ["Cher", "Cherokee"], weight := some 436 },
  { names := ["Chrs", "Chorasmian"], weight := some 264 },
  { names := ["Copt", "Coptic", "Qaac"], weight := some 336 },
  { names := ["Cpmn", "Cypro_Minoan"], weight := some 264 },
  { names := ["Cprt", "Cypriot"], weight := some 376 },
  { names := ["Cyrl", "Cyrillic"], weight := some 1244 },
  { names := ["Deva", "Devanagari"], weight := some 536 },
  { names := ["Diak", "Dives_Akuru"], weight := some 516 },
  { names := ["Dogr", "Dogra"], weight := some 196 },
  { names := ["Dsrt", "Deseret"], weight := some 264 },
  { names := ["Dupl", "Duployan"], weight := some 440 },
  { names := ["Egyp", "Egyptian_Hieroglyphs"], weight := some 264 },
  { names := ["Elba", "Elbasan"], weight := some 196 },
  { names := ["Elym", "Elymaic"], weight := some 196 },
  { names := ["Ethi", "Ethiopic"], weight := some 2016 },
  { names := ["Gara", "Garay"], weight := some 340 },
  { names := ["Geor", "Georgian"], weight := some 652 },
  { names := ["Glag", "Glagolitic"], weight := some 508 },
  { names := ["Gong", "Gunjala_Gondi"], weight := some 444 },
  { names := ["Gonm", "Masaram_Gondi"], weight := some 480 },
  { names := ["Goth", "Gothic"], weight := some 264 },
  { names := ["Gran", "Grantha"], weight := some 768 },
  { names := ["Grek", "Greek"], weight := some 2244 },
  { names := ["Gujr", "Gujarati"], weight := some 700 },
  { names := ["Gukh", "Gurung_Khema"], weight := some 200 },
  { names := ["Guru", "Gurmukhi"], weight := some 772 },
  { names := ["Hang", "Hangul"], weight := some 1456 },
  { names := ["Hani", "Han"], weight := some 3448 },
  { names := ["Hano", "Hanunoo"], weight := some 164 },
  { names := ["Hatr", "Hatran"], weight := some 268 },
  { names := ["Hebr", "Hebrew"], weight := some 584 },
  { names := ["Hira", "Hiragana"], weight := some 740 },
  { names := ["Hluw", "Anatolian_Hieroglyphs"], weight := some 264 },
  { names := ["Hmng", "Pahawh_Hmong"], weight := some 476 },
  { names := ["Hmnp", "Nyiakeng_Puachue_Hmong"], weight := some 336 },
  { names := ["Hrkt", "Katakana_Or_Hiragana"], weight := none },
  { names := ["Hung", "Old_Hungarian"], weight := some 300 },
  { names := ["Ital", "Old_Italic"], weight := some 232 },
  { names := ["Java", "Javanese"], weight := some 304 },
  { names := ["Kali", "Kayah_Li"], weight := some 200 },
  { names := ["Kana", "Katakana"], weight := some 1220 },
  { names := ["Kawi", "Kawi"], weight := some 336 },
  { names := ["Khar", "Kharoshthi"], weight := some 516 },
  { names := ["Khmr", "Khmer"], weight := some 372 },
  { names := ["Khoj", "Khojki"], weight := some 300 },
  { names := ["Kits", "Khitan_Small_Script"], weight := some 364 },
  { names := ["Knda", "Kannada"], weight := some 664 },
  { names := ["Krai", "Kirat_Rai"], weight := some 200 },
  { names := ["Kthi", "Kaithi"], weight := some 300 },
  { names := ["Lana", "Tai_Tham"], weight := some 444 },
  { names := ["Laoo", "Lao"], weight := some 556 },
  { names := ["Latn", "Latin"], weight := some 2848 },
  { names := ["Lepc", "Lepcha"], weight := some 304 },
  { names := ["Limb", "Limbu"], weight := some 340 },
  { names := ["Lina", "Linear_A"], weight := some 368 },
  { names := ["Linb", "Linear_B"], weight := some 580 },
  { names := ["Lisu", "Lisu"], weight := some 296 },
  { names := ["Lyci", "Lycian"], weight := some 196 },
  { names := ["Lydi", "Lydian"], weight := some 232 },
  { names := ["Mahj", "Mahajani"], weight := some 196 },
  { names := ["Maka", "Makasar"], weight := some 196 },
  { names := ["Mand", "Mandaic"], weight := some 200 },
  { names := ["Mani", "Manichaean"], weight := some 232 },
  { names := ["Marc", "Marchen"], weight := some 336 },
  { names := ["Medf", "Medefaidrin"], weight := some 264 },
  { names := ["Mend", "Mende_Kikakui"], weight := some 300 },
  { names := ["Merc", "Meroitic_Cursive"], weight := some 336 },
  { names := ["Mero", "Meroitic_Hieroglyphs"], weight := some 196 },
  { names := ["Mlym", "Malayalam"], weight := some 448 },
  { names := ["Modi", "Modi"], weight := some 300 },
  { names := ["Mong", "Mongolian"], weight := some 540 },
  { names := ["Mroo", "Mro"], weight := some 268 },
  { names := ["Mtei", "Meetei_Mayek"], weight := some 268 },
  { names := ["Mult", "Multani"], weight := some 340 },
  { names := ["Mymr", "Myanmar"], weight := some 400 },
  { names := ["Nagm", "Nag_Mundari"], weight := some 196 },
  { names := ["Nand", "Nandinagari"], weight := some 336 },
  { names := ["Narb", "Old_North_Arabian"], weight := some 196 },
  { names := ["Nbat", "Nabataean"], weight := some 232 },
  { names := ["Newa", "Newa"], weight := some 300 },
  { names := ["Nkoo", "Nko"], weight := some 168 },
  { names := ["Nshu", "Nushu"], weight := some 432 },
  { names := ["Ogam", "Ogham"], weight := some 164 },
  { names := ["Olck", "Ol_Chiki"], weight := some 164 },
  { names := ["Onao", "Ol_Onal"], weight := some 230 },
  { names := ["Orkh", "Old_Turkic"], weight := some 264 },
  { names := ["Orya", "Oriya"], weight := some 700 },
  { names := ["Osge", "Osage"], weight := some 300 },
  { names := ["Osma", "Osmanya"], weight := some 232 },
  { names := ["Ougr", "Old_Uyghur"], weight := some 264 },
  { names := ["Palm", "Palmyrene"], weight := some 196 },
  { names := ["Pauc", "Pau_Cin_Hau"], weight := some 196 },
  { names := ["Perm", "Old_Permic"], weight := some 196 },
  { names := ["Phag", "Phags_Pa"], weight := some 164 },
  { names := ["Phli", "Inscriptional_Pahlavi"], weight := some 232 },
  { names := ["Phlp", "Psalter_Pahlavi"], weight := some 268 },
  { names := ["Phnx", "Phoenician"], weight := some 232 },
  { names := ["Plrd", "Miao"], weight := some 404 },
  { names := ["Prti", "Inscriptional_Parthian"], weight := some 232 },
  { names := ["Rjng", "Rejang"], weight := some 268 },
  { names := ["Rohg", "Hanifi_Rohingya"], weight := some 232 },
  { names := ["Runr", "Runic"], weight := some 268 },
  { names := ["Samr", "Samaritan"], weight := some 200 },
  { names := ["Sarb", "Old_South_Arabian"], weight := some 196 },
  { names := ["Saur", "Saurashtra"], weight := some 268 },
  { names := ["Sgnw", "SignWriting"], weight := some 336 },
  { names := ["Shaw", "Shavian"], weight := some 196 },
  { names := ["Shrd", "Sharada"], weight := some 264 },
  { names := ["Sidd", "Siddham"], weight := some 300 },
  { names := ["Sind", "Khudawadi"], weight := some 300 },
  { names := ["Sinh", "Sinhala"], weight := some 724 },
  { names := ["Sogd", "Sogdian"], weight := some 264 },
  { names := ["Sogo", "Old_Sogdian"], weight := some 196 },
  { names := ["Sora", "Sora_Sompeng"], weight := some 232 },
  { names := ["Soyo", "Soyombo"], weight := some 264 },
  { names := ["Sund", "Sundanese"], weight := some 232 },
  { names := ["Sunu", "Sunuwar"], weight := some 230 },
  { names := ["Sylo", "Syloti_Nagri"], weight := some 164 },
  { names := ["Syrc", "Syriac"], weight := some 372 },
  { names := ["Tagb", "Tagbanwa"], weight := some 236 },
  { names := ["Takr", "Takri"], weight := some 264 },
  { names := ["Tale", "Tai_Le"], weight := some 200 },
  { names := ["Talu", "New_Tai_Lue"], weight := some 340 },
  { names := ["Taml", "Tamil"], weight := some 940 },
  { names := ["Tang", "Tangut"], weight := some 600 },
  { names := ["Tavt", "Tai_Viet"], weight := some 268 },
  { names := ["Telu", "Telugu"], weight := some 664 },
  { names := ["Tfng", "Tifinagh"], weight := some 304 },
  { names := ["Tglg", "Tagalog"], weight := some 200 },
  { names := ["Thaa", "Thaana"], weight := some 132 },
  { names := ["Thai", "Thai"], weight := some 232 },
  { names := ["Tibt", "Tibetan"], weight := some 584 },
  { names := ["Tirh", "Tirhuta"], weight := some 300 },
  { names := ["Tnsa", "Tangsa"], weight := some 332 },
  { names := ["Todr", "Todhri"], weight := some 230 },
  { names := ["Toto", "Toto"], weight := some 196 },
  { names := ["Tutg", "Tulu_Tigalari"], weight := some 480 },
  { names := ["Ugar", "Ugaritic"], weight := some 232 },
  { names := ["Vaii", "Vai"], weight := some 232 },
  { names := ["Vith", "Vithkuqi"], weight := some 516 },
  { names := ["Wara", "Warang_Citi"], weight := some 300 },
  { names := ["Wcho", "Wancho"], weight := some 232 },
  { names := ["Xpeo", "Old_Persian"], weight := some 300 },
  { names := ["Xsux", "Cuneiform"], weight := some 572 },
  { names := ["Yezi", "Yezidi"], weight := some 268 },
  { names := ["Yiii", "Yi"], weight := some 336 },
  { names := ["Zanb", "Zanabazar_Square"], weight := some 264 },
  { names := ["Zinh", "Inherited", "Qaai"], weight := some 2408 },
  { names := ["Zyyy", "Common"], weight := some 12304 },
  { names := ["Zzzz", "Unknown"], weight := none }]

/-- The versions by which a character was there. -/
def ages : List PropertyValue := [
  { names := ["1.1", "V1_1"], weight := some 16976 },
  { names := ["2.0", "V2_0"], weight := some 19596 },
  { names := ["2.1", "V2_1"], weight := some 19596 },
  { names := ["3.0", "V3_0"], weight := some 23448 },
  { names := ["3.1", "V3_1"], weight := some 26276 },
  { names := ["3.2", "V3_2"], weight := some 26168 },
  { names := ["4.0", "V4_0"], weight := some 27036 },
  { names := ["4.1", "V4_1"], weight := some 28760 },
  { names := ["5.0", "V5_0"], weight := some 29484 },
  { names := ["5.1", "V5_1"], weight := some 30896 },
  { names := ["5.2", "V5_2"], weight := some 33396 },
  { names := ["6.0", "V6_0"], weight := some 35372 },
  { names := ["6.1", "V6_1"], weight := some 37296 },
  { names := ["6.2", "V6_2"], weight := some 37296 },
  { names := ["6.3", "V6_3"], weight := some 37296 },
  { names := ["7.0", "V7_0"], weight := some 41612 },
  { names := ["8.0", "V8_0"], weight := some 42648 },
  { names := ["9.0", "V9_0"], weight := some 44312 },
  { names := ["10.0", "V10_0"], weight := some 45516 },
  { names := ["11.0", "V11_0"], weight := some 46548 },
  { names := ["12.0", "V12_0"], weight := some 47412 },
  { names := ["12.1", "V12_1"], weight := some 47276 },
  { names := ["13.0", "V13_0"], weight := some 48276 },
  { names := ["14.0", "V14_0"], weight := some 49064 },
  { names := ["15.0", "V15_0"], weight := some 50096 },
  { names := ["15.1", "V15_1"], weight := some 50500 },
  { names := ["16.0", "V16_0"], weight := some 52000 }]

/-- What characters mean for the ends of grapheme clusters. -/
def graphemeBreaks : List PropertyValue := [
  { names := ["CN", "Control"], weight := some 1556 },
  { names := ["CR"], weight := some 72 },
  { names := ["EX", "Extend"], weight := some 19632 },
  { names := ["L"], weight := some 332 },
  { names := ["LF"], weight := some 72 },
  { names := ["LV"], weight := some 20156 },
  { names := ["LVT"], weight := some 25556 },
  { names := ["PP", "Prepend"], weight := some 1180 },
  { names := ["RI", "Regional_Indicator"], weight := some 196 },
  { names := ["SM", "SpacingMark"], weight := some 9312 },
  { names := ["T"], weight := some 332 },
  { names := ["V"], weight := some 400 },
  { names := ["ZWJ"], weight := some 164 }]

/-- What characters mean for the ends of words. -/
def wordBreaks : List PropertyValue := [
  { names := ["CR"], weight := some 72 },
  { names := ["DQ", "Double_Quote"], weight := some 72 },
  { names := ["EX", "ExtendNumLet"], weight := some 576 },
  { names := ["Extend"], weight := some 18512 },
  { names := ["FO", "Format"], weight := some 1680 },
  { names := ["HL", "Hebrew_Letter"], weight := some 552 },
  { names := ["KA", "Katakana"], weight := some 1288 },
  { names := ["LE", "ALetter"], weight := some 35008 },
  { names := ["LF"], weight := some 72 },
  { names := ["MB", "MidNumLet"], weight := some 440 },
  { names := ["ML", "MidLetter"], weight := some 708 },
  { names := ["MN", "MidNum"], weight := some 920 },
  { names := ["NL", "Newline"], weight := some 268 },
  { names := ["NU", "Numeric"], weight := some 4676 },
  { names := ["RI", "Regional_Indicator"], weight := some 196 },
  { names := ["SQ", "Single_Quote"], weight := some 72 },
  { names := ["WSegSpace"], weight := some 504 },
  { names := ["ZWJ"], weight := some 164 }]

/-- What characters mean for the ends of sentences. -/
def sentenceBreaks : List PropertyValue := [
  { names := ["AT", "ATerm"], weight := some 368 },
  { names := ["CL", "Close"], weight := some 2584 },
  { names := ["CR"], weight := some 72 },
  { names := ["EX", "Extend"], weight := some 18412 },
  { names := ["FO", "Format"], weight := some 1716 },
  { names := ["LE", "OLetter"], weight := some 34536 },
  { names := ["LF"], weight := some 72 },
  { names := ["LO", "Lower"], weight := some 27880 },
  { names := ["NU", "Numeric"], weight := some 4676 },
  { names := ["SC", "SContinue"], weight := some 1196 },
  { names := ["SE", "Sep"], weight := some 232 },
  { names := ["SP", "Sp"], weight := some 644 },
  { names := ["ST", "STerm"], weight := some 5240 },
  { names := ["UP", "Upper"], weight := some 26768 }]

/-- The names of further properties, whose values a pattern may not ask for. -/
def furtherProperties : List String := [
  "Bidi_Class", "bc", "Bidi_Mirroring_Glyph", "bmg", "Bidi_Paired_Bracket", "bpb",
  "Bidi_Paired_Bracket_Type", "bpt", "Block", "blk", "Canonical_Combining_Class", "ccc",
  "Case_Folding", "cf", "Changes_When_NFKC_Casefolded", "CWKCF", "Composition_Exclusion", "CE",
  "Decomposition_Mapping", "dm", "Decomposition_Type", "dt", "East_Asian_Width", "ea",
  "Equivalent_Unified_Ideograph", "EqUIdeo", "Expands_On_NFC", "XO_NFC", "Expands_On_NFD",
  "XO_NFD", "Expands_On_NFKC", "XO_NFKC", "Expands_On_NFKD", "XO_NFKD", "FC_NFKC_Closure",
  "FC_NFKC", "Full_Composition_Exclusion", "Comp_Ex", "Hangul_Syllable_Type", "hst",
  "ISO_Comment", "isc", "Indic_Conjunct_Break", "InCB", "Indic_Positional_Category", "InPC",
  "Indic_Syllabic_Category", "InSC", "Jamo_Short_Name", "JSN", "Joining_Group", "jg",
  "Joining_Type", "jt", "Line_Break", "lb", "Lowercase_Mapping", "lc", "NFC_Quick_Check",
  "NFC_QC", "NFD_Quick_Check", "NFD_QC", "NFKC_Casefold", "NFKC_CF", "NFKC_Quick_Check",
  "NFKC_QC", "NFKC_Simple_Casefold", "NFKC_SCF", "NFKD_Quick_Check", "NFKD_QC", "Name", "na",
  "Name_Alias", "Numeric_Type", "nt", "Numeric_Value", "nv", "Simple_Case_Folding", "scf",
  "sfc", "Simple_Lowercase_Mapping", "slc", "Simple_Titlecase_Mapping", "stc",
  "Simple_Uppercase_Mapping", "suc", "Titlecase_Mapping", "tc", "Unicode_1_Name", "na1",
  "Uppercase_Mapping", "uc", "Vertical_Orientation", "vo", "kAccountingNumeric",
  "cjkAccountingNumeric", "kCompatibilityVariant", "cjkCompatibilityVariant", "kEH_Cat",
  "kEH_Desc", "kEH_HG", "kEH_IFAO", "kEH_JSesh", "kEH_NoMirror", "kEH_NoRotate", "kIICore",
  "cjkIICore", "kIRG_GSource", "cjkIRG_GSource", "kIRG_HSource", "cjkIRG_HSource",
  "kIRG_JSource", "cjkIRG_JSource", "kIRG_KPSource", "cjkIRG_KPSource", "kIRG_KSource",
  "cjkIRG_KSource", "kIRG_MSource", "cjkIRG_MSource", "kIRG_SSource", "cjkIRG_SSource",
  "kIRG_TSource", "cjkIRG_TSource", "kIRG_UKSource", "cjkIRG_UKSource", "kIRG_USource",
  "cjkIRG_USource", "kIRG_VSource", "cjkIRG_VSource", "kMandarin", "cjkMandarin",
  "kOtherNumeric", "cjkOtherNumeric", "kPrimaryNumeric", "cjkPrimaryNumeric", "kRSUnicode",
  "cjkRSUnicode", "Unicode_Radical_Stroke", "URS", "kTotalStrokes", "cjkTotalStrokes",
  "kUnihanCore2020", "cjkUnihanCore2020"]

end PropertyValue

end LoopLesson
