/-! Scripts and script extensions of code points. -/

namespace TypedPattern.Unicode.Data

/-- The scripts that characters have, each with its names, the long one second. -/
def scriptNames : List (List String) :=
  [["Adlm", "Adlam"],
   ["Aghb", "Caucasian_Albanian"],
   ["Ahom", "Ahom"],
   ["Arab", "Arabic"],
   ["Armi", "Imperial_Aramaic"],
   ["Armn", "Armenian"],
   ["Avst", "Avestan"],
   ["Bali", "Balinese"],
   ["Bamu", "Bamum"],
   ["Bass", "Bassa_Vah"],
   ["Batk", "Batak"],
   ["Beng", "Bengali"],
   ["Bhks", "Bhaiksuki"],
   ["Bopo", "Bopomofo"],
   ["Brah", "Brahmi"],
   ["Brai", "Braille"],
   ["Bugi", "Buginese"],
   ["Buhd", "Buhid"],
   ["Cakm", "Chakma"],
   ["Cans", "Canadian_Aboriginal"],
   ["Cari", "Carian"],
   ["Cham", "Cham"],
   ["Cher", "Cherokee"],
   ["Chrs", "Chorasmian"],
   ["Copt", "Coptic", "Qaac"],
   ["Cpmn", "Cypro_Minoan"],
   ["Cprt", "Cypriot"],
   ["Cyrl", "Cyrillic"],
   ["Deva", "Devanagari"],
   ["Diak", "Dives_Akuru"],
   ["Dogr", "Dogra"],
   ["Dsrt", "Deseret"],
   ["Dupl", "Duployan"],
   ["Egyp", "Egyptian_Hieroglyphs"],
   ["Elba", "Elbasan"],
   ["Elym", "Elymaic"],
   ["Ethi", "Ethiopic"],
   ["Gara", "Garay"],
   ["Geor", "Georgian"],
   ["Glag", "Glagolitic"],
   ["Gong", "Gunjala_Gondi"],
   ["Gonm", "Masaram_Gondi"],
   ["Goth", "Gothic"],
   ["Gran", "Grantha"],
   ["Grek", "Greek"],
   ["Gujr", "Gujarati"],
   ["Gukh", "Gurung_Khema"],
   ["Guru", "Gurmukhi"],
   ["Hang", "Hangul"],
   ["Hani", "Han"],
   ["Hano", "Hanunoo"],
   ["Hatr", "Hatran"],
   ["Hebr", "Hebrew"],
   ["Hira", "Hiragana"],
   ["Hluw", "Anatolian_Hieroglyphs"],
   ["Hmng", "Pahawh_Hmong"],
   ["Hmnp", "Nyiakeng_Puachue_Hmong"],
   ["Hung", "Old_Hungarian"],
   ["Ital", "Old_Italic"],
   ["Java", "Javanese"],
   ["Kali", "Kayah_Li"],
   ["Kana", "Katakana"],
   ["Kawi", "Kawi"],
   ["Khar", "Kharoshthi"],
   ["Khmr", "Khmer"],
   ["Khoj", "Khojki"],
   ["Kits", "Khitan_Small_Script"],
   ["Knda", "Kannada"],
   ["Krai", "Kirat_Rai"],
   ["Kthi", "Kaithi"],
   ["Lana", "Tai_Tham"],
   ["Laoo", "Lao"],
   ["Latn", "Latin"],
   ["Lepc", "Lepcha"],
   ["Limb", "Limbu"],
   ["Lina", "Linear_A"],
   ["Linb", "Linear_B"],
   ["Lisu", "Lisu"],
   ["Lyci", "Lycian"],
   ["Lydi", "Lydian"],
   ["Mahj", "Mahajani"],
   ["Maka", "Makasar"],
   ["Mand", "Mandaic"],
   ["Mani", "Manichaean"],
   ["Marc", "Marchen"],
   ["Medf", "Medefaidrin"],
   ["Mend", "Mende_Kikakui"],
   ["Merc", "Meroitic_Cursive"],
   ["Mero", "Meroitic_Hieroglyphs"],
   ["Mlym", "Malayalam"],
   ["Modi", "Modi"],
   ["Mong", "Mongolian"],
   ["Mroo", "Mro"],
   ["Mtei", "Meetei_Mayek"],
   ["Mult", "Multani"],
   ["Mymr", "Myanmar"],
   ["Nagm", "Nag_Mundari"],
   ["Nand", "Nandinagari"],
   ["Narb", "Old_North_Arabian"],
   ["Nbat", "Nabataean"],
   ["Newa", "Newa"],
   ["Nkoo", "Nko"],
   ["Nshu", "Nushu"],
   ["Ogam", "Ogham"],
   ["Olck", "Ol_Chiki"],
   ["Onao", "Ol_Onal"],
   ["Orkh", "Old_Turkic"],
   ["Orya", "Oriya"],
   ["Osge", "Osage"],
   ["Osma", "Osmanya"],
   ["Ougr", "Old_Uyghur"],
   ["Palm", "Palmyrene"],
   ["Pauc", "Pau_Cin_Hau"],
   ["Perm", "Old_Permic"],
   ["Phag", "Phags_Pa"],
   ["Phli", "Inscriptional_Pahlavi"],
   ["Phlp", "Psalter_Pahlavi"],
   ["Phnx", "Phoenician"],
   ["Plrd", "Miao"],
   ["Prti", "Inscriptional_Parthian"],
   ["Rjng", "Rejang"],
   ["Rohg", "Hanifi_Rohingya"],
   ["Runr", "Runic"],
   ["Samr", "Samaritan"],
   ["Sarb", "Old_South_Arabian"],
   ["Saur", "Saurashtra"],
   ["Sgnw", "SignWriting"],
   ["Shaw", "Shavian"],
   ["Shrd", "Sharada"],
   ["Sidd", "Siddham"],
   ["Sind", "Khudawadi"],
   ["Sinh", "Sinhala"],
   ["Sogd", "Sogdian"],
   ["Sogo", "Old_Sogdian"],
   ["Sora", "Sora_Sompeng"],
   ["Soyo", "Soyombo"],
   ["Sund", "Sundanese"],
   ["Sunu", "Sunuwar"],
   ["Sylo", "Syloti_Nagri"],
   ["Syrc", "Syriac"],
   ["Tagb", "Tagbanwa"],
   ["Takr", "Takri"],
   ["Tale", "Tai_Le"],
   ["Talu", "New_Tai_Lue"],
   ["Taml", "Tamil"],
   ["Tang", "Tangut"],
   ["Tavt", "Tai_Viet"],
   ["Telu", "Telugu"],
   ["Tfng", "Tifinagh"],
   ["Tglg", "Tagalog"],
   ["Thaa", "Thaana"],
   ["Thai", "Thai"],
   ["Tibt", "Tibetan"],
   ["Tirh", "Tirhuta"],
   ["Tnsa", "Tangsa"],
   ["Todr", "Todhri"],
   ["Toto", "Toto"],
   ["Tutg", "Tulu_Tigalari"],
   ["Ugar", "Ugaritic"],
   ["Vaii", "Vai"],
   ["Vith", "Vithkuqi"],
   ["Wara", "Warang_Citi"],
   ["Wcho", "Wancho"],
   ["Xpeo", "Old_Persian"],
   ["Xsux", "Cuneiform"],
   ["Yezi", "Yezidi"],
   ["Yiii", "Yi"],
   ["Zanb", "Zanabazar_Square"],
   ["Zinh", "Inherited", "Qaai"],
   ["Zyyy", "Common"]]

/-- The script of every code point: one where there is none, else two more than the place of the script in
`scriptNames`. -/
def scriptRows : List Nat :=
  [0x000000AB_0000414A_00005BAB_0000614A_00007BAB_0000AA4A_0000ABAB_0000BA4A_0000BBAB_0000C04A,
   0x0000D7AB_0000D84A_0000F7AB_0000F84A_0002B9AB_0002E04A_0002E5AB_0002EA0F_0002ECAB_000300AA,
   0x0003702E_000374AB_0003752E_00037801_00037A2E_00037EAB_00037F2E_00038001_0003842E_000385AB,
   0x0003862E_000387AB_0003882E_00038B01_00038C2E_00038D01_00038E2E_0003A201_0003A32E_0003E21A,
   0x0003F02E_0004001D_000485AA_0004871D_00053001_00053107_00055701_00055907_00058B01_00058D07,
   0x00059001_00059136_0005C801_0005D036_0005EB01_0005EF36_0005F501_00060005_000605AB_00060605,
   0x00060CAB_00060D05_00061BAB_00061C05_00061FAB_00062005_000640AB_00064105_00064BAA_00065605,
   0x000670AA_00067105_0006DDAB_0006DE05_0007008D_00070E01_00070F8D_00074B01_00074D8D_00075005,
   0x00078098_0007B201_0007C067_0007FB01_0007FD67_0008007D_00082E01_0008307D_00083F01_00084054,
   0x00085C01_00085E54_00085F01_0008608D_00086B01_00087005_00088F01_00089005_00089201_00089705,
   0x0008E2AB_0008E305_0009001E_000951AA_0009551E_000964AB_0009661E_0009800D_00098401_0009850D,
   0x00098D01_00098F0D_00099101_0009930D_0009A901_0009AA0D_0009B101_0009B20D_0009B301_0009B60D,
   0x0009BA01_0009BC0D_0009C501_0009C70D_0009C901_0009CB0D_0009CF01_0009D70D_0009D801_0009DC0D,
   0x0009DE01_0009DF0D_0009E401_0009E60D_0009FF01_000A0131_000A0401_000A0531_000A0B01_000A0F31,
   0x000A1101_000A1331_000A2901_000A2A31_000A3101_000A3231_000A3401_000A3531_000A3701_000A3831,
   0x000A3A01_000A3C31_000A3D01_000A3E31_000A4301_000A4731_000A4901_000A4B31_000A4E01_000A5131,
   0x000A5201_000A5931_000A5D01_000A5E31_000A5F01_000A6631_000A7701_000A812F_000A8401_000A852F,
   0x000A8E01_000A8F2F_000A9201_000A932F_000AA901_000AAA2F_000AB101_000AB22F_000AB401_000AB52F,
   0x000ABA01_000ABC2F_000AC601_000AC72F_000ACA01_000ACB2F_000ACE01_000AD02F_000AD101_000AE02F,
   0x000AE401_000AE62F_000AF201_000AF92F_000B0001_000B016D_000B0401_000B056D_000B0D01_000B0F6D,
   0x000B1101_000B136D_000B2901_000B2A6D_000B3101_000B326D_000B3401_000B356D_000B3A01_000B3C6D,
   0x000B4501_000B476D_000B4901_000B4B6D_000B4E01_000B556D_000B5801_000B5C6D_000B5E01_000B5F6D,
   0x000B6401_000B666D_000B7801_000B8292_000B8401_000B8592_000B8B01_000B8E92_000B9101_000B9292,
   0x000B9601_000B9992_000B9B01_000B9C92_000B9D01_000B9E92_000BA001_000BA392_000BA501_000BA892,
   0x000BAB01_000BAE92_000BBA01_000BBE92_000BC301_000BC692_000BC901_000BCA92_000BCE01_000BD092,
   0x000BD101_000BD792_000BD801_000BE692_000BFB01_000C0095_000C0D01_000C0E95_000C1101_000C1295,
   0x000C2901_000C2A95_000C3A01_000C3C95_000C4501_000C4695_000C4901_000C4A95_000C4E01_000C5595,
   0x000C5701_000C5895_000C5B01_000C5D95_000C5E01_000C6095_000C6401_000C6695_000C7001_000C7795,
   0x000C8045_000C8D01_000C8E45_000C9101_000C9245_000CA901_000CAA45_000CB401_000CB545_000CBA01,
   0x000CBC45_000CC501_000CC645_000CC901_000CCA45_000CCE01_000CD545_000CD701_000CDD45_000CDF01,
   0x000CE045_000CE401_000CE645_000CF001_000CF145_000CF401_000D005B_000D0D01_000D0E5B_000D1101,
   0x000D125B_000D4501_000D465B_000D4901_000D4A5B_000D5001_000D545B_000D6401_000D665B_000D8001,
   0x000D8185_000D8401_000D8585_000D9701_000D9A85_000DB201_000DB385_000DBC01_000DBD85_000DBE01,
   0x000DC085_000DC701_000DCA85_000DCB01_000DCF85_000DD501_000DD685_000DD701_000DD885_000DE001,
   0x000DE685_000DF001_000DF285_000DF501_000E0199_000E3B01_000E3FAB_000E4099_000E5C01_000E8149,
   0x000E8301_000E8449_000E8501_000E8649_000E8B01_000E8C49_000EA401_000EA549_000EA601_000EA749,
   0x000EBE01_000EC049_000EC501_000EC649_000EC701_000EC849_000ECF01_000ED049_000EDA01_000EDC49,
   0x000EE001_000F009A_000F4801_000F499A_000F6D01_000F719A_000F9801_000F999A_000FBD01_000FBE9A,
   0x000FCD01_000FCE9A_000FD5AB_000FD99A_000FDB01_00100061_0010A028_0010C601_0010C728_0010C801,
   0x0010CD28_0010CE01_0010D028_0010FBAB_0010FC28_00110032_00120026_00124901_00124A26_00124E01,
   0x00125026_00125701_00125826_00125901_00125A26_00125E01_00126026_00128901_00128A26_00128E01,
   0x00129026_0012B101_0012B226_0012B601_0012B826_0012BF01_0012C026_0012C101_0012C226_0012C601,
   0x0012C826_0012D701_0012D826_00131101_00131226_00131601_00131826_00135B01_00135D26_00137D01,
   0x00138026_00139A01_0013A018_0013F601_0013F818_0013FE01_00140015_00168069_00169D01_0016A07C,
   0x0016EBAB_0016EE7C_0016F901_00170097_00171601_00171F97_00172034_001735AB_00173701_00174013,
   0x00175401_0017608E_00176D01_00176E8E_00177101_0017728E_00177401_00178042_0017DE01_0017E042,
   0x0017EA01_0017F042_0017FA01_0018005D_001802AB_0018045D_001805AB_0018065D_00181A01_0018205D,
   0x00187901_0018805D_0018AB01_0018B015_0018F601_0019004C_00191F01_0019204C_00192C01_0019304C,
   0x00193C01_0019404C_00194101_0019444C_00195090_00196E01_00197090_00197501_00198091_0019AC01,
   0x0019B091_0019CA01_0019D091_0019DB01_0019DE91_0019E042_001A0012_001A1C01_001A1E12_001A2048,
   0x001A5F01_001A6048_001A7D01_001A7F48_001A8A01_001A9048_001A9A01_001AA048_001AAE01_001AB0AA,
   0x001ACF01_001B0009_001B4D01_001B4E09_001B808A_001BC00C_001BF401_001BFC0C_001C004B_001C3801,
   0x001C3B4B_001C4A01_001C4D4B_001C506A_001C801D_001C8B01_001C9028_001CBB01_001CBD28_001CC08A,
   0x001CC801_001CD0AA_001CD3AB_001CD4AA_001CE1AB_001CE2AA_001CE9AB_001CEDAA_001CEEAB_001CF4AA,
   0x001CF5AB_001CF8AA_001CFAAB_001CFB01_001D004A_001D262E_001D2B1D_001D2C4A_001D5D2E_001D624A,
   0x001D662E_001D6B4A_001D781D_001D794A_001DBF2E_001DC0AA_001E004A_001F002E_001F1601_001F182E,
   0x001F1E01_001F202E_001F4601_001F482E_001F4E01_001F502E_001F5801_001F592E_001F5A01_001F5B2E,
   0x001F5C01_001F5D2E_001F5E01_001F5F2E_001F7E01_001F802E_001FB501_001FB62E_001FC501_001FC62E,
   0x001FD401_001FD62E_001FDC01_001FDD2E_001FF001_001FF22E_001FF501_001FF62E_001FFF01_002000AB,
   0x00200CAA_00200EAB_00206501_002066AB_0020714A_00207201_002074AB_00207F4A_002080AB_00208F01,
   0x0020904A_00209D01_0020A0AB_0020C101_0020D0AA_0020F101_002100AB_0021262E_002127AB_00212A4A,
   0x00212CAB_0021324A_002133AB_00214E4A_00214FAB_0021604A_002189AB_00218C01_002190AB_00242A01,
   0x002440AB_00244B01_002460AB_00280011_002900AB_002B7401_002B76AB_002B9601_002B97AB_002C0029,
   0x002C604A_002C801A_002CF401_002CF91A_002D0028_002D2601_002D2728_002D2801_002D2D28_002D2E01,
   0x002D3096_002D6801_002D6F96_002D7101_002D7F96_002D8026_002D9701_002DA026_002DA701_002DA826,
   0x002DAF01_002DB026_002DB701_002DB826_002DBF01_002DC026_002DC701_002DC826_002DCF01_002DD026,
   0x002DD701_002DD826_002DDF01_002DE01D_002E00AB_002E5E01_002E8033_002E9A01_002E9B33_002EF401,
   0x002F0033_002FD601_002FF0AB_00300533_003006AB_00300733_003008AB_00302133_00302AAA_00302E32,
   0x003030AB_00303833_00303CAB_00304001_00304137_00309701_003099AA_00309BAB_00309D37_0030A0AB,
   0x0030A13F_0030FBAB_0030FD3F_00310001_0031050F_00313001_00313132_00318F01_003190AB_0031A00F,
   0x0031C0AB_0031E601_0031EFAB_0031F03F_00320032_00321F01_003220AB_00326032_00327FAB_0032D03F,
   0x0032FFAB_0033003F_003358AB_00340033_004DC0AB_004E0033_00A000A8_00A48D01_00A490A8_00A4C701,
   0x00A4D04F_00A500A1_00A62C01_00A6401D_00A6A00A_00A6F801_00A700AB_00A7224A_00A788AB_00A78B4A,
   0x00A7CE01_00A7D04A_00A7D201_00A7D34A_00A7D401_00A7D54A_00A7DD01_00A7F24A_00A8008C_00A82D01,
   0x00A830AB_00A83A01_00A84074_00A87801_00A8807F_00A8C601_00A8CE7F_00A8DA01_00A8E01E_00A9003E,
   0x00A92EAB_00A92F3E_00A9307A_00A95401_00A95F7A_00A96032_00A97D01_00A9803D_00A9CE01_00A9CFAB,
   0x00A9D03D_00A9DA01_00A9DE3D_00A9E061_00A9FF01_00AA0017_00AA3701_00AA4017_00AA4E01_00AA5017,
   0x00AA5A01_00AA5C17_00AA6061_00AA8094_00AAC301_00AADB94_00AAE05F_00AAF701_00AB0126_00AB0701,
   0x00AB0926_00AB0F01_00AB1126_00AB1701_00AB2026_00AB2701_00AB2826_00AB2F01_00AB304A_00AB5BAB,
   0x00AB5C4A_00AB652E_00AB664A_00AB6AAB_00AB6C01_00AB7018_00ABC05F_00ABEE01_00ABF05F_00ABFA01,
   0x00AC0032_00D7A401_00D7B032_00D7C701_00D7CB32_00D7FC01_00F90033_00FA6E01_00FA7033_00FADA01,
   0x00FB004A_00FB0701_00FB1307_00FB1801_00FB1D36_00FB3701_00FB3836_00FB3D01_00FB3E36_00FB3F01,
   0x00FB4036_00FB4201_00FB4336_00FB4501_00FB4636_00FB5005_00FBC301_00FBD305_00FD3EAB_00FD4005,
   0x00FD9001_00FD9205_00FDC801_00FDCF05_00FDD001_00FDF005_00FE00AA_00FE10AB_00FE1A01_00FE20AA,
   0x00FE2E1D_00FE30AB_00FE5301_00FE54AB_00FE6701_00FE68AB_00FE6C01_00FE7005_00FE7501_00FE7605,
   0x00FEFD01_00FEFFAB_00FF0001_00FF01AB_00FF214A_00FF3BAB_00FF414A_00FF5BAB_00FF663F_00FF70AB,
   0x00FF713F_00FF9EAB_00FFA032_00FFBF01_00FFC232_00FFC801_00FFCA32_00FFD001_00FFD232_00FFD801,
   0x00FFDA32_00FFDD01_00FFE0AB_00FFE701_00FFE8AB_00FFEF01_00FFF9AB_00FFFE01_0100004E_01000C01,
   0x01000D4E_01002701_0100284E_01003B01_01003C4E_01003E01_01003F4E_01004E01_0100504E_01005E01,
   0x0100804E_0100FB01_010100AB_01010301_010107AB_01013401_010137AB_0101402E_01018F01_010190AB,
   0x01019D01_0101A02E_0101A101_0101D0AB_0101FDAA_0101FE01_01028050_01029D01_0102A016_0102D101,
   0x0102E0AA_0102E1AB_0102FC01_0103003C_01032401_01032D3C_0103302C_01034B01_01035073_01037B01,
   0x010380A0_01039E01_01039FA0_0103A0A5_0103C401_0103C8A5_0103D601_01040021_01045081_0104806F,
   0x01049E01_0104A06F_0104AA01_0104B06E_0104D401_0104D86E_0104FC01_01050024_01052801_01053003,
   0x01056401_01056F03_010570A2_01057B01_01057CA2_01058B01_01058CA2_01059301_010594A2_01059601,
   0x010597A2_0105A201_0105A3A2_0105B201_0105B3A2_0105BA01_0105BBA2_0105BD01_0105C09D_0105F401,
   0x0106004D_01073701_0107404D_01075601_0107604D_01076801_0107804A_01078601_0107874A_0107B101,
   0x0107B24A_0107BB01_0108001C_01080601_0108081C_01080901_01080A1C_01083601_0108371C_01083901,
   0x01083C1C_01083D01_01083F1C_01084006_01085601_01085706_01086071_01088065_01089F01_0108A765,
   0x0108B001_0108E035_0108F301_0108F435_0108F601_0108FB35_01090077_01091C01_01091F77_01092051,
   0x01093A01_01093F51_01094001_0109805A_0109A059_0109B801_0109BC59_0109D001_0109D259_010A0041,
   0x010A0401_010A0541_010A0701_010A0C41_010A1401_010A1541_010A1801_010A1941_010A3601_010A3841,
   0x010A3B01_010A3F41_010A4901_010A5041_010A5901_010A607E_010A8064_010AA001_010AC055_010AE701,
   0x010AEB55_010AF701_010B0008_010B3601_010B3908_010B4079_010B5601_010B5879_010B6075_010B7301,
   0x010B7875_010B8076_010B9201_010B9976_010B9D01_010BA976_010BB001_010C006C_010C4901_010C803B,
   0x010CB301_010CC03B_010CF301_010CFA3B_010D007B_010D2801_010D307B_010D3A01_010D4027_010D6601,
   0x010D6927_010D8601_010D8E27_010D9001_010E6005_010E7F01_010E80A7_010EAA01_010EABA7_010EAE01,
   0x010EB0A7_010EB201_010EC205_010EC501_010EFC05_010F0087_010F2801_010F3086_010F5A01_010F7070,
   0x010F8A01_010FB019_010FCC01_010FE025_010FF701_01100010_01104E01_01105210_01107601_01107F10,
   0x01108047_0110C301_0110CD47_0110CE01_0110D088_0110E901_0110F088_0110FA01_01110014_01113501,
   0x01113614_01114801_01115052_01117701_01118082_0111E001_0111E185_0111F501_01120043_01121201,
   0x01121343_01124201_01128060_01128701_01128860_01128901_01128A60_01128E01_01128F60_01129E01,
   0x01129F60_0112AA01_0112B084_0112EB01_0112F084_0112FA01_0113002D_01130401_0113052D_01130D01,
   0x01130F2D_01131101_0113132D_01132901_01132A2D_01133101_0113322D_01133401_0113352D_01133A01,
   0x01133BAA_01133C2D_01134501_0113472D_01134901_01134B2D_01134E01_0113502D_01135101_0113572D,
   0x01135801_01135D2D_01136401_0113662D_01136D01_0113702D_01137501_0113809F_01138A01_01138B9F,
   0x01138C01_01138E9F_01138F01_0113909F_0113B601_0113B79F_0113C101_0113C29F_0113C301_0113C59F,
   0x0113C601_0113C79F_0113CB01_0113CC9F_0113D601_0113D79F_0113D901_0113E19F_0113E301_01140066,
   0x01145C01_01145D66_01146201_0114809B_0114C801_0114D09B_0114DA01_01158083_0115B601_0115B883,
   0x0115DE01_0116005C_01164501_0116505C_01165A01_0116605D_01166D01_0116808F_0116BA01_0116C08F,
   0x0116CA01_0116D061_0116E401_01170004_01171B01_01171D04_01172C01_01173004_01174701_01180020,
   0x01183C01_0118A0A3_0118F301_0118FFA3_0119001F_01190701_0119091F_01190A01_01190C1F_01191401,
   0x0119151F_01191701_0119181F_01193601_0119371F_01193901_01193B1F_01194701_0119501F_01195A01,
   0x0119A063_0119A801_0119AA63_0119D801_0119DA63_0119E501_011A00A9_011A4801_011A5089_011AA301,
   0x011AB015_011AC072_011AF901_011B001E_011B0A01_011BC08B_011BE201_011BF08B_011BFA01_011C000E,
   0x011C0901_011C0A0E_011C3701_011C380E_011C4601_011C500E_011C6D01_011C7056_011C9001_011C9256,
   0x011CA801_011CA956_011CB701_011D002B_011D0701_011D082B_011D0A01_011D0B2B_011D3701_011D3A2B,
   0x011D3B01_011D3C2B_011D3E01_011D3F2B_011D4801_011D502B_011D5A01_011D602A_011D6601_011D672A,
   0x011D6901_011D6A2A_011D8F01_011D902A_011D9201_011D932A_011D9901_011DA02A_011DAA01_011EE053,
   0x011EF901_011F0040_011F1101_011F1240_011F3B01_011F3E40_011F5B01_011FB04F_011FB101_011FC092,
   0x011FF201_011FFF92_012000A6_01239A01_012400A6_01246F01_012470A6_01247501_012480A6_01254401,
   0x012F901B_012FF301_01300023_01345601_01346023_0143FB01_01440038_01464701_01610030_01613A01,
   0x0168000A_016A3901_016A405E_016A5F01_016A605E_016A6A01_016A6E5E_016A709C_016ABF01_016AC09C,
   0x016ACA01_016AD00B_016AEE01_016AF00B_016AF601_016B0039_016B4601_016B5039_016B5A01_016B5B39,
   0x016B6201_016B6339_016B7801_016B7D39_016B9001_016D4046_016D7A01_016E4057_016E9B01_016F0078,
   0x016F4B01_016F4F78_016F8801_016F8F78_016FA001_016FE093_016FE168_016FE233_016FE444_016FE501,
   0x016FF033_016FF201_01700093_0187F801_01880093_018B0044_018CD601_018CFF44_018D0093_018D0901,
   0x01AFF03F_01AFF401_01AFF53F_01AFFC01_01AFFD3F_01AFFF01_01B0003F_01B00137_01B1203F_01B12301,
   0x01B13237_01B13301_01B15037_01B15301_01B1553F_01B15601_01B1643F_01B16801_01B17068_01B2FC01,
   0x01BC0022_01BC6B01_01BC7022_01BC7D01_01BC8022_01BC8901_01BC9022_01BC9A01_01BC9C22_01BCA0AB,
   0x01BCA401_01CC00AB_01CCFA01_01CD00AB_01CEB401_01CF00AA_01CF2E01_01CF30AA_01CF4701_01CF50AB,
   0x01CFC401_01D000AB_01D0F601_01D100AB_01D12701_01D129AB_01D167AA_01D16AAB_01D17BAA_01D183AB,
   0x01D185AA_01D18CAB_01D1AAAA_01D1AEAB_01D1EB01_01D2002E_01D24601_01D2C0AB_01D2D401_01D2E0AB,
   0x01D2F401_01D300AB_01D35701_01D360AB_01D37901_01D400AB_01D45501_01D456AB_01D49D01_01D49EAB,
   0x01D4A001_01D4A2AB_01D4A301_01D4A5AB_01D4A701_01D4A9AB_01D4AD01_01D4AEAB_01D4BA01_01D4BBAB,
   0x01D4BC01_01D4BDAB_01D4C401_01D4C5AB_01D50601_01D507AB_01D50B01_01D50DAB_01D51501_01D516AB,
   0x01D51D01_01D51EAB_01D53A01_01D53BAB_01D53F01_01D540AB_01D54501_01D546AB_01D54701_01D54AAB,
   0x01D55101_01D552AB_01D6A601_01D6A8AB_01D7CC01_01D7CEAB_01D80080_01DA8C01_01DA9B80_01DAA001,
   0x01DAA180_01DAB001_01DF004A_01DF1F01_01DF254A_01DF2B01_01E00029_01E00701_01E00829_01E01901,
   0x01E01B29_01E02201_01E02329_01E02501_01E02629_01E02B01_01E0301D_01E06E01_01E08F1D_01E09001,
   0x01E1003A_01E12D01_01E1303A_01E13E01_01E1403A_01E14A01_01E14E3A_01E15001_01E2909E_01E2AF01,
   0x01E2C0A4_01E2FA01_01E2FFA4_01E30001_01E4D062_01E4FA01_01E5D06B_01E5FB01_01E5FF6B_01E60001,
   0x01E7E026_01E7E701_01E7E826_01E7EC01_01E7ED26_01E7EF01_01E7F026_01E7FF01_01E80058_01E8C501,
   0x01E8C758_01E8D701_01E90002_01E94C01_01E95002_01E95A01_01E95E02_01E96001_01EC71AB_01ECB501,
   0x01ED01AB_01ED3E01_01EE0005_01EE0401_01EE0505_01EE2001_01EE2105_01EE2301_01EE2405_01EE2501,
   0x01EE2705_01EE2801_01EE2905_01EE3301_01EE3405_01EE3801_01EE3905_01EE3A01_01EE3B05_01EE3C01,
   0x01EE4205_01EE4301_01EE4705_01EE4801_01EE4905_01EE4A01_01EE4B05_01EE4C01_01EE4D05_01EE5001,
   0x01EE5105_01EE5301_01EE5405_01EE5501_01EE5705_01EE5801_01EE5905_01EE5A01_01EE5B05_01EE5C01,
   0x01EE5D05_01EE5E01_01EE5F05_01EE6001_01EE6105_01EE6301_01EE6405_01EE6501_01EE6705_01EE6B01,
   0x01EE6C05_01EE7301_01EE7405_01EE7801_01EE7905_01EE7D01_01EE7E05_01EE7F01_01EE8005_01EE8A01,
   0x01EE8B05_01EE9C01_01EEA105_01EEA401_01EEA505_01EEAA01_01EEAB05_01EEBC01_01EEF005_01EEF201,
   0x01F000AB_01F02C01_01F030AB_01F09401_01F0A0AB_01F0AF01_01F0B1AB_01F0C001_01F0C1AB_01F0D001,
   0x01F0D1AB_01F0F601_01F100AB_01F1AE01_01F1E6AB_01F20037_01F201AB_01F20301_01F210AB_01F23C01,
   0x01F240AB_01F24901_01F250AB_01F25201_01F260AB_01F26601_01F300AB_01F6D801_01F6DCAB_01F6ED01,
   0x01F6F0AB_01F6FD01_01F700AB_01F77701_01F77BAB_01F7DA01_01F7E0AB_01F7EC01_01F7F0AB_01F7F101,
   0x01F800AB_01F80C01_01F810AB_01F84801_01F850AB_01F85A01_01F860AB_01F88801_01F890AB_01F8AE01,
   0x01F8B0AB_01F8BC01_01F8C0AB_01F8C201_01F900AB_01FA5401_01FA60AB_01FA6E01_01FA70AB_01FA7D01,
   0x01FA80AB_01FA8A01_01FA8FAB_01FAC701_01FACEAB_01FADD01_01FADFAB_01FAEA01_01FAF0AB_01FAF901,
   0x01FB00AB_01FB9301_01FB94AB_01FBFA01_02000033_02A6E001_02A70033_02B73A01_02B74033_02B81E01,
   0x02B82033_02CEA201_02CEB033_02EBE101_02EBF033_02EE5E01_02F80033_02FA1E01_03000033_03134B01,
   0x03135033_0323B001_0E0001AB_0E000201_0E0020AB_0E008001_0E0100AA_0E01F001]

/-- Ranges that a script is extended by: two digits for the script as in `scriptRows`, then the two ends. -/
def extensionRows : List Nat :=
  [0x0200061F00061F_02000640000640_0200204F00204F_02002E41002E41_03000304000304,
   0x03000331000331_0300035E00035E_0500060C00060C_0500061B00061B_0500061F00061F,
   0x05000640000640_0500064B000655_05000670000670_0500204F00204F_05002E41002E41,
   0x0500FD3E00FD3F_050102E00102FB_07000308000308_080000B70000B7_08002E30002E31,
   0x0D0002BC0002BC_0D000951000952_0D000964000965_0D001CD0001CD0_0D001CD2001CD2,
   0x0D001CD5001CD6_0D001CD8001CD8_0D001CE1001CE1_0D001CEA001CEA_0D001CED001CED,
   0x0D001CF2001CF2_0D001CF5001CF7_0D00A8F100A8F1_0F0002C70002C7_0F0002C90002CB,
   0x0F0002D90002D9_0F003001003003_0F003008003011_0F00301300301F_0F00302A00302D,
   0x0F003030003030_0F003037003037_0F0030FB0030FB_0F00FE4500FE46_0F00FF6100FF65,
   0x1200A9CF00A9CF_13001735001736_140009E60009EF_14001040001049_160000B70000B7,
   0x1600205A00205A_1600205D00205D_16002E31002E31_18000300000302_18000304000304,
   0x1800030B00030C_18000323000324_18000330000331_1A0000B70000B7_1A000300000300,
   0x1A000304000305_1A000307000307_1A000374000375_1A002E17002E17_1A0102E00102FB,
   0x1B010100010101_1C010100010102_1C010107010133_1C01013701013F_1D0002BC0002BC,
   0x1D000300000302_1D000304000304_1D000306000306_1D000308000308_1D00030B00030B,
   0x1D000311000311_1D000485000486_1D001DF8001DF8_1D002E43002E43_1E0002BC0002BC,
   0x1E000951000952_1E000964000965_1E001CD0001CF6_1E001CF8001CF9_1E0020F00020F0,
   0x1E00A83000A839_2000096400096F_2000A83000A839_220000B70000B7_22000307000308,
   0x2200030A00030A_22000323000324_22002E3C002E3C_2201BCA001BCA3_240000B70000B7,
   0x24000305000305_2600030E00030E_2700060C00060C_2700061B00061B_2700061F00061F,
   0x280000B70000B7_28000589000589_280010FB0010FB_2800205A00205A_28002E31002E31,
   0x290000B70000B7_29000303000303_29000305000305_29000484000484_29000487000487,
   0x29000589000589_290010FB0010FB_2900205A00205A_29002E43002E43_2900A66F00A66F,
   0x2A0000B70000B7_2A000964000965_2B000964000965_2C0000B70000B7_2C000304000305,
   0x2C000308000308_2C000331000331_2D000951000952_2D000964000965_2D000BE6000BF3,
   0x2D001CD0001CD0_2D001CD2001CD3_2D001CF2001CF4_2D001CF8001CF9_2D0020F00020F0,
   0x2D01133B01133B_2D011FD0011FD1_2D011FD3011FD3_2E0000B70000B7_2E000300000301,
   0x2E000304000304_2E000306000306_2E000308000308_2E000313000313_2E000342000342,
   0x2E000345000345_2E000374000374_2E001DC0001DC1_2E00205D00205D_2F000951000952,
   0x2F000964000965_2F00A83000A839_30000965000965_31000951000952_31000964000965,
   0x3100A83000A839_32003001003003_32003008003011_3200301300301F_32003030003030,
   0x32003037003037_320030FB0030FB_3200FE4500FE46_3200FF6100FF65_330000B70000B7,
   0x33002FF0002FFF_33003001003003_33003006003006_33003008003011_3300301300301F,
   0x3300302A00302D_33003030003030_33003037003037_3300303C00303F_330030FB0030FB,
   0x3300319000319F_330031C00031E5_330031EF0031EF_33003220003247_330032800032B0,
   0x330032C00032CB_330032FF0032FF_33003358003370_3300337B00337F_330033E00033FE,
   0x3300A70000A707_3300FE4500FE46_3300FF6100FF65_3301D36001D371_3301F25001F251,
   0x34001735001736_36000307000308_37003001003003_37003008003011_3700301300301F,
   0x37003030003035_37003037003037_3700303C00303D_3700309900309C_370030A00030A0,
   0x370030FB0030FC_3700FE4500FE46_3700FF6100FF65_3700FF7000FF70_3700FF9E00FF9F,
   0x3B00205A00205A_3B00205D00205D_3B002E31002E31_3B002E41002E41_3D00A9CF00A9CF,
   0x3E00A92E00A92E_3F000305000305_3F000323000323_3F003001003003_3F003008003011,
   0x3F00301300301F_3F003030003035_3F003037003037_3F00303C00303D_3F00309900309C,
   0x3F0030A00030A0_3F0030FB0030FC_3F00FE4500FE46_3F00FF6100FF65_3F00FF7000FF70,
   0x3F00FF9E00FF9F_43000AE6000AEF_4300A83000A839_45000951000952_45000964000965,
   0x45001CD0001CD0_45001CD2001CD3_45001CDA001CDA_45001CF2001CF2_45001CF4001CF4,
   0x4500A83000A835_4700096600096F_47002E31002E31_4700A83000A839_4A0000B70000B7,
   0x4A0002BC0002BC_4A0002C70002C7_4A0002C90002CB_4A0002CD0002CD_4A0002D70002D7,
   0x4A0002D90002D9_4A00030000030E_4A000310000311_4A000313000313_4A000323000325,
   0x4A00032D00032E_4A000330000331_4A000358000358_4A00035E00035E_4A00036300036F,
   0x4A000485000486_4A000951000952_4A0010FB0010FB_4A001DF8001DF8_4A00202F00202F,
   0x4A0020F00020F0_4A002E17002E17_4A00A70000A707_4A00A92E00A92E_4C000965000965,
   0x4D010107010133_4E010100010102_4E010107010133_4E01013701013F_4F0002BC0002BC,
   0x4F0002CD0002CD_4F00300A00300B_5000205A00205A_510000B70000B7_51002E31002E31,
   0x520000B70000B7_5200096400096F_5200A83000A839_54000640000640_55000640000640,
   0x5A00205D00205D_5B000951000952_5B000964000965_5B001CDA001CDA_5B001CF2001CF2,
   0x5B00A83000A832_5C00A83000A839_5D001802001803_5D001805001805_5D00202F00202F,
   0x5D003001003002_5D00300800300B_60000A66000A6F_6100A92E00A92E_63000951000951,
   0x63000964000965_63000CE6000CEF_63001CE9001CE9_63001CF2001CF2_63001CFA001CFA,
   0x6300A83000A835_66000951000952_66001CD5001CD5_66001CD7001CD8_66001CE2001CE2,
   0x66001CE9001CE9_66001CEB001CEB_66001CED001CED_6700060C00060C_6700061B00061B,
   0x6700061F00061F_6700FD3E00FD3F_6B000964000965_6C00205A00205A_6C002E30002E30,
   0x6D000951000952_6D000964000965_6D001CDA001CDA_6D001CF2001CF2_6E000301000301,
   0x6E000304000304_6E00030B00030B_6E000358000358_70000640000640_70010AF2010AF2,
   0x730000B70000B7_73000300000300_73000306000308_73000313000313_73000483000483,
   0x74001802001803_74001805001805_7400202F00202F_74003002003002_76000640000640,
   0x7B00060C00060C_7B00061B00061B_7B00061F00061F_7B000640000640_7B0006D40006D4,
   0x7C0016EB0016ED_7D002E31002E31_810000B70000B7_82000951000951_82001CD7001CD7,
   0x82001CD9001CD9_82001CDC001CDD_82001CE0001CE0_82001CEA001CEA_82001CED001CED,
   0x8200A83000A835_8200A83800A838_84000964000965_8400A83000A839_85000964000965,
   0x85001CF2001CF2_86000640000640_8B000300000301_8B000303000303_8B00030D00030D,
   0x8B000310000310_8B00032D00032D_8B000331000331_8C000964000965_8C0009E60009EF,
   0x8D000303000304_8D000307000308_8D00030A00030A_8D000323000325_8D00032D00032E,
   0x8D000330000331_8D00060C00060C_8D00061B00061C_8D00061F00061F_8D000640000640,
   0x8D00064B000655_8D000670000670_8D001DF8001DF8_8D001DFA001DFA_8E001735001736,
   0x8F000964000965_8F00A83000A839_90000300000301_90000307000308_9000030C00030C,
   0x90001040001049_92000951000952_92000964000965_92001CDA001CDA_9200A8F300A8F3,
   0x92011301011301_92011303011303_9201133B01133C_93002FF0002FFF_930031EF0031EF,
   0x95000951000952_95000964000965_95001CD5001CD6_95001CD8001CD8_95001CDA001CDA,
   0x95001CF2001CF2_96000302000302_96000304000304_96000306000309_96000323000323,
   0x97001735001736_9800060C00060C_9800061B00061C_9800061F00061F_98000660000669,
   0x9800FDF200FDF2_9800FDFD00FDFD_990002BC0002BC_990002D70002D7_99000303000303,
   0x99000331000331_9A00300800300B_9B000951000952_9B000964000965_9B001CD5001CD5,
   0x9B001CE2001CE2_9B001CF2001CF2_9B00A83000A839_9D000301000301_9D000304000304,
   0x9D000307000307_9D000311000311_9D000313000313_9D00035E00035E_9E0002BC0002BC,
   0x9F000CE6000CEF_9F001CF2001CF2_9F001CF4001CF4_9F00A83000A835_9F00A8F100A8F1,
   0xA700060C00060C_A700061B00061B_A700061F00061F_A7000660000669_A8003001003002,
   0xA8003008003011_A800301400301B_A80030FB0030FB_A800FF6100FF65]

/-- Ranges of a script whose extensions leave the script itself out. -/
def exclusionRows : List Nat :=
  [0xAA00030000030E_AA000310000311_AA000313000313_AA000323000325_AA00032D00032E,
   0xAA000330000331_AA000342000342_AA000345000345_AA000358000358_AA00035E00035E,
   0xAA00036300036F_AA000485000486_AA00064B000655_AA000670000670_AA000951000952,
   0xAA001CD0001CD2_AA001CD4001CE0_AA001CE2001CE8_AA001CED001CED_AA001CF4001CF4,
   0xAA001CF8001CF9_AA001DC0001DC1_AA001DF8001DF8_AA001DFA001DFA_AA0020F00020F0,
   0xAA00302A00302D_AA00309900309A_AA0102E00102E0_AA01133B01133B_AB0000B70000B7,
   0xAB0002BC0002BC_AB0002C70002C7_AB0002C90002CB_AB0002CD0002CD_AB0002D70002D7,
   0xAB0002D90002D9_AB000374000374_AB00060C00060C_AB00061B00061B_AB00061F00061F,
   0xAB000640000640_AB000964000965_AB0010FB0010FB_AB0016EB0016ED_AB001735001736,
   0xAB001802001803_AB001805001805_AB001CD3001CD3_AB001CE1001CE1_AB001CE9001CEC,
   0xAB001CEE001CF3_AB001CF5001CF7_AB001CFA001CFA_AB00202F00202F_AB00204F00204F,
   0xAB00205A00205A_AB00205D00205D_AB002E17002E17_AB002E30002E31_AB002E3C002E3C,
   0xAB002E41002E41_AB002E43002E43_AB002FF0002FFF_AB003001003003_AB003006003006,
   0xAB003008003011_AB00301300301F_AB003030003035_AB003037003037_AB00303C00303F,
   0xAB00309B00309C_AB0030A00030A0_AB0030FB0030FC_AB00319000319F_AB0031C00031E5,
   0xAB0031EF0031EF_AB003220003247_AB0032800032B0_AB0032C00032CB_AB0032FF0032FF,
   0xAB003358003370_AB00337B00337F_AB0033E00033FE_AB00A70000A707_AB00A83000A839,
   0xAB00A92E00A92E_AB00A9CF00A9CF_AB00FD3E00FD3F_AB00FE4500FE46_AB00FF6100FF65,
   0xAB00FF7000FF70_AB00FF9E00FF9F_AB010100010102_AB010107010133_AB01013701013F,
   0xAB0102E10102FB_AB01BCA001BCA3_AB01D36001D371_AB01F25001F251]

end TypedPattern.Unicode.Data
