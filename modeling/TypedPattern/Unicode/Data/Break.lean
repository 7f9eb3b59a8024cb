/-! The text segmentation properties of code points. -/

namespace TypedPattern.Unicode.Data

/-- The values of the property grapheme cluster break, each with its names, the long one last. -/
def graphemeBreakNames : List (List String) :=
  [["CR", "CR"],
   ["CN", "Control"],
   ["EX", "Extend"],
   ["L", "L"],
   ["LF", "LF"],
   ["LV", "LV"],
   ["LVT", "LVT"],
   ["XX", "Other"],
   ["PP", "Prepend"],
   ["RI", "Regional_Indicator"],
   ["SM", "SpacingMark"],
   ["T", "T"],
   ["V", "V"],
   ["ZWJ", "ZWJ"]]

/-- The grapheme cluster break of every code point, one more than its place in `graphemeBreakNames`. -/
def graphemeBreakRows : List Nat :=
  [0x00000002_00000A05_00000B02_00000D01_00000E02_00002008_00007F02_0000A008_0000AD02_0000AE08,
   0x00030003_00037008_00048303_00048A08_00059103_0005BE08_0005BF03_0005C008_0005C103_0005C308,
   0x0005C403_0005C608_0005C703_0005C808_00060009_00060608_00061003_00061B08_00061C02_00061D08,
   0x00064B03_00066008_00067003_00067108_0006D603_0006DD09_0006DE08_0006DF03_0006E508_0006E703,
   0x0006E908_0006EA03_0006EE08_00070F09_00071008_00071103_00071208_00073003_00074B08_0007A603,
   0x0007B108_0007EB03_0007F408_0007FD03_0007FE08_00081603_00081A08_00081B03_00082408_00082503,
   0x00082808_00082903_00082E08_00085903_00085C08_00089009_00089208_00089703_0008A008_0008CA03,
   0x0008E209_0008E303_0009030B_00090408_00093A03_00093B0B_00093C03_00093D08_00093E0B_00094103,
   0x0009490B_00094D03_00094E0B_00095008_00095103_00095808_00096203_00096408_00098103_0009820B,
   0x00098408_0009BC03_0009BD08_0009BE03_0009BF0B_0009C103_0009C508_0009C70B_0009C908_0009CB0B,
   0x0009CD03_0009CE08_0009D703_0009D808_0009E203_0009E408_0009FE03_0009FF08_000A0103_000A030B,
   0x000A0408_000A3C03_000A3D08_000A3E0B_000A4103_000A4308_000A4703_000A4908_000A4B03_000A4E08,
   0x000A5103_000A5208_000A7003_000A7208_000A7503_000A7608_000A8103_000A830B_000A8408_000ABC03,
   0x000ABD08_000ABE0B_000AC103_000AC608_000AC703_000AC90B_000ACA08_000ACB0B_000ACD03_000ACE08,
   0x000AE203_000AE408_000AFA03_000B0008_000B0103_000B020B_000B0408_000B3C03_000B3D08_000B3E03,
   0x000B400B_000B4103_000B4508_000B470B_000B4908_000B4B0B_000B4D03_000B4E08_000B5503_000B5808,
   0x000B6203_000B6408_000B8203_000B8308_000BBE03_000BBF0B_000BC003_000BC10B_000BC308_000BC60B,
   0x000BC908_000BCA0B_000BCD03_000BCE08_000BD703_000BD808_000C0003_000C010B_000C0403_000C0508,
   0x000C3C03_000C3D08_000C3E03_000C410B_000C4508_000C4603_000C4908_000C4A03_000C4E08_000C5503,
   0x000C5708_000C6203_000C6408_000C8103_000C820B_000C8408_000CBC03_000CBD08_000CBE0B_000CBF03,
   0x000CC00B_000CC203_000CC30B_000CC508_000CC603_000CC70B_000CC908_000CCA0B_000CCC03_000CCE08,
   0x000CD503_000CD708_000CE203_000CE408_000CF30B_000CF408_000D0003_000D020B_000D0408_000D3B03,
   0x000D3D08_000D3E03_000D3F0B_000D4103_000D4508_000D460B_000D4908_000D4A0B_000D4D03_000D4E09,
   0x000D4F08_000D5703_000D5808_000D6203_000D6408_000D8103_000D820B_000D8408_000DCA03_000DCB08,
   0x000DCF03_000DD00B_000DD203_000DD508_000DD603_000DD708_000DD80B_000DDF03_000DE008_000DF20B,
   0x000DF408_000E3103_000E3208_000E330B_000E3403_000E3B08_000E4703_000E4F08_000EB103_000EB208,
   0x000EB30B_000EB403_000EBD08_000EC803_000ECF08_000F1803_000F1A08_000F3503_000F3608_000F3703,
   0x000F3808_000F3903_000F3A08_000F3E0B_000F4008_000F7103_000F7F0B_000F8003_000F8508_000F8603,
   0x000F8808_000F8D03_000F9808_000F9903_000FBD08_000FC603_000FC708_00102D03_0010310B_00103203,
   0x00103808_00103903_00103B0B_00103D03_00103F08_0010560B_00105803_00105A08_00105E03_00106108,
   0x00107103_00107508_00108203_00108308_0010840B_00108503_00108708_00108D03_00108E08_00109D03,
   0x00109E08_00110004_0011600D_0011A80C_00120008_00135D03_00136008_00171203_0017150B_00171608,
   0x00173203_0017340B_00173508_00175203_00175408_00177203_00177408_0017B403_0017B60B_0017B703,
   0x0017BE0B_0017C603_0017C70B_0017C903_0017D408_0017DD03_0017DE08_00180B03_00180E02_00180F03,
   0x00181008_00188503_00188708_0018A903_0018AA08_00192003_0019230B_00192703_0019290B_00192C08,
   0x0019300B_00193203_0019330B_00193903_00193C08_001A1703_001A190B_001A1B03_001A1C08_001A550B,
   0x001A5603_001A570B_001A5803_001A5F08_001A6003_001A6108_001A6203_001A6308_001A6503_001A6D0B,
   0x001A7303_001A7D08_001A7F03_001A8008_001AB003_001ACF08_001B0003_001B040B_001B0508_001B3403,
   0x001B3B0B_001B3C03_001B3D0B_001B4203_001B430B_001B4508_001B6B03_001B7408_001B8003_001B820B,
   0x001B8308_001BA10B_001BA203_001BA60B_001BA803_001BAA0B_001BAB03_001BAE08_001BE603_001BE70B,
   0x001BE803_001BEA0B_001BED03_001BEE0B_001BEF03_001BF20B_001BF408_001C240B_001C2C03_001C340B,
   0x001C3603_001C3808_001CD003_001CD308_001CD403_001CE10B_001CE203_001CE908_001CED03_001CEE08,
   0x001CF403_001CF508_001CF70B_001CF803_001CFA08_001DC003_001E0008_00200B02_00200C03_00200D0E,
   0x00200E02_00201008_00202802_00202F08_00206002_00207008_0020D003_0020F108_002CEF03_002CF208,
   0x002D7F03_002D8008_002DE003_002E0008_00302A03_00303008_00309903_00309B08_00A66F03_00A67308,
   0x00A67403_00A67E08_00A69E03_00A6A008_00A6F003_00A6F208_00A80203_00A80308_00A80603_00A80708,
   0x00A80B03_00A80C08_00A8230B_00A82503_00A8270B_00A82808_00A82C03_00A82D08_00A8800B_00A88208,
   0x00A8B40B_00A8C403_00A8C608_00A8E003_00A8F208_00A8FF03_00A90008_00A92603_00A92E08_00A94703,
   0x00A9520B_00A95408_00A96004_00A97D08_00A98003_00A9830B_00A98408_00A9B303_00A9B40B_00A9B603,
   0x00A9BA0B_00A9BC03_00A9BE0B_00A9C108_00A9E503_00A9E608_00AA2903_00AA2F0B_00AA3103_00AA330B,
   0x00AA3503_00AA3708_00AA4303_00AA4408_00AA4C03_00AA4D0B_00AA4E08_00AA7C03_00AA7D08_00AAB003,
   0x00AAB108_00AAB203_00AAB508_00AAB703_00AAB908_00AABE03_00AAC008_00AAC103_00AAC208_00AAEB0B,
   0x00AAEC03_00AAEE0B_00AAF008_00AAF50B_00AAF603_00AAF708_00ABE30B_00ABE503_00ABE60B_00ABE803,
   0x00ABE90B_00ABEB08_00ABEC0B_00ABED03_00ABEE08_00AC0006_00AC0107_00AC1C06_00AC1D07_00AC3806,
   0x00AC3907_00AC5406_00AC5507_00AC7006_00AC7107_00AC8C06_00AC8D07_00ACA806_00ACA907_00ACC406,
   0x00ACC507_00ACE006_00ACE107_00ACFC06_00ACFD07_00AD1806_00AD1907_00AD3406_00AD3507_00AD5006,
   0x00AD5107_00AD6C06_00AD6D07_00AD8806_00AD8907_00ADA406_00ADA507_00ADC006_00ADC107_00ADDC06,
   0x00ADDD07_00ADF806_00ADF907_00AE1406_00AE1507_00AE3006_00AE3107_00AE4C06_00AE4D07_00AE6806,
   0x00AE6907_00AE8406_00AE8507_00AEA006_00AEA107_00AEBC06_00AEBD07_00AED806_00AED907_00AEF406,
   0x00AEF507_00AF1006_00AF1107_00AF2C06_00AF2D07_00AF4806_00AF4907_00AF6406_00AF6507_00AF8006,
   0x00AF8107_00AF9C06_00AF9D07_00AFB806_00AFB907_00AFD406_00AFD507_00AFF006_00AFF107_00B00C06,
   0x00B00D07_00B02806_00B02907_00B04406_00B04507_00B06006_00B06107_00B07C06_00B07D07_00B09806,
   0x00B09907_00B0B406_00B0B507_00B0D006_00B0D107_00B0EC06_00B0ED07_00B10806_00B10907_00B12406,
   0x00B12507_00B14006_00B14107_00B15C06_00B15D07_00B17806_00B17907_00B19406_00B19507_00B1B006,
   0x00B1B107_00B1CC06_00B1CD07_00B1E806_00B1E907_00B20406_00B20507_00B22006_00B22107_00B23C06,
   0x00B23D07_00B25806_00B25907_00B27406_00B27507_00B29006_00B29107_00B2AC06_00B2AD07_00B2C806,
   0x00B2C907_00B2E406_00B2E507_00B30006_00B30107_00B31C06_00B31D07_00B33806_00B33907_00B35406,
   0x00B35507_00B37006_00B37107_00B38C06_00B38D07_00B3A806_00B3A907_00B3C406_00B3C507_00B3E006,
   0x00B3E107_00B3FC06_00B3FD07_00B41806_00B41907_00B43406_00B43507_00B45006_00B45107_00B46C06,
   0x00B46D07_00B48806_00B48907_00B4A406_00B4A507_00B4C006_00B4C107_00B4DC06_00B4DD07_00B4F806,
   0x00B4F907_00B51406_00B51507_00B53006_00B53107_00B54C06_00B54D07_00B56806_00B56907_00B58406,
   0x00B58507_00B5A006_00B5A107_00B5BC06_00B5BD07_00B5D806_00B5D907_00B5F406_00B5F507_00B61006,
   0x00B61107_00B62C06_00B62D07_00B64806_00B64907_00B66406_00B66507_00B68006_00B68107_00B69C06,
   0x00B69D07_00B6B806_00B6B907_00B6D406_00B6D507_00B6F006_00B6F107_00B70C06_00B70D07_00B72806,
   0x00B72907_00B74406_00B74507_00B76006_00B76107_00B77C06_00B77D07_00B79806_00B79907_00B7B406,
   0x00B7B507_00B7D006_00B7D107_00B7EC06_00B7ED07_00B80806_00B80907_00B82406_00B82507_00B84006,
   0x00B84107_00B85C06_00B85D07_00B87806_00B87907_00B89406_00B89507_00B8B006_00B8B107_00B8CC06,
   0x00B8CD07_00B8E806_00B8E907_00B90406_00B90507_00B92006_00B92107_00B93C06_00B93D07_00B95806,
   0x00B95907_00B97406_00B97507_00B99006_00B99107_00B9AC06_00B9AD07_00B9C806_00B9C907_00B9E406,
   0x00B9E507_00BA0006_00BA0107_00BA1C06_00BA1D07_00BA3806_00BA3907_00BA5406_00BA5507_00BA7006,
   0x00BA7107_00BA8C06_00BA8D07_00BAA806_00BAA907_00BAC406_00BAC507_00BAE006_00BAE107_00BAFC06,
   0x00BAFD07_00BB1806_00BB1907_00BB3406_00BB3507_00BB5006_00BB5107_00BB6C06_00BB6D07_00BB8806,
   0x00BB8907_00BBA406_00BBA507_00BBC006_00BBC107_00BBDC06_00BBDD07_00BBF806_00BBF907_00BC1406,
   0x00BC1507_00BC3006_00BC3107_00BC4C06_00BC4D07_00BC6806_00BC6907_00BC8406_00BC8507_00BCA006,
   0x00BCA107_00BCBC06_00BCBD07_00BCD806_00BCD907_00BCF406_00BCF507_00BD1006_00BD1107_00BD2C06,
   0x00BD2D07_00BD4806_00BD4907_00BD6406_00BD6507_00BD8006_00BD8107_00BD9C06_00BD9D07_00BDB806,
   0x00BDB907_00BDD406_00BDD507_00BDF006_00BDF107_00BE0C06_00BE0D07_00BE2806_00BE2907_00BE4406,
   0x00BE4507_00BE6006_00BE6107_00BE7C06_00BE7D07_00BE9806_00BE9907_00BEB406_00BEB507_00BED006,
   0x00BED107_00BEEC06_00BEED07_00BF0806_00BF0907_00BF2406_00BF2507_00BF4006_00BF4107_00BF5C06,
   0x00BF5D07_00BF7806_00BF7907_00BF9406_00BF9507_00BFB006_00BFB107_00BFCC06_00BFCD07_00BFE806,
   0x00BFE907_00C00406_00C00507_00C02006_00C02107_00C03C06_00C03D07_00C05806_00C05907_00C07406,
   0x00C07507_00C09006_00C09107_00C0AC06_00C0AD07_00C0C806_00C0C907_00C0E406_00C0E507_00C10006,
   0x00C10107_00C11C06_00C11D07_00C13806_00C13907_00C15406_00C15507_00C17006_00C17107_00C18C06,
   0x00C18D07_00C1A806_00C1A907_00C1C406_00C1C507_00C1E006_00C1E107_00C1FC06_00C1FD07_00C21806,
   0x00C21907_00C23406_00C23507_00C25006_00C25107_00C26C06_00C26D07_00C28806_00C28907_00C2A406,
   0x00C2A507_00C2C006_00C2C107_00C2DC06_00C2DD07_00C2F806_00C2F907_00C31406_00C31507_00C33006,
   0x00C33107_00C34C06_00C34D07_00C36806_00C36907_00C38406_00C38507_00C3A006_00C3A107_00C3BC06,
   0x00C3BD07_00C3D806_00C3D907_00C3F406_00C3F507_00C41006_00C41107_00C42C06_00C42D07_00C44806,
   0x00C44907_00C46406_00C46507_00C48006_00C48107_00C49C06_00C49D07_00C4B806_00C4B907_00C4D406,
   0x00C4D507_00C4F006_00C4F107_00C50C06_00C50D07_00C52806_00C52907_00C54406_00C54507_00C56006,
   0x00C56107_00C57C06_00C57D07_00C59806_00C59907_00C5B406_00C5B507_00C5D006_00C5D107_00C5EC06,
   0x00C5ED07_00C60806_00C60907_00C62406_00C62507_00C64006_00C64107_00C65C06_00C65D07_00C67806,
   0x00C67907_00C69406_00C69507_00C6B006_00C6B107_00C6CC06_00C6CD07_00C6E806_00C6E907_00C70406,
   0x00C70507_00C72006_00C72107_00C73C06_00C73D07_00C75806_00C75907_00C77406_00C77507_00C79006,
   0x00C79107_00C7AC06_00C7AD07_00C7C806_00C7C907_00C7E406_00C7E507_00C80006_00C80107_00C81C06,
   0x00C81D07_00C83806_00C83907_00C85406_00C85507_00C87006_00C87107_00C88C06_00C88D07_00C8A806,
   0x00C8A907_00C8C406_00C8C507_00C8E006_00C8E107_00C8FC06_00C8FD07_00C91806_00C91907_00C93406,
   0x00C93507_00C95006_00C95107_00C96C06_00C96D07_00C98806_00C98907_00C9A406_00C9A507_00C9C006,
   0x00C9C107_00C9DC06_00C9DD07_00C9F806_00C9F907_00CA1406_00CA1507_00CA3006_00CA3107_00CA4C06,
   0x00CA4D07_00CA6806_00CA6907_00CA8406_00CA8507_00CAA006_00CAA107_00CABC06_00CABD07_00CAD806,
   0x00CAD907_00CAF406_00CAF507_00CB1006_00CB1107_00CB2C06_00CB2D07_00CB4806_00CB4907_00CB6406,
   0x00CB6507_00CB8006_00CB8107_00CB9C06_00CB9D07_00CBB806_00CBB907_00CBD406_00CBD507_00CBF006,
   0x00CBF107_00CC0C06_00CC0D07_00CC2806_00CC2907_00CC4406_00CC4507_00CC6006_00CC6107_00CC7C06,
   0x00CC7D07_00CC9806_00CC9907_00CCB406_00CCB507_00CCD006_00CCD107_00CCEC06_00CCED07_00CD0806,
   0x00CD0907_00CD2406_00CD2507_00CD4006_00CD4107_00CD5C06_00CD5D07_00CD7806_00CD7907_00CD9406,
   0x00CD9507_00CDB006_00CDB107_00CDCC06_00CDCD07_00CDE806_00CDE907_00CE0406_00CE0507_00CE2006,
   0x00CE2107_00CE3C06_00CE3D07_00CE5806_00CE5907_00CE7406_00CE7507_00CE9006_00CE9107_00CEAC06,
   0x00CEAD07_00CEC806_00CEC907_00CEE406_00CEE507_00CF0006_00CF0107_00CF1C06_00CF1D07_00CF3806,
   0x00CF3907_00CF5406_00CF5507_00CF7006_00CF7107_00CF8C06_00CF8D07_00CFA806_00CFA907_00CFC406,
   0x00CFC507_00CFE006_00CFE107_00CFFC06_00CFFD07_00D01806_00D01907_00D03406_00D03507_00D05006,
   0x00D05107_00D06C06_00D06D07_00D08806_00D08907_00D0A406_00D0A507_00D0C006_00D0C107_00D0DC06,
   0x00D0DD07_00D0F806_00D0F907_00D11406_00D11507_00D13006_00D13107_00D14C06_00D14D07_00D16806,
   0x00D16907_00D18406_00D18507_00D1A006_00D1A107_00D1BC06_00D1BD07_00D1D806_00D1D907_00D1F406,
   0x00D1F507_00D21006_00D21107_00D22C06_00D22D07_00D24806_00D24907_00D26406_00D26507_00D28006,
   0x00D28107_00D29C06_00D29D07_00D2B806_00D2B907_00D2D406_00D2D507_00D2F006_00D2F107_00D30C06,
   0x00D30D07_00D32806_00D32907_00D34406_00D34507_00D36006_00D36107_00D37C06_00D37D07_00D39806,
   0x00D39907_00D3B406_00D3B507_00D3D006_00D3D107_00D3EC06_00D3ED07_00D40806_00D40907_00D42406,
   0x00D42507_00D44006_00D44107_00D45C06_00D45D07_00D47806_00D47907_00D49406_00D49507_00D4B006,
   0x00D4B107_00D4CC06_00D4CD07_00D4E806_00D4E907_00D50406_00D50507_00D52006_00D52107_00D53C06,
   0x00D53D07_00D55806_00D55907_00D57406_00D57507_00D59006_00D59107_00D5AC06_00D5AD07_00D5C806,
   0x00D5C907_00D5E406_00D5E507_00D60006_00D60107_00D61C06_00D61D07_00D63806_00D63907_00D65406,
   0x00D65507_00D67006_00D67107_00D68C06_00D68D07_00D6A806_00D6A907_00D6C406_00D6C507_00D6E006,
   0x00D6E107_00D6FC06_00D6FD07_00D71806_00D71907_00D73406_00D73507_00D75006_00D75107_00D76C06,
   0x00D76D07_00D78806_00D78907_00D7A408_00D7B00D_00D7C708_00D7CB0C_00D7FC08_00FB1E03_00FB1F08,
   0x00FE0003_00FE1008_00FE2003_00FE3008_00FEFF02_00FF0008_00FF9E03_00FFA008_00FFF002_00FFFC08,
   0x0101FD03_0101FE08_0102E003_0102E108_01037603_01037B08_010A0103_010A0408_010A0503_010A0708,
   0x010A0C03_010A1008_010A3803_010A3B08_010A3F03_010A4008_010AE503_010AE708_010D2403_010D2808,
   0x010D6903_010D6E08_010EAB03_010EAD08_010EFC03_010F0008_010F4603_010F5108_010F8203_010F8608,
   0x0110000B_01100103_0110020B_01100308_01103803_01104708_01107003_01107108_01107303_01107508,
   0x01107F03_0110820B_01108308_0110B00B_0110B303_0110B70B_0110B903_0110BB08_0110BD09_0110BE08,
   0x0110C203_0110C308_0110CD09_0110CE08_01110003_01110308_01112703_01112C0B_01112D03_01113508,
   0x0111450B_01114708_01117303_01117408_01118003_0111820B_01118308_0111B30B_0111B603_0111BF0B,
   0x0111C108_0111C209_0111C408_0111C903_0111CD08_0111CE0B_0111CF03_0111D008_01122C0B_01122F03,
   0x0112320B_01123403_0112350B_01123603_01123808_01123E03_01123F08_01124103_01124208_0112DF03,
   0x0112E00B_0112E303_0112EB08_01130003_0113020B_01130408_01133B03_01133D08_01133E03_01133F0B,
   0x01134003_0113410B_01134508_0113470B_01134908_01134B0B_01134E08_01135703_01135808_0113620B,
   0x01136408_01136603_01136D08_01137003_01137508_0113B803_0113B90B_0113BB03_0113C108_0113C203,
   0x0113C308_0113C503_0113C608_0113C703_0113CA0B_0113CB08_0113CC0B_0113CE03_0113D109_0113D203,
   0x0113D308_0113E103_0113E308_0114350B_01143803_0114400B_01144203_0114450B_01144603_01144708,
   0x01145E03_01145F08_0114B003_0114B10B_0114B303_0114B90B_0114BA03_0114BB0B_0114BD03_0114BE0B,
   0x0114BF03_0114C10B_0114C203_0114C408_0115AF03_0115B00B_0115B203_0115B608_0115B80B_0115BC03,
   0x0115BE0B_0115BF03_0115C108_0115DC03_0115DE08_0116300B_01163303_01163B0B_01163D03_01163E0B,
   0x01163F03_01164108_0116AB03_0116AC0B_0116AD03_0116AE0B_0116B003_0116B60B_0116B703_0116B808,
   0x01171D03_01172008_01172203_0117260B_01172703_01172C08_01182C0B_01182F03_0118380B_01183903,
   0x01183B08_01193003_0119310B_01193608_0119370B_01193908_01193B03_01193D0B_01193E03_01193F09,
   0x0119400B_01194109_0119420B_01194303_01194408_0119D10B_0119D403_0119D808_0119DA03_0119DC0B,
   0x0119E003_0119E108_0119E40B_0119E508_011A0103_011A0B08_011A3303_011A390B_011A3A09_011A3B03,
   0x011A3F08_011A4703_011A4808_011A5103_011A570B_011A5903_011A5C08_011A8409_011A8A03_011A970B,
   0x011A9803_011A9A08_011C2F0B_011C3003_011C3708_011C3803_011C3E0B_011C3F03_011C4008_011C9203,
   0x011CA808_011CA90B_011CAA03_011CB10B_011CB203_011CB40B_011CB503_011CB708_011D3103_011D3708,
   0x011D3A03_011D3B08_011D3C03_011D3E08_011D3F03_011D4609_011D4703_011D4808_011D8A0B_011D8F08,
   0x011D9003_011D9208_011D930B_011D9503_011D960B_011D9703_011D9808_011EF303_011EF50B_011EF708,
   0x011F0003_011F0209_011F030B_011F0408_011F340B_011F3603_011F3B08_011F3E0B_011F4003_011F410B,
   0x011F4203_011F4308_011F5A03_011F5B08_01343002_01344003_01344108_01344703_01345608_01611E03,
   0x01612A0B_01612D03_01613008_016AF003_016AF508_016B3003_016B3708_016F4F03_016F5008_016F510B,
   0x016F8808_016F8F03_016F9308_016FE403_016FE508_016FF00B_016FF208_01BC9D03_01BC9F08_01BCA002,
   0x01BCA408_01CF0003_01CF2E08_01CF3003_01CF4708_01D16503_01D1660B_01D16703_01D16A08_01D16D0B,
   0x01D16E03_01D17302_01D17B03_01D18308_01D18503_01D18C08_01D1AA03_01D1AE08_01D24203_01D24508,
   0x01DA0003_01DA3708_01DA3B03_01DA6D08_01DA7503_01DA7608_01DA8403_01DA8508_01DA9B03_01DAA008,
   0x01DAA103_01DAB008_01E00003_01E00708_01E00803_01E01908_01E01B03_01E02208_01E02303_01E02508,
   0x01E02603_01E02B08_01E08F03_01E09008_01E13003_01E13708_01E2AE03_01E2AF08_01E2EC03_01E2F008,
   0x01E4EC03_01E4F008_01E5EE03_01E5F008_01E8D003_01E8D708_01E94403_01E94B08_01F1E60A_01F20008,
   0x01F3FB03_01F40008_0E000002_0E002003_0E008002_0E010003_0E01F002_0E100008]

/-- The values of the property word break, each with its names, the long one last. -/
def wordBreakNames : List (List String) :=
  [["LE", "ALetter"],
   ["CR", "CR"],
   ["DQ", "Double_Quote"],
   ["Extend", "Extend"],
   ["EX", "ExtendNumLet"],
   ["FO", "Format"],
   ["HL", "Hebrew_Letter"],
   ["KA", "Katakana"],
   ["LF", "LF"],
   ["ML", "MidLetter"],
   ["MN", "MidNum"],
   ["MB", "MidNumLet"],
   ["NL", "Newline"],
   ["NU", "Numeric"],
   ["XX", "Other"],
   ["RI", "Regional_Indicator"],
   ["SQ", "Single_Quote"],
   ["WSegSpace", "WSegSpace"],
   ["ZWJ", "ZWJ"]]

/-- The word break of every code point, one more than its place in `wordBreakNames`. -/
def wordBreakRows : List Nat :=
  [0x0000000F_00000A09_00000B0D_00000D02_00000E0F_00002012_0000210F_00002203_0000230F_00002711,
   0x0000280F_00002C0B_00002D0F_00002E0C_00002F0F_0000300E_00003A0A_00003B0B_00003C0F_00004101,
   0x00005B0F_00005F05_0000600F_00006101_00007B0F_0000850D_0000860F_0000AA01_0000AB0F_0000AD06,
   0x0000AE0F_0000B501_0000B60F_0000B70A_0000B80F_0000BA01_0000BB0F_0000C001_0000D70F_0000D801,
   0x0000F70F_0000F801_0002D80F_0002DE01_00030004_00037001_0003750F_00037601_0003780F_00037A01,
   0x00037E0B_00037F01_0003800F_00038601_0003870A_00038801_00038B0F_00038C01_00038D0F_00038E01,
   0x0003A20F_0003A301_0003F60F_0003F701_0004820F_00048304_00048A01_0005300F_00053101_0005570F,
   0x00055901_00055D0F_00055E01_00055F0A_00056001_0005890B_00058A01_00058B0F_00059104_0005BE0F,
   0x0005BF04_0005C00F_0005C104_0005C30F_0005C404_0005C60F_0005C704_0005C80F_0005D007_0005EB0F,
   0x0005EF07_0005F301_0005F40A_0005F50F_00060006_0006060F_00060C0B_00060E0F_00061004_00061B0F,
   0x00061C06_00061D0F_00062001_00064B04_0006600E_00066A0F_00066B0E_00066C0B_00066D0F_00066E01,
   0x00067004_00067101_0006D40F_0006D501_0006D604_0006DD06_0006DE0F_0006DF04_0006E501_0006E704,
   0x0006E90F_0006EA04_0006EE01_0006F00E_0006FA01_0006FD0F_0006FF01_0007000F_00070F06_00071001,
   0x00071104_00071201_00073004_00074B0F_00074D01_0007A604_0007B101_0007B20F_0007C00E_0007CA01,
   0x0007EB04_0007F401_0007F60F_0007F80B_0007F90F_0007FA01_0007FB0F_0007FD04_0007FE0F_00080001,
   0x00081604_00081A01_00081B04_00082401_00082504_00082801_00082904_00082E0F_00084001_00085904,
   0x00085C0F_00086001_00086B0F_00087001_0008880F_00088901_00088F0F_00089006_0008920F_00089704,
   0x0008A001_0008CA04_0008E206_0008E304_00090401_00093A04_00093D01_00093E04_00095001_00095104,
   0x00095801_00096204_0009640F_0009660E_0009700F_00097101_00098104_0009840F_00098501_00098D0F,
   0x00098F01_0009910F_00099301_0009A90F_0009AA01_0009B10F_0009B201_0009B30F_0009B601_0009BA0F,
   0x0009BC04_0009BD01_0009BE04_0009C50F_0009C704_0009C90F_0009CB04_0009CE01_0009CF0F_0009D704,
   0x0009D80F_0009DC01_0009DE0F_0009DF01_0009E204_0009E40F_0009E60E_0009F001_0009F20F_0009FC01,
   0x0009FD0F_0009FE04_0009FF0F_000A0104_000A040F_000A0501_000A0B0F_000A0F01_000A110F_000A1301,
   0x000A290F_000A2A01_000A310F_000A3201_000A340F_000A3501_000A370F_000A3801_000A3A0F_000A3C04,
   0x000A3D0F_000A3E04_000A430F_000A4704_000A490F_000A4B04_000A4E0F_000A5104_000A520F_000A5901,
   0x000A5D0F_000A5E01_000A5F0F_000A660E_000A7004_000A7201_000A7504_000A760F_000A8104_000A840F,
   0x000A8501_000A8E0F_000A8F01_000A920F_000A9301_000AA90F_000AAA01_000AB10F_000AB201_000AB40F,
   0x000AB501_000ABA0F_000ABC04_000ABD01_000ABE04_000AC60F_000AC704_000ACA0F_000ACB04_000ACE0F,
   0x000AD001_000AD10F_000AE001_000AE204_000AE40F_000AE60E_000AF00F_000AF901_000AFA04_000B000F,
   0x000B0104_000B040F_000B0501_000B0D0F_000B0F01_000B110F_000B1301_000B290F_000B2A01_000B310F,
   0x000B3201_000B340F_000B3501_000B3A0F_000B3C04_000B3D01_000B3E04_000B450F_000B4704_000B490F,
   0x000B4B04_000B4E0F_000B5504_000B580F_000B5C01_000B5E0F_000B5F01_000B6204_000B640F_000B660E,
   0x000B700F_000B7101_000B720F_000B8204_000B8301_000B840F_000B8501_000B8B0F_000B8E01_000B910F,
   0x000B9201_000B960F_000B9901_000B9B0F_000B9C01_000B9D0F_000B9E01_000BA00F_000BA301_000BA50F,
   0x000BA801_000BAB0F_000BAE01_000BBA0F_000BBE04_000BC30F_000BC604_000BC90F_000BCA04_000BCE0F,
   0x000BD001_000BD10F_000BD704_000BD80F_000BE60E_000BF00F_000C0004_000C0501_000C0D0F_000C0E01,
   0x000C110F_000C1201_000C290F_000C2A01_000C3A0F_000C3C04_000C3D01_000C3E04_000C450F_000C4604,
   0x000C490F_000C4A04_000C4E0F_000C5504_000C570F_000C5801_000C5B0F_000C5D01_000C5E0F_000C6001,
   0x000C6204_000C640F_000C660E_000C700F_000C8001_000C8104_000C840F_000C8501_000C8D0F_000C8E01,
   0x000C910F_000C9201_000CA90F_000CAA01_000CB40F_000CB501_000CBA0F_000CBC04_000CBD01_000CBE04,
   0x000CC50F_000CC604_000CC90F_000CCA04_000CCE0F_000CD504_000CD70F_000CDD01_000CDF0F_000CE001,
   0x000CE204_000CE40F_000CE60E_000CF00F_000CF101_000CF304_000CF40F_000D0004_000D0401_000D0D0F,
   0x000D0E01_000D110F_000D1201_000D3B04_000D3D01_000D3E04_000D450F_000D4604_000D490F_000D4A04,
   0x000D4E01_000D4F0F_000D5401_000D5704_000D580F_000D5F01_000D6204_000D640F_000D660E_000D700F,
   0x000D7A01_000D800F_000D8104_000D840F_000D8501_000D970F_000D9A01_000DB20F_000DB301_000DBC0F,
   0x000DBD01_000DBE0F_000DC001_000DC70F_000DCA04_000DCB0F_000DCF04_000DD50F_000DD604_000DD70F,
   0x000DD804_000DE00F_000DE60E_000DF00F_000DF204_000DF40F_000E3104_000E320F_000E3404_000E3B0F,
   0x000E4704_000E4F0F_000E500E_000E5A0F_000EB104_000EB20F_000EB404_000EBD0F_000EC804_000ECF0F,
   0x000ED00E_000EDA0F_000F0001_000F010F_000F1804_000F1A0F_000F200E_000F2A0F_000F3504_000F360F,
   0x000F3704_000F380F_000F3904_000F3A0F_000F3E04_000F4001_000F480F_000F4901_000F6D0F_000F7104,
   0x000F850F_000F8604_000F8801_000F8D04_000F980F_000F9904_000FBD0F_000FC604_000FC70F_00102B04,
   0x00103F0F_0010400E_00104A0F_00105604_00105A0F_00105E04_0010610F_00106204_0010650F_00106704,
   0x00106E0F_00107104_0010750F_00108204_00108E0F_00108F04_0010900E_00109A04_00109E0F_0010A001,
   0x0010C60F_0010C701_0010C80F_0010CD01_0010CE0F_0010D001_0010FB0F_0010FC01_0012490F_00124A01,
   0x00124E0F_00125001_0012570F_00125801_0012590F_00125A01_00125E0F_00126001_0012890F_00128A01,
   0x00128E0F_00129001_0012B10F_0012B201_0012B60F_0012B801_0012BF0F_0012C001_0012C10F_0012C201,
   0x0012C60F_0012C801_0012D70F_0012D801_0013110F_00131201_0013160F_00131801_00135B0F_00135D04,
   0x0013600F_00138001_0013900F_0013A001_0013F60F_0013F801_0013FE0F_00140101_00166D0F_00166F01,
   0x00168012_00168101_00169B0F_0016A001_0016EB0F_0016EE01_0016F90F_00170001_00171204_0017160F,
   0x00171F01_00173204_0017350F_00174001_00175204_0017540F_00176001_00176D0F_00176E01_0017710F,
   0x00177204_0017740F_0017B404_0017D40F_0017DD04_0017DE0F_0017E00E_0017EA0F_00180B04_00180E06,
   0x00180F04_0018100E_00181A0F_00182001_0018790F_00188001_00188504_00188701_0018A904_0018AA01,
   0x0018AB0F_0018B001_0018F60F_00190001_00191F0F_00192004_00192C0F_00193004_00193C0F_0019460E,
   0x0019500F_0019D00E_0019DA0F_001A0001_001A1704_001A1C0F_001A5504_001A5F0F_001A6004_001A7D0F,
   0x001A7F04_001A800E_001A8A0F_001A900E_001A9A0F_001AB004_001ACF0F_001B0004_001B0501_001B3404,
   0x001B4501_001B4D0F_001B500E_001B5A0F_001B6B04_001B740F_001B8004_001B8301_001BA104_001BAE01,
   0x001BB00E_001BBA01_001BE604_001BF40F_001C0001_001C2404_001C380F_001C400E_001C4A0F_001C4D01,
   0x001C500E_001C5A01_001C7E0F_001C8001_001C8B0F_001C9001_001CBB0F_001CBD01_001CC00F_001CD004,
   0x001CD30F_001CD404_001CE901_001CED04_001CEE01_001CF404_001CF501_001CF704_001CFA01_001CFB0F,
   0x001D0001_001DC004_001E0001_001F160F_001F1801_001F1E0F_001F2001_001F460F_001F4801_001F4E0F,
   0x001F5001_001F580F_001F5901_001F5A0F_001F5B01_001F5C0F_001F5D01_001F5E0F_001F5F01_001F7E0F,
   0x001F8001_001FB50F_001FB601_001FBD0F_001FBE01_001FBF0F_001FC201_001FC50F_001FC601_001FCD0F,
   0x001FD001_001FD40F_001FD601_001FDC0F_001FE001_001FED0F_001FF201_001FF50F_001FF601_001FFD0F,
   0x00200012_0020070F_00200812_00200B0F_00200C04_00200D13_00200E06_0020100F_0020180C_00201A0F,
   0x0020240C_0020250F_0020270A_0020280D_00202A06_00202F05_0020300F_00203F05_0020410F_0020440B,
   0x0020450F_00205405_0020550F_00205F12_00206006_0020650F_00206606_0020700F_00207101_0020720F,
   0x00207F01_0020800F_00209001_00209D0F_0020D004_0020F10F_00210201_0021030F_00210701_0021080F,
   0x00210A01_0021140F_00211501_0021160F_00211901_00211E0F_00212401_0021250F_00212601_0021270F,
   0x00212801_0021290F_00212A01_00212E0F_00212F01_00213A0F_00213C01_0021400F_00214501_00214A0F,
   0x00214E01_00214F0F_00216001_0021890F_0024B601_0024EA0F_002C0001_002CE50F_002CEB01_002CEF04,
   0x002CF201_002CF40F_002D0001_002D260F_002D2701_002D280F_002D2D01_002D2E0F_002D3001_002D680F,
   0x002D6F01_002D700F_002D7F04_002D8001_002D970F_002DA001_002DA70F_002DA801_002DAF0F_002DB001,
   0x002DB70F_002DB801_002DBF0F_002DC001_002DC70F_002DC801_002DCF0F_002DD001_002DD70F_002DD801,
   0x002DDF0F_002DE004_002E000F_002E2F01_002E300F_00300012_0030010F_00300501_0030060F_00302A04,
   0x0030300F_00303108_0030360F_00303B01_00303D0F_00309904_00309B08_00309D0F_0030A008_0030FB0F,
   0x0030FC08_0031000F_00310501_0031300F_00313101_00318F0F_0031A001_0031C00F_0031F008_0032000F,
   0x0032D008_0032FF0F_00330008_0033580F_00A00001_00A48D0F_00A4D001_00A4FE0F_00A50001_00A60D0F,
   0x00A61001_00A6200E_00A62A01_00A62C0F_00A64001_00A66F04_00A6730F_00A67404_00A67E0F_00A67F01,
   0x00A69E04_00A6A001_00A6F004_00A6F20F_00A70801_00A7CE0F_00A7D001_00A7D20F_00A7D301_00A7D40F,
   0x00A7D501_00A7DD0F_00A7F201_00A80204_00A80301_00A80604_00A80701_00A80B04_00A80C01_00A82304,
   0x00A8280F_00A82C04_00A82D0F_00A84001_00A8740F_00A88004_00A88201_00A8B404_00A8C60F_00A8D00E,
   0x00A8DA0F_00A8E004_00A8F201_00A8F80F_00A8FB01_00A8FC0F_00A8FD01_00A8FF04_00A9000E_00A90A01,
   0x00A92604_00A92E0F_00A93001_00A94704_00A9540F_00A96001_00A97D0F_00A98004_00A98401_00A9B304,
   0x00A9C10F_00A9CF01_00A9D00E_00A9DA0F_00A9E504_00A9E60F_00A9F00E_00A9FA0F_00AA0001_00AA2904,
   0x00AA370F_00AA4001_00AA4304_00AA4401_00AA4C04_00AA4E0F_00AA500E_00AA5A0F_00AA7B04_00AA7E0F,
   0x00AAB004_00AAB10F_00AAB204_00AAB50F_00AAB704_00AAB90F_00AABE04_00AAC00F_00AAC104_00AAC20F,
   0x00AAE001_00AAEB04_00AAF00F_00AAF201_00AAF504_00AAF70F_00AB0101_00AB070F_00AB0901_00AB0F0F,
   0x00AB1101_00AB170F_00AB2001_00AB270F_00AB2801_00AB2F0F_00AB3001_00AB6A0F_00AB7001_00ABE304,
   0x00ABEB0F_00ABEC04_00ABEE0F_00ABF00E_00ABFA0F_00AC0001_00D7A40F_00D7B001_00D7C70F_00D7CB01,
   0x00D7FC0F_00FB0001_00FB070F_00FB1301_00FB180F_00FB1D07_00FB1E04_00FB1F07_00FB290F_00FB2A07,
   0x00FB370F_00FB3807_00FB3D0F_00FB3E07_00FB3F0F_00FB4007_00FB420F_00FB4307_00FB450F_00FB4607,
   0x00FB5001_00FBB20F_00FBD301_00FD3E0F_00FD5001_00FD900F_00FD9201_00FDC80F_00FDF001_00FDFC0F,
   0x00FE0004_00FE100B_00FE110F_00FE130A_00FE140B_00FE150F_00FE2004_00FE300F_00FE3305_00FE350F,
   0x00FE4D05_00FE500B_00FE510F_00FE520C_00FE530F_00FE540B_00FE550A_00FE560F_00FE7001_00FE750F,
   0x00FE7601_00FEFD0F_00FEFF06_00FF000F_00FF070C_00FF080F_00FF0C0B_00FF0D0F_00FF0E0C_00FF0F0F,
   0x00FF100E_00FF1A0A_00FF1B0B_00FF1C0F_00FF2101_00FF3B0F_00FF3F05_00FF400F_00FF4101_00FF5B0F,
   0x00FF6608_00FF9E04_00FFA001_00FFBF0F_00FFC201_00FFC80F_00FFCA01_00FFD00F_00FFD201_00FFD80F,
   0x00FFDA01_00FFDD0F_00FFF906_00FFFC0F_01000001_01000C0F_01000D01_0100270F_01002801_01003B0F,
   0x01003C01_01003E0F_01003F01_01004E0F_01005001_01005E0F_01008001_0100FB0F_01014001_0101750F,
   0x0101FD04_0101FE0F_01028001_01029D0F_0102A001_0102D10F_0102E004_0102E10F_01030001_0103200F,
   0x01032D01_01034B0F_01035001_01037604_01037B0F_01038001_01039E0F_0103A001_0103C40F_0103C801,
   0x0103D00F_0103D101_0103D60F_01040001_01049E0F_0104A00E_0104AA0F_0104B001_0104D40F_0104D801,
   0x0104FC0F_01050001_0105280F_01053001_0105640F_01057001_01057B0F_01057C01_01058B0F_01058C01,
   0x0105930F_01059401_0105960F_01059701_0105A20F_0105A301_0105B20F_0105B301_0105BA0F_0105BB01,
   0x0105BD0F_0105C001_0105F40F_01060001_0107370F_01074001_0107560F_01076001_0107680F_01078001,
   0x0107860F_01078701_0107B10F_0107B201_0107BB0F_01080001_0108060F_01080801_0108090F_01080A01,
   0x0108360F_01083701_0108390F_01083C01_01083D0F_01083F01_0108560F_01086001_0108770F_01088001,
   0x01089F0F_0108E001_0108F30F_0108F401_0108F60F_01090001_0109160F_01092001_01093A0F_01098001,
   0x0109B80F_0109BE01_0109C00F_010A0001_010A0104_010A040F_010A0504_010A070F_010A0C04_010A1001,
   0x010A140F_010A1501_010A180F_010A1901_010A360F_010A3804_010A3B0F_010A3F04_010A400F_010A6001,
   0x010A7D0F_010A8001_010A9D0F_010AC001_010AC80F_010AC901_010AE504_010AE70F_010B0001_010B360F,
   0x010B4001_010B560F_010B6001_010B730F_010B8001_010B920F_010C0001_010C490F_010C8001_010CB30F,
   0x010CC001_010CF30F_010D0001_010D2404_010D280F_010D300E_010D3A0F_010D400E_010D4A01_010D660F,
   0x010D6904_010D6E0F_010D6F01_010D860F_010E8001_010EAA0F_010EAB04_010EAD0F_010EB001_010EB20F,
   0x010EC201_010EC50F_010EFC04_010F0001_010F1D0F_010F2701_010F280F_010F3001_010F4604_010F510F,
   0x010F7001_010F8204_010F860F_010FB001_010FC50F_010FE001_010FF70F_01100004_01100301_01103804,
   0x0110470F_0110660E_01107004_01107101_01107304_01107501_0110760F_01107F04_01108301_0110B004,
   0x0110BB0F_0110BD06_0110BE0F_0110C204_0110C30F_0110CD06_0110CE0F_0110D001_0110E90F_0110F00E,
   0x0110FA0F_01110004_01110301_01112704_0111350F_0111360E_0111400F_01114401_01114504_01114701,
   0x0111480F_01115001_01117304_0111740F_01117601_0111770F_01118004_01118301_0111B304_0111C101,
   0x0111C50F_0111C904_0111CD0F_0111CE04_0111D00E_0111DA01_0111DB0F_0111DC01_0111DD0F_01120001,
   0x0112120F_01121301_01122C04_0112380F_01123E04_01123F01_01124104_0112420F_01128001_0112870F,
   0x01128801_0112890F_01128A01_01128E0F_01128F01_01129E0F_01129F01_0112A90F_0112B001_0112DF04,
   0x0112EB0F_0112F00E_0112FA0F_01130004_0113040F_01130501_01130D0F_01130F01_0113110F_01131301,
   0x0113290F_01132A01_0113310F_01133201_0113340F_01133501_01133A0F_01133B04_01133D01_01133E04,
   0x0113450F_01134704_0113490F_01134B04_01134E0F_01135001_0113510F_01135704_0113580F_01135D01,
   0x01136204_0113640F_01136604_01136D0F_01137004_0113750F_01138001_01138A0F_01138B01_01138C0F,
   0x01138E01_01138F0F_01139001_0113B60F_0113B701_0113B804_0113C10F_0113C204_0113C30F_0113C504,
   0x0113C60F_0113C704_0113CB0F_0113CC04_0113D101_0113D204_0113D301_0113D40F_0113E104_0113E30F,
   0x01140001_01143504_01144701_01144B0F_0114500E_01145A0F_01145E04_01145F01_0114620F_01148001,
   0x0114B004_0114C401_0114C60F_0114C701_0114C80F_0114D00E_0114DA0F_01158001_0115AF04_0115B60F,
   0x0115B804_0115C10F_0115D801_0115DC04_0115DE0F_01160001_01163004_0116410F_01164401_0116450F,
   0x0116500E_01165A0F_01168001_0116AB04_0116B801_0116B90F_0116C00E_0116CA0F_0116D00E_0116E40F,
   0x01171D04_01172C0F_0117300E_01173A0F_01180001_01182C04_01183B0F_0118A001_0118E00E_0118EA0F,
   0x0118FF01_0119070F_01190901_01190A0F_01190C01_0119140F_01191501_0119170F_01191801_01193004,
   0x0119360F_01193704_0119390F_01193B04_01193F01_01194004_01194101_01194204_0119440F_0119500E,
   0x01195A0F_0119A001_0119A80F_0119AA01_0119D104_0119D80F_0119DA04_0119E101_0119E20F_0119E301,
   0x0119E404_0119E50F_011A0001_011A0104_011A0B01_011A3304_011A3A01_011A3B04_011A3F0F_011A4704,
   0x011A480F_011A5001_011A5104_011A5C01_011A8A04_011A9A0F_011A9D01_011A9E0F_011AB001_011AF90F,
   0x011BC001_011BE10F_011BF00E_011BFA0F_011C0001_011C090F_011C0A01_011C2F04_011C370F_011C3804,
   0x011C4001_011C410F_011C500E_011C5A0F_011C7201_011C900F_011C9204_011CA80F_011CA904_011CB70F,
   0x011D0001_011D070F_011D0801_011D0A0F_011D0B01_011D3104_011D370F_011D3A04_011D3B0F_011D3C04,
   0x011D3E0F_011D3F04_011D4601_011D4704_011D480F_011D500E_011D5A0F_011D6001_011D660F_011D6701,
   0x011D690F_011D6A01_011D8A04_011D8F0F_011D9004_011D920F_011D9304_011D9801_011D990F_011DA00E,
   0x011DAA0F_011EE001_011EF304_011EF70F_011F0004_011F0201_011F0304_011F0401_011F110F_011F1201,
   0x011F3404_011F3B0F_011F3E04_011F430F_011F500E_011F5A04_011F5B0F_011FB001_011FB10F_01200001,
   0x01239A0F_01240001_01246F0F_01248001_0125440F_012F9001_012FF10F_01300001_01343006_01344004,
   0x01344101_01344704_0134560F_01346001_0143FB0F_01440001_0146470F_01610001_01611E04_0161300E,
   0x01613A0F_01680001_016A390F_016A4001_016A5F0F_016A600E_016A6A0F_016A7001_016ABF0F_016AC00E,
   0x016ACA0F_016AD001_016AEE0F_016AF004_016AF50F_016B0001_016B3004_016B370F_016B4001_016B440F,
   0x016B500E_016B5A0F_016B6301_016B780F_016B7D01_016B900F_016D4001_016D6D0F_016D700E_016D7A0F,
   0x016E4001_016E800F_016F0001_016F4B0F_016F4F04_016F5001_016F5104_016F880F_016F8F04_016F9301,
   0x016FA00F_016FE001_016FE20F_016FE301_016FE404_016FE50F_016FF004_016FF20F_01AFF008_01AFF40F,
   0x01AFF508_01AFFC0F_01AFFD08_01AFFF0F_01B00008_01B0010F_01B12008_01B1230F_01B15508_01B1560F,
   0x01B16408_01B1680F_01BC0001_01BC6B0F_01BC7001_01BC7D0F_01BC8001_01BC890F_01BC9001_01BC9A0F,
   0x01BC9D04_01BC9F0F_01BCA006_01BCA40F_01CCF00E_01CCFA0F_01CF0004_01CF2E0F_01CF3004_01CF470F,
   0x01D16504_01D16A0F_01D16D04_01D17306_01D17B04_01D1830F_01D18504_01D18C0F_01D1AA04_01D1AE0F,
   0x01D24204_01D2450F_01D40001_01D4550F_01D45601_01D49D0F_01D49E01_01D4A00F_01D4A201_01D4A30F,
   0x01D4A501_01D4A70F_01D4A901_01D4AD0F_01D4AE01_01D4BA0F_01D4BB01_01D4BC0F_01D4BD01_01D4C40F,
   0x01D4C501_01D5060F_01D50701_01D50B0F_01D50D01_01D5150F_01D51601_01D51D0F_01D51E01_01D53A0F,
   0x01D53B01_01D53F0F_01D54001_01D5450F_01D54601_01D5470F_01D54A01_01D5510F_01D55201_01D6A60F,
   0x01D6A801_01D6C10F_01D6C201_01D6DB0F_01D6DC01_01D6FB0F_01D6FC01_01D7150F_01D71601_01D7350F,
   0x01D73601_01D74F0F_01D75001_01D76F0F_01D77001_01D7890F_01D78A01_01D7A90F_01D7AA01_01D7C30F,
   0x01D7C401_01D7CC0F_01D7CE0E_01D8000F_01DA0004_01DA370F_01DA3B04_01DA6D0F_01DA7504_01DA760F,
   0x01DA8404_01DA850F_01DA9B04_01DAA00F_01DAA104_01DAB00F_01DF0001_01DF1F0F_01DF2501_01DF2B0F,
   0x01E00004_01E0070F_01E00804_01E0190F_01E01B04_01E0220F_01E02304_01E0250F_01E02604_01E02B0F,
   0x01E03001_01E06E0F_01E08F04_01E0900F_01E10001_01E12D0F_01E13004_01E13701_01E13E0F_01E1400E,
   0x01E14A0F_01E14E01_01E14F0F_01E29001_01E2AE04_01E2AF0F_01E2C001_01E2EC04_01E2F00E_01E2FA0F,
   0x01E4D001_01E4EC04_01E4F00E_01E4FA0F_01E5D001_01E5EE04_01E5F001_01E5F10E_01E5FB0F_01E7E001,
   0x01E7E70F_01E7E801_01E7EC0F_01E7ED01_01E7EF0F_01E7F001_01E7FF0F_01E80001_01E8C50F_01E8D004,
   0x01E8D70F_01E90001_01E94404_01E94B01_01E94C0F_01E9500E_01E95A0F_01EE0001_01EE040F_01EE0501,
   0x01EE200F_01EE2101_01EE230F_01EE2401_01EE250F_01EE2701_01EE280F_01EE2901_01EE330F_01EE3401,
   0x01EE380F_01EE3901_01EE3A0F_01EE3B01_01EE3C0F_01EE4201_01EE430F_01EE4701_01EE480F_01EE4901,
   0x01EE4A0F_01EE4B01_01EE4C0F_01EE4D01_01EE500F_01EE5101_01EE530F_01EE5401_01EE550F_01EE5701,
   0x01EE580F_01EE5901_01EE5A0F_01EE5B01_01EE5C0F_01EE5D01_01EE5E0F_01EE5F01_01EE600F_01EE6101,
   0x01EE630F_01EE6401_01EE650F_01EE6701_01EE6B0F_01EE6C01_01EE730F_01EE7401_01EE780F_01EE7901,
   0x01EE7D0F_01EE7E01_01EE7F0F_01EE8001_01EE8A0F_01EE8B01_01EE9C0F_01EEA101_01EEA40F_01EEA501,
   0x01EEAA0F_01EEAB01_01EEBC0F_01F13001_01F14A0F_01F15001_01F16A0F_01F17001_01F18A0F_01F1E610,
   0x01F2000F_01F3FB04_01F4000F_01FBF00E_01FBFA0F_0E000106_0E00020F_0E002004_0E00800F_0E010004,
   0x0E01F00F]

/-- The values of the property sentence break, each with its names, the long one last. -/
def sentenceBreakNames : List (List String) :=
  [["AT", "ATerm"],
   ["CR", "CR"],
   ["CL", "Close"],
   ["EX", "Extend"],
   ["FO", "Format"],
   ["LF", "LF"],
   ["LO", "Lower"],
   ["NU", "Numeric"],
   ["LE", "OLetter"],
   ["XX", "Other"],
   ["SC", "SContinue"],
   ["ST", "STerm"],
   ["SE", "Sep"],
   ["SP", "Sp"],
   ["UP", "Upper"]]

/-- The sentence break of every code point, one more than its place in `sentenceBreakNames`. -/
def sentenceBreakRows : List Nat :=
  [0x0000000A_0000090E_00000A06_00000B0E_00000D02_00000E0A_0000200E_0000210C_00002203_0000230A,
   0x00002703_00002A0A_00002C0B_00002E01_00002F0A_00003008_00003A0B_00003B0A_00003F0C_0000400A,
   0x0000410F_00005B03_00005C0A_00005D03_00005E0A_00006107_00007B03_00007C0A_00007D03_00007E0A,
   0x0000850D_0000860A_0000A00E_0000A10A_0000AA07_0000AB03_0000AC0A_0000AD05_0000AE0A_0000B507,
   0x0000B60A_0000BA07_0000BB03_0000BC0A_0000C00F_0000D70A_0000D80F_0000DF07_0000F70A_0000F807,
   0x0001000F_00010107_0001020F_00010307_0001040F_00010507_0001060F_00010707_0001080F_00010907,
   0x00010A0F_00010B07_00010C0F_00010D07_00010E0F_00010F07_0001100F_00011107_0001120F_00011307,
   0x0001140F_00011507_0001160F_00011707_0001180F_00011907_00011A0F_00011B07_00011C0F_00011D07,
   0x00011E0F_00011F07_0001200F_00012107_0001220F_00012307_0001240F_00012507_0001260F_00012707,
   0x0001280F_00012907_00012A0F_00012B07_00012C0F_00012D07_00012E0F_00012F07_0001300F_00013107,
   0x0001320F_00013307_0001340F_00013507_0001360F_00013707_0001390F_00013A07_00013B0F_00013C07,
   0x00013D0F_00013E07_00013F0F_00014007_0001410F_00014207_0001430F_00014407_0001450F_00014607,
   0x0001470F_00014807_00014A0F_00014B07_00014C0F_00014D07_00014E0F_00014F07_0001500F_00015107,
   0x0001520F_00015307_0001540F_00015507_0001560F_00015707_0001580F_00015907_00015A0F_00015B07,
   0x00015C0F_00015D07_00015E0F_00015F07_0001600F_00016107_0001620F_00016307_0001640F_00016507,
   0x0001660F_00016707_0001680F_00016907_00016A0F_00016B07_00016C0F_00016D07_00016E0F_00016F07,
   0x0001700F_00017107_0001720F_00017307_0001740F_00017507_0001760F_00017707_0001780F_00017A07,
   0x00017B0F_00017C07_00017D0F_00017E07_0001810F_00018307_0001840F_00018507_0001860F_00018807,
   0x0001890F_00018C07_00018E0F_00019207_0001930F_00019507_0001960F_00019907_00019C0F_00019E07,
   0x00019F0F_0001A107_0001A20F_0001A307_0001A40F_0001A507_0001A60F_0001A807_0001A90F_0001AA07,
   0x0001AC0F_0001AD07_0001AE0F_0001B007_0001B10F_0001B407_0001B50F_0001B607_0001B70F_0001B907,
   0x0001BB09_0001BC0F_0001BD07_0001C009_0001C40F_0001C607_0001C70F_0001C907_0001CA0F_0001CC07,
   0x0001CD0F_0001CE07_0001CF0F_0001D007_0001D10F_0001D207_0001D30F_0001D407_0001D50F_0001D607,
   0x0001D70F_0001D807_0001D90F_0001DA07_0001DB0F_0001DC07_0001DE0F_0001DF07_0001E00F_0001E107,
   0x0001E20F_0001E307_0001E40F_0001E507_0001E60F_0001E707_0001E80F_0001E907_0001EA0F_0001EB07,
   0x0001EC0F_0001ED07_0001EE0F_0001EF07_0001F10F_0001F307_0001F40F_0001F507_0001F60F_0001F907,
   0x0001FA0F_0001FB07_0001FC0F_0001FD07_0001FE0F_0001FF07_0002000F_00020107_0002020F_00020307,
   0x0002040F_00020507_0002060F_00020707_0002080F_00020907_00020A0F_00020B07_00020C0F_00020D07,
   0x00020E0F_00020F07_0002100F_00021107_0002120F_00021307_0002140F_00021507_0002160F_00021707,
   0x0002180F_00021907_00021A0F_00021B07_00021C0F_00021D07_00021E0F_00021F07_0002200F_00022107,
   0x0002220F_00022307_0002240F_00022507_0002260F_00022707_0002280F_00022907_00022A0F_00022B07,
   0x00022C0F_00022D07_00022E0F_00022F07_0002300F_00023107_0002320F_00023307_00023A0F_00023C07,
   0x00023D0F_00023F07_0002410F_00024207_0002430F_00024707_0002480F_00024907_00024A0F_00024B07,
   0x00024C0F_00024D07_00024E0F_00024F07_00029409_00029507_0002B909_0002C007_0002C20A_0002C609,
   0x0002D20A_0002E007_0002E50A_0002EC09_0002ED0A_0002EE09_0002EF0A_00030004_0003700F_00037107,
   0x0003720F_00037307_00037409_0003750A_0003760F_00037707_0003780A_00037A07_00037E0A_00037F0F,
   0x0003800A_0003860F_0003870A_0003880F_00038B0A_00038C0F_00038D0A_00038E0F_00039007_0003910F,
   0x0003A20A_0003A30F_0003AC07_0003CF0F_0003D007_0003D20F_0003D507_0003D80F_0003D907_0003DA0F,
   0x0003DB07_0003DC0F_0003DD07_0003DE0F_0003DF07_0003E00F_0003E107_0003E20F_0003E307_0003E40F,
   0x0003E507_0003E60F_0003E707_0003E80F_0003E907_0003EA0F_0003EB07_0003EC0F_0003ED07_0003EE0F,
   0x0003EF07_0003F40F_0003F507_0003F60A_0003F70F_0003F807_0003F90F_0003FB07_0003FD0F_00043007,
   0x0004600F_00046107_0004620F_00046307_0004640F_00046507_0004660F_00046707_0004680F_00046907,
   0x00046A0F_00046B07_00046C0F_00046D07_00046E0F_00046F07_0004700F_00047107_0004720F_00047307,
   0x0004740F_00047507_0004760F_00047707_0004780F_00047907_00047A0F_00047B07_00047C0F_00047D07,
   0x00047E0F_00047F07_0004800F_00048107_0004820A_00048304_00048A0F_00048B07_00048C0F_00048D07,
   0x00048E0F_00048F07_0004900F_00049107_0004920F_00049307_0004940F_00049507_0004960F_00049707,
   0x0004980F_00049907_00049A0F_00049B07_00049C0F_00049D07_00049E0F_00049F07_0004A00F_0004A107,
   0x0004A20F_0004A307_0004A40F_0004A507_0004A60F_0004A707_0004A80F_0004A907_0004AA0F_0004AB07,
   0x0004AC0F_0004AD07_0004AE0F_0004AF07_0004B00F_0004B107_0004B20F_0004B307_0004B40F_0004B507,
   0x0004B60F_0004B707_0004B80F_0004B907_0004BA0F_0004BB07_0004BC0F_0004BD07_0004BE0F_0004BF07,
   0x0004C00F_0004C207_0004C30F_0004C407_0004C50F_0004C607_0004C70F_0004C807_0004C90F_0004CA07,
   0x0004CB0F_0004CC07_0004CD0F_0004CE07_0004D00F_0004D107_0004D20F_0004D307_0004D40F_0004D507,
   0x0004D60F_0004D707_0004D80F_0004D907_0004DA0F_0004DB07_0004DC0F_0004DD07_0004DE0F_0004DF07,
   0x0004E00F_0004E107_0004E20F_0004E307_0004E40F_0004E507_0004E60F_0004E707_0004E80F_0004E907,
   0x0004EA0F_0004EB07_0004EC0F_0004ED07_0004EE0F_0004EF07_0004F00F_0004F107_0004F20F_0004F307,
   0x0004F40F_0004F507_0004F60F_0004F707_0004F80F_0004F907_0004FA0F_0004FB07_0004FC0F_0004FD07,
   0x0004FE0F_0004FF07_0005000F_00050107_0005020F_00050307_0005040F_00050507_0005060F_00050707,
   0x0005080F_00050907_00050A0F_00050B07_00050C0F_00050D07_00050E0F_00050F07_0005100F_00051107,
   0x0005120F_00051307_0005140F_00051507_0005160F_00051707_0005180F_00051907_00051A0F_00051B07,
   0x00051C0F_00051D07_00051E0F_00051F07_0005200F_00052107_0005220F_00052307_0005240F_00052507,
   0x0005260F_00052707_0005280F_00052907_00052A0F_00052B07_00052C0F_00052D07_00052E0F_00052F07,
   0x0005300A_0005310F_0005570A_00055909_00055A0A_00055D0B_00055E0A_00056007_0005890C_00058A0A,
   0x00059104_0005BE0A_0005BF04_0005C00A_0005C104_0005C30A_0005C404_0005C60A_0005C704_0005C80A,
   0x0005D009_0005EB0A_0005EF09_0005F40A_00060005_0006060A_00060C0B_00060E0A_00061004_00061B0A,
   0x00061C05_00061D0C_00062009_00064B04_00066008_00066A0A_00066B08_00066D0A_00066E09_00067004,
   0x00067109_0006D40C_0006D509_0006D604_0006DD05_0006DE0A_0006DF04_0006E509_0006E704_0006E90A,
   0x0006EA04_0006EE09_0006F008_0006FA09_0006FD0A_0006FF09_0007000C_0007030A_00070F05_00071009,
   0x00071104_00071209_00073004_00074B0A_00074D09_0007A604_0007B109_0007B20A_0007C008_0007CA09,
   0x0007EB04_0007F409_0007F60A_0007F80B_0007F90C_0007FA09_0007FB0A_0007FD04_0007FE0A_00080009,
   0x00081604_00081A09_00081B04_00082409_00082504_00082809_00082904_00082E0A_0008370C_0008380A,
   0x0008390C_00083A0A_00083D0C_00083F0A_00084009_00085904_00085C0A_00086009_00086B0A_00087009,
   0x0008880A_00088909_00088F0A_00089005_0008920A_00089704_0008A009_0008CA04_0008E205_0008E304,
   0x00090409_00093A04_00093D09_00093E04_00095009_00095104_00095809_00096204_0009640C_00096608,
   0x0009700A_00097109_00098104_0009840A_00098509_00098D0A_00098F09_0009910A_00099309_0009A90A,
   0x0009AA09_0009B10A_0009B209_0009B30A_0009B609_0009BA0A_0009BC04_0009BD09_0009BE04_0009C50A,
   0x0009C704_0009C90A_0009CB04_0009CE09_0009CF0A_0009D704_0009D80A_0009DC09_0009DE0A_0009DF09,
   0x0009E204_0009E40A_0009E608_0009F009_0009F20A_0009FC09_0009FD0A_0009FE04_0009FF0A_000A0104,
   0x000A040A_000A0509_000A0B0A_000A0F09_000A110A_000A1309_000A290A_000A2A09_000A310A_000A3209,
   0x000A340A_000A3509_000A370A_000A3809_000A3A0A_000A3C04_000A3D0A_000A3E04_000A430A_000A4704,
   0x000A490A_000A4B04_000A4E0A_000A5104_000A520A_000A5909_000A5D0A_000A5E09_000A5F0A_000A6608,
   0x000A7004_000A7209_000A7504_000A760A_000A8104_000A840A_000A8509_000A8E0A_000A8F09_000A920A,
   0x000A9309_000AA90A_000AAA09_000AB10A_000AB209_000AB40A_000AB509_000ABA0A_000ABC04_000ABD09,
   0x000ABE04_000AC60A_000AC704_000ACA0A_000ACB04_000ACE0A_000AD009_000AD10A_000AE009_000AE204,
   0x000AE40A_000AE608_000AF00A_000AF909_000AFA04_000B000A_000B0104_000B040A_000B0509_000B0D0A,
   0x000B0F09_000B110A_000B1309_000B290A_000B2A09_000B310A_000B3209_000B340A_000B3509_000B3A0A,
   0x000B3C04_000B3D09_000B3E04_000B450A_000B4704_000B490A_000B4B04_000B4E0A_000B5504_000B580A,
   0x000B5C09_000B5E0A_000B5F09_000B6204_000B640A_000B6608_000B700A_000B7109_000B720A_000B8204,
   0x000B8309_000B840A_000B8509_000B8B0A_000B8E09_000B910A_000B9209_000B960A_000B9909_000B9B0A,
   0x000B9C09_000B9D0A_000B9E09_000BA00A_000BA309_000BA50A_000BA809_000BAB0A_000BAE09_000BBA0A,
   0x000BBE04_000BC30A_000BC604_000BC90A_000BCA04_000BCE0A_000BD009_000BD10A_000BD704_000BD80A,
   0x000BE608_000BF00A_000C0004_000C0509_000C0D0A_000C0E09_000C110A_000C1209_000C290A_000C2A09,
   0x000C3A0A_000C3C04_000C3D09_000C3E04_000C450A_000C4604_000C490A_000C4A04_000C4E0A_000C5504,
   0x000C570A_000C5809_000C5B0A_000C5D09_000C5E0A_000C6009_000C6204_000C640A_000C6608_000C700A,
   0x000C8009_000C8104_000C840A_000C8509_000C8D0A_000C8E09_000C910A_000C9209_000CA90A_000CAA09,
   0x000CB40A_000CB509_000CBA0A_000CBC04_000CBD09_000CBE04_000CC50A_000CC604_000CC90A_000CCA04,
   0x000CCE0A_000CD504_000CD70A_000CDD09_000CDF0A_000CE009_000CE204_000CE40A_000CE608_000CF00A,
   0x000CF109_000CF304_000CF40A_000D0004_000D0409_000D0D0A_000D0E09_000D110A_000D1209_000D3B04,
   0x000D3D09_000D3E04_000D450A_000D4604_000D490A_000D4A04_000D4E09_000D4F0A_000D5409_000D5704,
   0x000D580A_000D5F09_000D6204_000D640A_000D6608_000D700A_000D7A09_000D800A_000D8104_000D840A,
   0x000D8509_000D970A_000D9A09_000DB20A_000DB309_000DBC0A_000DBD09_000DBE0A_000DC009_000DC70A,
   0x000DCA04_000DCB0A_000DCF04_000DD50A_000DD604_000DD70A_000DD804_000DE00A_000DE608_000DF00A,
   0x000DF204_000DF40A_000E0109_000E3104_000E3209_000E3404_000E3B0A_000E4009_000E4704_000E4F0A,
   0x000E5008_000E5A0A_000E8109_000E830A_000E8409_000E850A_000E8609_000E8B0A_000E8C09_000EA40A,
   0x000EA509_000EA60A_000EA709_000EB104_000EB209_000EB404_000EBD09_000EBE0A_000EC009_000EC50A,
   0x000EC609_000EC70A_000EC804_000ECF0A_000ED008_000EDA0A_000EDC09_000EE00A_000F0009_000F010A,
   0x000F1804_000F1A0A_000F2008_000F2A0A_000F3504_000F360A_000F3704_000F380A_000F3904_000F3A03,
   0x000F3E04_000F4009_000F480A_000F4909_000F6D0A_000F7104_000F850A_000F8604_000F8809_000F8D04,
   0x000F980A_000F9904_000FBD0A_000FC604_000FC70A_00100009_00102B04_00103F09_00104008_00104A0C,
   0x00104C0A_00105009_00105604_00105A09_00105E04_00106109_00106204_00106509_00106704_00106E09,
   0x00107104_00107509_00108204_00108E09_00108F04_00109008_00109A04_00109E0A_0010A00F_0010C60A,
   0x0010C70F_0010C80A_0010CD0F_0010CE0A_0010D009_0010FB0A_0010FC07_0010FD09_0012490A_00124A09,
   0x00124E0A_00125009_0012570A_00125809_0012590A_00125A09_00125E0A_00126009_0012890A_00128A09,
   0x00128E0A_00129009_0012B10A_0012B209_0012B60A_0012B809_0012BF0A_0012C009_0012C10A_0012C209,
   0x0012C60A_0012C809_0012D70A_0012D809_0013110A_00131209_0013160A_00131809_00135B0A_00135D04,
   0x0013600A_0013620C_0013630A_0013670C_0013690A_00138009_0013900A_0013A00F_0013F60A_0013F807,
   0x0013FE0A_00140109_00166D0A_00166E0C_00166F09_0016800E_00168109_00169B03_00169D0A_0016A009,
   0x0016EB0A_0016EE09_0016F90A_00170009_00171204_0017160A_00171F09_00173204_0017350C_0017370A,
   0x00174009_00175204_0017540A_00176009_00176D0A_00176E09_0017710A_00177204_0017740A_00178009,
   0x0017B404_0017D40A_0017D709_0017D80A_0017DC09_0017DD04_0017DE0A_0017E008_0017EA0A_0018020B,
   0x0018030C_0018040A_0018080B_0018090C_00180A0A_00180B04_00180E05_00180F04_00181008_00181A0A,
   0x00182009_0018790A_00188009_00188504_00188709_0018A904_0018AA09_0018AB0A_0018B009_0018F60A,
   0x00190009_00191F0A_00192004_00192C0A_00193004_00193C0A_0019440C_00194608_00195009_00196E0A,
   0x00197009_0019750A_00198009_0019AC0A_0019B009_0019CA0A_0019D008_0019DA0A_001A0009_001A1704,
   0x001A1C0A_001A2009_001A5504_001A5F0A_001A6004_001A7D0A_001A7F04_001A8008_001A8A0A_001A9008,
   0x001A9A0A_001AA709_001AA80C_001AAC0A_001AB004_001ACF0A_001B0004_001B0509_001B3404_001B4509,
   0x001B4D0A_001B4E0C_001B5008_001B5A0C_001B5C0A_001B5E0C_001B600A_001B6B04_001B740A_001B7D0C,
   0x001B8004_001B8309_001BA104_001BAE09_001BB008_001BBA09_001BE604_001BF40A_001C0009_001C2404,
   0x001C380A_001C3B0C_001C3D0A_001C4008_001C4A0A_001C4D09_001C5008_001C5A09_001C7E0C_001C8007,
   0x001C890F_001C8A07_001C8B0A_001C9009_001CBB0A_001CBD09_001CC00A_001CD004_001CD30A_001CD404,
   0x001CE909_001CED04_001CEE09_001CF404_001CF509_001CF704_001CFA09_001CFB0A_001D0007_001DC004,
   0x001E000F_001E0107_001E020F_001E0307_001E040F_001E0507_001E060F_001E0707_001E080F_001E0907,
   0x001E0A0F_001E0B07_001E0C0F_001E0D07_001E0E0F_001E0F07_001E100F_001E1107_001E120F_001E1307,
   0x001E140F_001E1507_001E160F_001E1707_001E180F_001E1907_001E1A0F_001E1B07_001E1C0F_001E1D07,
   0x001E1E0F_001E1F07_001E200F_001E2107_001E220F_001E2307_001E240F_001E2507_001E260F_001E2707,
   0x001E280F_001E2907_001E2A0F_001E2B07_001E2C0F_001E2D07_001E2E0F_001E2F07_001E300F_001E3107,
   0x001E320F_001E3307_001E340F_001E3507_001E360F_001E3707_001E380F_001E3907_001E3A0F_001E3B07,
   0x001E3C0F_001E3D07_001E3E0F_001E3F07_001E400F_001E4107_001E420F_001E4307_001E440F_001E4507,
   0x001E460F_001E4707_001E480F_001E4907_001E4A0F_001E4B07_001E4C0F_001E4D07_001E4E0F_001E4F07,
   0x001E500F_001E5107_001E520F_001E5307_001E540F_001E5507_001E560F_001E5707_001E580F_001E5907,
   0x001E5A0F_001E5B07_001E5C0F_001E5D07_001E5E0F_001E5F07_001E600F_001E6107_001E620F_001E6307,
   0x001E640F_001E6507_001E660F_001E6707_001E680F_001E6907_001E6A0F_001E6B07_001E6C0F_001E6D07,
   0x001E6E0F_001E6F07_001E700F_001E7107_001E720F_001E7307_001E740F_001E7507_001E760F_001E7707,
   0x001E780F_001E7907_001E7A0F_001E7B07_001E7C0F_001E7D07_001E7E0F_001E7F07_001E800F_001E8107,
   0x001E820F_001E8307_001E840F_001E8507_001E860F_001E8707_001E880F_001E8907_001E8A0F_001E8B07,
   0x001E8C0F_001E8D07_001E8E0F_001E8F07_001E900F_001E9107_001E920F_001E9307_001E940F_001E9507,
   0x001E9E0F_001E9F07_001EA00F_001EA107_001EA20F_001EA307_001EA40F_001EA507_001EA60F_001EA707,
   0x001EA80F_001EA907_001EAA0F_001EAB07_001EAC0F_001EAD07_001EAE0F_001EAF07_001EB00F_001EB107,
   0x001EB20F_001EB307_001EB40F_001EB507_001EB60F_001EB707_001EB80F_001EB907_001EBA0F_001EBB07,
   0x001EBC0F_001EBD07_001EBE0F_001EBF07_001EC00F_001EC107_001EC20F_001EC307_001EC40F_001EC507,
   0x001EC60F_001EC707_001EC80F_001EC907_001ECA0F_001ECB07_001ECC0F_001ECD07_001ECE0F_001ECF07,
   0x001ED00F_001ED107_001ED20F_001ED307_001ED40F_001ED507_001ED60F_001ED707_001ED80F_001ED907,
   0x001EDA0F_001EDB07_001EDC0F_001EDD07_001EDE0F_001EDF07_001EE00F_001EE107_001EE20F_001EE307,
   0x001EE40F_001EE507_001EE60F_001EE707_001EE80F_001EE907_001EEA0F_001EEB07_001EEC0F_001EED07,
   0x001EEE0F_001EEF07_001EF00F_001EF107_001EF20F_001EF307_001EF40F_001EF507_001EF60F_001EF707,
   0x001EF80F_001EF907_001EFA0F_001EFB07_001EFC0F_001EFD07_001EFE0F_001EFF07_001F080F_001F1007,
   0x001F160A_001F180F_001F1E0A_001F2007_001F280F_001F3007_001F380F_001F4007_001F460A_001F480F,
   0x001F4E0A_001F5007_001F580A_001F590F_001F5A0A_001F5B0F_001F5C0A_001F5D0F_001F5E0A_001F5F0F,
   0x001F6007_001F680F_001F7007_001F7E0A_001F8007_001F880F_001F9007_001F980F_001FA007_001FA80F,
   0x001FB007_001FB50A_001FB607_001FB80F_001FBD0A_001FBE07_001FBF0A_001FC207_001FC50A_001FC607,
   0x001FC80F_001FCD0A_001FD007_001FD40A_001FD607_001FD80F_001FDC0A_001FE007_001FE80F_001FED0A,
   0x001FF207_001FF50A_001FF607_001FF80F_001FFD0A_0020000E_00200B05_00200C04_00200E05_0020100A,
   0x0020130B_0020150A_00201803_0020200A_00202401_0020250A_0020280D_00202A05_00202F0E_0020300A,
   0x00203903_00203B0A_00203C0C_00203E0A_00204503_0020470C_00204A0A_00205F0E_00206005_0020650A,
   0x00206605_0020700A_00207107_0020720A_00207D03_00207F07_0020800A_00208D03_00208F0A_00209007,
   0x00209D0A_0020D004_0020F10A_0021020F_0021030A_0021070F_0021080A_00210A07_00210B0F_00210E07,
   0x0021100F_00211307_0021140A_0021150F_0021160A_0021190F_00211E0A_0021240F_0021250A_0021260F,
   0x0021270A_0021280F_0021290A_00212A0F_00212E0A_00212F07_0021300F_00213407_00213509_00213907,
   0x00213A0A_00213C07_00213E0F_0021400A_0021450F_00214607_00214A0A_00214E07_00214F0A_0021600F,
   0x00217007_00218009_0021830F_00218407_00218509_0021890A_00230803_00230C0A_00232903_00232B0A,
   0x0024B60F_0024D007_0024EA0A_00275B03_0027610A_00276803_0027760A_0027C503_0027C70A_0027E603,
   0x0027F00A_00298303_0029990A_0029D803_0029DC0A_0029FC03_0029FE0A_002C000F_002C3007_002C600F,
   0x002C6107_002C620F_002C6507_002C670F_002C6807_002C690F_002C6A07_002C6B0F_002C6C07_002C6D0F,
   0x002C7107_002C720F_002C7307_002C750F_002C7607_002C7E0F_002C8107_002C820F_002C8307_002C840F,
   0x002C8507_002C860F_002C8707_002C880F_002C8907_002C8A0F_002C8B07_002C8C0F_002C8D07_002C8E0F,
   0x002C8F07_002C900F_002C9107_002C920F_002C9307_002C940F_002C9507_002C960F_002C9707_002C980F,
   0x002C9907_002C9A0F_002C9B07_002C9C0F_002C9D07_002C9E0F_002C9F07_002CA00F_002CA107_002CA20F,
   0x002CA307_002CA40F_002CA507_002CA60F_002CA707_002CA80F_002CA907_002CAA0F_002CAB07_002CAC0F,
   0x002CAD07_002CAE0F_002CAF07_002CB00F_002CB107_002CB20F_002CB307_002CB40F_002CB507_002CB60F,
   0x002CB707_002CB80F_002CB907_002CBA0F_002CBB07_002CBC0F_002CBD07_002CBE0F_002CBF07_002CC00F,
   0x002CC107_002CC20F_002CC307_002CC40F_002CC507_002CC60F_002CC707_002CC80F_002CC907_002CCA0F,
   0x002CCB07_002CCC0F_002CCD07_002CCE0F_002CCF07_002CD00F_002CD107_002CD20F_002CD307_002CD40F,
   0x002CD507_002CD60F_002CD707_002CD80F_002CD907_002CDA0F_002CDB07_002CDC0F_002CDD07_002CDE0F,
   0x002CDF07_002CE00F_002CE107_002CE20F_002CE307_002CE50A_002CEB0F_002CEC07_002CED0F_002CEE07,
   0x002CEF04_002CF20F_002CF307_002CF40A_002D0007_002D260A_002D2707_002D280A_002D2D07_002D2E0A,
   0x002D3009_002D680A_002D6F09_002D700A_002D7F04_002D8009_002D970A_002DA009_002DA70A_002DA809,
   0x002DAF0A_002DB009_002DB70A_002DB809_002DBF0A_002DC009_002DC70A_002DC809_002DCF0A_002DD009,
   0x002DD70A_002DD809_002DDF0A_002DE004_002E0003_002E0E0A_002E1C03_002E1E0A_002E2003_002E2A0A,
   0x002E2E0C_002E2F09_002E300A_002E3C0C_002E3D0A_002E4203_002E430A_002E530C_002E5503_002E5D0A,
   0x0030000E_0030010B_0030020C_0030030A_00300509_00300803_0030120A_00301403_00301C0A_00301D03,
   0x0030200A_00302109_00302A04_0030300A_00303109_0030360A_00303809_00303D0A_00304109_0030970A,
   0x00309904_00309B0A_00309D09_0030A00A_0030A109_0030FB0A_0030FC09_0031000A_00310509_0031300A,
   0x00313109_00318F0A_0031A009_0031C00A_0031F009_0032000A_00340009_004DC00A_004E0009_00A48D0A,
   0x00A4D009_00A4FE0A_00A4FF0C_00A50009_00A60D0A_00A60E0C_00A61009_00A62008_00A62A09_00A62C0A,
   0x00A6400F_00A64107_00A6420F_00A64307_00A6440F_00A64507_00A6460F_00A64707_00A6480F_00A64907,
   0x00A64A0F_00A64B07_00A64C0F_00A64D07_00A64E0F_00A64F07_00A6500F_00A65107_00A6520F_00A65307,
   0x00A6540F_00A65507_00A6560F_00A65707_00A6580F_00A65907_00A65A0F_00A65B07_00A65C0F_00A65D07,
   0x00A65E0F_00A65F07_00A6600F_00A66107_00A6620F_00A66307_00A6640F_00A66507_00A6660F_00A66707,
   0x00A6680F_00A66907_00A66A0F_00A66B07_00A66C0F_00A66D07_00A66E09_00A66F04_00A6730A_00A67404,
   0x00A67E0A_00A67F09_00A6800F_00A68107_00A6820F_00A68307_00A6840F_00A68507_00A6860F_00A68707,
   0x00A6880F_00A68907_00A68A0F_00A68B07_00A68C0F_00A68D07_00A68E0F_00A68F07_00A6900F_00A69107,
   0x00A6920F_00A69307_00A6940F_00A69507_00A6960F_00A69707_00A6980F_00A69907_00A69A0F_00A69B07,
   0x00A69E04_00A6A009_00A6F004_00A6F20A_00A6F30C_00A6F40A_00A6F70C_00A6F80A_00A71709_00A7200A,
   0x00A7220F_00A72307_00A7240F_00A72507_00A7260F_00A72707_00A7280F_00A72907_00A72A0F_00A72B07,
   0x00A72C0F_00A72D07_00A72E0F_00A72F07_00A7320F_00A73307_00A7340F_00A73507_00A7360F_00A73707,
   0x00A7380F_00A73907_00A73A0F_00A73B07_00A73C0F_00A73D07_00A73E0F_00A73F07_00A7400F_00A74107,
   0x00A7420F_00A74307_00A7440F_00A74507_00A7460F_00A74707_00A7480F_00A74907_00A74A0F_00A74B07,
   0x00A74C0F_00A74D07_00A74E0F_00A74F07_00A7500F_00A75107_00A7520F_00A75307_00A7540F_00A75507,
   0x00A7560F_00A75707_00A7580F_00A75907_00A75A0F_00A75B07_00A75C0F_00A75D07_00A75E0F_00A75F07,
   0x00A7600F_00A76107_00A7620F_00A76307_00A7640F_00A76507_00A7660F_00A76707_00A7680F_00A76907,
   0x00A76A0F_00A76B07_00A76C0F_00A76D07_00A76E0F_00A76F07_00A7790F_00A77A07_00A77B0F_00A77C07,
   0x00A77D0F_00A77F07_00A7800F_00A78107_00A7820F_00A78307_00A7840F_00A78507_00A7860F_00A78707,
   0x00A78809_00A7890A_00A78B0F_00A78C07_00A78D0F_00A78E07_00A78F09_00A7900F_00A79107_00A7920F,
   0x00A79307_00A7960F_00A79707_00A7980F_00A79907_00A79A0F_00A79B07_00A79C0F_00A79D07_00A79E0F,
   0x00A79F07_00A7A00F_00A7A107_00A7A20F_00A7A307_00A7A40F_00A7A507_00A7A60F_00A7A707_00A7A80F,
   0x00A7A907_00A7AA0F_00A7AF07_00A7B00F_00A7B507_00A7B60F_00A7B707_00A7B80F_00A7B907_00A7BA0F,
   0x00A7BB07_00A7BC0F_00A7BD07_00A7BE0F_00A7BF07_00A7C00F_00A7C107_00A7C20F_00A7C307_00A7C40F,
   0x00A7C807_00A7C90F_00A7CA07_00A7CB0F_00A7CD07_00A7CE0A_00A7D00F_00A7D107_00A7D20A_00A7D307,
   0x00A7D40A_00A7D507_00A7D60F_00A7D707_00A7D80F_00A7D907_00A7DA0F_00A7DB07_00A7DC0F_00A7DD0A,
   0x00A7F207_00A7F50F_00A7F607_00A7F709_00A7F807_00A7FB09_00A80204_00A80309_00A80604_00A80709,
   0x00A80B04_00A80C09_00A82304_00A8280A_00A82C04_00A82D0A_00A84009_00A8740A_00A8760C_00A8780A,
   0x00A88004_00A88209_00A8B404_00A8C60A_00A8CE0C_00A8D008_00A8DA0A_00A8E004_00A8F209_00A8F80A,
   0x00A8FB09_00A8FC0A_00A8FD09_00A8FF04_00A90008_00A90A09_00A92604_00A92E0A_00A92F0C_00A93009,
   0x00A94704_00A9540A_00A96009_00A97D0A_00A98004_00A98409_00A9B304_00A9C10A_00A9C80C_00A9CA0A,
   0x00A9CF09_00A9D008_00A9DA0A_00A9E009_00A9E504_00A9E609_00A9F008_00A9FA09_00A9FF0A_00AA0009,
   0x00AA2904_00AA370A_00AA4009_00AA4304_00AA4409_00AA4C04_00AA4E0A_00AA5008_00AA5A0A_00AA5D0C,
   0x00AA6009_00AA770A_00AA7A09_00AA7B04_00AA7E09_00AAB004_00AAB109_00AAB204_00AAB509_00AAB704,
   0x00AAB909_00AABE04_00AAC009_00AAC104_00AAC209_00AAC30A_00AADB09_00AADE0A_00AAE009_00AAEB04,
   0x00AAF00C_00AAF209_00AAF504_00AAF70A_00AB0109_00AB070A_00AB0909_00AB0F0A_00AB1109_00AB170A,
   0x00AB2009_00AB270A_00AB2809_00AB2F0A_00AB3007_00AB5B0A_00AB5C07_00AB6A0A_00AB7007_00ABC009,
   0x00ABE304_00ABEB0C_00ABEC04_00ABEE0A_00ABF008_00ABFA0A_00AC0009_00D7A40A_00D7B009_00D7C70A,
   0x00D7CB09_00D7FC0A_00F90009_00FA6E0A_00FA7009_00FADA0A_00FB0007_00FB070A_00FB1307_00FB180A,
   0x00FB1D09_00FB1E04_00FB1F09_00FB290A_00FB2A09_00FB370A_00FB3809_00FB3D0A_00FB3E09_00FB3F0A,
   0x00FB4009_00FB420A_00FB4309_00FB450A_00FB4609_00FBB20A_00FBD309_00FD3E03_00FD400A_00FD5009,
   0x00FD900A_00FD9209_00FDC80A_00FDF009_00FDFC0A_00FE0004_00FE100B_00FE120A_00FE130B_00FE140A,
   0x00FE1703_00FE190A_00FE2004_00FE300A_00FE310B_00FE330A_00FE3503_00FE450A_00FE4703_00FE490A,
   0x00FE500B_00FE5201_00FE530A_00FE550B_00FE560C_00FE580B_00FE5903_00FE5F0A_00FE630B_00FE640A,
   0x00FE7009_00FE750A_00FE7609_00FEFD0A_00FEFF05_00FF000A_00FF010C_00FF020A_00FF0803_00FF0A0A,
   0x00FF0C0B_00FF0E01_00FF0F0A_00FF1008_00FF1A0B_00FF1B0A_00FF1F0C_00FF200A_00FF210F_00FF3B03,
   0x00FF3C0A_00FF3D03_00FF3E0A_00FF4107_00FF5B03_00FF5C0A_00FF5D03_00FF5E0A_00FF5F03_00FF610C,
   0x00FF6203_00FF640B_00FF650A_00FF6609_00FF9E04_00FFA009_00FFBF0A_00FFC209_00FFC80A_00FFCA09,
   0x00FFD00A_00FFD209_00FFD80A_00FFDA09_00FFDD0A_00FFF905_00FFFC0A_01000009_01000C0A_01000D09,
   0x0100270A_01002809_01003B0A_01003C09_01003E0A_01003F09_01004E0A_01005009_01005E0A_01008009,
   0x0100FB0A_01014009_0101750A_0101FD04_0101FE0A_01028009_01029D0A_0102A009_0102D10A_0102E004,
   0x0102E10A_01030009_0103200A_01032D09_01034B0A_01035009_01037604_01037B0A_01038009_01039E0A,
   0x0103A009_0103C40A_0103C809_0103D00A_0103D109_0103D60A_0104000F_01042807_01045009_01049E0A,
   0x0104A008_0104AA0A_0104B00F_0104D40A_0104D807_0104FC0A_01050009_0105280A_01053009_0105640A,
   0x0105700F_01057B0A_01057C0F_01058B0A_01058C0F_0105930A_0105940F_0105960A_01059707_0105A20A,
   0x0105A307_0105B20A_0105B307_0105BA0A_0105BB07_0105BD0A_0105C009_0105F40A_01060009_0107370A,
   0x01074009_0107560A_01076009_0107680A_01078007_01078109_01078307_0107860A_01078707_0107B10A,
   0x0107B207_0107BB0A_01080009_0108060A_01080809_0108090A_01080A09_0108360A_01083709_0108390A,
   0x01083C09_01083D0A_01083F09_0108560A_01086009_0108770A_01088009_01089F0A_0108E009_0108F30A,
   0x0108F409_0108F60A_01090009_0109160A_01092009_01093A0A_01098009_0109B80A_0109BE09_0109C00A,
   0x010A0009_010A0104_010A040A_010A0504_010A070A_010A0C04_010A1009_010A140A_010A1509_010A180A,
   0x010A1909_010A360A_010A3804_010A3B0A_010A3F04_010A400A_010A560C_010A580A_010A6009_010A7D0A,
   0x010A8009_010A9D0A_010AC009_010AC80A_010AC909_010AE504_010AE70A_010B0009_010B360A_010B4009,
   0x010B560A_010B6009_010B730A_010B8009_010B920A_010C0009_010C490A_010C800F_010CB30A_010CC007,
   0x010CF30A_010D0009_010D2404_010D280A_010D3008_010D3A0A_010D4008_010D4A09_010D500F_010D660A,
   0x010D6904_010D6E0A_010D6F09_010D7007_010D860A_010E8009_010EAA0A_010EAB04_010EAD0A_010EB009,
   0x010EB20A_010EC209_010EC50A_010EFC04_010F0009_010F1D0A_010F2709_010F280A_010F3009_010F4604,
   0x010F510A_010F550C_010F5A0A_010F7009_010F8204_010F860C_010F8A0A_010FB009_010FC50A_010FE009,
   0x010FF70A_01100004_01100309_01103804_0110470C_0110490A_01106608_01107004_01107109_01107304,
   0x01107509_0110760A_01107F04_01108309_0110B004_0110BB0A_0110BD05_0110BE0C_0110C204_0110C30A,
   0x0110CD05_0110CE0A_0110D009_0110E90A_0110F008_0110FA0A_01110004_01110309_01112704_0111350A,
   0x01113608_0111400A_0111410C_01114409_01114504_01114709_0111480A_01115009_01117304_0111740A,
   0x01117609_0111770A_01118004_01118309_0111B304_0111C109_0111C50C_0111C70A_0111C904_0111CD0C,
   0x0111CE04_0111D008_0111DA09_0111DB0A_0111DC09_0111DD0A_0111DE0C_0111E00A_01120009_0112120A,
   0x01121309_01122C04_0112380C_01123A0A_01123B0C_01123D0A_01123E04_01123F09_01124104_0112420A,
   0x01128009_0112870A_01128809_0112890A_01128A09_01128E0A_01128F09_01129E0A_01129F09_0112A90C,
   0x0112AA0A_0112B009_0112DF04_0112EB0A_0112F008_0112FA0A_01130004_0113040A_01130509_01130D0A,
   0x01130F09_0113110A_01131309_0113290A_01132A09_0113310A_01133209_0113340A_01133509_01133A0A,
   0x01133B04_01133D09_01133E04_0113450A_01134704_0113490A_01134B04_01134E0A_01135009_0113510A,
   0x01135704_0113580A_01135D09_01136204_0113640A_01136604_01136D0A_01137004_0113750A_01138009,
   0x01138A0A_01138B09_01138C0A_01138E09_01138F0A_01139009_0113B60A_0113B709_0113B804_0113C10A,
   0x0113C204_0113C30A_0113C504_0113C60A_0113C704_0113CB0A_0113CC04_0113D109_0113D204_0113D309,
   0x0113D40C_0113D60A_0113E104_0113E30A_01140009_01143504_01144709_01144B0C_01144D0A_01145008,
   0x01145A0A_01145E04_01145F09_0114620A_01148009_0114B004_0114C409_0114C60A_0114C709_0114C80A,
   0x0114D008_0114DA0A_01158009_0115AF04_0115B60A_0115B804_0115C10A_0115C20C_0115C40A_0115C90C,
   0x0115D809_0115DC04_0115DE0A_01160009_01163004_0116410C_0116430A_01164409_0116450A_01165008,
   0x01165A0A_01168009_0116AB04_0116B809_0116B90A_0116C008_0116CA0A_0116D008_0116E40A_01170009,
   0x01171B0A_01171D04_01172C0A_01173008_01173A0A_01173C0C_01173F0A_01174009_0117470A_01180009,
   0x01182C04_01183B0A_0118A00F_0118C007_0118E008_0118EA0A_0118FF09_0119070A_01190909_01190A0A,
   0x01190C09_0119140A_01191509_0119170A_01191809_01193004_0119360A_01193704_0119390A_01193B04,
   0x01193F09_01194004_01194109_01194204_0119440C_0119450A_0119460C_0119470A_01195008_01195A0A,
   0x0119A009_0119A80A_0119AA09_0119D104_0119D80A_0119DA04_0119E109_0119E20A_0119E309_0119E404,
   0x0119E50A_011A0009_011A0104_011A0B09_011A3304_011A3A09_011A3B04_011A3F0A_011A420C_011A440A,
   0x011A4704_011A480A_011A5009_011A5104_011A5C09_011A8A04_011A9A0A_011A9B0C_011A9D09_011A9E0A,
   0x011AB009_011AF90A_011BC009_011BE10A_011BF008_011BFA0A_011C0009_011C090A_011C0A09_011C2F04,
   0x011C370A_011C3804_011C4009_011C410C_011C430A_011C5008_011C5A0A_011C7209_011C900A_011C9204,
   0x011CA80A_011CA904_011CB70A_011D0009_011D070A_011D0809_011D0A0A_011D0B09_011D3104_011D370A,
   0x011D3A04_011D3B0A_011D3C04_011D3E0A_011D3F04_011D4609_011D4704_011D480A_011D5008_011D5A0A,
   0x011D6009_011D660A_011D6709_011D690A_011D6A09_011D8A04_011D8F0A_011D9004_011D920A_011D9304,
   0x011D9809_011D990A_011DA008_011DAA0A_011EE009_011EF304_011EF70C_011EF90A_011F0004_011F0209,
   0x011F0304_011F0409_011F110A_011F1209_011F3404_011F3B0A_011F3E04_011F430C_011F450A_011F5008,
   0x011F5A04_011F5B0A_011FB009_011FB10A_01200009_01239A0A_01240009_01246F0A_01248009_0125440A,
   0x012F9009_012FF10A_01300009_01343005_01344004_01344109_01344704_0134560A_01346009_0143FB0A,
   0x01440009_0146470A_01610009_01611E04_01613008_01613A0A_01680009_016A390A_016A4009_016A5F0A,
   0x016A6008_016A6A0A_016A6E0C_016A7009_016ABF0A_016AC008_016ACA0A_016AD009_016AEE0A_016AF004,
   0x016AF50C_016AF60A_016B0009_016B3004_016B370C_016B390A_016B4009_016B440C_016B450A_016B5008,
   0x016B5A0A_016B6309_016B780A_016B7D09_016B900A_016D4009_016D6D0A_016D6E0C_016D7008_016D7A0A,
   0x016E400F_016E6007_016E800A_016E980C_016E990A_016F0009_016F4B0A_016F4F04_016F5009_016F5104,
   0x016F880A_016F8F04_016F9309_016FA00A_016FE009_016FE20A_016FE309_016FE404_016FE50A_016FF004,
   0x016FF20A_01700009_0187F80A_01880009_018CD60A_018CFF09_018D090A_01AFF009_01AFF40A_01AFF509,
   0x01AFFC0A_01AFFD09_01AFFF0A_01B00009_01B1230A_01B13209_01B1330A_01B15009_01B1530A_01B15509,
   0x01B1560A_01B16409_01B1680A_01B17009_01B2FC0A_01BC0009_01BC6B0A_01BC7009_01BC7D0A_01BC8009,
   0x01BC890A_01BC9009_01BC9A0A_01BC9D04_01BC9F0C_01BCA005_01BCA40A_01CCF008_01CCFA0A_01CF0004,
   0x01CF2E0A_01CF3004_01CF470A_01D16504_01D16A0A_01D16D04_01D17305_01D17B04_01D1830A_01D18504,
   0x01D18C0A_01D1AA04_01D1AE0A_01D24204_01D2450A_01D4000F_01D41A07_01D4340F_01D44E07_01D4550A,
   0x01D45607_01D4680F_01D48207_01D49C0F_01D49D0A_01D49E0F_01D4A00A_01D4A20F_01D4A30A_01D4A50F,
   0x01D4A70A_01D4A90F_01D4AD0A_01D4AE0F_01D4B607_01D4BA0A_01D4BB07_01D4BC0A_01D4BD07_01D4C40A,
   0x01D4C507_01D4D00F_01D4EA07_01D5040F_01D5060A_01D5070F_01D50B0A_01D50D0F_01D5150A_01D5160F,
   0x01D51D0A_01D51E07_01D5380F_01D53A0A_01D53B0F_01D53F0A_01D5400F_01D5450A_01D5460F_01D5470A,
   0x01D54A0F_01D5510A_01D55207_01D56C0F_01D58607_01D5A00F_01D5BA07_01D5D40F_01D5EE07_01D6080F,
   0x01D62207_01D63C0F_01D65607_01D6700F_01D68A07_01D6A60A_01D6A80F_01D6C10A_01D6C207_01D6DB0A,
   0x01D6DC07_01D6E20F_01D6FB0A_01D6FC07_01D7150A_01D71607_01D71C0F_01D7350A_01D73607_01D74F0A,
   0x01D75007_01D7560F_01D76F0A_01D77007_01D7890A_01D78A07_01D7900F_01D7A90A_01D7AA07_01D7C30A,
   0x01D7C407_01D7CA0F_01D7CB07_01D7CC0A_01D7CE08_01D8000A_01DA0004_01DA370A_01DA3B04_01DA6D0A,
   0x01DA7504_01DA760A_01DA8404_01DA850A_01DA880C_01DA890A_01DA9B04_01DAA00A_01DAA104_01DAB00A,
   0x01DF0007_01DF0A09_01DF0B07_01DF1F0A_01DF2507_01DF2B0A_01E00004_01E0070A_01E00804_01E0190A,
   0x01E01B04_01E0220A_01E02304_01E0250A_01E02604_01E02B0A_01E03007_01E06E0A_01E08F04_01E0900A,
   0x01E10009_01E12D0A_01E13004_01E13709_01E13E0A_01E14008_01E14A0A_01E14E09_01E14F0A_01E29009,
   0x01E2AE04_01E2AF0A_01E2C009_01E2EC04_01E2F008_01E2FA0A_01E4D009_01E4EC04_01E4F008_01E4FA0A,
   0x01E5D009_01E5EE04_01E5F009_01E5F108_01E5FB0A_01E7E009_01E7E70A_01E7E809_01E7EC0A_01E7ED09,
   0x01E7EF0A_01E7F009_01E7FF0A_01E80009_01E8C50A_01E8D004_01E8D70A_01E9000F_01E92207_01E94404,
   0x01E94B09_01E94C0A_01E95008_01E95A0A_01EE0009_01EE040A_01EE0509_01EE200A_01EE2109_01EE230A,
   0x01EE2409_01EE250A_01EE2709_01EE280A_01EE2909_01EE330A_01EE3409_01EE380A_01EE3909_01EE3A0A,
   0x01EE3B09_01EE3C0A_01EE4209_01EE430A_01EE4709_01EE480A_01EE4909_01EE4A0A_01EE4B09_01EE4C0A,
   0x01EE4D09_01EE500A_01EE5109_01EE530A_01EE5409_01EE550A_01EE5709_01EE580A_01EE5909_01EE5A0A,
   0x01EE5B09_01EE5C0A_01EE5D09_01EE5E0A_01EE5F09_01EE600A_01EE6109_01EE630A_01EE6409_01EE650A,
   0x01EE6709_01EE6B0A_01EE6C09_01EE730A_01EE7409_01EE780A_01EE7909_01EE7D0A_01EE7E09_01EE7F0A,
   0x01EE8009_01EE8A0A_01EE8B09_01EE9C0A_01EEA109_01EEA40A_01EEA509_01EEAA0A_01EEAB09_01EEBC0A,
   0x01F1300F_01F14A0A_01F1500F_01F16A0A_01F1700F_01F18A0A_01F67603_01F6790A_01FBF008_01FBFA0A,
   0x02000009_02A6E00A_02A70009_02B73A0A_02B74009_02B81E0A_02B82009_02CEA20A_02CEB009_02EBE10A,
   0x02EBF009_02EE5E0A_02F80009_02FA1E0A_03000009_03134B0A_03135009_0323B00A_0E000105_0E00020A,
   0x0E002004_0E00800A_0E010004_0E01F00A]

end TypedPattern.Unicode.Data
