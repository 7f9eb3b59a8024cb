/-! The general category of every code point, as runs. A row holds up to ten runs of eight hexadecimal
digits: six for the first code point of the run, two for the number of its category. -/

namespace TypedPattern.Unicode.Data

/-- The general categories, numbered from one in the order of `Category.all`. -/
def categoryRows : List Nat :=
  [0x0000001A_00002017_00002112_00002414_00002512_0000280E_0000290F_00002A12_00002B13_00002C12,
   0x00002D0D_00002E12_00003009_00003A12_00003C13_00003F12_00004101_00005B0E_00005C12_00005D0F,
   0x00005E15_00005F0C_00006015_00006102_00007B0E_00007C13_00007D0F_00007E13_00007F1A_0000A017,
   0x0000A112_0000A214_0000A616_0000A712_0000A815_0000A916_0000AA05_0000AB10_0000AC13_0000AD1B,
   0x0000AE16_0000AF15_0000B016_0000B113_0000B20B_0000B415_0000B502_0000B612_0000B815_0000B90B,
   0x0000BA05_0000BB11_0000BC0B_0000BF12_0000C001_0000D713_0000D801_0000DF02_0000F713_0000F802,
   0x00010001_00010102_00010201_00010302_00010401_00010502_00010601_00010702_00010801_00010902,
   0x00010A01_00010B02_00010C01_00010D02_00010E01_00010F02_00011001_00011102_00011201_00011302,
   0x00011401_00011502_00011601_00011702_00011801_00011902_00011A01_00011B02_00011C01_00011D02,
   0x00011E01_00011F02_00012001_00012102_00012201_00012302_00012401_00012502_00012601_00012702,
   0x00012801_00012902_00012A01_00012B02_00012C01_00012D02_00012E01_00012F02_00013001_00013102,
   0x00013201_00013302_00013401_00013502_00013601_00013702_00013901_00013A02_00013B01_00013C02,
   0x00013D01_00013E02_00013F01_00014002_00014101_00014202_00014301_00014402_00014501_00014602,
   0x00014701_00014802_00014A01_00014B02_00014C01_00014D02_00014E01_00014F02_00015001_00015102,
   0x00015201_00015302_00015401_00015502_00015601_00015702_00015801_00015902_00015A01_00015B02,
   0x00015C01_00015D02_00015E01_00015F02_00016001_00016102_00016201_00016302_00016401_00016502,
   0x00016601_00016702_00016801_00016902_00016A01_00016B02_00016C01_00016D02_00016E01_00016F02,
   0x00017001_00017102_00017201_00017302_00017401_00017502_00017601_00017702_00017801_00017A02,
   0x00017B01_00017C02_00017D01_00017E02_00018101_00018302_00018401_00018502_00018601_00018802,
   0x00018901_00018C02_00018E01_00019202_00019301_00019502_00019601_00019902_00019C01_00019E02,
   0x00019F01_0001A102_0001A201_0001A302_0001A401_0001A502_0001A601_0001A802_0001A901_0001AA02,
   0x0001AC01_0001AD02_0001AE01_0001B002_0001B101_0001B402_0001B501_0001B602_0001B701_0001B902,
   0x0001BB05_0001BC01_0001BD02_0001C005_0001C401_0001C503_0001C602_0001C701_0001C803_0001C902,
   0x0001CA01_0001CB03_0001CC02_0001CD01_0001CE02_0001CF01_0001D002_0001D101_0001D202_0001D301,
   0x0001D402_0001D501_0001D602_0001D701_0001D802_0001D901_0001DA02_0001DB01_0001DC02_0001DE01,
   0x0001DF02_0001E001_0001E102_0001E201_0001E302_0001E401_0001E502_0001E601_0001E702_0001E801,
   0x0001E902_0001EA01_0001EB02_0001EC01_0001ED02_0001EE01_0001EF02_0001F101_0001F203_0001F302,
   0x0001F401_0001F502_0001F601_0001F902_0001FA01_0001FB02_0001FC01_0001FD02_0001FE01_0001FF02,
   0x00020001_00020102_00020201_00020302_00020401_00020502_00020601_00020702_00020801_00020902,
   0x00020A01_00020B02_00020C01_00020D02_00020E01_00020F02_00021001_00021102_00021201_00021302,
   0x00021401_00021502_00021601_00021702_00021801_00021902_00021A01_00021B02_00021C01_00021D02,
   0x00021E01_00021F02_00022001_00022102_00022201_00022302_00022401_00022502_00022601_00022702,
   0x00022801_00022902_00022A01_00022B02_00022C01_00022D02_00022E01_00022F02_00023001_00023102,
   0x00023201_00023302_00023A01_00023C02_00023D01_00023F02_00024101_00024202_00024301_00024702,
   0x00024801_00024902_00024A01_00024B02_00024C01_00024D02_00024E01_00024F02_00029405_00029502,
   0x0002B004_0002C215_0002C604_0002D215_0002E004_0002E515_0002EC04_0002ED15_0002EE04_0002EF15,
   0x00030006_00037001_00037102_00037201_00037302_00037404_00037515_00037601_00037702_0003781E,
   0x00037A04_00037B02_00037E12_00037F01_0003801E_00038415_00038601_00038712_00038801_00038B1E,
   0x00038C01_00038D1E_00038E01_00039002_00039101_0003A21E_0003A301_0003AC02_0003CF01_0003D002,
   0x0003D201_0003D502_0003D801_0003D902_0003DA01_0003DB02_0003DC01_0003DD02_0003DE01_0003DF02,
   0x0003E001_0003E102_0003E201_0003E302_0003E401_0003E502_0003E601_0003E702_0003E801_0003E902,
   0x0003EA01_0003EB02_0003EC01_0003ED02_0003EE01_0003EF02_0003F401_0003F502_0003F613_0003F701,
   0x0003F802_0003F901_0003FB02_0003FD01_00043002_00046001_00046102_00046201_00046302_00046401,
   0x00046502_00046601_00046702_00046801_00046902_00046A01_00046B02_00046C01_00046D02_00046E01,
   0x00046F02_00047001_00047102_00047201_00047302_00047401_00047502_00047601_00047702_00047801,
   0x00047902_00047A01_00047B02_00047C01_00047D02_00047E01_00047F02_00048001_00048102_00048216,
   0x00048306_00048808_00048A01_00048B02_00048C01_00048D02_00048E01_00048F02_00049001_00049102,
   0x00049201_00049302_00049401_00049502_00049601_00049702_00049801_00049902_00049A01_00049B02,
   0x00049C01_00049D02_00049E01_00049F02_0004A001_0004A102_0004A201_0004A302_0004A401_0004A502,
   0x0004A601_0004A702_0004A801_0004A902_0004AA01_0004AB02_0004AC01_0004AD02_0004AE01_0004AF02,
   0x0004B001_0004B102_0004B201_0004B302_0004B401_0004B502_0004B601_0004B702_0004B801_0004B902,
   0x0004BA01_0004BB02_0004BC01_0004BD02_0004BE01_0004BF02_0004C001_0004C202_0004C301_0004C402,
   0x0004C501_0004C602_0004C701_0004C802_0004C901_0004CA02_0004CB01_0004CC02_0004CD01_0004CE02,
   0x0004D001_0004D102_0004D201_0004D302_0004D401_0004D502_0004D601_0004D702_0004D801_0004D902,
   0x0004DA01_0004DB02_0004DC01_0004DD02_0004DE01_0004DF02_0004E001_0004E102_0004E201_0004E302,
   0x0004E401_0004E502_0004E601_0004E702_0004E801_0004E902_0004EA01_0004EB02_0004EC01_0004ED02,
   0x0004EE01_0004EF02_0004F001_0004F102_0004F201_0004F302_0004F401_0004F502_0004F601_0004F702,
   0x0004F801_0004F902_0004FA01_0004FB02_0004FC01_0004FD02_0004FE01_0004FF02_00050001_00050102,
   0x00050201_00050302_00050401_00050502_00050601_00050702_00050801_00050902_00050A01_00050B02,
   0x00050C01_00050D02_00050E01_00050F02_00051001_00051102_00051201_00051302_00051401_00051502,
   0x00051601_00051702_00051801_00051902_00051A01_00051B02_00051C01_00051D02_00051E01_00051F02,
   0x00052001_00052102_00052201_00052302_00052401_00052502_00052601_00052702_00052801_00052902,
   0x00052A01_00052B02_00052C01_00052D02_00052E01_00052F02_0005301E_00053101_0005571E_00055904,
   0x00055A12_00056002_00058912_00058A0D_00058B1E_00058D16_00058F14_0005901E_00059106_0005BE0D,
   0x0005BF06_0005C012_0005C106_0005C312_0005C406_0005C612_0005C706_0005C81E_0005D005_0005EB1E,
   0x0005EF05_0005F312_0005F51E_0006001B_00060613_00060912_00060B14_00060C12_00060E16_00061006,
   0x00061B12_00061C1B_00061D12_00062005_00064004_00064105_00064B06_00066009_00066A12_00066E05,
   0x00067006_00067105_0006D412_0006D505_0006D606_0006DD1B_0006DE16_0006DF06_0006E504_0006E706,
   0x0006E916_0006EA06_0006EE05_0006F009_0006FA05_0006FD16_0006FF05_00070012_00070E1E_00070F1B,
   0x00071005_00071106_00071205_00073006_00074B1E_00074D05_0007A606_0007B105_0007B21E_0007C009,
   0x0007CA05_0007EB06_0007F404_0007F616_0007F712_0007FA04_0007FB1E_0007FD06_0007FE14_00080005,
   0x00081606_00081A04_00081B06_00082404_00082506_00082804_00082906_00082E1E_00083012_00083F1E,
   0x00084005_00085906_00085C1E_00085E12_00085F1E_00086005_00086B1E_00087005_00088815_00088905,
   0x00088F1E_0008901B_0008921E_00089706_0008A005_0008C904_0008CA06_0008E21B_0008E306_00090307,
   0x00090405_00093A06_00093B07_00093C06_00093D05_00093E07_00094106_00094907_00094D06_00094E07,
   0x00095005_00095106_00095805_00096206_00096412_00096609_00097012_00097104_00097205_00098106,
   0x00098207_0009841E_00098505_00098D1E_00098F05_0009911E_00099305_0009A91E_0009AA05_0009B11E,
   0x0009B205_0009B31E_0009B605_0009BA1E_0009BC06_0009BD05_0009BE07_0009C106_0009C51E_0009C707,
   0x0009C91E_0009CB07_0009CD06_0009CE05_0009CF1E_0009D707_0009D81E_0009DC05_0009DE1E_0009DF05,
   0x0009E206_0009E41E_0009E609_0009F005_0009F214_0009F40B_0009FA16_0009FB14_0009FC05_0009FD12,
   0x0009FE06_0009FF1E_000A0106_000A0307_000A041E_000A0505_000A0B1E_000A0F05_000A111E_000A1305,
   0x000A291E_000A2A05_000A311E_000A3205_000A341E_000A3505_000A371E_000A3805_000A3A1E_000A3C06,
   0x000A3D1E_000A3E07_000A4106_000A431E_000A4706_000A491E_000A4B06_000A4E1E_000A5106_000A521E,
   0x000A5905_000A5D1E_000A5E05_000A5F1E_000A6609_000A7006_000A7205_000A7506_000A7612_000A771E,
   0x000A8106_000A8307_000A841E_000A8505_000A8E1E_000A8F05_000A921E_000A9305_000AA91E_000AAA05,
   0x000AB11E_000AB205_000AB41E_000AB505_000ABA1E_000ABC06_000ABD05_000ABE07_000AC106_000AC61E,
   0x000AC706_000AC907_000ACA1E_000ACB07_000ACD06_000ACE1E_000AD005_000AD11E_000AE005_000AE206,
   0x000AE41E_000AE609_000AF012_000AF114_000AF21E_000AF905_000AFA06_000B001E_000B0106_000B0207,
   0x000B041E_000B0505_000B0D1E_000B0F05_000B111E_000B1305_000B291E_000B2A05_000B311E_000B3205,
   0x000B341E_000B3505_000B3A1E_000B3C06_000B3D05_000B3E07_000B3F06_000B4007_000B4106_000B451E,
   0x000B4707_000B491E_000B4B07_000B4D06_000B4E1E_000B5506_000B5707_000B581E_000B5C05_000B5E1E,
   0x000B5F05_000B6206_000B641E_000B6609_000B7016_000B7105_000B720B_000B781E_000B8206_000B8305,
   0x000B841E_000B8505_000B8B1E_000B8E05_000B911E_000B9205_000B961E_000B9905_000B9B1E_000B9C05,
   0x000B9D1E_000B9E05_000BA01E_000BA305_000BA51E_000BA805_000BAB1E_000BAE05_000BBA1E_000BBE07,
   0x000BC006_000BC107_000BC31E_000BC607_000BC91E_000BCA07_000BCD06_000BCE1E_000BD005_000BD11E,
   0x000BD707_000BD81E_000BE609_000BF00B_000BF316_000BF914_000BFA16_000BFB1E_000C0006_000C0107,
   0x000C0406_000C0505_000C0D1E_000C0E05_000C111E_000C1205_000C291E_000C2A05_000C3A1E_000C3C06,
   0x000C3D05_000C3E06_000C4107_000C451E_000C4606_000C491E_000C4A06_000C4E1E_000C5506_000C571E,
   0x000C5805_000C5B1E_000C5D05_000C5E1E_000C6005_000C6206_000C641E_000C6609_000C701E_000C7712,
   0x000C780B_000C7F16_000C8005_000C8106_000C8207_000C8412_000C8505_000C8D1E_000C8E05_000C911E,
   0x000C9205_000CA91E_000CAA05_000CB41E_000CB505_000CBA1E_000CBC06_000CBD05_000CBE07_000CBF06,
   0x000CC007_000CC51E_000CC606_000CC707_000CC91E_000CCA07_000CCC06_000CCE1E_000CD507_000CD71E,
   0x000CDD05_000CDF1E_000CE005_000CE206_000CE41E_000CE609_000CF01E_000CF105_000CF307_000CF41E,
   0x000D0006_000D0207_000D0405_000D0D1E_000D0E05_000D111E_000D1205_000D3B06_000D3D05_000D3E07,
   0x000D4106_000D451E_000D4607_000D491E_000D4A07_000D4D06_000D4E05_000D4F16_000D501E_000D5405,
   0x000D5707_000D580B_000D5F05_000D6206_000D641E_000D6609_000D700B_000D7916_000D7A05_000D801E,
   0x000D8106_000D8207_000D841E_000D8505_000D971E_000D9A05_000DB21E_000DB305_000DBC1E_000DBD05,
   0x000DBE1E_000DC005_000DC71E_000DCA06_000DCB1E_000DCF07_000DD206_000DD51E_000DD606_000DD71E,
   0x000DD807_000DE01E_000DE609_000DF01E_000DF207_000DF412_000DF51E_000E0105_000E3106_000E3205,
   0x000E3406_000E3B1E_000E3F14_000E4005_000E4604_000E4706_000E4F12_000E5009_000E5A12_000E5C1E,
   0x000E8105_000E831E_000E8405_000E851E_000E8605_000E8B1E_000E8C05_000EA41E_000EA505_000EA61E,
   0x000EA705_000EB106_000EB205_000EB406_000EBD05_000EBE1E_000EC005_000EC51E_000EC604_000EC71E,
   0x000EC806_000ECF1E_000ED009_000EDA1E_000EDC05_000EE01E_000F0005_000F0116_000F0412_000F1316,
   0x000F1412_000F1516_000F1806_000F1A16_000F2009_000F2A0B_000F3416_000F3506_000F3616_000F3706,
   0x000F3816_000F3906_000F3A0E_000F3B0F_000F3C0E_000F3D0F_000F3E07_000F4005_000F481E_000F4905,
   0x000F6D1E_000F7106_000F7F07_000F8006_000F8512_000F8606_000F8805_000F8D06_000F981E_000F9906,
   0x000FBD1E_000FBE16_000FC606_000FC716_000FCD1E_000FCE16_000FD012_000FD516_000FD912_000FDB1E,
   0x00100005_00102B07_00102D06_00103107_00103206_00103807_00103906_00103B07_00103D06_00103F05,
   0x00104009_00104A12_00105005_00105607_00105806_00105A05_00105E06_00106105_00106207_00106505,
   0x00106707_00106E05_00107106_00107505_00108206_00108307_00108506_00108707_00108D06_00108E05,
   0x00108F07_00109009_00109A07_00109D06_00109E16_0010A001_0010C61E_0010C701_0010C81E_0010CD01,
   0x0010CE1E_0010D002_0010FB12_0010FC04_0010FD02_00110005_0012491E_00124A05_00124E1E_00125005,
   0x0012571E_00125805_0012591E_00125A05_00125E1E_00126005_0012891E_00128A05_00128E1E_00129005,
   0x0012B11E_0012B205_0012B61E_0012B805_0012BF1E_0012C005_0012C11E_0012C205_0012C61E_0012C805,
   0x0012D71E_0012D805_0013111E_00131205_0013161E_00131805_00135B1E_00135D06_00136012_0013690B,
   0x00137D1E_00138005_00139016_00139A1E_0013A001_0013F61E_0013F802_0013FE1E_0014000D_00140105,
   0x00166D16_00166E12_00166F05_00168017_00168105_00169B0E_00169C0F_00169D1E_0016A005_0016EB12,
   0x0016EE0A_0016F105_0016F91E_00170005_00171206_00171507_0017161E_00171F05_00173206_00173407,
   0x00173512_0017371E_00174005_00175206_0017541E_00176005_00176D1E_00176E05_0017711E_00177206,
   0x0017741E_00178005_0017B406_0017B607_0017B706_0017BE07_0017C606_0017C707_0017C906_0017D412,
   0x0017D704_0017D812_0017DB14_0017DC05_0017DD06_0017DE1E_0017E009_0017EA1E_0017F00B_0017FA1E,
   0x00180012_0018060D_00180712_00180B06_00180E1B_00180F06_00181009_00181A1E_00182005_00184304,
   0x00184405_0018791E_00188005_00188506_00188705_0018A906_0018AA05_0018AB1E_0018B005_0018F61E,
   0x00190005_00191F1E_00192006_00192307_00192706_00192907_00192C1E_00193007_00193206_00193307,
   0x00193906_00193C1E_00194016_0019411E_00194412_00194609_00195005_00196E1E_00197005_0019751E,
   0x00198005_0019AC1E_0019B005_0019CA1E_0019D009_0019DA0B_0019DB1E_0019DE16_001A0005_001A1706,
   0x001A1907_001A1B06_001A1C1E_001A1E12_001A2005_001A5507_001A5606_001A5707_001A5806_001A5F1E,
   0x001A6006_001A6107_001A6206_001A6307_001A6506_001A6D07_001A7306_001A7D1E_001A7F06_001A8009,
   0x001A8A1E_001A9009_001A9A1E_001AA012_001AA704_001AA812_001AAE1E_001AB006_001ABE08_001ABF06,
   0x001ACF1E_001B0006_001B0407_001B0505_001B3406_001B3507_001B3606_001B3B07_001B3C06_001B3D07,
   0x001B4206_001B4307_001B4505_001B4D1E_001B4E12_001B5009_001B5A12_001B6116_001B6B06_001B7416,
   0x001B7D12_001B8006_001B8207_001B8305_001BA107_001BA206_001BA607_001BA806_001BAA07_001BAB06,
   0x001BAE05_001BB009_001BBA05_001BE606_001BE707_001BE806_001BEA07_001BED06_001BEE07_001BEF06,
   0x001BF207_001BF41E_001BFC12_001C0005_001C2407_001C2C06_001C3407_001C3606_001C381E_001C3B12,
   0x001C4009_001C4A1E_001C4D05_001C5009_001C5A05_001C7804_001C7E12_001C8002_001C8901_001C8A02,
   0x001C8B1E_001C9001_001CBB1E_001CBD01_001CC012_001CC81E_001CD006_001CD312_001CD406_001CE107,
   0x001CE206_001CE905_001CED06_001CEE05_001CF406_001CF505_001CF707_001CF806_001CFA05_001CFB1E,
   0x001D0002_001D2C04_001D6B02_001D7804_001D7902_001D9B04_001DC006_001E0001_001E0102_001E0201,
   0x001E0302_001E0401_001E0502_001E0601_001E0702_001E0801_001E0902_001E0A01_001E0B02_001E0C01,
   0x001E0D02_001E0E01_001E0F02_001E1001_001E1102_001E1201_001E1302_001E1401_001E1502_001E1601,
   0x001E1702_001E1801_001E1902_001E1A01_001E1B02_001E1C01_001E1D02_001E1E01_001E1F02_001E2001,
   0x001E2102_001E2201_001E2302_001E2401_001E2502_001E2601_001E2702_001E2801_001E2902_001E2A01,
   0x001E2B02_001E2C01_001E2D02_001E2E01_001E2F02_001E3001_001E3102_001E3201_001E3302_001E3401,
   0x001E3502_001E3601_001E3702_001E3801_001E3902_001E3A01_001E3B02_001E3C01_001E3D02_001E3E01,
   0x001E3F02_001E4001_001E4102_001E4201_001E4302_001E4401_001E4502_001E4601_001E4702_001E4801,
   0x001E4902_001E4A01_001E4B02_001E4C01_001E4D02_001E4E01_001E4F02_001E5001_001E5102_001E5201,
   0x001E5302_001E5401_001E5502_001E5601_001E5702_001E5801_001E5902_001E5A01_001E5B02_001E5C01,
   0x001E5D02_001E5E01_001E5F02_001E6001_001E6102_001E6201_001E6302_001E6401_001E6502_001E6601,
   0x001E6702_001E6801_001E6902_001E6A01_001E6B02_001E6C01_001E6D02_001E6E01_001E6F02_001E7001,
   0x001E7102_001E7201_001E7302_001E7401_001E7502_001E7601_001E7702_001E7801_001E7902_001E7A01,
   0x001E7B02_001E7C01_001E7D02_001E7E01_001E7F02_001E8001_001E8102_001E8201_001E8302_001E8401,
   0x001E8502_001E8601_001E8702_001E8801_001E8902_001E8A01_001E8B02_001E8C01_001E8D02_001E8E01,
   0x001E8F02_001E9001_001E9102_001E9201_001E9302_001E9401_001E9502_001E9E01_001E9F02_001EA001,
   0x001EA102_001EA201_001EA302_001EA401_001EA502_001EA601_001EA702_001EA801_001EA902_001EAA01,
   0x001EAB02_001EAC01_001EAD02_001EAE01_001EAF02_001EB001_001EB102_001EB201_001EB302_001EB401,
   0x001EB502_001EB601_001EB702_001EB801_001EB902_001EBA01_001EBB02_001EBC01_001EBD02_001EBE01,
   0x001EBF02_001EC001_001EC102_001EC201_001EC302_001EC401_001EC502_001EC601_001EC702_001EC801,
   0x001EC902_001ECA01_001ECB02_001ECC01_001ECD02_001ECE01_001ECF02_001ED001_001ED102_001ED201,
   0x001ED302_001ED401_001ED502_001ED601_001ED702_001ED801_001ED902_001EDA01_001EDB02_001EDC01,
   0x001EDD02_001EDE01_001EDF02_001EE001_001EE102_001EE201_001EE302_001EE401_001EE502_001EE601,
   0x001EE702_001EE801_001EE902_001EEA01_001EEB02_001EEC01_001EED02_001EEE01_001EEF02_001EF001,
   0x001EF102_001EF201_001EF302_001EF401_001EF502_001EF601_001EF702_001EF801_001EF902_001EFA01,
   0x001EFB02_001EFC01_001EFD02_001EFE01_001EFF02_001F0801_001F1002_001F161E_001F1801_001F1E1E,
   0x001F2002_001F2801_001F3002_001F3801_001F4002_001F461E_001F4801_001F4E1E_001F5002_001F581E,
   0x001F5901_001F5A1E_001F5B01_001F5C1E_001F5D01_001F5E1E_001F5F01_001F6002_001F6801_001F7002,
   0x001F7E1E_001F8002_001F8803_001F9002_001F9803_001FA002_001FA803_001FB002_001FB51E_001FB602,
   0x001FB801_001FBC03_001FBD15_001FBE02_001FBF15_001FC202_001FC51E_001FC602_001FC801_001FCC03,
   0x001FCD15_001FD002_001FD41E_001FD602_001FD801_001FDC1E_001FDD15_001FE002_001FE801_001FED15,
   0x001FF01E_001FF202_001FF51E_001FF602_001FF801_001FFC03_001FFD15_001FFF1E_00200017_00200B1B,
   0x0020100D_00201612_00201810_00201911_00201A0E_00201B10_00201D11_00201E0E_00201F10_00202012,
   0x00202818_00202919_00202A1B_00202F17_00203012_00203910_00203A11_00203B12_00203F0C_00204112,
   0x00204413_0020450E_0020460F_00204712_00205213_00205312_0020540C_00205512_00205F17_0020601B,
   0x0020651E_0020661B_0020700B_00207104_0020721E_0020740B_00207A13_00207D0E_00207E0F_00207F04,
   0x0020800B_00208A13_00208D0E_00208E0F_00208F1E_00209004_00209D1E_0020A014_0020C11E_0020D006,
   0x0020DD08_0020E106_0020E208_0020E506_0020F11E_00210016_00210201_00210316_00210701_00210816,
   0x00210A02_00210B01_00210E02_00211001_00211302_00211416_00211501_00211616_00211813_00211901,
   0x00211E16_00212401_00212516_00212601_00212716_00212801_00212916_00212A01_00212E16_00212F02,
   0x00213001_00213402_00213505_00213902_00213A16_00213C02_00213E01_00214013_00214501_00214602,
   0x00214A16_00214B13_00214C16_00214E02_00214F16_0021500B_0021600A_00218301_00218402_0021850A,
   0x0021890B_00218A16_00218C1E_00219013_00219516_00219A13_00219C16_0021A013_0021A116_0021A313,
   0x0021A416_0021A613_0021A716_0021AE13_0021AF16_0021CE13_0021D016_0021D213_0021D316_0021D413,
   0x0021D516_0021F413_00230016_0023080E_0023090F_00230A0E_00230B0F_00230C16_00232013_00232216,
   0x0023290E_00232A0F_00232B16_00237C13_00237D16_00239B13_0023B416_0023DC13_0023E216_00242A1E,
   0x00244016_00244B1E_0024600B_00249C16_0024EA0B_00250016_0025B713_0025B816_0025C113_0025C216,
   0x0025F813_00260016_00266F13_00267016_0027680E_0027690F_00276A0E_00276B0F_00276C0E_00276D0F,
   0x00276E0E_00276F0F_0027700E_0027710F_0027720E_0027730F_0027740E_0027750F_0027760B_00279416,
   0x0027C013_0027C50E_0027C60F_0027C713_0027E60E_0027E70F_0027E80E_0027E90F_0027EA0E_0027EB0F,
   0x0027EC0E_0027ED0F_0027EE0E_0027EF0F_0027F013_00280016_00290013_0029830E_0029840F_0029850E,
   0x0029860F_0029870E_0029880F_0029890E_00298A0F_00298B0E_00298C0F_00298D0E_00298E0F_00298F0E,
   0x0029900F_0029910E_0029920F_0029930E_0029940F_0029950E_0029960F_0029970E_0029980F_00299913,
   0x0029D80E_0029D90F_0029DA0E_0029DB0F_0029DC13_0029FC0E_0029FD0F_0029FE13_002B0016_002B3013,
   0x002B4516_002B4713_002B4D16_002B741E_002B7616_002B961E_002B9716_002C0001_002C3002_002C6001,
   0x002C6102_002C6201_002C6502_002C6701_002C6802_002C6901_002C6A02_002C6B01_002C6C02_002C6D01,
   0x002C7102_002C7201_002C7302_002C7501_002C7602_002C7C04_002C7E01_002C8102_002C8201_002C8302,
   0x002C8401_002C8502_002C8601_002C8702_002C8801_002C8902_002C8A01_002C8B02_002C8C01_002C8D02,
   0x002C8E01_002C8F02_002C9001_002C9102_002C9201_002C9302_002C9401_002C9502_002C9601_002C9702,
   0x002C9801_002C9902_002C9A01_002C9B02_002C9C01_002C9D02_002C9E01_002C9F02_002CA001_002CA102,
   0x002CA201_002CA302_002CA401_002CA502_002CA601_002CA702_002CA801_002CA902_002CAA01_002CAB02,
   0x002CAC01_002CAD02_002CAE01_002CAF02_002CB001_002CB102_002CB201_002CB302_002CB401_002CB502,
   0x002CB601_002CB702_002CB801_002CB902_002CBA01_002CBB02_002CBC01_002CBD02_002CBE01_002CBF02,
   0x002CC001_002CC102_002CC201_002CC302_002CC401_002CC502_002CC601_002CC702_002CC801_002CC902,
   0x002CCA01_002CCB02_002CCC01_002CCD02_002CCE01_002CCF02_002CD001_002CD102_002CD201_002CD302,
   0x002CD401_002CD502_002CD601_002CD702_002CD801_002CD902_002CDA01_002CDB02_002CDC01_002CDD02,
   0x002CDE01_002CDF02_002CE001_002CE102_002CE201_002CE302_002CE516_002CEB01_002CEC02_002CED01,
   0x002CEE02_002CEF06_002CF201_002CF302_002CF41E_002CF912_002CFD0B_002CFE12_002D0002_002D261E,
   0x002D2702_002D281E_002D2D02_002D2E1E_002D3005_002D681E_002D6F04_002D7012_002D711E_002D7F06,
   0x002D8005_002D971E_002DA005_002DA71E_002DA805_002DAF1E_002DB005_002DB71E_002DB805_002DBF1E,
   0x002DC005_002DC71E_002DC805_002DCF1E_002DD005_002DD71E_002DD805_002DDF1E_002DE006_002E0012,
   0x002E0210_002E0311_002E0410_002E0511_002E0612_002E0910_002E0A11_002E0B12_002E0C10_002E0D11,
   0x002E0E12_002E170D_002E1812_002E1A0D_002E1B12_002E1C10_002E1D11_002E1E12_002E2010_002E2111,
   0x002E220E_002E230F_002E240E_002E250F_002E260E_002E270F_002E280E_002E290F_002E2A12_002E2F04,
   0x002E3012_002E3A0D_002E3C12_002E400D_002E4112_002E420E_002E4312_002E5016_002E5212_002E550E,
   0x002E560F_002E570E_002E580F_002E590E_002E5A0F_002E5B0E_002E5C0F_002E5D0D_002E5E1E_002E8016,
   0x002E9A1E_002E9B16_002EF41E_002F0016_002FD61E_002FF016_00300017_00300112_00300416_00300504,
   0x00300605_0030070A_0030080E_0030090F_00300A0E_00300B0F_00300C0E_00300D0F_00300E0E_00300F0F,
   0x0030100E_0030110F_00301216_0030140E_0030150F_0030160E_0030170F_0030180E_0030190F_00301A0E,
   0x00301B0F_00301C0D_00301D0E_00301E0F_00302016_0030210A_00302A06_00302E07_0030300D_00303104,
   0x00303616_0030380A_00303B04_00303C05_00303D12_00303E16_0030401E_00304105_0030971E_00309906,
   0x00309B15_00309D04_00309F05_0030A00D_0030A105_0030FB12_0030FC04_0030FF05_0031001E_00310505,
   0x0031301E_00313105_00318F1E_00319016_0031920B_00319616_0031A005_0031C016_0031E61E_0031EF16,
   0x0031F005_00320016_00321F1E_0032200B_00322A16_0032480B_00325016_0032510B_00326016_0032800B,
   0x00328A16_0032B10B_0032C016_00340005_004DC016_004E0005_00A01504_00A01605_00A48D1E_00A49016,
   0x00A4C71E_00A4D005_00A4F804_00A4FE12_00A50005_00A60C04_00A60D12_00A61005_00A62009_00A62A05,
   0x00A62C1E_00A64001_00A64102_00A64201_00A64302_00A64401_00A64502_00A64601_00A64702_00A64801,
   0x00A64902_00A64A01_00A64B02_00A64C01_00A64D02_00A64E01_00A64F02_00A65001_00A65102_00A65201,
   0x00A65302_00A65401_00A65502_00A65601_00A65702_00A65801_00A65902_00A65A01_00A65B02_00A65C01,
   0x00A65D02_00A65E01_00A65F02_00A66001_00A66102_00A66201_00A66302_00A66401_00A66502_00A66601,
   0x00A66702_00A66801_00A66902_00A66A01_00A66B02_00A66C01_00A66D02_00A66E05_00A66F06_00A67008,
   0x00A67312_00A67406_00A67E12_00A67F04_00A68001_00A68102_00A68201_00A68302_00A68401_00A68502,
   0x00A68601_00A68702_00A68801_00A68902_00A68A01_00A68B02_00A68C01_00A68D02_00A68E01_00A68F02,
   0x00A69001_00A69102_00A69201_00A69302_00A69401_00A69502_00A69601_00A69702_00A69801_00A69902,
   0x00A69A01_00A69B02_00A69C04_00A69E06_00A6A005_00A6E60A_00A6F006_00A6F212_00A6F81E_00A70015,
   0x00A71704_00A72015_00A72201_00A72302_00A72401_00A72502_00A72601_00A72702_00A72801_00A72902,
   0x00A72A01_00A72B02_00A72C01_00A72D02_00A72E01_00A72F02_00A73201_00A73302_00A73401_00A73502,
   0x00A73601_00A73702_00A73801_00A73902_00A73A01_00A73B02_00A73C01_00A73D02_00A73E01_00A73F02,
   0x00A74001_00A74102_00A74201_00A74302_00A74401_00A74502_00A74601_00A74702_00A74801_00A74902,
   0x00A74A01_00A74B02_00A74C01_00A74D02_00A74E01_00A74F02_00A75001_00A75102_00A75201_00A75302,
   0x00A75401_00A75502_00A75601_00A75702_00A75801_00A75902_00A75A01_00A75B02_00A75C01_00A75D02,
   0x00A75E01_00A75F02_00A76001_00A76102_00A76201_00A76302_00A76401_00A76502_00A76601_00A76702,
   0x00A76801_00A76902_00A76A01_00A76B02_00A76C01_00A76D02_00A76E01_00A76F02_00A77004_00A77102,
   0x00A77901_00A77A02_00A77B01_00A77C02_00A77D01_00A77F02_00A78001_00A78102_00A78201_00A78302,
   0x00A78401_00A78502_00A78601_00A78702_00A78804_00A78915_00A78B01_00A78C02_00A78D01_00A78E02,
   0x00A78F05_00A79001_00A79102_00A79201_00A79302_00A79601_00A79702_00A79801_00A79902_00A79A01,
   0x00A79B02_00A79C01_00A79D02_00A79E01_00A79F02_00A7A001_00A7A102_00A7A201_00A7A302_00A7A401,
   0x00A7A502_00A7A601_00A7A702_00A7A801_00A7A902_00A7AA01_00A7AF02_00A7B001_00A7B502_00A7B601,
   0x00A7B702_00A7B801_00A7B902_00A7BA01_00A7BB02_00A7BC01_00A7BD02_00A7BE01_00A7BF02_00A7C001,
   0x00A7C102_00A7C201_00A7C302_00A7C401_00A7C802_00A7C901_00A7CA02_00A7CB01_00A7CD02_00A7CE1E,
   0x00A7D001_00A7D102_00A7D21E_00A7D302_00A7D41E_00A7D502_00A7D601_00A7D702_00A7D801_00A7D902,
   0x00A7DA01_00A7DB02_00A7DC01_00A7DD1E_00A7F204_00A7F501_00A7F602_00A7F705_00A7F804_00A7FA02,
   0x00A7FB05_00A80206_00A80305_00A80606_00A80705_00A80B06_00A80C05_00A82307_00A82506_00A82707,
   0x00A82816_00A82C06_00A82D1E_00A8300B_00A83616_00A83814_00A83916_00A83A1E_00A84005_00A87412,
   0x00A8781E_00A88007_00A88205_00A8B407_00A8C406_00A8C61E_00A8CE12_00A8D009_00A8DA1E_00A8E006,
   0x00A8F205_00A8F812_00A8FB05_00A8FC12_00A8FD05_00A8FF06_00A90009_00A90A05_00A92606_00A92E12,
   0x00A93005_00A94706_00A95207_00A9541E_00A95F12_00A96005_00A97D1E_00A98006_00A98307_00A98405,
   0x00A9B306_00A9B407_00A9B606_00A9BA07_00A9BC06_00A9BE07_00A9C112_00A9CE1E_00A9CF04_00A9D009,
   0x00A9DA1E_00A9DE12_00A9E005_00A9E506_00A9E604_00A9E705_00A9F009_00A9FA05_00A9FF1E_00AA0005,
   0x00AA2906_00AA2F07_00AA3106_00AA3307_00AA3506_00AA371E_00AA4005_00AA4306_00AA4405_00AA4C06,
   0x00AA4D07_00AA4E1E_00AA5009_00AA5A1E_00AA5C12_00AA6005_00AA7004_00AA7105_00AA7716_00AA7A05,
   0x00AA7B07_00AA7C06_00AA7D07_00AA7E05_00AAB006_00AAB105_00AAB206_00AAB505_00AAB706_00AAB905,
   0x00AABE06_00AAC005_00AAC106_00AAC205_00AAC31E_00AADB05_00AADD04_00AADE12_00AAE005_00AAEB07,
   0x00AAEC06_00AAEE07_00AAF012_00AAF205_00AAF304_00AAF507_00AAF606_00AAF71E_00AB0105_00AB071E,
   0x00AB0905_00AB0F1E_00AB1105_00AB171E_00AB2005_00AB271E_00AB2805_00AB2F1E_00AB3002_00AB5B15,
   0x00AB5C04_00AB6002_00AB6904_00AB6A15_00AB6C1E_00AB7002_00ABC005_00ABE307_00ABE506_00ABE607,
   0x00ABE806_00ABE907_00ABEB12_00ABEC07_00ABED06_00ABEE1E_00ABF009_00ABFA1E_00AC0005_00D7A41E,
   0x00D7B005_00D7C71E_00D7CB05_00D7FC1E_00D8001C_00E0001D_00F90005_00FA6E1E_00FA7005_00FADA1E,
   0x00FB0002_00FB071E_00FB1302_00FB181E_00FB1D05_00FB1E06_00FB1F05_00FB2913_00FB2A05_00FB371E,
   0x00FB3805_00FB3D1E_00FB3E05_00FB3F1E_00FB4005_00FB421E_00FB4305_00FB451E_00FB4605_00FBB215,
   0x00FBC31E_00FBD305_00FD3E0F_00FD3F0E_00FD4016_00FD5005_00FD901E_00FD9205_00FDC81E_00FDCF16,
   0x00FDD01E_00FDF005_00FDFC14_00FDFD16_00FE0006_00FE1012_00FE170E_00FE180F_00FE1912_00FE1A1E,
   0x00FE2006_00FE3012_00FE310D_00FE330C_00FE350E_00FE360F_00FE370E_00FE380F_00FE390E_00FE3A0F,
   0x00FE3B0E_00FE3C0F_00FE3D0E_00FE3E0F_00FE3F0E_00FE400F_00FE410E_00FE420F_00FE430E_00FE440F,
   0x00FE4512_00FE470E_00FE480F_00FE4912_00FE4D0C_00FE5012_00FE531E_00FE5412_00FE580D_00FE590E,
   0x00FE5A0F_00FE5B0E_00FE5C0F_00FE5D0E_00FE5E0F_00FE5F12_00FE6213_00FE630D_00FE6413_00FE671E,
   0x00FE6812_00FE6914_00FE6A12_00FE6C1E_00FE7005_00FE751E_00FE7605_00FEFD1E_00FEFF1B_00FF001E,
   0x00FF0112_00FF0414_00FF0512_00FF080E_00FF090F_00FF0A12_00FF0B13_00FF0C12_00FF0D0D_00FF0E12,
   0x00FF1009_00FF1A12_00FF1C13_00FF1F12_00FF2101_00FF3B0E_00FF3C12_00FF3D0F_00FF3E15_00FF3F0C,
   0x00FF4015_00FF4102_00FF5B0E_00FF5C13_00FF5D0F_00FF5E13_00FF5F0E_00FF600F_00FF6112_00FF620E,
   0x00FF630F_00FF6412_00FF6605_00FF7004_00FF7105_00FF9E04_00FFA005_00FFBF1E_00FFC205_00FFC81E,
   0x00FFCA05_00FFD01E_00FFD205_00FFD81E_00FFDA05_00FFDD1E_00FFE014_00FFE213_00FFE315_00FFE416,
   0x00FFE514_00FFE71E_00FFE816_00FFE913_00FFED16_00FFEF1E_00FFF91B_00FFFC16_00FFFE1E_01000005,
   0x01000C1E_01000D05_0100271E_01002805_01003B1E_01003C05_01003E1E_01003F05_01004E1E_01005005,
   0x01005E1E_01008005_0100FB1E_01010012_0101031E_0101070B_0101341E_01013716_0101400A_0101750B,
   0x01017916_01018A0B_01018C16_01018F1E_01019016_01019D1E_0101A016_0101A11E_0101D016_0101FD06,
   0x0101FE1E_01028005_01029D1E_0102A005_0102D11E_0102E006_0102E10B_0102FC1E_01030005_0103200B,
   0x0103241E_01032D05_0103410A_01034205_01034A0A_01034B1E_01035005_01037606_01037B1E_01038005,
   0x01039E1E_01039F12_0103A005_0103C41E_0103C805_0103D012_0103D10A_0103D61E_01040001_01042802,
   0x01045005_01049E1E_0104A009_0104AA1E_0104B001_0104D41E_0104D802_0104FC1E_01050005_0105281E,
   0x01053005_0105641E_01056F12_01057001_01057B1E_01057C01_01058B1E_01058C01_0105931E_01059401,
   0x0105961E_01059702_0105A21E_0105A302_0105B21E_0105B302_0105BA1E_0105BB02_0105BD1E_0105C005,
   0x0105F41E_01060005_0107371E_01074005_0107561E_01076005_0107681E_01078004_0107861E_01078704,
   0x0107B11E_0107B204_0107BB1E_01080005_0108061E_01080805_0108091E_01080A05_0108361E_01083705,
   0x0108391E_01083C05_01083D1E_01083F05_0108561E_01085712_0108580B_01086005_01087716_0108790B,
   0x01088005_01089F1E_0108A70B_0108B01E_0108E005_0108F31E_0108F405_0108F61E_0108FB0B_01090005,
   0x0109160B_01091C1E_01091F12_01092005_01093A1E_01093F12_0109401E_01098005_0109B81E_0109BC0B,
   0x0109BE05_0109C00B_0109D01E_0109D20B_010A0005_010A0106_010A041E_010A0506_010A071E_010A0C06,
   0x010A1005_010A141E_010A1505_010A181E_010A1905_010A361E_010A3806_010A3B1E_010A3F06_010A400B,
   0x010A491E_010A5012_010A591E_010A6005_010A7D0B_010A7F12_010A8005_010A9D0B_010AA01E_010AC005,
   0x010AC816_010AC905_010AE506_010AE71E_010AEB0B_010AF012_010AF71E_010B0005_010B361E_010B3912,
   0x010B4005_010B561E_010B580B_010B6005_010B731E_010B780B_010B8005_010B921E_010B9912_010B9D1E,
   0x010BA90B_010BB01E_010C0005_010C491E_010C8001_010CB31E_010CC002_010CF31E_010CFA0B_010D0005,
   0x010D2406_010D281E_010D3009_010D3A1E_010D4009_010D4A05_010D4E04_010D4F05_010D5001_010D661E,
   0x010D6906_010D6E0D_010D6F04_010D7002_010D861E_010D8E13_010D901E_010E600B_010E7F1E_010E8005,
   0x010EAA1E_010EAB06_010EAD0D_010EAE1E_010EB005_010EB21E_010EC205_010EC51E_010EFC06_010F0005,
   0x010F1D0B_010F2705_010F281E_010F3005_010F4606_010F510B_010F5512_010F5A1E_010F7005_010F8206,
   0x010F8612_010F8A1E_010FB005_010FC50B_010FCC1E_010FE005_010FF71E_01100007_01100106_01100207,
   0x01100305_01103806_01104712_01104E1E_0110520B_01106609_01107006_01107105_01107306_01107505,
   0x0110761E_01107F06_01108207_01108305_0110B007_0110B306_0110B707_0110B906_0110BB12_0110BD1B,
   0x0110BE12_0110C206_0110C31E_0110CD1B_0110CE1E_0110D005_0110E91E_0110F009_0110FA1E_01110006,
   0x01110305_01112706_01112C07_01112D06_0111351E_01113609_01114012_01114405_01114507_01114705,
   0x0111481E_01115005_01117306_01117412_01117605_0111771E_01118006_01118207_01118305_0111B307,
   0x0111B606_0111BF07_0111C105_0111C512_0111C906_0111CD12_0111CE07_0111CF06_0111D009_0111DA05,
   0x0111DB12_0111DC05_0111DD12_0111E01E_0111E10B_0111F51E_01120005_0112121E_01121305_01122C07,
   0x01122F06_01123207_01123406_01123507_01123606_01123812_01123E06_01123F05_01124106_0112421E,
   0x01128005_0112871E_01128805_0112891E_01128A05_01128E1E_01128F05_01129E1E_01129F05_0112A912,
   0x0112AA1E_0112B005_0112DF06_0112E007_0112E306_0112EB1E_0112F009_0112FA1E_01130006_01130207,
   0x0113041E_01130505_01130D1E_01130F05_0113111E_01131305_0113291E_01132A05_0113311E_01133205,
   0x0113341E_01133505_01133A1E_01133B06_01133D05_01133E07_01134006_01134107_0113451E_01134707,
   0x0113491E_01134B07_01134E1E_01135005_0113511E_01135707_0113581E_01135D05_01136207_0113641E,
   0x01136606_01136D1E_01137006_0113751E_01138005_01138A1E_01138B05_01138C1E_01138E05_01138F1E,
   0x01139005_0113B61E_0113B705_0113B807_0113BB06_0113C11E_0113C207_0113C31E_0113C507_0113C61E,
   0x0113C707_0113CB1E_0113CC07_0113CE06_0113CF07_0113D006_0113D105_0113D206_0113D305_0113D412,
   0x0113D61E_0113D712_0113D91E_0113E106_0113E31E_01140005_01143507_01143806_01144007_01144206,
   0x01144507_01144606_01144705_01144B12_01145009_01145A12_01145C1E_01145D12_01145E06_01145F05,
   0x0114621E_01148005_0114B007_0114B306_0114B907_0114BA06_0114BB07_0114BF06_0114C107_0114C206,
   0x0114C405_0114C612_0114C705_0114C81E_0114D009_0114DA1E_01158005_0115AF07_0115B206_0115B61E,
   0x0115B807_0115BC06_0115BE07_0115BF06_0115C112_0115D805_0115DC06_0115DE1E_01160005_01163007,
   0x01163306_01163B07_01163D06_01163E07_01163F06_01164112_01164405_0116451E_01165009_01165A1E,
   0x01166012_01166D1E_01168005_0116AB06_0116AC07_0116AD06_0116AE07_0116B006_0116B607_0116B706,
   0x0116B805_0116B912_0116BA1E_0116C009_0116CA1E_0116D009_0116E41E_01170005_01171B1E_01171D06,
   0x01171E07_01171F06_01172007_01172206_01172607_01172706_01172C1E_01173009_01173A0B_01173C12,
   0x01173F16_01174005_0117471E_01180005_01182C07_01182F06_01183807_01183906_01183B12_01183C1E,
   0x0118A001_0118C002_0118E009_0118EA0B_0118F31E_0118FF05_0119071E_01190905_01190A1E_01190C05,
   0x0119141E_01191505_0119171E_01191805_01193007_0119361E_01193707_0119391E_01193B06_01193D07,
   0x01193E06_01193F05_01194007_01194105_01194207_01194306_01194412_0119471E_01195009_01195A1E,
   0x0119A005_0119A81E_0119AA05_0119D107_0119D406_0119D81E_0119DA06_0119DC07_0119E006_0119E105,
   0x0119E212_0119E305_0119E407_0119E51E_011A0005_011A0106_011A0B05_011A3306_011A3907_011A3A05,
   0x011A3B06_011A3F12_011A4706_011A481E_011A5005_011A5106_011A5707_011A5906_011A5C05_011A8A06,
   0x011A9707_011A9806_011A9A12_011A9D05_011A9E12_011AA31E_011AB005_011AF91E_011B0012_011B0A1E,
   0x011BC005_011BE112_011BE21E_011BF009_011BFA1E_011C0005_011C091E_011C0A05_011C2F07_011C3006,
   0x011C371E_011C3806_011C3E07_011C3F06_011C4005_011C4112_011C461E_011C5009_011C5A0B_011C6D1E,
   0x011C7012_011C7205_011C901E_011C9206_011CA81E_011CA907_011CAA06_011CB107_011CB206_011CB407,
   0x011CB506_011CB71E_011D0005_011D071E_011D0805_011D0A1E_011D0B05_011D3106_011D371E_011D3A06,
   0x011D3B1E_011D3C06_011D3E1E_011D3F06_011D4605_011D4706_011D481E_011D5009_011D5A1E_011D6005,
   0x011D661E_011D6705_011D691E_011D6A05_011D8A07_011D8F1E_011D9006_011D921E_011D9307_011D9506,
   0x011D9607_011D9706_011D9805_011D991E_011DA009_011DAA1E_011EE005_011EF306_011EF507_011EF712,
   0x011EF91E_011F0006_011F0205_011F0307_011F0405_011F111E_011F1205_011F3407_011F3606_011F3B1E,
   0x011F3E07_011F4006_011F4107_011F4206_011F4312_011F5009_011F5A06_011F5B1E_011FB005_011FB11E,
   0x011FC00B_011FD516_011FDD14_011FE116_011FF21E_011FFF12_01200005_01239A1E_0124000A_01246F1E,
   0x01247012_0124751E_01248005_0125441E_012F9005_012FF112_012FF31E_01300005_0134301B_01344006,
   0x01344105_01344706_0134561E_01346005_0143FB1E_01440005_0146471E_01610005_01611E06_01612A07,
   0x01612D06_01613009_01613A1E_01680005_016A391E_016A4005_016A5F1E_016A6009_016A6A1E_016A6E12,
   0x016A7005_016ABF1E_016AC009_016ACA1E_016AD005_016AEE1E_016AF006_016AF512_016AF61E_016B0005,
   0x016B3006_016B3712_016B3C16_016B4004_016B4412_016B4516_016B461E_016B5009_016B5A1E_016B5B0B,
   0x016B621E_016B6305_016B781E_016B7D05_016B901E_016D4004_016D4305_016D6B04_016D6D12_016D7009,
   0x016D7A1E_016E4001_016E6002_016E800B_016E9712_016E9B1E_016F0005_016F4B1E_016F4F06_016F5005,
   0x016F5107_016F881E_016F8F06_016F9304_016FA01E_016FE004_016FE212_016FE304_016FE406_016FE51E,
   0x016FF007_016FF21E_01700005_0187F81E_01880005_018CD61E_018CFF05_018D091E_01AFF004_01AFF41E,
   0x01AFF504_01AFFC1E_01AFFD04_01AFFF1E_01B00005_01B1231E_01B13205_01B1331E_01B15005_01B1531E,
   0x01B15505_01B1561E_01B16405_01B1681E_01B17005_01B2FC1E_01BC0005_01BC6B1E_01BC7005_01BC7D1E,
   0x01BC8005_01BC891E_01BC9005_01BC9A1E_01BC9C16_01BC9D06_01BC9F12_01BCA01B_01BCA41E_01CC0016,
   0x01CCF009_01CCFA1E_01CD0016_01CEB41E_01CF0006_01CF2E1E_01CF3006_01CF471E_01CF5016_01CFC41E,
   0x01D00016_01D0F61E_01D10016_01D1271E_01D12916_01D16507_01D16706_01D16A16_01D16D07_01D1731B,
   0x01D17B06_01D18316_01D18506_01D18C16_01D1AA06_01D1AE16_01D1EB1E_01D20016_01D24206_01D24516,
   0x01D2461E_01D2C00B_01D2D41E_01D2E00B_01D2F41E_01D30016_01D3571E_01D3600B_01D3791E_01D40001,
   0x01D41A02_01D43401_01D44E02_01D4551E_01D45602_01D46801_01D48202_01D49C01_01D49D1E_01D49E01,
   0x01D4A01E_01D4A201_01D4A31E_01D4A501_01D4A71E_01D4A901_01D4AD1E_01D4AE01_01D4B602_01D4BA1E,
   0x01D4BB02_01D4BC1E_01D4BD02_01D4C41E_01D4C502_01D4D001_01D4EA02_01D50401_01D5061E_01D50701,
   0x01D50B1E_01D50D01_01D5151E_01D51601_01D51D1E_01D51E02_01D53801_01D53A1E_01D53B01_01D53F1E,
   0x01D54001_01D5451E_01D54601_01D5471E_01D54A01_01D5511E_01D55202_01D56C01_01D58602_01D5A001,
   0x01D5BA02_01D5D401_01D5EE02_01D60801_01D62202_01D63C01_01D65602_01D67001_01D68A02_01D6A61E,
   0x01D6A801_01D6C113_01D6C202_01D6DB13_01D6DC02_01D6E201_01D6FB13_01D6FC02_01D71513_01D71602,
   0x01D71C01_01D73513_01D73602_01D74F13_01D75002_01D75601_01D76F13_01D77002_01D78913_01D78A02,
   0x01D79001_01D7A913_01D7AA02_01D7C313_01D7C402_01D7CA01_01D7CB02_01D7CC1E_01D7CE09_01D80016,
   0x01DA0006_01DA3716_01DA3B06_01DA6D16_01DA7506_01DA7616_01DA8406_01DA8516_01DA8712_01DA8C1E,
   0x01DA9B06_01DAA01E_01DAA106_01DAB01E_01DF0002_01DF0A05_01DF0B02_01DF1F1E_01DF2502_01DF2B1E,
   0x01E00006_01E0071E_01E00806_01E0191E_01E01B06_01E0221E_01E02306_01E0251E_01E02606_01E02B1E,
   0x01E03004_01E06E1E_01E08F06_01E0901E_01E10005_01E12D1E_01E13006_01E13704_01E13E1E_01E14009,
   0x01E14A1E_01E14E05_01E14F16_01E1501E_01E29005_01E2AE06_01E2AF1E_01E2C005_01E2EC06_01E2F009,
   0x01E2FA1E_01E2FF14_01E3001E_01E4D005_01E4EB04_01E4EC06_01E4F009_01E4FA1E_01E5D005_01E5EE06,
   0x01E5F005_01E5F109_01E5FB1E_01E5FF12_01E6001E_01E7E005_01E7E71E_01E7E805_01E7EC1E_01E7ED05,
   0x01E7EF1E_01E7F005_01E7FF1E_01E80005_01E8C51E_01E8C70B_01E8D006_01E8D71E_01E90001_01E92202,
   0x01E94406_01E94B04_01E94C1E_01E95009_01E95A1E_01E95E12_01E9601E_01EC710B_01ECAC16_01ECAD0B,
   0x01ECB014_01ECB10B_01ECB51E_01ED010B_01ED2E16_01ED2F0B_01ED3E1E_01EE0005_01EE041E_01EE0505,
   0x01EE201E_01EE2105_01EE231E_01EE2405_01EE251E_01EE2705_01EE281E_01EE2905_01EE331E_01EE3405,
   0x01EE381E_01EE3905_01EE3A1E_01EE3B05_01EE3C1E_01EE4205_01EE431E_01EE4705_01EE481E_01EE4905,
   0x01EE4A1E_01EE4B05_01EE4C1E_01EE4D05_01EE501E_01EE5105_01EE531E_01EE5405_01EE551E_01EE5705,
   0x01EE581E_01EE5905_01EE5A1E_01EE5B05_01EE5C1E_01EE5D05_01EE5E1E_01EE5F05_01EE601E_01EE6105,
   0x01EE631E_01EE6405_01EE651E_01EE6705_01EE6B1E_01EE6C05_01EE731E_01EE7405_01EE781E_01EE7905,
   0x01EE7D1E_01EE7E05_01EE7F1E_01EE8005_01EE8A1E_01EE8B05_01EE9C1E_01EEA105_01EEA41E_01EEA505,
   0x01EEAA1E_01EEAB05_01EEBC1E_01EEF013_01EEF21E_01F00016_01F02C1E_01F03016_01F0941E_01F0A016,
   0x01F0AF1E_01F0B116_01F0C01E_01F0C116_01F0D01E_01F0D116_01F0F61E_01F1000B_01F10D16_01F1AE1E,
   0x01F1E616_01F2031E_01F21016_01F23C1E_01F24016_01F2491E_01F25016_01F2521E_01F26016_01F2661E,
   0x01F30016_01F3FB15_01F40016_01F6D81E_01F6DC16_01F6ED1E_01F6F016_01F6FD1E_01F70016_01F7771E,
   0x01F77B16_01F7DA1E_01F7E016_01F7EC1E_01F7F016_01F7F11E_01F80016_01F80C1E_01F81016_01F8481E,
   0x01F85016_01F85A1E_01F86016_01F8881E_01F89016_01F8AE1E_01F8B016_01F8BC1E_01F8C016_01F8C21E,
   0x01F90016_01FA541E_01FA6016_01FA6E1E_01FA7016_01FA7D1E_01FA8016_01FA8A1E_01FA8F16_01FAC71E,
   0x01FACE16_01FADD1E_01FADF16_01FAEA1E_01FAF016_01FAF91E_01FB0016_01FB931E_01FB9416_01FBF009,
   0x01FBFA1E_02000005_02A6E01E_02A70005_02B73A1E_02B74005_02B81E1E_02B82005_02CEA21E_02CEB005,
   0x02EBE11E_02EBF005_02EE5E1E_02F80005_02FA1E1E_03000005_03134B1E_03135005_0323B01E_0E00011B,
   0x0E00021E_0E00201B_0E00801E_0E010006_0E01F01E_0F00001D_0FFFFE1E_1000001D_10FFFE1E]

end TypedPattern.Unicode.Data
