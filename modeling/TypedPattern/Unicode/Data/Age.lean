/-! The age of code points. -/

namespace TypedPattern.Unicode.Data

/-- The versions that assigned characters, oldest first, as major and minor number. -/
def versions : List (Nat × Nat) :=
  [(1, 1), (2, 0), (2, 1), (3, 0), (3, 1), (3, 2), (4, 0), (4, 1), (5, 0), (5, 1), (5, 2), (6, 0), (6, 1), (6, 2), (6, 3), (7, 0), (8, 0), (9, 0), (10, 0), (11, 0), (12, 0), (12, 1), (13, 0), (14, 0), (15, 0), (15, 1), (16, 0)]

/-- The version that assigned each code point: one where none did, else two more than its place in `versions`. -/
def ageRows : List Nat :=
  [0x00000002_0001F605_0001FA02_00021805_00022007_00022108_00022205_00023408_00023709_0002420A,
   0x00025002_0002A905_0002AE08_0002B002_0002DF05_0002E002_0002EA05_0002EF08_00030002_00034605,
   0x00034F07_00035008_00035809_00035D08_00036002_00036205_00036307_0003700B_00037402_0003760B,
   0x00037801_00037A02_00037B0A_00037E02_00037F11_00038001_00038402_00038B01_00038C02_00038D01,
   0x00038E02_0003A201_0003A302_0003CF0B_0003D002_0003D705_0003D807_0003DA02_0003DB05_0003DC02,
   0x0003DD05_0003DE02_0003DF05_0003E002_0003E105_0003E202_0003F406_0003F607_0003F708_0003FC09,
   0x00040005_00040102_00040D05_00040E02_00045005_00045102_00045D05_00045E02_0004870B_00048805,
   0x00048A07_00048C05_00049002_0004C507_0004C702_0004C907_0004CB02_0004CD07_0004CF0A_0004D002,
   0x0004EC05_0004EE02_0004F609_0004F802_0004FA0A_00050007_0005100A_0005140B_0005240C_0005260D,
   0x00052811_00053001_00053102_00055701_00055902_00056015_00056102_00058815_00058902_00058A05,
   0x00058B01_00058D11_00058F0E_00059001_00059103_0005A209_0005A303_0005B002_0005BA0A_0005BB02,
   0x0005C403_0005C509_0005C801_0005D002_0005EB01_0005EF15_0005F002_0005F501_00060008_0006040E,
   0x00060511_0006060B_00060B09_00060C02_00060D08_0006160B_00061B02_00061C10_00061D19_00061E09,
   0x00061F02_0006200D_00062102_00063B0B_00064002_00065305_00065608_00065909_00065F0D_00066002,
   0x00066E07_00067002_0006B805_0006BA02_0006BF05_0006C002_0006CF05_0006D002_0006EE08_0006F002,
   0x0006FA05_0006FF08_00070005_00070E01_00070F05_00072D08_00073005_00074B01_00074D08_00075009,
   0x00076E0B_00078005_0007B107_0007B201_0007C00A_0007FB01_0007FD15_0008000C_00082E01_0008300C,
   0x00083F01_0008400D_00085C01_00085E0D_00085F01_00086014_00086B01_00087019_00088F01_00089019,
   0x00089201_0008971C_00089819_0008A00E_0008A111_0008A20E_0008AD11_0008B312_0008B519_0008B613,
   0x0008BE18_0008C819_0008D315_0008D413_0008E312_0008E40E_0008FF11_0009000C_00090102_00090408,
   0x00090502_00093A0D_00093C02_00094E0C_00094F0D_00095002_0009550C_0009560D_00095802_0009710B,
   0x0009730D_00097811_0009790C_00097B0A_00097D09_00097E0A_00098011_00098102_00098401_00098502,
   0x00098D01_00098F02_00099101_00099302_0009A901_0009AA02_0009B101_0009B202_0009B301_0009B602,
   0x0009BA01_0009BC02_0009BD08_0009BE02_0009C501_0009C702_0009C901_0009CB02_0009CE09_0009CF01,
   0x0009D702_0009D801_0009DC02_0009DE01_0009DF02_0009E401_0009E602_0009FB0C_0009FC14_0009FE15,
   0x0009FF01_000A0108_000A0202_000A0308_000A0401_000A0502_000A0B01_000A0F02_000A1101_000A1302,
   0x000A2901_000A2A02_000A3101_000A3202_000A3401_000A3502_000A3701_000A3802_000A3A01_000A3C02,
   0x000A3D01_000A3E02_000A4301_000A4702_000A4901_000A4B02_000A4E01_000A510B_000A5201_000A5902,
   0x000A5D01_000A5E02_000A5F01_000A6602_000A750B_000A7615_000A7701_000A8102_000A8401_000A8502,
   0x000A8C08_000A8D02_000A8E01_000A8F02_000A9201_000A9302_000AA901_000AAA02_000AB101_000AB202,
   0x000AB401_000AB502_000ABA01_000ABC02_000AC601_000AC702_000ACA01_000ACB02_000ACE01_000AD002,
   0x000AD101_000AE002_000AE108_000AE401_000AE602_000AF00E_000AF108_000AF201_000AF912_000AFA14,
   0x000B0001_000B0102_000B0401_000B0502_000B0D01_000B0F02_000B1101_000B1302_000B2901_000B2A02,
   0x000B3101_000B3202_000B3401_000B3508_000B3602_000B3A01_000B3C02_000B440B_000B4501_000B4702,
   0x000B4901_000B4B02_000B4E01_000B5518_000B5602_000B5801_000B5C02_000B5E01_000B5F02_000B620B,
   0x000B6401_000B6602_000B7108_000B720D_000B7801_000B8202_000B8401_000B8502_000B8B01_000B8E02,
   0x000B9101_000B9202_000B9601_000B9902_000B9B01_000B9C02_000B9D01_000B9E02_000BA001_000BA302,
   0x000BA501_000BA802_000BAB01_000BAE02_000BB609_000BB702_000BBA01_000BBE02_000BC301_000BC602,
   0x000BC901_000BCA02_000BCE01_000BD00B_000BD101_000BD702_000BD801_000BE609_000BE702_000BF308,
   0x000BFB01_000C0011_000C0102_000C0415_000C0502_000C0D01_000C0E02_000C1101_000C1202_000C2901,
   0x000C2A02_000C3411_000C3502_000C3A01_000C3C19_000C3D0B_000C3E02_000C4501_000C4602_000C4901,
   0x000C4A02_000C4E01_000C5502_000C5701_000C580B_000C5A12_000C5B01_000C5D19_000C5E01_000C6002,
   0x000C620B_000C6401_000C6602_000C7001_000C7716_000C780B_000C8013_000C8111_000C8202_000C8415,
   0x000C8502_000C8D01_000C8E02_000C9101_000C9202_000CA901_000CAA02_000CB401_000CB502_000CBA01,
   0x000CBC08_000CBE02_000CC501_000CC602_000CC901_000CCA02_000CCE01_000CD502_000CD701_000CDD19,
   0x000CDE02_000CDF01_000CE002_000CE20A_000CE401_000CE602_000CF001_000CF10A_000CF31A_000CF401,
   0x000D0014_000D0111_000D0202_000D0418_000D0502_000D0D01_000D0E02_000D1101_000D1202_000D290D,
   0x000D2A02_000D3A0D_000D3B14_000D3D0B_000D3E02_000D440B_000D4501_000D4602_000D4901_000D4A02,
   0x000D4E0D_000D4F13_000D5001_000D5413_000D5702_000D5813_000D5F12_000D6002_000D620B_000D6401,
   0x000D6602_000D700B_000D7613_000D790B_000D8001_000D8118_000D8205_000D8401_000D8505_000D9701,
   0x000D9A05_000DB201_000DB305_000DBC01_000DBD05_000DBE01_000DC005_000DC701_000DCA05_000DCB01,
   0x000DCF05_000DD501_000DD605_000DD701_000DD805_000DE001_000DE611_000DF001_000DF205_000DF501,
   0x000E0102_000E3B01_000E3F02_000E5C01_000E8102_000E8301_000E8402_000E8501_000E8616_000E8702,
   0x000E8916_000E8A02_000E8B01_000E8C16_000E8D02_000E8E16_000E9402_000E9816_000E9902_000EA016,
   0x000EA102_000EA401_000EA502_000EA601_000EA702_000EA816_000EAA02_000EAC16_000EAD02_000EBA16,
   0x000EBB02_000EBE01_000EC002_000EC501_000EC602_000EC701_000EC802_000ECE1A_000ECF01_000ED002,
   0x000EDA01_000EDC02_000EDE0E_000EE001_000F0003_000F4801_000F4903_000F6A05_000F6B0B_000F6D01,
   0x000F7103_000F8C0D_000F9003_000F9605_000F9703_000F9801_000F9903_000FAE05_000FB103_000FB805,
   0x000FB903_000FBA05_000FBD01_000FBE05_000FCD01_000FCE0B_000FCF05_000FD009_000FD20B_000FD50C,
   0x000FD90D_000FDB01_00100005_0010220B_00102305_0010280B_00102905_00102B0B_00102C05_0010330B,
   0x00103605_00103A0B_00104005_00105A0B_00109A0C_00109E0B_0010A002_0010C601_0010C70E_0010C801,
   0x0010CD0E_0010CE01_0010D002_0010F707_0010F909_0010FB02_0010FC09_0010FD0E_00110002_00115A0C,
   0x00115F02_0011A30C_0011A802_0011FA0C_00120005_00120709_00120805_00124709_00124805_00124901,
   0x00124A05_00124E01_00125005_00125701_00125805_00125901_00125A05_00125E01_00126005_00128709,
   0x00128805_00128901_00128A05_00128E01_00129005_0012AF09_0012B005_0012B101_0012B205_0012B601,
   0x0012B805_0012BF01_0012C005_0012C101_0012C205_0012C601_0012C805_0012CF09_0012D005_0012D701,
   0x0012D805_0012EF09_0012F005_00130F09_00131005_00131101_00131205_00131601_00131805_00131F09,
   0x00132005_00134709_00134805_00135B01_00135D0D_00135F09_00136105_00137D01_00138009_00139A01,
   0x0013A005_0013F512_0013F601_0013F812_0013FE01_0014000C_00140105_0016770C_00168005_00169D01,
   0x0016A005_0016F111_0016F901_00170007_00170D19_00170E07_00171519_00171601_00171F19_00172007,
   0x00173701_00174007_00175401_00176007_00176D01_00176E07_00177101_00177207_00177401_00178005,
   0x0017DD08_0017DE01_0017E005_0017EA01_0017F008_0017FA01_00180005_00180F19_00181005_00181A01,
   0x00182005_00187815_00187901_00188005_0018AA0B_0018AB01_0018B00C_0018F601_00190008_00191D11,
   0x00191F01_00192008_00192C01_00193008_00193C01_00194008_00194101_00194408_00196E01_00197008,
   0x00197501_00198009_0019AA0C_0019AC01_0019B009_0019CA01_0019D009_0019DA0C_0019DB01_0019DE09,
   0x0019E008_001A0009_001A1C01_001A1E09_001A200C_001A5F01_001A600C_001A7D01_001A7F0C_001A8A01,
   0x001A900C_001A9A01_001AA00C_001AAE01_001AB011_001ABF18_001AC119_001ACF01_001B000A_001B4C19,
   0x001B4D01_001B4E1C_001B500A_001B7D19_001B7F1C_001B800B_001BAB0E_001BAE0B_001BBA0E_001BC00D,
   0x001BF401_001BFC0D_001C000B_001C3801_001C3B0B_001C4A01_001C4D0B_001C8013_001C891C_001C8B01,
   0x001C9015_001CBB01_001CBD15_001CC00E_001CC801_001CD00C_001CF30E_001CF714_001CF811_001CFA16,
   0x001CFB01_001D0008_001D6C09_001DC40A_001DCB0B_001DE711_001DF614_001DFA19_001DFB13_001DFC0D,
   0x001DFD0C_001DFE0A_001E0002_001E9B03_001E9C0B_001EA002_001EFA0B_001F0002_001F1601_001F1802,
   0x001F1E01_001F2002_001F4601_001F4802_001F4E01_001F5002_001F5801_001F5902_001F5A01_001F5B02,
   0x001F5C01_001F5D02_001F5E01_001F5F02_001F7E01_001F8002_001FB501_001FB602_001FC501_001FC602,
   0x001FD401_001FD602_001FDC01_001FDD02_001FF001_001FF202_001FF501_001FF602_001FFF01_00200002,
   0x00202F05_00203002_00204707_00204805_00204E07_00205308_00205509_00205707_00205809_00205F07,
   0x0020640B_00206501_00206610_00206A02_00207107_00207201_00207402_00208F01_00209009_0020950D,
   0x00209D01_0020A002_0020AB03_0020AC04_0020AD05_0020B007_0020B209_0020B60C_0020B90D_0020BA0F,
   0x0020BB11_0020BE12_0020BF14_0020C019_0020C101_0020D002_0020E205_0020E407_0020EB09_0020EC0A,
   0x0020F00B_0020F101_00210002_00213905_00213B08_00213C09_00213D07_00214C09_00214D0A_00214F0B,
   0x0021500C_00215302_00218305_0021840A_0021850B_0021890C_00218A12_00218C01_00219002_0021EB05,
   0x0021F407_00220002_0022F207_00230002_00230105_00230202_00237B05_00237C07_00237D05_00239B07,
   0x0023CF08_0023D109_0023DC0A_0023E80C_0023E90D_0023F411_0023FB13_0023FF14_00240002_00242505,
   0x0024271C_00242A01_00244002_00244B01_00246002_0024EB07_0024FF08_00250002_00259607_0025A002,
   0x0025F005_0025F807_00260002_00261408_00261607_00261809_00261905_00261A02_00267005_00267207,
   0x00267E09_00268007_00268A08_00269209_00269D0B_00269E0C_0026A008_0026A209_0026B20A_0026B30B,
   0x0026BD0C_0026C00B_0026C40C_0026CE0D_0026CF0C_0026E20D_0026E30C_0026E40D_0026E80C_00270011,
   0x00270102_0027050D_00270602_00270A0D_00270C02_0027280D_00272902_00274C0D_00274D02_00274E0D,
   0x00274F02_0027530D_00275602_0027570C_00275802_00275F0D_00276102_00276807_00277602_0027950D,
   0x00279802_0027B00D_0027B102_0027BF0D_0027C009_0027C70A_0027CB0E_0027CC0B_0027CD0E_0027CE0D,
   0x0027D007_0027EC0B_0027F007_00280005_00290007_002B0008_002B0E09_002B140A_002B1B0B_002B200A,
   0x002B240B_002B4D11_002B500B_002B550C_002B5A11_002B7401_002B7611_002B9601_002B9718_002B9811,
   0x002BBA15_002BBD11_002BC916_002BCA11_002BD214_002BD315_002BEC12_002BF015_002BFF16_002C0009,
   0x002C2F19_002C3009_002C5F19_002C600A_002C6D0B_002C700C_002C710B_002C740A_002C780B_002C7E0C,
   0x002C8009_002CEB0C_002CF20E_002CF401_002CF909_002D2601_002D270E_002D2801_002D2D0E_002D2E01,
   0x002D3009_002D660E_002D6801_002D6F09_002D700D_002D7101_002D7F0D_002D8009_002D9701_002DA009,
   0x002DA701_002DA809_002DAF01_002DB009_002DB701_002DB809_002DBF01_002DC009_002DC701_002DC809,
   0x002DCF01_002DD009_002DD701_002DD809_002DDF01_002DE00B_002E0009_002E180B_002E1C09_002E1E0B,
   0x002E310C_002E320E_002E3C11_002E4313_002E4514_002E4A15_002E4F16_002E5018_002E5319_002E5E01,
   0x002E8005_002E9A01_002E9B05_002EF401_002F0005_002FD601_002FF005_002FFC1B_00300002_00303805,
   0x00303B07_00303E05_00303F02_00304001_00304102_00309507_00309701_00309902_00309F07_0030A102,
   0x0030FF07_00310001_00310502_00312D0B_00312E14_00312F15_00313001_00313102_00318F01_00319002,
   0x0031A005_0031B80D_0031BB18_0031C009_0031D00B_0031E41C_0031E601_0031EF1B_0031F007_00320002,
   0x00321D08_00321F01_00322002_0032440C_00325008_00325107_00326002_00327C08_00327E09_00327F02,
   0x0032B107_0032C002_0032CC08_0032D002_0032FF17_00330002_00337708_00337B02_0033DE08_0033E002,
   0x0033FF08_00340005_004DB618_004DC008_004E0002_009FA609_009FBC0B_009FC40C_009FCC0E_009FCD12,
   0x009FD614_009FEB15_009FF018_009FFD19_00A00005_00A48D01_00A49005_00A4A207_00A4A405_00A4B407,
   0x00A4B505_00A4C107_00A4C205_00A4C507_00A4C605_00A4C701_00A4D00C_00A5000B_00A62C01_00A6400B,
   0x00A6600D_00A6620B_00A6740E_00A67C0B_00A69811_00A69E12_00A69F0E_00A6A00C_00A6F801_00A70009,
   0x00A7170A_00A71B0B_00A7200A_00A7220B_00A78D0D_00A78F12_00A7900D_00A7920E_00A79411_00A7A00D,
   0x00A7AA0E_00A7AB11_00A7AE13_00A7AF15_00A7B011_00A7B212_00A7B815_00A7BA16_00A7C019_00A7C216,
   0x00A7C718_00A7CB1C_00A7CE01_00A7D019_00A7D201_00A7D319_00A7D401_00A7D519_00A7DA1C_00A7DD01,
   0x00A7F219_00A7F518_00A7F711_00A7F80E_00A7FA0D_00A7FB0B_00A80009_00A82C18_00A82D01_00A8300C,
   0x00A83A01_00A8400A_00A87801_00A8800B_00A8C513_00A8C601_00A8CE0B_00A8DA01_00A8E00C_00A8FC12,
   0x00A8FE15_00A9000B_00A95401_00A95F0B_00A9600C_00A97D01_00A9800C_00A9CE01_00A9CF0C_00A9DA01,
   0x00A9DE0C_00A9E011_00A9FF01_00AA000B_00AA3701_00AA400B_00AA4E01_00AA500B_00AA5A01_00AA5C0B,
   0x00AA600C_00AA7C11_00AA800C_00AAC301_00AADB0C_00AAE00E_00AAF701_00AB010D_00AB0701_00AB090D,
   0x00AB0F01_00AB110D_00AB1701_00AB200D_00AB2701_00AB280D_00AB2F01_00AB3011_00AB6012_00AB6411,
   0x00AB6616_00AB6818_00AB6C01_00AB7012_00ABC00C_00ABEE01_00ABF00C_00ABFA01_00AC0003_00D7A401,
   0x00D7B00C_00D7C701_00D7CB0C_00D7FC01_00D80003_00E00002_00FA2E0E_00FA3007_00FA6B0C_00FA6E01,
   0x00FA7009_00FADA01_00FB0002_00FB0701_00FB1302_00FB1801_00FB1D05_00FB1E02_00FB3701_00FB3802,
   0x00FB3D01_00FB3E02_00FB3F01_00FB4002_00FB4201_00FB4302_00FB4501_00FB4602_00FBB20D_00FBC219,
   0x00FBC301_00FBD302_00FD4019_00FD5002_00FD9001_00FD9202_00FDC801_00FDCF19_00FDD006_00FDF002,
   0x00FDFC07_00FDFD08_00FDFE19_00FE0007_00FE1009_00FE1A01_00FE2002_00FE240B_00FE2711_00FE2E12,
   0x00FE3002_00FE4507_00FE4708_00FE4902_00FE5301_00FE5402_00FE6701_00FE6802_00FE6C01_00FE7002,
   0x00FE7307_00FE7402_00FE7501_00FE7602_00FEFD01_00FEFF02_00FF0001_00FF0102_00FF5F07_00FF6102,
   0x00FFBF01_00FFC202_00FFC801_00FFCA02_00FFD001_00FFD202_00FFD801_00FFDA02_00FFDD01_00FFE002,
   0x00FFE701_00FFE802_00FFEF01_00FFF905_00FFFC04_00FFFD02_01000008_01000C01_01000D08_01002701,
   0x01002808_01003B01_01003C08_01003E01_01003F08_01004E01_01005008_01005E01_01008008_0100FB01,
   0x01010008_01010301_01010708_01013401_01013708_01014009_01018B11_01018D13_01018F01_0101900B,
   0x01019C18_01019D01_0101A011_0101A101_0101D00B_0101FE01_0102800B_01029D01_0102A00B_0102D101,
   0x0102E011_0102FC01_01030006_01031F11_01032006_01032401_01032D14_01033006_01034B01_01035011,
   0x01037B01_01038008_01039E01_01039F08_0103A009_0103C401_0103C809_0103D601_01040006_01042608,
   0x01042806_01044E08_01049E01_0104A008_0104AA01_0104B013_0104D401_0104D813_0104FC01_01050011,
   0x01052801_01053011_01056401_01056F11_01057019_01057B01_01057C19_01058B01_01058C19_01059301,
   0x01059419_01059601_01059719_0105A201_0105A319_0105B201_0105B319_0105BA01_0105BB19_0105BD01,
   0x0105C01C_0105F401_01060011_01073701_01074011_01075601_01076011_01076801_01078019_01078601,
   0x01078719_0107B101_0107B219_0107BB01_01080008_01080601_01080808_01080901_01080A08_01083601,
   0x01083708_01083901_01083C08_01083D01_01083F08_0108400C_01085601_0108570C_01086011_01089F01,
   0x0108A711_0108B001_0108E012_0108F301_0108F412_0108F601_0108FB12_0109000A_01091A0C_01091C01,
   0x01091F0A_0109200B_01093A01_01093F0B_01094001_0109800E_0109B801_0109BC12_0109BE0E_0109C012,
   0x0109D001_0109D212_010A0009_010A0401_010A0509_010A0701_010A0C09_010A1401_010A1509_010A1801,
   0x010A1909_010A3415_010A3601_010A3809_010A3B01_010A3F09_010A4815_010A4901_010A5009_010A5901,
   0x010A600C_010A8011_010AA001_010AC011_010AE701_010AEB11_010AF701_010B000C_010B3601_010B390C,
   0x010B5601_010B580C_010B7301_010B780C_010B8011_010B9201_010B9911_010B9D01_010BA911_010BB001,
   0x010C000C_010C4901_010C8012_010CB301_010CC012_010CF301_010CFA12_010D0015_010D2801_010D3015,
   0x010D3A01_010D401C_010D6601_010D691C_010D8601_010D8E1C_010D9001_010E600C_010E7F01_010E8018,
   0x010EAA01_010EAB18_010EAE01_010EB018_010EB201_010EC21C_010EC501_010EFC1C_010EFD1A_010F0015,
   0x010F2801_010F3015_010F5A01_010F7019_010F8A01_010FB018_010FCC01_010FE016_010FF701_0110000D,
   0x01104E01_0110520D_01107019_01107601_01107F11_0110800C_0110C219_0110C301_0110CD15_0110CE01,
   0x0110D00E_0110E901_0110F00E_0110FA01_0111000E_01113501_0111360E_01114415_01114718_01114801,
   0x01115011_01117701_0111800E_0111C912_0111CD11_0111CE18_0111D00E_0111DA11_0111DB12_0111E001,
   0x0111E111_0111F501_01120011_01121201_01121311_01123E13_01123F1A_01124201_01128012_01128701,
   0x01128812_01128901_01128A12_01128E01_01128F12_01129E01_01129F12_0112AA01_0112B011_0112EB01,
   0x0112F011_0112FA01_01130012_01130111_01130401_01130511_01130D01_01130F11_01131101_01131311,
   0x01132901_01132A11_01133101_01133211_01133401_01133511_01133A01_01133B15_01133C11_01134501,
   0x01134711_01134901_01134B11_01134E01_01135012_01135101_01135711_01135801_01135D11_01136401,
   0x01136611_01136D01_01137011_01137501_0113801C_01138A01_01138B1C_01138C01_01138E1C_01138F01,
   0x0113901C_0113B601_0113B71C_0113C101_0113C21C_0113C301_0113C51C_0113C601_0113C71C_0113CB01,
   0x0113CC1C_0113D601_0113D71C_0113D901_0113E11C_0113E301_01140013_01145A18_01145B13_01145C01,
   0x01145D13_01145E15_01145F16_01146018_01146201_01148011_0114C801_0114D011_0114DA01_01158011,
   0x0115B601_0115B811_0115CA12_0115DE01_01160011_01164501_01165011_01165A01_01166013_01166D01,
   0x0116800E_0116B816_0116B919_0116BA01_0116C00E_0116CA01_0116D01C_0116E401_01170012_01171A15,
   0x01171B01_01171D12_01172C01_01173012_01174019_01174701_01180015_01183C01_0118A011_0118F301,
   0x0118FF11_01190018_01190701_01190918_01190A01_01190C18_01191401_01191518_01191701_01191818,
   0x01193601_01193718_01193901_01193B18_01194701_01195018_01195A01_0119A016_0119A801_0119AA16,
   0x0119D801_0119DA16_0119E501_011A0014_011A4801_011A5014_011A8416_011A8614_011A9D15_011A9E14,
   0x011AA301_011AB019_011AC011_011AF901_011B001A_011B0A01_011BC01C_011BE201_011BF01C_011BFA01,
   0x011C0013_011C0901_011C0A13_011C3701_011C3813_011C4601_011C5013_011C6D01_011C7013_011C9001,
   0x011C9213_011CA801_011CA913_011CB701_011D0014_011D0701_011D0814_011D0A01_011D0B14_011D3701,
   0x011D3A14_011D3B01_011D3C14_011D3E01_011D3F14_011D4801_011D5014_011D5A01_011D6015_011D6601,
   0x011D6715_011D6901_011D6A15_011D8F01_011D9015_011D9201_011D9315_011D9901_011DA015_011DAA01,
   0x011EE015_011EF901_011F001A_011F1101_011F121A_011F3B01_011F3E1A_011F5A1C_011F5B01_011FB018,
   0x011FB101_011FC016_011FF201_011FFF16_0120000A_01236F11_01239912_01239A01_0124000A_01246311,
   0x01246F01_0124700A_01247411_01247501_01248012_01254401_012F9019_012FF301_0130000C_01342F1A,
   0x01343016_0134391A_01345601_0134601C_0143FB01_01440012_01464701_0161001C_01613A01_0168000D,
   0x016A3901_016A4011_016A5F01_016A6011_016A6A01_016A6E11_016A7019_016ABF01_016AC019_016ACA01,
   0x016AD011_016AEE01_016AF011_016AF601_016B0011_016B4601_016B5011_016B5A01_016B5B11_016B6201,
   0x016B6311_016B7801_016B7D11_016B9001_016D401C_016D7A01_016E4015_016E9B01_016F000E_016F4516,
   0x016F4B01_016F4F16_016F500E_016F7F16_016F8801_016F8F0E_016FA001_016FE013_016FE114_016FE216,
   0x016FE418_016FE501_016FF018_016FF201_01700013_0187ED15_0187F216_0187F801_01880013_018AF318,
   0x018CD601_018CFF1C_018D0018_018D0901_01AFF019_01AFF401_01AFF519_01AFFC01_01AFFD19_01AFFF01,
   0x01B0000D_01B00214_01B11F19_01B12301_01B1321A_01B13301_01B15016_01B15301_01B1551A_01B15601,
   0x01B16416_01B16801_01B17014_01B2FC01_01BC0011_01BC6B01_01BC7011_01BC7D01_01BC8011_01BC8901,
   0x01BC9011_01BC9A01_01BC9C11_01BCA401_01CC001C_01CCFA01_01CD001C_01CEB401_01CF0019_01CF2E01,
   0x01CF3019_01CF4701_01CF5019_01CFC401_01D00006_01D0F601_01D10006_01D12701_01D1290B_01D12A06,
   0x01D1DE12_01D1E919_01D1EB01_01D20009_01D24601_01D2C01A_01D2D401_01D2E015_01D2F401_01D30008,
   0x01D35701_01D3600A_01D37215_01D37901_01D40006_01D45501_01D45606_01D49D01_01D49E06_01D4A001,
   0x01D4A206_01D4A301_01D4A506_01D4A701_01D4A906_01D4AD01_01D4AE06_01D4BA01_01D4BB06_01D4BC01,
   0x01D4BD06_01D4C108_01D4C206_01D4C401_01D4C506_01D50601_01D50706_01D50B01_01D50D06_01D51501,
   0x01D51606_01D51D01_01D51E06_01D53A01_01D53B06_01D53F01_01D54006_01D54501_01D54606_01D54701,
   0x01D54A06_01D55101_01D55206_01D6A409_01D6A601_01D6A806_01D7CA0A_01D7CC01_01D7CE06_01D80012,
   0x01DA8C01_01DA9B12_01DAA001_01DAA112_01DAB001_01DF0019_01DF1F01_01DF251A_01DF2B01_01E00013,
   0x01E00701_01E00813_01E01901_01E01B13_01E02201_01E02313_01E02501_01E02613_01E02B01_01E0301A,
   0x01E06E01_01E08F1A_01E09001_01E10016_01E12D01_01E13016_01E13E01_01E14016_01E14A01_01E14E16,
   0x01E15001_01E29019_01E2AF01_01E2C016_01E2FA01_01E2FF16_01E30001_01E4D01A_01E4FA01_01E5D01C,
   0x01E5FB01_01E5FF1C_01E60001_01E7E019_01E7E701_01E7E819_01E7EC01_01E7ED19_01E7EF01_01E7F019,
   0x01E7FF01_01E80011_01E8C501_01E8C711_01E8D701_01E90013_01E94B16_01E94C01_01E95013_01E95A01,
   0x01E95E13_01E96001_01EC7115_01ECB501_01ED0116_01ED3E01_01EE000E_01EE0401_01EE050E_01EE2001,
   0x01EE210E_01EE2301_01EE240E_01EE2501_01EE270E_01EE2801_01EE290E_01EE3301_01EE340E_01EE3801,
   0x01EE390E_01EE3A01_01EE3B0E_01EE3C01_01EE420E_01EE4301_01EE470E_01EE4801_01EE490E_01EE4A01,
   0x01EE4B0E_01EE4C01_01EE4D0E_01EE5001_01EE510E_01EE5301_01EE540E_01EE5501_01EE570E_01EE5801,
   0x01EE590E_01EE5A01_01EE5B0E_01EE5C01_01EE5D0E_01EE5E01_01EE5F0E_01EE6001_01EE610E_01EE6301,
   0x01EE640E_01EE6501_01EE670E_01EE6B01_01EE6C0E_01EE7301_01EE740E_01EE7801_01EE790E_01EE7D01,
   0x01EE7E0E_01EE7F01_01EE800E_01EE8A01_01EE8B0E_01EE9C01_01EEA10E_01EEA401_01EEA50E_01EEAA01,
   0x01EEAB0E_01EEBC01_01EEF00E_01EEF201_01F0000B_01F02C01_01F0300B_01F09401_01F0A00D_01F0AF01,
   0x01F0B10D_01F0BF11_01F0C001_01F0C10D_01F0D001_01F0D10D_01F0E011_01F0F601_01F1000C_01F10B11,
   0x01F10D18_01F1100C_01F12F15_01F1300D_01F1310C_01F1320D_01F13D0C_01F13E0D_01F13F0C_01F1400D,
   0x01F1420C_01F1430D_01F1460C_01F1470D_01F14A0C_01F14F0D_01F1570C_01F1580D_01F15F0C_01F1600D,
   0x01F16A0E_01F16C16_01F16D18_01F1700D_01F1790C_01F17A0D_01F17B0C_01F17D0D_01F17F0C_01F1800D,
   0x01F18A0C_01F18E0D_01F1900C_01F1910D_01F19B13_01F1AD18_01F1AE01_01F1E60D_01F2000C_01F2010D,
   0x01F20301_01F2100C_01F2320D_01F23B13_01F23C01_01F2400C_01F24901_01F2500D_01F25201_01F26014,
   0x01F26601_01F3000D_01F32111_01F32D12_01F3300D_01F33611_01F3370D_01F37D11_01F37E12_01F3800D,
   0x01F39411_01F3A00D_01F3C511_01F3C60D_01F3CB11_01F3CF12_01F3D411_01F3E00D_01F3F111_01F3F812,
   0x01F4000D_01F43F11_01F4400D_01F44111_01F4420D_01F4F811_01F4F90D_01F4FD11_01F4FF12_01F5000D,
   0x01F53E11_01F5400E_01F54411_01F54B12_01F5500D_01F56811_01F57A13_01F57B11_01F5A413_01F5A511,
   0x01F5FB0D_01F6000E_01F6010D_01F6110E_01F6120D_01F6150E_01F6160D_01F6170E_01F6180D_01F6190E,
   0x01F61A0D_01F61B0E_01F61C0D_01F61F0E_01F6200D_01F6260E_01F6280D_01F62C0E_01F62D0D_01F62E0E,
   0x01F6300D_01F6340E_01F6350D_01F64111_01F64312_01F6450D_01F65011_01F6800D_01F6C611_01F6D012,
   0x01F6D113_01F6D314_01F6D516_01F6D618_01F6D801_01F6DC1A_01F6DD19_01F6E011_01F6ED01_01F6F011,
   0x01F6F413_01F6F714_01F6F915_01F6FA16_01F6FB18_01F6FD01_01F7000D_01F7741A_01F77701_01F77B1A,
   0x01F78011_01F7D515_01F7D91A_01F7DA01_01F7E016_01F7EC01_01F7F019_01F7F101_01F80011_01F80C01,
   0x01F81011_01F84801_01F85011_01F85A01_01F86011_01F88801_01F89011_01F8AE01_01F8B018_01F8B21C,
   0x01F8BC01_01F8C01C_01F8C201_01F90014_01F90C18_01F90D16_01F91012_01F91913_01F91F14_01F92013,
   0x01F92814_01F93013_01F93114_01F93313_01F93F16_01F94013_01F94C14_01F94D15_01F95013_01F95F14,
   0x01F96C15_01F97116_01F97218_01F97315_01F97718_01F97919_01F97A15_01F97B16_01F97C15_01F98012,
   0x01F98513_01F99214_01F99815_01F9A318_01F9A516_01F9AB18_01F9AE16_01F9B015_01F9BA16_01F9C012,
   0x01F9C115_01F9C316_01F9CB18_01F9CC19_01F9CD16_01F9D014_01F9E715_01FA0016_01FA5401_01FA6015,
   0x01FA6E01_01FA7016_01FA7418_01FA751A_01FA7816_01FA7B19_01FA7D01_01FA8016_01FA8318_01FA871A,
   0x01FA891C_01FA8A01_01FA8F1C_01FA9016_01FA9618_01FAA919_01FAAD1A_01FAB018_01FAB719_01FABB1A,
   0x01FABE1C_01FABF1A_01FAC018_01FAC319_01FAC61C_01FAC701_01FACE1A_01FAD018_01FAD719_01FADA1A,
   0x01FADC1C_01FADD01_01FADF1C_01FAE019_01FAE81A_01FAE91C_01FAEA01_01FAF019_01FAF71A_01FAF901,
   0x01FB0018_01FB9301_01FB9418_01FBCB1C_01FBF018_01FBFA01_01FFFE03_02000006_02A6D718_02A6DE19,
   0x02A6E001_02A7000C_02B73519_02B7391A_02B73A01_02B7400D_02B81E01_02B82012_02CEA201_02CEB014,
   0x02EBE101_02EBF01B_02EE5E01_02F80006_02FA1E01_02FFFE03_03000018_03134B01_0313501A_0323B001,
   0x03FFFE03_04000001_04FFFE03_05000001_05FFFE03_06000001_06FFFE03_07000001_07FFFE03_08000001,
   0x08FFFE03_09000001_09FFFE03_0A000001_0AFFFE03_0B000001_0BFFFE03_0C000001_0CFFFE03_0D000001,
   0x0DFFFE03_0E000001_0E000106_0E000201_0E002006_0E008001_0E010008_0E01F001_0EFFFE03]

end TypedPattern.Unicode.Data
