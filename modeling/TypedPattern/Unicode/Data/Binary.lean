/-! Binary properties of code points, as runs, each table named for its property. A row holds up to five runs of
thirteen hexadecimal digits: six for the first code point, six for the last one, one for the step between neighbours. -/

namespace TypedPattern.Unicode.Data

def asciiHexDigitRows : List Nat :=
  [0x000030_000039_1_000041_000046_1_000061_000066_1]

def bidiControlRows : List Nat :=
  [0x00061C_00061C_1_00200E_00200F_1_00202A_00202E_1_002066_002069_1]

def bidiMirroredRows : List Nat :=
  [0x000028_000029_1_00003C_00003E_2_00005B_00005D_2_00007B_00007D_2_0000AB_0000AB_1,
   0x0000BB_0000BB_1_000F3A_000F3D_1_00169B_00169C_1_002039_00203A_1_002045_002046_1,
   0x00207D_00207E_1_00208D_00208E_1_002140_002140_1_002201_002204_1_002208_00220D_1,
   0x002211_002211_1_002215_002216_1_00221A_00221D_1_00221F_002222_1_002224_002226_2,
   0x00222B_002233_1_002239_002239_1_00223B_00224C_1_002252_002255_1_00225F_002260_1,
   0x002262_002262_1_002264_00226B_1_00226D_00228C_1_00228F_002292_1_002298_002298_1,
   0x0022A2_0022A3_1_0022A6_0022B8_1_0022BE_0022BF_1_0022C9_0022CD_1_0022D0_0022D1_1,
   0x0022D6_0022ED_1_0022F0_0022FF_1_002308_00230B_1_002320_002321_1_002329_00232A_1,
   0x002768_002775_1_0027C0_0027C0_1_0027C3_0027C6_1_0027C8_0027C9_1_0027CB_0027CD_1,
   0x0027D3_0027D6_1_0027DC_0027DE_1_0027E2_0027EF_1_002983_002998_1_00299B_0029A0_1,
   0x0029A2_0029AF_1_0029B8_0029B8_1_0029C0_0029C5_1_0029C9_0029C9_1_0029CE_0029D2_1,
   0x0029D4_0029D5_1_0029D8_0029DC_1_0029E1_0029E1_1_0029E3_0029E5_1_0029E8_0029E9_1,
   0x0029F4_0029F9_1_0029FC_0029FD_1_002A0A_002A1C_1_002A1E_002A21_1_002A24_002A26_2,
   0x002A29_002A29_1_002A2B_002A2E_1_002A34_002A35_1_002A3C_002A3E_1_002A57_002A58_1,
   0x002A64_002A65_1_002A6A_002A6D_1_002A6F_002A70_1_002A73_002A74_1_002A79_002AA3_1,
   0x002AA6_002AAD_1_002AAF_002AD6_1_002ADC_002ADE_2_002AE2_002AE6_1_002AEC_002AEE_1,
   0x002AF3_002AF3_1_002AF7_002AFB_1_002AFD_002AFD_1_002BFE_002BFE_1_002E02_002E05_1,
   0x002E09_002E0A_1_002E0C_002E0D_1_002E1C_002E1D_1_002E20_002E29_1_002E55_002E5C_1,
   0x003008_003011_1_003014_00301B_1_00FE59_00FE5E_1_00FE64_00FE65_1_00FF08_00FF09_1,
   0x00FF1C_00FF1E_2_00FF3B_00FF3D_2_00FF5B_00FF5D_2_00FF5F_00FF60_1_00FF62_00FF63_1,
   0x01D6DB_01D6DB_1_01D715_01D715_1_01D74F_01D74F_1_01D789_01D789_1_01D7C3_01D7C3_1]

def changesWhenCasefoldedRows : List Nat :=
  [0x000041_00005A_1_0000B5_0000B5_1_0000C0_0000D6_1_0000D8_0000DF_1_000100_000136_2,
   0x000139_000147_2_000149_00014A_1_00014C_000176_2_000178_000179_1_00017B_00017F_2,
   0x000181_000182_1_000184_000184_1_000186_000187_1_000189_00018B_1_00018E_000191_1,
   0x000193_000194_1_000196_000198_1_00019C_00019D_1_00019F_0001A0_1_0001A2_0001A4_2,
   0x0001A6_0001A7_1_0001A9_0001A9_1_0001AC_0001AC_1_0001AE_0001AF_1_0001B1_0001B3_1,
   0x0001B5_0001B5_1_0001B7_0001B8_1_0001BC_0001BC_1_0001C4_0001C5_1_0001C7_0001C8_1,
   0x0001CA_0001CB_1_0001CD_0001DB_2_0001DE_0001EE_2_0001F1_0001F2_1_0001F4_0001F4_1,
   0x0001F6_0001F8_1_0001FA_000232_2_00023A_00023B_1_00023D_00023E_1_000241_000241_1,
   0x000243_000246_1_000248_00024E_2_000345_000345_1_000370_000372_2_000376_000376_1,
   0x00037F_00037F_1_000386_000386_1_000388_00038A_1_00038C_00038C_1_00038E_00038F_1,
   0x000391_0003A1_1_0003A3_0003AB_1_0003C2_0003C2_1_0003CF_0003D1_1_0003D5_0003D6_1,
   0x0003D8_0003EE_2_0003F0_0003F1_1_0003F4_0003F5_1_0003F7_0003F7_1_0003F9_0003FA_1,
   0x0003FD_00042F_1_000460_000480_2_00048A_0004BE_2_0004C0_0004C1_1_0004C3_0004CD_2,
   0x0004D0_00052E_2_000531_000556_1_000587_000587_1_0010A0_0010C5_1_0010C7_0010C7_1,
   0x0010CD_0010CD_1_0013F8_0013FD_1_001C80_001C89_1_001C90_001CBA_1_001CBD_001CBF_1,
   0x001E00_001E94_2_001E9A_001E9B_1_001E9E_001EFE_2_001F08_001F0F_1_001F18_001F1D_1,
   0x001F28_001F2F_1_001F38_001F3F_1_001F48_001F4D_1_001F59_001F5F_2_001F68_001F6F_1,
   0x001F80_001FAF_1_001FB2_001FB4_1_001FB7_001FBC_1_001FC2_001FC4_1_001FC7_001FCC_1,
   0x001FD8_001FDB_1_001FE8_001FEC_1_001FF2_001FF4_1_001FF7_001FFC_1_002126_002126_1,
   0x00212A_00212B_1_002132_002132_1_002160_00216F_1_002183_002183_1_0024B6_0024CF_1,
   0x002C00_002C2F_1_002C60_002C60_1_002C62_002C64_1_002C67_002C6B_2_002C6D_002C70_1,
   0x002C72_002C72_1_002C75_002C75_1_002C7E_002C80_1_002C82_002CE2_2_002CEB_002CED_2,
   0x002CF2_002CF2_1_00A640_00A66C_2_00A680_00A69A_2_00A722_00A72E_2_00A732_00A76E_2,
   0x00A779_00A77B_2_00A77D_00A77E_1_00A780_00A786_2_00A78B_00A78D_2_00A790_00A792_2,
   0x00A796_00A7A8_2_00A7AA_00A7AE_1_00A7B0_00A7B4_1_00A7B6_00A7C2_2_00A7C4_00A7C7_1,
   0x00A7C9_00A7C9_1_00A7CB_00A7CC_1_00A7D0_00A7D0_1_00A7D6_00A7DC_2_00A7F5_00A7F5_1,
   0x00AB70_00ABBF_1_00FB00_00FB06_1_00FB13_00FB17_1_00FF21_00FF3A_1_010400_010427_1,
   0x0104B0_0104D3_1_010570_01057A_1_01057C_01058A_1_01058C_010592_1_010594_010595_1,
   0x010C80_010CB2_1_010D50_010D65_1_0118A0_0118BF_1_016E40_016E5F_1_01E900_01E921_1]

def changesWhenLowercasedRows : List Nat :=
  [0x000041_00005A_1_0000C0_0000D6_1_0000D8_0000DE_1_000100_000136_2_000139_000147_2,
   0x00014A_000176_2_000178_000179_1_00017B_00017D_2_000181_000182_1_000184_000184_1,
   0x000186_000187_1_000189_00018B_1_00018E_000191_1_000193_000194_1_000196_000198_1,
   0x00019C_00019D_1_00019F_0001A0_1_0001A2_0001A4_2_0001A6_0001A7_1_0001A9_0001A9_1,
   0x0001AC_0001AC_1_0001AE_0001AF_1_0001B1_0001B3_1_0001B5_0001B5_1_0001B7_0001B8_1,
   0x0001BC_0001BC_1_0001C4_0001C5_1_0001C7_0001C8_1_0001CA_0001CB_1_0001CD_0001DB_2,
   0x0001DE_0001EE_2_0001F1_0001F2_1_0001F4_0001F4_1_0001F6_0001F8_1_0001FA_000232_2,
   0x00023A_00023B_1_00023D_00023E_1_000241_000241_1_000243_000246_1_000248_00024E_2,
   0x000370_000372_2_000376_000376_1_00037F_00037F_1_000386_000386_1_000388_00038A_1,
   0x00038C_00038C_1_00038E_00038F_1_000391_0003A1_1_0003A3_0003AB_1_0003CF_0003CF_1,
   0x0003D8_0003EE_2_0003F4_0003F4_1_0003F7_0003F7_1_0003F9_0003FA_1_0003FD_00042F_1,
   0x000460_000480_2_00048A_0004BE_2_0004C0_0004C1_1_0004C3_0004CD_2_0004D0_00052E_2,
   0x000531_000556_1_0010A0_0010C5_1_0010C7_0010C7_1_0010CD_0010CD_1_0013A0_0013F5_1,
   0x001C89_001C89_1_001C90_001CBA_1_001CBD_001CBF_1_001E00_001E94_2_001E9E_001EFE_2,
   0x001F08_001F0F_1_001F18_001F1D_1_001F28_001F2F_1_001F38_001F3F_1_001F48_001F4D_1,
   0x001F59_001F5F_2_001F68_001F6F_1_001F88_001F8F_1_001F98_001F9F_1_001FA8_001FAF_1,
   0x001FB8_001FBC_1_001FC8_001FCC_1_001FD8_001FDB_1_001FE8_001FEC_1_001FF8_001FFC_1,
   0x002126_002126_1_00212A_00212B_1_002132_002132_1_002160_00216F_1_002183_002183_1,
   0x0024B6_0024CF_1_002C00_002C2F_1_002C60_002C60_1_002C62_002C64_1_002C67_002C6B_2,
   0x002C6D_002C70_1_002C72_002C72_1_002C75_002C75_1_002C7E_002C80_1_002C82_002CE2_2,
   0x002CEB_002CED_2_002CF2_002CF2_1_00A640_00A66C_2_00A680_00A69A_2_00A722_00A72E_2,
   0x00A732_00A76E_2_00A779_00A77B_2_00A77D_00A77E_1_00A780_00A786_2_00A78B_00A78D_2,
   0x00A790_00A792_2_00A796_00A7A8_2_00A7AA_00A7AE_1_00A7B0_00A7B4_1_00A7B6_00A7C2_2,
   0x00A7C4_00A7C7_1_00A7C9_00A7C9_1_00A7CB_00A7CC_1_00A7D0_00A7D0_1_00A7D6_00A7DC_2,
   0x00A7F5_00A7F5_1_00FF21_00FF3A_1_010400_010427_1_0104B0_0104D3_1_010570_01057A_1,
   0x01057C_01058A_1_01058C_010592_1_010594_010595_1_010C80_010CB2_1_010D50_010D65_1,
   0x0118A0_0118BF_1_016E40_016E5F_1_01E900_01E921_1]

def changesWhenTitlecasedRows : List Nat :=
  [0x000061_00007A_1_0000B5_0000B5_1_0000DF_0000F6_1_0000F8_0000FF_1_000101_000137_2,
   0x00013A_000146_2_000148_000149_1_00014B_000177_2_00017A_00017C_2_00017E_000180_1,
   0x000183_000185_2_000188_000188_1_00018C_00018C_1_000192_000192_1_000195_000195_1,
   0x000199_00019B_1_00019E_00019E_1_0001A1_0001A5_2_0001A8_0001A8_1_0001AD_0001AD_1,
   0x0001B0_0001B0_1_0001B4_0001B6_2_0001B9_0001B9_1_0001BD_0001BF_2_0001C4_0001C4_1,
   0x0001C6_0001C7_1_0001C9_0001CA_1_0001CC_0001DA_2_0001DC_0001DD_1_0001DF_0001ED_2,
   0x0001EF_0001F1_1_0001F3_0001F5_2_0001F9_00021F_2_000223_000233_2_00023C_00023C_1,
   0x00023F_000240_1_000242_000242_1_000247_00024D_2_00024F_000254_1_000256_000257_1,
   0x000259_000259_1_00025B_00025C_1_000260_000261_1_000263_000266_1_000268_00026C_1,
   0x00026F_00026F_1_000271_000272_1_000275_000275_1_00027D_00027D_1_000280_000280_1,
   0x000282_000283_1_000287_00028C_1_000292_000292_1_00029D_00029E_1_000345_000345_1,
   0x000371_000373_2_000377_000377_1_00037B_00037D_1_000390_000390_1_0003AC_0003CE_1,
   0x0003D0_0003D1_1_0003D5_0003D7_1_0003D9_0003ED_2_0003EF_0003F3_1_0003F5_0003F5_1,
   0x0003F8_0003F8_1_0003FB_0003FB_1_000430_00045F_1_000461_000481_2_00048B_0004BF_2,
   0x0004C2_0004CC_2_0004CE_0004CF_1_0004D1_00052F_2_000561_000587_1_0013F8_0013FD_1,
   0x001C80_001C88_1_001C8A_001C8A_1_001D79_001D79_1_001D7D_001D7D_1_001D8E_001D8E_1,
   0x001E01_001E93_2_001E95_001E9B_1_001EA1_001EFD_2_001EFF_001F07_1_001F10_001F15_1,
   0x001F20_001F27_1_001F30_001F37_1_001F40_001F45_1_001F50_001F57_1_001F60_001F67_1,
   0x001F70_001F7D_1_001F80_001F87_1_001F90_001F97_1_001FA0_001FA7_1_001FB0_001FB4_1,
   0x001FB6_001FB7_1_001FBE_001FBE_1_001FC2_001FC4_1_001FC6_001FC7_1_001FD0_001FD3_1,
   0x001FD6_001FD7_1_001FE0_001FE7_1_001FF2_001FF4_1_001FF6_001FF7_1_00214E_00214E_1,
   0x002170_00217F_1_002184_002184_1_0024D0_0024E9_1_002C30_002C5F_1_002C61_002C61_1,
   0x002C65_002C66_1_002C68_002C6C_2_002C73_002C73_1_002C76_002C76_1_002C81_002CE3_2,
   0x002CEC_002CEE_2_002CF3_002CF3_1_002D00_002D25_1_002D27_002D27_1_002D2D_002D2D_1,
   0x00A641_00A66D_2_00A681_00A69B_2_00A723_00A72F_2_00A733_00A76F_2_00A77A_00A77C_2,
   0x00A77F_00A787_2_00A78C_00A78C_1_00A791_00A791_1_00A793_00A794_1_00A797_00A7A9_2,
   0x00A7B5_00A7C3_2_00A7C8_00A7CA_2_00A7CD_00A7CD_1_00A7D1_00A7DB_2_00A7F6_00A7F6_1,
   0x00AB53_00AB53_1_00AB70_00ABBF_1_00FB00_00FB06_1_00FB13_00FB17_1_00FF41_00FF5A_1,
   0x010428_01044F_1_0104D8_0104FB_1_010597_0105A1_1_0105A3_0105B1_1_0105B3_0105B9_1,
   0x0105BB_0105BC_1_010CC0_010CF2_1_010D70_010D85_1_0118C0_0118DF_1_016E60_016E7F_1,
   0x01E922_01E943_1]

def changesWhenUppercasedRows : List Nat :=
  [0x000061_00007A_1_0000B5_0000B5_1_0000DF_0000F6_1_0000F8_0000FF_1_000101_000137_2,
   0x00013A_000146_2_000148_000149_1_00014B_000177_2_00017A_00017C_2_00017E_000180_1,
   0x000183_000185_2_000188_000188_1_00018C_00018C_1_000192_000192_1_000195_000195_1,
   0x000199_00019B_1_00019E_00019E_1_0001A1_0001A5_2_0001A8_0001A8_1_0001AD_0001AD_1,
   0x0001B0_0001B0_1_0001B4_0001B6_2_0001B9_0001B9_1_0001BD_0001BF_2_0001C5_0001C6_1,
   0x0001C8_0001C9_1_0001CB_0001CC_1_0001CE_0001DA_2_0001DC_0001DD_1_0001DF_0001ED_2,
   0x0001EF_0001F0_1_0001F2_0001F3_1_0001F5_0001F5_1_0001F9_00021F_2_000223_000233_2,
   0x00023C_00023C_1_00023F_000240_1_000242_000242_1_000247_00024D_2_00024F_000254_1,
   0x000256_000257_1_000259_000259_1_00025B_00025C_1_000260_000261_1_000263_000266_1,
   0x000268_00026C_1_00026F_00026F_1_000271_000272_1_000275_000275_1_00027D_00027D_1,
   0x000280_000280_1_000282_000283_1_000287_00028C_1_000292_000292_1_00029D_00029E_1,
   0x000345_000345_1_000371_000373_2_000377_000377_1_00037B_00037D_1_000390_000390_1,
   0x0003AC_0003CE_1_0003D0_0003D1_1_0003D5_0003D7_1_0003D9_0003ED_2_0003EF_0003F3_1,
   0x0003F5_0003F5_1_0003F8_0003F8_1_0003FB_0003FB_1_000430_00045F_1_000461_000481_2,
   0x00048B_0004BF_2_0004C2_0004CC_2_0004CE_0004CF_1_0004D1_00052F_2_000561_000587_1,
   0x0010D0_0010FA_1_0010FD_0010FF_1_0013F8_0013FD_1_001C80_001C88_1_001C8A_001C8A_1,
   0x001D79_001D79_1_001D7D_001D7D_1_001D8E_001D8E_1_001E01_001E93_2_001E95_001E9B_1,
   0x001EA1_001EFD_2_001EFF_001F07_1_001F10_001F15_1_001F20_001F27_1_001F30_001F37_1,
   0x001F40_001F45_1_001F50_001F57_1_001F60_001F67_1_001F70_001F7D_1_001F80_001FB4_1,
   0x001FB6_001FB7_1_001FBC_001FBE_2_001FC2_001FC4_1_001FC6_001FC7_1_001FCC_001FCC_1,
   0x001FD0_001FD3_1_001FD6_001FD7_1_001FE0_001FE7_1_001FF2_001FF4_1_001FF6_001FF7_1,
   0x001FFC_001FFC_1_00214E_00214E_1_002170_00217F_1_002184_002184_1_0024D0_0024E9_1,
   0x002C30_002C5F_1_002C61_002C61_1_002C65_002C66_1_002C68_002C6C_2_002C73_002C73_1,
   0x002C76_002C76_1_002C81_002CE3_2_002CEC_002CEE_2_002CF3_002CF3_1_002D00_002D25_1,
   0x002D27_002D27_1_002D2D_002D2D_1_00A641_00A66D_2_00A681_00A69B_2_00A723_00A72F_2,
   0x00A733_00A76F_2_00A77A_00A77C_2_00A77F_00A787_2_00A78C_00A78C_1_00A791_00A791_1,
   0x00A793_00A794_1_00A797_00A7A9_2_00A7B5_00A7C3_2_00A7C8_00A7CA_2_00A7CD_00A7CD_1,
   0x00A7D1_00A7DB_2_00A7F6_00A7F6_1_00AB53_00AB53_1_00AB70_00ABBF_1_00FB00_00FB06_1,
   0x00FB13_00FB17_1_00FF41_00FF5A_1_010428_01044F_1_0104D8_0104FB_1_010597_0105A1_1,
   0x0105A3_0105B1_1_0105B3_0105B9_1_0105BB_0105BC_1_010CC0_010CF2_1_010D70_010D85_1,
   0x0118C0_0118DF_1_016E60_016E7F_1_01E922_01E943_1]

def dashRows : List Nat :=
  [0x00002D_00002D_1_00058A_00058A_1_0005BE_0005BE_1_001400_001400_1_001806_001806_1,
   0x002010_002015_1_002053_002053_1_00207B_00207B_1_00208B_00208B_1_002212_002212_1,
   0x002E17_002E17_1_002E1A_002E1A_1_002E3A_002E3B_1_002E40_002E40_1_002E5D_002E5D_1,
   0x00301C_00301C_1_003030_003030_1_0030A0_0030A0_1_00FE31_00FE32_1_00FE58_00FE58_1,
   0x00FE63_00FE63_1_00FF0D_00FF0D_1_010D6E_010D6E_1_010EAD_010EAD_1]

def deprecatedRows : List Nat :=
  [0x000149_000149_1_000673_000673_1_000F77_000F79_2_0017A3_0017A4_1_00206A_00206F_1,
   0x002329_00232A_1_0E0001_0E0001_1]

def diacriticRows : List Nat :=
  [0x00005E_000060_2_0000A8_0000A8_1_0000AF_0000AF_1_0000B4_0000B4_1_0000B7_0000B8_1,
   0x0002B0_00034E_1_000350_000357_1_00035D_000362_1_000374_000375_1_00037A_00037A_1,
   0x000384_000385_1_000483_000487_1_000559_000559_1_000591_0005BD_1_0005BF_0005BF_1,
   0x0005C1_0005C2_1_0005C4_0005C5_1_0005C7_0005C7_1_00064B_000652_1_000657_000658_1,
   0x0006DF_0006E0_1_0006E5_0006E6_1_0006EA_0006EC_1_000730_00074A_1_0007A6_0007B0_1,
   0x0007EB_0007F5_1_000818_000819_1_000898_00089F_1_0008C9_0008D2_1_0008E3_0008FE_1,
   0x00093C_00093C_1_00094D_00094D_1_000951_000954_1_000971_000971_1_0009BC_0009BC_1,
   0x0009CD_0009CD_1_000A3C_000A3C_1_000A4D_000A4D_1_000ABC_000ABC_1_000ACD_000ACD_1,
   0x000AFD_000AFF_1_000B3C_000B3C_1_000B4D_000B4D_1_000B55_000B55_1_000BCD_000BCD_1,
   0x000C3C_000C3C_1_000C4D_000C4D_1_000CBC_000CBC_1_000CCD_000CCD_1_000D3B_000D3C_1,
   0x000D4D_000D4D_1_000DCA_000DCA_1_000E3A_000E3A_1_000E47_000E4C_1_000E4E_000E4E_1,
   0x000EBA_000EBA_1_000EC8_000ECC_1_000F18_000F19_1_000F35_000F39_2_000F3E_000F3F_1,
   0x000F82_000F84_1_000F86_000F87_1_000FC6_000FC6_1_001037_001037_1_001039_00103A_1,
   0x001063_001064_1_001069_00106D_1_001087_00108D_1_00108F_00108F_1_00109A_00109B_1,
   0x00135D_00135F_1_001714_001715_1_001734_001734_1_0017C9_0017D3_1_0017DD_0017DD_1,
   0x001939_00193B_1_001A60_001A60_1_001A75_001A7C_1_001A7F_001A7F_1_001AB0_001ABE_1,
   0x001AC1_001ACB_1_001B34_001B34_1_001B44_001B44_1_001B6B_001B73_1_001BAA_001BAB_1,
   0x001BE6_001BE6_1_001BF2_001BF3_1_001C36_001C37_1_001C78_001C7D_1_001CD0_001CE8_1,
   0x001CED_001CED_1_001CF4_001CF4_1_001CF7_001CF9_1_001D2C_001D6A_1_001D9B_001DBE_1,
   0x001DC4_001DCF_1_001DF5_001DFF_1_001FBD_001FBD_1_001FBF_001FC1_1_001FCD_001FCF_1,
   0x001FDD_001FDF_1_001FED_001FEF_1_001FFD_001FFE_1_002CEF_002CF1_1_002E2F_002E2F_1,
   0x00302A_00302F_1_003099_00309C_1_0030FC_0030FC_1_00A66F_00A66F_1_00A67C_00A67D_1,
   0x00A67F_00A67F_1_00A69C_00A69D_1_00A6F0_00A6F1_1_00A700_00A721_1_00A788_00A78A_1,
   0x00A7F8_00A7F9_1_00A806_00A806_1_00A82C_00A82C_1_00A8C4_00A8C4_1_00A8E0_00A8F1_1,
   0x00A92B_00A92E_1_00A953_00A953_1_00A9B3_00A9B3_1_00A9C0_00A9C0_1_00A9E5_00A9E5_1,
   0x00AA7B_00AA7D_1_00AABF_00AAC2_1_00AAF6_00AAF6_1_00AB5B_00AB5F_1_00AB69_00AB6B_1,
   0x00ABEC_00ABED_1_00FB1E_00FB1E_1_00FE20_00FE2F_1_00FF3E_00FF40_2_00FF70_00FF70_1,
   0x00FF9E_00FF9F_1_00FFE3_00FFE3_1_0102E0_0102E0_1_010780_010785_1_010787_0107B0_1,
   0x0107B2_0107BA_1_010A38_010A3A_1_010A3F_010A3F_1_010AE5_010AE6_1_010D22_010D27_1,
   0x010D4E_010D4E_1_010D69_010D6D_1_010EFD_010EFF_1_010F46_010F50_1_010F82_010F85_1,
   0x011046_011046_1_011070_011070_1_0110B9_0110BA_1_011133_011134_1_011173_011173_1,
   0x0111C0_0111C0_1_0111CA_0111CC_1_011235_011236_1_0112E9_0112EA_1_01133B_01133C_1,
   0x01134D_01134D_1_011366_01136C_1_011370_011374_1_0113CE_0113D0_1_0113D2_0113D3_1,
   0x0113E1_0113E2_1_011442_011442_1_011446_011446_1_0114C2_0114C3_1_0115BF_0115C0_1,
   0x01163F_01163F_1_0116B6_0116B7_1_01172B_01172B_1_011839_01183A_1_01193D_01193E_1,
   0x011943_011943_1_0119E0_0119E0_1_011A34_011A34_1_011A47_011A47_1_011A99_011A99_1,
   0x011C3F_011C3F_1_011D42_011D42_1_011D44_011D45_1_011D97_011D97_1_011F41_011F42_1,
   0x011F5A_011F5A_1_013447_013455_1_01612F_01612F_1_016AF0_016AF4_1_016B30_016B36_1,
   0x016D6B_016D6C_1_016F8F_016F9F_1_016FF0_016FF1_1_01AFF0_01AFF3_1_01AFF5_01AFFB_1,
   0x01AFFD_01AFFE_1_01CF00_01CF2D_1_01CF30_01CF46_1_01D167_01D169_1_01D16D_01D172_1,
   0x01D17B_01D182_1_01D185_01D18B_1_01D1AA_01D1AD_1_01E030_01E06D_1_01E130_01E136_1,
   0x01E2AE_01E2AE_1_01E2EC_01E2EF_1_01E5EE_01E5EF_1_01E8D0_01E8D6_1_01E944_01E946_1,
   0x01E948_01E94A_1]

def emojiRows : List Nat :=
  [0x000023_000023_1_00002A_00002A_1_000030_000039_1_0000A9_0000A9_1_0000AE_0000AE_1,
   0x00203C_00203C_1_002049_002049_1_002122_002122_1_002139_002139_1_002194_002199_1,
   0x0021A9_0021AA_1_00231A_00231B_1_002328_002328_1_0023CF_0023CF_1_0023E9_0023F3_1,
   0x0023F8_0023FA_1_0024C2_0024C2_1_0025AA_0025AB_1_0025B6_0025B6_1_0025C0_0025C0_1,
   0x0025FB_0025FE_1_002600_002604_1_00260E_00260E_1_002611_002611_1_002614_002615_1,
   0x002618_002618_1_00261D_00261D_1_002620_002620_1_002622_002623_1_002626_002626_1,
   0x00262A_00262A_1_00262E_00262F_1_002638_00263A_1_002640_002642_2_002648_002653_1,
   0x00265F_002660_1_002663_002663_1_002665_002666_1_002668_002668_1_00267B_00267B_1,
   0x00267E_00267F_1_002692_002697_1_002699_002699_1_00269B_00269C_1_0026A0_0026A1_1,
   0x0026A7_0026A7_1_0026AA_0026AB_1_0026B0_0026B1_1_0026BD_0026BE_1_0026C4_0026C5_1,
   0x0026C8_0026C8_1_0026CE_0026CF_1_0026D1_0026D1_1_0026D3_0026D4_1_0026E9_0026EA_1,
   0x0026F0_0026F5_1_0026F7_0026FA_1_0026FD_0026FD_1_002702_002702_1_002705_002705_1,
   0x002708_00270D_1_00270F_00270F_1_002712_002716_2_00271D_00271D_1_002721_002721_1,
   0x002728_002728_1_002733_002734_1_002744_002744_1_002747_002747_1_00274C_00274E_2,
   0x002753_002755_1_002757_002757_1_002763_002764_1_002795_002797_1_0027A1_0027A1_1,
   0x0027B0_0027B0_1_0027BF_0027BF_1_002934_002935_1_002B05_002B07_1_002B1B_002B1C_1,
   0x002B50_002B50_1_002B55_002B55_1_003030_003030_1_00303D_00303D_1_003297_003299_2,
   0x01F004_01F004_1_01F0CF_01F0CF_1_01F170_01F171_1_01F17E_01F17F_1_01F18E_01F18E_1,
   0x01F191_01F19A_1_01F1E6_01F1FF_1_01F201_01F202_1_01F21A_01F21A_1_01F22F_01F22F_1,
   0x01F232_01F23A_1_01F250_01F251_1_01F300_01F321_1_01F324_01F393_1_01F396_01F397_1,
   0x01F399_01F39B_1_01F39E_01F3F0_1_01F3F3_01F3F5_1_01F3F7_01F4FD_1_01F4FF_01F53D_1,
   0x01F549_01F54E_1_01F550_01F567_1_01F56F_01F570_1_01F573_01F57A_1_01F587_01F587_1,
   0x01F58A_01F58D_1_01F590_01F590_1_01F595_01F596_1_01F5A4_01F5A5_1_01F5A8_01F5A8_1,
   0x01F5B1_01F5B2_1_01F5BC_01F5BC_1_01F5C2_01F5C4_1_01F5D1_01F5D3_1_01F5DC_01F5DE_1,
   0x01F5E1_01F5E3_2_01F5E8_01F5E8_1_01F5EF_01F5EF_1_01F5F3_01F5F3_1_01F5FA_01F64F_1,
   0x01F680_01F6C5_1_01F6CB_01F6D2_1_01F6D5_01F6D7_1_01F6DC_01F6E5_1_01F6E9_01F6E9_1,
   0x01F6EB_01F6EC_1_01F6F0_01F6F0_1_01F6F3_01F6FC_1_01F7E0_01F7EB_1_01F7F0_01F7F0_1,
   0x01F90C_01F93A_1_01F93C_01F945_1_01F947_01F9FF_1_01FA70_01FA7C_1_01FA80_01FA89_1,
   0x01FA8F_01FAC6_1_01FACE_01FADC_1_01FADF_01FAE9_1_01FAF0_01FAF8_1]

def emojiComponentRows : List Nat :=
  [0x000023_000023_1_00002A_00002A_1_000030_000039_1_00200D_00200D_1_0020E3_0020E3_1,
   0x00FE0F_00FE0F_1_01F1E6_01F1FF_1_01F3FB_01F3FF_1_01F9B0_01F9B3_1_0E0020_0E007F_1]

def emojiModifierRows : List Nat :=
  [0x01F3FB_01F3FF_1]

def emojiModifierBaseRows : List Nat :=
  [0x00261D_00261D_1_0026F9_0026F9_1_00270A_00270D_1_01F385_01F385_1_01F3C2_01F3C4_1,
   0x01F3C7_01F3C7_1_01F3CA_01F3CC_1_01F442_01F443_1_01F446_01F450_1_01F466_01F478_1,
   0x01F47C_01F47C_1_01F481_01F483_1_01F485_01F487_1_01F48F_01F491_2_01F4AA_01F4AA_1,
   0x01F574_01F575_1_01F57A_01F57A_1_01F590_01F590_1_01F595_01F596_1_01F645_01F647_1,
   0x01F64B_01F64F_1_01F6A3_01F6A3_1_01F6B4_01F6B6_1_01F6C0_01F6C0_1_01F6CC_01F6CC_1,
   0x01F90C_01F90C_1_01F90F_01F90F_1_01F918_01F91F_1_01F926_01F926_1_01F930_01F939_1,
   0x01F93C_01F93E_1_01F977_01F977_1_01F9B5_01F9B6_1_01F9B8_01F9B9_1_01F9BB_01F9BB_1,
   0x01F9CD_01F9CF_1_01F9D1_01F9DD_1_01FAC3_01FAC5_1_01FAF0_01FAF8_1]

def emojiPresentationRows : List Nat :=
  [0x00231A_00231B_1_0023E9_0023EC_1_0023F0_0023F0_1_0023F3_0023F3_1_0025FD_0025FE_1,
   0x002614_002615_1_002648_002653_1_00267F_00267F_1_002693_002693_1_0026A1_0026A1_1,
   0x0026AA_0026AB_1_0026BD_0026BE_1_0026C4_0026C5_1_0026CE_0026CE_1_0026D4_0026D4_1,
   0x0026EA_0026EA_1_0026F2_0026F3_1_0026F5_0026F5_1_0026FA_0026FA_1_0026FD_0026FD_1,
   0x002705_002705_1_00270A_00270B_1_002728_002728_1_00274C_00274E_2_002753_002755_1,
   0x002757_002757_1_002795_002797_1_0027B0_0027B0_1_0027BF_0027BF_1_002B1B_002B1C_1,
   0x002B50_002B50_1_002B55_002B55_1_01F004_01F004_1_01F0CF_01F0CF_1_01F18E_01F18E_1,
   0x01F191_01F19A_1_01F1E6_01F1FF_1_01F201_01F201_1_01F21A_01F21A_1_01F22F_01F22F_1,
   0x01F232_01F236_1_01F238_01F23A_1_01F250_01F251_1_01F300_01F320_1_01F32D_01F335_1,
   0x01F337_01F37C_1_01F37E_01F393_1_01F3A0_01F3CA_1_01F3CF_01F3D3_1_01F3E0_01F3F0_1,
   0x01F3F4_01F3F4_1_01F3F8_01F43E_1_01F440_01F440_1_01F442_01F4FC_1_01F4FF_01F53D_1,
   0x01F54B_01F54E_1_01F550_01F567_1_01F57A_01F57A_1_01F595_01F596_1_01F5A4_01F5A4_1,
   0x01F5FB_01F64F_1_01F680_01F6C5_1_01F6CC_01F6CC_1_01F6D0_01F6D2_1_01F6D5_01F6D7_1,
   0x01F6DC_01F6DF_1_01F6EB_01F6EC_1_01F6F4_01F6FC_1_01F7E0_01F7EB_1_01F7F0_01F7F0_1,
   0x01F90C_01F93A_1_01F93C_01F945_1_01F947_01F9FF_1_01FA70_01FA7C_1_01FA80_01FA89_1,
   0x01FA8F_01FAC6_1_01FACE_01FADC_1_01FADF_01FAE9_1_01FAF0_01FAF8_1]

def extendedPictographicRows : List Nat :=
  [0x0000A9_0000A9_1_0000AE_0000AE_1_00203C_00203C_1_002049_002049_1_002122_002122_1,
   0x002139_002139_1_002194_002199_1_0021A9_0021AA_1_00231A_00231B_1_002328_002328_1,
   0x0023CF_0023CF_1_0023E9_0023F3_1_0023F8_0023FA_1_0024C2_0024C2_1_0025AA_0025AB_1,
   0x0025B6_0025B6_1_0025C0_0025C0_1_0025FB_0025FE_1_002600_002604_1_00260E_00260E_1,
   0x002611_002611_1_002614_002615_1_002618_002618_1_00261D_00261D_1_002620_002620_1,
   0x002622_002623_1_002626_002626_1_00262A_00262A_1_00262E_00262F_1_002638_00263A_1,
   0x002640_002642_2_002648_002653_1_00265F_002660_1_002663_002663_1_002665_002666_1,
   0x002668_002668_1_00267B_00267B_1_00267E_00267F_1_002692_002697_1_002699_002699_1,
   0x00269B_00269C_1_0026A0_0026A1_1_0026A7_0026A7_1_0026AA_0026AB_1_0026B0_0026B1_1,
   0x0026BD_0026BE_1_0026C4_0026C5_1_0026C8_0026C8_1_0026CE_0026CF_1_0026D1_0026D1_1,
   0x0026D3_0026D4_1_0026E9_0026EA_1_0026F0_0026F5_1_0026F7_0026FA_1_0026FD_0026FD_1,
   0x002702_002702_1_002705_002705_1_002708_00270D_1_00270F_00270F_1_002712_002716_2,
   0x00271D_00271D_1_002721_002721_1_002728_002728_1_002733_002734_1_002744_002744_1,
   0x002747_002747_1_00274C_00274E_2_002753_002755_1_002757_002757_1_002763_002764_1,
   0x002795_002797_1_0027A1_0027A1_1_0027B0_0027B0_1_0027BF_0027BF_1_002934_002935_1,
   0x002B05_002B07_1_002B1B_002B1C_1_002B50_002B50_1_002B55_002B55_1_003030_003030_1,
   0x00303D_00303D_1_003297_003299_2_01F004_01F004_1_01F02C_01F02F_1_01F094_01F09F_1,
   0x01F0AF_01F0B0_1_01F0C0_01F0C0_1_01F0CF_01F0D0_1_01F0F6_01F0FF_1_01F170_01F171_1,
   0x01F17E_01F17F_1_01F18E_01F18E_1_01F191_01F19A_1_01F1AE_01F1E5_1_01F201_01F20F_1,
   0x01F21A_01F21A_1_01F22F_01F22F_1_01F232_01F23A_1_01F23C_01F23F_1_01F249_01F25F_1,
   0x01F266_01F321_1_01F324_01F393_1_01F396_01F397_1_01F399_01F39B_1_01F39E_01F3F0_1,
   0x01F3F3_01F3F5_1_01F3F7_01F3FA_1_01F400_01F4FD_1_01F4FF_01F53D_1_01F549_01F54E_1,
   0x01F550_01F567_1_01F56F_01F570_1_01F573_01F57A_1_01F587_01F587_1_01F58A_01F58D_1,
   0x01F590_01F590_1_01F595_01F596_1_01F5A4_01F5A5_1_01F5A8_01F5A8_1_01F5B1_01F5B2_1,
   0x01F5BC_01F5BC_1_01F5C2_01F5C4_1_01F5D1_01F5D3_1_01F5DC_01F5DE_1_01F5E1_01F5E3_2,
   0x01F5E8_01F5E8_1_01F5EF_01F5EF_1_01F5F3_01F5F3_1_01F5FA_01F64F_1_01F680_01F6C5_1,
   0x01F6CB_01F6D2_1_01F6D5_01F6E5_1_01F6E9_01F6E9_1_01F6EB_01F6F0_1_01F6F3_01F6FF_1,
   0x01F7DA_01F7FF_1_01F80C_01F80F_1_01F848_01F84F_1_01F85A_01F85F_1_01F888_01F88F_1,
   0x01F8AE_01F8AF_1_01F8BC_01F8BF_1_01F8C2_01F8CF_1_01F8D9_01F8FF_1_01F90C_01F93A_1,
   0x01F93C_01F945_1_01F947_01F9FF_1_01FA58_01FA5F_1_01FA6E_01FAFF_1_01FC00_01FFFD_1]

def extenderRows : List Nat :=
  [0x0000B7_0000B7_1_0002D0_0002D1_1_000640_000640_1_0007FA_0007FA_1_000A71_000A71_1,
   0x000AFB_000AFB_1_000B55_000B55_1_000E46_000E46_1_000EC6_000EC6_1_00180A_00180A_1,
   0x001843_001843_1_001AA7_001AA7_1_001C36_001C36_1_001C7B_001C7B_1_003005_003005_1,
   0x003031_003035_1_00309D_00309E_1_0030FC_0030FE_1_00A015_00A015_1_00A60C_00A60C_1,
   0x00A9CF_00A9CF_1_00A9E6_00A9E6_1_00AA70_00AA70_1_00AADD_00AADD_1_00AAF3_00AAF4_1,
   0x00FF70_00FF70_1_010781_010782_1_010D4E_010D4E_1_010D6A_010D6A_1_010D6F_010D6F_1,
   0x011237_011237_1_01135D_01135D_1_0113D2_0113D3_1_0115C6_0115C8_1_011A98_011A98_1,
   0x016B42_016B43_1_016FE0_016FE1_1_016FE3_016FE3_1_01E13C_01E13D_1_01E5EF_01E5EF_1,
   0x01E944_01E946_1]

def hexDigitRows : List Nat :=
  [0x000030_000039_1_000041_000046_1_000061_000066_1_00FF10_00FF19_1_00FF21_00FF26_1,
   0x00FF41_00FF46_1]

def hyphenRows : List Nat :=
  [0x00002D_00002D_1_0000AD_0000AD_1_00058A_00058A_1_001806_001806_1_002010_002011_1,
   0x002E17_002E17_1_0030FB_0030FB_1_00FE63_00FE63_1_00FF0D_00FF0D_1_00FF65_00FF65_1]

def idsBinaryOperatorRows : List Nat :=
  [0x002FF0_002FF1_1_002FF4_002FFD_1_0031EF_0031EF_1]

def idsTrinaryOperatorRows : List Nat :=
  [0x002FF2_002FF3_1]

def ideographicRows : List Nat :=
  [0x003006_003007_1_003021_003029_1_003038_00303A_1_003400_004DBF_1_004E00_009FFF_1,
   0x00F900_00FA6D_1_00FA70_00FAD9_1_016FE4_016FE4_1_017000_0187F7_1_018800_018CD5_1,
   0x018CFF_018D08_1_01B170_01B2FB_1_020000_02A6DF_1_02A700_02B739_1_02B740_02B81D_1,
   0x02B820_02CEA1_1_02CEB0_02EBE0_1_02EBF0_02EE5D_1_02F800_02FA1D_1_030000_03134A_1,
   0x031350_0323AF_1]

def joinControlRows : List Nat :=
  [0x00200C_00200D_1]

def logicalOrderExceptionRows : List Nat :=
  [0x000E40_000E44_1_000EC0_000EC4_1_0019B5_0019B7_1_0019BA_0019BA_1_00AAB5_00AAB6_1,
   0x00AAB9_00AAB9_1_00AABB_00AABC_1]

def noncharacterRows : List Nat :=
  [0x00FDD0_00FDEF_1_00FFFE_00FFFF_1_01FFFE_01FFFF_1_02FFFE_02FFFF_1_03FFFE_03FFFF_1,
   0x04FFFE_04FFFF_1_05FFFE_05FFFF_1_06FFFE_06FFFF_1_07FFFE_07FFFF_1_08FFFE_08FFFF_1,
   0x09FFFE_09FFFF_1_0AFFFE_0AFFFF_1_0BFFFE_0BFFFF_1_0CFFFE_0CFFFF_1_0DFFFE_0DFFFF_1,
   0x0EFFFE_0EFFFF_1_0FFFFE_0FFFFF_1_10FFFE_10FFFF_1]

def patternSyntaxRows : List Nat :=
  [0x000021_00002F_1_00003A_000040_1_00005B_00005E_1_000060_000060_1_00007B_00007E_1,
   0x0000A1_0000A7_1_0000A9_0000A9_1_0000AB_0000AC_1_0000AE_0000AE_1_0000B0_0000B1_1,
   0x0000B6_0000B6_1_0000BB_0000BB_1_0000BF_0000BF_1_0000D7_0000D7_1_0000F7_0000F7_1,
   0x002010_002027_1_002030_00203E_1_002041_002053_1_002055_00205E_1_002190_00245F_1,
   0x002500_002775_1_002794_002BFF_1_002E00_002E7F_1_003001_003003_1_003008_003020_1,
   0x003030_003030_1_00FD3E_00FD3F_1_00FE45_00FE46_1]

def patternWhiteSpaceRows : List Nat :=
  [0x000009_00000D_1_000020_000020_1_000085_000085_1_00200E_00200F_1_002028_002029_1]

def prependedConcatenationMarkRows : List Nat :=
  [0x000600_000605_1_0006DD_0006DD_1_00070F_00070F_1_000890_000891_1_0008E2_0008E2_1,
   0x0110BD_0110BD_1_0110CD_0110CD_1]

def quotationMarkRows : List Nat :=
  [0x000022_000022_1_000027_000027_1_0000AB_0000AB_1_0000BB_0000BB_1_002018_00201F_1,
   0x002039_00203A_1_002E42_002E42_1_00300C_00300F_1_00301D_00301F_1_00FE41_00FE44_1,
   0x00FF02_00FF02_1_00FF07_00FF07_1_00FF62_00FF63_1]

def radicalRows : List Nat :=
  [0x002E80_002E99_1_002E9B_002EF3_1_002F00_002FD5_1]

def regionalIndicatorRows : List Nat :=
  [0x01F1E6_01F1FF_1]

def sentenceTerminalRows : List Nat :=
  [0x000021_000021_1_00002E_00002E_1_00003F_00003F_1_000589_000589_1_00061D_00061F_1,
   0x0006D4_0006D4_1_000700_000702_1_0007F9_0007F9_1_000837_000839_2_00083D_00083E_1,
   0x000964_000965_1_00104A_00104B_1_001362_001362_1_001367_001368_1_00166E_00166E_1,
   0x001735_001736_1_0017D4_0017D5_1_001803_001803_1_001809_001809_1_001944_001945_1,
   0x001AA8_001AAB_1_001B4E_001B4F_1_001B5A_001B5B_1_001B5E_001B5F_1_001B7D_001B7F_1,
   0x001C3B_001C3C_1_001C7E_001C7F_1_002024_002024_1_00203C_00203D_1_002047_002049_1,
   0x002CF9_002CFB_1_002E2E_002E2E_1_002E3C_002E3C_1_002E53_002E54_1_003002_003002_1,
   0x00A4FF_00A4FF_1_00A60E_00A60F_1_00A6F3_00A6F3_1_00A6F7_00A6F7_1_00A876_00A877_1,
   0x00A8CE_00A8CF_1_00A92F_00A92F_1_00A9C8_00A9C9_1_00AA5D_00AA5F_1_00AAF0_00AAF1_1,
   0x00ABEB_00ABEB_1_00FE12_00FE12_1_00FE15_00FE16_1_00FE52_00FE52_1_00FE56_00FE57_1,
   0x00FF01_00FF01_1_00FF0E_00FF0E_1_00FF1F_00FF1F_1_00FF61_00FF61_1_010A56_010A57_1,
   0x010F55_010F59_1_010F86_010F89_1_011047_011048_1_0110BE_0110C1_1_011141_011143_1,
   0x0111C5_0111C6_1_0111CD_0111CD_1_0111DE_0111DF_1_011238_011239_1_01123B_01123C_1,
   0x0112A9_0112A9_1_0113D4_0113D5_1_01144B_01144C_1_0115C2_0115C3_1_0115C9_0115D7_1,
   0x011641_011642_1_01173C_01173E_1_011944_011946_2_011A42_011A43_1_011A9B_011A9C_1,
   0x011C41_011C42_1_011EF7_011EF8_1_011F43_011F44_1_016A6E_016A6F_1_016AF5_016AF5_1,
   0x016B37_016B38_1_016B44_016B44_1_016D6E_016D6F_1_016E98_016E98_1_01BC9F_01BC9F_1,
   0x01DA88_01DA88_1]

def softDottedRows : List Nat :=
  [0x000069_00006A_1_00012F_00012F_1_000249_000249_1_000268_000268_1_00029D_00029D_1,
   0x0002B2_0002B2_1_0003F3_0003F3_1_000456_000458_2_001D62_001D62_1_001D96_001D96_1,
   0x001DA4_001DA4_1_001DA8_001DA8_1_001E2D_001E2D_1_001ECB_001ECB_1_002071_002071_1,
   0x002148_002149_1_002C7C_002C7C_1_01D422_01D423_1_01D456_01D457_1_01D48A_01D48B_1,
   0x01D4BE_01D4BF_1_01D4F2_01D4F3_1_01D526_01D527_1_01D55A_01D55B_1_01D58E_01D58F_1,
   0x01D5C2_01D5C3_1_01D5F6_01D5F7_1_01D62A_01D62B_1_01D65E_01D65F_1_01D692_01D693_1,
   0x01DF1A_01DF1A_1_01E04C_01E04D_1_01E068_01E068_1]

def terminalPunctuationRows : List Nat :=
  [0x000021_000021_1_00002C_00002E_2_00003A_00003B_1_00003F_00003F_1_00037E_00037E_1,
   0x000387_000387_1_000589_000589_1_0005C3_0005C3_1_00060C_00060C_1_00061B_00061B_1,
   0x00061D_00061F_1_0006D4_0006D4_1_000700_00070A_1_00070C_00070C_1_0007F8_0007F9_1,
   0x000830_000835_1_000837_00083E_1_00085E_00085E_1_000964_000965_1_000E5A_000E5B_1,
   0x000F08_000F08_1_000F0D_000F12_1_00104A_00104B_1_001361_001368_1_00166E_00166E_1,
   0x0016EB_0016ED_1_001735_001736_1_0017D4_0017D6_1_0017DA_0017DA_1_001802_001805_1,
   0x001808_001809_1_001944_001945_1_001AA8_001AAB_1_001B4E_001B4F_1_001B5A_001B5B_1,
   0x001B5D_001B5F_1_001B7D_001B7F_1_001C3B_001C3F_1_001C7E_001C7F_1_002024_002024_1,
   0x00203C_00203D_1_002047_002049_1_002CF9_002CFB_1_002E2E_002E2E_1_002E3C_002E3C_1,
   0x002E41_002E41_1_002E4C_002E4C_1_002E4E_002E4F_1_002E53_002E54_1_003001_003002_1,
   0x00A4FE_00A4FF_1_00A60D_00A60F_1_00A6F3_00A6F7_1_00A876_00A877_1_00A8CE_00A8CF_1,
   0x00A92F_00A92F_1_00A9C7_00A9C9_1_00AA5D_00AA5F_1_00AADF_00AADF_1_00AAF0_00AAF1_1,
   0x00ABEB_00ABEB_1_00FE12_00FE12_1_00FE15_00FE16_1_00FE50_00FE52_1_00FE54_00FE57_1,
   0x00FF01_00FF01_1_00FF0C_00FF0E_2_00FF1A_00FF1B_1_00FF1F_00FF1F_1_00FF61_00FF61_1,
   0x00FF64_00FF64_1_01039F_01039F_1_0103D0_0103D0_1_010857_010857_1_01091F_01091F_1,
   0x010A56_010A57_1_010AF0_010AF5_1_010B3A_010B3F_1_010B99_010B9C_1_010F55_010F59_1,
   0x010F86_010F89_1_011047_01104D_1_0110BE_0110C1_1_011141_011143_1_0111C5_0111C6_1,
   0x0111CD_0111CD_1_0111DE_0111DF_1_011238_01123C_1_0112A9_0112A9_1_0113D4_0113D5_1,
   0x01144B_01144D_1_01145A_01145B_1_0115C2_0115C5_1_0115C9_0115D7_1_011641_011642_1,
   0x01173C_01173E_1_011944_011946_2_011A42_011A43_1_011A9B_011A9C_1_011AA1_011AA2_1,
   0x011C41_011C43_1_011C71_011C71_1_011EF7_011EF8_1_011F43_011F44_1_012470_012474_1,
   0x016A6E_016A6F_1_016AF5_016AF5_1_016B37_016B39_1_016B44_016B44_1_016D6E_016D6F_1,
   0x016E97_016E98_1_01BC9F_01BC9F_1_01DA87_01DA8A_1]

def unifiedIdeographRows : List Nat :=
  [0x003400_004DBF_1_004E00_009FFF_1_00FA0E_00FA0F_1_00FA11_00FA11_1_00FA13_00FA14_1,
   0x00FA1F_00FA21_2_00FA23_00FA24_1_00FA27_00FA29_1_020000_02A6DF_1_02A700_02B739_1,
   0x02B740_02B81D_1_02B820_02CEA1_1_02CEB0_02EBE0_1_02EBF0_02EE5D_1_030000_03134A_1,
   0x031350_0323AF_1]

def variationSelectorRows : List Nat :=
  [0x00180B_00180D_1_00180F_00180F_1_00FE00_00FE0F_1_0E0100_0E01EF_1]

def whiteSpaceRows : List Nat :=
  [0x000009_00000D_1_000020_000020_1_000085_000085_1_0000A0_0000A0_1_001680_001680_1,
   0x002000_00200A_1_002028_002029_1_00202F_00202F_1_00205F_00205F_1_003000_003000_1]

def graphemeLinkRows : List Nat :=
  [0x00094D_00094D_1_0009CD_0009CD_1_000A4D_000A4D_1_000ACD_000ACD_1_000B4D_000B4D_1,
   0x000BCD_000BCD_1_000C4D_000C4D_1_000CCD_000CCD_1_000D3B_000D3C_1_000D4D_000D4D_1,
   0x000DCA_000DCA_1_000E3A_000E3A_1_000EBA_000EBA_1_000F84_000F84_1_001039_00103A_1,
   0x001714_001715_1_001734_001734_1_0017D2_0017D2_1_001A60_001A60_1_001B44_001B44_1,
   0x001BAA_001BAB_1_001BF2_001BF3_1_002D7F_002D7F_1_00A806_00A806_1_00A82C_00A82C_1,
   0x00A8C4_00A8C4_1_00A953_00A953_1_00A9C0_00A9C0_1_00AAF6_00AAF6_1_00ABED_00ABED_1,
   0x010A3F_010A3F_1_011046_011046_1_011070_011070_1_01107F_01107F_1_0110B9_0110B9_1,
   0x011133_011134_1_0111C0_0111C0_1_011235_011235_1_0112EA_0112EA_1_01134D_01134D_1,
   0x0113CE_0113D0_1_011442_011442_1_0114C2_0114C2_1_0115BF_0115BF_1_01163F_01163F_1,
   0x0116B6_0116B6_1_01172B_01172B_1_011839_011839_1_01193D_01193E_1_0119E0_0119E0_1,
   0x011A34_011A34_1_011A47_011A47_1_011A99_011A99_1_011C3F_011C3F_1_011D44_011D45_1,
   0x011D97_011D97_1_011F41_011F42_1_01612F_01612F_1]

def idCompatMathStartRows : List Nat :=
  [0x002202_002202_1_002207_002207_1_00221E_00221E_1_01D6C1_01D6C1_1_01D6DB_01D6DB_1,
   0x01D6FB_01D6FB_1_01D715_01D715_1_01D735_01D735_1_01D74F_01D74F_1_01D76F_01D76F_1,
   0x01D789_01D789_1_01D7A9_01D7A9_1_01D7C3_01D7C3_1]

def idCompatMathContinueRows : List Nat :=
  [0x0000B2_0000B3_1_0000B9_0000B9_1_002070_002070_1_002074_00207E_1_002080_00208E_1,
   0x002202_002202_1_002207_002207_1_00221E_00221E_1_01D6C1_01D6C1_1_01D6DB_01D6DB_1,
   0x01D6FB_01D6FB_1_01D715_01D715_1_01D735_01D735_1_01D74F_01D74F_1_01D76F_01D76F_1,
   0x01D789_01D789_1_01D7A9_01D7A9_1_01D7C3_01D7C3_1]

def idsUnaryOperatorRows : List Nat :=
  [0x002FFE_002FFF_1]

def modifierCombiningMarkRows : List Nat :=
  [0x000654_000655_1_000658_000658_1_0006DC_0006DC_1_0006E3_0006E3_1_0006E7_0006E8_1,
   0x0008CA_0008CB_1_0008CD_0008CF_1_0008D3_0008D3_1_0008F3_0008F3_1]

def otherAlphabeticRows : List Nat :=
  [0x000363_00036F_1_0005B0_0005BD_1_0005BF_0005BF_1_0005C1_0005C2_1_0005C4_0005C5_1,
   0x0005C7_0005C7_1_000610_00061A_1_00064B_000657_1_000659_00065F_1_000670_000670_1,
   0x0006D6_0006DC_1_0006E1_0006E4_1_0006E7_0006E8_1_0006ED_0006ED_1_000711_000711_1,
   0x000730_00073F_1_0007A6_0007B0_1_000816_000817_1_00081B_000823_1_000825_000827_1,
   0x000829_00082C_1_000897_000897_1_0008D4_0008DF_1_0008E3_0008E9_1_0008F0_000903_1,
   0x00093A_00093B_1_00093E_00094C_1_00094E_00094F_1_000955_000957_1_000962_000963_1,
   0x000981_000983_1_0009BE_0009C4_1_0009C7_0009C8_1_0009CB_0009CC_1_0009D7_0009D7_1,
   0x0009E2_0009E3_1_000A01_000A03_1_000A3E_000A42_1_000A47_000A48_1_000A4B_000A4C_1,
   0x000A51_000A51_1_000A70_000A71_1_000A75_000A75_1_000A81_000A83_1_000ABE_000AC5_1,
   0x000AC7_000AC9_1_000ACB_000ACC_1_000AE2_000AE3_1_000AFA_000AFC_1_000B01_000B03_1,
   0x000B3E_000B44_1_000B47_000B48_1_000B4B_000B4C_1_000B56_000B57_1_000B62_000B63_1,
   0x000B82_000B82_1_000BBE_000BC2_1_000BC6_000BC8_1_000BCA_000BCC_1_000BD7_000BD7_1,
   0x000C00_000C04_1_000C3E_000C44_1_000C46_000C48_1_000C4A_000C4C_1_000C55_000C56_1,
   0x000C62_000C63_1_000C81_000C83_1_000CBE_000CC4_1_000CC6_000CC8_1_000CCA_000CCC_1,
   0x000CD5_000CD6_1_000CE2_000CE3_1_000CF3_000CF3_1_000D00_000D03_1_000D3E_000D44_1,
   0x000D46_000D48_1_000D4A_000D4C_1_000D57_000D57_1_000D62_000D63_1_000D81_000D83_1,
   0x000DCF_000DD4_1_000DD6_000DD6_1_000DD8_000DDF_1_000DF2_000DF3_1_000E31_000E31_1,
   0x000E34_000E3A_1_000E4D_000E4D_1_000EB1_000EB1_1_000EB4_000EB9_1_000EBB_000EBC_1,
   0x000ECD_000ECD_1_000F71_000F83_1_000F8D_000F97_1_000F99_000FBC_1_00102B_001036_1,
   0x001038_001038_1_00103B_00103E_1_001056_001059_1_00105E_001060_1_001062_001064_1,
   0x001067_00106D_1_001071_001074_1_001082_00108D_1_00108F_00108F_1_00109A_00109D_1,
   0x001712_001713_1_001732_001733_1_001752_001753_1_001772_001773_1_0017B6_0017C8_1,
   0x001885_001886_1_0018A9_0018A9_1_001920_00192B_1_001930_001938_1_001A17_001A1B_1,
   0x001A55_001A5E_1_001A61_001A74_1_001ABF_001AC0_1_001ACC_001ACE_1_001B00_001B04_1,
   0x001B35_001B43_1_001B80_001B82_1_001BA1_001BA9_1_001BAC_001BAD_1_001BE7_001BF1_1,
   0x001C24_001C36_1_001DD3_001DF4_1_002DE0_002DFF_1_00A674_00A67B_1_00A69E_00A69F_1,
   0x00A802_00A802_1_00A80B_00A80B_1_00A823_00A827_1_00A880_00A881_1_00A8B4_00A8C3_1,
   0x00A8C5_00A8C5_1_00A8FF_00A8FF_1_00A926_00A92A_1_00A947_00A952_1_00A980_00A983_1,
   0x00A9B4_00A9BF_1_00A9E5_00A9E5_1_00AA29_00AA36_1_00AA43_00AA43_1_00AA4C_00AA4D_1,
   0x00AA7B_00AA7D_1_00AAB0_00AAB0_1_00AAB2_00AAB4_1_00AAB7_00AAB8_1_00AABE_00AABE_1,
   0x00AAEB_00AAEF_1_00AAF5_00AAF5_1_00ABE3_00ABEA_1_00FB1E_00FB1E_1_010376_01037A_1,
   0x010A01_010A03_1_010A05_010A06_1_010A0C_010A0F_1_010D24_010D27_1_010D69_010D69_1,
   0x010EAB_010EAC_1_010EFC_010EFC_1_011000_011002_1_011038_011045_1_011073_011074_1,
   0x011080_011082_1_0110B0_0110B8_1_0110C2_0110C2_1_011100_011102_1_011127_011132_1,
   0x011145_011146_1_011180_011182_1_0111B3_0111BF_1_0111CE_0111CF_1_01122C_011234_1,
   0x011237_011237_1_01123E_01123E_1_011241_011241_1_0112DF_0112E8_1_011300_011303_1,
   0x01133E_011344_1_011347_011348_1_01134B_01134C_1_011357_011357_1_011362_011363_1,
   0x0113B8_0113C0_1_0113C2_0113C2_1_0113C5_0113C5_1_0113C7_0113CA_1_0113CC_0113CD_1,
   0x011435_011441_1_011443_011445_1_0114B0_0114C1_1_0115AF_0115B5_1_0115B8_0115BE_1,
   0x0115DC_0115DD_1_011630_01163E_1_011640_011640_1_0116AB_0116B5_1_01171D_01172A_1,
   0x01182C_011838_1_011930_011935_1_011937_011938_1_01193B_01193C_1_011940_011942_2,
   0x0119D1_0119D7_1_0119DA_0119DF_1_0119E4_0119E4_1_011A01_011A0A_1_011A35_011A39_1,
   0x011A3B_011A3E_1_011A51_011A5B_1_011A8A_011A97_1_011C2F_011C36_1_011C38_011C3E_1,
   0x011C92_011CA7_1_011CA9_011CB6_1_011D31_011D36_1_011D3A_011D3A_1_011D3C_011D3D_1,
   0x011D3F_011D41_1_011D43_011D43_1_011D47_011D47_1_011D8A_011D8E_1_011D90_011D91_1,
   0x011D93_011D96_1_011EF3_011EF6_1_011F00_011F01_1_011F03_011F03_1_011F34_011F3A_1,
   0x011F3E_011F40_1_01611E_01612E_1_016F4F_016F4F_1_016F51_016F87_1_016F8F_016F92_1,
   0x016FF0_016FF1_1_01BC9E_01BC9E_1_01E000_01E006_1_01E008_01E018_1_01E01B_01E021_1,
   0x01E023_01E024_1_01E026_01E02A_1_01E08F_01E08F_1_01E947_01E947_1]

def otherLowercaseRows : List Nat :=
  [0x0000AA_0000AA_1_0000BA_0000BA_1_0002B0_0002B8_1_0002C0_0002C1_1_0002E0_0002E4_1,
   0x000345_000345_1_00037A_00037A_1_0010FC_0010FC_1_001D2C_001D6A_1_001D78_001D78_1,
   0x001D9B_001DBF_1_002071_002071_1_00207F_00207F_1_002090_00209C_1_002170_00217F_1,
   0x0024D0_0024E9_1_002C7C_002C7D_1_00A69C_00A69D_1_00A770_00A770_1_00A7F2_00A7F4_1,
   0x00A7F8_00A7F9_1_00AB5C_00AB5F_1_00AB69_00AB69_1_010780_010780_1_010783_010785_1,
   0x010787_0107B0_1_0107B2_0107BA_1_01E030_01E06D_1]

def otherUppercaseRows : List Nat :=
  [0x002160_00216F_1_0024B6_0024CF_1_01F130_01F149_1_01F150_01F169_1_01F170_01F189_1]

def otherMathRows : List Nat :=
  [0x00005E_00005E_1_0003D0_0003D2_1_0003D5_0003D5_1_0003F0_0003F1_1_0003F4_0003F5_1,
   0x002016_002016_1_002032_002034_1_002040_002040_1_002061_002064_1_00207D_00207E_1,
   0x00208D_00208E_1_0020D0_0020DC_1_0020E1_0020E1_1_0020E5_0020E6_1_0020EB_0020EF_1,
   0x002102_002102_1_002107_002107_1_00210A_002113_1_002115_002115_1_002119_00211D_1,
   0x002124_002124_1_002128_002129_1_00212C_00212D_1_00212F_002131_1_002133_002138_1,
   0x00213C_00213F_1_002145_002149_1_002195_002199_1_00219C_00219F_1_0021A1_0021A2_1,
   0x0021A4_0021A5_1_0021A7_0021A7_1_0021A9_0021AD_1_0021B0_0021B1_1_0021B6_0021B7_1,
   0x0021BC_0021CD_1_0021D0_0021D1_1_0021D3_0021D3_1_0021D5_0021DB_1_0021DD_0021DD_1,
   0x0021E4_0021E5_1_002308_00230B_1_0023B4_0023B5_1_0023B7_0023B7_1_0023D0_0023D0_1,
   0x0023E2_0023E2_1_0025A0_0025A1_1_0025AE_0025B6_1_0025BC_0025C0_1_0025C6_0025C7_1,
   0x0025CA_0025CB_1_0025CF_0025D3_1_0025E2_0025E4_2_0025E7_0025EC_1_002605_002606_1,
   0x002640_002642_2_002660_002663_1_00266D_00266E_1_0027C5_0027C6_1_0027E6_0027EF_1,
   0x002983_002998_1_0029D8_0029DB_1_0029FC_0029FD_1_00FE61_00FE63_2_00FE68_00FE68_1,
   0x00FF3C_00FF3E_2_01D400_01D454_1_01D456_01D49C_1_01D49E_01D49F_1_01D4A2_01D4A2_1,
   0x01D4A5_01D4A6_1_01D4A9_01D4AC_1_01D4AE_01D4B9_1_01D4BB_01D4BB_1_01D4BD_01D4C3_1,
   0x01D4C5_01D505_1_01D507_01D50A_1_01D50D_01D514_1_01D516_01D51C_1_01D51E_01D539_1,
   0x01D53B_01D53E_1_01D540_01D544_1_01D546_01D546_1_01D54A_01D550_1_01D552_01D6A5_1,
   0x01D6A8_01D6C0_1_01D6C2_01D6DA_1_01D6DC_01D6FA_1_01D6FC_01D714_1_01D716_01D734_1,
   0x01D736_01D74E_1_01D750_01D76E_1_01D770_01D788_1_01D78A_01D7A8_1_01D7AA_01D7C2_1,
   0x01D7C4_01D7CB_1_01D7CE_01D7FF_1_01EE00_01EE03_1_01EE05_01EE1F_1_01EE21_01EE22_1,
   0x01EE24_01EE24_1_01EE27_01EE27_1_01EE29_01EE32_1_01EE34_01EE37_1_01EE39_01EE3B_2,
   0x01EE42_01EE42_1_01EE47_01EE4B_2_01EE4D_01EE4F_1_01EE51_01EE52_1_01EE54_01EE54_1,
   0x01EE57_01EE5F_2_01EE61_01EE62_1_01EE64_01EE64_1_01EE67_01EE6A_1_01EE6C_01EE72_1,
   0x01EE74_01EE77_1_01EE79_01EE7C_1_01EE7E_01EE7E_1_01EE80_01EE89_1_01EE8B_01EE9B_1,
   0x01EEA1_01EEA3_1_01EEA5_01EEA9_1_01EEAB_01EEBB_1]

def otherGraphemeExtendRows : List Nat :=
  [0x0009BE_0009BE_1_0009D7_0009D7_1_000B3E_000B3E_1_000B57_000B57_1_000BBE_000BBE_1,
   0x000BD7_000BD7_1_000CC0_000CC2_2_000CC7_000CC8_1_000CCA_000CCB_1_000CD5_000CD6_1,
   0x000D3E_000D3E_1_000D57_000D57_1_000DCF_000DCF_1_000DDF_000DDF_1_001715_001715_1,
   0x001734_001734_1_001B35_001B35_1_001B3B_001B3D_2_001B43_001B44_1_001BAA_001BAA_1,
   0x001BF2_001BF3_1_00200C_00200C_1_00302E_00302F_1_00A953_00A953_1_00A9C0_00A9C0_1,
   0x00FF9E_00FF9F_1_0111C0_0111C0_1_011235_011235_1_01133E_01133E_1_01134D_01134D_1,
   0x011357_011357_1_0113B8_0113B8_1_0113C2_0113C2_1_0113C5_0113C5_1_0113C7_0113C9_1,
   0x0113CF_0113CF_1_0114B0_0114B0_1_0114BD_0114BD_1_0115AF_0115AF_1_0116B6_0116B6_1,
   0x011930_011930_1_01193D_01193D_1_011F41_011F41_1_016FF0_016FF1_1_01D165_01D166_1,
   0x01D16D_01D172_1_0E0020_0E007F_1]

def otherDefaultIgnorableRows : List Nat :=
  [0x00034F_00034F_1_00115F_001160_1_0017B4_0017B5_1_002065_002065_1_003164_003164_1,
   0x00FFA0_00FFA0_1_00FFF0_00FFF8_1_0E0000_0E0000_1_0E0002_0E001F_1_0E0080_0E00FF_1,
   0x0E01F0_0E0FFF_1]

def otherIdStartRows : List Nat :=
  [0x001885_001886_1_002118_002118_1_00212E_00212E_1_00309B_00309C_1]

def otherIdContinueRows : List Nat :=
  [0x0000B7_0000B7_1_000387_000387_1_001369_001371_1_0019DA_0019DA_1_00200C_00200D_1,
   0x0030FB_0030FB_1_00FF65_00FF65_1]

/-- Characters that are case ignorable for their part in words, not for their category. -/
def caseIgnorablePunctuationRows : List Nat :=
  [0x000027_000027_1_00002E_00002E_1_00003A_00003A_1_0000B7_0000B7_1_000387_000387_1,
   0x00055F_00055F_1_0005F4_0005F4_1_002018_002019_1_002024_002024_1_002027_002027_1,
   0x00FE13_00FE13_1_00FE52_00FE52_1_00FE55_00FE55_1_00FF07_00FF07_1_00FF0E_00FF0E_1,
   0x00FF1A_00FF1A_1]

/-- Identifier starts that lose that property under compatibility normalisation. -/
def nfkcUnstableStartRows : List Nat :=
  [0x00037A_00037A_1_000E33_000E33_1_000EB3_000EB3_1_00309B_00309C_1_00FC5E_00FC63_1,
   0x00FDFA_00FDFB_1_00FE70_00FE7E_2_00FF9E_00FF9F_1]

/-- Identifier parts that lose that property under compatibility normalisation. -/
def nfkcUnstableContinueRows : List Nat :=
  [0x00037A_00037A_1_00309B_00309C_1_00FC5E_00FC63_1_00FDFA_00FDFB_1_00FE70_00FE7E_2]

end TypedPattern.Unicode.Data
