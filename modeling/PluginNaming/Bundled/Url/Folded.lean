import PluginNaming.Bundled.Url.Composed
import PluginNaming.Text.Hidden
import PluginNaming.Text.LowerCase

set_option autoImplicit false

namespace PluginNaming.Bundled

open PluginNaming.Text

def plainRows : Rows :=
  [(0xA0, "20"), (0xA8, "20+308 - 61"),
   (0xAF, "20+304 - - 32 33 20+301 3BC - - 20+327 31 6F - 31+2044+34 31+2044+32"),
   (0xBE, "33+2044+34"), (0x132, "69+6A 69+6A"), (0x13F, "6C+B7 6C+B7"), (0x149, "2BC+6E"),
   (0x17F, "73"), (0x1C4, "64+17E 64+17E 64+17E 6C+6A 6C+6A 6C+6A 6E+6A 6E+6A 6E+6A"),
   (0x1F1, "64+7A 64+7A 64+7A"), (0x2B0, "68 266 6A 72 279 27B 281 77 79"),
   (0x2D8, "20+306 20+307 20+30A 20+328 20+303 20+30B - - 263 6C 73 78 295"), (0x345, "3B9"),
   (0x37A, "20+3B9"), (0x384, "20+301 20+308+301"), (0x3D0, "3B2 3B8 3C5 3CD 3CB 3C6 3C0"),
   (0x3F0, "3BA 3C1 3C3 - - 3B5 - - - 3C3"), (0x587, "565+582"),
   (0x675, "627+674 648+674 6C7+674 64A+674"), (0xE33, "E4D+E32"), (0xEB3, "ECD+EB2"),
   (0xEDC, "EAB+E99 EAB+EA1"), (0xF0C, "F0B"), (0xF77, "FB2+F71+F80 - FB3+F71+F80"),
   (0x10FC, "10DC"), (0x13F8, "13F0..13F5"), (0x1C80, "432 434 43E 441 442 442 44A 463 A64B"),
   (0x1D2C, "61 E6 62 - 64 65 1DD 67..6E - 6F 223 70 72 74 75 77 61 250 251 1D02 62 64 65"),
   (0x1D4A, "259 25B 25C 67 - 6B 6D 14B 6F 254 1D16 1D17 70 74 75 1D1D 26F 76 1D25 3B2..3B4"),
   (0x1D60, "3C6 3C7 69 72 75 76 3B2 3B3 3C1 3C6 3C7"), (0x1D78, "43D"),
   (0x1D9B, "252 63 255 F0 25C 66 25F 261 265 268..26A 1D7B 29D 26D 1D85 29F 271 270"),
   (0x1DAE, "272..275 278 282 283 1AB 289 28A 1D1C 28B 28C 7A 290..292 3B8"),
   (0x1E9A, "61+2BE 1E61"),
   (0x1F80, "1F00+3B9 1F01+3B9 1F02+3B9 1F03+3B9 1F04+3B9 1F05+3B9 1F06+3B9 1F07+3B9"),
   (0x1F88, "1F00+3B9 1F01+3B9 1F02+3B9 1F03+3B9 1F04+3B9 1F05+3B9 1F06+3B9 1F07+3B9"),
   (0x1F90, "1F20+3B9 1F21+3B9 1F22+3B9 1F23+3B9 1F24+3B9 1F25+3B9 1F26+3B9 1F27+3B9"),
   (0x1F98, "1F20+3B9 1F21+3B9 1F22+3B9 1F23+3B9 1F24+3B9 1F25+3B9 1F26+3B9 1F27+3B9"),
   (0x1FA0, "1F60+3B9 1F61+3B9 1F62+3B9 1F63+3B9 1F64+3B9 1F65+3B9 1F66+3B9 1F67+3B9"),
   (0x1FA8, "1F60+3B9 1F61+3B9 1F62+3B9 1F63+3B9 1F64+3B9 1F65+3B9 1F66+3B9 1F67+3B9"),
   (0x1FB2, "1F70+3B9 3B1+3B9 3AC+3B9 - - 1FB6+3B9"),
   (0x1FBC, "3B1+3B9 20+313 - 20+313 20+342 20+308+342 1F74+3B9 3B7+3B9 3AE+3B9"),
   (0x1FC7, "1FC6+3B9"), (0x1FCC, "3B7+3B9 20+313+300 20+313+301 20+313+342"),
   (0x1FDD, "20+314+300 20+314+301 20+314+342"),
   (0x1FED, "20+308+300 20+308+301 - - - 1F7C+3B9 3C9+3B9 3CE+3B9 - - 1FF6+3B9"),
   (0x1FFC, "3C9+3B9 20+301 20+314 - 20 20 20 20 20 20 20 20 20 20 20"), (0x2011, "2010"),
   (0x2017, "20+333"), (0x202F, "20 - - - 2032+2032 2032+2032+2032 - 2035+2035 2035+2035+2035"),
   (0x203C, "21+21 - 20+305"), (0x2047, "3F+3F 3F+21 21+3F"), (0x2057, "2032+2032+2032+2032"),
   (0x205F, "20"),
   (0x2070, "30 69 - - 34..39 2B 2212 3D 28 29 6E 30..39 2B 2212 3D 28 29 - 61 65 6F 78 259"),
   (0x2095, "68 6B..6E 70 73 74"), (0x20A8, "72+73"),
   (0x2100, "61+2F+63 61+2F+73 63 B0+63 - 63+2F+6F 63+2F+75 25B - B0+66 67 68 68 68 68 127"),
   (0x2110, "69 69 6C 6C - 6E 6E+6F - - 70..72 72 72 - - 73+6D 74+65+6C 74+6D - 7A - - - 7A"),
   (0x212C, "62 63 - 65 65 66 - 6D 6F 5D0..5D3 69 - 66+61+78 3C0 3B3 3B3 3C0 2211"),
   (0x2145, "64 64 65 69 6A"),
   (0x2150, "31+2044+37 31+2044+39 31+2044+31+30 31+2044+33 32+2044+33 31+2044+35"),
   (0x2156, "32+2044+35 33+2044+35 34+2044+35 31+2044+36 35+2044+36 31+2044+38 33+2044+38"),
   (0x215D, "35+2044+38 37+2044+38 31+2044 69 69+69 69+69+69 69+76 76 76+69 76+69+69"),
   (0x2167, "76+69+69+69 69+78 78 78+69 78+69+69 6C 63 64 6D 69 69+69 69+69+69 69+76 76"),
   (0x2175, "76+69 76+69+69 76+69+69+69 69+78 78 78+69 78+69+69 6C 63 64 6D"),
   (0x2189, "30+2044+33"), (0x222C, "222B+222B 222B+222B+222B - 222E+222E 222E+222E+222E"),
   (0x2460, "31..39 31+30 31+31 31+32 31+33 31+34 31+35 31+36 31+37 31+38 31+39 32+30"),
   (0x2474, "28+31+29 28+32+29 28+33+29 28+34+29 28+35+29 28+36+29 28+37+29 28+38+29"),
   (0x247C, "28+39+29 28+31+30+29 28+31+31+29 28+31+32+29 28+31+33+29 28+31+34+29"),
   (0x2482, "28+31+35+29 28+31+36+29 28+31+37+29 28+31+38+29 28+31+39+29 28+32+30+29"),
   (0x249C, "28+61+29 28+62+29 28+63+29 28+64+29 28+65+29 28+66+29 28+67+29 28+68+29"),
   (0x24A4, "28+69+29 28+6A+29 28+6B+29 28+6C+29 28+6D+29 28+6E+29 28+6F+29 28+70+29"),
   (0x24AC, "28+71+29 28+72+29 28+73+29 28+74+29 28+75+29 28+76+29 28+77+29 28+78+29"),
   (0x24B4, "28+79+29 28+7A+29 61..7A 61..7A 30"), (0x2A0C, "222B+222B+222B+222B"),
   (0x2A74, "3A+3A+3D 3D+3D 3D+3D+3D"), (0x2C7C, "6A 76"), (0x2D6F, "2D61"), (0x2E9F, "6BCD"),
   (0x2EF3, "9F9F"),
   (0x2F00, "4E00 4E28 4E36 4E3F 4E59 4E85 4E8C 4EA0 4EBA 513F 5165 516B 5182 5196 51AB"),
   (0x2F0F, "51E0 51F5 5200 529B 52F9 5315 531A 5338 5341 535C 5369 5382 53B6 53C8 53E3"),
   (0x2F1E, "56D7 571F 58EB 5902 590A 5915 5927 5973 5B50 5B80 5BF8 5C0F 5C22 5C38 5C6E"),
   (0x2F2D, "5C71 5DDB 5DE5 5DF1 5DFE 5E72 5E7A 5E7F 5EF4 5EFE 5F0B 5F13 5F50 5F61 5F73"),
   (0x2F3C, "5FC3 6208 6236 624B 652F 6534 6587 6597 65A4 65B9 65E0 65E5 66F0 6708 6728"),
   (0x2F4B, "6B20 6B62 6B79 6BB3 6BCB 6BD4 6BDB 6C0F 6C14 6C34 706B 722A 7236 723B 723F"),
   (0x2F5A, "7247 7259 725B 72AC 7384 7389 74DC 74E6 7518 751F 7528 7530 758B 7592 7676"),
   (0x2F69, "767D 76AE 76BF 76EE 77DB 77E2 77F3 793A 79B8 79BE 7A74 7ACB 7AF9 7C73 7CF8"),
   (0x2F78, "7F36 7F51 7F8A 7FBD 8001 800C 8012 8033 807F 8089 81E3 81EA 81F3 81FC 820C"),
   (0x2F87, "821B 821F 826E 8272 8278 864D 866B 8840 884C 8863 897E 898B 89D2 8A00 8C37"),
   (0x2F96, "8C46 8C55 8C78 8C9D 8D64 8D70 8DB3 8EAB 8ECA 8F9B 8FB0 8FB5 9091 9149 91C6"),
   (0x2FA5, "91CC 91D1 9577 9580 961C 96B6 96B9 96E8 9751 975E 9762 9769 97CB 97ED 97F3"),
   (0x2FB4, "9801 98A8 98DB 98DF 9996 9999 99AC 9AA8 9AD8 9ADF 9B25 9B2F 9B32 9B3C 9B5A"),
   (0x2FC3, "9CE5 9E75 9E7F 9EA5 9EBB 9EC3 9ECD 9ED1 9EF9 9EFD 9F0E 9F13 9F20 9F3B 9F4A"),
   (0x2FD2, "9F52 9F8D 9F9C 9FA0"), (0x3000, "20 - 2E"), (0x3036, "3012 - 5341 5344 5345"),
   (0x309B, "20+3099 20+309A - - 3088+308A"), (0x30FF, "30B3+30C8"),
   (0x3131, "1100 1101 11AA 1102 11AC 11AD 1103..1105 11B0..11B5 111A 1106..1108 1121"),
   (0x3145, "1109..1112 1161..1175 - 1114 1115 11C7 11C8 11CC 11CE 11D3 11D7 11D9 111C 11DD"),
   (0x3170, "11DF 111D 111E 1120 1122 1123 1127 1129 112B..112F 1132 1136 1140 1147 114C"),
   (0x3182, "11F1 11F2 1157..1159 1184 1185 1188 1191 1192 1194 119E 11A1 - - - 4E00 4E8C"),
   (0x3194, "4E09 56DB 4E0A 4E2D 4E0B 7532 4E59 4E19 4E01 5929 5730 4EBA"),
   (0x3200, "28+1100+29 28+1102+29 28+1103+29 28+1105+29 28+1106+29 28+1107+29 28+1109+29"),
   (0x3207, "28+110B+29 28+110C+29 28+110E+29 28+110F+29 28+1110+29 28+1111+29 28+1112+29"),
   (0x320E, "28+AC00+29 28+B098+29 28+B2E4+29 28+B77C+29 28+B9C8+29 28+BC14+29 28+C0AC+29"),
   (0x3215, "28+C544+29 28+C790+29 28+CC28+29 28+CE74+29 28+D0C0+29 28+D30C+29 28+D558+29"),
   (0x321C, "28+C8FC+29 28+C624+C804+29 28+C624+D6C4+29 - 28+4E00+29 28+4E8C+29 28+4E09+29"),
   (0x3223, "28+56DB+29 28+4E94+29 28+516D+29 28+4E03+29 28+516B+29 28+4E5D+29 28+5341+29"),
   (0x322A, "28+6708+29 28+706B+29 28+6C34+29 28+6728+29 28+91D1+29 28+571F+29 28+65E5+29"),
   (0x3231, "28+682A+29 28+6709+29 28+793E+29 28+540D+29 28+7279+29 28+8CA1+29 28+795D+29"),
   (0x3238, "28+52B4+29 28+4EE3+29 28+547C+29 28+5B66+29 28+76E3+29 28+4F01+29 28+8CC7+29"),
   (0x323F, "28+5354+29 28+796D+29 28+4F11+29 28+81EA+29 28+81F3+29 554F 5E7C 6587 7B8F"),
   (0x3250, "70+74+65 32+31 32+32 32+33 32+34 32+35 32+36 32+37 32+38 32+39 33+30 33+31"),
   (0x325C, "33+32 33+33 33+34 33+35 1100 1102 1103 1105..1107 1109 110B 110C 110E..1112"),
   (0x326E, "AC00 B098 B2E4 B77C B9C8 BC14 C0AC C544 C790 CC28 CE74 D0C0 D30C D558"),
   (0x327C, "CC38+ACE0 C8FC+C758 C6B0 - 4E00 4E8C 4E09 56DB 4E94 516D 4E03 516B 4E5D 5341"),
   (0x328A, "6708 706B 6C34 6728 91D1 571F 65E5 682A 6709 793E 540D 7279 8CA1 795D 52B4"),
   (0x3299, "79D8 7537 5973 9069 512A 5370 6CE8 9805 4F11 5199 6B63 4E0A 4E2D 4E0B 5DE6"),
   (0x32A8, "53F3 533B 5B97 5B66 76E3 4F01 8CC7 5354 591C 33+36 33+37 33+38 33+39 34+30"),
   (0x32B6, "34+31 34+32 34+33 34+34 34+35 34+36 34+37 34+38 34+39 35+30 31+6708 32+6708"),
   (0x32C2, "33+6708 34+6708 35+6708 36+6708 37+6708 38+6708 39+6708 31+30+6708 31+31+6708"),
   (0x32CB, "31+32+6708 68+67 65+72+67 65+76 6C+74+64 30A2 30A4 30A6 30A8 30AA 30AB 30AD"),
   (0x32D7, "30AF 30B1 30B3 30B5 30B7 30B9 30BB 30BD 30BF 30C1 30C4 30C6 30C8 30CA..30CF"),
   (0x32EA, "30D2 30D5 30D8 30DB 30DE..30E2 30E4 30E6 30E8..30ED 30EF..30F2 4EE4+548C"),
   (0x3300, "30A2+30D1+30FC+30C8 30A2+30EB+30D5+30A1 30A2+30F3+30DA+30A2 30A2+30FC+30EB"),
   (0x3304, "30A4+30CB+30F3+30B0 30A4+30F3+30C1 30A6+30A9+30F3 30A8+30B9+30AF+30FC+30C9"),
   (0x3308, "30A8+30FC+30AB+30FC 30AA+30F3+30B9 30AA+30FC+30E0 30AB+30A4+30EA"),
   (0x330C, "30AB+30E9+30C3+30C8 30AB+30ED+30EA+30FC 30AC+30ED+30F3 30AC+30F3+30DE"),
   (0x3310, "30AE+30AC 30AE+30CB+30FC 30AD+30E5+30EA+30FC 30AE+30EB+30C0+30FC 30AD+30ED"),
   (0x3315, "30AD+30ED+30B0+30E9+30E0 30AD+30ED+30E1+30FC+30C8+30EB"),
   (0x3317, "30AD+30ED+30EF+30C3+30C8 30B0+30E9+30E0 30B0+30E9+30E0+30C8+30F3"),
   (0x331A, "30AF+30EB+30BC+30A4+30ED 30AF+30ED+30FC+30CD 30B1+30FC+30B9 30B3+30EB+30CA"),
   (0x331E, "30B3+30FC+30DD 30B5+30A4+30AF+30EB 30B5+30F3+30C1+30FC+30E0"),
   (0x3321, "30B7+30EA+30F3+30B0 30BB+30F3+30C1 30BB+30F3+30C8 30C0+30FC+30B9 30C7+30B7"),
   (0x3326, "30C9+30EB 30C8+30F3 30CA+30CE 30CE+30C3+30C8 30CF+30A4+30C4"),
   (0x332B, "30D1+30FC+30BB+30F3+30C8 30D1+30FC+30C4 30D0+30FC+30EC+30EB"),
   (0x332E, "30D4+30A2+30B9+30C8+30EB 30D4+30AF+30EB 30D4+30B3 30D3+30EB"),
   (0x3332, "30D5+30A1+30E9+30C3+30C9 30D5+30A3+30FC+30C8 30D6+30C3+30B7+30A7+30EB"),
   (0x3335, "30D5+30E9+30F3 30D8+30AF+30BF+30FC+30EB 30DA+30BD 30DA+30CB+30D2"),
   (0x3339, "30D8+30EB+30C4 30DA+30F3+30B9 30DA+30FC+30B8 30D9+30FC+30BF"),
   (0x333D, "30DD+30A4+30F3+30C8 30DC+30EB+30C8 30DB+30F3 30DD+30F3+30C9 30DB+30FC+30EB"),
   (0x3342, "30DB+30FC+30F3 30DE+30A4+30AF+30ED 30DE+30A4+30EB 30DE+30C3+30CF"),
   (0x3346, "30DE+30EB+30AF 30DE+30F3+30B7+30E7+30F3 30DF+30AF+30ED+30F3 30DF+30EA"),
   (0x334A, "30DF+30EA+30D0+30FC+30EB 30E1+30AC 30E1+30AC+30C8+30F3 30E1+30FC+30C8+30EB"),
   (0x334E, "30E4+30FC+30C9 30E4+30FC+30EB 30E6+30A2+30F3 30EA+30C3+30C8+30EB 30EA+30E9"),
   (0x3353, "30EB+30D4+30FC 30EB+30FC+30D6+30EB 30EC+30E0 30EC+30F3+30C8+30B2+30F3"),
   (0x3357, "30EF+30C3+30C8 30+70B9 31+70B9 32+70B9 33+70B9 34+70B9 35+70B9 36+70B9 37+70B9"),
   (0x3360, "38+70B9 39+70B9 31+30+70B9 31+31+70B9 31+32+70B9 31+33+70B9 31+34+70B9"),
   (0x3367, "31+35+70B9 31+36+70B9 31+37+70B9 31+38+70B9 31+39+70B9 32+30+70B9 32+31+70B9"),
   (0x336E, "32+32+70B9 32+33+70B9 32+34+70B9 68+70+61 64+61 61+75 62+61+72 6F+76 70+63"),
   (0x3377, "64+6D 64+6D+32 64+6D+33 69+75 5E73+6210 662D+548C 5927+6B63 660E+6CBB"),
   (0x337F, "682A+5F0F+4F1A+793E 70+61 6E+61 3BC+61 6D+61 6B+61 6B+62 6D+62 67+62 63+61+6C"),
   (0x3389, "6B+63+61+6C 70+66 6E+66 3BC+66 3BC+67 6D+67 6B+67 68+7A 6B+68+7A 6D+68+7A"),
   (0x3393, "67+68+7A 74+68+7A 3BC+6C 6D+6C 64+6C 6B+6C 66+6D 6E+6D 3BC+6D 6D+6D 63+6D"),
   (0x339E, "6B+6D 6D+6D+32 63+6D+32 6D+32 6B+6D+32 6D+6D+33 63+6D+33 6D+33 6B+6D+33"),
   (0x33A7, "6D+2215+73 6D+2215+73+32 70+61 6B+70+61 6D+70+61 67+70+61 72+61+64"),
   (0x33AE, "72+61+64+2215+73 72+61+64+2215+73+32 70+73 6E+73 3BC+73 6D+73 70+76 6E+76"),
   (0x33B6, "3BC+76 6D+76 6B+76 6D+76 70+77 6E+77 3BC+77 6D+77 6B+77 6D+77 6B+3C9 6D+3C9"),
   (0x33C3, "62+71 63+63 63+64 63+2215+6B+67 - 64+62 67+79 68+61 68+70 69+6E 6B+6B 6B+6D"),
   (0x33CF, "6B+74 6C+6D 6C+6E 6C+6F+67 6C+78 6D+62 6D+69+6C 6D+6F+6C 70+68 - 70+70+6D"),
   (0x33DA, "70+72 73+72 73+76 77+62 76+2215+6D 61+2215+6D 31+65E5 32+65E5 33+65E5 34+65E5"),
   (0x33E4, "35+65E5 36+65E5 37+65E5 38+65E5 39+65E5 31+30+65E5 31+31+65E5 31+32+65E5"),
   (0x33EC, "31+33+65E5 31+34+65E5 31+35+65E5 31+36+65E5 31+37+65E5 31+38+65E5 31+39+65E5"),
   (0x33F3, "32+30+65E5 32+31+65E5 32+32+65E5 32+33+65E5 32+34+65E5 32+35+65E5 32+36+65E5"),
   (0x33FA, "32+37+65E5 32+38+65E5 32+39+65E5 33+30+65E5 33+31+65E5 67+61+6C"), (0xA69C, "44A 44C"),
   (0xA770, "A76F"), (0xA7F1, "73 63 66 71 - - - 127 153"), (0xAB5C, "A727 AB37 26B AB52"),
   (0xAB69, "28D"), (0xAB70, "13A0..13EF"),
   (0xFB00, "66+66 66+69 66+6C 66+66+69 66+66+6C 73+74 73+74"),
   (0xFB13, "574+576 574+565 574+56B 57E+576 574+56D"),
   (0xFB20, "5E2 5D0 5D3 5D4 5DB..5DD 5E8 5EA 2B"),
   (0xFB4F, "5D0+5DC 671 671 67B 67B 67B 67B 67E 67E 67E 67E 680 680 680 680 67A 67A 67A"),
   (0xFB61, "67A 67F 67F 67F 67F 679 679 679 679 6A4 6A4 6A4 6A4 6A6 6A6 6A6 6A6 684 684"),
   (0xFB74, "684 684 683 683 683 683 686 686 686 686 687 687 687 687 68D 68D 68C 68C 68E"),
   (0xFB87, "68E 688 688 698 698 691 691 6A9 6A9 6A9 6A9 6AF 6AF 6AF 6AF 6B3 6B3 6B3 6B3"),
   (0xFB9A, "6B1 6B1 6B1 6B1 6BA 6BA 6BB 6BB 6BB 6BB 6C0 6C0 6C1 6C1 6C1 6C1 6BE 6BE 6BE"),
   (0xFBAD, "6BE 6D2 6D2 6D3 6D3"),
   (0xFBD3, "6AD 6AD 6AD 6AD 6C7 6C7 6C6 6C6 6C8 6C8 6C7+674 6CB 6CB 6C5 6C5 6C9 6C9 6D0"),
   (0xFBE5, "6D0 6D0 6D0 649 649 626+627 626+627 626+6D5 626+6D5 626+648 626+648 626+6C7"),
   (0xFBF1, "626+6C7 626+6C6 626+6C6 626+6C8 626+6C8 626+6D0 626+6D0 626+6D0 626+649"),
   (0xFBFA, "626+649 626+649 6CC 6CC 6CC 6CC 626+62C 626+62D 626+645 626+649 626+64A"),
   (0xFC05, "628+62C 628+62D 628+62E 628+645 628+649 628+64A 62A+62C 62A+62D 62A+62E"),
   (0xFC0E, "62A+645 62A+649 62A+64A 62B+62C 62B+645 62B+649 62B+64A 62C+62D 62C+645"),
   (0xFC17, "62D+62C 62D+645 62E+62C 62E+62D 62E+645 633+62C 633+62D 633+62E 633+645"),
   (0xFC20, "635+62D 635+645 636+62C 636+62D 636+62E 636+645 637+62D 637+645 638+645"),
   (0xFC29, "639+62C 639+645 63A+62C 63A+645 641+62C 641+62D 641+62E 641+645 641+649"),
   (0xFC32, "641+64A 642+62D 642+645 642+649 642+64A 643+627 643+62C 643+62D 643+62E"),
   (0xFC3B, "643+644 643+645 643+649 643+64A 644+62C 644+62D 644+62E 644+645 644+649"),
   (0xFC44, "644+64A 645+62C 645+62D 645+62E 645+645 645+649 645+64A 646+62C 646+62D"),
   (0xFC4D, "646+62E 646+645 646+649 646+64A 647+62C 647+645 647+649 647+64A 64A+62C"),
   (0xFC56, "64A+62D 64A+62E 64A+645 64A+649 64A+64A 630+670 631+670 649+670 20+64C+651"),
   (0xFC5F, "20+64D+651 20+64E+651 20+64F+651 20+650+651 20+651+670 626+631 626+632 626+645"),
   (0xFC67, "626+646 626+649 626+64A 628+631 628+632 628+645 628+646 628+649 628+64A"),
   (0xFC70, "62A+631 62A+632 62A+645 62A+646 62A+649 62A+64A 62B+631 62B+632 62B+645"),
   (0xFC79, "62B+646 62B+649 62B+64A 641+649 641+64A 642+649 642+64A 643+627 643+644"),
   (0xFC82, "643+645 643+649 643+64A 644+645 644+649 644+64A 645+627 645+645 646+631"),
   (0xFC8B, "646+632 646+645 646+646 646+649 646+64A 649+670 64A+631 64A+632 64A+645"),
   (0xFC94, "64A+646 64A+649 64A+64A 626+62C 626+62D 626+62E 626+645 626+647 628+62C"),
   (0xFC9D, "628+62D 628+62E 628+645 628+647 62A+62C 62A+62D 62A+62E 62A+645 62A+647"),
   (0xFCA6, "62B+645 62C+62D 62C+645 62D+62C 62D+645 62E+62C 62E+645 633+62C 633+62D"),
   (0xFCAF, "633+62E 633+645 635+62D 635+62E 635+645 636+62C 636+62D 636+62E 636+645"),
   (0xFCB8, "637+62D 638+645 639+62C 639+645 63A+62C 63A+645 641+62C 641+62D 641+62E"),
   (0xFCC1, "641+645 642+62D 642+645 643+62C 643+62D 643+62E 643+644 643+645 644+62C"),
   (0xFCCA, "644+62D 644+62E 644+645 644+647 645+62C 645+62D 645+62E 645+645 646+62C"),
   (0xFCD3, "646+62D 646+62E 646+645 646+647 647+62C 647+645 647+670 64A+62C 64A+62D"),
   (0xFCDC, "64A+62E 64A+645 64A+647 626+645 626+647 628+645 628+647 62A+645 62A+647"),
   (0xFCE5, "62B+645 62B+647 633+645 633+647 634+645 634+647 643+644 643+645 644+645"),
   (0xFCEE, "646+645 646+647 64A+645 64A+647 640+64E+651 640+64F+651 640+650+651 637+649"),
   (0xFCF6, "637+64A 639+649 639+64A 63A+649 63A+64A 633+649 633+64A 634+649 634+64A"),
   (0xFCFF, "62D+649 62D+64A 62C+649 62C+64A 62E+649 62E+64A 635+649 635+64A 636+649"),
   (0xFD08, "636+64A 634+62C 634+62D 634+62E 634+645 634+631 633+631 635+631 636+631"),
   (0xFD11, "637+649 637+64A 639+649 639+64A 63A+649 63A+64A 633+649 633+64A 634+649"),
   (0xFD1A, "634+64A 62D+649 62D+64A 62C+649 62C+64A 62E+649 62E+64A 635+649 635+64A"),
   (0xFD23, "636+649 636+64A 634+62C 634+62D 634+62E 634+645 634+631 633+631 635+631"),
   (0xFD2C, "636+631 634+62C 634+62D 634+62E 634+645 633+647 634+647 637+645 633+62C"),
   (0xFD35, "633+62D 633+62E 634+62C 634+62D 634+62E 637+645 638+645 627+64B 627+64B"),
   (0xFD50, "62A+62C+645 62A+62D+62C 62A+62D+62C 62A+62D+645 62A+62E+645 62A+645+62C"),
   (0xFD56, "62A+645+62D 62A+645+62E 62C+645+62D 62C+645+62D 62D+645+64A 62D+645+649"),
   (0xFD5C, "633+62D+62C 633+62C+62D 633+62C+649 633+645+62D 633+645+62D 633+645+62C"),
   (0xFD62, "633+645+645 633+645+645 635+62D+62D 635+62D+62D 635+645+645 634+62D+645"),
   (0xFD68, "634+62D+645 634+62C+64A 634+645+62E 634+645+62E 634+645+645 634+645+645"),
   (0xFD6E, "636+62D+649 636+62E+645 636+62E+645 637+645+62D 637+645+62D 637+645+645"),
   (0xFD74, "637+645+64A 639+62C+645 639+645+645 639+645+645 639+645+649 63A+645+645"),
   (0xFD7A, "63A+645+64A 63A+645+649 641+62E+645 641+62E+645 642+645+62D 642+645+645"),
   (0xFD80, "644+62D+645 644+62D+64A 644+62D+649 644+62C+62C 644+62C+62C 644+62E+645"),
   (0xFD86, "644+62E+645 644+645+62D 644+645+62D 645+62D+62C 645+62D+645 645+62D+64A"),
   (0xFD8C, "645+62C+62D 645+62C+645 645+62E+62C 645+62E+645 - - 645+62C+62E 647+645+62C"),
   (0xFD94, "647+645+645 646+62D+645 646+62D+649 646+62C+645 646+62C+645 646+62C+649"),
   (0xFD9A, "646+645+64A 646+645+649 64A+645+645 64A+645+645 628+62E+64A 62A+62C+64A"),
   (0xFDA0, "62A+62C+649 62A+62E+64A 62A+62E+649 62A+645+64A 62A+645+649 62C+645+64A"),
   (0xFDA6, "62C+62D+649 62C+645+649 633+62E+649 635+62D+64A 634+62D+64A 636+62D+64A"),
   (0xFDAC, "644+62C+64A 644+645+64A 64A+62D+64A 64A+62C+64A 64A+645+64A 645+645+64A"),
   (0xFDB2, "642+645+64A 646+62D+64A 642+645+62D 644+62D+645 639+645+64A 643+645+64A"),
   (0xFDB8, "646+62C+62D 645+62E+64A 644+62C+645 643+645+645 644+62C+645 646+62C+62D"),
   (0xFDBE, "62C+62D+64A 62D+62C+64A 645+62C+64A 641+645+64A 628+62D+64A 643+645+645"),
   (0xFDC4, "639+62C+645 635+645+645 633+62E+64A 646+62C+64A"),
   (0xFDF0, "635+644+6D2 642+644+6D2 627+644+644+647 627+643+628+631 645+62D+645+62F"),
   (0xFDF5, "635+644+639+645 631+633+648+644 639+644+64A+647 648+633+644+645 635+644+649"),
   (0xFDFA, "635+644+649+20+627+644+644+647+20+639+644+64A+647+20+648+633+644+645"),
   (0xFDFB, "62C+644+20+62C+644+627+644+647 631+6CC+627+644"),
   (0xFE10, "2C 3001 - 3A 3B 21 3F 3016 3017"),
   (0xFE31, "2014 2013 5F 5F 28 29 7B 7D 3014 3015 3010 3011 300A 300B 3008 3009 300C..300F"),
   (0xFE47, "5B 5D 20+305 20+305 20+305 20+305 5F 5F 5F 2C 3001 - - 3B 3A 3F 21 2014 28"),
   (0xFE5A, "29 7B 7D 3014 3015 23 26 2A 2B 2D 3C 3E 3D - 5C 24 25 40"),
   (0xFE70, "20+64B 640+64B 20+64C - 20+64D - 20+64E 640+64E 20+64F 640+64F 20+650 640+650"),
   (0xFE7C, "20+651 640+651 20+652 640+652 621 622 622 623 623 624 624 625 625 626 626 626"),
   (0xFE8C, "626 627 627 628 628 628 628 629 629 62A 62A 62A 62A 62B 62B 62B 62B 62C 62C"),
   (0xFE9F, "62C 62C 62D 62D 62D 62D 62E 62E 62E 62E 62F 62F 630 630 631 631 632 632 633"),
   (0xFEB2, "633 633 633 634 634 634 634 635 635 635 635 636 636 636 636 637 637 637 637"),
   (0xFEC5, "638 638 638 638 639 639 639 639 63A 63A 63A 63A 641 641 641 641 642 642 642"),
   (0xFED8, "642 643 643 643 643 644 644 644 644 645 645 645 645 646 646 646 646 647 647"),
   (0xFEEB, "647 647 648 648 649 649 64A 64A 64A 64A 644+622 644+622 644+623 644+623"),
   (0xFEF9, "644+625 644+625 644+627 644+627"),
   (0xFF01, "21..40 61..7A 5B..7E 2985 2986 2E 300C 300D 3001 30FB 30F2 30A1 30A3 30A5 30A7"),
   (0xFF6B, "30A9 30E3 30E5 30E7 30C3 30FC 30A2 30A4 30A6 30A8 30AA 30AB 30AD 30AF 30B1"),
   (0xFF7A, "30B3 30B5 30B7 30B9 30BB 30BD 30BF 30C1 30C4 30C6 30C8 30CA..30CF 30D2 30D5"),
   (0xFF8D, "30D8 30DB 30DE..30E2 30E4 30E6 30E8..30ED 30EF 30F3 3099 309A - 1100 1101 11AA"),
   (0xFFA4, "1102 11AC 11AD 1103..1105 11B0..11B5 111A 1106..1108 1121 1109..1112"),
   (0xFFC2, "1161..1166 - - 1167..116C - - 116D..1172 - - 1173..1175 - - - A2 A3 AC 20+304"),
   (0xFFE4, "A6 A5 20A9 - 2502 2190..2193 25A0 25CB"),
   (0x10781, "2D0 2D1 E6 299 253 - 2A3 AB66 2A5 2A4 256 257 1D91 258 25E 2A9 264 262 260 29B"),
   (0x10795, "127 29C 267 284 2AA 2AB 26C 1DF04 A78E 26E 1DF05 28E 1DF06 F8 276 277 71 27A"),
   (0x107A7, "1DF08 27D 27E 280 2A8 2A6 AB67 2A7 288 2C71 - 28F 2A1 2A2 298 1C0..1C2 1DF0A"),
   (0x107BA, "1DF1E"), (0x1CCD6, "61..7A 30..39"),
   (0x1D400, "61..7A 61..7A 61..7A 61..67 - 69..7A 61..7A 61..7A 61 - 63 64 - - 67 - - 6A 6B"),
   (0x1D4A9, "6E..71 - 73..7A 61..64 - 66 - 68..6E - 70..7A 61..7A 61..7A 61 62 - 64..67"),
   (0x1D50D, "6A..71 - 73..79 - 61..7A 61 62 - 64..67 - 69..6D - 6F - - - 73..79"),
   (0x1D552, "61..7A 61..7A 61..7A 61..7A 61..7A 61..7A 61..7A 61..7A 61..7A 61..7A 61..7A"),
   (0x1D670, "61..7A 61..7A 131 237 - - 3B1..3C1 3B8 3C3..3C9 2207 3B1..3C1 3C3 3C3..3C9"),
   (0x1D6DB, "2202 3B5 3B8 3BA 3C6 3C1 3C0 3B1..3C1 3B8 3C3..3C9 2207 3B1..3C1 3C3 3C3..3C9"),
   (0x1D715, "2202 3B5 3B8 3BA 3C6 3C1 3C0 3B1..3C1 3B8 3C3..3C9 2207 3B1..3C1 3C3 3C3..3C9"),
   (0x1D74F, "2202 3B5 3B8 3BA 3C6 3C1 3C0 3B1..3C1 3B8 3C3..3C9 2207 3B1..3C1 3C3 3C3..3C9"),
   (0x1D789, "2202 3B5 3B8 3BA 3C6 3C1 3C0 3B1..3C1 3B8 3C3..3C9 2207 3B1..3C1 3C3 3C3..3C9"),
   (0x1D7C3, "2202 3B5 3B8 3BA 3C6 3C1 3C0 3DD 3DD - - 30..39 30..39 30..39 30..39 30..39"),
   (0x1E030, "430..438 43A..43C 43E..448 44B 44D 44E A689 4D9 456 458 4E9 4AF 4CF 430..438"),
   (0x1E05A, "43A 43B 43E 43F 441 443..448 44A 44B 491 456 455 45F 4AB A651 4B1"),
   (0x1EE00, "627 628 62C 62F - 648 632 62D 637 64A 643..646 633 639 641 635 642 631 634 62A"),
   (0x1EE16, "62B 62E 630 636 638 63A 66E 6BA 6A1 66F - 628 62C - 647 - - 62D - 64A 643..646"),
   (0x1EE2E, "633 639 641 635 642 - 634 62A 62B 62E - 636 - 63A"), (0x1EE42, "62C"),
   (0x1EE47, "62D - 64A - 644 - 646 633 639 - 635 642 - 634 - - 62E - 636 - 63A - 6BA - 66F"),
   (0x1EE61, "628 62C - 647 - - 62D 637 64A 643 - 645 646 633 639 641 635 642 - 634 62A"),
   (0x1EE76, "62B 62E - 636 638 63A 66E - 6A1 - 627 628 62C 62F 647 648 632 62D 637 64A"),
   (0x1EE8B, "644..646 633 639 641 635 642 631 634 62A 62B 62E 630 636 638 63A"),
   (0x1EEA1, "628 62C 62F - 648 632 62D 637 64A - 644..646 633 639 641 635 642 631 634 62A"),
   (0x1EEB6, "62B 62E 630 636 638 63A"),
   (0x1F101, "30+2C 31+2C 32+2C 33+2C 34+2C 35+2C 36+2C 37+2C 38+2C 39+2C"),
   (0x1F110, "28+61+29 28+62+29 28+63+29 28+64+29 28+65+29 28+66+29 28+67+29 28+68+29"),
   (0x1F118, "28+69+29 28+6A+29 28+6B+29 28+6C+29 28+6D+29 28+6E+29 28+6F+29 28+70+29"),
   (0x1F120, "28+71+29 28+72+29 28+73+29 28+74+29 28+75+29 28+76+29 28+77+29 28+78+29"),
   (0x1F128, "28+79+29 28+7A+29 3014+73+3015 63 72 63+64 77+7A - 61..7A 68+76 6D+76 73+64"),
   (0x1F14D, "73+73 70+70+76 77+63"), (0x1F16A, "6D+63 6D+64 6D+72"), (0x1F190, "64+6A"),
   (0x1F200, "307B+304B 30B3+30B3 30B5"),
   (0x1F210, "624B 5B57 53CC 30C7 4E8C 591A 89E3 5929 4EA4 6620 7121 6599 524D 5F8C 518D"),
   (0x1F21F, "65B0 521D 7D42 751F 8CA9 58F0 5439 6F14 6295 6355 4E00 4E09 904A 5DE6 4E2D"),
   (0x1F22E, "53F3 6307 8D70 6253 7981 7A7A 5408 6E80 6709 6708 7533 5272 55B6 914D"),
   (0x1F240, "3014+672C+3015 3014+4E09+3015 3014+4E8C+3015 3014+5B89+3015 3014+70B9+3015"),
   (0x1F245, "3014+6253+3015 3014+76D7+3015 3014+52DD+3015 3014+6557+3015"), (0x1F250, "5F97 53EF"),
   (0x1FBF0, "30..39")]

def ignoredRanges : List (Nat × Nat) :=
  [(0xAD, 0xAD), (0x34F, 0x34F), (0x115F, 0x1160), (0x17B4, 0x17B5), (0x180B, 0x180F),
   (0x200B, 0x200B), (0x2060, 0x2064), (0x206A, 0x206F), (0x3164, 0x3164), (0xFE00, 0xFE0F),
   (0xFEFF, 0xFEFF), (0xFFA0, 0xFFA0), (0x1BCA0, 0x1BCA3), (0x1D173, 0x1D17A), (0xE0100, 0xE01EF)]

def barredRanges : List (Nat × Nat) :=
  [(0x2024, 0x2026), (0x2488, 0x249B), (0x2FF0, 0x2FFF), (0x31EF, 0x31EF), (0x33C2, 0x33C2),
   (0x33C7, 0x33C7), (0x33D8, 0x33D8), (0xFE12, 0xFE12), (0xFE19, 0xFE19), (0xFE30, 0xFE30),
   (0xFE52, 0xFE52), (0xFFFC, 0xFFFD), (0x1F100, 0x1F100)]

def keepsCapital (c : Char) : Bool := 0x13A0 ≤ c.toNat && c.toNat ≤ 0x13F5

def foldCharacter (c : Char) : List Char :=
  let point := c.toNat
  if point < 0x80 then [c.toLower]
  else if inRanges ignoredRanges point then []
  else
    match plainRows.find? point with
    | some plain => plain
    | none => if keepsCapital c then [c] else smallLetters c

def fold (text : List Char) : List Char :=
  if text.all fun c => c.toNat < 0x80 then text.map Char.toLower
  else composed (text.flatMap foldCharacter)

def isFolded (c : Char) : Bool :=
  c.toNat = 0x200C || c.toNat = 0x200D ||
    (!isShapeless c && !inRanges barredRanges c.toNat)

end PluginNaming.Bundled
