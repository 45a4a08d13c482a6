/-
**Which characters a domain name may hold.**

Domain names are compared after a mapping of characters: some stand for others (capitals for small
letters, wide forms for narrow ones), some are ignored, some are valid as they are, and the rest is
refused.  This module holds that mapping, the joining types that restrict the invisible joiners,
and the direction classes that restrict names written from right to left.

Main definitions:

* `DomainTable.valid`, `DomainTable.ignored`, `DomainTable.mapped?` — the mapping;
* `DomainTable.rightJoining`, `leftJoining`, `dualJoining`, `transparent` — the joining types;
* `DomainTable.Direction`, `DomainTable.direction` — the direction classes.
-/

import Std.Data.HashMap
import ChapterAssembly.Text.CaseFolding
import ChapterAssembly.Text.Normal

set_option relaxedAutoImplicit false
set_option autoImplicit false

namespace ChapterAssembly

namespace DomainTable

/-- The characters that stand for themselves. -/
def valid : CharSet := .ofHex
  "0-40 5B-7F A1-A7 A9 AB-AC AE B0-B1 B6-B7 BB BF D7 DF-FF 101 103 105 107 109 10B 10D 10F 111
  113 115 117 119 11B 11D 11F 121 123 125 127 129 12B 12D 12F 131 135 137-138 13A 13C 13E 142
  144 146 148 14B 14D 14F 151 153 155 157 159 15B 15D 15F 161 163 165 167 169 16B 16D 16F 171
  173 175 177 17A 17C 17E 180 183 185 188 18C-18D 192 195 199-19B 19E 1A1 1A3 1A5 1A8 1AA-1AB
  1AD 1B0 1B4 1B6 1B9-1BB 1BD-1C3 1CE 1D0 1D2 1D4 1D6 1D8 1DA 1DC-1DD 1DF 1E1 1E3 1E5 1E7 1E9
  1EB 1ED 1EF-1F0 1F5 1F9 1FB 1FD 1FF 201 203 205 207 209 20B 20D 20F 211 213 215 217 219 21B
  21D 21F 221 223 225 227 229 22B 22D 22F 231 233-239 23C 23F-240 242 247 249 24B 24D 24F-2AF
  2B9-2D7 2DE-2DF 2E5-33F 342 346-34E 350-36F 371 373 375 377 37B-37D 390 3AC-3CE 3D7 3D9 3DB
  3DD 3DF 3E1 3E3 3E5 3E7 3E9 3EB 3ED 3EF 3F3 3F6 3F8 3FB-3FC 430-45F 461 463 465 467 469 46B
  46D 46F 471 473 475 477 479 47B 47D 47F 481-489 48B 48D 48F 491 493 495 497 499 49B 49D 49F
  4A1 4A3 4A5 4A7 4A9 4AB 4AD 4AF 4B1 4B3 4B5 4B7 4B9 4BB 4BD 4BF 4C2 4C4 4C6 4C8 4CA 4CC
  4CE-4CF 4D1 4D3 4D5 4D7 4D9 4DB 4DD 4DF 4E1 4E3 4E5 4E7 4E9 4EB 4ED 4EF 4F1 4F3 4F5 4F7 4F9
  4FB 4FD 4FF 501 503 505 507 509 50B 50D 50F 511 513 515 517 519 51B 51D 51F 521 523 525 527
  529 52B 52D 52F 559-586 588-58A 58D-58F 591-5C7 5D0-5EA 5EF-5F4 606-61B 61D-674 679-6DC
  6DE-70D 710-74A 74D-7B1 7C0-7FA 7FD-82D 830-83E 840-85B 85E 860-86A 870-88F 897-8E1 8E3-957
  960-983 985-98C 98F-990 993-9A8 9AA-9B0 9B2 9B6-9B9 9BC-9C4 9C7-9C8 9CB-9CE 9D7 9E0-9E3
  9E6-9FE A01-A03 A05-A0A A0F-A10 A13-A28 A2A-A30 A32 A35 A38-A39 A3C A3E-A42 A47-A48 A4B-A4D
  A51 A5C A66-A76 A81-A83 A85-A8D A8F-A91 A93-AA8 AAA-AB0 AB2-AB3 AB5-AB9 ABC-AC5 AC7-AC9 ACB-
  ACD AD0 AE0-AE3 AE6-AF1 AF9-AFF B01-B03 B05-B0C B0F-B10 B13-B28 B2A-B30 B32-B33 B35-B39
  B3C-B44 B47-B48 B4B-B4D B55-B57 B5F-B63 B66-B77 B82-B83 B85-B8A B8E-B90 B92-B95 B99-B9A B9C
  B9E-B9F BA3-BA4 BA8-BAA BAE-BB9 BBE-BC2 BC6-BC8 BCA-BCD BD0 BD7 BE6-BFA C00-C0C C0E-C10
  C12-C28 C2A-C39 C3C-C44 C46-C48 C4A-C4D C55-C56 C58-C5A C5C-C5D C60-C63 C66-C6F C77-C8C
  C8E-C90 C92-CA8 CAA-CB3 CB5-CB9 CBC-CC4 CC6-CC8 CCA-CCD CD5-CD6 CDC-CDE CE0-CE3 CE6-CEF
  CF1-CF3 D00-D0C D0E-D10 D12-D44 D46-D48 D4A-D4F D54-D63 D66-D7F D81-D83 D85-D96 D9A-DB1
  DB3-DBB DBD DC0-DC6 DCA DCF-DD4 DD6 DD8-DDF DE6-DEF DF2-DF4 E01-E32 E34-E3A E3F-E5B E81-E82
  E84 E86-E8A E8C-EA3 EA5 EA7-EB2 EB4-EBD EC0-EC4 EC6 EC8-ECE ED0-ED9 EDE-EDF F00-F0B F0D-F42
  F44-F47 F49-F4C F4E-F51 F53-F56 F58-F5B F5D-F68 F6A-F6C F71-F72 F74 F7A-F80 F82-F92 F94-F97
  F99-F9C F9E-FA1 FA3-FA6 FA8-FAB FAD-FB8 FBA-FBC FBE-FCC FCE-FDA 1000-109F 10D0-10FB 10FD-115E
  1161-1248 124A-124D 1250-1256 1258 125A-125D 1260-1288 128A-128D 1290-12B0 12B2-12B5 12B8-12BE
  12C0 12C2-12C5 12C8-12D6 12D8-1310 1312-1315 1318-135A 135D-137C 1380-1399 13A0-13F5 1400-167F
  1681-169C 16A0-16F8 1700-1715 171F-1736 1740-1753 1760-176C 176E-1770 1772-1773 1780-17B3
  17B6-17DD 17E0-17E9 17F0-17F9 1800-180A 1810-1819 1820-1878 1880-18AA 18B0-18F5 1900-191E
  1920-192B 1930-193B 1940 1944-196D 1970-1974 1980-19AB 19B0-19C9 19D0-19DA 19DE-1A1B 1A1E-1A5E
  1A60-1A7C 1A7F-1A89 1A90-1A99 1AA0-1AAD 1AB0-1ADD 1AE0-1AEB 1B00-1B4C 1B4E-1BF3 1BFC-1C37
  1C3B-1C49 1C4D-1C7F 1C8A 1CC0-1CC7 1CD0-1CFA 1D00-1D2B 1D2F 1D3B 1D4E 1D6B-1D77 1D79-1D9A
  1DC0-1DFF 1E01 1E03 1E05 1E07 1E09 1E0B 1E0D 1E0F 1E11 1E13 1E15 1E17 1E19 1E1B 1E1D 1E1F 1E21
  1E23 1E25 1E27 1E29 1E2B 1E2D 1E2F 1E31 1E33 1E35 1E37 1E39 1E3B 1E3D 1E3F 1E41 1E43 1E45 1E47
  1E49 1E4B 1E4D 1E4F 1E51 1E53 1E55 1E57 1E59 1E5B 1E5D 1E5F 1E61 1E63 1E65 1E67 1E69 1E6B 1E6D
  1E6F 1E71 1E73 1E75 1E77 1E79 1E7B 1E7D 1E7F 1E81 1E83 1E85 1E87 1E89 1E8B 1E8D 1E8F 1E91 1E93
  1E95-1E99 1E9C-1E9D 1E9F 1EA1 1EA3 1EA5 1EA7 1EA9 1EAB 1EAD 1EAF 1EB1 1EB3 1EB5 1EB7 1EB9 1EBB
  1EBD 1EBF 1EC1 1EC3 1EC5 1EC7 1EC9 1ECB 1ECD 1ECF 1ED1 1ED3 1ED5 1ED7 1ED9 1EDB 1EDD 1EDF 1EE1
  1EE3 1EE5 1EE7 1EE9 1EEB 1EED 1EEF 1EF1 1EF3 1EF5 1EF7 1EF9 1EFB 1EFD 1EFF-1F07 1F10-1F15
  1F20-1F27 1F30-1F37 1F40-1F45 1F50-1F57 1F60-1F67 1F70 1F72 1F74 1F76 1F78 1F7A 1F7C 1FB0-1FB1
  1FB6 1FC6 1FD0-1FD2 1FD6-1FD7 1FE0-1FE2 1FE4-1FE7 1FF6 200C-200D 2010 2012-2016 2018-2023 2027
  2030-2032 2035 2038-203B 203D 203F-2046 204A-2056 2058-205E 20A0-20A7 20A9-20C1 20D0-20F0 2104
  2108 2114 2117-2118 211E-211F 2123 2125 2127 2129 212E 213A 2141-2144 214A-214F 2180-2182
  2184-2188 218A-218B 2190-222B 222E 2231-2328 232B-2429 2440-244A 24EB-2A0B 2A0D-2A73 2A77-2ADB
  2ADD-2B73 2B76-2BFF 2C30-2C5F 2C61 2C65-2C66 2C68 2C6A 2C6C 2C71 2C73-2C74 2C76-2C7B 2C81 2C83
  2C85 2C87 2C89 2C8B 2C8D 2C8F 2C91 2C93 2C95 2C97 2C99 2C9B 2C9D 2C9F 2CA1 2CA3 2CA5 2CA7 2CA9
  2CAB 2CAD 2CAF 2CB1 2CB3 2CB5 2CB7 2CB9 2CBB 2CBD 2CBF 2CC1 2CC3 2CC5 2CC7 2CC9 2CCB 2CCD 2CCF
  2CD1 2CD3 2CD5 2CD7 2CD9 2CDB 2CDD 2CDF 2CE1 2CE3-2CEA 2CEC 2CEE-2CF1 2CF3 2CF9-2D25 2D27 2D2D
  2D30-2D67 2D70 2D7F-2D96 2DA0-2DA6 2DA8-2DAE 2DB0-2DB6 2DB8-2DBE 2DC0-2DC6 2DC8-2DCE 2DD0-2DD6
  2DD8-2DDE 2DE0-2E5D 2E80-2E99 2E9B-2E9E 2EA0-2EF2 3001 3003-3035 3037 303B-303F 3041-3096
  3099-309A 309D-309E 30A0-30FE 3105-312F 3190-3191 31A0-31E5 31F0-31FF 3248-324F 327F 3400-A48C
  A490-A4C6 A4D0-A62B A641 A643 A645 A647 A649 A64B A64D A64F A651 A653 A655 A657 A659 A65B A65D
  A65F A661 A663 A665 A667 A669 A66B A66D-A67F A681 A683 A685 A687 A689 A68B A68D A68F A691 A693
  A695 A697 A699 A69B A69E-A6F7 A700-A721 A723 A725 A727 A729 A72B A72D A72F-A731 A733 A735 A737
  A739 A73B A73D A73F A741 A743 A745 A747 A749 A74B A74D A74F A751 A753 A755 A757 A759 A75B A75D
  A75F A761 A763 A765 A767 A769 A76B A76D A76F A771-A778 A77A A77C A77F A781 A783 A785 A787-A78A
  A78C A78E-A78F A791 A793-A795 A797 A799 A79B A79D A79F A7A1 A7A3 A7A5 A7A7 A7A9 A7AF A7B5 A7B7
  A7B9 A7BB A7BD A7BF A7C1 A7C3 A7C8 A7CA A7CD A7CF A7D1 A7D3 A7D5 A7D7 A7D9 A7DB A7F6-A7F7
  A7FA-A82C A830-A839 A840-A877 A880-A8C5 A8CE-A8D9 A8E0-A953 A95F-A97C A980-A9CD A9CF-A9D9
  A9DE-A9FE AA00-AA36 AA40-AA4D AA50-AA59 AA5C-AAC2 AADB-AAF6 AB01-AB06 AB09-AB0E AB11-AB16
  AB20-AB26 AB28-AB2E AB30-AB5B AB60-AB68 AB6A-AB6B ABC0-ABED ABF0-ABF9 AC00-D7A3 D7B0-D7C6
  D7CB-D7FB FA0E-FA0F FA11 FA13-FA14 FA1F FA21 FA23-FA24 FA27-FA29 FB1E FBB2-FBD2 FD3E-FD4F
  FD90-FD91 FDC8-FDCF FDFD-FDFF FE20-FE2F FE45-FE46 FE73 10000-1000B 1000D-10026 10028-1003A
  1003C-1003D 1003F-1004D 10050-1005D 10080-100FA 10100-10102 10107-10133 10137-1018E
  10190-1019C 101A0 101D0-101FD 10280-1029C 102A0-102D0 102E0-102FB 10300-10323 1032D-1034A
  10350-1037A 10380-1039D 1039F-103C3 103C8-103D5 10428-1049D 104A0-104A9 104D8-104FB
  10500-10527 10530-10563 1056F 10597-105A1 105A3-105B1 105B3-105B9 105BB-105BC 105C0-105F3
  10600-10736 10740-10755 10760-10767 10780 10800-10805 10808 1080A-10835 10837-10838 1083C
  1083F-10855 10857-1089E 108A7-108AF 108E0-108F2 108F4-108F5 108FB-1091B 1091F-10939
  1093F-10959 10980-109B7 109BC-109CF 109D2-10A03 10A05-10A06 10A0C-10A13 10A15-10A17
  10A19-10A35 10A38-10A3A 10A3F-10A48 10A50-10A58 10A60-10A9F 10AC0-10AE6 10AEB-10AF6
  10B00-10B35 10B39-10B55 10B58-10B72 10B78-10B91 10B99-10B9C 10BA9-10BAF 10C00-10C48
  10CC0-10CF2 10CFA-10D27 10D30-10D39 10D40-10D4F 10D69-10D85 10D8E-10D8F 10E60-10E7E
  10E80-10EA9 10EAB-10EAD 10EB0-10EB1 10EC2-10EC7 10ED0-10ED8 10EFA-10F27 10F30-10F59
  10F70-10F89 10FB0-10FCB 10FE0-10FF6 11000-1104D 11052-11075 1107F-110BC 110BE-110C2
  110D0-110E8 110F0-110F9 11100-11134 11136-11147 11150-11176 11180-111DF 111E1-111F4
  11200-11211 11213-11241 11280-11286 11288 1128A-1128D 1128F-1129D 1129F-112A9 112B0-112EA
  112F0-112F9 11300-11303 11305-1130C 1130F-11310 11313-11328 1132A-11330 11332-11333
  11335-11339 1133B-11344 11347-11348 1134B-1134D 11350 11357 1135D-11363 11366-1136C
  11370-11374 11380-11389 1138B 1138E 11390-113B5 113B7-113C0 113C2 113C5 113C7-113CA
  113CC-113D5 113D7-113D8 113E1-113E2 11400-1145B 1145D-11461 11480-114C7 114D0-114D9
  11580-115B5 115B8-115DD 11600-11644 11650-11659 11660-1166C 11680-116B9 116C0-116C9
  116D0-116E3 11700-1171A 1171D-1172B 11730-11746 11800-1183B 118C0-118F2 118FF-11906 11909
  1190C-11913 11915-11916 11918-11935 11937-11938 1193B-11946 11950-11959 119A0-119A7
  119AA-119D7 119DA-119E4 11A00-11A47 11A50-11AA2 11AB0-11AF8 11B00-11B09 11B60-11B67
  11BC0-11BE1 11BF0-11BF9 11C00-11C08 11C0A-11C36 11C38-11C45 11C50-11C6C 11C70-11C8F
  11C92-11CA7 11CA9-11CB6 11D00-11D06 11D08-11D09 11D0B-11D36 11D3A 11D3C-11D3D 11D3F-11D47
  11D50-11D59 11D60-11D65 11D67-11D68 11D6A-11D8E 11D90-11D91 11D93-11D98 11DA0-11DA9
  11DB0-11DDB 11DE0-11DE9 11EE0-11EF8 11F00-11F10 11F12-11F3A 11F3E-11F5A 11FB0 11FC0-11FF1
  11FFF-12399 12400-1246E 12470-12474 12480-12543 12F90-12FF2 13000-1342F 13440-13455
  13460-143FA 14400-14646 16100-16139 16800-16A38 16A40-16A5E 16A60-16A69 16A6E-16ABE
  16AC0-16AC9 16AD0-16AED 16AF0-16AF5 16B00-16B45 16B50-16B59 16B5B-16B61 16B63-16B77
  16B7D-16B8F 16D40-16D79 16E60-16E9A 16EBB-16ED3 16F00-16F4A 16F4F-16F87 16F8F-16F9F
  16FE0-16FE4 16FF0-16FF6 17000-18CD5 18CFF-18D1E 18D80-18DF2 1AFF0-1AFF3 1AFF5-1AFFB
  1AFFD-1AFFE 1B000-1B122 1B132 1B150-1B152 1B155 1B164-1B167 1B170-1B2FB 1BC00-1BC6A
  1BC70-1BC7C 1BC80-1BC88 1BC90-1BC99 1BC9C-1BC9F 1CC00-1CCD5 1CCFA-1CCFC 1CD00-1CEB3
  1CEBA-1CED0 1CEE0-1CEF0 1CF00-1CF2D 1CF30-1CF46 1CF50-1CFC3 1D000-1D0F5 1D100-1D126
  1D129-1D15D 1D165-1D172 1D17B-1D1BA 1D1C1-1D1EA 1D200-1D245 1D2C0-1D2D3 1D2E0-1D2F3
  1D300-1D356 1D360-1D378 1D800-1DA8B 1DA9B-1DA9F 1DAA1-1DAAF 1DF00-1DF1E 1DF25-1DF2A
  1E000-1E006 1E008-1E018 1E01B-1E021 1E023-1E024 1E026-1E02A 1E08F 1E100-1E12C 1E130-1E13D
  1E140-1E149 1E14E-1E14F 1E290-1E2AE 1E2C0-1E2F9 1E2FF 1E4D0-1E4F9 1E5D0-1E5FA 1E5FF
  1E6C0-1E6DE 1E6E0-1E6F5 1E6FE-1E6FF 1E7E0-1E7E6 1E7E8-1E7EB 1E7ED-1E7EE 1E7F0-1E7FE
  1E800-1E8C4 1E8C7-1E8D6 1E922-1E94B 1E950-1E959 1E95E-1E95F 1EC71-1ECB4 1ED01-1ED3D
  1EEF0-1EEF1 1F000-1F02B 1F030-1F093 1F0A0-1F0AE 1F0B1-1F0BF 1F0C1-1F0CF 1F0D1-1F0F5
  1F10B-1F10F 1F12F 1F150-1F169 1F16D-1F18F 1F191-1F1AD 1F1E6-1F1FF 1F260-1F265 1F300-1F6D8
  1F6DC-1F6EC 1F6F0-1F6FC 1F700-1F7D9 1F7E0-1F7EB 1F7F0 1F800-1F80B 1F810-1F847 1F850-1F859
  1F860-1F887 1F890-1F8AD 1F8B0-1F8BB 1F8C0-1F8C1 1F8D0-1F8D8 1F900-1FA57 1FA60-1FA6D
  1FA70-1FA7C 1FA80-1FA8A 1FA8E-1FAC6 1FAC8 1FACD-1FADC 1FADF-1FAEA 1FAEF-1FAF8 1FB00-1FB92
  1FB94-1FBEF 1FBFA 20000-2A6DF 2A700-2B81D 2B820-2CEAD 2CEB0-2EBE0 2EBF0-2EE5D 30000-3134A
  31350-33479"

/-- The characters that are left out. -/
def ignored : CharSet := .ofHex
  "AD 34F 115F-1160 17B4-17B5 180B-180F 200B 2060-2064 206A-206F 3164 FE00-FE0F FEFF FFA0
  1BCA0-1BCA3 1D173-1D17A E0100-E01EF"

/-- The characters that stand for one other character, as runs. -/
def singleRuns : List CaseFolding.Run := (CharSet.words (String.toList
  "41-5A/1:+20 A0-A0/1:-80 AA-AA/1:-49 B2-B3/1:-80 B5-B5/1:+307 B9-B9/1:-88 BA-BA/1:-4B
  C0-D6/1:+20 D8-DE/1:+20 100-12E/2:+1 134-136/2:+1 139-13D/2:+1 141-147/2:+1 14A-176/2:+1
  178-178/1:-79 179-17D/2:+1 17F-17F/1:-10C 181-181/1:+D2 182-184/2:+1 186-186/1:+CE
  187-187/1:+1 189-18A/1:+CD 18B-18B/1:+1 18E-18E/1:+4F 18F-18F/1:+CA 190-190/1:+CB 191-191/1:+1
  193-193/1:+CD 194-194/1:+CF 196-196/1:+D3 197-197/1:+D1 198-198/1:+1 19C-19C/1:+D3
  19D-19D/1:+D5 19F-19F/1:+D6 1A0-1A4/2:+1 1A6-1A6/1:+DA 1A7-1A7/1:+1 1A9-1A9/1:+DA 1AC-1AC/1:+1
  1AE-1AE/1:+DA 1AF-1AF/1:+1 1B1-1B2/1:+D9 1B3-1B5/2:+1 1B7-1B7/1:+DB 1B8-1B8/1:+1 1BC-1BC/1:+1
  1CD-1DB/2:+1 1DE-1EE/2:+1 1F4-1F4/1:+1 1F6-1F6/1:-61 1F7-1F7/1:-38 1F8-21E/2:+1 220-220/1:-82
  222-232/2:+1 23A-23A/1:+2A2B 23B-23B/1:+1 23D-23D/1:-A3 23E-23E/1:+2A28 241-241/1:+1
  243-243/1:-C3 244-244/1:+45 245-245/1:+47 246-24E/2:+1 2B0-2B0/1:-248 2B1-2B1/1:-4B
  2B2-2B2/1:-248 2B3-2B3/1:-241 2B4-2B4/1:-3B 2B5-2B5/1:-3A 2B6-2B6/1:-35 2B7-2B7/1:-240
  2B8-2B8/1:-23F 2E0-2E0/1:-7D 2E1-2E1/1:-275 2E2-2E2/1:-26F 2E3-2E3/1:-26B 2E4-2E4/1:-4F
  340-341/1:-40 343-343/1:-30 345-345/1:+74 370-372/2:+1 374-374/1:-BB 376-376/1:+1
  37E-37E/1:-343 37F-37F/1:+74 386-386/1:+26 387-387/1:-2D0 388-38A/1:+25 38C-38C/1:+40
  38E-38F/1:+3F 391-3A1/1:+20 3A3-3AB/1:+20 3CF-3CF/1:+8 3D0-3D0/1:-1E 3D1-3D1/1:-19
  3D2-3D2/1:-D 3D3-3D3/1:-6 3D4-3D4/1:-9 3D5-3D5/1:-F 3D6-3D6/1:-16 3D8-3EE/2:+1 3F0-3F0/1:-36
  3F1-3F1/1:-30 3F2-3F2/1:-2F 3F4-3F4/1:-3C 3F5-3F5/1:-40 3F7-3F7/1:+1 3F9-3F9/1:-36
  3FA-3FA/1:+1 3FD-3FF/1:-82 400-40F/1:+50 410-42F/1:+20 460-480/2:+1 48A-4BE/2:+1 4C0-4C0/1:+F
  4C1-4CD/2:+1 4D0-52E/2:+1 531-556/1:+30 F0C-F0C/1:-1 10A0-10C5/1:+1C60 10C7-10C7/1:+1C60
  10CD-10CD/1:+1C60 10FC-10FC/1:-20 13F8-13FD/1:-8 1C80-1C80/1:-184E 1C81-1C81/1:-184D
  1C82-1C82/1:-1844 1C83-1C84/1:-1842 1C85-1C85/1:-1843 1C86-1C86/1:-183C 1C87-1C87/1:-1824
  1C88-1C88/1:+89C3 1C89-1C89/1:+1 1C90-1CBA/1:-BC0 1CBD-1CBF/1:-BC0 1D2C-1D2C/1:-1CCB
  1D2D-1D2D/1:-1C47 1D2E-1D30/2:-1CCC 1D31-1D31/1:-1CCC 1D32-1D32/1:-1B55 1D33-1D3A/1:-1CCC
  1D3C-1D3C/1:-1CCD 1D3D-1D3D/1:-1B1A 1D3E-1D3E/1:-1CCE 1D3F-1D3F/1:-1CCD 1D40-1D41/1:-1CCC
  1D42-1D42/1:-1CCB 1D43-1D43/1:-1CE2 1D44-1D45/1:-1AF4 1D46-1D46/1:-44 1D47-1D47/1:-1CE5
  1D48-1D49/1:-1CE4 1D4A-1D4A/1:-1AF1 1D4B-1D4C/1:-1AF0 1D4D-1D4D/1:-1CE6 1D4F-1D4F/1:-1CE4
  1D50-1D50/1:-1CE3 1D51-1D51/1:-1C06 1D52-1D52/1:-1CE3 1D53-1D53/1:-1AFF 1D54-1D55/1:-3E
  1D56-1D56/1:-1CE6 1D57-1D58/1:-1CE3 1D59-1D59/1:-3C 1D5A-1D5A/1:-1AEB 1D5B-1D5B/1:-1CE5
  1D5C-1D5C/1:-37 1D5D-1D5F/1:-19AB 1D60-1D61/1:-199A 1D62-1D62/1:-1CF9 1D63-1D63/1:-1CF1
  1D64-1D65/1:-1CEF 1D66-1D67/1:-19B4 1D68-1D68/1:-19A7 1D69-1D6A/1:-19A3 1D78-1D78/1:-193B
  1D9B-1D9B/1:-1B49 1D9C-1D9C/1:-1D39 1D9D-1D9D/1:-1B48 1D9E-1D9E/1:-1CAE 1D9F-1D9F/1:-1B43
  1DA0-1DA0/1:-1D3A 1DA1-1DA1/1:-1B42 1DA2-1DA2/1:-1B41 1DA3-1DA3/1:-1B3E 1DA4-1DA6/1:-1B3C
  1DA7-1DA7/1:-2C 1DA8-1DA8/1:-1B0B 1DA9-1DA9/1:-1B3C 1DAA-1DAA/1:-25 1DAB-1DAB/1:-1B0C
  1DAC-1DAC/1:-1B3B 1DAD-1DAD/1:-1B3D 1DAE-1DB1/1:-1B3C 1DB2-1DB2/1:-1B3A 1DB3-1DB4/1:-1B31
  1DB5-1DB5/1:-1C0A 1DB6-1DB7/1:-1B2D 1DB8-1DB8/1:-9C 1DB9-1DBA/1:-1B2E 1DBB-1DBB/1:-1D41
  1DBC-1DBE/1:-1B2C 1DBF-1DBF/1:-1A07 1E00-1E94/2:+1 1E9B-1E9B/1:-3A 1E9E-1E9E/1:-1DBF
  1EA0-1EFE/2:+1 1F08-1F0F/1:-8 1F18-1F1D/1:-8 1F28-1F2F/1:-8 1F38-1F3F/1:-8 1F48-1F4D/1:-8
  1F59-1F5F/2:-8 1F68-1F6F/1:-8 1F71-1F71/1:-1BC5 1F73-1F73/1:-1BC6 1F75-1F75/1:-1BC7
  1F77-1F77/1:-1BC8 1F79-1F79/1:-1BAD 1F7B-1F7B/1:-1BAE 1F7D-1F7D/1:-1BAF 1FB8-1FB9/1:-8
  1FBA-1FBA/1:-4A 1FBB-1FBB/1:-1C0F 1FBE-1FBE/1:-1C05 1FC8-1FC8/1:-56 1FC9-1FC9/1:-1C1C
  1FCA-1FCA/1:-56 1FCB-1FCB/1:-1C1D 1FD3-1FD3/1:-1C43 1FD8-1FD9/1:-8 1FDA-1FDA/1:-64
  1FDB-1FDB/1:-1C2C 1FE3-1FE3/1:-1C33 1FE8-1FE9/1:-8 1FEA-1FEA/1:-70 1FEB-1FEB/1:-1C1E
  1FEC-1FEC/1:-7 1FEF-1FEF/1:-1F8F 1FF8-1FF8/1:-80 1FF9-1FF9/1:-1C2D 1FFA-1FFA/1:-7E
  1FFB-1FFB/1:-1C2D 2000-2000/1:-1FE0 2001-2001/1:-1FE1 2002-2002/1:-1FE2 2003-2003/1:-1FE3
  2004-2004/1:-1FE4 2005-2005/1:-1FE5 2006-2006/1:-1FE6 2007-2007/1:-1FE7 2008-2008/1:-1FE8
  2009-2009/1:-1FE9 200A-200A/1:-1FEA 2011-2011/1:-1 202F-202F/1:-200F 205F-205F/1:-203F
  2070-2070/1:-2040 2071-2071/1:-2008 2074-2079/1:-2040 207A-207A/1:-204F 207B-207B/1:+197
  207C-207C/1:-203F 207D-207E/1:-2055 207F-207F/1:-2011 2080-2089/1:-2050 208A-208A/1:-205F
  208B-208B/1:+187 208C-208C/1:-204F 208D-208E/1:-2065 2090-2090/1:-202F 2091-2091/1:-202C
  2092-2092/1:-2023 2093-2093/1:-201B 2094-2094/1:-1E3B 2095-2095/1:-202D 2096-2099/1:-202B
  209A-209A/1:-202A 209B-209C/1:-2028 2102-2102/1:-209F 2107-2107/1:-1EAC 210A-210B/1:-20A3
  210C-210C/1:-20A4 210D-210D/1:-20A5 210E-210E/1:-20A6 210F-210F/1:-1FE8 2110-2110/1:-20A7
  2111-2111/1:-20A8 2112-2112/1:-20A6 2113-2115/2:-20A7 2119-211B/1:-20A9 211C-211C/1:-20AA
  211D-211D/1:-20AB 2124-2124/1:-20AA 2126-2126/1:-1D5D 2128-2128/1:-20AE 212A-212A/1:-20BF
  212B-212B/1:-2046 212C-212D/1:-20CA 212F-212F/1:-20CA 2130-2131/1:-20CB 2132-2132/1:+1C
  2133-2133/1:-20C6 2134-2134/1:-20C5 2135-2138/1:-1B65 2139-2139/1:-20D0 213C-213C/1:-1D7C
  213D-213D/1:-1D8A 213E-213E/1:-1D8B 213F-213F/1:-1D7F 2140-2140/1:+D1 2145-2145/1:-20E1
  2146-2147/1:-20E2 2148-2149/1:-20DF 2160-2160/1:-20F7 2164-2164/1:-20EE 2169-2169/1:-20F1
  216C-216C/1:-2100 216D-216E/1:-210A 216F-216F/1:-2102 2170-2170/1:-2107 2174-2174/1:-20FE
  2179-2179/1:-2101 217C-217C/1:-2110 217D-217E/1:-211A 217F-217F/1:-2112 2183-2183/1:+1
  2329-232A/1:+CDF 2460-2468/1:-242F 24B6-24CF/1:-2455 24D0-24E9/1:-246F 24EA-24EA/1:-24BA
  2C00-2C2F/1:+30 2C60-2C60/1:+1 2C62-2C62/1:-29F7 2C63-2C63/1:-EE6 2C64-2C64/1:-29E7
  2C67-2C6B/2:+1 2C6D-2C6D/1:-2A1C 2C6E-2C6E/1:-29FD 2C6F-2C6F/1:-2A1F 2C70-2C70/1:-2A1E
  2C72-2C72/1:+1 2C75-2C75/1:+1 2C7C-2C7C/1:-2C12 2C7D-2C7D/1:-2C07 2C7E-2C7F/1:-2A3F
  2C80-2CE2/2:+1 2CEB-2CED/2:+1 2CF2-2CF2/1:+1 2D6F-2D6F/1:-E 2E9F-2E9F/1:+3D2E
  2EF3-2EF3/1:+70AC 2F00-2F00/1:+1F00 2F01-2F01/1:+1F27 2F02-2F02/1:+1F34 2F03-2F03/1:+1F3C
  2F04-2F04/1:+1F55 2F05-2F05/1:+1F80 2F06-2F06/1:+1F86 2F07-2F07/1:+1F99 2F08-2F08/1:+1FB2
  2F09-2F09/1:+2236 2F0A-2F0A/1:+225B 2F0B-2F0B/1:+2260 2F0C-2F0C/1:+2276 2F0D-2F0D/1:+2289
  2F0E-2F0E/1:+229D 2F0F-2F0F/1:+22D1 2F10-2F10/1:+22E5 2F11-2F11/1:+22EF 2F12-2F12/1:+2389
  2F13-2F13/1:+23E6 2F14-2F14/1:+2401 2F15-2F15/1:+2405 2F16-2F16/1:+2422 2F17-2F17/1:+242A
  2F18-2F18/1:+2444 2F19-2F19/1:+2450 2F1A-2F1A/1:+2468 2F1B-2F1B/1:+249B 2F1C-2F1C/1:+24AC
  2F1D-2F1D/1:+24C6 2F1E-2F1E/1:+27B9 2F1F-2F1F/1:+2800 2F20-2F20/1:+29CB 2F21-2F21/1:+29E1
  2F22-2F22/1:+29E8 2F23-2F23/1:+29F2 2F24-2F24/1:+2A03 2F25-2F25/1:+2A4E 2F26-2F26/1:+2C2A
  2F27-2F27/1:+2C59 2F28-2F28/1:+2CD0 2F29-2F29/1:+2CE6 2F2A-2F2A/1:+2CF8 2F2B-2F2B/1:+2D0D
  2F2C-2F2C/1:+2D42 2F2D-2F2D/1:+2D44 2F2E-2F2E/1:+2EAD 2F2F-2F2F/1:+2EB6 2F30-2F30/1:+2EC1
  2F31-2F31/1:+2ECD 2F32-2F32/1:+2F40 2F33-2F33/1:+2F47 2F34-2F34/1:+2F4B 2F35-2F35/1:+2FBF
  2F36-2F36/1:+2FC8 2F37-2F37/1:+2FD4 2F38-2F38/1:+2FDB 2F39-2F39/1:+3017 2F3A-2F3A/1:+3027
  2F3B-2F3B/1:+3038 2F3C-2F3C/1:+3087 2F3D-2F3D/1:+32CB 2F3E-2F3E/1:+32F8 2F3F-2F3F/1:+330C
  2F40-2F40/1:+35EF 2F41-2F41/1:+35F3 2F42-2F42/1:+3645 2F43-2F43/1:+3654 2F44-2F44/1:+3660
  2F45-2F45/1:+3674 2F46-2F46/1:+369A 2F47-2F47/1:+369E 2F48-2F48/1:+37A8 2F49-2F49/1:+37BF
  2F4A-2F4A/1:+37DE 2F4B-2F4B/1:+3BD5 2F4C-2F4C/1:+3C16 2F4D-2F4D/1:+3C2C 2F4E-2F4E/1:+3C65
  2F4F-2F4F/1:+3C7C 2F50-2F50/1:+3C84 2F51-2F51/1:+3C8A 2F52-2F52/1:+3CBD 2F53-2F53/1:+3CC1
  2F54-2F54/1:+3CE0 2F55-2F55/1:+4116 2F56-2F56/1:+42D4 2F57-2F57/1:+42DF 2F58-2F58/1:+42E3
  2F59-2F59/1:+42E6 2F5A-2F5A/1:+42ED 2F5B-2F5B/1:+42FE 2F5C-2F5C/1:+42FF 2F5D-2F5D/1:+434F
  2F5E-2F5E/1:+4426 2F5F-2F5F/1:+442A 2F60-2F60/1:+457C 2F61-2F61/1:+4585 2F62-2F62/1:+45B6
  2F63-2F63/1:+45BC 2F64-2F64/1:+45C4 2F65-2F65/1:+45CB 2F66-2F66/1:+4625 2F67-2F67/1:+462B
  2F68-2F68/1:+470E 2F69-2F69/1:+4714 2F6A-2F6A/1:+4744 2F6B-2F6B/1:+4754 2F6C-2F6C/1:+4782
  2F6D-2F6D/1:+486E 2F6E-2F6E/1:+4874 2F6F-2F6F/1:+4884 2F70-2F70/1:+49CA 2F71-2F71/1:+4A47
  2F72-2F72/1:+4A4C 2F73-2F73/1:+4B01 2F74-2F74/1:+4B57 2F75-2F75/1:+4B84 2F76-2F76/1:+4CFD
  2F77-2F77/1:+4D81 2F78-2F78/1:+4FBE 2F79-2F79/1:+4FD8 2F7A-2F7A/1:+5010 2F7B-2F7B/1:+5042
  2F7C-2F7C/1:+5085 2F7D-2F7D/1:+508F 2F7E-2F7E/1:+5094 2F7F-2F7F/1:+50B4 2F80-2F80/1:+50FF
  2F81-2F81/1:+5108 2F82-2F82/1:+5261 2F83-2F83/1:+5267 2F84-2F84/1:+526F 2F85-2F85/1:+5277
  2F86-2F86/1:+5286 2F87-2F87/1:+5294 2F88-2F88/1:+5297 2F89-2F89/1:+52E5 2F8A-2F8A/1:+52E8
  2F8B-2F8B/1:+52ED 2F8C-2F8C/1:+56C1 2F8D-2F8D/1:+56DE 2F8E-2F8E/1:+58B2 2F8F-2F8F/1:+58BD
  2F90-2F90/1:+58D3 2F91-2F91/1:+59ED 2F92-2F92/1:+59F9 2F93-2F93/1:+5A3F 2F94-2F94/1:+5A6C
  2F95-2F95/1:+5CA2 2F96-2F96/1:+5CB0 2F97-2F97/1:+5CBE 2F98-2F98/1:+5CE0 2F99-2F99/1:+5D04
  2F9A-2F9A/1:+5DCA 2F9B-2F9B/1:+5DD5 2F9C-2F9C/1:+5E17 2F9D-2F9D/1:+5F0E 2F9E-2F9E/1:+5F2C
  2F9F-2F9F/1:+5FFC 2FA0-2FA0/1:+6010 2FA1-2FA1/1:+6014 2FA2-2FA2/1:+60EF 2FA3-2FA3/1:+61A6
  2FA4-2FA4/1:+6222 2FA5-2FA5/1:+6227 2FA6-2FA6/1:+622B 2FA7-2FA7/1:+65D0 2FA8-2FA8/1:+65D8
  2FA9-2FA9/1:+6673 2FAA-2FAA/1:+670C 2FAB-2FAB/1:+670E 2FAC-2FAC/1:+673C 2FAD-2FAD/1:+67A4
  2FAE-2FAE/1:+67B0 2FAF-2FAF/1:+67B3 2FB0-2FB0/1:+67B9 2FB1-2FB1/1:+681A 2FB2-2FB2/1:+683B
  2FB3-2FB3/1:+6840 2FB4-2FB4/1:+684D 2FB5-2FB5/1:+68F3 2FB6-2FB6/1:+6925 2FB7-2FB7/1:+6928
  2FB8-2FB8/1:+69DE 2FB9-2FB9/1:+69E0 2FBA-2FBA/1:+69F2 2FBB-2FBB/1:+6AED 2FBC-2FBC/1:+6B1C
  2FBD-2FBD/1:+6B22 2FBE-2FBE/1:+6B67 2FBF-2FBF/1:+6B70 2FC0-2FC0/1:+6B72 2FC1-2FC1/1:+6B7B
  2FC2-2FC2/1:+6B98 2FC3-2FC3/1:+6D22 2FC4-2FC4/1:+6EB1 2FC5-2FC5/1:+6EBA 2FC6-2FC6/1:+6EDF
  2FC7-2FC7/1:+6EF4 2FC8-2FC8/1:+6EFB 2FC9-2FC9/1:+6F04 2FCA-2FCA/1:+6F07 2FCB-2FCB/1:+6F2E
  2FCC-2FCC/1:+6F31 2FCD-2FCD/1:+6F41 2FCE-2FCE/1:+6F45 2FCF-2FCF/1:+6F51 2FD0-2FD0/1:+6F6B
  2FD1-2FD1/1:+6F79 2FD2-2FD2/1:+6F80 2FD3-2FD3/1:+6FBA 2FD4-2FD4/1:+6FC8 2FD5-2FD5/1:+6FCB
  3000-3000/1:-2FE0 3002-3002/1:-2FD4 3036-3036/1:-24 3038-3038/1:+2309 3039-303A/1:+230B
  3131-3132/1:-2031 3133-3133/1:-1F89 3134-3134/1:-2032 3135-3136/1:-1F89 3137-3139/1:-2034
  313A-313F/1:-1F8A 3140-3140/1:-2026 3141-3143/1:-203B 3144-3144/1:-2023 3145-314E/1:-203C
  314F-3163/1:-1FEE 3165-3166/1:-2051 3167-3168/1:-1FA0 3169-3169/1:-1F9D 316A-316A/1:-1F9C
  316B-316B/1:-1F98 316C-316C/1:-1F95 316D-316D/1:-1F94 316E-316E/1:-2052 316F-316F/1:-1F92
  3170-3170/1:-1F91 3171-3172/1:-2054 3173-3173/1:-2053 3174-3175/1:-2052 3176-3176/1:-204F
  3177-3177/1:-204E 3178-317C/1:-204D 317D-317D/1:-204B 317E-317E/1:-2048 317F-317F/1:-203F
  3180-3180/1:-2039 3181-3181/1:-2035 3182-3183/1:-1F91 3184-3186/1:-202D 3187-3188/1:-2003
  3189-3189/1:-2001 318A-318B/1:-1FF9 318C-318C/1:-1FF8 318D-318D/1:-1FEF 318E-318E/1:-1FED
  3192-3192/1:+1C6E 3193-3193/1:+1CF9 3194-3194/1:+1C75 3195-3195/1:+2546 3196-3196/1:+1C74
  3197-3197/1:+1C96 3198-3198/1:+1C73 3199-3199/1:+4399 319A-319A/1:+1CBF 319B-319B/1:+1C7E
  319C-319C/1:+1C65 319D-319D/1:+278C 319E-319E/1:+2592 319F-319F/1:+1D1B 3244-3244/1:+230B
  3245-3245/1:+2C37 3246-3246/1:+3341 3247-3247/1:+4948 3260-3260/1:-2160 3261-3262/1:-215F
  3263-3265/1:-215E 3266-3266/1:-215D 3267-3268/1:-215C 3269-326D/1:-215B 326E-326E/1:+7992
  326F-326F/1:+7E29 3270-3270/1:+8074 3271-3271/1:+850B 3272-3272/1:+8756 3273-3273/1:+89A1
  3274-3274/1:+8E38 3275-3275/1:+92CF 3276-3276/1:+951A 3277-3277/1:+99B1 3278-3278/1:+9BFC
  3279-3279/1:+9E47 327A-327A/1:+A092 327B-327B/1:+A2DD 327E-327E/1:+9432 3280-3280/1:+1B80
  3281-3281/1:+1C0B 3282-3282/1:+1B87 3283-3283/1:+2458 3284-3284/1:+1C10 3285-3285/1:+1EE8
  3286-3286/1:+1B7D 3287-3287/1:+1EE4 3288-3288/1:+1BD5 3289-3289/1:+20B8 328A-328A/1:+347E
  328B-328B/1:+3DE0 328C-328C/1:+39A8 328D-328D/1:+349B 328E-328E/1:+5F43 328F-328F/1:+2490
  3290-3290/1:+3355 3291-3291/1:+3599 3292-3292/1:+3477 3293-3293/1:+46AB 3294-3294/1:+2179
  3295-3295/1:+3FE4 3296-3296/1:+5A0B 3297-3297/1:+46C6 3298-3298/1:+201C 3299-3299/1:+473F
  329A-329A/1:+429D 329B-329B/1:+26D8 329C-329C/1:+5DCD 329D-329D/1:+1E8D 329E-329E/1:+20D2
  329F-329F/1:+3A49 32A0-32A0/1:+6565 32A1-32A1/1:+1C70 32A2-32A2/1:+1EF7 32A3-32A3/1:+38C0
  32A4-32A4/1:+1B66 32A5-32A5/1:+1B88 32A6-32A6/1:+1B65 32A7-32A7/1:+2B3F 32A8-32A8/1:+214B
  32A9-32A9/1:+2092 32AA-32AA/1:+28ED 32AB-32AB/1:+28BB 32AC-32AC/1:+4437 32AD-32AD/1:+1C54
  32AE-32AE/1:+5A19 32AF-32AF/1:+20A5 32B0-32B0/1:+266C 32D0-32D0/1:-22E 32D1-32D1/1:-22D
  32D2-32D2/1:-22C 32D3-32D3/1:-22B 32D4-32D5/1:-22A 32D6-32D6/1:-229 32D7-32D7/1:-228
  32D8-32D8/1:-227 32D9-32D9/1:-226 32DA-32DA/1:-225 32DB-32DB/1:-224 32DC-32DC/1:-223
  32DD-32DD/1:-222 32DE-32DE/1:-221 32DF-32DF/1:-220 32E0-32E0/1:-21F 32E1-32E1/1:-21D
  32E2-32E2/1:-21C 32E3-32E3/1:-21B 32E4-32E9/1:-21A 32EA-32EA/1:-218 32EB-32EB/1:-216
  32EC-32EC/1:-214 32ED-32ED/1:-212 32EE-32F2/1:-210 32F3-32F3/1:-20F 32F4-32F4/1:-20E
  32F5-32FA/1:-20D 32FB-32FE/1:-20C A640-A66C/2:+1 A680-A69A/2:+1 A69C-A69C/1:-A252
  A69D-A69D/1:-A251 A722-A72E/2:+1 A732-A76E/2:+1 A770-A770/1:-1 A779-A77B/2:+1
  A77D-A77D/1:-8A04 A77E-A786/2:+1 A78B-A78B/1:+1 A78D-A78D/1:-A528 A790-A792/2:+1
  A796-A7A8/2:+1 A7AA-A7AA/1:-A544 A7AB-A7AB/1:-A54F A7AC-A7AC/1:-A54B A7AD-A7AD/1:-A541
  A7AE-A7AE/1:-A544 A7B0-A7B0/1:-A512 A7B1-A7B1/1:-A52A A7B2-A7B2/1:-A515 A7B3-A7B3/1:+3A0
  A7B4-A7C2/2:+1 A7C4-A7C4/1:-30 A7C5-A7C5/1:-A543 A7C6-A7C6/1:-8A38 A7C7-A7C9/2:+1
  A7CB-A7CB/1:-A567 A7CC-A7DA/2:+1 A7DC-A7DC/1:-A641 A7F1-A7F1/1:-A77E A7F2-A7F2/1:-A78F
  A7F3-A7F3/1:-A78D A7F4-A7F4/1:-A783 A7F5-A7F5/1:+1 A7F8-A7F8/1:-A6D1 A7F9-A7F9/1:-A6A6
  AB5C-AB5C/1:-435 AB5D-AB5D/1:-26 AB5E-AB5E/1:-A8F3 AB5F-AB5F/1:-D AB69-AB69/1:-A8DC
  AB70-ABBF/1:-97D0 F900-F900/1:-6CB8 F901-F901/1:-920D F902-F902/1:-6A38 F903-F903/1:-6C3B
  F904-F904/1:-8A33 F905-F905/1:-AAD3 F906-F906/1:-A521 F907-F907/1:-596B F908-F908/1:-596C
  F909-F909/1:-9FB8 F90A-F90A/1:-6739 F90B-F90B/1:-A384 F90C-F90C/1:-9FC4 F90D-F90D/1:-9717
  F90E-F90E/1:-82A5 F90F-F90F/1:-798A F910-F910/1:-72D1 F911-F911/1:-7157 F912-F912/1:-701A
  F913-F913/1:-6884 F914-F914/1:-8F12 F915-F915/1:-8BFA F916-F916/1:-883D F917-F917/1:-8539
  F918-F918/1:-74DB F919-F919/1:-67AF F91A-F91A/1:-5F29 F91B-F91B/1:-AA99 F91C-F91C/1:-A5A7
  F91D-F91D/1:-8E19 F91E-F91E/1:-8703 F91F-F91F/1:-72F2 F920-F920/1:-5B02 F921-F921/1:-9BD1
  F922-F922/1:-8937 F923-F923/1:-7356 F924-F924/1:-6FC0 F925-F925/1:-965C F926-F926/1:-774E
  F927-F927/1:-7108 F928-F928/1:-9A5E F929-F929/1:-9212 F92A-F92A/1:-8BC0 F92B-F92B/1:-862F
  F92C-F92C/1:-685E F92D-F92D/1:-A9A7 F92E-F92E/1:-A777 F92F-F92F/1:-A651 F930-F930/1:-946C
  F931-F931/1:-8E5E F932-F932/1:-8722 F933-F933/1:-824C F934-F934/1:-7933 F935-F935/1:-732F
  F936-F936/1:-72DA F937-F937/1:-6B48 F938-F938/1:-6206 F939-F939/1:-5DCA F93A-F93A/1:-5B40
  F93B-F93B/1:-80AF F93C-F93C/1:-7FBD F93D-F93D/1:-7B9D F93E-F93E/1:-7575 F93F-F93F/1:-663B
  F940-F940/1:-5AC1 F941-F941/1:-6E6B F942-F942/1:-A063 F943-F943/1:-9A3F F944-F944/1:-7CE4
  F945-F945/1:-78C7 F946-F946/1:-86E4 F947-F947/1:-807D F948-F948/1:-6C86 F949-F949/1:-6252
  F94A-F94A/1:-A072 F94B-F94B/1:-9CE9 F94C-F94C/1:-8F39 F94D-F94D/1:-8B73 F94E-F94E/1:-8A3F
  F94F-F94F/1:-7C20 F950-F950/1:-7B19 F951-F951/1:-6306 F952-F952/1:-A680 F953-F953/1:-78C8
  F954-F954/1:-A778 F955-F955/1:-A789 F956-F956/1:-7F3A F957-F957/1:-7B99 F958-F958/1:-7567
  F959-F959/1:-62E4 F95A-F95A/1:-6DDA F95B-F95B/1:-968C F95C-F95C/1:-8F5A F95D-F95D/1:-6E5F
  F95E-F95E/1:-AB25 F95F-F95F/1:-9D78 F960-F960/1:-994E F961-F961/1:-85DA F962-F962/1:-83F2
  F963-F963/1:-A64C F964-F964/1:-8069 F965-F965/1:-A9A6 F966-F966/1:-99BD F967-F967/1:-AB5A
  F968-F968/1:-8C9C F969-F969/1:-93F1 F96A-F96A/1:-7C48 F96B-F96B/1:-A5A8 F96C-F96C/1:-A10E
  F96D-F96D/1:-826C F96E-F96E/1:-7525 F96F-F96F/1:-6EC5 F970-F970/1:-8DB6 F971-F971/1:-69C1
  F972-F972/1:-8CEA F973-F973/1:-9675 F974-F974/1:-768F F975-F975/1:-95D5 F976-F976/1:-8411
  F977-F977/1:-AAC9 F978-F978/1:-A80F F979-F979/1:-A7B0 F97A-F97A/1:-90F9 F97B-F97B/1:-7C94
  F97C-F97C/1:-770D F97D-F97D/1:-6EAB F97E-F97E/1:-67AF F97F-F97F/1:-A68A F980-F980/1:-A53E
  F981-F981/1:-A00E F982-F982/1:-9A96 F983-F983/1:-93BE F984-F984/1:-8986 F985-F985/1:-805B
  F986-F986/1:-63D9 F987-F987/1:-5F1D F988-F988/1:-5AF1 F989-F989/1:-5ABB F98A-F98A/1:-A6EF
  F98B-F98B/1:-92C5 F98C-F98C/1:-8E15 F98D-F98D/1:-6A2B F98E-F98E/1:-9B1A F98F-F98F/1:-97FF
  F990-F990/1:-9790 F991-F991/1:-94F7 F992-F992/1:-8A6F F993-F993/1:-884A F994-F994/1:-850B
  F995-F995/1:-7FCB F996-F996/1:-7BA2 F997-F997/1:-7928 F998-F998/1:-6A72 F999-F999/1:-74AB
  F99A-F99A/1:-6977 F99B-F99B/1:-6651 F99C-F99C/1:-A785 F99D-F99D/1:-A6FA F99E-F99E/1:-A4E1
  F99F-F99F/1:-88D7 F9A0-F9A0/1:-70DE F9A1-F9A1/1:-6EF7 F9A2-F9A2/1:-9AD9 F9A3-F9A3/1:-99AE
  F9A4-F9A4/1:-9629 F9A5-F9A5/1:-8DF7 F9A6-F9A6/1:-7D68 F9A7-F9A7/1:-8632 F9A8-F9A8/1:-AAC4
  F9A9-F9A9/1:-A2B0 F9AA-F9AA/1:-9DC3 F9AB-F9AB/1:-9BF1 F9AC-F9AC/1:-9990 F9AD-F9AD/1:-85FB
  F9AE-F9AE/1:-8545 F9AF-F9AF/1:-7A15 F9B0-F9B0/1:-796A F9B1-F9B1/1:-677D F9B2-F9B2/1:-62BC
  F9B3-F9B3/1:-626B F9B4-F9B4/1:-619C F9B5-F9B5/1:-AA2A F9B6-F9B6/1:-8008 F9B7-F9B7/1:-6803
  F9B8-F9B8/1:-6300 F9B9-F9B9/1:-98D8 F9BA-F9BA/1:-AB34 F9BB-F9BB/1:-A8E1 F9BC-F9BC/1:-9DCE
  F9BD-F9BD/1:-9D7E F9BE-F9BE/1:-9425 F9BF-F9BF/1:-8FBD F9C0-F9C0/1:-87F2 F9C1-F9C1/1:-837F
  F9C2-F9C2/1:-74C6 F9C3-F9C3/1:-6947 F9C4-F9C4/1:-5A37 F9C5-F9C5/1:-933D F9C6-F9C6/1:-6398
  F9C7-F9C7/1:-A73E F9C8-F9C8/1:-924D F9C9-F9C9/1:-91D6 F9CA-F9CA/1:-8C89 F9CB-F9CB/1:-8B2F
  F9CC-F9CC/1:-85C3 F9CD-F9CD/1:-8474 F9CE-F9CE/1:-8163 F9CF-F9CF/1:-7CBF F9D0-F9D0/1:-6172
  F9D1-F9D1/1:-A864 F9D2-F9D2/1:-97A4 F9D3-F9D3/1:-635B F9D4-F9D4/1:-A9A9 F9D5-F9D5/1:-9CBC
  F9D6-F9D6/1:-8BEC F9D7-F9D7/1:-6AAD F9D8-F9D8/1:-9A4D F9D9-F9D9/1:-9895 F9DA-F9DA/1:-91C3
  F9DB-F9DB/1:-8654 F9DC-F9DC/1:-6356 F9DD-F9DD/1:-A7B4 F9DE-F9DE/1:-A5CF F9DF-F9DF/1:-9D7A
  F9E0-F9E0/1:-93CD F9E1-F9E1/1:-9293 F9E2-F9E2/1:-913A F9E3-F9E3/1:-8CFE F9E4-F9E4/1:-85DE
  F9E5-F9E5/1:-8403 F9E6-F9E6/1:-7A6D F9E7-F9E7/1:-7118 F9E8-F9E8/1:-7107 F9E9-F9E9/1:-681D
  F9EA-F9EA/1:-6308 F9EB-F9EB/1:-A6AC F9EC-F9EC/1:-8B32 F9ED-F9ED/1:-A5D0 F9EE-F9EE/1:-881E
  F9EF-F9EF/1:-8557 F9F0-F9F0/1:-73F6 F9F1-F9F1/1:-634E F9F2-F9F2/1:-5D9B F9F3-F9F3/1:-5B54
  F9F4-F9F4/1:-925D F9F5-F9F5/1:-8C2A F9F6-F9F6/1:-780E F9F7-F9F7/1:-7F2C F9F8-F9F8/1:-7ED8
  F9F9-F9F9/1:-7D67 F9FA-F9FA/1:-873A F9FB-F9FB/1:-8962 F9FC-F9FC/1:-6EA4 F9FD-F9FD/1:-AB3D
  F9FE-F9FE/1:-76C8 F9FF-F9FF/1:-A7C5 FA00-FA00/1:-A7F9 FA01-FA01/1:-9B5B FA02-FA02/1:-972F
  FA03-FA03/1:-7D2D FA04-FA04/1:-9E7F FA05-FA05/1:-8CE7 FA06-FA06/1:-9352 FA07-FA07/1:-6ACC
  FA08-FA08/1:-71BC FA09-FA09/1:-63BC FA0A-FA0A/1:-707F FA0B-FA0B/1:-9B38 FA0C-FA0C/1:-A8CC
  FA0D-FA0D/1:-A44D FA10-FA10/1:-A1B6 FA12-FA12/1:-939E FA15-FA15/1:-A837 FA16-FA16/1:-86EC
  FA17-FA17/1:-834D FA18-FA18/1:-80DC FA19-FA19/1:-80BB FA1A-FA1A/1:-80B5 FA1B-FA1B/1:-808C
  FA1C-FA1C/1:-62C6 FA1D-FA1D/1:-7D5F FA1E-FA1E/1:-7A61 FA20-FA20/1:-740E FA22-FA22/1:-6F2A
  FA25-FA25/1:-69ED FA26-FA26/1:-6929 FA2A-FA2A/1:-613B FA2B-FA2B/1:-612F FA2C-FA2C/1:-6104
  FA2D-FA2D/1:-5C79 FA2E-FA2E/1:-6950 FA2F-FA2F/1:-6378 FA30-FA30/1:-AA82 FA31-FA31/1:-A94A
  FA32-FA32/1:-A8E5 FA33-FA33/1:-A76A FA34-FA34/1:-A750 FA35-FA35/1:-A6E4 FA36-FA36/1:-A499
  FA37-FA37/1:-A431 FA38-FA38/1:-A3D0 FA39-FA39/1:-A1F9 FA3A-FA3A/1:-A192 FA3B-FA3B/1:-9DD7
  FA3C-FA3C/1:-9DCE FA3D-FA3D/1:-99A9 FA3E-FA3E/1:-98D6 FA3F-FA3F/1:-98B1 FA40-FA40/1:-984E
  FA41-FA41/1:-94F2 FA42-FA42/1:-9460 FA43-FA43/1:-93B2 FA44-FA44/1:-91BF FA45-FA45/1:-8CCE
  FA46-FA46/1:-8C2C FA47-FA47/1:-8B25 FA48-FA48/1:-88DA FA49-FA49/1:-881E FA4A-FA4A/1:-8628
  FA4B-FA4B/1:-81BA FA4C-FA4C/1:-810E FA4D-FA4D/1:-8104 FA4E-FA4E/1:-8106 FA4F-FA4F/1:-80FF
  FA50-FA50/1:-80FA FA51-FA51/1:-80F4 FA52-FA53/1:-80C5 FA54-FA54/1:-8014 FA55-FA55/1:-7FD4
  FA56-FA56/1:-7E96 FA57-FA57/1:-7C63 FA58-FA58/1:-7C4F FA59-FA59/1:-7C18 FA5A-FA5A/1:-7AE8
  FA5B-FA5B/1:-7A56 FA5C-FA5C/1:-786F FA5D-FA5D/1:-77E4 FA5E-FA5E/1:-77E5 FA5F-FA5F/1:-7608
  FA60-FA60/1:-7150 FA61-FA61/1:-70CB FA62-FA62/1:-6F61 FA63-FA63/1:-6F2A FA64-FA64/1:-6D91
  FA65-FA65/1:-6D5D FA66-FA66/1:-6AB0 FA67-FA67/1:-6A2F FA68-FA68/1:-6385 FA69-FA69/1:-626A
  FA6A-FA6A/1:-622F FA6B-FA6B/1:-99F6 FA6C-FA6C/1:+14882 FA6D-FA6D/1:-7855 FA70-FA70/1:-AC4A
  FA71-FA71/1:-A8BC FA72-FA72/1:-A90A FA73-FA73/1:-AAF3 FA74-FA74/1:-A92F FA75-FA75/1:-A8F5
  FA76-FA76/1:-A7AF FA77-FA77/1:-A77D FA78-FA78/1:-A4DB FA79-FA79/1:-A524 FA7A-FA7A/1:-A4E1
  FA7B-FA7B/1:-A499 FA7C-FA7C/1:-A222 FA7D-FA7D/1:-A1CA FA7E-FA7E/1:-A13A FA7F-FA7F/1:-A12B
  FA80-FA80/1:-A01E FA81-FA81/1:-9F59 FA82-FA82/1:-9BB0 FA83-FA83/1:-9BAA FA84-FA84/1:-9B1B
  FA85-FA85/1:-9AD8 FA86-FA86/1:-99AE FA87-FA87/1:-9939 FA88-FA88/1:-9980 FA89-FA89/1:-98FB
  FA8A-FA8A/1:-992A FA8B-FA8B/1:-9899 FA8C-FA8C/1:-9858 FA8D-FA8D/1:-96C9 FA8E-FA8E/1:-9672
  FA8F-FA8F/1:-963D FA90-FA90/1:-953A FA91-FA91/1:-941D FA92-FA92/1:-937B FA93-FA93/1:-9378
  FA94-FA94/1:-933E FA95-FA95/1:-8F1C FA96-FA96/1:-8EDC FA97-FA97/1:-8D56 FA98-FA98/1:-8BBD
  FA99-FA99/1:-8BCE FA9A-FA9A/1:-8B78 FA9B-FA9B/1:-8A7D FA9C-FA9C/1:-892E FA9D-FA9D/1:-82F6
  FA9E-FA9E/1:-8869 FA9F-FA9F/1:-87F0 FAA0-FAA0/1:-8776 FAA1-FAA1/1:-8630 FAA2-FAA2/1:-859C
  FAA3-FAA3/1:-8568 FAA4-FAA4/1:-8487 FAA5-FAA5/1:-8486 FAA6-FAA6/1:-83DC FAA7-FAA7/1:-83CC
  FAA8-FAA8/1:-83B4 FAA9-FAA9/1:-835F FAAA-FAAA/1:-836A FAAB-FAAB/1:-81DF FAAC-FAAC/1:-7FFB
  FAAD-FAAD/1:-7EED FAAE-FAAE/1:-7E33 FAAF-FAAF/1:-7D54 FAB0-FAB0/1:-7CBC FAB1-FAB1/1:-7B73
  FAB2-FAB2/1:-7AAD FAB3-FAB3/1:-7761 FAB4-FAB4/1:-76C5 FAB5-FAB5/1:-733C FAB6-FAB6/1:-7175
  FAB7-FAB7/1:-7131 FAB8-FAB8/1:-7122 FAB9-FAB9/1:-6FFA FABA-FABA/1:-6FC2 FABB-FABB/1:-6FF0
  FABC-FABC/1:-6FBB FABD-FABD/1:-6FBF FABE-FABE/1:-6FD1 FABF-FABF/1:-6F86 FAC0-FAC0/1:-6F36
  FAC1-FAC1/1:-6DB9 FAC2-FAC2/1:-6B8A FAC3-FAC3/1:-6A51 FAC4-FAC4/1:-692B FAC5-FAC5/1:-684F
  FAC6-FAC6/1:-644A FAC7-FAC7/1:-63E4 FAC8-FAC8/1:-6372 FAC9-FAC9/1:-62EE FACA-FACA/1:-62CB
  FACB-FACB/1:-62C0 FACC-FACC/1:-6291 FACD-FACD/1:-5FBB FACE-FACE/1:-5B32 FACF-FACF/1:+12D7B
  FAD0-FAD0/1:+12D74 FAD1-FAD1/1:+13904 FAD2-FAD2/1:-BF35 FAD3-FAD3/1:-BABB FAD4-FAD4/1:-BA9B
  FAD5-FAD5/1:+15774 FAD6-FAD6/1:+161FA FAD7-FAD7/1:+183FC FAD8-FAD8/1:-5B95 FAD9-FAD9/1:-5B4B
  FB20-FB20/1:-F53E FB21-FB21/1:-F551 FB22-FB23/1:-F54F FB24-FB26/1:-F549 FB27-FB27/1:-F53F
  FB28-FB28/1:-F53E FB29-FB29/1:-FAFE FB50-FB50/1:-F4DF FB51-FB51/1:-F4E0 FB52-FB52/1:-F4D7
  FB53-FB53/1:-F4D8 FB54-FB54/1:-F4D9 FB55-FB55/1:-F4DA FB56-FB56/1:-F4D8 FB57-FB57/1:-F4D9
  FB58-FB58/1:-F4DA FB59-FB59/1:-F4DB FB5A-FB5A/1:-F4DA FB5B-FB5B/1:-F4DB FB5C-FB5C/1:-F4DC
  FB5D-FB5D/1:-F4DD FB5E-FB5E/1:-F4E4 FB5F-FB5F/1:-F4E5 FB60-FB60/1:-F4E6 FB61-FB61/1:-F4E7
  FB62-FB62/1:-F4E3 FB63-FB63/1:-F4E4 FB64-FB64/1:-F4E5 FB65-FB65/1:-F4E6 FB66-FB66/1:-F4ED
  FB67-FB67/1:-F4EE FB68-FB68/1:-F4EF FB69-FB69/1:-F4F0 FB6A-FB6A/1:-F4C6 FB6B-FB6B/1:-F4C7
  FB6C-FB6C/1:-F4C8 FB6D-FB6D/1:-F4C9 FB6E-FB6E/1:-F4C8 FB6F-FB6F/1:-F4C9 FB70-FB70/1:-F4CA
  FB71-FB71/1:-F4CB FB72-FB72/1:-F4EE FB73-FB73/1:-F4EF FB74-FB74/1:-F4F0 FB75-FB75/1:-F4F1
  FB76-FB76/1:-F4F3 FB77-FB77/1:-F4F4 FB78-FB78/1:-F4F5 FB79-FB79/1:-F4F6 FB7A-FB7A/1:-F4F4
  FB7B-FB7B/1:-F4F5 FB7C-FB7C/1:-F4F6 FB7D-FB7E/1:-F4F7 FB7F-FB7F/1:-F4F8 FB80-FB80/1:-F4F9
  FB81-FB81/1:-F4FA FB82-FB82/1:-F4F5 FB83-FB83/1:-F4F6 FB84-FB84/1:-F4F8 FB85-FB85/1:-F4F9
  FB86-FB86/1:-F4F8 FB87-FB87/1:-F4F9 FB88-FB88/1:-F500 FB89-FB89/1:-F501 FB8A-FB8A/1:-F4F2
  FB8B-FB8B/1:-F4F3 FB8C-FB8C/1:-F4FB FB8D-FB8D/1:-F4FC FB8E-FB8E/1:-F4E5 FB8F-FB8F/1:-F4E6
  FB90-FB90/1:-F4E7 FB91-FB91/1:-F4E8 FB92-FB92/1:-F4E3 FB93-FB93/1:-F4E4 FB94-FB94/1:-F4E5
  FB95-FB95/1:-F4E6 FB96-FB96/1:-F4E3 FB97-FB97/1:-F4E4 FB98-FB98/1:-F4E5 FB99-FB99/1:-F4E6
  FB9A-FB9A/1:-F4E9 FB9B-FB9B/1:-F4EA FB9C-FB9C/1:-F4EB FB9D-FB9D/1:-F4EC FB9E-FB9E/1:-F4E4
  FB9F-FBA0/1:-F4E5 FBA1-FBA1/1:-F4E6 FBA2-FBA2/1:-F4E7 FBA3-FBA3/1:-F4E8 FBA4-FBA4/1:-F4E4
  FBA5-FBA6/1:-F4E5 FBA7-FBA7/1:-F4E6 FBA8-FBA8/1:-F4E7 FBA9-FBA9/1:-F4E8 FBAA-FBAA/1:-F4EC
  FBAB-FBAB/1:-F4ED FBAC-FBAC/1:-F4EE FBAD-FBAD/1:-F4EF FBAE-FBAE/1:-F4DC FBAF-FBB0/1:-F4DD
  FBB1-FBB1/1:-F4DE FBD3-FBD3/1:-F526 FBD4-FBD4/1:-F527 FBD5-FBD5/1:-F528 FBD6-FBD6/1:-F529
  FBD7-FBD7/1:-F510 FBD8-FBD8/1:-F511 FBD9-FBD9/1:-F513 FBDA-FBDA/1:-F514 FBDB-FBDB/1:-F513
  FBDC-FBDC/1:-F514 FBDE-FBDE/1:-F513 FBDF-FBDF/1:-F514 FBE0-FBE0/1:-F51B FBE1-FBE1/1:-F51C
  FBE2-FBE2/1:-F519 FBE3-FBE3/1:-F51A FBE4-FBE4/1:-F514 FBE5-FBE5/1:-F515 FBE6-FBE6/1:-F516
  FBE7-FBE7/1:-F517 FBE8-FBE8/1:-F59F FBE9-FBE9/1:-F5A0 FBFC-FBFC/1:-F530 FBFD-FBFD/1:-F531
  FBFE-FBFE/1:-F532 FBFF-FBFF/1:-F533 FE10-FE10/1:-FDE4 FE11-FE11/1:-CE10 FE13-FE14/1:-FDD9
  FE15-FE15/1:-FDF4 FE16-FE16/1:-FDD7 FE17-FE18/1:-CE01 FE31-FE31/1:-DE1D FE32-FE32/1:-DE1F
  FE33-FE33/1:-FDD4 FE34-FE34/1:-FDD5 FE35-FE36/1:-FE0D FE37-FE37/1:-FDBC FE38-FE38/1:-FDBB
  FE39-FE3A/1:-CE25 FE3B-FE3C/1:-CE2B FE3D-FE3E/1:-CE33 FE3F-FE40/1:-CE37 FE41-FE44/1:-CE35
  FE47-FE47/1:-FDEC FE48-FE48/1:-FDEB FE4D-FE4D/1:-FDEE FE4E-FE4E/1:-FDEF FE4F-FE4F/1:-FDF0
  FE50-FE50/1:-FE24 FE51-FE51/1:-CE50 FE54-FE54/1:-FE19 FE55-FE55/1:-FE1B FE56-FE56/1:-FE17
  FE57-FE57/1:-FE36 FE58-FE58/1:-DE44 FE59-FE5A/1:-FE31 FE5B-FE5B/1:-FDE0 FE5C-FE5C/1:-FDDF
  FE5D-FE5E/1:-CE49 FE5F-FE5F/1:-FE3C FE60-FE60/1:-FE3A FE61-FE62/1:-FE37 FE63-FE63/1:-FE36
  FE64-FE64/1:-FE28 FE65-FE65/1:-FE27 FE66-FE66/1:-FE29 FE68-FE68/1:-FE0C FE69-FE6A/1:-FE45
  FE6B-FE6B/1:-FE2B FE80-FE81/1:-F85F FE82-FE83/1:-F860 FE84-FE85/1:-F861 FE86-FE87/1:-F862
  FE88-FE89/1:-F863 FE8A-FE8A/1:-F864 FE8B-FE8B/1:-F865 FE8C-FE8D/1:-F866 FE8E-FE8F/1:-F867
  FE90-FE90/1:-F868 FE91-FE91/1:-F869 FE92-FE93/1:-F86A FE94-FE95/1:-F86B FE96-FE96/1:-F86C
  FE97-FE97/1:-F86D FE98-FE99/1:-F86E FE9A-FE9A/1:-F86F FE9B-FE9B/1:-F870 FE9C-FE9D/1:-F871
  FE9E-FE9E/1:-F872 FE9F-FE9F/1:-F873 FEA0-FEA1/1:-F874 FEA2-FEA2/1:-F875 FEA3-FEA3/1:-F876
  FEA4-FEA5/1:-F877 FEA6-FEA6/1:-F878 FEA7-FEA7/1:-F879 FEA8-FEA9/1:-F87A FEAA-FEAB/1:-F87B
  FEAC-FEAD/1:-F87C FEAE-FEAF/1:-F87D FEB0-FEB1/1:-F87E FEB2-FEB2/1:-F87F FEB3-FEB3/1:-F880
  FEB4-FEB5/1:-F881 FEB6-FEB6/1:-F882 FEB7-FEB7/1:-F883 FEB8-FEB9/1:-F884 FEBA-FEBA/1:-F885
  FEBB-FEBB/1:-F886 FEBC-FEBD/1:-F887 FEBE-FEBE/1:-F888 FEBF-FEBF/1:-F889 FEC0-FEC1/1:-F88A
  FEC2-FEC2/1:-F88B FEC3-FEC3/1:-F88C FEC4-FEC5/1:-F88D FEC6-FEC6/1:-F88E FEC7-FEC7/1:-F88F
  FEC8-FEC9/1:-F890 FECA-FECA/1:-F891 FECB-FECB/1:-F892 FECC-FECD/1:-F893 FECE-FECE/1:-F894
  FECF-FECF/1:-F895 FED0-FED0/1:-F896 FED1-FED1/1:-F890 FED2-FED2/1:-F891 FED3-FED3/1:-F892
  FED4-FED5/1:-F893 FED6-FED6/1:-F894 FED7-FED7/1:-F895 FED8-FED9/1:-F896 FEDA-FEDA/1:-F897
  FEDB-FEDB/1:-F898 FEDC-FEDD/1:-F899 FEDE-FEDE/1:-F89A FEDF-FEDF/1:-F89B FEE0-FEE1/1:-F89C
  FEE2-FEE2/1:-F89D FEE3-FEE3/1:-F89E FEE4-FEE5/1:-F89F FEE6-FEE6/1:-F8A0 FEE7-FEE7/1:-F8A1
  FEE8-FEE9/1:-F8A2 FEEA-FEEA/1:-F8A3 FEEB-FEEB/1:-F8A4 FEEC-FEED/1:-F8A5 FEEE-FEEF/1:-F8A6
  FEF0-FEF1/1:-F8A7 FEF2-FEF2/1:-F8A8 FEF3-FEF3/1:-F8A9 FEF4-FEF4/1:-F8AA FF01-FF20/1:-FEE0
  FF21-FF3A/1:-FEC0 FF3B-FF5E/1:-FEE0 FF5F-FF60/1:-D5DA FF61-FF61/1:-FF33 FF62-FF63/1:-CF56
  FF64-FF64/1:-CF63 FF65-FF65/1:-CE6A FF66-FF66/1:-CE74 FF67-FF67/1:-CEC6 FF68-FF68/1:-CEC5
  FF69-FF69/1:-CEC4 FF6A-FF6A/1:-CEC3 FF6B-FF6B/1:-CEC2 FF6C-FF6C/1:-CE89 FF6D-FF6D/1:-CE88
  FF6E-FF6E/1:-CE87 FF6F-FF6F/1:-CEAC FF70-FF70/1:-CE74 FF71-FF71/1:-CECF FF72-FF72/1:-CECE
  FF73-FF73/1:-CECD FF74-FF74/1:-CECC FF75-FF76/1:-CECB FF77-FF77/1:-CECA FF78-FF78/1:-CEC9
  FF79-FF79/1:-CEC8 FF7A-FF7A/1:-CEC7 FF7B-FF7B/1:-CEC6 FF7C-FF7C/1:-CEC5 FF7D-FF7D/1:-CEC4
  FF7E-FF7E/1:-CEC3 FF7F-FF7F/1:-CEC2 FF80-FF80/1:-CEC1 FF81-FF81/1:-CEC0 FF82-FF82/1:-CEBE
  FF83-FF83/1:-CEBD FF84-FF84/1:-CEBC FF85-FF8A/1:-CEBB FF8B-FF8B/1:-CEB9 FF8C-FF8C/1:-CEB7
  FF8D-FF8D/1:-CEB5 FF8E-FF8E/1:-CEB3 FF8F-FF93/1:-CEB1 FF94-FF94/1:-CEB0 FF95-FF95/1:-CEAF
  FF96-FF9B/1:-CEAE FF9C-FF9C/1:-CEAD FF9D-FF9D/1:-CEAA FF9E-FF9F/1:-CF05 FFA1-FFA2/1:-EEA1
  FFA3-FFA3/1:-EDF9 FFA4-FFA4/1:-EEA2 FFA5-FFA6/1:-EDF9 FFA7-FFA9/1:-EEA4 FFAA-FFAF/1:-EDFA
  FFB0-FFB0/1:-EE96 FFB1-FFB3/1:-EEAB FFB4-FFB4/1:-EE93 FFB5-FFBE/1:-EEAC FFC2-FFC7/1:-EE61
  FFCA-FFCF/1:-EE63 FFD2-FFD7/1:-EE65 FFDA-FFDC/1:-EE67 FFE0-FFE1/1:-FF3E FFE2-FFE2/1:-FF36
  FFE4-FFE4/1:-FF3E FFE5-FFE5/1:-FF40 FFE6-FFE6/1:-DF3D FFE8-FFE8/1:-DAE6 FFE9-FFEC/1:-DE59
  FFED-FFED/1:-DA4D FFEE-FFEE/1:-DA23 10400-10427/1:+28 104B0-104D3/1:+28 10570-1057A/1:+27
  1057C-1058A/1:+27 1058C-10592/1:+27 10594-10595/1:+27 10781-10782/1:-104B1
  10783-10783/1:-1069D 10784-10784/1:-104EB 10785-10785/1:-10532 10787-10787/1:-104E4
  10788-10788/1:-5C22 10789-10789/1:-104E4 1078A-1078A/1:-104E6 1078B-1078C/1:-10535
  1078D-1078D/1:-E9FC 1078E-1078E/1:-10536 1078F-1078F/1:-10531 10790-10790/1:-104E7
  10791-10791/1:-1052D 10792-10792/1:-10530 10793-10793/1:-10533 10794-10794/1:-104F9
  10795-10795/1:-1066E 10796-10796/1:-104FA 10797-10797/1:-10530 10798-10798/1:-10514
  10799-1079A/1:-104EF 1079B-1079B/1:-1052F 1079C-1079C/1:+D768 1079D-1079D/1:-600F
  1079E-1079E/1:-10530 1079F-1079F/1:+D766 107A0-107A0/1:-10512 107A1-107A1/1:+D765
  107A2-107A2/1:-106AA 107A3-107A4/1:-1052D 107A5-107A5/1:-10734 107A6-107A6/1:-1052C
  107A7-107A7/1:+D761 107A8-107A9/1:-1052B 107AA-107AA/1:-1052A 107AB-107AB/1:-10503
  107AC-107AC/1:-10506 107AD-107AD/1:-5C46 107AE-107AE/1:-10507 107AF-107AF/1:-10527
  107B0-107B0/1:-DB3F 107B2-107B2/1:-10523 107B3-107B4/1:-10512 107B5-107B5/1:-1051D
  107B6-107B8/1:-105F6 107B9-107B9/1:+D751 107BA-107BA/1:+D764 10C80-10CB2/1:+40
  10D50-10D65/1:+20 118A0-118BF/1:+20 16E40-16E5F/1:+20 16EA0-16EB8/1:+1B 1CCD6-1CCEF/1:-1CC75
  1CCF0-1CCF9/1:-1CCC0 1D400-1D419/1:-1D39F 1D41A-1D433/1:-1D3B9 1D434-1D44D/1:-1D3D3
  1D44E-1D454/1:-1D3ED 1D456-1D467/1:-1D3ED 1D468-1D481/1:-1D407 1D482-1D49B/1:-1D421
  1D49C-1D49E/2:-1D43B 1D49F-1D49F/1:-1D43B 1D4A2-1D4A2/1:-1D43B 1D4A5-1D4A6/1:-1D43B
  1D4A9-1D4AC/1:-1D43B 1D4AE-1D4B5/1:-1D43B 1D4B6-1D4B9/1:-1D455 1D4BB-1D4BD/2:-1D455
  1D4BE-1D4C3/1:-1D455 1D4C5-1D4CF/1:-1D455 1D4D0-1D4E9/1:-1D46F 1D4EA-1D503/1:-1D489
  1D504-1D505/1:-1D4A3 1D507-1D50A/1:-1D4A3 1D50D-1D514/1:-1D4A3 1D516-1D51C/1:-1D4A3
  1D51E-1D537/1:-1D4BD 1D538-1D539/1:-1D4D7 1D53B-1D53E/1:-1D4D7 1D540-1D544/1:-1D4D7
  1D546-1D546/1:-1D4D7 1D54A-1D550/1:-1D4D7 1D552-1D56B/1:-1D4F1 1D56C-1D585/1:-1D50B
  1D586-1D59F/1:-1D525 1D5A0-1D5B9/1:-1D53F 1D5BA-1D5D3/1:-1D559 1D5D4-1D5ED/1:-1D573
  1D5EE-1D607/1:-1D58D 1D608-1D621/1:-1D5A7 1D622-1D63B/1:-1D5C1 1D63C-1D655/1:-1D5DB
  1D656-1D66F/1:-1D5F5 1D670-1D689/1:-1D60F 1D68A-1D6A3/1:-1D629 1D6A4-1D6A4/1:-1D573
  1D6A5-1D6A5/1:-1D46E 1D6A8-1D6B8/1:-1D2F7 1D6B9-1D6B9/1:-1D301 1D6BA-1D6C0/1:-1D2F7
  1D6C1-1D6C1/1:-1B4BA 1D6C2-1D6D2/1:-1D311 1D6D3-1D6D3/1:-1D310 1D6D4-1D6DA/1:-1D311
  1D6DB-1D6DB/1:-1B4D9 1D6DC-1D6DC/1:-1D327 1D6DD-1D6DD/1:-1D325 1D6DE-1D6DE/1:-1D324
  1D6DF-1D6DF/1:-1D319 1D6E0-1D6E0/1:-1D31F 1D6E1-1D6E1/1:-1D321 1D6E2-1D6F2/1:-1D331
  1D6F3-1D6F3/1:-1D33B 1D6F4-1D6FA/1:-1D331 1D6FB-1D6FB/1:-1B4F4 1D6FC-1D70C/1:-1D34B
  1D70D-1D70D/1:-1D34A 1D70E-1D714/1:-1D34B 1D715-1D715/1:-1B513 1D716-1D716/1:-1D361
  1D717-1D717/1:-1D35F 1D718-1D718/1:-1D35E 1D719-1D719/1:-1D353 1D71A-1D71A/1:-1D359
  1D71B-1D71B/1:-1D35B 1D71C-1D72C/1:-1D36B 1D72D-1D72D/1:-1D375 1D72E-1D734/1:-1D36B
  1D735-1D735/1:-1B52E 1D736-1D746/1:-1D385 1D747-1D747/1:-1D384 1D748-1D74E/1:-1D385
  1D74F-1D74F/1:-1B54D 1D750-1D750/1:-1D39B 1D751-1D751/1:-1D399 1D752-1D752/1:-1D398
  1D753-1D753/1:-1D38D 1D754-1D754/1:-1D393 1D755-1D755/1:-1D395 1D756-1D766/1:-1D3A5
  1D767-1D767/1:-1D3AF 1D768-1D76E/1:-1D3A5 1D76F-1D76F/1:-1B568 1D770-1D780/1:-1D3BF
  1D781-1D781/1:-1D3BE 1D782-1D788/1:-1D3BF 1D789-1D789/1:-1B587 1D78A-1D78A/1:-1D3D5
  1D78B-1D78B/1:-1D3D3 1D78C-1D78C/1:-1D3D2 1D78D-1D78D/1:-1D3C7 1D78E-1D78E/1:-1D3CD
  1D78F-1D78F/1:-1D3CF 1D790-1D7A0/1:-1D3DF 1D7A1-1D7A1/1:-1D3E9 1D7A2-1D7A8/1:-1D3DF
  1D7A9-1D7A9/1:-1B5A2 1D7AA-1D7BA/1:-1D3F9 1D7BB-1D7BB/1:-1D3F8 1D7BC-1D7C2/1:-1D3F9
  1D7C3-1D7C3/1:-1B5C1 1D7C4-1D7C4/1:-1D40F 1D7C5-1D7C5/1:-1D40D 1D7C6-1D7C6/1:-1D40C
  1D7C7-1D7C7/1:-1D401 1D7C8-1D7C8/1:-1D407 1D7C9-1D7C9/1:-1D409 1D7CA-1D7CA/1:-1D3ED
  1D7CB-1D7CB/1:-1D3EE 1D7CE-1D7D7/1:-1D79E 1D7D8-1D7E1/1:-1D7A8 1D7E2-1D7EB/1:-1D7B2
  1D7EC-1D7F5/1:-1D7BC 1D7F6-1D7FF/1:-1D7C6 1E030-1E038/1:-1DC00 1E039-1E03B/1:-1DBFF
  1E03C-1E046/1:-1DBFE 1E047-1E047/1:-1DBFC 1E048-1E049/1:-1DBFB 1E04A-1E04A/1:-139C1
  1E04B-1E04B/1:-1DB72 1E04C-1E04C/1:-1DBF6 1E04D-1E04D/1:-1DBF5 1E04E-1E04E/1:-1DB65
  1E04F-1E04F/1:-1DBA0 1E050-1E050/1:-1DB81 1E051-1E059/1:-1DC21 1E05A-1E05B/1:-1DC20
  1E05C-1E05D/1:-1DC1E 1E05E-1E05E/1:-1DC1D 1E05F-1E064/1:-1DC1C 1E065-1E066/1:-1DC1B
  1E067-1E067/1:-1DBD6 1E068-1E068/1:-1DC12 1E069-1E069/1:-1DC14 1E06A-1E06A/1:-1DC0B
  1E06B-1E06B/1:-1DBC0 1E06C-1E06C/1:-13A1B 1E06D-1E06D/1:-1DBBC 1E900-1E921/1:+22
  1EE00-1EE01/1:-1E7D9 1EE02-1EE02/1:-1E7D6 1EE03-1EE03/1:-1E7D4 1EE05-1EE05/1:-1E7BD
  1EE06-1EE06/1:-1E7D4 1EE07-1EE07/1:-1E7DA 1EE08-1EE08/1:-1E7D1 1EE09-1EE09/1:-1E7BF
  1EE0A-1EE0D/1:-1E7C7 1EE0E-1EE0E/1:-1E7DB 1EE0F-1EE0F/1:-1E7D6 1EE10-1EE10/1:-1E7CF
  1EE11-1EE11/1:-1E7DC 1EE12-1EE12/1:-1E7D0 1EE13-1EE13/1:-1E7E2 1EE14-1EE14/1:-1E7E0
  1EE15-1EE16/1:-1E7EB 1EE17-1EE17/1:-1E7E9 1EE18-1EE18/1:-1E7E8 1EE19-1EE19/1:-1E7E3
  1EE1A-1EE1A/1:-1E7E2 1EE1B-1EE1B/1:-1E7E1 1EE1C-1EE1C/1:-1E7AE 1EE1D-1EE1D/1:-1E763
  1EE1E-1EE1E/1:-1E77D 1EE1F-1EE1F/1:-1E7B0 1EE21-1EE21/1:-1E7F9 1EE22-1EE22/1:-1E7F6
  1EE24-1EE24/1:-1E7DD 1EE27-1EE27/1:-1E7FA 1EE29-1EE29/1:-1E7DF 1EE2A-1EE2D/1:-1E7E7
  1EE2E-1EE2E/1:-1E7FB 1EE2F-1EE2F/1:-1E7F6 1EE30-1EE30/1:-1E7EF 1EE31-1EE31/1:-1E7FC
  1EE32-1EE32/1:-1E7F0 1EE34-1EE34/1:-1E800 1EE35-1EE36/1:-1E80B 1EE37-1EE37/1:-1E809
  1EE39-1EE39/1:-1E803 1EE3B-1EE3B/1:-1E801 1EE42-1EE42/1:-1E816 1EE47-1EE47/1:-1E81A
  1EE49-1EE49/1:-1E7FF 1EE4B-1EE4D/2:-1E807 1EE4E-1EE4E/1:-1E81B 1EE4F-1EE4F/1:-1E816
  1EE51-1EE51/1:-1E81C 1EE52-1EE52/1:-1E810 1EE54-1EE54/1:-1E820 1EE57-1EE57/1:-1E829
  1EE59-1EE59/1:-1E823 1EE5B-1EE5B/1:-1E821 1EE5D-1EE5D/1:-1E7A3 1EE5F-1EE5F/1:-1E7F0
  1EE61-1EE61/1:-1E839 1EE62-1EE62/1:-1E836 1EE64-1EE64/1:-1E81D 1EE67-1EE67/1:-1E83A
  1EE68-1EE68/1:-1E831 1EE69-1EE69/1:-1E81F 1EE6A-1EE6C/2:-1E827 1EE6D-1EE6D/1:-1E827
  1EE6E-1EE6E/1:-1E83B 1EE6F-1EE6F/1:-1E836 1EE70-1EE70/1:-1E82F 1EE71-1EE71/1:-1E83C
  1EE72-1EE72/1:-1E830 1EE74-1EE74/1:-1E840 1EE75-1EE76/1:-1E84B 1EE77-1EE77/1:-1E849
  1EE79-1EE79/1:-1E843 1EE7A-1EE7A/1:-1E842 1EE7B-1EE7B/1:-1E841 1EE7C-1EE7C/1:-1E80E
  1EE7E-1EE7E/1:-1E7DD 1EE80-1EE81/1:-1E859 1EE82-1EE82/1:-1E856 1EE83-1EE83/1:-1E854
  1EE84-1EE85/1:-1E83D 1EE86-1EE86/1:-1E854 1EE87-1EE87/1:-1E85A 1EE88-1EE88/1:-1E851
  1EE89-1EE89/1:-1E83F 1EE8B-1EE8D/1:-1E847 1EE8E-1EE8E/1:-1E85B 1EE8F-1EE8F/1:-1E856
  1EE90-1EE90/1:-1E84F 1EE91-1EE91/1:-1E85C 1EE92-1EE92/1:-1E850 1EE93-1EE93/1:-1E862
  1EE94-1EE94/1:-1E860 1EE95-1EE96/1:-1E86B 1EE97-1EE97/1:-1E869 1EE98-1EE98/1:-1E868
  1EE99-1EE99/1:-1E863 1EE9A-1EE9A/1:-1E862 1EE9B-1EE9B/1:-1E861 1EEA1-1EEA1/1:-1E879
  1EEA2-1EEA2/1:-1E876 1EEA3-1EEA3/1:-1E874 1EEA5-1EEA5/1:-1E85D 1EEA6-1EEA6/1:-1E874
  1EEA7-1EEA7/1:-1E87A 1EEA8-1EEA8/1:-1E871 1EEA9-1EEA9/1:-1E85F 1EEAB-1EEAD/1:-1E867
  1EEAE-1EEAE/1:-1E87B 1EEAF-1EEAF/1:-1E876 1EEB0-1EEB0/1:-1E86F 1EEB1-1EEB1/1:-1E87C
  1EEB2-1EEB2/1:-1E870 1EEB3-1EEB3/1:-1E882 1EEB4-1EEB4/1:-1E880 1EEB5-1EEB6/1:-1E88B
  1EEB7-1EEB7/1:-1E889 1EEB8-1EEB8/1:-1E888 1EEB9-1EEB9/1:-1E883 1EEBA-1EEBA/1:-1E882
  1EEBB-1EEBB/1:-1E881 1F12B-1F12B/1:-1F0C8 1F12C-1F12C/1:-1F0BA 1F130-1F149/1:-1F0CF
  1F202-1F202/1:-1C14D 1F210-1F210/1:-18FC5 1F211-1F211/1:-196BA 1F212-1F212/1:-19E46
  1F213-1F213/1:-1C14C 1F214-1F214/1:-1A388 1F215-1F215/1:-198FB 1F216-1F216/1:-16833
  1F217-1F217/1:-198EE 1F218-1F218/1:-1A374 1F219-1F219/1:-18BF9 1F21A-1F21A/1:-180F9
  1F21B-1F21B/1:-18C82 1F21C-1F21C/1:-19FCF 1F21D-1F21D/1:-19291 1F21E-1F21E/1:-1A091
  1F21F-1F21F/1:-18C6F 1F220-1F220/1:-1A003 1F221-1F221/1:-174DF 1F222-1F222/1:-17D03
  1F223-1F223/1:-1657A 1F224-1F224/1:-19934 1F225-1F225/1:-19DEC 1F226-1F226/1:-18312
  1F227-1F227/1:-18F92 1F228-1F228/1:-18ED3 1F229-1F229/1:-1A429 1F22A-1F22A/1:-1A421
  1F22B-1F22B/1:-161E1 1F22C-1F22C/1:-19446 1F22D-1F22D/1:-1A400 1F22E-1F22E/1:-19E3B
  1F22F-1F22F/1:-18F28 1F230-1F230/1:-164C0 1F231-1F231/1:-18FDE 1F232-1F232/1:-178B1
  1F233-1F233/1:-177B9 1F234-1F234/1:-19E2C 1F235-1F235/1:-183B5 1F236-1F236/1:-18B2D
  1F237-1F237/1:-18B2F 1F238-1F238/1:-17D05 1F239-1F239/1:-19FC7 1F23A-1F23A/1:-19C84
  1F23B-1F23B/1:-160EE 1F250-1F250/1:-192B9 1F251-1F251/1:-19E62 1FBF0-1FBF9/1:-1FBC0
  2F800-2F800/1:-2A9C3 2F801-2F801/1:-2A9C9 2F802-2F802/1:-2A9C1 2F803-2F803/1:-F6E1
  2F804-2F804/1:-2A8A4 2F805-2F805/1:-2A857 2F806-2F806/1:-2A84B 2F807-2F807/1:-2A805
  2F808-2F808/1:-2A78E 2F809-2F809/1:-2A770 2F80A-2F80A/1:-2A723 2F80B-2F80B/1:-2A73C
  2F80C-2F80C/1:-2C36E 2F80D-2F80D/1:-F1D3 2F80E-2F80E/1:-2A6C1 2F80F-2F80F/1:-2A6BB
  2F810-2F810/1:-2A6AC 2F811-2F811/1:-2A69A 2F812-2F812/1:-F2F6 2F813-2F813/1:-2C35A
  2F814-2F814/1:-2A6AD 2F815-2F815/1:-2A688 2F816-2F816/1:-F2CB 2F817-2F817/1:-2A680
  2F818-2F818/1:-2A674 2F819-2F819/1:-2A94D 2F81A-2F81A/1:-2A66E 2F81B-2F81B/1:-2A666
  2F81C-2F81C/1:-663D 2F81D-2F81D/1:-2A628 2F81E-2F81E/1:-2A61B 2F81F-2F81F/1:-2C340
  2F820-2F820/1:-2A5E5 2F821-2F821/1:-2A5DB 2F822-2F822/1:-2A5B0 2F823-2F823/1:-2A5AC
  2F824-2F824/1:-2C30F 2F825-2F825/1:-2A55E 2F826-2F826/1:-2A55D 2F827-2F827/1:-2A543
  2F828-2F828/1:-2A52E 2F829-2F82A/1:-2A524 2F82B-2F82B/1:-2A514 2F82C-2F82C/1:-2A4E3
  2F82D-2F82D/1:-2A4DC 2F82E-2F82E/1:-2A4D4 2F82F-2F82F/1:-2A4BC 2F830-2F830/1:-2A4B3
  2F831-2F831/1:-2A4B2 2F832-2F832/1:-2A4B3 2F833-2F833/1:-2A4B4 2F834-2F834/1:-EE08
  2F835-2F835/1:-287C5 2F836-2F836/1:-2A46C 2F837-2F837/1:-2A458 2F838-2F838/1:-ECD5
  2F839-2F839/1:-2A44E 2F83A-2F83A/1:-2A449 2F83B-2F83B/1:-2A435 2F83C-2F83C/1:-2A39E
  2F83D-2F83D/1:-2A405 2F83E-2F83E/1:-2A3F6 2F83F-2F83F/1:-2A3D7 2F840-2F840/1:-2A39E
  2F841-2F841/1:-2A34B 2F842-2F842/1:-2A332 2F843-2F843/1:-2A2F0 2F844-2F844/1:-2A2E1
  2F845-2F845/1:-2A2C1 2F846-2F846/1:-2A2C2 2F847-2F847/1:-2A2AE 2F848-2F848/1:-2A29D
  2F849-2F849/1:-2A296 2F84A-2F84A/1:-2A288 2F84B-2F84B/1:-2A135 2F84C-2F84C/1:-2A246
  2F84D-2F84D/1:-2A136 2F84E-2F84E/1:-2A1FD 2F84F-2F84F/1:-2A1DB 2F850-2F850/1:-2A649
  2F851-2F851/1:-29F63 2F852-2F852/1:-2A084 2F853-2F853/1:-2A05F 2F854-2F854/1:-2A047
  2F855-2F855/1:-2A0CA 2F856-2F856/1:-2A024 2F857-2F857/1:-2A026 2F858-2F858/1:-29FAC
  2F859-2F859/1:-E375 2F85A-2F85A/1:-29F68 2F85B-2F85B/1:-29F64 2F85C-2F85C/1:-29F56
  2F85D-2F85D/1:-29F43 2F85E-2F85E/1:-29F3C 2F85F-2F85F/1:-29EFD 2F860-2F860/1:-E1B8
  2F861-2F861/1:-E177 2F862-2F862/1:-29E76 2F863-2F863/1:-29E48 2F864-2F864/1:-29E3D
  2F865-2F865/1:-29E8D 2F866-2F866/1:-29E00 2F867-2F867/1:-2C179 2F868-2F868/1:-2C16C
  2F869-2F869/1:-29D61 2F86A-2F86A/1:-29D2C 2F86B-2F86B/1:-29D2D 2F86C-2F86C/1:-DEA4
  2F86D-2F86D/1:-29CAA 2F86E-2F86E/1:-29C96 2F86F-2F86F/1:-29C88 2F870-2F870/1:-29C7D
  2F871-2F871/1:-DD59 2F872-2F872/1:-29C73 2F873-2F873/1:-29C6D 2F874-2F874/1:-29921
  2F875-2F875/1:-29C53 2F876-2F876/1:-2C0F5 2F877-2F877/1:-29C17 2F878-2F878/1:-29C0A
  2F879-2F879/1:-29BB9 2F87A-2F87A/1:-29BED 2F87B-2F87B/1:-DA97 2F87C-2F87C/1:-29B39
  2F87D-2F87D/1:-DA97 2F87E-2F87E/1:-29B10 2F87F-2F87F/1:-29B14 2F880-2F880/1:-29B04
  2F881-2F882/1:-29AA0 2F883-2F883/1:-2C054 2F884-2F884/1:-29A87 2F885-2F885/1:-29A5D
  2F886-2F886/1:-29A49 2F887-2F887/1:-29A1E 2F888-2F888/1:-2C026 2F889-2F889/1:-D706
  2F88A-2F88A/1:-2C00E 2F88B-2F88B/1:-299DB 2F88C-2F88C/1:-299D9 2F88D-2F88D/1:-299D7
  2F88E-2F88E/1:-299C4 2F88F-2F88F/1:-54FD 2F890-2F890/1:-29992 2F891-2F891/1:-D560
  2F892-2F892/1:-D561 2F893-2F893/1:-27692 2F894-2F894/1:-29972 2F895-2F895/1:-29973
  2F896-2F896/1:-2BFCF 2F897-2F897/1:-C5DF 2F898-2F898/1:-96BE 2F899-2F899/1:-29937
  2F89A-2F89A/1:-2992F 2F89B-2F89B/1:-2BFB8 2F89C-2F89C/1:-29902 2F89D-2F89D/1:-298D0
  2F89E-2F89E/1:-298C7 2F89F-2F89F/1:-298A6 2F8A0-2F8A0/1:-2981F 2F8A1-2F8A1/1:-2BF67
  2F8A2-2F8A2/1:-2BF86 2F8A3-2F8A3/1:-2980F 2F8A4-2F8A4/1:-D1D0 2F8A5-2F8A5/1:-297DE
  2F8A6-2F8A6/1:-2975E 2F8A7-2F8A7/1:-2975B 2F8A8-2F8A8/1:-2975A 2F8A9-2F8A9/1:-2975D
  2F8AA-2F8AA/1:-29730 2F8AB-2F8AB/1:-2971D 2F8AC-2F8AC/1:-296FA 2F8AD-2F8AD/1:-29709
  2F8AE-2F8AE/1:-296FF 2F8AF-2F8AF/1:-296D1 2F8B0-2F8B0/1:-296BE 2F8B1-2F8B1/1:-296BB
  2F8B2-2F8B2/1:-296A2 2F8B3-2F8B3/1:-29698 2F8B4-2F8B4/1:-29657 2F8B5-2F8B5/1:-29604
  2F8B6-2F8B6/1:-295E2 2F8B7-2F8B7/1:-29567 2F8B8-2F8B8/1:-CDAC 2F8B9-2F8B9/1:-2957C
  2F8BA-2F8BA/1:-295BE 2F8BB-2F8BB/1:-29553 2F8BC-2F8BC/1:-29539 2F8BD-2F8BD/1:-294D9
  2F8BE-2F8BE/1:-CCCD 2F8BF-2F8BF/1:-2949D 2F8C0-2F8C0/1:-294FB 2F8C1-2F8C1/1:-29518
  2F8C2-2F8C2/1:-2BE94 2F8C3-2F8C3/1:-2945A 2F8C4-2F8C4/1:-29446 2F8C5-2F8C5/1:-29428
  2F8C6-2F8C6/1:-2944F 2F8C7-2F8C7/1:-2BE5B 2F8C8-2F8C8/1:-29379 2F8C9-2F8C9/1:-2935D
  2F8CA-2F8CA/1:-C8C0 2F8CB-2F8CB/1:-292E8 2F8CC-2F8CC/1:-291D4 2F8CD-2F8CD/1:-29284
  2F8CE-2F8CE/1:-2BDB5 2F8CF-2F8CF/1:-2923E 2F8D0-2F8D0/1:-2BDC8 2F8D1-2F8D1/1:-2BDED
  2F8D2-2F8D2/1:-2A740 2F8D3-2F8D3/1:-2A73E 2F8D4-2F8D4/1:-291D4 2F8D5-2F8D5/1:-29239
  2F8D6-2F8D6/1:-27829 2F8D7-2F8D7/1:-2B4FE 2F8D8-2F8D8/1:-291C1 2F8D9-2F8D9/1:-291BE
  2F8DA-2F8DA/1:-291B9 2F8DB-2F8DB/1:-2917D 2F8DC-2F8DC/1:-29189 2F8DD-2F8DD/1:-C51A
  2F8DE-2F8DE/1:-2BD95 2F8DF-2F8DF/1:-290E5 2F8E0-2F8E0/1:-2915B 2F8E1-2F8E1/1:-2908F
  2F8E2-2F8E2/1:-2905D 2F8E3-2F8E3/1:-C476 2F8E4-2F8E4/1:-29056 2F8E5-2F8E5/1:-290C6
  2F8E6-2F8E6/1:-28FD2 2F8E7-2F8E7/1:-2BD4A 2F8E8-2F8E8/1:-28FA6 2F8E9-2F8E9/1:-28F46
  2F8EA-2F8EA/1:-28F00 2F8EB-2F8EB/1:-28E43 2F8EC-2F8EC/1:-C249 2F8ED-2F8ED/1:-28E12
  2F8EE-2F8EE/1:-2BCD6 2F8EF-2F8EF/1:-28DCE 2F8F0-2F8F0/1:-C049 2F8F1-2F8F1/1:-28D9D
  2F8F2-2F8F2/1:-2BCA4 2F8F3-2F8F3/1:-28D81 2F8F4-2F8F4/1:-28D55 2F8F5-2F8F6/1:-28D3B
  2F8F7-2F8F7/1:-BE6A 2F8F8-2F8F8/1:-DBED 2F8F9-2F8F9/1:-BDFF 2F8FA-2F8FA/1:-28CAC
  2F8FB-2F8FB/1:-BC3F 2F8FC-2F8FC/1:-28C3D 2F8FD-2F8FD/1:-28C30 2F8FE-2F8FE/1:-28C97
  2F8FF-2F8FF/1:-28BE9 2F900-2F900/1:-28BC2 2F901-2F901/1:-28B8A 2F902-2F902/1:-28BC1
  2F903-2F903/1:-28B9A 2F904-2F904/1:-28B8C 2F905-2F905/1:-28B80 2F906-2F906/1:-BBE8
  2F907-2F907/1:-28BD3 2F908-2F908/1:-28AD9 2F909-2F909/1:-28A9B 2F90A-2F90A/1:-2BBD7
  2F90B-2F90B/1:-28A40 2F90C-2F90C/1:-28A45 2F90D-2F90D/1:-BA3C 2F90E-2F90E/1:-28B15
  2F90F-2F90F/1:-289A1 2F910-2F910/1:-B9B2 2F911-2F911/1:-B983 2F912-2F912/1:-2894C
  2F913-2F913/1:-288DA 2F914-2F914/1:-288F6 2F915-2F915/1:-288FA 2F916-2F916/1:-2BB80
  2F917-2F917/1:-288CD 2F918-2F918/1:-2889B 2F919-2F919/1:-288A2 2F91A-2F91A/1:-2886D
  2F91B-2F91B/1:-F3F6 2F91C-2F91C/1:-287D7 2F91D-2F91D/1:-B6BA 2F91E-2F91E/1:-28782
  2F91F-2F91F/1:-B574 2F920-2F920/1:-286F8 2F921-2F921/1:-286EC 2F922-2F922/1:-286D2
  2F923-2F923/1:-B31B 2F924-2F924/1:-286A4 2F925-2F925/1:-28690 2F926-2F926/1:-B1F1
  2F927-2F927/1:-B113 2F928-2F928/1:-285AE 2F929-2F929/1:-2859E 2F92A-2F92A/1:-2BA7E
  2F92B-2F92B/1:-28586 2F92C-2F92C/1:-2BA74 2F92D-2F92D/1:-2BA75 2F92E-2F92E/1:-284E7
  2F92F-2F92F/1:-284D3 2F930-2F930/1:-284BF 2F931-2F931/1:-284AC 2F932-2F932/1:-28468
  2F933-2F933/1:-2BA18 2F934-2F934/1:-28410 2F935-2F935/1:-ACFF 2F936-2F936/1:-283F8
  2F937-2F937/1:-ACA5 2F938-2F938/1:-283C8 2F939-2F939/1:-D79A 2F93A-2F93A/1:-2832A
  2F93B-2F93B/1:-A99A 2F93C-2F93C/1:-A984 2F93D-2F93D/1:-A8F9 2F93E-2F93E/1:-2B942
  2F93F-2F93F/1:-2B937 2F940-2F940/1:-2824C 2F941-2F941/1:-A84E 2F942-2F942/1:-A850
  2F943-2F943/1:-A82A 2F944-2F944/1:-A811 2F945-2F946/1:-28227 2F947-2F947/1:-28228
  2F948-2F948/1:-281FE 2F949-2F949/1:-2B910 2F94A-2F94A/1:-281BF 2F94B-2F94B/1:-2B905
  2F94C-2F94C/1:-2B8B6 2F94D-2F94D/1:-A530 2F94E-2F94E/1:-28100 2F94F-2F94F/1:-280C3
  2F950-2F950/1:-28084 2F951-2F951/1:-2B86E 2F952-2F952/1:-A32C 2F953-2F953/1:-27FFD
  2F954-2F954/1:-A2BA 2F955-2F955/1:-A290 2F956-2F956/1:-27FC7 2F957-2F957/1:-27F6C
  2F958-2F958/1:-2B829 2F959-2F959/1:-27F19 2F95A-2F95A/1:-27F10 2F95B-2F95B/1:-27F0C
  2F95C-2F95C/1:-9FE0 2F95D-2F95D/1:-9EB6 2F95E-2F95E/1:-9EB7 2F95F-2F95F/1:-27E71
  2F960-2F960/1:-2B75E 2F961-2F961/1:-9DB6 2F962-2F962/1:-27D9C 2F963-2F963/1:-27D9A
  2F964-2F964/1:-2B73D 2F965-2F965/1:-9CE5 2F966-2F966/1:-27C94 2F967-2F967/1:-2B6C7
  2F968-2F968/1:-27C80 2F969-2F969/1:-27C86 2F96A-2F96A/1:-27C6A 2F96B-2F96B/1:-99E5
  2F96C-2F96C/1:-27C09 2F96D-2F96D/1:-2B66C 2F96E-2F96E/1:-27BA7 2F96F-2F96F/1:-27B6D
  2F970-2F970/1:-27B2B 2F971-2F971/1:-2B63D 2F972-2F972/1:-974A 2F973-2F973/1:-972C
  2F974-2F974/1:-2B61B 2F975-2F975/1:-969C 2F976-2F976/1:-279FC 2F977-2F977/1:-9639
  2F978-2F978/1:-279E3 2F979-2F979/1:-2797F 2F97A-2F97A/1:-27975 2F97B-2F97B/1:-94A1
  2F97C-2F97C/1:-9459 2F97D-2F97D/1:-2791D 2F97E-2F97E/1:-93D6 2F97F-2F97F/1:-2790F
  2F980-2F980/1:-C621 2F981-2F981/1:-2B5AC 2F982-2F982/1:-278D0 2F983-2F983/1:-27880
  2F984-2F984/1:-2B579 2F985-2F985/1:-27847 2F986-2F986/1:-29ED1 2F987-2F987/1:-91E0
  2F988-2F988/1:-91D3 2F989-2F989/1:-C5F6 2F98A-2F98A/1:-C5EE 2F98B-2F98B/1:-2778A
  2F98C-2F98C/1:-27788 2F98D-2F98D/1:-269EF 2F98E-2F98E/1:-2B523 2F98F-2F98F/1:-276FE
  2F990-2F990/1:-27705 2F991-2F991/1:-276F4 2F992-2F992/1:-2A6DF 2F993-2F993/1:-276E2
  2F994-2F994/1:-276E1 2F995-2F995/1:-276D8 2F996-2F996/1:-276B0 2F997-2F997/1:-8E5B
  2F998-2F998/1:-276B3 2F999-2F999/1:-2767C 2F99A-2F99A/1:-27637 2F99B-2F99B/1:-275EE
  2F99C-2F99C/1:-27679 2F99D-2F99D/1:-275E0 2F99E-2F99E/1:-275B7 2F99F-2F99F/1:-27548
  2F9A0-2F9A0/1:-2764D 2F9A1-2F9A1/1:-275D7 2F9A2-2F9A2/1:-275D6 2F9A3-2F9A3/1:-275C7
  2F9A4-2F9A4/1:-8D6E 2F9A5-2F9A5/1:-8C3A 2F9A6-2F9A6/1:-8CD1 2F9A7-2F9A7/1:-2B47C
  2F9A8-2F9A8/1:-274B7 2F9A9-2F9A9/1:-274B6 2F9AA-2F9AA/1:-27494 2F9AB-2F9AB/1:-85E1
  2F9AC-2F9AC/1:-27448 2F9AD-2F9AD/1:-8A81 2F9AE-2F9AE/1:-2B451 2F9AF-2F9AF/1:-2B44E
  2F9B0-2F9B0/1:-89FF 2F9B1-2F9B1/1:-88DF 2F9B2-2F9B2/1:-2B447 2F9B3-2F9B3/1:-27363
  2F9B4-2F9B4/1:-27358 2F9B5-2F9B5/1:-2734E 2F9B6-2F9B6/1:-2734D 2F9B7-2F9B7/1:-2730E
  2F9B8-2F9B8/1:-27330 2F9B9-2F9B9/1:-272AB 2F9BA-2F9BA/1:-272D8 2F9BB-2F9BB/1:-27242
  2F9BC-2F9BC/1:-27294 2F9BD-2F9BD/1:-27252 2F9BE-2F9BE/1:-27238 2F9BF-2F9BF/1:-2B3E8
  2F9C0-2F9C0/1:-271DF 2F9C1-2F9C1/1:-271C0 2F9C2-2F9C2/1:-2B3C9 2F9C3-2F9C3/1:-27163
  2F9C4-2F9C4/1:-27161 2F9C5-2F9C5/1:-835E 2F9C6-2F9C6/1:-270EF 2F9C7-2F9C7/1:-270E9
  2F9C8-2F9C8/1:-2B393 2F9C9-2F9C9/1:-270CF 2F9CA-2F9CA/1:-2C50F 2F9CB-2F9CB/1:-811D
  2F9CC-2F9CC/1:-8066 2F9CD-2F9CD/1:-2B30F 2F9CE-2F9CE/1:-2B307 2F9CF-2F9CF/1:-26F2F
  2F9D0-2F9D0/1:-26EE3 2F9D1-2F9D1/1:-26E47 2F9D2-2F9D2/1:-26D7D 2F9D3-2F9D3/1:-7D2B
  2F9D4-2F9D4/1:-26D29 2F9D5-2F9D5/1:-26D14 2F9D6-2F9D6/1:-26CBB 2F9D7-2F9D7/1:-26C60
  2F9D8-2F9D8/1:-7AA9 2F9D9-2F9D9/1:-F1D5 2F9DA-2F9DA/1:-26C0F 2F9DB-2F9DB/1:-26C1F
  2F9DC-2F9DC/1:-26BEC 2F9DD-2F9DD/1:-F0FF 2F9DE-2F9DE/1:-26B0A 2F9DF-2F9DF/1:-26AA7
  2F9E0-2F9E0/1:-740E 2F9E1-2F9E1/1:-73F4 2F9E2-2F9E2/1:-2694E 2F9E3-2F9E3/1:-268F2
  2F9E4-2F9E4/1:-268D3 2F9E5-2F9E5/1:-72B7 2F9E6-2F9E6/1:-268CB 2F9E7-2F9E7/1:-267AF
  2F9E8-2F9E9/1:-26711 2F9EA-2F9EA/1:-2676E 2F9EB-2F9EB/1:-265F2 2F9EC-2F9EC/1:-265D7
  2F9ED-2F9ED/1:-6DF3 2F9EE-2F9EE/1:-26463 2F9EF-2F9EF/1:-2B05A 2F9F0-2F9F0/1:-26439
  2F9F1-2F9F1/1:-6C7A 2F9F2-2F9F2/1:-2B00C 2F9F3-2F9F3/1:-26330 2F9F4-2F9F4/1:-29C42
  2F9F5-2F9F5/1:-262D2 2F9F6-2F9F6/1:-68B1 2F9F7-2F9F7/1:-67DD 2F9F8-2F9F8/1:-2AF8A
  2F9F9-2F9F9/1:-2AF83 2F9FA-2F9FA/1:-2621A 2F9FB-2F9FB/1:-65F1 2F9FC-2F9FC/1:-2AF4A
  2F9FD-2F9FD/1:-6567 2F9FE-2F9FE/1:-261F3 2F9FF-2F9FF/1:-261F4 2FA00-2FA00/1:-261D7
  2FA01-2FA01/1:-644B 2FA02-2FA02/1:-26120 2FA03-2FA03/1:-2AED0 2FA04-2FA04/1:-260DB
  2FA05-2FA05/1:-2605E 2FA06-2FA06/1:-26044 2FA07-2FA07/1:-26009 2FA08-2FA08/1:-2AE3A
  2FA09-2FA09/1:-5ED9 2FA0A-2FA0A/1:-25EF8 2FA0B-2FA0B/1:-25DCB 2FA0C-2FA0C/1:-25D0F
  2FA0D-2FA0D/1:-2AD3F 2FA0E-2FA0E/1:-2AD21 2FA0F-2FA0F/1:-25CA8 2FA10-2FA10/1:-5942
  2FA11-2FA11/1:-2AD19 2FA12-2FA12/1:-590D 2FA13-2FA13/1:-5805 2FA14-2FA14/1:-5783
  2FA15-2FA15/1:-25B5A 2FA16-2FA16/1:-2ACC0 2FA17-2FA17/1:-25B1E 2FA18-2FA18/1:-25B1A
  2FA19-2FA19/1:-25B14 2FA1A-2FA1A/1:-25B0B 2FA1B-2FA1B/1:-25B05 2FA1C-2FA1C/1:-25AE1
  2FA1D-2FA1D/1:-541D")).map CaseFolding.Run.ofHex

/-- The characters that stand for several others. -/
def several : List (Nat × List Nat) := (CharSet.words (String.toList
  "A8:20,308 AF:20,304 B4:20,301 B8:20,327 BC:31,2044,34 BD:31,2044,32 BE:33,2044,34 130:69,307
  132:69,6A 133:69,6A 13F:6C,B7 140:6C,B7 149:2BC,6E 1C4:64,17E 1C5:64,17E 1C6:64,17E 1C7:6C,6A
  1C8:6C,6A 1C9:6C,6A 1CA:6E,6A 1CB:6E,6A 1CC:6E,6A 1F1:64,7A 1F2:64,7A 1F3:64,7A 2D8:20,306
  2D9:20,307 2DA:20,30A 2DB:20,328 2DC:20,303 2DD:20,30B 344:308,301 37A:20,3B9 384:20,301
  385:20,308,301 587:565,582 675:627,674 676:648,674 677:6C7,674 678:64A,674 958:915,93C
  959:916,93C 95A:917,93C 95B:91C,93C 95C:921,93C 95D:922,93C 95E:92B,93C 95F:92F,93C
  9DC:9A1,9BC 9DD:9A2,9BC 9DF:9AF,9BC A33:A32,A3C A36:A38,A3C A59:A16,A3C A5A:A17,A3C
  A5B:A1C,A3C A5E:A2B,A3C B5C:B21,B3C B5D:B22,B3C E33:E4D,E32 EB3:ECD,EB2 EDC:EAB,E99
  EDD:EAB,EA1 F43:F42,FB7 F4D:F4C,FB7 F52:F51,FB7 F57:F56,FB7 F5C:F5B,FB7 F69:F40,FB5
  F73:F71,F72 F75:F71,F74 F76:FB2,F80 F77:FB2,F71,F80 F78:FB3,F80 F79:FB3,F71,F80 F81:F71,F80
  F93:F92,FB7 F9D:F9C,FB7 FA2:FA1,FB7 FA7:FA6,FB7 FAC:FAB,FB7 FB9:F90,FB5 1E9A:61,2BE
  1F80:1F00,3B9 1F81:1F01,3B9 1F82:1F02,3B9 1F83:1F03,3B9 1F84:1F04,3B9 1F85:1F05,3B9
  1F86:1F06,3B9 1F87:1F07,3B9 1F88:1F00,3B9 1F89:1F01,3B9 1F8A:1F02,3B9 1F8B:1F03,3B9
  1F8C:1F04,3B9 1F8D:1F05,3B9 1F8E:1F06,3B9 1F8F:1F07,3B9 1F90:1F20,3B9 1F91:1F21,3B9
  1F92:1F22,3B9 1F93:1F23,3B9 1F94:1F24,3B9 1F95:1F25,3B9 1F96:1F26,3B9 1F97:1F27,3B9
  1F98:1F20,3B9 1F99:1F21,3B9 1F9A:1F22,3B9 1F9B:1F23,3B9 1F9C:1F24,3B9 1F9D:1F25,3B9
  1F9E:1F26,3B9 1F9F:1F27,3B9 1FA0:1F60,3B9 1FA1:1F61,3B9 1FA2:1F62,3B9 1FA3:1F63,3B9
  1FA4:1F64,3B9 1FA5:1F65,3B9 1FA6:1F66,3B9 1FA7:1F67,3B9 1FA8:1F60,3B9 1FA9:1F61,3B9
  1FAA:1F62,3B9 1FAB:1F63,3B9 1FAC:1F64,3B9 1FAD:1F65,3B9 1FAE:1F66,3B9 1FAF:1F67,3B9
  1FB2:1F70,3B9 1FB3:3B1,3B9 1FB4:3AC,3B9 1FB7:1FB6,3B9 1FBC:3B1,3B9 1FBD:20,313 1FBF:20,313
  1FC0:20,342 1FC1:20,308,342 1FC2:1F74,3B9 1FC3:3B7,3B9 1FC4:3AE,3B9 1FC7:1FC6,3B9 1FCC:3B7,3B9
  1FCD:20,313,300 1FCE:20,313,301 1FCF:20,313,342 1FDD:20,314,300 1FDE:20,314,301
  1FDF:20,314,342 1FED:20,308,300 1FEE:20,308,301 1FF2:1F7C,3B9 1FF3:3C9,3B9 1FF4:3CE,3B9
  1FF7:1FF6,3B9 1FFC:3C9,3B9 1FFD:20,301 1FFE:20,314 2017:20,333 2033:2032,2032
  2034:2032,2032,2032 2036:2035,2035 2037:2035,2035,2035 203C:21,21 203E:20,305 2047:3F,3F
  2048:3F,21 2049:21,3F 2057:2032,2032,2032,2032 20A8:72,73 2100:61,2F,63 2101:61,2F,73
  2103:B0,63 2105:63,2F,6F 2106:63,2F,75 2109:B0,66 2116:6E,6F 2120:73,6D 2121:74,65,6C
  2122:74,6D 213B:66,61,78 2150:31,2044,37 2151:31,2044,39 2152:31,2044,31,30 2153:31,2044,33
  2154:32,2044,33 2155:31,2044,35 2156:32,2044,35 2157:33,2044,35 2158:34,2044,35
  2159:31,2044,36 215A:35,2044,36 215B:31,2044,38 215C:33,2044,38 215D:35,2044,38
  215E:37,2044,38 215F:31,2044 2161:69,69 2162:69,69,69 2163:69,76 2165:76,69 2166:76,69,69
  2167:76,69,69,69 2168:69,78 216A:78,69 216B:78,69,69 2171:69,69 2172:69,69,69 2173:69,76
  2175:76,69 2176:76,69,69 2177:76,69,69,69 2178:69,78 217A:78,69 217B:78,69,69 2189:30,2044,33
  222C:222B,222B 222D:222B,222B,222B 222F:222E,222E 2230:222E,222E,222E 2469:31,30 246A:31,31
  246B:31,32 246C:31,33 246D:31,34 246E:31,35 246F:31,36 2470:31,37 2471:31,38 2472:31,39
  2473:32,30 2474:28,31,29 2475:28,32,29 2476:28,33,29 2477:28,34,29 2478:28,35,29 2479:28,36,29
  247A:28,37,29 247B:28,38,29 247C:28,39,29 247D:28,31,30,29 247E:28,31,31,29 247F:28,31,32,29
  2480:28,31,33,29 2481:28,31,34,29 2482:28,31,35,29 2483:28,31,36,29 2484:28,31,37,29
  2485:28,31,38,29 2486:28,31,39,29 2487:28,32,30,29 249C:28,61,29 249D:28,62,29 249E:28,63,29
  249F:28,64,29 24A0:28,65,29 24A1:28,66,29 24A2:28,67,29 24A3:28,68,29 24A4:28,69,29
  24A5:28,6A,29 24A6:28,6B,29 24A7:28,6C,29 24A8:28,6D,29 24A9:28,6E,29 24AA:28,6F,29
  24AB:28,70,29 24AC:28,71,29 24AD:28,72,29 24AE:28,73,29 24AF:28,74,29 24B0:28,75,29
  24B1:28,76,29 24B2:28,77,29 24B3:28,78,29 24B4:28,79,29 24B5:28,7A,29 2A0C:222B,222B,222B,222B
  2A74:3A,3A,3D 2A75:3D,3D 2A76:3D,3D,3D 2ADC:2ADD,338 309B:20,3099 309C:20,309A 309F:3088,308A
  30FF:30B3,30C8 3200:28,1100,29 3201:28,1102,29 3202:28,1103,29 3203:28,1105,29 3204:28,1106,29
  3205:28,1107,29 3206:28,1109,29 3207:28,110B,29 3208:28,110C,29 3209:28,110E,29
  320A:28,110F,29 320B:28,1110,29 320C:28,1111,29 320D:28,1112,29 320E:28,AC00,29
  320F:28,B098,29 3210:28,B2E4,29 3211:28,B77C,29 3212:28,B9C8,29 3213:28,BC14,29
  3214:28,C0AC,29 3215:28,C544,29 3216:28,C790,29 3217:28,CC28,29 3218:28,CE74,29
  3219:28,D0C0,29 321A:28,D30C,29 321B:28,D558,29 321C:28,C8FC,29 321D:28,C624,C804,29
  321E:28,C624,D6C4,29 3220:28,4E00,29 3221:28,4E8C,29 3222:28,4E09,29 3223:28,56DB,29
  3224:28,4E94,29 3225:28,516D,29 3226:28,4E03,29 3227:28,516B,29 3228:28,4E5D,29
  3229:28,5341,29 322A:28,6708,29 322B:28,706B,29 322C:28,6C34,29 322D:28,6728,29
  322E:28,91D1,29 322F:28,571F,29 3230:28,65E5,29 3231:28,682A,29 3232:28,6709,29
  3233:28,793E,29 3234:28,540D,29 3235:28,7279,29 3236:28,8CA1,29 3237:28,795D,29
  3238:28,52B4,29 3239:28,4EE3,29 323A:28,547C,29 323B:28,5B66,29 323C:28,76E3,29
  323D:28,4F01,29 323E:28,8CC7,29 323F:28,5354,29 3240:28,796D,29 3241:28,4F11,29
  3242:28,81EA,29 3243:28,81F3,29 3250:70,74,65 3251:32,31 3252:32,32 3253:32,33 3254:32,34
  3255:32,35 3256:32,36 3257:32,37 3258:32,38 3259:32,39 325A:33,30 325B:33,31 325C:33,32
  325D:33,33 325E:33,34 325F:33,35 327C:CC38,ACE0 327D:C8FC,C758 32B1:33,36 32B2:33,37
  32B3:33,38 32B4:33,39 32B5:34,30 32B6:34,31 32B7:34,32 32B8:34,33 32B9:34,34 32BA:34,35
  32BB:34,36 32BC:34,37 32BD:34,38 32BE:34,39 32BF:35,30 32C0:31,6708 32C1:32,6708 32C2:33,6708
  32C3:34,6708 32C4:35,6708 32C5:36,6708 32C6:37,6708 32C7:38,6708 32C8:39,6708 32C9:31,30,6708
  32CA:31,31,6708 32CB:31,32,6708 32CC:68,67 32CD:65,72,67 32CE:65,76 32CF:6C,74,64
  32FF:4EE4,548C 3300:30A2,30D1,30FC,30C8 3301:30A2,30EB,30D5,30A1 3302:30A2,30F3,30DA,30A2
  3303:30A2,30FC,30EB 3304:30A4,30CB,30F3,30B0 3305:30A4,30F3,30C1 3306:30A6,30A9,30F3
  3307:30A8,30B9,30AF,30FC,30C9 3308:30A8,30FC,30AB,30FC 3309:30AA,30F3,30B9 330A:30AA,30FC,30E0
  330B:30AB,30A4,30EA 330C:30AB,30E9,30C3,30C8 330D:30AB,30ED,30EA,30FC 330E:30AC,30ED,30F3
  330F:30AC,30F3,30DE 3310:30AE,30AC 3311:30AE,30CB,30FC 3312:30AD,30E5,30EA,30FC
  3313:30AE,30EB,30C0,30FC 3314:30AD,30ED 3315:30AD,30ED,30B0,30E9,30E0
  3316:30AD,30ED,30E1,30FC,30C8,30EB 3317:30AD,30ED,30EF,30C3,30C8 3318:30B0,30E9,30E0
  3319:30B0,30E9,30E0,30C8,30F3 331A:30AF,30EB,30BC,30A4,30ED 331B:30AF,30ED,30FC,30CD
  331C:30B1,30FC,30B9 331D:30B3,30EB,30CA 331E:30B3,30FC,30DD 331F:30B5,30A4,30AF,30EB
  3320:30B5,30F3,30C1,30FC,30E0 3321:30B7,30EA,30F3,30B0 3322:30BB,30F3,30C1 3323:30BB,30F3,30C8
  3324:30C0,30FC,30B9 3325:30C7,30B7 3326:30C9,30EB 3327:30C8,30F3 3328:30CA,30CE
  3329:30CE,30C3,30C8 332A:30CF,30A4,30C4 332B:30D1,30FC,30BB,30F3,30C8 332C:30D1,30FC,30C4
  332D:30D0,30FC,30EC,30EB 332E:30D4,30A2,30B9,30C8,30EB 332F:30D4,30AF,30EB 3330:30D4,30B3
  3331:30D3,30EB 3332:30D5,30A1,30E9,30C3,30C9 3333:30D5,30A3,30FC,30C8
  3334:30D6,30C3,30B7,30A7,30EB 3335:30D5,30E9,30F3 3336:30D8,30AF,30BF,30FC,30EB 3337:30DA,30BD
  3338:30DA,30CB,30D2 3339:30D8,30EB,30C4 333A:30DA,30F3,30B9 333B:30DA,30FC,30B8
  333C:30D9,30FC,30BF 333D:30DD,30A4,30F3,30C8 333E:30DC,30EB,30C8 333F:30DB,30F3
  3340:30DD,30F3,30C9 3341:30DB,30FC,30EB 3342:30DB,30FC,30F3 3343:30DE,30A4,30AF,30ED
  3344:30DE,30A4,30EB 3345:30DE,30C3,30CF 3346:30DE,30EB,30AF 3347:30DE,30F3,30B7,30E7,30F3
  3348:30DF,30AF,30ED,30F3 3349:30DF,30EA 334A:30DF,30EA,30D0,30FC,30EB 334B:30E1,30AC
  334C:30E1,30AC,30C8,30F3 334D:30E1,30FC,30C8,30EB 334E:30E4,30FC,30C9 334F:30E4,30FC,30EB
  3350:30E6,30A2,30F3 3351:30EA,30C3,30C8,30EB 3352:30EA,30E9 3353:30EB,30D4,30FC
  3354:30EB,30FC,30D6,30EB 3355:30EC,30E0 3356:30EC,30F3,30C8,30B2,30F3 3357:30EF,30C3,30C8
  3358:30,70B9 3359:31,70B9 335A:32,70B9 335B:33,70B9 335C:34,70B9 335D:35,70B9 335E:36,70B9
  335F:37,70B9 3360:38,70B9 3361:39,70B9 3362:31,30,70B9 3363:31,31,70B9 3364:31,32,70B9
  3365:31,33,70B9 3366:31,34,70B9 3367:31,35,70B9 3368:31,36,70B9 3369:31,37,70B9
  336A:31,38,70B9 336B:31,39,70B9 336C:32,30,70B9 336D:32,31,70B9 336E:32,32,70B9
  336F:32,33,70B9 3370:32,34,70B9 3371:68,70,61 3372:64,61 3373:61,75 3374:62,61,72 3375:6F,76
  3376:70,63 3377:64,6D 3378:64,6D,32 3379:64,6D,33 337A:69,75 337B:5E73,6210 337C:662D,548C
  337D:5927,6B63 337E:660E,6CBB 337F:682A,5F0F,4F1A,793E 3380:70,61 3381:6E,61 3382:3BC,61
  3383:6D,61 3384:6B,61 3385:6B,62 3386:6D,62 3387:67,62 3388:63,61,6C 3389:6B,63,61,6C
  338A:70,66 338B:6E,66 338C:3BC,66 338D:3BC,67 338E:6D,67 338F:6B,67 3390:68,7A 3391:6B,68,7A
  3392:6D,68,7A 3393:67,68,7A 3394:74,68,7A 3395:3BC,6C 3396:6D,6C 3397:64,6C 3398:6B,6C
  3399:66,6D 339A:6E,6D 339B:3BC,6D 339C:6D,6D 339D:63,6D 339E:6B,6D 339F:6D,6D,32 33A0:63,6D,32
  33A1:6D,32 33A2:6B,6D,32 33A3:6D,6D,33 33A4:63,6D,33 33A5:6D,33 33A6:6B,6D,33 33A7:6D,2215,73
  33A8:6D,2215,73,32 33A9:70,61 33AA:6B,70,61 33AB:6D,70,61 33AC:67,70,61 33AD:72,61,64
  33AE:72,61,64,2215,73 33AF:72,61,64,2215,73,32 33B0:70,73 33B1:6E,73 33B2:3BC,73 33B3:6D,73
  33B4:70,76 33B5:6E,76 33B6:3BC,76 33B7:6D,76 33B8:6B,76 33B9:6D,76 33BA:70,77 33BB:6E,77
  33BC:3BC,77 33BD:6D,77 33BE:6B,77 33BF:6D,77 33C0:6B,3C9 33C1:6D,3C9 33C3:62,71 33C4:63,63
  33C5:63,64 33C6:63,2215,6B,67 33C8:64,62 33C9:67,79 33CA:68,61 33CB:68,70 33CC:69,6E
  33CD:6B,6B 33CE:6B,6D 33CF:6B,74 33D0:6C,6D 33D1:6C,6E 33D2:6C,6F,67 33D3:6C,78 33D4:6D,62
  33D5:6D,69,6C 33D6:6D,6F,6C 33D7:70,68 33D9:70,70,6D 33DA:70,72 33DB:73,72 33DC:73,76
  33DD:77,62 33DE:76,2215,6D 33DF:61,2215,6D 33E0:31,65E5 33E1:32,65E5 33E2:33,65E5 33E3:34,65E5
  33E4:35,65E5 33E5:36,65E5 33E6:37,65E5 33E7:38,65E5 33E8:39,65E5 33E9:31,30,65E5
  33EA:31,31,65E5 33EB:31,32,65E5 33EC:31,33,65E5 33ED:31,34,65E5 33EE:31,35,65E5
  33EF:31,36,65E5 33F0:31,37,65E5 33F1:31,38,65E5 33F2:31,39,65E5 33F3:32,30,65E5
  33F4:32,31,65E5 33F5:32,32,65E5 33F6:32,33,65E5 33F7:32,34,65E5 33F8:32,35,65E5
  33F9:32,36,65E5 33FA:32,37,65E5 33FB:32,38,65E5 33FC:32,39,65E5 33FD:33,30,65E5
  33FE:33,31,65E5 33FF:67,61,6C FB00:66,66 FB01:66,69 FB02:66,6C FB03:66,66,69 FB04:66,66,6C
  FB05:73,74 FB06:73,74 FB13:574,576 FB14:574,565 FB15:574,56B FB16:57E,576 FB17:574,56D
  FB1D:5D9,5B4 FB1F:5F2,5B7 FB2A:5E9,5C1 FB2B:5E9,5C2 FB2C:5E9,5BC,5C1 FB2D:5E9,5BC,5C2
  FB2E:5D0,5B7 FB2F:5D0,5B8 FB30:5D0,5BC FB31:5D1,5BC FB32:5D2,5BC FB33:5D3,5BC FB34:5D4,5BC
  FB35:5D5,5BC FB36:5D6,5BC FB38:5D8,5BC FB39:5D9,5BC FB3A:5DA,5BC FB3B:5DB,5BC FB3C:5DC,5BC
  FB3E:5DE,5BC FB40:5E0,5BC FB41:5E1,5BC FB43:5E3,5BC FB44:5E4,5BC FB46:5E6,5BC FB47:5E7,5BC
  FB48:5E8,5BC FB49:5E9,5BC FB4A:5EA,5BC FB4B:5D5,5B9 FB4C:5D1,5BF FB4D:5DB,5BF FB4E:5E4,5BF
  FB4F:5D0,5DC FBDD:6C7,674 FBEA:626,627 FBEB:626,627 FBEC:626,6D5 FBED:626,6D5 FBEE:626,648
  FBEF:626,648 FBF0:626,6C7 FBF1:626,6C7 FBF2:626,6C6 FBF3:626,6C6 FBF4:626,6C8 FBF5:626,6C8
  FBF6:626,6D0 FBF7:626,6D0 FBF8:626,6D0 FBF9:626,649 FBFA:626,649 FBFB:626,649 FC00:626,62C
  FC01:626,62D FC02:626,645 FC03:626,649 FC04:626,64A FC05:628,62C FC06:628,62D FC07:628,62E
  FC08:628,645 FC09:628,649 FC0A:628,64A FC0B:62A,62C FC0C:62A,62D FC0D:62A,62E FC0E:62A,645
  FC0F:62A,649 FC10:62A,64A FC11:62B,62C FC12:62B,645 FC13:62B,649 FC14:62B,64A FC15:62C,62D
  FC16:62C,645 FC17:62D,62C FC18:62D,645 FC19:62E,62C FC1A:62E,62D FC1B:62E,645 FC1C:633,62C
  FC1D:633,62D FC1E:633,62E FC1F:633,645 FC20:635,62D FC21:635,645 FC22:636,62C FC23:636,62D
  FC24:636,62E FC25:636,645 FC26:637,62D FC27:637,645 FC28:638,645 FC29:639,62C FC2A:639,645
  FC2B:63A,62C FC2C:63A,645 FC2D:641,62C FC2E:641,62D FC2F:641,62E FC30:641,645 FC31:641,649
  FC32:641,64A FC33:642,62D FC34:642,645 FC35:642,649 FC36:642,64A FC37:643,627 FC38:643,62C
  FC39:643,62D FC3A:643,62E FC3B:643,644 FC3C:643,645 FC3D:643,649 FC3E:643,64A FC3F:644,62C
  FC40:644,62D FC41:644,62E FC42:644,645 FC43:644,649 FC44:644,64A FC45:645,62C FC46:645,62D
  FC47:645,62E FC48:645,645 FC49:645,649 FC4A:645,64A FC4B:646,62C FC4C:646,62D FC4D:646,62E
  FC4E:646,645 FC4F:646,649 FC50:646,64A FC51:647,62C FC52:647,645 FC53:647,649 FC54:647,64A
  FC55:64A,62C FC56:64A,62D FC57:64A,62E FC58:64A,645 FC59:64A,649 FC5A:64A,64A FC5B:630,670
  FC5C:631,670 FC5D:649,670 FC5E:20,64C,651 FC5F:20,64D,651 FC60:20,64E,651 FC61:20,64F,651
  FC62:20,650,651 FC63:20,651,670 FC64:626,631 FC65:626,632 FC66:626,645 FC67:626,646
  FC68:626,649 FC69:626,64A FC6A:628,631 FC6B:628,632 FC6C:628,645 FC6D:628,646 FC6E:628,649
  FC6F:628,64A FC70:62A,631 FC71:62A,632 FC72:62A,645 FC73:62A,646 FC74:62A,649 FC75:62A,64A
  FC76:62B,631 FC77:62B,632 FC78:62B,645 FC79:62B,646 FC7A:62B,649 FC7B:62B,64A FC7C:641,649
  FC7D:641,64A FC7E:642,649 FC7F:642,64A FC80:643,627 FC81:643,644 FC82:643,645 FC83:643,649
  FC84:643,64A FC85:644,645 FC86:644,649 FC87:644,64A FC88:645,627 FC89:645,645 FC8A:646,631
  FC8B:646,632 FC8C:646,645 FC8D:646,646 FC8E:646,649 FC8F:646,64A FC90:649,670 FC91:64A,631
  FC92:64A,632 FC93:64A,645 FC94:64A,646 FC95:64A,649 FC96:64A,64A FC97:626,62C FC98:626,62D
  FC99:626,62E FC9A:626,645 FC9B:626,647 FC9C:628,62C FC9D:628,62D FC9E:628,62E FC9F:628,645
  FCA0:628,647 FCA1:62A,62C FCA2:62A,62D FCA3:62A,62E FCA4:62A,645 FCA5:62A,647 FCA6:62B,645
  FCA7:62C,62D FCA8:62C,645 FCA9:62D,62C FCAA:62D,645 FCAB:62E,62C FCAC:62E,645 FCAD:633,62C
  FCAE:633,62D FCAF:633,62E FCB0:633,645 FCB1:635,62D FCB2:635,62E FCB3:635,645 FCB4:636,62C
  FCB5:636,62D FCB6:636,62E FCB7:636,645 FCB8:637,62D FCB9:638,645 FCBA:639,62C FCBB:639,645
  FCBC:63A,62C FCBD:63A,645 FCBE:641,62C FCBF:641,62D FCC0:641,62E FCC1:641,645 FCC2:642,62D
  FCC3:642,645 FCC4:643,62C FCC5:643,62D FCC6:643,62E FCC7:643,644 FCC8:643,645 FCC9:644,62C
  FCCA:644,62D FCCB:644,62E FCCC:644,645 FCCD:644,647 FCCE:645,62C FCCF:645,62D FCD0:645,62E
  FCD1:645,645 FCD2:646,62C FCD3:646,62D FCD4:646,62E FCD5:646,645 FCD6:646,647 FCD7:647,62C
  FCD8:647,645 FCD9:647,670 FCDA:64A,62C FCDB:64A,62D FCDC:64A,62E FCDD:64A,645 FCDE:64A,647
  FCDF:626,645 FCE0:626,647 FCE1:628,645 FCE2:628,647 FCE3:62A,645 FCE4:62A,647 FCE5:62B,645
  FCE6:62B,647 FCE7:633,645 FCE8:633,647 FCE9:634,645 FCEA:634,647 FCEB:643,644 FCEC:643,645
  FCED:644,645 FCEE:646,645 FCEF:646,647 FCF0:64A,645 FCF1:64A,647 FCF2:640,64E,651
  FCF3:640,64F,651 FCF4:640,650,651 FCF5:637,649 FCF6:637,64A FCF7:639,649 FCF8:639,64A
  FCF9:63A,649 FCFA:63A,64A FCFB:633,649 FCFC:633,64A FCFD:634,649 FCFE:634,64A FCFF:62D,649
  FD00:62D,64A FD01:62C,649 FD02:62C,64A FD03:62E,649 FD04:62E,64A FD05:635,649 FD06:635,64A
  FD07:636,649 FD08:636,64A FD09:634,62C FD0A:634,62D FD0B:634,62E FD0C:634,645 FD0D:634,631
  FD0E:633,631 FD0F:635,631 FD10:636,631 FD11:637,649 FD12:637,64A FD13:639,649 FD14:639,64A
  FD15:63A,649 FD16:63A,64A FD17:633,649 FD18:633,64A FD19:634,649 FD1A:634,64A FD1B:62D,649
  FD1C:62D,64A FD1D:62C,649 FD1E:62C,64A FD1F:62E,649 FD20:62E,64A FD21:635,649 FD22:635,64A
  FD23:636,649 FD24:636,64A FD25:634,62C FD26:634,62D FD27:634,62E FD28:634,645 FD29:634,631
  FD2A:633,631 FD2B:635,631 FD2C:636,631 FD2D:634,62C FD2E:634,62D FD2F:634,62E FD30:634,645
  FD31:633,647 FD32:634,647 FD33:637,645 FD34:633,62C FD35:633,62D FD36:633,62E FD37:634,62C
  FD38:634,62D FD39:634,62E FD3A:637,645 FD3B:638,645 FD3C:627,64B FD3D:627,64B FD50:62A,62C,645
  FD51:62A,62D,62C FD52:62A,62D,62C FD53:62A,62D,645 FD54:62A,62E,645 FD55:62A,645,62C
  FD56:62A,645,62D FD57:62A,645,62E FD58:62C,645,62D FD59:62C,645,62D FD5A:62D,645,64A
  FD5B:62D,645,649 FD5C:633,62D,62C FD5D:633,62C,62D FD5E:633,62C,649 FD5F:633,645,62D
  FD60:633,645,62D FD61:633,645,62C FD62:633,645,645 FD63:633,645,645 FD64:635,62D,62D
  FD65:635,62D,62D FD66:635,645,645 FD67:634,62D,645 FD68:634,62D,645 FD69:634,62C,64A
  FD6A:634,645,62E FD6B:634,645,62E FD6C:634,645,645 FD6D:634,645,645 FD6E:636,62D,649
  FD6F:636,62E,645 FD70:636,62E,645 FD71:637,645,62D FD72:637,645,62D FD73:637,645,645
  FD74:637,645,64A FD75:639,62C,645 FD76:639,645,645 FD77:639,645,645 FD78:639,645,649
  FD79:63A,645,645 FD7A:63A,645,64A FD7B:63A,645,649 FD7C:641,62E,645 FD7D:641,62E,645
  FD7E:642,645,62D FD7F:642,645,645 FD80:644,62D,645 FD81:644,62D,64A FD82:644,62D,649
  FD83:644,62C,62C FD84:644,62C,62C FD85:644,62E,645 FD86:644,62E,645 FD87:644,645,62D
  FD88:644,645,62D FD89:645,62D,62C FD8A:645,62D,645 FD8B:645,62D,64A FD8C:645,62C,62D
  FD8D:645,62C,645 FD8E:645,62E,62C FD8F:645,62E,645 FD92:645,62C,62E FD93:647,645,62C
  FD94:647,645,645 FD95:646,62D,645 FD96:646,62D,649 FD97:646,62C,645 FD98:646,62C,645
  FD99:646,62C,649 FD9A:646,645,64A FD9B:646,645,649 FD9C:64A,645,645 FD9D:64A,645,645
  FD9E:628,62E,64A FD9F:62A,62C,64A FDA0:62A,62C,649 FDA1:62A,62E,64A FDA2:62A,62E,649
  FDA3:62A,645,64A FDA4:62A,645,649 FDA5:62C,645,64A FDA6:62C,62D,649 FDA7:62C,645,649
  FDA8:633,62E,649 FDA9:635,62D,64A FDAA:634,62D,64A FDAB:636,62D,64A FDAC:644,62C,64A
  FDAD:644,645,64A FDAE:64A,62D,64A FDAF:64A,62C,64A FDB0:64A,645,64A FDB1:645,645,64A
  FDB2:642,645,64A FDB3:646,62D,64A FDB4:642,645,62D FDB5:644,62D,645 FDB6:639,645,64A
  FDB7:643,645,64A FDB8:646,62C,62D FDB9:645,62E,64A FDBA:644,62C,645 FDBB:643,645,645
  FDBC:644,62C,645 FDBD:646,62C,62D FDBE:62C,62D,64A FDBF:62D,62C,64A FDC0:645,62C,64A
  FDC1:641,645,64A FDC2:628,62D,64A FDC3:643,645,645 FDC4:639,62C,645 FDC5:635,645,645
  FDC6:633,62E,64A FDC7:646,62C,64A FDF0:635,644,6D2 FDF1:642,644,6D2 FDF2:627,644,644,647
  FDF3:627,643,628,631 FDF4:645,62D,645,62F FDF5:635,644,639,645 FDF6:631,633,648,644
  FDF7:639,644,64A,647 FDF8:648,633,644,645 FDF9:635,644,649
  FDFA:635,644,649,20,627,644,644,647,20,639,644,64A,647,20,648,633,644,645
  FDFB:62C,644,20,62C,644,627,644,647 FDFC:631,6CC,627,644 FE49:20,305 FE4A:20,305 FE4B:20,305
  FE4C:20,305 FE70:20,64B FE71:640,64B FE72:20,64C FE74:20,64D FE76:20,64E FE77:640,64E
  FE78:20,64F FE79:640,64F FE7A:20,650 FE7B:640,650 FE7C:20,651 FE7D:640,651 FE7E:20,652
  FE7F:640,652 FEF5:644,622 FEF6:644,622 FEF7:644,623 FEF8:644,623 FEF9:644,625 FEFA:644,625
  FEFB:644,627 FEFC:644,627 FFE3:20,304 1D15E:1D157,1D165 1D15F:1D158,1D165
  1D160:1D158,1D165,1D16E 1D161:1D158,1D165,1D16F 1D162:1D158,1D165,1D170
  1D163:1D158,1D165,1D171 1D164:1D158,1D165,1D172 1D1BB:1D1B9,1D165 1D1BC:1D1BA,1D165
  1D1BD:1D1B9,1D165,1D16E 1D1BE:1D1BA,1D165,1D16E 1D1BF:1D1B9,1D165,1D16F
  1D1C0:1D1BA,1D165,1D16F 1F101:30,2C 1F102:31,2C 1F103:32,2C 1F104:33,2C 1F105:34,2C
  1F106:35,2C 1F107:36,2C 1F108:37,2C 1F109:38,2C 1F10A:39,2C 1F110:28,61,29 1F111:28,62,29
  1F112:28,63,29 1F113:28,64,29 1F114:28,65,29 1F115:28,66,29 1F116:28,67,29 1F117:28,68,29
  1F118:28,69,29 1F119:28,6A,29 1F11A:28,6B,29 1F11B:28,6C,29 1F11C:28,6D,29 1F11D:28,6E,29
  1F11E:28,6F,29 1F11F:28,70,29 1F120:28,71,29 1F121:28,72,29 1F122:28,73,29 1F123:28,74,29
  1F124:28,75,29 1F125:28,76,29 1F126:28,77,29 1F127:28,78,29 1F128:28,79,29 1F129:28,7A,29
  1F12A:3014,73,3015 1F12D:63,64 1F12E:77,7A 1F14A:68,76 1F14B:6D,76 1F14C:73,64 1F14D:73,73
  1F14E:70,70,76 1F14F:77,63 1F16A:6D,63 1F16B:6D,64 1F16C:6D,72 1F190:64,6A 1F200:307B,304B
  1F201:30B3,30B3 1F240:3014,672C,3015 1F241:3014,4E09,3015 1F242:3014,4E8C,3015
  1F243:3014,5B89,3015 1F244:3014,70B9,3015 1F245:3014,6253,3015 1F246:3014,76D7,3015
  1F247:3014,52DD,3015 1F248:3014,6557,3015")).map Normal.readEntry

/-- The characters that stand for others, with what they stand for. -/
def mapping : Std.HashMap Nat (List Nat) :=
  Std.HashMap.ofList (several ++ singles)
where
  /-- The characters of the runs, one by one. -/
  singles : List (Nat × List Nat) := singleRuns.flatMap fun r =>
    (List.range ((r.last - r.first) / r.step + 1)).map fun i =>
      (r.first + i * r.step, [(((r.first + i * r.step : Nat) : Int) + r.distance).toNat])

/-- What a character stands for, if it is not valid as it is. -/
def mapped? (c : Char) : Option Text := mapping[c.toNat]?.map (·.map Char.ofNat)

/-! ### Joining types -/

/-- The characters that join only to what precedes them. -/
def rightJoining : CharSet := .ofHex
  "622-625 627 629 62F-632 648 671-673 675-677 688-699 6C0 6C3-6CB 6CD 6CF 6D2-6D3 6D5 6EE-6EF
  710 715-719 71E 728 72A 72C 72F 74D 759-75B 76B-76C 771 773-774 778-779 840 846-847 849 854
  856-858 867 869-86A 870-882 88E 8AA-8AC 8AE 8B1-8B2 8B9 10AC5 10AC7 10AC9-10ACA 10ACE-10AD2
  10ADD 10AE1 10AE4 10AEF 10B81 10B83-10B85 10B89 10B8C 10B8E-10B8F 10B91 10BA9-10BAC 10D22
  10EC2 10F33 10F54 10F74-10F75 10FB4-10FB6 10FB9-10FBA 10FBD 10FC2-10FC3 10FC9"

/-- The characters that join only to what follows them. -/
def leftJoining : CharSet := .ofHex
  "A872 10ACD 10AD7 10D00 10FCB"

/-- The characters that join on both sides. -/
def dualJoining : CharSet := .ofHex
  "620 626 628 62A-62E 633-63F 641-647 649-64A 66E-66F 678-687 69A-6BF 6C1-6C2 6CC 6CE 6D0-6D1
  6FA-6FC 6FF 712-714 71A-71D 71F-727 729 72B 72D-72E 74E-758 75C-76A 76D-770 772 775-777
  77A-77F 7CA-7EA 841-845 848 84A-853 855 860 862-865 868 886 889-88D 88F 8A0-8A9 8AF-8B0
  8B3-8B8 8BA-8C8 1807 1820-1878 1887-18A8 18AA A840-A871 10AC0-10AC4 10AD3-10AD6 10AD8-10ADC
  10ADE-10AE0 10AEB-10AEE 10B80 10B82 10B86-10B88 10B8A-10B8B 10B8D 10B90 10BAD-10BAE
  10D01-10D21 10D23 10EC3-10EC4 10EC6-10EC7 10F30-10F32 10F34-10F44 10F51-10F53 10F70-10F73
  10F76-10F81 10FB0 10FB2-10FB3 10FB8 10FBB-10FBC 10FBE-10FBF 10FC1 10FC4 10FCA 1E900-1E943"

/-- The characters that joining looks through. -/
def transparent : CharSet := .ofHex
  "AD 300-36F 483-489 591-5BD 5BF 5C1-5C2 5C4-5C5 5C7 610-61A 61C 64B-65F 670 6D6-6DC 6DF-6E4
  6E7-6E8 6EA-6ED 70F 711 730-74A 7A6-7B0 7EB-7F3 7FD 816-819 81B-823 825-827 829-82D 859-85B
  897-89F 8CA-8E1 8E3-902 93A 93C 941-948 94D 951-957 962-963 981 9BC 9C1-9C4 9CD 9E2-9E3 9FE
  A01-A02 A3C A41-A42 A47-A48 A4B-A4D A51 A70-A71 A75 A81-A82 ABC AC1-AC5 AC7-AC8 ACD AE2-AE3
  AFA-AFF B01 B3C B3F B41-B44 B4D B55-B56 B62-B63 B82 BC0 BCD C00 C04 C3C C3E-C40 C46-C48
  C4A-C4D C55-C56 C62-C63 C81 CBC CBF CC6 CCC-CCD CE2-CE3 D00-D01 D3B-D3C D41-D44 D4D D62-D63
  D81 DCA DD2-DD4 DD6 E31 E34-E3A E47-E4E EB1 EB4-EBC EC8-ECE F18-F19 F35 F37 F39 F71-F7E
  F80-F84 F86-F87 F8D-F97 F99-FBC FC6 102D-1030 1032-1037 1039-103A 103D-103E 1058-1059
  105E-1060 1071-1074 1082 1085-1086 108D 109D 135D-135F 1712-1714 1732-1733 1752-1753 1772-1773
  17B4-17B5 17B7-17BD 17C6 17C9-17D3 17DD 180B-180D 180F 1885-1886 18A9 1920-1922 1927-1928 1932
  1939-193B 1A17-1A18 1A1B 1A56 1A58-1A5E 1A60 1A62 1A65-1A6C 1A73-1A7C 1A7F 1AB0-1ADD 1AE0-1AEB
  1B00-1B03 1B34 1B36-1B3A 1B3C 1B42 1B6B-1B73 1B80-1B81 1BA2-1BA5 1BA8-1BA9 1BAB-1BAD 1BE6
  1BE8-1BE9 1BED 1BEF-1BF1 1C2C-1C33 1C36-1C37 1CD0-1CD2 1CD4-1CE0 1CE2-1CE8 1CED 1CF4 1CF8-1CF9
  1DC0-1DFF 200B 200E-200F 202A-202E 2060-2064 206A-206F 20D0-20F0 2CEF-2CF1 2D7F 2DE0-2DFF
  302A-302D 3099-309A A66F-A672 A674-A67D A69E-A69F A6F0-A6F1 A802 A806 A80B A825-A826 A82C
  A8C4-A8C5 A8E0-A8F1 A8FF A926-A92D A947-A951 A980-A982 A9B3 A9B6-A9B9 A9BC-A9BD A9E5 AA29-AA2E
  AA31-AA32 AA35-AA36 AA43 AA4C AA7C AAB0 AAB2-AAB4 AAB7-AAB8 AABE-AABF AAC1 AAEC-AAED AAF6 ABE5
  ABE8 ABED FB1E FE00-FE0F FE20-FE2F FEFF FFF9-FFFB 101FD 102E0 10376-1037A 10A01-10A03
  10A05-10A06 10A0C-10A0F 10A38-10A3A 10A3F 10AE5-10AE6 10D24-10D27 10D69-10D6D 10EAB-10EAC
  10EFA-10EFF 10F46-10F50 10F82-10F85 11001 11038-11046 11070 11073-11074 1107F-11081
  110B3-110B6 110B9-110BA 110C2 11100-11102 11127-1112B 1112D-11134 11173 11180-11181
  111B6-111BE 111C9-111CC 111CF 1122F-11231 11234 11236-11237 1123E 11241 112DF 112E3-112EA
  11300-11301 1133B-1133C 11340 11366-1136C 11370-11374 113BB-113C0 113CE 113D0 113D2
  113E1-113E2 11438-1143F 11442-11444 11446 1145E 114B3-114B8 114BA 114BF-114C0 114C2-114C3
  115B2-115B5 115BC-115BD 115BF-115C0 115DC-115DD 11633-1163A 1163D 1163F-11640 116AB 116AD
  116B0-116B5 116B7 1171D 1171F 11722-11725 11727-1172B 1182F-11837 11839-1183A 1193B-1193C
  1193E 11943 119D4-119D7 119DA-119DB 119E0 11A01-11A0A 11A33-11A38 11A3B-11A3E 11A47
  11A51-11A56 11A59-11A5B 11A8A-11A96 11A98-11A99 11B60 11B62-11B64 11B66 11C30-11C36
  11C38-11C3D 11C3F 11C92-11CA7 11CAA-11CB0 11CB2-11CB3 11CB5-11CB6 11D31-11D36 11D3A
  11D3C-11D3D 11D3F-11D45 11D47 11D90-11D91 11D95 11D97 11EF3-11EF4 11F00-11F01 11F36-11F3A
  11F40 11F42 11F5A 13430-13440 13447-13455 1611E-16129 1612D-1612F 16AF0-16AF4 16B30-16B36
  16F4F 16F8F-16F92 16FE4 1BC9D-1BC9E 1BCA0-1BCA3 1CF00-1CF2D 1CF30-1CF46 1D167-1D169
  1D173-1D182 1D185-1D18B 1D1AA-1D1AD 1D242-1D244 1DA00-1DA36 1DA3B-1DA6C 1DA75 1DA84
  1DA9B-1DA9F 1DAA1-1DAAF 1E000-1E006 1E008-1E018 1E01B-1E021 1E023-1E024 1E026-1E02A 1E08F
  1E130-1E136 1E2AE 1E2EC-1E2EF 1E4EC-1E4EF 1E5EE-1E5EF 1E6E3 1E6E6 1E6EE-1E6EF 1E6F5
  1E8D0-1E8D6 1E944-1E94B E0001 E0020-E007F E0100-E01EF"

/-! ### Directions -/

/-- The direction classes that the rule for names from right to left mentions. -/
inductive Direction where
  | l | r | al | an | en | es | cs | et | on | bn | nsm | other
deriving Repr, DecidableEq, BEq

/-- The characters of the direction classes but `l` and `other`. -/
def directionTable : List (Direction × CharSet) := [
  (.r, .ofHex
    "590 5BE 5C0 5C3 5C6 5C8-5FF 7C0-7EA 7F4-7F5 7FA-7FC 7FE-815 81A 824 828 82E-858 85C-85F 200F
    FB1D FB1F-FB28 FB2A-FB4F 10800-1091E 10920-10A00 10A04 10A07-10A0B 10A10-10A37 10A3B-10A3E
    10A40-10AE4 10AE7-10B38 10B40-10CFF 10D40-10E5F 10E7F-10EAA 10EAD-10EBF 10F00-10F2F
    10F70-10F81 10F86-10FFF 1E800-1E8CF 1E8D7-1E943 1E94B-1EC6F 1ECC0-1ECFF 1ED50-1EDFF
    1EF00-1EFFF"),
  (.al, .ofHex
    "608 60B 60D 61B-64A 66D-66F 671-6D5 6E5-6E6 6EE-6EF 6FA-710 712-72F 74B-7A5 7B1-7BF 860-88F
    892-897 8A0-8C9 FB50-FD3D FD50-FDCE FDF0-FDFC FE70-FEFE 10D00-10D23 10D28-10D2F 10D3A-10D3F
    10EC0-10EFC 10F30-10F45 10F51-10F6F 1EC70-1ECBF 1ED00-1ED4F 1EE00-1EEEF 1EEF2-1EEFF"),
  (.an, .ofHex
    "600-605 660-669 66B-66C 6DD 890-891 8E2 10D30-10D39 10E60-10E7E"),
  (.en, .ofHex
    "30-39 B2-B3 B9 6F0-6F9 2070 2074-2079 2080-2089 2488-249B FF10-FF19 102E1-102FB 1D7CE-1D7FF
    1F100-1F10A 1FBF0-1FBF9"),
  (.es, .ofHex
    "2B 2D 207A-207B 208A-208B 2212 FB29 FE62-FE63 FF0B FF0D"),
  (.cs, .ofHex
    "2C 2E-2F 3A A0 60C 202F 2044 FE50 FE52 FE55 FF0C FF0E-FF0F FF1A"),
  (.et, .ofHex
    "23-25 A2-A5 B0-B1 58F 609-60A 66A 9F2-9F3 9FB AF1 BF9 E3F 17DB 2030-2034 20A0-20CF 212E 2213
    A838-A839 FE5F FE69-FE6A FF03-FF05 FFE0-FFE1 FFE5-FFE6 11FDD-11FE0 1E2FF"),
  (.on, .ofHex
    "21-22 26-2A 3B-40 5B-60 7B-7E A1 A6-A9 AB-AC AE-AF B4 B6-B8 BB-BF D7 F7 2B9-2BA 2C2-2CF
    2D2-2DF 2E5-2ED 2EF-2FF 374-375 37E 384-385 387 3F6 58A 58D-58E 606-607 60E-60F 6DE 6E9
    7F6-7F9 BF3-BF8 BFA C78-C7E F3A-F3D 1390-1399 1400 169B-169C 17F0-17F9 1800-180A 1940
    1944-1945 19DE-19FF 1FBD 1FBF-1FC1 1FCD-1FCF 1FDD-1FDF 1FED-1FEF 1FFD-1FFE 2010-2027
    2035-2043 2045-205E 207C-207E 208C-208E 2100-2101 2103-2106 2108-2109 2114 2116-2118
    211E-2123 2125 2127 2129 213A-213B 2140-2144 214A-214D 2150-215F 2189-218B 2190-2211
    2214-2335 237B-2394 2396-2426 2440-244A 2460-2487 24EA-26AB 26AD-27FF 2900-2B73 2B76-2B95
    2B97-2BFF 2CE5-2CEA 2CF9-2CFF 2E00-2E5D 2E80-2E99 2E9B-2EF3 2F00-2FD5 2FF0-2FFB 3001-3004
    3008-3020 3030 3036-3037 303D-303F 309B-309C 30A0 30FB 31C0-31E3 321D-321E 3250-325F
    327C-327E 32B1-32BF 32CC-32CF 3377-337A 33DE-33DF 33FF 4DC0-4DFF A490-A4C6 A60D-A60F A673
    A67E-A67F A700-A721 A788 A828-A82B A874-A877 AB6A-AB6B FD3E-FD4F FDCF FDFD-FDFF FE10-FE19
    FE30-FE4F FE51 FE54 FE56-FE5E FE60-FE61 FE64-FE66 FE68 FE6B FF01-FF02 FF06-FF0A FF1B-FF20
    FF3B-FF40 FF5B-FF65 FFE2-FFE4 FFE8-FFEE FFF9-FFFD 10101 10140-1018C 10190-1019C 101A0 1091F
    10B39-10B3F 11052-11065 11660-1166C 11FD5-11FDC 11FE1-11FF1 16FE2 1D1E9-1D1EA 1D200-1D241
    1D245 1D300-1D356 1D6DB 1D715 1D74F 1D789 1D7C3 1EEF0-1EEF1 1F000-1F02B 1F030-1F093
    1F0A0-1F0AE 1F0B1-1F0BF 1F0C1-1F0CF 1F0D1-1F0F5 1F10B-1F10F 1F12F 1F16A-1F16F 1F1AD
    1F260-1F265 1F300-1F6D7 1F6DC-1F6EC 1F6F0-1F6FC 1F700-1F776 1F77B-1F7D9 1F7E0-1F7EB 1F7F0
    1F800-1F80B 1F810-1F847 1F850-1F859 1F860-1F887 1F890-1F8AD 1F8B0-1F8B1 1F900-1FA53
    1FA60-1FA6D 1FA70-1FA7C 1FA80-1FA88 1FA90-1FABD 1FABF-1FAC5 1FACE-1FADB 1FAE0-1FAE8
    1FAF0-1FAF8 1FB00-1FB92 1FB94-1FBCA"),
  (.bn, .ofHex
    "0-8 E-1B 7F-84 86-9F AD 180E 200B-200D 2060-2065 206A-206F FDD0-FDEF FEFF FFF0-FFF8 FFFE-
    FFFF 1BCA0-1BCA3 1D173-1D17A 1FFFE-1FFFF 2FFFE-2FFFF 3FFFE-3FFFF 4FFFE-4FFFF 5FFFE-5FFFF
    6FFFE-6FFFF 7FFFE-7FFFF 8FFFE-8FFFF 9FFFE-9FFFF AFFFE-AFFFF BFFFE-BFFFF CFFFE-CFFFF
    DFFFE-E00FF E01F0-E0FFF EFFFE-EFFFF FFFFE-FFFFF 10FFFE-10FFFF"),
  (.nsm, .ofHex
    "300-36F 483-489 591-5BD 5BF 5C1-5C2 5C4-5C5 5C7 610-61A 64B-65F 670 6D6-6DC 6DF-6E4 6E7-6E8
    6EA-6ED 711 730-74A 7A6-7B0 7EB-7F3 7FD 816-819 81B-823 825-827 829-82D 859-85B 898-89F
    8CA-8E1 8E3-902 93A 93C 941-948 94D 951-957 962-963 981 9BC 9C1-9C4 9CD 9E2-9E3 9FE A01-A02
    A3C A41-A42 A47-A48 A4B-A4D A51 A70-A71 A75 A81-A82 ABC AC1-AC5 AC7-AC8 ACD AE2-AE3 AFA-AFF
    B01 B3C B3F B41-B44 B4D B55-B56 B62-B63 B82 BC0 BCD C00 C04 C3C C3E-C40 C46-C48 C4A-C4D
    C55-C56 C62-C63 C81 CBC CCC-CCD CE2-CE3 D00-D01 D3B-D3C D41-D44 D4D D62-D63 D81 DCA DD2-DD4
    DD6 E31 E34-E3A E47-E4E EB1 EB4-EBC EC8-ECE F18-F19 F35 F37 F39 F71-F7E F80-F84 F86-F87
    F8D-F97 F99-FBC FC6 102D-1030 1032-1037 1039-103A 103D-103E 1058-1059 105E-1060 1071-1074
    1082 1085-1086 108D 109D 135D-135F 1712-1714 1732-1733 1752-1753 1772-1773 17B4-17B5
    17B7-17BD 17C6 17C9-17D3 17DD 180B-180D 180F 1885-1886 18A9 1920-1922 1927-1928 1932
    1939-193B 1A17-1A18 1A1B 1A56 1A58-1A5E 1A60 1A62 1A65-1A6C 1A73-1A7C 1A7F 1AB0-1ACE
    1B00-1B03 1B34 1B36-1B3A 1B3C 1B42 1B6B-1B73 1B80-1B81 1BA2-1BA5 1BA8-1BA9 1BAB-1BAD 1BE6
    1BE8-1BE9 1BED 1BEF-1BF1 1C2C-1C33 1C36-1C37 1CD0-1CD2 1CD4-1CE0 1CE2-1CE8 1CED 1CF4
    1CF8-1CF9 1DC0-1DFF 20D0-20F0 2CEF-2CF1 2D7F 2DE0-2DFF 302A-302D 3099-309A A66F-A672
    A674-A67D A69E-A69F A6F0-A6F1 A802 A806 A80B A825-A826 A82C A8C4-A8C5 A8E0-A8F1 A8FF
    A926-A92D A947-A951 A980-A982 A9B3 A9B6-A9B9 A9BC-A9BD A9E5 AA29-AA2E AA31-AA32 AA35-AA36
    AA43 AA4C AA7C AAB0 AAB2-AAB4 AAB7-AAB8 AABE-AABF AAC1 AAEC-AAED AAF6 ABE5 ABE8 ABED FB1E
    FE00-FE0F FE20-FE2F 101FD 102E0 10376-1037A 10A01-10A03 10A05-10A06 10A0C-10A0F 10A38-10A3A
    10A3F 10AE5-10AE6 10D24-10D27 10EAB-10EAC 10EFD-10EFF 10F46-10F50 10F82-10F85 11001
    11038-11046 11070 11073-11074 1107F-11081 110B3-110B6 110B9-110BA 110C2 11100-11102
    11127-1112B 1112D-11134 11173 11180-11181 111B6-111BE 111C9-111CC 111CF 1122F-11231 11234
    11236-11237 1123E 11241 112DF 112E3-112EA 11300-11301 1133B-1133C 11340 11366-1136C
    11370-11374 11438-1143F 11442-11444 11446 1145E 114B3-114B8 114BA 114BF-114C0 114C2-114C3
    115B2-115B5 115BC-115BD 115BF-115C0 115DC-115DD 11633-1163A 1163D 1163F-11640 116AB 116AD
    116B0-116B5 116B7 1171D-1171F 11722-11725 11727-1172B 1182F-11837 11839-1183A 1193B-1193C
    1193E 11943 119D4-119D7 119DA-119DB 119E0 11A01-11A06 11A09-11A0A 11A33-11A38 11A3B-11A3E
    11A47 11A51-11A56 11A59-11A5B 11A8A-11A96 11A98-11A99 11C30-11C36 11C38-11C3D 11C92-11CA7
    11CAA-11CB0 11CB2-11CB3 11CB5-11CB6 11D31-11D36 11D3A 11D3C-11D3D 11D3F-11D45 11D47
    11D90-11D91 11D95 11D97 11EF3-11EF4 11F00-11F01 11F36-11F3A 11F40 11F42 13440 13447-13455
    16AF0-16AF4 16B30-16B36 16F4F 16F8F-16F92 16FE4 1BC9D-1BC9E 1CF00-1CF2D 1CF30-1CF46
    1D167-1D169 1D17B-1D182 1D185-1D18B 1D1AA-1D1AD 1D242-1D244 1DA00-1DA36 1DA3B-1DA6C 1DA75
    1DA84 1DA9B-1DA9F 1DAA1-1DAAF 1E000-1E006 1E008-1E018 1E01B-1E021 1E023-1E024 1E026-1E02A
    1E08F 1E130-1E136 1E2AE 1E2EC-1E2EF 1E4EC-1E4EF 1E8D0-1E8D6 1E944-1E94A E0100-E01EF"),
  (.other, .ofHex
    "9-D 1C-20 85 1680 2000-200A 2028-202E 205F 2066-2069 3000")]

/-- The direction class of a character. -/
def direction (c : Char) : Direction :=
  ((directionTable.find? fun (_, s) => s.contains c).map (·.1)).getD .l

end DomainTable

end ChapterAssembly
