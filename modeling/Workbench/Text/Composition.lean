import Workbench.Text.Ranges
import Workbench.Text.Runs
/-!
# Composed characters

Many characters are a base with marks on it, and can be written by one code
point or by several. The tables say which pairs of characters one character
stands for, which characters are only ever written by others, and in which
order marks on one base come. The syllables of Hangul are composed by
counting.
-/

namespace Workbench

namespace Text

/-! ## Marks -/

/-- The classes of marks, by increasing number. Marks of different classes do
not touch, so their order says nothing. -/
def markClasses : List (Nat × String) := [
  (1,
    "334-338 1CD4 1CE2-1CE8 20D2-20D3 20D8-20DA 20E5-20E6 20EA-20EB 10A39 16AF0-16AF4 1BC9E
    1D167-1D169"),
  (6, "16FF0-16FF1"),
  (7,
    "93C 9BC A3C ABC B3C C3C CBC 1037 1B34 1BE6 1C37 A9B3 110BA 11173 111CA 11236 112E9
    1133B-1133C 11446 114C3 115C0 116B7 1183A 11943 11D42 1E94A"),
  (8, "3099-309A"),
  (9,
    "94D 9CD A4D ACD B4D BCD C4D CCD D3B-D3C D4D DCA E3A EBA F84 1039-103A 1714-1715 1734 17D2
    1A60 1B44 1BAA-1BAB 1BF2-1BF3 2D7F A806 A82C A8C4 A953 A9C0 AAF6 ABED 10A3F 11046 11070 1107F
    110B9 11133-11134 111C0 11235 112EA 1134D 113CE-113D0 11442 114C2 115BF 1163F 116B6 1172B
    11839 1193D-1193E 119E0 11A34 11A47 11A99 11C3F 11D44-11D45 11D97 11F41-11F42 1612F"),
  (10, "5B0"),
  (11, "5B1"),
  (12, "5B2"),
  (13, "5B3"),
  (14, "5B4"),
  (15, "5B5"),
  (16, "5B6"),
  (17, "5B7"),
  (18, "5B8 5C7"),
  (19, "5B9-5BA"),
  (20, "5BB"),
  (21, "5BC"),
  (22, "5BD"),
  (23, "5BF"),
  (24, "5C1"),
  (25, "5C2"),
  (26, "FB1E"),
  (27, "64B 8F0"),
  (28, "64C 8F1"),
  (29, "64D 8F2"),
  (30, "618 64E"),
  (31, "619 64F"),
  (32, "61A 650"),
  (33, "651"),
  (34, "652"),
  (35, "670"),
  (36, "711"),
  (84, "C55"),
  (91, "C56"),
  (103, "E38-E39"),
  (107, "E48-E4B"),
  (118, "EB8-EB9"),
  (122, "EC8-ECB"),
  (129, "F71"),
  (130, "F72 F7A-F7D F80"),
  (132, "F74"),
  (202, "321-322 327-328 1DD0"),
  (214, "1DCE"),
  (216, "31B F39 1D165-1D166 1D16E-1D172"),
  (218, "1DFA 302A"),
  (220,
    "316-319 31C-320 323-326 329-333 339-33C 347-349 34D-34E 353-356 359-35A 591 596 59B 5A2-5A7
    5AA 5C5 655-656 65C 65F 6E3 6EA 6ED 731 734 737-739 73B-73C 73E 742 744 746 748 7F2 7FD
    859-85B 899-89B 8CF-8D3 8E3 8E6 8E9 8ED-8EF 8F6 8F9-8FA 952 F18-F19 F35 F37 FC6 108D 193B
    1A18 1A7F 1AB5-1ABA 1ABD 1ABF-1AC0 1AC3-1AC4 1ACA 1ADD 1AE6 1B6C 1CD5-1CD9 1CDC-1CDF 1CED
    1DC2 1DCA 1DCF 1DF9 1DFD 1DFF 20E8 20EC-20EF A92B-A92D AAB4 FE27-FE2D 101FD 102E0 10A0D 10A3A
    10AE6 10EFA-10EFB 10EFD-10EFF 10F46-10F47 10F4B 10F4D-10F50 10F83 10F85 1D17B-1D182
    1D18A-1D18B 1E4EE 1E5EF 1E8D0-1E8D6"),
  (222, "59A 5AD 1939 302D"),
  (224, "302E-302F"),
  (226, "1D16D"),
  (228, "5AE 18A9 1DF7-1DF8 302B"),
  (230,
    "300-314 33D-344 346 34A-34C 350-352 357 35B 363-36F 483-487 592-595 597-599 59C-5A1 5A8-5A9
    5AB-5AC 5AF 5C4 610-617 653-654 657-65B 65D-65E 6D6-6DC 6DF-6E2 6E4 6E7-6E8 6EB-6EC 730
    732-733 735-736 73A 73D 73F-741 743 745 747 749-74A 7EB-7F1 7F3 816-819 81B-823 825-827
    829-82D 897-898 89C-89F 8CA-8CE 8D4-8E1 8E4-8E5 8E7-8E8 8EA-8EC 8F3-8F5 8F7-8F8 8FB-8FF 951
    953-954 9FE F82-F83 F86-F87 135D-135F 17DD 193A 1A17 1A75-1A7C 1AB0-1AB4 1ABB-1ABC 1AC1-1AC2
    1AC5-1AC9 1ACB-1ADC 1AE0-1AE5 1AE7-1AEA 1B6B 1B6D-1B73 1CD0-1CD2 1CDA-1CDB 1CE0 1CF4
    1CF8-1CF9 1DC0-1DC1 1DC3-1DC9 1DCB-1DCC 1DD1-1DF5 1DFB 1DFE 20D0-20D1 20D4-20D7 20DB-20DC
    20E1 20E7 20E9 20F0 2CEF-2CF1 2DE0-2DFF A66F A674-A67D A69E-A69F A6F0-A6F1 A8E0-A8F1 AAB0
    AAB2-AAB3 AAB7-AAB8 AABE-AABF AAC1 FE20-FE26 FE2E-FE2F 10376-1037A 10A0F 10A38 10AE5
    10D24-10D27 10D69-10D6D 10EAB-10EAC 10F48-10F4A 10F4C 10F82 10F84 11100-11102 11366-1136C
    11370-11374 1145E 16B30-16B36 1D185-1D189 1D1AA-1D1AD 1D242-1D244 1E000-1E006 1E008-1E018
    1E01B-1E021 1E023-1E024 1E026-1E02A 1E08F 1E130-1E136 1E2AE 1E2EC-1E2EF 1E4EF 1E5EE 1E6E3
    1E6E6 1E6EE-1E6EF 1E6F5 1E944-1E949"),
  (232, "315 31A 358 1DF6 302C 1E4EC-1E4ED"),
  (233, "35C 35F 362 1DFC"),
  (234, "35D-35E 360-361 1AEB 1DCD"),
  (240, "345")]

/-- The class of each mark. -/
def markRanges : List (Nat × List (Nat × Nat)) :=
  markClasses.map fun (number, table) => (number, readRanges table)

/-- **The class of a character**, zero unless it is a mark that has one. -/
def markClass (c : Char) : Nat :=
  if c.toNat < 0x300 then 0
  else ((markRanges.find? (inRanges ·.2 c.toNat)).map Prod.fst).getD 0

/-! ## Pairs -/

/-- By the second character of a pair, the first characters with what both
compose. -/
def pairRuns : List (Nat × String) := [
  (0x300,
    "41>C0 45>C8 49>CC 4E>1F8 4F>D2 55>D9 57>1E80 59>1EF2 61>E0 65>E8 69>EC 6E>1F9 6F>F2 75>F9
    77>1E81 79>1EF3 A8>1FED C2>1EA6 CA>1EC0 D4>1ED2 DC>1DB E2>1EA7 EA>1EC1 F4>1ED3 FC>1DC
    102-103>1EB0 112-113>1E14 14C-14D>1E50 1A0-1A1>1EDC 1AF-1B0>1EEA 391>1FBA 395>1FC8 397>1FCA
    399>1FDA 39F>1FF8 3A5>1FEA 3A9>1FFA 3B1>1F70 3B5-3B9/2>1F72 3BF>1F78 3C5>1F7A 3C9>1F7C
    3CA>1FD2 3CB>1FE2 415>400 418>40D 435>450 438>45D 1F00-1F01>1F02 1F08-1F09>1F0A
    1F10-1F11>1F12 1F18-1F19>1F1A 1F20-1F21>1F22 1F28-1F29>1F2A 1F30-1F31>1F32 1F38-1F39>1F3A
    1F40-1F41>1F42 1F48-1F49>1F4A 1F50-1F51>1F52 1F59>1F5B 1F60-1F61>1F62 1F68-1F69>1F6A
    1FBF>1FCD 1FFE>1FDD"),
  (0x301,
    "41>C1 43>106 45>C9 47>1F4 49>CD 4B>1E30 4C>139 4D>1E3E 4E>143 4F>D3 50>1E54 52>154 53>15A
    55>DA 57>1E82 59>DD 5A>179 61>E1 63>107 65>E9 67>1F5 69>ED 6B>1E31 6C>13A 6D>1E3F 6E>144
    6F>F3 70>1E55 72>155 73>15B 75>FA 77>1E83 79>FD 7A>17A A8>385 C2>1EA4 C5>1FA C6>1FC C7>1E08
    CA>1EBE CF>1E2E D4>1ED0 D5>1E4C D8>1FE DC>1D7 E2>1EA5 E5>1FB E6>1FD E7>1E09 EA>1EBF EF>1E2F
    F4>1ED1 F5>1E4D F8>1FF FC>1D8 102-103>1EAE 112-113>1E16 14C-14D>1E52 168-169>1E78
    1A0-1A1>1EDA 1AF-1B0>1EE8 391>386 395>388 397>389 399>38A 39F>38C 3A5>38E 3A9>38F 3B1>3AC
    3B5>3AD 3B7>3AE 3B9>3AF 3BF>3CC 3C5>3CD 3C9>3CE 3CA>390 3CB>3B0 3D2>3D3 413>403 41A>40C
    433>453 43A>45C 1F00-1F01>1F04 1F08-1F09>1F0C 1F10-1F11>1F14 1F18-1F19>1F1C 1F20-1F21>1F24
    1F28-1F29>1F2C 1F30-1F31>1F34 1F38-1F39>1F3C 1F40-1F41>1F44 1F48-1F49>1F4C 1F50-1F51>1F54
    1F59>1F5D 1F60-1F61>1F64 1F68-1F69>1F6C 1FBF>1FCE 1FFE>1FDE"),
  (0x302,
    "41>C2 43>108 45>CA 47>11C 48>124 49>CE 4A>134 4F>D4 53>15C 55>DB 57>174 59>176 5A>1E90 61>E2
    63>109 65>EA 67>11D 68>125 69>EE 6A>135 6F>F4 73>15D 75>FB 77>175 79>177 7A>1E91
    1EA0-1EA1>1EAC 1EB8-1EB9>1EC6 1ECC-1ECD>1ED8"),
  (0x303,
    "41>C3 45>1EBC 49>128 4E>D1 4F>D5 55>168 56>1E7C 59>1EF8 61>E3 65>1EBD 69>129 6E>F1 6F>F5
    75>169 76>1E7D 79>1EF9 C2>1EAA CA>1EC4 D4>1ED6 E2>1EAB EA>1EC5 F4>1ED7 102-103>1EB4
    1A0-1A1>1EE0 1AF-1B0>1EEE"),
  (0x304,
    "41>100 45>112 47>1E20 49>12A 4F>14C 55>16A 59>232 61>101 65>113 67>1E21 69>12B 6F>14D 75>16B
    79>233 C4>1DE C6>1E2 D5>22C D6>22A DC>1D5 E4>1DF E6>1E3 F5>22D F6>22B FC>1D6 1EA-1EB>1EC
    226-227>1E0 22E-22F>230 391>1FB9 399>1FD9 3A5>1FE9 3B1>1FB1 3B9>1FD1 3C5>1FE1 418>4E2 423>4EE
    438>4E3 443>4EF 1E36-1E37>1E38 1E5A-1E5B>1E5C"),
  (0x306,
    "41>102 45>114 47>11E 49>12C 4F>14E 55>16C 61>103 65>115 67>11F 69>12D 6F>14F 75>16D
    228-229>1E1C 391>1FB8 399>1FD8 3A5>1FE8 3B1>1FB0 3B9>1FD0 3C5>1FE0 410>4D0 415>4D6 416>4C1
    418>419 423>40E 430>4D1 435>4D7 436>4C2 438>439 443>45E 1EA0-1EA1>1EB6"),
  (0x307,
    "41>226 42>1E02 43>10A 44>1E0A 45>116 46>1E1E 47>120 48>1E22 49>130 4D>1E40 4E>1E44 4F>22E
    50>1E56 52>1E58 53>1E60 54>1E6A 57>1E86 58>1E8A 59>1E8E 5A>17B 61>227 62>1E03 63>10B 64>1E0B
    65>117 66>1E1F 67>121 68>1E23 6D>1E41 6E>1E45 6F>22F 70>1E57 72>1E59 73>1E61 74>1E6B 77>1E87
    78>1E8B 79>1E8F 7A>17C 15A-15B>1E64 160-161>1E66 17F>1E9B 1E62-1E63>1E68 105D2>105C9
    105DA>105E4"),
  (0x308,
    "41>C4 45>CB 48>1E26 49>CF 4F>D6 55>DC 57>1E84 58>1E8C 59>178 61>E4 65>EB 68>1E27 69>EF 6F>F6
    74>1E97 75>FC 77>1E85 78>1E8D 79>FF D5>1E4E F5>1E4F 16A-16B>1E7A 399>3AA 3A5>3AB 3B9>3CA
    3C5>3CB 3D2>3D4 406>407 410>4D2 415>401 416>4DC 417>4DE 418>4E4 41E>4E6 423>4F0 427>4F4
    42B>4F8 42D>4EC 430>4D3 435>451 436>4DD 437>4DF 438>4E5 43E>4E7 443>4F1 447>4F5 44B>4F9
    44D>4ED 456>457 4D8-4D9>4DA 4E8-4E9>4EA"),
  (0x309,
    "41>1EA2 45>1EBA 49>1EC8 4F>1ECE 55>1EE6 59>1EF6 61>1EA3 65>1EBB 69>1EC9 6F>1ECF 75>1EE7
    79>1EF7 C2>1EA8 CA>1EC2 D4>1ED4 E2>1EA9 EA>1EC3 F4>1ED5 102-103>1EB2 1A0-1A1>1EDE
    1AF-1B0>1EEC"),
  (0x30A, "41>C5 55>16E 61>E5 75>16F 77>1E98 79>1E99"),
  (0x30B, "4F>150 55>170 6F>151 75>171 423>4F2 443>4F3"),
  (0x30C,
    "41>1CD 43>10C 44>10E 45>11A 47>1E6 48>21E 49>1CF 4B>1E8 4C>13D 4E>147 4F>1D1 52>158 53>160
    54>164 55>1D3 5A>17D 61>1CE 63>10D 64>10F 65>11B 67>1E7 68>21F 69>1D0 6A>1F0 6B>1E9 6C>13E
    6E>148 6F>1D2 72>159 73>161 74>165 75>1D4 7A>17E DC>1D9 FC>1DA 1B7>1EE 292>1EF"),
  (0x30F,
    "41>200 45>204 49>208 4F>20C 52>210 55>214 61>201 65>205 69>209 6F>20D 72>211 75>215
    474-475>476"),
  (0x311, "41>202 45>206 49>20A 4F>20E 52>212 55>216 61>203 65>207 69>20B 6F>20F 72>213 75>217"),
  (0x313,
    "391>1F08 395>1F18 397>1F28 399>1F38 39F>1F48 3A9>1F68 3B1>1F00 3B5>1F10 3B7>1F20 3B9>1F30
    3BF>1F40 3C1>1FE4 3C5>1F50 3C9>1F60"),
  (0x314,
    "391>1F09 395>1F19 397>1F29 399>1F39 39F>1F49 3A1>1FEC 3A5>1F59 3A9>1F69 3B1>1F01 3B5>1F11
    3B7>1F21 3B9>1F31 3BF>1F41 3C1>1FE5 3C5>1F51 3C9>1F61"),
  (0x31B, "4F>1A0 55>1AF 6F>1A1 75>1B0"),
  (0x323,
    "41>1EA0 42>1E04 44>1E0C 45>1EB8 48>1E24 49>1ECA 4B>1E32 4C>1E36 4D>1E42 4E>1E46 4F>1ECC
    52>1E5A 53>1E62 54>1E6C 55>1EE4 56>1E7E 57>1E88 59>1EF4 5A>1E92 61>1EA1 62>1E05 64>1E0D
    65>1EB9 68>1E25 69>1ECB 6B>1E33 6C>1E37 6D>1E43 6E>1E47 6F>1ECD 72>1E5B 73>1E63 74>1E6D
    75>1EE5 76>1E7F 77>1E89 79>1EF5 7A>1E93 1A0-1A1>1EE2 1AF-1B0>1EF0"),
  (0x324, "55>1E72 75>1E73"),
  (0x325, "41>1E00 61>1E01"),
  (0x326, "53>218 54>21A 73>219 74>21B"),
  (0x327,
    "43>C7 44>1E10 45>228 47>122 48>1E28 4B>136 4C>13B 4E>145 52>156 53>15E 54>162 63>E7 64>1E11
    65>229 67>123 68>1E29 6B>137 6C>13C 6E>146 72>157 73>15F 74>163"),
  (0x328, "41>104 45>118 49>12E 4F>1EA 55>172 61>105 65>119 69>12F 6F>1EB 75>173"),
  (0x32D,
    "44>1E12 45>1E18 4C>1E3C 4E>1E4A 54>1E70 55>1E76 64>1E13 65>1E19 6C>1E3D 6E>1E4B 74>1E71
    75>1E77"),
  (0x32E, "48>1E2A 68>1E2B"),
  (0x330, "45>1E1A 49>1E2C 55>1E74 65>1E1B 69>1E2D 75>1E75"),
  (0x331,
    "42>1E06 44>1E0E 4B>1E34 4C>1E3A 4E>1E48 52>1E5E 54>1E6E 5A>1E94 62>1E07 64>1E0F 68>1E96
    6B>1E35 6C>1E3B 6E>1E49 72>1E5F 74>1E6F 7A>1E95"),
  (0x338,
    "3C>226E 3D>2260 3E>226F 2190>219A 2192>219B 2194>21AE 21D0>21CD 21D2>21CF 21D4>21CE 2203>2204
    2208>2209 220B>220C 2223>2224 2225>2226 223C>2241 2243>2244 2245>2247 2248>2249 224D>226D
    2261>2262 2264-2265>2270 2272-2273>2274 2276-2277>2278 227A-227B>2280 227C-227D>22E0
    2282-2283>2284 2286-2287>2288 2291-2292>22E2 22A2>22AC 22A8-22A9>22AD 22AB>22AF
    22B2-22B5>22EA"),
  (0x342,
    "A8>1FC1 3B1>1FB6 3B7>1FC6 3B9>1FD6 3C5>1FE6 3C9>1FF6 3CA>1FD7 3CB>1FE7 1F00-1F01>1F06
    1F08-1F09>1F0E 1F20-1F21>1F26 1F28-1F29>1F2E 1F30-1F31>1F36 1F38-1F39>1F3E 1F50-1F51>1F56
    1F59>1F5F 1F60-1F61>1F66 1F68-1F69>1F6E 1FBF>1FCF 1FFE>1FDF"),
  (0x345,
    "391>1FBC 397>1FCC 3A9>1FFC 3AC>1FB4 3AE>1FC4 3B1>1FB3 3B7>1FC3 3C9>1FF3 3CE>1FF4
    1F00-1F0F>1F80 1F20-1F2F>1F90 1F60-1F6F>1FA0 1F70>1FB2 1F74>1FC2 1F7C>1FF2 1FB6>1FB7
    1FC6>1FC7 1FF6>1FF7"),
  (0x653, "627>622"),
  (0x654, "627>623 648>624 64A>626 6C1>6C2 6D2>6D3 6D5>6C0"),
  (0x655, "627>625"),
  (0x93C, "928>929 930>931 933>934"),
  (0x9BE, "9C7>9CB"),
  (0x9D7, "9C7>9CC"),
  (0xB3E, "B47>B4B"),
  (0xB56, "B47>B48"),
  (0xB57, "B47>B4C"),
  (0xBBE, "BC6-BC7>BCA"),
  (0xBD7, "B92>B94 BC6>BCC"),
  (0xC56, "C46>C48"),
  (0xCC2, "CC6>CCA"),
  (0xCD5, "CBF>CC0 CC6>CC7 CCA>CCB"),
  (0xCD6, "CC6>CC8"),
  (0xD3E, "D46-D47>D4A"),
  (0xD57, "D46>D4C"),
  (0xDCA, "DD9>DDA DDC>DDD"),
  (0xDCF, "DD9>DDC"),
  (0xDDF, "DD9>DDE"),
  (0x102E, "1025>1026"),
  (0x1B35, "1B05-1B0D/2>1B06 1B11>1B12 1B3A>1B3B 1B3C>1B3D 1B3E-1B3F>1B40 1B42>1B43"),
  (0x3099,
    "3046>3094 304B-3061/2>304C 3064-3068/2>3065 306F>3070 3072>3073 3075>3076 3078>3079 307B>307C
    309D>309E 30A6>30F4 30AB-30C1/2>30AC 30C4-30C8/2>30C5 30CF>30D0 30D2>30D3 30D5>30D6 30D8>30D9
    30DB>30DC 30EF-30F2>30F7 30FD>30FE"),
  (0x309A,
    "306F>3071 3072>3074 3075>3077 3078>307A 307B>307D 30CF>30D1 30D2>30D4 30D5>30D7 30D8>30DA
    30DB>30DD"),
  (0x110BA, "11099>1109A 1109B>1109C 110A5>110AB"),
  (0x11127, "11131-11132>1112E"),
  (0x1133E, "11347>1134B"),
  (0x11357, "11347>1134C"),
  (0x113B8, "113C2>113C7"),
  (0x113BB, "11384>11385"),
  (0x113C2, "1138B>1138E 113C2>113C5"),
  (0x113C9, "11382>11383 11390>11391 113C2>113C8"),
  (0x114B0, "114B9>114BC"),
  (0x114BA, "114B9>114BB"),
  (0x114BD, "114B9>114BE"),
  (0x115AF, "115B8-115B9>115BA"),
  (0x11930, "11935>11938"),
  (0x1611E, "1611E>16121"),
  (0x1611F, "1611E>16123 16121-16122>16126 16129>16124"),
  (0x16120, "1611E>16125 16121>16128"),
  (0x16129, "1611E>16122"),
  (0x16D67, "16D63>16D69 16D67>16D68 16D69>16D6A")]

/-- The pairs with what they compose. -/
def pairs : List ((Nat × Nat) × Nat) :=
  pairRuns.flatMap fun (second, table) =>
    (Run.ofText table).flatMap fun r =>
      r.members.flatMap fun first => (r.imageOf first).map ((first, second), ·)

/-- The characters that are always written by others. -/
def splitRuns : List Run := Run.ofText
    "340-341>300 343>313 344>308.301 374>2B9 37E>3B 387>B7 958>915.93C 959>916.93C 95A>917.93C
    95B>91C.93C 95C>921.93C 95D>922.93C 95E>92B.93C 95F>92F.93C 9DC>9A1.9BC 9DD>9A2.9BC
    9DF>9AF.9BC A33>A32.A3C A36>A38.A3C A59>A16.A3C A5A>A17.A3C A5B>A1C.A3C A5E>A2B.A3C
    B5C>B21.B3C B5D>B22.B3C F43>F42.FB7 F4D>F4C.FB7 F52>F51.FB7 F57>F56.FB7 F5C>F5B.FB7
    F69>F40.FB5 F73>F71.F72 F75>F71.F74 F76>FB2.F80 F78>FB3.F80 F81>F71.F80 F93>F92.FB7
    F9D>F9C.FB7 FA2>FA1.FB7 FA7>FA6.FB7 FAC>FAB.FB7 FB9>F90.FB5 1F71>3B1.301 1F73>3B5.301
    1F75>3B7.301 1F77>3B9.301 1F79>3BF.301 1F7B>3C5.301 1F7D>3C9.301 1FBB>391.301 1FBE>3B9
    1FC9>395.301 1FCB>397.301 1FD3>3B9.308.301 1FDB>399.301 1FE3>3C5.308.301 1FEB>3A5.301
    1FEE>A8.301 1FEF>60 1FF9>39F.301 1FFB>3A9.301 1FFD>B4 2000-2001>2002 2126>3A9 212A>4B
    212B>41.30A 2329-232A>3008 2ADC>2ADD.338 F900>8C48 F901>66F4 F902>8ECA F903>8CC8 F904>6ED1
    F905>4E32 F906>53E5 F907>9F9C F908>9F9C F909>5951 F90A>91D1 F90B>5587 F90C>5948 F90D>61F6
    F90E>7669 F90F>7F85 F910>863F F911>87BA F912>88F8 F913>908F F914>6A02 F915>6D1B F916>70D9
    F917>73DE F918>843D F919>916A F91A>99F1 F91B>4E82 F91C>5375 F91D>6B04 F91E>721B F91F>862D
    F920>9E1E F921>5D50 F922>6FEB F923>85CD F924>8964 F925>62C9 F926>81D8 F927>881F F928>5ECA
    F929>6717 F92A>6D6A F92B>72FC F92C>90CE F92D>4F86 F92E>51B7 F92F>52DE F930>64C4 F931>6AD3
    F932>7210 F933>76E7 F934>8001 F935>8606 F936>865C F937>8DEF F938>9732 F939>9B6F F93A>9DFA
    F93B>788C F93C>797F F93D>7DA0 F93E>83C9 F93F>9304 F940>9E7F F941>8AD6 F942>58DF F943>5F04
    F944>7C60 F945>807E F946>7262 F947>78CA F948>8CC2 F949>96F7 F94A>58D8 F94B>5C62 F94C>6A13
    F94D>6DDA F94E>6F0F F94F>7D2F F950>7E37 F951>964B F952>52D2 F953>808B F954>51DC F955>51CC
    F956>7A1C F957>7DBE F958>83F1 F959>9675 F95A>8B80 F95B>62CF F95C>6A02 F95D>8AFE F95E>4E39
    F95F>5BE7 F960>6012 F961>7387 F962>7570 F963>5317 F964>78FB F965>4FBF F966>5FA9 F967>4E0D
    F968>6CCC F969>6578 F96A>7D22 F96B>53C3 F96C>585E F96D>7701 F96E>8449 F96F>8AAA F970>6BBA
    F971>8FB0 F972>6C88 F973>62FE F974>82E5 F975>63A0 F976>7565 F977>4EAE F978>5169 F979>51C9
    F97A>6881 F97B>7CE7 F97C>826F F97D>8AD2 F97E>91CF F97F>52F5 F980>5442 F981>5973 F982>5EEC
    F983>65C5 F984>6FFE F985>792A F986>95AD F987>9A6A F988>9E97 F989>9ECE F98A>529B F98B>66C6
    F98C>6B77 F98D>8F62 F98E>5E74 F98F>6190 F990>6200 F991>649A F992>6F23 F993>7149 F994>7489
    F995>79CA F996>7DF4 F997>806F F998>8F26 F999>84EE F99A>9023 F99B>934A F99C>5217 F99D>52A3
    F99E>54BD F99F>70C8 F9A0>88C2 F9A1>8AAA F9A2>5EC9 F9A3>5FF5 F9A4>637B F9A5>6BAE F9A6>7C3E
    F9A7>7375 F9A8>4EE4 F9A9>56F9 F9AA>5BE7 F9AB>5DBA F9AC>601C F9AD>73B2 F9AE>7469 F9AF>7F9A
    F9B0>8046 F9B1>9234 F9B2>96F6 F9B3>9748 F9B4>9818 F9B5>4F8B F9B6>79AE F9B7>91B4 F9B8>96B8
    F9B9>60E1 F9BA>4E86 F9BB>50DA F9BC>5BEE F9BD>5C3F F9BE>6599 F9BF>6A02 F9C0>71CE F9C1>7642
    F9C2>84FC F9C3>907C F9C4>9F8D F9C5>6688 F9C6>962E F9C7>5289 F9C8>677B F9C9>67F3 F9CA>6D41
    F9CB>6E9C F9CC>7409 F9CD>7559 F9CE>786B F9CF>7D10 F9D0>985E F9D1>516D F9D2>622E F9D3>9678
    F9D4>502B F9D5>5D19 F9D6>6DEA F9D7>8F2A F9D8>5F8B F9D9>6144 F9DA>6817 F9DB>7387 F9DC>9686
    F9DD>5229 F9DE>540F F9DF>5C65 F9E0>6613 F9E1>674E F9E2>68A8 F9E3>6CE5 F9E4>7406 F9E5>75E2
    F9E6>7F79 F9E7>88CF F9E8>88E1 F9E9>91CC F9EA>96E2 F9EB>533F F9EC>6EBA F9ED>541D F9EE>71D0
    F9EF>7498 F9F0>85FA F9F1>96A3 F9F2>9C57 F9F3>9E9F F9F4>6797 F9F5>6DCB F9F6>81E8 F9F7>7ACB
    F9F8>7B20 F9F9>7C92 F9FA>72C0 F9FB>7099 F9FC>8B58 F9FD>4EC0 F9FE>8336 F9FF>523A FA00>5207
    FA01>5EA6 FA02>62D3 FA03>7CD6 FA04>5B85 FA05>6D1E FA06>66B4 FA07>8F3B FA08>884C FA09>964D
    FA0A>898B FA0B>5ED3 FA0C>5140 FA0D>55C0 FA10>585A FA12>6674 FA15>51DE FA16>732A FA17>76CA
    FA18>793C FA19>795E FA1A>7965 FA1B>798F FA1C>9756 FA1D>7CBE FA1E>7FBD FA20>8612 FA22>8AF8
    FA25>9038 FA26>90FD FA2A>98EF FA2B>98FC FA2C>9928 FA2D>9DB4 FA2E>90DE FA2F>96B7 FA30>4FAE
    FA31>50E7 FA32>514D FA33>52C9 FA34>52E4 FA35>5351 FA36>559D FA37>5606 FA38>5668 FA39>5840
    FA3A>58A8 FA3B>5C64 FA3C>5C6E FA3D>6094 FA3E>6168 FA3F>618E FA40>61F2 FA41>654F FA42>65E2
    FA43>6691 FA44>6885 FA45>6D77 FA46>6E1A FA47>6F22 FA48>716E FA49>722B FA4A>7422 FA4B>7891
    FA4C>793E FA4D>7949 FA4E>7948 FA4F>7950 FA50>7956 FA51>795D FA52-FA53>798D FA54>7A40
    FA55>7A81 FA56>7BC0 FA57>7DF4 FA58>7E09 FA59>7E41 FA5A>7F72 FA5B>8005 FA5C>81ED FA5D>8279
    FA5E>8279 FA5F>8457 FA60>8910 FA61>8996 FA62>8B01 FA63>8B39 FA64>8CD3 FA65>8D08 FA66>8FB6
    FA67>9038 FA68>96E3 FA69>97FF FA6A>983B FA6B>6075 FA6C>242EE FA6D>8218 FA70>4E26 FA71>51B5
    FA72>5168 FA73>4F80 FA74>5145 FA75>5180 FA76>52C7 FA77>52FA FA78>559D FA79>5555 FA7A>5599
    FA7B>55E2 FA7C>585A FA7D>58B3 FA7E>5944 FA7F>5954 FA80>5A62 FA81>5B28 FA82>5ED2 FA83>5ED9
    FA84>5F69 FA85>5FAD FA86>60D8 FA87>614E FA88>6108 FA89>618E FA8A>6160 FA8B>61F2 FA8C>6234
    FA8D>63C4 FA8E>641C FA8F>6452 FA90>6556 FA91>6674 FA92>6717 FA93>671B FA94>6756 FA95>6B79
    FA96>6BBA FA97>6D41 FA98>6EDB FA99>6ECB FA9A>6F22 FA9B>701E FA9C>716E FA9D>77A7 FA9E>7235
    FA9F>72AF FAA0>732A FAA1>7471 FAA2>7506 FAA3>753B FAA4>761D FAA5>761F FAA6>76CA FAA7>76DB
    FAA8>76F4 FAA9>774A FAAA>7740 FAAB>78CC FAAC>7AB1 FAAD>7BC0 FAAE>7C7B FAAF>7D5B FAB0>7DF4
    FAB1>7F3E FAB2>8005 FAB3>8352 FAB4>83EF FAB5>8779 FAB6>8941 FAB7>8986 FAB8>8996 FAB9>8ABF
    FABA>8AF8 FABB>8ACB FABC>8B01 FABD>8AFE FABE>8AED FABF>8B39 FAC0>8B8A FAC1>8D08 FAC2>8F38
    FAC3>9072 FAC4>9199 FAC5>9276 FAC6>967C FAC7>96E3 FAC8>9756 FAC9>97DB FACA>97FF FACB>980B
    FACC>983B FACD>9B12 FACE>9F9C FACF>2284A FAD0>22844 FAD1>233D5 FAD2>3B9D FAD3>4018 FAD4>4039
    FAD5>25249 FAD6>25CD0 FAD7>27ED3 FAD8>9F43 FAD9>9F8E FB1D>5D9.5B4 FB1F>5F2.5B7 FB2A>5E9.5C1
    FB2B>5E9.5C2 FB2C>5E9.5BC.5C1 FB2D>5E9.5BC.5C2 FB2E>5D0.5B7 FB2F>5D0.5B8 FB30>5D0.5BC
    FB31>5D1.5BC FB32>5D2.5BC FB33>5D3.5BC FB34>5D4.5BC FB35>5D5.5BC FB36>5D6.5BC FB38>5D8.5BC
    FB39>5D9.5BC FB3A>5DA.5BC FB3B>5DB.5BC FB3C>5DC.5BC FB3E>5DE.5BC FB40>5E0.5BC FB41>5E1.5BC
    FB43>5E3.5BC FB44>5E4.5BC FB46>5E6.5BC FB47>5E7.5BC FB48>5E8.5BC FB49>5E9.5BC FB4A>5EA.5BC
    FB4B>5D5.5B9 FB4C>5D1.5BF FB4D>5DB.5BF FB4E>5E4.5BF 1D15E>1D157.1D165 1D15F>1D158.1D165
    1D160>1D158.1D165.1D16E 1D161>1D158.1D165.1D16F 1D162>1D158.1D165.1D170
    1D163>1D158.1D165.1D171 1D164>1D158.1D165.1D172 1D1BB>1D1B9.1D165 1D1BC>1D1BA.1D165
    1D1BD>1D1B9.1D165.1D16E 1D1BE>1D1BA.1D165.1D16E 1D1BF>1D1B9.1D165.1D16F
    1D1C0>1D1BA.1D165.1D16F 2F800>4E3D 2F801>4E38 2F802>4E41 2F803>20122 2F804>4F60 2F805>4FAE
    2F806>4FBB 2F807>5002 2F808>507A 2F809>5099 2F80A>50E7 2F80B>50CF 2F80C>349E 2F80D>2063A
    2F80E>514D 2F80F>5154 2F810>5164 2F811>5177 2F812>2051C 2F813>34B9 2F814>5167 2F815>518D
    2F816>2054B 2F817>5197 2F818>51A4 2F819>4ECC 2F81A>51AC 2F81B>51B5 2F81C>291DF 2F81D>51F5
    2F81E>5203 2F81F>34DF 2F820>523B 2F821>5246 2F822>5272 2F823>5277 2F824>3515 2F825>52C7
    2F826>52C9 2F827>52E4 2F828>52FA 2F829-2F82A>5305 2F82B>5317 2F82C>5349 2F82D>5351 2F82E>535A
    2F82F>5373 2F830>537D 2F831>537F 2F832>537F 2F833>537F 2F834>20A2C 2F835>7070 2F836>53CA
    2F837>53DF 2F838>20B63 2F839>53EB 2F83A>53F1 2F83B>5406 2F83C>549E 2F83D>5438 2F83E>5448
    2F83F>5468 2F840>54A2 2F841>54F6 2F842>5510 2F843>5553 2F844>5563 2F845>5584 2F846>5584
    2F847>5599 2F848>55AB 2F849>55B3 2F84A>55C2 2F84B>5716 2F84C>5606 2F84D>5717 2F84E>5651
    2F84F>5674 2F850>5207 2F851>58EE 2F852>57CE 2F853>57F4 2F854>580D 2F855>578B 2F856>5832
    2F857>5831 2F858>58AC 2F859>214E4 2F85A>58F2 2F85B>58F7 2F85C>5906 2F85D>591A 2F85E>5922
    2F85F>5962 2F860>216A8 2F861>216EA 2F862>59EC 2F863>5A1B 2F864>5A27 2F865>59D8 2F866>5A66
    2F867>36EE 2F868>36FC 2F869>5B08 2F86A>5B3E 2F86B>5B3E 2F86C>219C8 2F86D>5BC3 2F86E>5BD8
    2F86F>5BE7 2F870>5BF3 2F871>21B18 2F872>5BFF 2F873>5C06 2F874>5F53 2F875>5C22 2F876>3781
    2F877>5C60 2F878>5C6E 2F879>5CC0 2F87A>5C8D 2F87B>21DE4 2F87C>5D43 2F87D>21DE6 2F87E>5D6E
    2F87F>5D6B 2F880>5D7C 2F881-2F882>5DE1 2F883>382F 2F884>5DFD 2F885>5E28 2F886>5E3D 2F887>5E69
    2F888>3862 2F889>22183 2F88A>387C 2F88B>5EB0 2F88C>5EB3 2F88D>5EB6 2F88E>5ECA 2F88F>2A392
    2F890>5EFE 2F891>22331 2F892>22331 2F893>8201 2F894>5F22 2F895>5F22 2F896>38C7 2F897>232B8
    2F898>261DA 2F899>5F62 2F89A>5F6B 2F89B>38E3 2F89C>5F9A 2F89D>5FCD 2F89E>5FD7 2F89F>5FF9
    2F8A0>6081 2F8A1>393A 2F8A2>391C 2F8A3>6094 2F8A4>226D4 2F8A5>60C7 2F8A6>6148 2F8A7>614C
    2F8A8>614E 2F8A9>614C 2F8AA>617A 2F8AB>618E 2F8AC>61B2 2F8AD>61A4 2F8AE>61AF 2F8AF>61DE
    2F8B0>61F2 2F8B1>61F6 2F8B2>6210 2F8B3>621B 2F8B4>625D 2F8B5>62B1 2F8B6>62D4 2F8B7>6350
    2F8B8>22B0C 2F8B9>633D 2F8BA>62FC 2F8BB>6368 2F8BC>6383 2F8BD>63E4 2F8BE>22BF1 2F8BF>6422
    2F8C0>63C5 2F8C1>63A9 2F8C2>3A2E 2F8C3>6469 2F8C4>647E 2F8C5>649D 2F8C6>6477 2F8C7>3A6C
    2F8C8>654F 2F8C9>656C 2F8CA>2300A 2F8CB>65E3 2F8CC>66F8 2F8CD>6649 2F8CE>3B19 2F8CF>6691
    2F8D0>3B08 2F8D1>3AE4 2F8D2>5192 2F8D3>5195 2F8D4>6700 2F8D5>669C 2F8D6>80AD 2F8D7>43D9
    2F8D8>6717 2F8D9>671B 2F8DA>6721 2F8DB>675E 2F8DC>6753 2F8DD>233C3 2F8DE>3B49 2F8DF>67FA
    2F8E0>6785 2F8E1>6852 2F8E2>6885 2F8E3>2346D 2F8E4>688E 2F8E5>681F 2F8E6>6914 2F8E7>3B9D
    2F8E8>6942 2F8E9>69A3 2F8EA>69EA 2F8EB>6AA8 2F8EC>236A3 2F8ED>6ADB 2F8EE>3C18 2F8EF>6B21
    2F8F0>238A7 2F8F1>6B54 2F8F2>3C4E 2F8F3>6B72 2F8F4>6B9F 2F8F5-2F8F6>6BBA 2F8F7>23A8D
    2F8F8>21D0B 2F8F9>23AFA 2F8FA>6C4E 2F8FB>23CBC 2F8FC>6CBF 2F8FD>6CCD 2F8FE>6C67 2F8FF>6D16
    2F900>6D3E 2F901>6D77 2F902>6D41 2F903>6D69 2F904>6D78 2F905>6D85 2F906>23D1E 2F907>6D34
    2F908>6E2F 2F909>6E6E 2F90A>3D33 2F90B>6ECB 2F90C>6EC7 2F90D>23ED1 2F90E>6DF9 2F90F>6F6E
    2F910>23F5E 2F911>23F8E 2F912>6FC6 2F913>7039 2F914>701E 2F915>701B 2F916>3D96 2F917>704A
    2F918>707D 2F919>7077 2F91A>70AD 2F91B>20525 2F91C>7145 2F91D>24263 2F91E>719C 2F91F>243AB
    2F920>7228 2F921>7235 2F922>7250 2F923>24608 2F924>7280 2F925>7295 2F926>24735 2F927>24814
    2F928>737A 2F929>738B 2F92A>3EAC 2F92B>73A5 2F92C>3EB8 2F92D>3EB8 2F92E>7447 2F92F>745C
    2F930>7471 2F931>7485 2F932>74CA 2F933>3F1B 2F934>7524 2F935>24C36 2F936>753E 2F937>24C92
    2F938>7570 2F939>2219F 2F93A>7610 2F93B>24FA1 2F93C>24FB8 2F93D>25044 2F93E>3FFC 2F93F>4008
    2F940>76F4 2F941>250F3 2F942>250F2 2F943>25119 2F944>25133 2F945-2F946>771E 2F947>771F
    2F948>774A 2F949>4039 2F94A>778B 2F94B>4046 2F94C>4096 2F94D>2541D 2F94E>784E 2F94F>788C
    2F950>78CC 2F951>40E3 2F952>25626 2F953>7956 2F954>2569A 2F955>256C5 2F956>798F 2F957>79EB
    2F958>412F 2F959>7A40 2F95A>7A4A 2F95B>7A4F 2F95C>2597C 2F95D>25AA7 2F95E>25AA7 2F95F>7AEE
    2F960>4202 2F961>25BAB 2F962>7BC6 2F963>7BC9 2F964>4227 2F965>25C80 2F966>7CD2 2F967>42A0
    2F968>7CE8 2F969>7CE3 2F96A>7D00 2F96B>25F86 2F96C>7D63 2F96D>4301 2F96E>7DC7 2F96F>7E02
    2F970>7E45 2F971>4334 2F972>26228 2F973>26247 2F974>4359 2F975>262D9 2F976>7F7A 2F977>2633E
    2F978>7F95 2F979>7FFA 2F97A>8005 2F97B>264DA 2F97C>26523 2F97D>8060 2F97E>265A8 2F97F>8070
    2F980>2335F 2F981>43D5 2F982>80B2 2F983>8103 2F984>440B 2F985>813E 2F986>5AB5 2F987>267A7
    2F988>267B5 2F989>23393 2F98A>2339C 2F98B>8201 2F98C>8204 2F98D>8F9E 2F98E>446B 2F98F>8291
    2F990>828B 2F991>829D 2F992>52B3 2F993>82B1 2F994>82B3 2F995>82BD 2F996>82E6 2F997>26B3C
    2F998>82E5 2F999>831D 2F99A>8363 2F99B>83AD 2F99C>8323 2F99D>83BD 2F99E>83E7 2F99F>8457
    2F9A0>8353 2F9A1>83CA 2F9A2>83CC 2F9A3>83DC 2F9A4>26C36 2F9A5>26D6B 2F9A6>26CD5 2F9A7>452B
    2F9A8>84F1 2F9A9>84F3 2F9AA>8516 2F9AB>273CA 2F9AC>8564 2F9AD>26F2C 2F9AE>455D 2F9AF>4561
    2F9B0>26FB1 2F9B1>270D2 2F9B2>456B 2F9B3>8650 2F9B4>865C 2F9B5>8667 2F9B6>8669 2F9B7>86A9
    2F9B8>8688 2F9B9>870E 2F9BA>86E2 2F9BB>8779 2F9BC>8728 2F9BD>876B 2F9BE>8786 2F9BF>45D7
    2F9C0>87E1 2F9C1>8801 2F9C2>45F9 2F9C3>8860 2F9C4>8863 2F9C5>27667 2F9C6>88D7 2F9C7>88DE
    2F9C8>4635 2F9C9>88FA 2F9CA>34BB 2F9CB>278AE 2F9CC>27966 2F9CD>46BE 2F9CE>46C7 2F9CF>8AA0
    2F9D0>8AED 2F9D1>8B8A 2F9D2>8C55 2F9D3>27CA8 2F9D4>8CAB 2F9D5>8CC1 2F9D6>8D1B 2F9D7>8D77
    2F9D8>27F2F 2F9D9>20804 2F9DA>8DCB 2F9DB>8DBC 2F9DC>8DF0 2F9DD>208DE 2F9DE>8ED4 2F9DF>8F38
    2F9E0>285D2 2F9E1>285ED 2F9E2>9094 2F9E3>90F1 2F9E4>9111 2F9E5>2872E 2F9E6>911B 2F9E7>9238
    2F9E8-2F9E9>92D7 2F9EA>927C 2F9EB>93F9 2F9EC>9415 2F9ED>28BFA 2F9EE>958B 2F9EF>4995
    2F9F0>95B7 2F9F1>28D77 2F9F2>49E6 2F9F3>96C3 2F9F4>5DB2 2F9F5>9723 2F9F6>29145 2F9F7>2921A
    2F9F8>4A6E 2F9F9>4A76 2F9FA>97E0 2F9FB>2940A 2F9FC>4AB2 2F9FD>29496 2F9FE>980B 2F9FF>980B
    2FA00>9829 2FA01>295B6 2FA02>98E2 2FA03>4B33 2FA04>9929 2FA05>99A7 2FA06>99C2 2FA07>99FE
    2FA08>4BCE 2FA09>29B30 2FA0A>9B12 2FA0B>9C40 2FA0C>9CFD 2FA0D>4CCE 2FA0E>4CED 2FA0F>9D67
    2FA10>2A0CE 2FA11>4CF8 2FA12>2A105 2FA13>2A20E 2FA14>2A291 2FA15>9EBB 2FA16>4D56 2FA17>9EF9
    2FA18>9EFE 2FA19>9F05 2FA1A>9F0F 2FA1B>9F16 2FA1C>9F3B 2FA1D>2A600"

/-! ## Syllables -/

/-- The first syllable. -/
def syllableBase : Nat := 0xAC00

/-- How many syllables start with the same two letters, the open one among
them. -/
def syllableFinals : Nat := 28

/-- How many vowels follow a first letter. -/
def syllableVowels : Nat := 21

/-- How many first letters there are. -/
def syllableInitials : Nat := 19

/-- The letters of a syllable. -/
def syllableLetters? (n : Nat) : Option (List Nat) :=
  let i := n - syllableBase
  if syllableBase ≤ n ∧ i < syllableInitials * syllableVowels * syllableFinals then
    let initial := 0x1100 + i / (syllableVowels * syllableFinals)
    let vowel := 0x1161 + i / syllableFinals % syllableVowels
    let final := i % syllableFinals
    some (if final = 0 then [initial, vowel] else [initial, vowel, 0x11A7 + final])
  else none

/-- The syllable of two letters, or of an open syllable and a last letter. -/
def syllable? (a b : Nat) : Option Nat :=
  let initial := a - 0x1100
  let vowel := b - 0x1161
  let i := a - syllableBase
  if 0x1100 ≤ a ∧ initial < syllableInitials ∧ 0x1161 ≤ b ∧ vowel < syllableVowels then
    some (syllableBase + (initial * syllableVowels + vowel) * syllableFinals)
  else if syllableBase ≤ a ∧ i < syllableInitials * syllableVowels * syllableFinals ∧
      i % syllableFinals = 0 ∧ 0x11A7 < b ∧ b < 0x11A7 + syllableFinals then
    some (a + (b - 0x11A7))
  else none

/-! ## Both ways -/

/-- The character that two characters compose. -/
def compose? (a b : Char) : Option Char :=
  if b.toNat < 0x300 then none
  else ((syllable? a.toNat b.toNat).or (pairs.lookup (a.toNat, b.toNat))).map Char.ofNat

/-- The characters that a code point is written by, pairs taken apart at most
`depth` times. -/
def decompose : Nat → Nat → List Nat
  | 0, n => [n]
  | depth + 1, n =>
    match (syllableLetters? n).or (Run.lookup? n splitRuns) with
    | some parts => parts
    | none =>
      match pairs.find? (·.2 == n) with
      | some ((first, second), _) => decompose depth first ++ [second]
      | none => [n]

/-- The characters that a character is written by. No pair is nested more
than three times. -/
def parts (c : Char) : List Char :=
  if c.toNat < 0xC0 then [c] else (decompose 4 c.toNat).map Char.ofNat

end Text

end Workbench
