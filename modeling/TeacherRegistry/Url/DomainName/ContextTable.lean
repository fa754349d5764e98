import TeacherRegistry.Text.NumberTable

/-!
Data for the rules on which characters may stand beside one another in a label of a domain name.
-/

namespace TeacherRegistry.Url.DomainName

open TeacherRegistry.Text (numberTable)

/-- Combining marks, as ranges. -/
def markRanges : List (List Nat) := numberTable
  ["300,36F 483,489 591,5BD 5BF,5BF 5C1,5C2 5C4,5C5 5C7,5C7 610,61A 64B,65F 670,670 6D6,6DC",
   "6DF,6E4 6E7,6E8 6EA,6ED 711,711 730,74A 7A6,7B0 7EB,7F3 7FD,7FD 816,819 81B,823 825,827",
   "829,82D 859,85B 897,89F 8CA,903 93A,93C 93E,94F 951,957 962,963 981,983 9BC,9BC 9BE,9C4",
   "9C7,9C8 9CB,9CD 9D7,9D7 9E2,9E3 9FE,9FE A01,A03 A3C,A3C A3E,A42 A47,A48 A4B,A4D A51,A51",
   "A70,A71 A75,A75 A81,A83 ABC,ABC ABE,AC5 AC7,AC9 ACB,ACD AE2,AE3 AFA,AFF B01,B03 B3C,B3C",
   "B3E,B44 B47,B48 B4B,B4D B55,B57 B62,B63 B82,B82 BBE,BC2 BC6,BC8 BCA,BCD BD7,BD7 C00,C04",
   "C3C,C3C C3E,C44 C46,C48 C4A,C4D C55,C56 C62,C63 C81,C83 CBC,CBC CBE,CC4 CC6,CC8 CCA,CCD",
   "CD5,CD6 CE2,CE3 CF3,CF3 D00,D03 D3B,D3C D3E,D44 D46,D48 D4A,D4D D57,D57 D62,D63 D81,D83",
   "DCA,DCA DCF,DD4 DD6,DD6 DD8,DDF DF2,DF3 E31,E31 E34,E3A E47,E4E EB1,EB1 EB4,EBC EC8,ECE",
   "F18,F19 F35,F35 F37,F37 F39,F39 F3E,F3F F71,F84 F86,F87 F8D,F97 F99,FBC FC6,FC6 102B,103E",
   "1056,1059 105E,1060 1062,1064 1067,106D 1071,1074 1082,108D 108F,108F 109A,109D 135D,135F",
   "1712,1715 1732,1734 1752,1753 1772,1773 17B6,17D3 17DD,17DD 1885,1886 18A9,18A9 1920,192B",
   "1930,193B 1A17,1A1B 1A55,1A5E 1A60,1A7C 1A7F,1A7F 1AB0,1ADD 1AE0,1AEB 1B00,1B04 1B34,1B44",
   "1B6B,1B73 1B80,1B82 1BA1,1BAD 1BE6,1BF3 1C24,1C37 1CD0,1CD2 1CD4,1CE8 1CED,1CED 1CF4,1CF4",
   "1CF7,1CF9 1DC0,1DFF 20D0,20F0 2CEF,2CF1 2D7F,2D7F 2DE0,2DFF 302A,302F 3099,309A A66F,A672",
   "A674,A67D A69E,A69F A6F0,A6F1 A802,A802 A806,A806 A80B,A80B A823,A827 A82C,A82C A880,A881",
   "A8B4,A8C5 A8E0,A8F1 A8FF,A8FF A926,A92D A947,A953 A980,A983 A9B3,A9C0 A9E5,A9E5 AA29,AA36",
   "AA43,AA43 AA4C,AA4D AA7B,AA7D AAB0,AAB0 AAB2,AAB4 AAB7,AAB8 AABE,AABF AAC1,AAC1 AAEB,AAEF",
   "AAF5,AAF6 ABE3,ABEA ABEC,ABED FB1E,FB1E FE20,FE2F 101FD,101FD 102E0,102E0 10376,1037A",
   "10A01,10A03 10A05,10A06 10A0C,10A0F 10A38,10A3A 10A3F,10A3F 10AE5,10AE6 10D24,10D27",
   "10D69,10D6D 10EAB,10EAC 10EFA,10EFF 10F46,10F50 10F82,10F85 11000,11002 11038,11046",
   "11070,11070 11073,11074 1107F,11082 110B0,110BA 110C2,110C2 11100,11102 11127,11134",
   "11145,11146 11173,11173 11180,11182 111B3,111C0 111C9,111CC 111CE,111CF 1122C,11237",
   "1123E,1123E 11241,11241 112DF,112EA 11300,11303 1133B,1133C 1133E,11344 11347,11348",
   "1134B,1134D 11357,11357 11362,11363 11366,1136C 11370,11374 113B8,113C0 113C2,113C2",
   "113C5,113C5 113C7,113CA 113CC,113D0 113D2,113D2 113E1,113E2 11435,11446 1145E,1145E",
   "114B0,114C3 115AF,115B5 115B8,115C0 115DC,115DD 11630,11640 116AB,116B7 1171D,1172B",
   "1182C,1183A 11930,11935 11937,11938 1193B,1193E 11940,11940 11942,11943 119D1,119D7",
   "119DA,119E0 119E4,119E4 11A01,11A0A 11A33,11A39 11A3B,11A3E 11A47,11A47 11A51,11A5B",
   "11A8A,11A99 11B60,11B67 11C2F,11C36 11C38,11C3F 11C92,11CA7 11CA9,11CB6 11D31,11D36",
   "11D3A,11D3A 11D3C,11D3D 11D3F,11D45 11D47,11D47 11D8A,11D8E 11D90,11D91 11D93,11D97",
   "11EF3,11EF6 11F00,11F01 11F03,11F03 11F34,11F3A 11F3E,11F42 11F5A,11F5A 13440,13440",
   "13447,13455 1611E,1612F 16AF0,16AF4 16B30,16B36 16F4F,16F4F 16F51,16F87 16F8F,16F92",
   "16FE4,16FE4 16FF0,16FF1 1BC9D,1BC9E 1CF00,1CF2D 1CF30,1CF46 1D165,1D169 1D16D,1D182",
   "1D185,1D18B 1D1AA,1D1AD 1D242,1D244 1DA00,1DA36 1DA3B,1DA6C 1DA75,1DA75 1DA84,1DA84",
   "1DA9B,1DA9F 1DAA1,1DAAF 1E000,1E006 1E008,1E018 1E01B,1E021 1E023,1E024 1E026,1E02A",
   "1E08F,1E08F 1E130,1E136 1E2AE,1E2AE 1E2EC,1E2EF 1E4EC,1E4EF 1E5EE,1E5EF 1E6E3,1E6E3",
   "1E6E6,1E6E6 1E6EE,1E6EF 1E6F5,1E6F5 1E8D0,1E8D6 1E944,1E94A"]

/-- How letters join their neighbours: first, last and type. The types are 0 on both sides, 1 to the
left, 2 to the right, 3 for characters that joining passes over, and 4 for those that make others
join. -/
def joiningTypes : List (List Nat) := numberTable
  ["300,36F,3 483,489,3 591,5BD,3 5BF,5BF,3 5C1,5C2,3 5C4,5C5,3 5C7,5C7,3 610,61A,3 620,620,0",
   "622,625,2 626,626,0 627,627,2 628,628,0 629,629,2 62A,62E,0 62F,632,2 633,63F,0 640,640,4",
   "641,647,0 648,648,2 649,64A,0 64B,65F,3 66E,66F,0 670,670,3 671,673,2 679,687,0 688,699,2",
   "69A,6BF,0 6C0,6C0,2 6C1,6C2,0 6C3,6CB,2 6CC,6CC,0 6CD,6CD,2 6CE,6CE,0 6CF,6CF,2 6D0,6D1,0",
   "6D2,6D3,2 6D5,6D5,2 6D6,6DC,3 6DF,6E4,3 6E7,6E8,3 6EA,6ED,3 6EE,6EF,2 6FA,6FC,0 6FF,6FF,0",
   "710,710,2 711,711,3 712,714,0 715,719,2 71A,71D,0 71E,71E,2 71F,727,0 728,728,2 729,729,0",
   "72A,72A,2 72B,72B,0 72C,72C,2 72D,72E,0 72F,72F,2 730,74A,3 74D,74D,2 74E,758,0 759,75B,2",
   "75C,76A,0 76B,76C,2 76D,770,0 771,771,2 772,772,0 773,774,2 775,777,0 778,779,2 77A,77F,0",
   "7A6,7B0,3 7CA,7EA,0 7EB,7F3,3 7FA,7FA,4 7FD,7FD,3 816,819,3 81B,823,3 825,827,3 829,82D,3",
   "840,840,2 841,845,0 846,847,2 848,848,0 849,849,2 84A,853,0 854,854,2 855,855,0 856,858,2",
   "859,85B,3 860,860,0 862,865,0 867,867,2 868,868,0 869,86A,2 870,882,2 883,885,4 886,886,0",
   "889,88D,0 88E,88E,2 88F,88F,0 897,89F,3 8A0,8A9,0 8AA,8AC,2 8AE,8AE,2 8AF,8B0,0 8B1,8B2,2",
   "8B3,8B8,0 8B9,8B9,2 8BA,8C8,0 8CA,902,3 93A,93A,3 93C,93C,3 941,948,3 94D,94D,3 951,957,3",
   "962,963,3 981,981,3 9BC,9BC,3 9C1,9C4,3 9CD,9CD,3 9E2,9E3,3 9FE,9FE,3 A01,A02,3 A3C,A3C,3",
   "A41,A42,3 A47,A48,3 A4B,A4D,3 A51,A51,3 A70,A71,3 A75,A75,3 A81,A82,3 ABC,ABC,3 AC1,AC5,3",
   "AC7,AC8,3 ACD,ACD,3 AE2,AE3,3 AFA,AFF,3 B01,B01,3 B3C,B3C,3 B3F,B3F,3 B41,B44,3 B4D,B4D,3",
   "B55,B56,3 B62,B63,3 B82,B82,3 BC0,BC0,3 BCD,BCD,3 C00,C00,3 C04,C04,3 C3C,C3C,3 C3E,C40,3",
   "C46,C48,3 C4A,C4D,3 C55,C56,3 C62,C63,3 C81,C81,3 CBC,CBC,3 CBF,CBF,3 CC6,CC6,3 CCC,CCD,3",
   "CE2,CE3,3 D00,D01,3 D3B,D3C,3 D41,D44,3 D4D,D4D,3 D62,D63,3 D81,D81,3 DCA,DCA,3 DD2,DD4,3",
   "DD6,DD6,3 E31,E31,3 E34,E3A,3 E47,E4E,3 EB1,EB1,3 EB4,EBC,3 EC8,ECE,3 F18,F19,3 F35,F35,3",
   "F37,F37,3 F39,F39,3 F71,F7E,3 F80,F84,3 F86,F87,3 F8D,F97,3 F99,FBC,3 FC6,FC6,3",
   "102D,1030,3 1032,1037,3 1039,103A,3 103D,103E,3 1058,1059,3 105E,1060,3 1071,1074,3",
   "1082,1082,3 1085,1086,3 108D,108D,3 109D,109D,3 135D,135F,3 1712,1714,3 1732,1733,3",
   "1752,1753,3 1772,1773,3 17B7,17BD,3 17C6,17C6,3 17C9,17D3,3 17DD,17DD,3 1807,1807,0",
   "180A,180A,4 1820,1878,0 1885,1886,3 1887,18A8,0 18A9,18A9,3 18AA,18AA,0 1920,1922,3",
   "1927,1928,3 1932,1932,3 1939,193B,3 1A17,1A18,3 1A1B,1A1B,3 1A56,1A56,3 1A58,1A5E,3",
   "1A60,1A60,3 1A62,1A62,3 1A65,1A6C,3 1A73,1A7C,3 1A7F,1A7F,3 1AB0,1ADD,3 1AE0,1AEB,3",
   "1B00,1B03,3 1B34,1B34,3 1B36,1B3A,3 1B3C,1B3C,3 1B42,1B42,3 1B6B,1B73,3 1B80,1B81,3",
   "1BA2,1BA5,3 1BA8,1BA9,3 1BAB,1BAD,3 1BE6,1BE6,3 1BE8,1BE9,3 1BED,1BED,3 1BEF,1BF1,3",
   "1C2C,1C33,3 1C36,1C37,3 1CD0,1CD2,3 1CD4,1CE0,3 1CE2,1CE8,3 1CED,1CED,3 1CF4,1CF4,3",
   "1CF8,1CF9,3 1DC0,1DFF,3 200D,200D,4 20D0,20F0,3 2CEF,2CF1,3 2D7F,2D7F,3 2DE0,2DFF,3",
   "302A,302D,3 3099,309A,3 A66F,A672,3 A674,A67D,3 A69E,A69F,3 A6F0,A6F1,3 A802,A802,3",
   "A806,A806,3 A80B,A80B,3 A825,A826,3 A82C,A82C,3 A840,A871,0 A872,A872,1 A8C4,A8C5,3",
   "A8E0,A8F1,3 A8FF,A8FF,3 A926,A92D,3 A947,A951,3 A980,A982,3 A9B3,A9B3,3 A9B6,A9B9,3",
   "A9BC,A9BD,3 A9E5,A9E5,3 AA29,AA2E,3 AA31,AA32,3 AA35,AA36,3 AA43,AA43,3 AA4C,AA4C,3",
   "AA7C,AA7C,3 AAB0,AAB0,3 AAB2,AAB4,3 AAB7,AAB8,3 AABE,AABF,3 AAC1,AAC1,3 AAEC,AAED,3",
   "AAF6,AAF6,3 ABE5,ABE5,3 ABE8,ABE8,3 ABED,ABED,3 FB1E,FB1E,3 FE20,FE2F,3 101FD,101FD,3",
   "102E0,102E0,3 10376,1037A,3 10A01,10A03,3 10A05,10A06,3 10A0C,10A0F,3 10A38,10A3A,3",
   "10A3F,10A3F,3 10AC0,10AC4,0 10AC5,10AC5,2 10AC7,10AC7,2 10AC9,10ACA,2 10ACD,10ACD,1",
   "10ACE,10AD2,2 10AD3,10AD6,0 10AD7,10AD7,1 10AD8,10ADC,0 10ADD,10ADD,2 10ADE,10AE0,0",
   "10AE1,10AE1,2 10AE4,10AE4,2 10AE5,10AE6,3 10AEB,10AEE,0 10AEF,10AEF,2 10B80,10B80,0",
   "10B81,10B81,2 10B82,10B82,0 10B83,10B85,2 10B86,10B88,0 10B89,10B89,2 10B8A,10B8B,0",
   "10B8C,10B8C,2 10B8D,10B8D,0 10B8E,10B8F,2 10B90,10B90,0 10B91,10B91,2 10BA9,10BAC,2",
   "10BAD,10BAE,0 10D00,10D00,1 10D01,10D21,0 10D22,10D22,2 10D23,10D23,0 10D24,10D27,3",
   "10D69,10D6D,3 10EAB,10EAC,3 10EC2,10EC2,2 10EC3,10EC4,0 10EC6,10EC7,0 10EFA,10EFF,3",
   "10F30,10F32,0 10F33,10F33,2 10F34,10F44,0 10F46,10F50,3 10F51,10F53,0 10F54,10F54,2",
   "10F70,10F73,0 10F74,10F75,2 10F76,10F81,0 10F82,10F85,3 10FB0,10FB0,0 10FB2,10FB3,0",
   "10FB4,10FB6,2 10FB8,10FB8,0 10FB9,10FBA,2 10FBB,10FBC,0 10FBD,10FBD,2 10FBE,10FBF,0",
   "10FC1,10FC1,0 10FC2,10FC3,2 10FC4,10FC4,0 10FC9,10FC9,2 10FCA,10FCA,0 10FCB,10FCB,1",
   "11001,11001,3 11038,11046,3 11070,11070,3 11073,11074,3 1107F,11081,3 110B3,110B6,3",
   "110B9,110BA,3 110C2,110C2,3 11100,11102,3 11127,1112B,3 1112D,11134,3 11173,11173,3",
   "11180,11181,3 111B6,111BE,3 111C9,111CC,3 111CF,111CF,3 1122F,11231,3 11234,11234,3",
   "11236,11237,3 1123E,1123E,3 11241,11241,3 112DF,112DF,3 112E3,112EA,3 11300,11301,3",
   "1133B,1133C,3 11340,11340,3 11366,1136C,3 11370,11374,3 113BB,113C0,3 113CE,113CE,3",
   "113D0,113D0,3 113D2,113D2,3 113E1,113E2,3 11438,1143F,3 11442,11444,3 11446,11446,3",
   "1145E,1145E,3 114B3,114B8,3 114BA,114BA,3 114BF,114C0,3 114C2,114C3,3 115B2,115B5,3",
   "115BC,115BD,3 115BF,115C0,3 115DC,115DD,3 11633,1163A,3 1163D,1163D,3 1163F,11640,3",
   "116AB,116AB,3 116AD,116AD,3 116B0,116B5,3 116B7,116B7,3 1171D,1171D,3 1171F,1171F,3",
   "11722,11725,3 11727,1172B,3 1182F,11837,3 11839,1183A,3 1193B,1193C,3 1193E,1193E,3",
   "11943,11943,3 119D4,119D7,3 119DA,119DB,3 119E0,119E0,3 11A01,11A0A,3 11A33,11A38,3",
   "11A3B,11A3E,3 11A47,11A47,3 11A51,11A56,3 11A59,11A5B,3 11A8A,11A96,3 11A98,11A99,3",
   "11B60,11B60,3 11B62,11B64,3 11B66,11B66,3 11C30,11C36,3 11C38,11C3D,3 11C3F,11C3F,3",
   "11C92,11CA7,3 11CAA,11CB0,3 11CB2,11CB3,3 11CB5,11CB6,3 11D31,11D36,3 11D3A,11D3A,3",
   "11D3C,11D3D,3 11D3F,11D45,3 11D47,11D47,3 11D90,11D91,3 11D95,11D95,3 11D97,11D97,3",
   "11EF3,11EF4,3 11F00,11F01,3 11F36,11F3A,3 11F40,11F40,3 11F42,11F42,3 11F5A,11F5A,3",
   "13440,13440,3 13447,13455,3 1611E,16129,3 1612D,1612F,3 16AF0,16AF4,3 16B30,16B36,3",
   "16F4F,16F4F,3 16F8F,16F92,3 16FE4,16FE4,3 1BC9D,1BC9E,3 1CF00,1CF2D,3 1CF30,1CF46,3",
   "1D167,1D169,3 1D17B,1D182,3 1D185,1D18B,3 1D1AA,1D1AD,3 1D242,1D244,3 1DA00,1DA36,3",
   "1DA3B,1DA6C,3 1DA75,1DA75,3 1DA84,1DA84,3 1DA9B,1DA9F,3 1DAA1,1DAAF,3 1E000,1E006,3",
   "1E008,1E018,3 1E01B,1E021,3 1E023,1E024,3 1E026,1E02A,3 1E08F,1E08F,3 1E130,1E136,3",
   "1E2AE,1E2AE,3 1E2EC,1E2EF,3 1E4EC,1E4EF,3 1E5EE,1E5EF,3 1E6E3,1E6E3,3 1E6E6,1E6E6,3",
   "1E6EE,1E6EF,3 1E6F5,1E6F5,3 1E8D0,1E8D6,3 1E922,1E943,0 1E944,1E94B,3"]

/-- Directions other than left to right: first, last and class. The classes are 1 for right to left,
2 for Arabic letters, 3 for Arabic and 4 for European numbers, 5 to 7 for separators and terminators
of numbers, 8 for neutral characters, 9 for those without direction and 10 for marks. -/
def directions : List (List Nat) := numberTable
  ["0,8,9 9,9,B A,A,B B,B,B C,C,B D,D,B E,1B,9 1C,1E,B 1F,1F,B 20,20,B 21,22,8 23,25,7",
   "26,2A,8 2B,2B,5 2C,2C,6 2D,2D,5 2E,2F,6 30,39,4 3A,3A,6 3B,60,8 7B,7E,8 7F,7F,9 A1,A1,8",
   "A2,A5,7 A6,AE,8 B0,B1,7 B6,D7,8 F7,F7,8 2B9,2BA,8 2C2,2CF,8 2D2,2ED,8 2EF,2FF,8 300,36F,A",
   "375,375,8 3F6,3F6,8 483,489,A 58A,58A,8 58D,58E,8 58F,58F,7 591,5BD,A 5BE,5BE,1 5BF,5BF,A",
   "5C0,5C0,1 5C1,5C2,A 5C3,5C3,1 5C4,5C5,A 5C6,5C6,1 5C7,5C7,A 5D0,5EA,1 5EF,5F4,1 606,607,8",
   "608,608,2 609,60A,7 60B,60B,2 60C,60C,6 60D,60D,2 60E,60F,8 610,61A,A 61B,64A,2 64B,65F,A",
   "660,669,3 66A,66A,7 66B,66C,3 66D,66F,2 670,670,A 671,6D5,2 6D6,6DC,A 6DE,6DE,8 6DF,6E4,A",
   "6E5,6E6,2 6E7,6E8,A 6E9,6E9,8 6EA,6ED,A 6EE,6EF,2 6F0,6F9,4 6FA,70D,2 710,710,2 711,711,A",
   "712,72F,2 730,74A,A 74D,7A5,2 7A6,7B0,A 7B1,7B1,2 7C0,7EA,1 7EB,7F3,A 7F4,7F5,1 7F6,7F9,8",
   "7FA,7FA,1 7FD,7FD,A 7FE,815,1 816,819,A 81A,81A,1 81B,823,A 824,824,1 825,827,A 828,828,1",
   "829,82D,A 830,83E,1 840,858,1 859,85B,A 85E,85E,1 860,86A,2 870,88F,2 897,89F,A 8A0,8C9,2",
   "8CA,902,A 93A,93A,A 93C,93C,A 941,948,A 94D,94D,A 951,957,A 962,963,A 981,981,A 9BC,9BC,A",
   "9C1,9C4,A 9CD,9CD,A 9E2,9E3,A 9F2,9F3,7 9FB,9FB,7 9FE,9FE,A A01,A02,A A3C,A3C,A A41,A42,A",
   "A47,A48,A A4B,A4D,A A51,A51,A A70,A71,A A75,A75,A A81,A82,A ABC,ABC,A AC1,AC5,A AC7,AC8,A",
   "ACD,ACD,A AE2,AE3,A AF1,AF1,7 AFA,AFF,A B01,B01,A B3C,B3C,A B3F,B3F,A B41,B44,A B4D,B4D,A",
   "B55,B56,A B62,B63,A B82,B82,A BC0,BC0,A BCD,BCD,A BF3,BF8,8 BF9,BF9,7 BFA,BFA,8 C00,C00,A",
   "C04,C04,A C3C,C3C,A C3E,C40,A C46,C48,A C4A,C4D,A C55,C56,A C62,C63,A C78,C7E,8 C81,C81,A",
   "CBC,CBC,A CCC,CCD,A CE2,CE3,A D00,D01,A D3B,D3C,A D41,D44,A D4D,D4D,A D62,D63,A D81,D81,A",
   "DCA,DCA,A DD2,DD4,A DD6,DD6,A E31,E31,A E34,E3A,A E3F,E3F,7 E47,E4E,A EB1,EB1,A EB4,EBC,A",
   "EC8,ECE,A F18,F19,A F35,F35,A F37,F37,A F39,F39,A F3A,F3D,8 F71,F7E,A F80,F84,A F86,F87,A",
   "F8D,F97,A F99,FBC,A FC6,FC6,A 102D,1030,A 1032,1037,A 1039,103A,A 103D,103E,A 1058,1059,A",
   "105E,1060,A 1071,1074,A 1082,1082,A 1085,1086,A 108D,108D,A 109D,109D,A 135D,135F,A",
   "1390,1399,8 1400,1400,8 169B,169C,8 1712,1714,A 1732,1733,A 1752,1753,A 1772,1773,A",
   "17B7,17BD,A 17C6,17C6,A 17C9,17D3,A 17DB,17DB,7 17DD,17DD,A 17F0,17F9,8 1800,180A,8",
   "1885,1886,A 18A9,18A9,A 1920,1922,A 1927,1928,A 1932,1932,A 1939,193B,A 1940,1940,8",
   "1944,1945,8 19DE,19FF,8 1A17,1A18,A 1A1B,1A1B,A 1A56,1A56,A 1A58,1A5E,A 1A60,1A60,A",
   "1A62,1A62,A 1A65,1A6C,A 1A73,1A7C,A 1A7F,1A7F,A 1AB0,1ADD,A 1AE0,1AEB,A 1B00,1B03,A",
   "1B34,1B34,A 1B36,1B3A,A 1B3C,1B3C,A 1B42,1B42,A 1B6B,1B73,A 1B80,1B81,A 1BA2,1BA5,A",
   "1BA8,1BA9,A 1BAB,1BAD,A 1BE6,1BE6,A 1BE8,1BE9,A 1BED,1BED,A 1BEF,1BF1,A 1C2C,1C33,A",
   "1C36,1C37,A 1CD0,1CD2,A 1CD4,1CE0,A 1CE2,1CE8,A 1CED,1CED,A 1CF4,1CF4,A 1CF8,1CF9,A",
   "1DC0,1DFF,A 200C,200D,9 2010,2027,8 2030,2032,7 2035,2043,8 2044,2044,6 2045,205E,8",
   "20A0,20C1,7 20D0,20F0,A 2104,2129,8 212E,212E,7 213A,214D,8 218A,218B,8 2190,2211,8",
   "2212,2212,5 2213,2213,7 2214,2335,8 237B,2394,8 2396,2429,8 2440,244A,8 24EB,26AB,8",
   "26AD,27FF,8 2900,2B73,8 2B76,2BFF,8 2CE5,2CEA,8 2CEF,2CF1,A 2CF9,2CFF,8 2D7F,2D7F,A",
   "2DE0,2DFF,A 2E00,2E5D,8 2E80,2E99,8 2E9B,2EF2,8 3001,3004,8 3008,3020,8 302A,302D,A",
   "3030,3030,8 3037,3037,8 303D,303F,8 3099,309A,A 30A0,30A0,8 30FB,30FB,8 31C0,31E5,8",
   "4DC0,4DFF,8 A490,A4C6,8 A60D,A60F,8 A66F,A672,A A673,A673,8 A674,A67D,A A67E,A67F,8",
   "A69E,A69F,A A6F0,A6F1,A A700,A721,8 A788,A788,8 A802,A802,A A806,A806,A A80B,A80B,A",
   "A825,A826,A A828,A82B,8 A82C,A82C,A A838,A839,7 A874,A877,8 A8C4,A8C5,A A8E0,A8F1,A",
   "A8FF,A8FF,A A926,A92D,A A947,A951,A A980,A982,A A9B3,A9B3,A A9B6,A9B9,A A9BC,A9BD,A",
   "A9E5,A9E5,A AA29,AA2E,A AA31,AA32,A AA35,AA36,A AA43,AA43,A AA4C,AA4C,A AA7C,AA7C,A",
   "AAB0,AAB0,A AAB2,AAB4,A AAB7,AAB8,A AABE,AABF,A AAC1,AAC1,A AAEC,AAED,A AAF6,AAF6,A",
   "AB6A,AB6B,8 ABE5,ABE5,A ABE8,ABE8,A ABED,ABED,A FB1E,FB1E,A FBB2,FBC2,2 FBC3,FDFF,8",
   "FE20,FE2F,A FE45,FE46,8 FE73,FE73,2 10101,10101,8 10140,1018C,8 10190,1019C,8",
   "101A0,101A0,8 101FD,101FD,A 102E0,102E0,A 102E1,102FB,4 10376,1037A,A 10800,10805,1",
   "10808,10808,1 1080A,10835,1 10837,10838,1 1083C,1083C,1 1083F,10855,1 10857,1089E,1",
   "108A7,108AF,1 108E0,108F2,1 108F4,108F5,1 108FB,1091B,1 1091F,1091F,8 10920,10939,1",
   "1093F,10959,1 10980,109B7,1 109BC,109CF,1 109D2,10A00,1 10A01,10A03,A 10A05,10A06,A",
   "10A0C,10A0F,A 10A10,10A13,1 10A15,10A17,1 10A19,10A35,1 10A38,10A3A,A 10A3F,10A3F,A",
   "10A40,10A48,1 10A50,10A58,1 10A60,10A9F,1 10AC0,10AE4,1 10AE5,10AE6,A 10AEB,10AF6,1",
   "10B00,10B35,1 10B39,10B3F,8 10B40,10B55,1 10B58,10B72,1 10B78,10B91,1 10B99,10B9C,1",
   "10BA9,10BAF,1 10C00,10C48,1 10CC0,10CF2,1 10CFA,10CFF,1 10D00,10D23,2 10D24,10D27,A",
   "10D30,10D39,3 10D40,10D4F,1 10D69,10D6D,A 10D6E,10D6E,8 10D6F,10D85,1 10D8E,10D8F,1",
   "10E60,10E7E,3 10E80,10EA9,1 10EAB,10EAC,A 10EAD,10EAD,1 10EB0,10EB1,1 10EC2,10EC7,2",
   "10ED0,10ED8,8 10EFA,10EFF,A 10F00,10F27,1 10F30,10F45,2 10F46,10F50,A 10F51,10F59,2",
   "10F70,10F81,1 10F82,10F85,A 10F86,10F89,1 10FB0,10FCB,1 10FE0,10FF6,1 11001,11001,A",
   "11038,11046,A 11052,11065,8 11070,11070,A 11073,11074,A 1107F,11081,A 110B3,110B6,A",
   "110B9,110BA,A 110C2,110C2,A 11100,11102,A 11127,1112B,A 1112D,11134,A 11173,11173,A",
   "11180,11181,A 111B6,111BE,A 111C9,111CC,A 111CF,111CF,A 1122F,11231,A 11234,11234,A",
   "11236,11237,A 1123E,1123E,A 11241,11241,A 112DF,112DF,A 112E3,112EA,A 11300,11301,A",
   "1133B,1133C,A 11340,11340,A 11366,1136C,A 11370,11374,A 113BB,113C0,A 113CE,113CE,A",
   "113D0,113D0,A 113D2,113D2,A 113E1,113E2,A 11438,1143F,A 11442,11444,A 11446,11446,A",
   "1145E,1145E,A 114B3,114B8,A 114BA,114BA,A 114BF,114C0,A 114C2,114C3,A 115B2,115B5,A",
   "115BC,115BD,A 115BF,115C0,A 115DC,115DD,A 11633,1163A,A 1163D,1163D,A 1163F,11640,A",
   "11660,1166C,8 116AB,116AB,A 116AD,116AD,A 116B0,116B5,A 116B7,116B7,A 1171D,1171D,A",
   "1171F,1171F,A 11722,11725,A 11727,1172B,A 1182F,11837,A 11839,1183A,A 1193B,1193C,A",
   "1193E,1193E,A 11943,11943,A 119D4,119D7,A 119DA,119DB,A 119E0,119E0,A 11A01,11A06,A",
   "11A09,11A0A,A 11A33,11A38,A 11A3B,11A3E,A 11A47,11A47,A 11A51,11A56,A 11A59,11A5B,A",
   "11A8A,11A96,A 11A98,11A99,A 11B60,11B60,A 11B62,11B64,A 11B66,11B66,A 11C30,11C36,A",
   "11C38,11C3D,A 11C92,11CA7,A 11CAA,11CB0,A 11CB2,11CB3,A 11CB5,11CB6,A 11D31,11D36,A",
   "11D3A,11D3A,A 11D3C,11D3D,A 11D3F,11D45,A 11D47,11D47,A 11D90,11D91,A 11D95,11D95,A",
   "11D97,11D97,A 11EF3,11EF4,A 11F00,11F01,A 11F36,11F3A,A 11F40,11F40,A 11F42,11F42,A",
   "11F5A,11F5A,A 11FD5,11FDC,8 11FDD,11FE0,7 11FE1,11FF1,8 13440,13440,A 13447,13455,A",
   "1611E,16129,A 1612D,1612F,A 16AF0,16AF4,A 16B30,16B36,A 16F4F,16F4F,A 16F8F,16F92,A",
   "16FE2,16FE2,8 16FE4,16FE4,A 1BC9D,1BC9E,A 1CC00,1CCFC,8 1CD00,1CEB3,8 1CEBA,1CED0,8",
   "1CEE0,1CEF0,8 1CF00,1CF2D,A 1CF30,1CF46,A 1D167,1D169,A 1D17B,1D182,A 1D185,1D18B,A",
   "1D1AA,1D1AD,A 1D1E9,1D1EA,8 1D200,1D241,8 1D242,1D244,A 1D245,1D245,8 1D300,1D356,8",
   "1DA00,1DA36,A 1DA3B,1DA6C,A 1DA75,1DA75,A 1DA84,1DA84,A 1DA9B,1DA9F,A 1DAA1,1DAAF,A",
   "1E000,1E006,A 1E008,1E018,A 1E01B,1E021,A 1E023,1E024,A 1E026,1E02A,A 1E08F,1E08F,A",
   "1E130,1E136,A 1E2AE,1E2AE,A 1E2EC,1E2EF,A 1E2FF,1E2FF,7 1E4EC,1E4EF,A 1E5EE,1E5EF,A",
   "1E6E3,1E6E3,A 1E6E6,1E6E6,A 1E6EE,1E6EF,A 1E6F5,1E6F5,A 1E800,1E8C4,1 1E8C7,1E8CF,1",
   "1E8D0,1E8D6,A 1E922,1E943,1 1E944,1E94A,A 1E94B,1E94B,1 1E950,1E959,1 1E95E,1E95F,1",
   "1EC71,1ECB4,2 1ED01,1ED3D,2 1EEF0,1EEF1,8 1F000,1F02B,8 1F030,1F093,8 1F0A0,1F0AE,8",
   "1F0B1,1F0BF,8 1F0C1,1F0CF,8 1F0D1,1F0F5,8 1F10B,1F12F,8 1F16D,1F16F,8 1F1AD,1F1AD,8",
   "1F260,1F265,8 1F300,1F6D8,8 1F6DC,1F6EC,8 1F6F0,1F6FC,8 1F700,1F7D9,8 1F7E0,1F7EB,8",
   "1F7F0,1F7F0,8 1F800,1F80B,8 1F810,1F847,8 1F850,1F859,8 1F860,1F887,8 1F890,1F8AD,8",
   "1F8B0,1F8BB,8 1F8C0,1F8C1,8 1F8D0,1F8D8,8 1F900,1FA57,8 1FA60,1FA6D,8 1FA70,1FA7C,8",
   "1FA80,1FA8A,8 1FA8E,1FAC6,8 1FAC8,1FAC8,8 1FACD,1FADC,8 1FADF,1FAEA,8 1FAEF,1FAF8,8",
   "1FB00,1FB92,8 1FB94,1FBFA,8"]

end TeacherRegistry.Url.DomainName
