import WorkloadLogin.Text.Runs

/-! # Composed characters

A letter with marks can be one character or several. In the composed form of a text the marks on a
letter stand in the order of their classes, and every letter is one character with as many of its
marks as there is a character for. -/
namespace WorkloadLogin.Text

/-- Marks of one class keep their order, those of different ones have none. -/
def classRuns : List Run := runs
   "300-314:E6 315:E8 316-319:DC 31A:E8 31B:D8 31C-320:DC 321-322:CA 323-326:DC 327-328:CA
    329-333:DC 334-338:1 339-33C:DC 33D-344:E6 345:F0 346:E6 347-349:DC 34A-34C:E6 34D-34E:DC
    350-352:E6 353-356:DC 357:E6 358:E8 359-35A:DC 35B:E6 35C:E9 35D-35E:EA 35F:E9 360-361:EA
    362:E9 363-36F:E6 483-487:E6 591:DC 592-595:E6 596:DC 597-599:E6 59A:DE 59B:DC 59C-5A1:E6
    5A2-5A7:DC 5A8-5A9:E6 5AA:DC 5AB-5AC:E6 5AD:DE 5AE:E4 5AF:E6 5B0:A 5B1:B 5B2:C 5B3:D 5B4:E
    5B5:F 5B6:10 5B7:11 5B8:12 5B9-5BA:13 5BB:14 5BC:15 5BD:16 5BF:17 5C1:18 5C2:19 5C4:E6 5C5:DC
    5C7:12 610-617:E6 618:1E 619:1F 61A:20 64B:1B 64C:1C 64D:1D 64E:1E 64F:1F 650:20 651:21
    652:22 653-654:E6 655-656:DC 657-65B:E6 65C:DC 65D-65E:E6 65F:DC 670:23 6D6-6DC:E6 6DF-6E2:E6
    6E3:DC 6E4:E6 6E7-6E8:E6 6EA:DC 6EB-6EC:E6 6ED:DC 711:24 730:E6 731:DC 732-733:E6 734:DC
    735-736:E6 737-739:DC 73A:E6 73B-73C:DC 73D:E6 73E:DC 73F-741:E6 742:DC 743:E6 744:DC 745:E6
    746:DC 747:E6 748:DC 749-74A:E6 7EB-7F1:E6 7F2:DC 7F3:E6 7FD:DC 816-819:E6 81B-823:E6
    825-827:E6 829-82D:E6 859-85B:DC 897-898:E6 899-89B:DC 89C-89F:E6 8CA-8CE:E6 8CF-8D3:DC
    8D4-8E1:E6 8E3:DC 8E4-8E5:E6 8E6:DC 8E7-8E8:E6 8E9:DC 8EA-8EC:E6 8ED-8EF:DC 8F0:1B 8F1:1C
    8F2:1D 8F3-8F5:E6 8F6:DC 8F7-8F8:E6 8F9-8FA:DC 8FB-8FF:E6 93C:7 94D:9 951:E6 952:DC
    953-954:E6 9BC:7 9CD:9 9FE:E6 A3C:7 A4D:9 ABC:7 ACD:9 B3C:7 B4D:9 BCD:9 C3C:7 C4D:9 C55:54
    C56:5B CBC:7 CCD:9 D3B-D3C:9 D4D:9 DCA:9 E38-E39:67 E3A:9 E48-E4B:6B EB8-EB9:76 EBA:9
    EC8-ECB:7A F18-F19:DC F35:DC F37:DC F39:D8 F71:81 F72:82 F74:84 F7A-F7D:82 F80:82 F82-F83:E6
    F84:9 F86-F87:E6 FC6:DC 1037:7 1039-103A:9 108D:DC 135D-135F:E6 1714-1715:9 1734:9 17D2:9
    17DD:E6 18A9:E4 1939:DE 193A:E6 193B:DC 1A17:E6 1A18:DC 1A60:9 1A75-1A7C:E6 1A7F:DC
    1AB0-1AB4:E6 1AB5-1ABA:DC 1ABB-1ABC:E6 1ABD:DC 1ABF-1AC0:DC 1AC1-1AC2:E6 1AC3-1AC4:DC
    1AC5-1AC9:E6 1ACA:DC 1ACB-1ADC:E6 1ADD:DC 1AE0-1AE5:E6 1AE6:DC 1AE7-1AEA:E6 1AEB:EA 1B34:7
    1B44:9 1B6B:E6 1B6C:DC 1B6D-1B73:E6 1BAA-1BAB:9 1BE6:7 1BF2-1BF3:9 1C37:7 1CD0-1CD2:E6 1CD4:1
    1CD5-1CD9:DC 1CDA-1CDB:E6 1CDC-1CDF:DC 1CE0:E6 1CE2-1CE8:1 1CED:DC 1CF4:E6 1CF8-1CF9:E6
    1DC0-1DC1:E6 1DC2:DC 1DC3-1DC9:E6 1DCA:DC 1DCB-1DCC:E6 1DCD:EA 1DCE:D6 1DCF:DC 1DD0:CA
    1DD1-1DF5:E6 1DF6:E8 1DF7-1DF8:E4 1DF9:DC 1DFA:DA 1DFB:E6 1DFC:E9 1DFD:DC 1DFE:E6 1DFF:DC
    20D0-20D1:E6 20D2-20D3:1 20D4-20D7:E6 20D8-20DA:1 20DB-20DC:E6 20E1:E6 20E5-20E6:1 20E7:E6
    20E8:DC 20E9:E6 20EA-20EB:1 20EC-20EF:DC 20F0:E6 2CEF-2CF1:E6 2D7F:9 2DE0-2DFF:E6 302A:DA
    302B:E4 302C:E8 302D:DE 302E-302F:E0 3099-309A:8 A66F:E6 A674-A67D:E6 A69E-A69F:E6
    A6F0-A6F1:E6 A806:9 A82C:9 A8C4:9 A8E0-A8F1:E6 A92B-A92D:DC A953:9 A9B3:7 A9C0:9 AAB0:E6
    AAB2-AAB3:E6 AAB4:DC AAB7-AAB8:E6 AABE-AABF:E6 AAC1:E6 AAF6:9 ABED:9 FB1E:1A FE20-FE26:E6
    FE27-FE2D:DC FE2E-FE2F:E6 101FD:DC 102E0:DC 10376-1037A:E6 10A0D:DC 10A0F:E6 10A38:E6 10A39:1
    10A3A:DC 10A3F:9 10AE5:E6 10AE6:DC 10D24-10D27:E6 10D69-10D6D:E6 10EAB-10EAC:E6
    10EFA-10EFB:DC 10EFD-10EFF:DC 10F46-10F47:DC 10F48-10F4A:E6 10F4B:DC 10F4C:E6 10F4D-10F50:DC
    10F82:E6 10F83:DC 10F84:E6 10F85:DC 11046:9 11070:9 1107F:9 110B9:9 110BA:7 11100-11102:E6
    11133-11134:9 11173:7 111C0:9 111CA:7 11235:9 11236:7 112E9:7 112EA:9 1133B-1133C:7 1134D:9
    11366-1136C:E6 11370-11374:E6 113CE-113D0:9 11442:9 11446:7 1145E:E6 114C2:9 114C3:7 115BF:9
    115C0:7 1163F:9 116B6:9 116B7:7 1172B:9 11839:9 1183A:7 1193D-1193E:9 11943:7 119E0:9 11A34:9
    11A47:9 11A99:9 11C3F:9 11D42:7 11D44-11D45:9 11D97:9 11F41-11F42:9 1612F:9 16AF0-16AF4:1
    16B30-16B36:E6 16FF0-16FF1:6 1BC9E:1 1D165-1D166:D8 1D167-1D169:1 1D16D:E2 1D16E-1D172:D8
    1D17B-1D182:DC 1D185-1D189:E6 1D18A-1D18B:DC 1D1AA-1D1AD:E6 1D242-1D244:E6 1E000-1E006:E6
    1E008-1E018:E6 1E01B-1E021:E6 1E023-1E024:E6 1E026-1E02A:E6 1E08F:E6 1E130-1E136:E6 1E2AE:E6
    1E2EC-1E2EF:E6 1E4EC-1E4ED:E8 1E4EE:DC 1E4EF:E6 1E5EE:E6 1E5EF:DC 1E6E3:E6 1E6E6:E6
    1E6EE-1E6EF:E6 1E6F5:E6 1E8D0-1E8D6:DC 1E944-1E949:E6 1E94A:7"

/-- The class of a mark; zero for what no mark can pass. -/
def combiningClass (c : Char) : Nat := ((noteOf? classRuns c).bind hexNumber?).getD 0

/-- Characters that stand on another one. -/
def markRuns : List Run := runs
   "300-36F 483-489 591-5BD 5BF 5C1-5C2 5C4-5C5 5C7 610-61A 64B-65F 670 6D6-6DC 6DF-6E4 6E7-6E8
    6EA-6ED 711 730-74A 7A6-7B0 7EB-7F3 7FD 816-819 81B-823 825-827 829-82D 859-85B 897-89F
    8CA-8E1 8E3-903 93A-93C 93E-94F 951-957 962-963 981-983 9BC 9BE-9C4 9C7-9C8 9CB-9CD 9D7
    9E2-9E3 9FE A01-A03 A3C A3E-A42 A47-A48 A4B-A4D A51 A70-A71 A75 A81-A83 ABC ABE-AC5 AC7-AC9
    ACB-ACD AE2-AE3 AFA-AFF B01-B03 B3C B3E-B44 B47-B48 B4B-B4D B55-B57 B62-B63 B82 BBE-BC2
    BC6-BC8 BCA-BCD BD7 C00-C04 C3C C3E-C44 C46-C48 C4A-C4D C55-C56 C62-C63 C81-C83 CBC CBE-CC4
    CC6-CC8 CCA-CCD CD5-CD6 CE2-CE3 CF3 D00-D03 D3B-D3C D3E-D44 D46-D48 D4A-D4D D57 D62-D63
    D81-D83 DCA DCF-DD4 DD6 DD8-DDF DF2-DF3 E31 E34-E3A E47-E4E EB1 EB4-EBC EC8-ECE F18-F19 F35
    F37 F39 F3E-F3F F71-F84 F86-F87 F8D-F97 F99-FBC FC6 102B-103E 1056-1059 105E-1060 1062-1064
    1067-106D 1071-1074 1082-108D 108F 109A-109D 135D-135F 1712-1715 1732-1734 1752-1753
    1772-1773 17B4-17D3 17DD 180B-180D 180F 1885-1886 18A9 1920-192B 1930-193B 1A17-1A1B
    1A55-1A5E 1A60-1A7C 1A7F 1AB0-1ADD 1AE0-1AEB 1B00-1B04 1B34-1B44 1B6B-1B73 1B80-1B82
    1BA1-1BAD 1BE6-1BF3 1C24-1C37 1CD0-1CD2 1CD4-1CE8 1CED 1CF4 1CF7-1CF9 1DC0-1DFF 20D0-20F0
    2CEF-2CF1 2D7F 2DE0-2DFF 302A-302F 3099-309A A66F-A672 A674-A67D A69E-A69F A6F0-A6F1 A802
    A806 A80B A823-A827 A82C A880-A881 A8B4-A8C5 A8E0-A8F1 A8FF A926-A92D A947-A953 A980-A983
    A9B3-A9C0 A9E5 AA29-AA36 AA43 AA4C-AA4D AA7B-AA7D AAB0 AAB2-AAB4 AAB7-AAB8 AABE-AABF AAC1
    AAEB-AAEF AAF5-AAF6 ABE3-ABEA ABEC-ABED FB1E FE00-FE0F FE20-FE2F 101FD 102E0 10376-1037A
    10A01-10A03 10A05-10A06 10A0C-10A0F 10A38-10A3A 10A3F 10AE5-10AE6 10D24-10D27 10D69-10D6D
    10EAB-10EAC 10EFA-10EFF 10F46-10F50 10F82-10F85 11000-11002 11038-11046 11070 11073-11074
    1107F-11082 110B0-110BA 110C2 11100-11102 11127-11134 11145-11146 11173 11180-11182
    111B3-111C0 111C9-111CC 111CE-111CF 1122C-11237 1123E 11241 112DF-112EA 11300-11303
    1133B-1133C 1133E-11344 11347-11348 1134B-1134D 11357 11362-11363 11366-1136C 11370-11374
    113B8-113C0 113C2 113C5 113C7-113CA 113CC-113D0 113D2 113E1-113E2 11435-11446 1145E
    114B0-114C3 115AF-115B5 115B8-115C0 115DC-115DD 11630-11640 116AB-116B7 1171D-1172B
    1182C-1183A 11930-11935 11937-11938 1193B-1193E 11940 11942-11943 119D1-119D7 119DA-119E0
    119E4 11A01-11A0A 11A33-11A39 11A3B-11A3E 11A47 11A51-11A5B 11A8A-11A99 11B60-11B67
    11C2F-11C36 11C38-11C3F 11C92-11CA7 11CA9-11CB6 11D31-11D36 11D3A 11D3C-11D3D 11D3F-11D45
    11D47 11D8A-11D8E 11D90-11D91 11D93-11D97 11EF3-11EF6 11F00-11F01 11F03 11F34-11F3A
    11F3E-11F42 11F5A 13440 13447-13455 1611E-1612F 16AF0-16AF4 16B30-16B36 16F4F 16F51-16F87
    16F8F-16F92 16FE4 16FF0-16FF1 1BC9D-1BC9E 1CF00-1CF2D 1CF30-1CF46 1D165-1D169 1D16D-1D172
    1D17B-1D182 1D185-1D18B 1D1AA-1D1AD 1D242-1D244 1DA00-1DA36 1DA3B-1DA6C 1DA75 1DA84
    1DA9B-1DA9F 1DAA1-1DAAF 1E000-1E006 1E008-1E018 1E01B-1E021 1E023-1E024 1E026-1E02A 1E08F
    1E130-1E136 1E2AE 1E2EC-1E2EF 1E4EC-1E4EF 1E5EE-1E5EF 1E6E3 1E6E6 1E6EE-1E6EF 1E6F5
    1E8D0-1E8D6 1E944-1E94A E0100-E01EF"

def isMark (c : Char) : Bool := (noteOf? markRuns c).isSome

/-- For each second part the first parts, each with the character that the two make up. -/
def pairRuns : List Run := runs
   "300:41.C0,45.C8,49.CC,4E.1F8,4F.D2,55.D9,57.1E80,59.1EF2,61.E0,65.E8,69.EC,6E.1F9
    300:6F.F2,75.F9,77.1E81,79.1EF3,A8.1FED,C2.1EA6,CA.1EC0,D4.1ED2,DC.1DB,E2.1EA7
    300:EA.1EC1,F4.1ED3,FC.1DC,102.1EB0,103.1EB1,112.1E14,113.1E15,14C.1E50,14D.1E51
    300:1A0.1EDC,1A1.1EDD,1AF.1EEA,1B0.1EEB,391.1FBA,395.1FC8,397.1FCA,399.1FDA,39F.1FF8
    300:3A5.1FEA,3A9.1FFA,3B1.1F70,3B5.1F72,3B7.1F74,3B9.1F76,3BF.1F78,3C5.1F7A,3C9.1F7C
    300:3CA.1FD2,3CB.1FE2,415.400,418.40D,435.450,438.45D,1F00.1F02,1F01.1F03,1F08.1F0A
    300:1F09.1F0B,1F10.1F12,1F11.1F13,1F18.1F1A,1F19.1F1B,1F20.1F22,1F21.1F23,1F28.1F2A
    300:1F29.1F2B,1F30.1F32,1F31.1F33,1F38.1F3A,1F39.1F3B,1F40.1F42,1F41.1F43,1F48.1F4A
    300:1F49.1F4B,1F50.1F52,1F51.1F53,1F59.1F5B,1F60.1F62,1F61.1F63,1F68.1F6A,1F69.1F6B
    300:1FBF.1FCD,1FFE.1FDD
    301:41.C1,43.106,45.C9,47.1F4,49.CD,4B.1E30,4C.139,4D.1E3E,4E.143,4F.D3,50.1E54
    301:52.154,53.15A,55.DA,57.1E82,59.DD,5A.179,61.E1,63.107,65.E9,67.1F5,69.ED,6B.1E31
    301:6C.13A,6D.1E3F,6E.144,6F.F3,70.1E55,72.155,73.15B,75.FA,77.1E83,79.FD,7A.17A
    301:A8.385,C2.1EA4,C5.1FA,C6.1FC,C7.1E08,CA.1EBE,CF.1E2E,D4.1ED0,D5.1E4C,D8.1FE
    301:DC.1D7,E2.1EA5,E5.1FB,E6.1FD,E7.1E09,EA.1EBF,EF.1E2F,F4.1ED1,F5.1E4D,F8.1FF
    301:FC.1D8,102.1EAE,103.1EAF,112.1E16,113.1E17,14C.1E52,14D.1E53,168.1E78,169.1E79
    301:1A0.1EDA,1A1.1EDB,1AF.1EE8,1B0.1EE9,391.386,395.388,397.389,399.38A,39F.38C
    301:3A5.38E,3A9.38F,3B1.3AC,3B5.3AD,3B7.3AE,3B9.3AF,3BF.3CC,3C5.3CD,3C9.3CE,3CA.390
    301:3CB.3B0,3D2.3D3,413.403,41A.40C,433.453,43A.45C,1F00.1F04,1F01.1F05,1F08.1F0C
    301:1F09.1F0D,1F10.1F14,1F11.1F15,1F18.1F1C,1F19.1F1D,1F20.1F24,1F21.1F25,1F28.1F2C
    301:1F29.1F2D,1F30.1F34,1F31.1F35,1F38.1F3C,1F39.1F3D,1F40.1F44,1F41.1F45,1F48.1F4C
    301:1F49.1F4D,1F50.1F54,1F51.1F55,1F59.1F5D,1F60.1F64,1F61.1F65,1F68.1F6C,1F69.1F6D
    301:1FBF.1FCE,1FFE.1FDE
    302:41.C2,43.108,45.CA,47.11C,48.124,49.CE,4A.134,4F.D4,53.15C,55.DB,57.174,59.176
    302:5A.1E90,61.E2,63.109,65.EA,67.11D,68.125,69.EE,6A.135,6F.F4,73.15D,75.FB,77.175
    302:79.177,7A.1E91,1EA0.1EAC,1EA1.1EAD,1EB8.1EC6,1EB9.1EC7,1ECC.1ED8,1ECD.1ED9
    303:41.C3,45.1EBC,49.128,4E.D1,4F.D5,55.168,56.1E7C,59.1EF8,61.E3,65.1EBD,69.129
    303:6E.F1,6F.F5,75.169,76.1E7D,79.1EF9,C2.1EAA,CA.1EC4,D4.1ED6,E2.1EAB,EA.1EC5
    303:F4.1ED7,102.1EB4,103.1EB5,1A0.1EE0,1A1.1EE1,1AF.1EEE,1B0.1EEF
    304:41.100,45.112,47.1E20,49.12A,4F.14C,55.16A,59.232,61.101,65.113,67.1E21,69.12B
    304:6F.14D,75.16B,79.233,C4.1DE,C6.1E2,D5.22C,D6.22A,DC.1D5,E4.1DF,E6.1E3,F5.22D
    304:F6.22B,FC.1D6,1EA.1EC,1EB.1ED,226.1E0,227.1E1,22E.230,22F.231,391.1FB9,399.1FD9
    304:3A5.1FE9,3B1.1FB1,3B9.1FD1,3C5.1FE1,418.4E2,423.4EE,438.4E3,443.4EF,1E36.1E38
    304:1E37.1E39,1E5A.1E5C,1E5B.1E5D
    306:41.102,45.114,47.11E,49.12C,4F.14E,55.16C,61.103,65.115,67.11F,69.12D,6F.14F
    306:75.16D,228.1E1C,229.1E1D,391.1FB8,399.1FD8,3A5.1FE8,3B1.1FB0,3B9.1FD0,3C5.1FE0
    306:410.4D0,415.4D6,416.4C1,418.419,423.40E,430.4D1,435.4D7,436.4C2,438.439,443.45E
    306:1EA0.1EB6,1EA1.1EB7
    307:41.226,42.1E02,43.10A,44.1E0A,45.116,46.1E1E,47.120,48.1E22,49.130,4D.1E40
    307:4E.1E44,4F.22E,50.1E56,52.1E58,53.1E60,54.1E6A,57.1E86,58.1E8A,59.1E8E,5A.17B
    307:61.227,62.1E03,63.10B,64.1E0B,65.117,66.1E1F,67.121,68.1E23,6D.1E41,6E.1E45
    307:6F.22F,70.1E57,72.1E59,73.1E61,74.1E6B,77.1E87,78.1E8B,79.1E8F,7A.17C,15A.1E64
    307:15B.1E65,160.1E66,161.1E67,17F.1E9B,1E62.1E68,1E63.1E69,105D2.105C9,105DA.105E4
    308:41.C4,45.CB,48.1E26,49.CF,4F.D6,55.DC,57.1E84,58.1E8C,59.178,61.E4,65.EB,68.1E27
    308:69.EF,6F.F6,74.1E97,75.FC,77.1E85,78.1E8D,79.FF,D5.1E4E,F5.1E4F,16A.1E7A
    308:16B.1E7B,399.3AA,3A5.3AB,3B9.3CA,3C5.3CB,3D2.3D4,406.407,410.4D2,415.401,416.4DC
    308:417.4DE,418.4E4,41E.4E6,423.4F0,427.4F4,42B.4F8,42D.4EC,430.4D3,435.451,436.4DD
    308:437.4DF,438.4E5,43E.4E7,443.4F1,447.4F5,44B.4F9,44D.4ED,456.457,4D8.4DA,4D9.4DB
    308:4E8.4EA,4E9.4EB
    309:41.1EA2,45.1EBA,49.1EC8,4F.1ECE,55.1EE6,59.1EF6,61.1EA3,65.1EBB,69.1EC9,6F.1ECF
    309:75.1EE7,79.1EF7,C2.1EA8,CA.1EC2,D4.1ED4,E2.1EA9,EA.1EC3,F4.1ED5,102.1EB2
    309:103.1EB3,1A0.1EDE,1A1.1EDF,1AF.1EEC,1B0.1EED
    30A:41.C5,55.16E,61.E5,75.16F,77.1E98,79.1E99 30B:4F.150,55.170,6F.151,75.171,423.4F2,443.4F3
    30C:41.1CD,43.10C,44.10E,45.11A,47.1E6,48.21E,49.1CF,4B.1E8,4C.13D,4E.147,4F.1D1
    30C:52.158,53.160,54.164,55.1D3,5A.17D,61.1CE,63.10D,64.10F,65.11B,67.1E7,68.21F
    30C:69.1D0,6A.1F0,6B.1E9,6C.13E,6E.148,6F.1D2,72.159,73.161,74.165,75.1D4,7A.17E
    30C:DC.1D9,FC.1DA,1B7.1EE,292.1EF
    30F:41.200,45.204,49.208,4F.20C,52.210,55.214,61.201,65.205,69.209,6F.20D,72.211
    30F:75.215,474.476,475.477
    311:41.202,45.206,49.20A,4F.20E,52.212,55.216,61.203,65.207,69.20B,6F.20F,72.213 311:75.217
    313:391.1F08,395.1F18,397.1F28,399.1F38,39F.1F48,3A9.1F68,3B1.1F00,3B5.1F10,3B7.1F20
    313:3B9.1F30,3BF.1F40,3C1.1FE4,3C5.1F50,3C9.1F60
    314:391.1F09,395.1F19,397.1F29,399.1F39,39F.1F49,3A1.1FEC,3A5.1F59,3A9.1F69,3B1.1F01
    314:3B5.1F11,3B7.1F21,3B9.1F31,3BF.1F41,3C1.1FE5,3C5.1F51,3C9.1F61
    31B:4F.1A0,55.1AF,6F.1A1,75.1B0
    323:41.1EA0,42.1E04,44.1E0C,45.1EB8,48.1E24,49.1ECA,4B.1E32,4C.1E36,4D.1E42,4E.1E46
    323:4F.1ECC,52.1E5A,53.1E62,54.1E6C,55.1EE4,56.1E7E,57.1E88,59.1EF4,5A.1E92,61.1EA1
    323:62.1E05,64.1E0D,65.1EB9,68.1E25,69.1ECB,6B.1E33,6C.1E37,6D.1E43,6E.1E47,6F.1ECD
    323:72.1E5B,73.1E63,74.1E6D,75.1EE5,76.1E7F,77.1E89,79.1EF5,7A.1E93,1A0.1EE2
    323:1A1.1EE3,1AF.1EF0,1B0.1EF1 324:55.1E72,75.1E73 325:41.1E00,61.1E01
    326:53.218,54.21A,73.219,74.21B
    327:43.C7,44.1E10,45.228,47.122,48.1E28,4B.136,4C.13B,4E.145,52.156,53.15E,54.162
    327:63.E7,64.1E11,65.229,67.123,68.1E29,6B.137,6C.13C,6E.146,72.157,73.15F,74.163
    328:41.104,45.118,49.12E,4F.1EA,55.172,61.105,65.119,69.12F,6F.1EB,75.173
    32D:44.1E12,45.1E18,4C.1E3C,4E.1E4A,54.1E70,55.1E76,64.1E13,65.1E19,6C.1E3D,6E.1E4B
    32D:74.1E71,75.1E77 32E:48.1E2A,68.1E2B 330:45.1E1A,49.1E2C,55.1E74,65.1E1B,69.1E2D,75.1E75
    331:42.1E06,44.1E0E,4B.1E34,4C.1E3A,4E.1E48,52.1E5E,54.1E6E,5A.1E94,62.1E07,64.1E0F
    331:68.1E96,6B.1E35,6C.1E3B,6E.1E49,72.1E5F,74.1E6F,7A.1E95
    338:3C.226E,3D.2260,3E.226F,2190.219A,2192.219B,2194.21AE,21D0.21CD,21D2.21CF
    338:21D4.21CE,2203.2204,2208.2209,220B.220C,2223.2224,2225.2226,223C.2241,2243.2244
    338:2245.2247,2248.2249,224D.226D,2261.2262,2264.2270,2265.2271,2272.2274,2273.2275
    338:2276.2278,2277.2279,227A.2280,227B.2281,227C.22E0,227D.22E1,2282.2284,2283.2285
    338:2286.2288,2287.2289,2291.22E2,2292.22E3,22A2.22AC,22A8.22AD,22A9.22AE,22AB.22AF
    338:22B2.22EA,22B3.22EB,22B4.22EC,22B5.22ED
    342:A8.1FC1,3B1.1FB6,3B7.1FC6,3B9.1FD6,3C5.1FE6,3C9.1FF6,3CA.1FD7,3CB.1FE7,1F00.1F06
    342:1F01.1F07,1F08.1F0E,1F09.1F0F,1F20.1F26,1F21.1F27,1F28.1F2E,1F29.1F2F,1F30.1F36
    342:1F31.1F37,1F38.1F3E,1F39.1F3F,1F50.1F56,1F51.1F57,1F59.1F5F,1F60.1F66,1F61.1F67
    342:1F68.1F6E,1F69.1F6F,1FBF.1FCF,1FFE.1FDF
    345:391.1FBC,397.1FCC,3A9.1FFC,3AC.1FB4,3AE.1FC4,3B1.1FB3,3B7.1FC3,3C9.1FF3,3CE.1FF4
    345:1F00.1F80,1F01.1F81,1F02.1F82,1F03.1F83,1F04.1F84,1F05.1F85,1F06.1F86,1F07.1F87
    345:1F08.1F88,1F09.1F89,1F0A.1F8A,1F0B.1F8B,1F0C.1F8C,1F0D.1F8D,1F0E.1F8E,1F0F.1F8F
    345:1F20.1F90,1F21.1F91,1F22.1F92,1F23.1F93,1F24.1F94,1F25.1F95,1F26.1F96,1F27.1F97
    345:1F28.1F98,1F29.1F99,1F2A.1F9A,1F2B.1F9B,1F2C.1F9C,1F2D.1F9D,1F2E.1F9E,1F2F.1F9F
    345:1F60.1FA0,1F61.1FA1,1F62.1FA2,1F63.1FA3,1F64.1FA4,1F65.1FA5,1F66.1FA6,1F67.1FA7
    345:1F68.1FA8,1F69.1FA9,1F6A.1FAA,1F6B.1FAB,1F6C.1FAC,1F6D.1FAD,1F6E.1FAE,1F6F.1FAF
    345:1F70.1FB2,1F74.1FC2,1F7C.1FF2,1FB6.1FB7,1FC6.1FC7,1FF6.1FF7 653:627.622
    654:627.623,648.624,64A.626,6C1.6C2,6D2.6D3,6D5.6C0 655:627.625 93C:928.929,930.931,933.934
    9BE:9C7.9CB 9D7:9C7.9CC B3E:B47.B4B B56:B47.B48 B57:B47.B4C BBE:BC6.BCA,BC7.BCB
    BD7:B92.B94,BC6.BCC C56:C46.C48 CC2:CC6.CCA CD5:CBF.CC0,CC6.CC7,CCA.CCB CD6:CC6.CC8
    D3E:D46.D4A,D47.D4B D57:D46.D4C DCA:DD9.DDA,DDC.DDD DCF:DD9.DDC DDF:DD9.DDE 102E:1025.1026
    1B35:1B05.1B06,1B07.1B08,1B09.1B0A,1B0B.1B0C,1B0D.1B0E,1B11.1B12,1B3A.1B3B,1B3C.1B3D
    1B35:1B3E.1B40,1B3F.1B41,1B42.1B43
    3099:3046.3094,304B.304C,304D.304E,304F.3050,3051.3052,3053.3054,3055.3056,3057.3058
    3099:3059.305A,305B.305C,305D.305E,305F.3060,3061.3062,3064.3065,3066.3067,3068.3069
    3099:306F.3070,3072.3073,3075.3076,3078.3079,307B.307C,309D.309E,30A6.30F4,30AB.30AC
    3099:30AD.30AE,30AF.30B0,30B1.30B2,30B3.30B4,30B5.30B6,30B7.30B8,30B9.30BA,30BB.30BC
    3099:30BD.30BE,30BF.30C0,30C1.30C2,30C4.30C5,30C6.30C7,30C8.30C9,30CF.30D0,30D2.30D3
    3099:30D5.30D6,30D8.30D9,30DB.30DC,30EF.30F7,30F0.30F8,30F1.30F9,30F2.30FA,30FD.30FE
    309A:306F.3071,3072.3074,3075.3077,3078.307A,307B.307D,30CF.30D1,30D2.30D4,30D5.30D7
    309A:30D8.30DA,30DB.30DD 110BA:11099.1109A,1109B.1109C,110A5.110AB
    11127:11131.1112E,11132.1112F 1133E:11347.1134B 11357:11347.1134C 113B8:113C2.113C7
    113BB:11384.11385 113C2:1138B.1138E,113C2.113C5 113C9:11382.11383,11390.11391,113C2.113C8
    114B0:114B9.114BC 114BA:114B9.114BB 114BD:114B9.114BE 115AF:115B8.115BA,115B9.115BB
    11930:11935.11938 1611E:1611E.16121 1611F:1611E.16123,16121.16126,16122.16127,16129.16124
    16120:1611E.16125,16121.16128 16129:1611E.16122 16D67:16D63.16D69,16D67.16D68,16D69.16D6A"

structure Pair where
  whole : Char
  first : Char
  second : Char

def pairsOf (r : Run) : List Pair :=
  (r.note.splitOn ',').filterMap fun entry => do
    let first ← hexChar? (entry.takeWhile (· != '.'))
    let whole ← hexChar? ((entry.dropWhile (· != '.')).drop 1)
    return { whole, first, second := Char.ofNat r.first }

def pairs : List Pair := pairRuns.flatMap pairsOf

/-! Syllables of the Korean script are numbered by their two or three letters. -/

def firstSyllable : Nat := 0xAC00

def leads : Nat := 19

def vowels : Nat := 21

/-- Letters that end a syllable, and none. -/
def trails : Nat := 28

def syllable? (a b : Char) : Option Char :=
  let l := a.toNat - 0x1100
  let v := b.toNat - 0x1161
  let t := b.toNat - 0x11A7
  let s := a.toNat - firstSyllable
  if 0x1100 ≤ a.toNat ∧ l < leads ∧ 0x1161 ≤ b.toNat ∧ v < vowels then
    some (Char.ofNat (firstSyllable + (l * vowels + v) * trails))
  else if firstSyllable ≤ a.toNat ∧ s < leads * vowels * trails ∧ s % trails = 0 ∧
      0x11A7 < b.toNat ∧ t < trails then
    some (Char.ofNat (a.toNat + t))
  else none

def syllableLetters? (c : Char) : Option (List Char) :=
  let s := c.toNat - firstSyllable
  if firstSyllable ≤ c.toNat ∧ s < leads * vowels * trails then
    let lead := Char.ofNat (0x1100 + s / (vowels * trails))
    let vowel := Char.ofNat (0x1161 + s / trails % vowels)
    let trail := if s % trails = 0 then [] else [Char.ofNat (0x11A7 + s % trails)]
    some (lead :: vowel :: trail)
  else none

/-- The character that two others make up. -/
def compose? (a b : Char) : Option Char :=
  match syllable? a b with
  | some c => some c
  | none => (pairs.find? fun p => p.first == a && p.second == b).map Pair.whole

/-- A character apart from its marks, of which it has at most `most`. -/
def takeApart : (most : Nat) → Char → List Char
  | 0, c => [c]
  | most + 1, c =>
    match syllableLetters? c with
    | some letters => letters
    | none =>
      match pairs.find? fun p => p.whole == c with
      | some p => takeApart most p.first ++ [p.second]
      | none => [c]

def mostMarks : Nat := 4

/-- Puts a character in front of a text in which marks are in order. -/
def insertMark (c : Char) : List Char → List Char
  | [] => [c]
  | d :: ds =>
    if combiningClass d ≠ 0 ∧ combiningClass d < combiningClass c then d :: insertMark c ds
    else c :: d :: ds

/-- A text with all marks apart, in the order of their classes. -/
def decompose (cs : List Char) : List Char :=
  (cs.flatMap (takeApart mostMarks)).foldr insertMark []

/-- What of a text is composed: the last letter, and the marks that stay on it. -/
structure Composing where
  /-- What stands before the letter, latest first. -/
  done : List Char := []
  letter : Option Char := none
  /-- Latest first. -/
  marks : List Char := []

namespace Composing

def isFree (s : Composing) (c : Char) : Bool :=
  match s.marks with
  | [] => true
  | m :: _ => combiningClass m < combiningClass c

def flush (s : Composing) : List Char := s.marks ++ s.letter.toList ++ s.done

def next (s : Composing) (c : Char) : Composing :=
  match (if s.isFree c then s.letter.bind fun l => compose? l c else none) with
  | some whole => { s with letter := some whole }
  | none =>
    if combiningClass c = 0 then { done := s.flush, letter := some c }
    else { s with marks := c :: s.marks }

end Composing

/-- The composed form of a text. -/
def compose (cs : List Char) : List Char :=
  ((decompose cs).foldl Composing.next {}).flush.reverse

end WorkloadLogin.Text
