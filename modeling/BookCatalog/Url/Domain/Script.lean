import BookCatalog.Text.Canonical
import BookCatalog.Text.Runs

/-!
# How characters of host names are written

Marks, the direction of writing, and the way letters join their neighbours: what decides whether the
characters of a host name may stand side by side.  The tables hold the characters of Unicode 17 and
some that were added after it.
-/

namespace BookCatalog.Url.Domain

/-- The characters of general category `M`. -/
def markRuns : Text.Runs := .ofHex
  ["300 370 483 48A 591 5BE 5BF 5C0 5C1 5C3 5C4 5C6 5C7 5C9 610 61B 64B 660 670 671 6D6 6DD 6DF",
   "6E5 6E7 6E9 6EA 6EE 711 712 730 74B 7A6 7B1 7EB 7F4 7FD 7FE 816 81A 81B 824 825 828 829 82E",
   "859 85C 897 8A0 8CA 8E2 8E3 904 93A 93D 93E 950 951 958 962 964 981 984 9BC 9BD 9BE 9C5 9C7",
   "9C9 9CB 9CE 9D7 9D8 9E2 9E4 9FE 9FF A01 A04 A3C A3D A3E A43 A47 A49 A4B A4E A51 A52 A70 A72",
   "A75 A76 A81 A84 ABC ABD ABE AC6 AC7 ACA ACB ACE AE2 AE4 AFA B00 B01 B04 B3C B3D B3E B45 B47",
   "B49 B4B B4E B53 B58 B62 B64 B82 B83 BBE BC3 BC6 BC9 BCA BCE BD7 BD8 C00 C05 C3C C3D C3E C45",
   "C46 C49 C4A C4E C55 C57 C62 C64 C81 C84 CBC CBD CBE CC5 CC6 CC9 CCA CCE CD5 CD7 CE2 CE4 CF3",
   "CF4 D00 D04 D3B D3D D3E D45 D46 D49 D4A D4E D57 D58 D62 D64 D81 D84 DCA DCB DCF DD5 DD6 DD7",
   "DD8 DE0 DF2 DF4 E31 E32 E34 E3B E47 E4F EB1 EB2 EB4 EBD EC8 ECF F18 F1A F35 F36 F37 F38 F39",
   "F3A F3E F40 F71 F85 F86 F88 F8D F98 F99 FBD FC6 FC7 102B 103F 1056 105A 105E 1061 1062 1065",
   "1067 106E 1071 1075 1082 108E 108F 1090 109A 109E 135D 1360 1712 1716 1732 1735 1752 1754",
   "1772 1774 17B4 17D4 17DD 17DE 180B 180E 180F 1810 1885 1887 18A9 18AA 1920 192C 1930 193C",
   "1A17 1A1C 1A55 1A5F 1A60 1A7D 1A7F 1A80 1AB0 1AEC 1B00 1B05 1B34 1B45 1B6B 1B74 1B80 1B83",
   "1BA1 1BAE 1BE6 1BF4 1C24 1C38 1CD0 1CD3 1CD4 1CE9 1CED 1CEE 1CF4 1CF5 1CF7 1CFA 1DC0 1E00",
   "20D0 20F1 2CEF 2CF2 2D7F 2D80 2DE0 2E00 302A 3030 3099 309B A66F A673 A674 A67E A69E A6A0",
   "A6F0 A6F2 A802 A803 A806 A807 A80B A80C A823 A828 A82C A82D A880 A882 A8B4 A8C6 A8E0 A8F2",
   "A8FF A900 A926 A92E A947 A954 A980 A984 A9B3 A9C1 A9E5 A9E6 AA29 AA37 AA43 AA44 AA4C AA4E",
   "AA7B AA7E AAB0 AAB1 AAB2 AAB5 AAB7 AAB9 AABE AAC0 AAC1 AAC2 AAEB AAF0 AAF5 AAF7 ABE3 ABEB",
   "ABEC ABEE FB1E FB1F FE00 FE10 FE20 FE30 101FD 101FE 102E0 102E1 10376 1037B 10A01 10A04",
   "10A05 10A07 10A0C 10A10 10A38 10A3B 10A3F 10A40 10AE5 10AE7 10D24 10D28 10D69 10D6E 10EAB",
   "10EAD 10EFA 10F00 10F46 10F51 10F82 10F86 11000 11003 11038 11047 11070 11071 11073 11075",
   "1107F 11083 110B0 110BB 110C2 110C3 11100 11103 11127 11135 11145 11147 11173 11174 11180",
   "11183 111B3 111C1 111C9 111CD 111CE 111D0 1122C 11238 1123E 1123F 11241 11242 112DF 112EB",
   "11300 11304 1133B 1133D 1133E 11345 11347 11349 1134B 1134E 11357 11358 11362 11364 11366",
   "1136D 11370 11375 113B8 113C1 113C2 113C3 113C5 113C6 113C7 113CB 113CC 113D1 113D2 113D3",
   "113E1 113E3 11435 11447 1145E 1145F 114B0 114C4 115AF 115B6 115B8 115C1 115DC 115DE 11630",
   "11641 116AB 116B8 1171D 1172C 1182C 1183B 11930 11936 11937 11939 1193B 1193F 11940 11941",
   "11942 11944 119D1 119D8 119DA 119E1 119E4 119E5 11A01 11A0B 11A33 11A3A 11A3B 11A3F 11A47",
   "11A48 11A51 11A5C 11A8A 11A9A 11B60 11B68 11C2F 11C37 11C38 11C40 11C92 11CA8 11CA9 11CB7",
   "11D31 11D37 11D3A 11D3B 11D3C 11D3E 11D3F 11D46 11D47 11D48 11D8A 11D8F 11D90 11D92 11D93",
   "11D98 11EF3 11EF7 11F00 11F02 11F03 11F04 11F34 11F3B 11F3E 11F43 11F5A 11F5B 13440 13441",
   "13447 13456 1611E 16130 16AF0 16AF5 16B30 16B37 16F4F 16F50 16F51 16F88 16F8F 16F93 16FE4",
   "16FE5 16FF0 16FF2 1BC9D 1BC9F 1CF00 1CF2E 1CF30 1CF47 1D165 1D16A 1D16D 1D173 1D17B 1D183",
   "1D185 1D18C 1D1AA 1D1AE 1D242 1D245 1DA00 1DA37 1DA3B 1DA6D 1DA75 1DA76 1DA84 1DA85 1DA9B",
   "1DAA0 1DAA1 1DAB0 1E000 1E007 1E008 1E019 1E01B 1E022 1E023 1E025 1E026 1E02B 1E08F 1E090",
   "1E130 1E137 1E2AE 1E2AF 1E2EC 1E2F0 1E4EC 1E4F0 1E5EE 1E5F0 1E6E3 1E6E4 1E6E6 1E6E7 1E6EE",
   "1E6F0 1E6F5 1E6F6 1E8D0 1E8D7 1E944 1E94B E0100 E01F0"]

/-- The letters written from right to left. -/
def rightToLeftRuns : Text.Runs := .ofHex
  ["5BE 5BF 5C0 5C1 5C3 5C4 5C6 5C7 5D0 606 608 609 60B 60C 60D 60E 61B 64B 66D 670 671 6D6 6E5",
   "6E7 6EE 6F0 6FA 711 712 730 74D 7A6 7B1 7EB 7F4 7F6 7FA 7FD 7FE 816 81A 81B 824 825 828 829",
   "830 859 85E 897 8A0 8CA FBB2 FBC3 FE73 10000 10800 1091F 10920 10A01 10A10 10A38 10A40 10AE5",
   "10AEB 10B39 10B40 10D24 10D4A 10D69 10D6F 10E60 10E80 10EAB 10EAD 10ED0 10F00 10F46 10F51",
   "10F82 10F86 11000 1E800 1E8D0 1E922 1E944 1E94B 1EEF0"]

/-- The digits that Arabic script uses. -/
def arabicDigitRuns : Text.Runs := .ofHex
  ["660 66A 66B 66D 10D30 10D4A 10E60 10E80"]

/-- The other digits. -/
def digitRuns : Text.Runs := .ofHex
  ["30 3A 6F0 6FA 102E1 10300"]

/-- The marks that take the direction of what they stand on. -/
def nonspacingRuns : Text.Runs := .ofHex
  ["300 371 483 48B 591 5BE 5BF 5C0 5C1 5C3 5C4 5C6 5C7 5D0 610 61B 64B 660 670 671 6D6 6DE 6DF",
   "6E5 6E7 6E9 6EA 6EE 711 712 730 74D 7A6 7B1 7EB 7F4 7FD 7FE 816 81A 81B 824 825 828 829 830",
   "859 85E 897 8A0 8CA 903 93A 93B 93C 93D 941 949 94D 94E 951 960 962 964 981 982 9BC 9BD 9C1",
   "9C7 9CD 9CE 9E2 9E6 9FE A03 A3C A3E A41 A5C A70 A72 A75 A76 A81 A83 ABC ABD AC1 AC9 ACD AD0",
   "AE2 AE6 AFA B02 B3C B3D B3F B40 B41 B47 B4D B57 B62 B66 B82 B83 BC0 BC1 BCD BD0 C00 C01 C04",
   "C05 C3C C3D C3E C41 C46 C58 C62 C66 C81 C82 CBC CBD CCC CD5 CE2 CE6 D00 D02 D3B D3D D41 D46",
   "D4D D4E D62 D66 D81 D82 DCA DCF DD2 DD8 E31 E32 E34 E3F E47 E4F EB1 EB2 EB4 EBD EC8 ED0 F18",
   "F1A F35 F36 F37 F38 F39 F3A F71 F7F F80 F85 F86 F88 F8D FBE FC6 FC7 102D 1031 1032 1038 1039",
   "103B 103D 103F 1058 105A 105E 1061 1071 1075 1082 1083 1085 1087 108D 108E 109D 109E 135D",
   "1360 1712 1715 1732 1734 1752 1760 1772 1780 17B7 17BE 17C6 17C7 17C9 17D4 17DD 17E0 1885",
   "1887 18A9 18AA 1920 1923 1927 1929 1932 1933 1939 1940 1A17 1A19 1A1B 1A1E 1A56 1A57 1A58",
   "1A61 1A62 1A63 1A65 1A6D 1A73 1A80 1AB0 1B04 1B34 1B35 1B36 1B3B 1B3C 1B3D 1B42 1B43 1B6B",
   "1B74 1B80 1B82 1BA2 1BA6 1BA8 1BAA 1BAB 1BAE 1BE6 1BE7 1BE8 1BEA 1BED 1BEE 1BEF 1BF2 1C2C",
   "1C34 1C36 1C3B 1CD0 1CD3 1CD4 1CE1 1CE2 1CE9 1CED 1CEE 1CF4 1CF5 1CF8 1CFA 1DC0 1E01 20D0",
   "2104 2CEF 2CF3 2D7F 2D80 2DE0 2E00 302A 302E 3099 309D A66F A673 A674 A67E A69E A6A0 A6F0",
   "A6F2 A802 A803 A806 A807 A80B A80C A825 A827 A82C A830 A8C4 A8CE A8E0 A8F2 A8FF A900 A926",
   "A92E A947 A952 A980 A983 A9B3 A9B4 A9B6 A9BA A9BC A9BE A9E5 A9E6 AA29 AA2F AA31 AA33 AA35",
   "AA40 AA43 AA44 AA4C AA4D AA7C AA7D AAB0 AAB1 AAB2 AAB5 AAB7 AAB9 AABE AAC0 AAC1 AAC2 AAEC",
   "AAEE AAF6 AB01 ABE5 ABE6 ABE8 ABE9 ABED ABF0 FB1E FBB2 FE20 FE45 101FD 10280 102E0 102E1",
   "10376 10380 10A01 10A10 10A38 10A40 10AE5 10AEB 10D24 10D30 10D69 10D6E 10EAB 10EAD 10EFA",
   "10F00 10F46 10F51 10F82 10F86 11001 11002 11038 11047 11070 11071 11073 11075 1107F 11082",
   "110B3 110B7 110B9 110BB 110C2 110D0 11100 11103 11127 1112C 1112D 11136 11173 11174 11180",
   "11182 111B6 111BF 111C9 111CD 111CF 111D0 1122F 11232 11234 11235 11236 11238 1123E 1123F",
   "11241 11280 112DF 112E0 112E3 112F0 11300 11302 1133B 1133D 11340 11341 11366 11380 113BB",
   "113C2 113CE 113CF 113D0 113D1 113D2 113D3 113E1 11400 11438 11440 11442 11445 11446 11447",
   "1145E 1145F 114B3 114B9 114BA 114BB 114BF 114C1 114C2 114C4 115B2 115B8 115BC 115BE 115BF",
   "115C1 115DC 11600 11633 1163B 1163D 1163E 1163F 11641 116AB 116AC 116AD 116AE 116B0 116B6",
   "116B7 116B8 1171D 1171E 1171F 11720 11722 11726 11727 11730 1182F 11838 11839 1183B 1193B",
   "1193D 1193E 1193F 11943 11944 119D4 119DC 119E0 119E1 11A01 11A07 11A09 11A0B 11A33 11A39",
   "11A3B 11A3F 11A47 11A50 11A51 11A57 11A59 11A5C 11A8A 11A97 11A98 11A9A 11B60 11B61 11B62",
   "11B65 11B66 11B67 11C30 11C3E 11C92 11CA9 11CAA 11CB1 11CB2 11CB4 11CB5 11D00 11D31 11D46",
   "11D47 11D50 11D90 11D93 11D95 11D96 11D97 11D98 11EF3 11EF5 11F00 11F02 11F36 11F3E 11F40",
   "11F41 11F42 11F43 11F5A 11FB0 13440 13441 13447 13460 1611E 1612A 1612D 16130 16AF0 16AF5",
   "16B30 16B37 16F4F 16F50 16F8F 16F93 16FE4 16FF0 1BC9D 1BC9F 1CF00 1CF50 1D167 1D16A 1D17B",
   "1D183 1D185 1D18C 1D1AA 1D1AE 1D242 1D245 1DA00 1DA37 1DA3B 1DA6D 1DA75 1DA76 1DA84 1DA85",
   "1DA9B 1DF00 1E000 1E100 1E130 1E137 1E2AE 1E2C0 1E2EC 1E2F0 1E4EC 1E4F0 1E5EE 1E5F0 1E6E3",
   "1E6E4 1E6E6 1E6E7 1E6EE 1E6F0 1E6F5 1E6FE 1E8D0 1E922 1E944 1E94B"]

/-- The characters without a direction of their own that a label may hold. -/
def neutralRuns : Text.Runs := .ofHex
  ["0 9 E 1C 21 30 3A 61 7B DF F7 F8 2B9 2BB 2C2 2D0 2D2 2EE 2EF 300 375 377 3F6 3F8 58A 591 606",
   "608 609 60B 60C 60D 60E 610 66A 66B 6DE 6DF 6E9 6EA 7F6 7FA 9F2 9F4 9FB 9FC AF1 AF9 BF3 C00",
   "C78 C7F E3F E40 F3A F3E 1390 13A0 1400 1401 169B 16A0 17DB 17DC 17F0 1810 1940 1946 19DE",
   "1A00 200C 20D0 2104 214E 218A 2336 237B 2395 2396 26AC 26AD 2800 2900 2C30 2CE5 2CEC 2CF9",
   "2D00 2E00 3005 3008 3021 3030 3031 3037 303B 303D 3041 30A0 30A1 30FB 30FC 31C0 31F0 4DC0",
   "4E00 A490 A4D0 A60D A610 A673 A674 A67E A681 A700 A723 A788 A789 A828 A82C A838 A840 A874",
   "A880 AB6A ABC0 FBC3 FE20 FE45 FE73 10101 10102 10140 1018D 10190 101D0 1091F 10920 10B39",
   "10B40 10D6E 10D6F 10ED0 10EFA 11052 11066 11660 11680 11FD5 11FFF 16FE2 16FE3 1CC00 1CF00",
   "1D1E9 1D242 1D245 1D2C0 1D300 1D360 1E2FF 1E4D0 1EEF0 1F150 1F16D 1F170 1F1AD 1F1E6 1F260",
   "20000"]

/-- The characters without a direction that no label of a name written from right to left may hold. -/
def spaceRuns : Text.Runs := .ofHex
  ["9 E 1C 21"]

/-- The letters that join the letter after them. -/
def joinsNextRuns : Text.Runs := .ofHex
  ["A872 A873 10ACD 10ACE 10AD7 10AD8 10D00 10D01 10FCB 10FCC"]

/-- The letters that join the letter before them. -/
def joinsPreviousRuns : Text.Runs := .ofHex
  ["622 626 627 628 629 62A 62F 633 648 649 671 674 675 678 688 69A 6C0 6C1 6C3 6CC 6CD 6CE 6CF",
   "6D0 6D2 6D4 6D5 6D6 6EE 6F0 710 711 715 71A 71E 71F 728 729 72A 72B 72C 72D 72F 730 74D 74E",
   "759 75C 76B 76D 771 772 773 775 778 77A 840 841 846 848 849 84A 854 855 856 859 867 868 869",
   "86B 870 883 88E 88F 8AA 8AD 8AE 8AF 8B1 8B3 8B9 8BA 10AC5 10AC6 10AC7 10AC8 10AC9 10ACB",
   "10ACE 10AD3 10ADD 10ADE 10AE1 10AE2 10AE4 10AE5 10AEF 10AF0 10B81 10B82 10B83 10B86 10B89",
   "10B8A 10B8C 10B8D 10B8E 10B90 10B91 10B92 10BA9 10BAD 10D22 10D23 10EC2 10EC3 10F33 10F34",
   "10F54 10F55 10F74 10F76 10FB4 10FB7 10FB9 10FBB 10FBD 10FBE 10FC2 10FC4 10FC9 10FCA"]

/-- The letters that join both their neighbours. -/
def joinsBothRuns : Text.Runs := .ofHex
  ["620 621 626 627 628 629 62A 62F 633 640 641 648 649 64B 66E 670 678 688 69A 6C0 6C1 6C3 6CC",
   "6CD 6CE 6CF 6D0 6D2 6FA 6FD 6FF 700 712 715 71A 71E 71F 728 729 72A 72B 72C 72D 72F 74E 759",
   "75C 76B 76D 771 772 773 775 778 77A 780 7CA 7EB 841 846 848 849 84A 854 855 856 860 861 862",
   "866 868 869 886 887 889 88E 88F 890 8A0 8AA 8AF 8B1 8B3 8B9 8BA 8C9 1807 1808 1820 1879 1887",
   "18A9 18AA 18AB A840 A872 10AC0 10AC5 10AD3 10AD7 10AD8 10ADD 10ADE 10AE1 10AEB 10AEF 10B80",
   "10B81 10B82 10B83 10B86 10B89 10B8A 10B8C 10B8D 10B8E 10B90 10B91 10BAD 10BAF 10D01 10D22",
   "10D23 10D24 10EC3 10EC5 10EC6 10EC8 10F30 10F33 10F34 10F45 10F51 10F54 10F70 10F74 10F76",
   "10F82 10FB0 10FB1 10FB2 10FB4 10FB8 10FB9 10FBB 10FBD 10FBE 10FC0 10FC1 10FC2 10FC4 10FC5",
   "10FCA 10FCB 1E900 1E944"]

/-- The characters that letters join across. -/
def transparentRuns : Text.Runs := .ofHex
  ["AD AE 300 370 483 48A 591 5BE 5BF 5C0 5C1 5C3 5C4 5C6 5C7 5C8 610 61B 61C 61D 64B 660 670",
   "671 6D6 6DD 6DF 6E5 6E7 6E9 6EA 6EE 70F 710 711 712 730 74B 7A6 7B1 7EB 7F4 7FD 7FE 816 81A",
   "81B 824 825 828 829 82E 859 85C 897 8A0 8CA 8E2 8E3 903 93A 93B 93C 93D 941 949 94D 94E 951",
   "958 962 964 981 982 9BC 9BD 9C1 9C5 9CD 9CE 9E2 9E4 9FE 9FF A01 A03 A3C A3D A41 A43 A47 A49",
   "A4B A4E A51 A52 A70 A72 A75 A76 A81 A83 ABC ABD AC1 AC6 AC7 AC9 ACD ACE AE2 AE4 AFA B00 B01",
   "B02 B3C B3D B3F B40 B41 B45 B4D B4E B55 B57 B62 B64 B82 B83 BC0 BC1 BCD BCE C00 C01 C04 C05",
   "C3C C3D C3E C41 C46 C49 C4A C4E C55 C57 C62 C64 C81 C82 CBC CBD CBF CC0 CC6 CC7 CCC CCE CE2",
   "CE4 D00 D02 D3B D3D D41 D45 D4D D4E D62 D64 D81 D82 DCA DCB DD2 DD5 DD6 DD7 E31 E32 E34 E3B",
   "E47 E4F EB1 EB2 EB4 EBD EC8 ECF F18 F1A F35 F36 F37 F38 F39 F3A F71 F7F F80 F85 F86 F88 F8D",
   "F98 F99 FBD FC6 FC7 102D 1031 1032 1038 1039 103B 103D 103F 1058 105A 105E 1061 1071 1075",
   "1082 1083 1085 1087 108D 108E 109D 109E 135D 1360 1712 1715 1732 1734 1752 1754 1772 1774",
   "17B4 17B6 17B7 17BE 17C6 17C7 17C9 17D4 17DD 17DE 180B 180E 180F 1810 1885 1887 18A9 18AA",
   "1920 1923 1927 1929 1932 1933 1939 193C 1A17 1A19 1A1B 1A1C 1A56 1A57 1A58 1A5F 1A60 1A61",
   "1A62 1A63 1A65 1A6D 1A73 1A7D 1A7F 1A80 1AB0 1ADE 1AE0 1AEC 1B00 1B04 1B34 1B35 1B36 1B3B",
   "1B3C 1B3D 1B42 1B43 1B6B 1B74 1B80 1B82 1BA2 1BA6 1BA8 1BAA 1BAB 1BAE 1BE6 1BE7 1BE8 1BEA",
   "1BED 1BEE 1BEF 1BF2 1C2C 1C34 1C36 1C38 1CD0 1CD3 1CD4 1CE1 1CE2 1CE9 1CED 1CEE 1CF4 1CF5",
   "1CF8 1CFA 1DC0 1E00 200B 200C 200E 2010 202A 202F 2060 2065 206A 2070 20D0 20F1 2CEF 2CF2",
   "2D7F 2D80 2DE0 2E00 302A 302E 3099 309B A66F A673 A674 A67E A69E A6A0 A6F0 A6F2 A802 A803",
   "A806 A807 A80B A80C A825 A827 A82C A82D A8C4 A8C6 A8E0 A8F2 A8FF A900 A926 A92E A947 A952",
   "A980 A983 A9B3 A9B4 A9B6 A9BA A9BC A9BE A9E5 A9E6 AA29 AA2F AA31 AA33 AA35 AA37 AA43 AA44",
   "AA4C AA4D AA7C AA7D AAB0 AAB1 AAB2 AAB5 AAB7 AAB9 AABE AAC0 AAC1 AAC2 AAEC AAEE AAF6 AAF7",
   "ABE5 ABE6 ABE8 ABE9 ABED ABEE FB1E FB1F FE00 FE10 FE20 FE30 FEFF FF00 FFF9 FFFC 101FD 101FE",
   "102E0 102E1 10376 1037B 10A01 10A04 10A05 10A07 10A0C 10A10 10A38 10A3B 10A3F 10A40 10AE5",
   "10AE7 10D24 10D28 10D69 10D6E 10EAB 10EAD 10EFA 10F00 10F46 10F51 10F82 10F86 11001 11002",
   "11038 11047 11070 11071 11073 11075 1107F 11082 110B3 110B7 110B9 110BB 110C2 110C3 11100",
   "11103 11127 1112C 1112D 11135 11173 11174 11180 11182 111B6 111BF 111C9 111CD 111CF 111D0",
   "1122F 11232 11234 11235 11236 11238 1123E 1123F 11241 11242 112DF 112E0 112E3 112EB 11300",
   "11302 1133B 1133D 11340 11341 11366 1136D 11370 11375 113BB 113C1 113CE 113CF 113D0 113D1",
   "113D2 113D3 113E1 113E3 11438 11440 11442 11445 11446 11447 1145E 1145F 114B3 114B9 114BA",
   "114BB 114BF 114C1 114C2 114C4 115B2 115B6 115BC 115BE 115BF 115C1 115DC 115DE 11633 1163B",
   "1163D 1163E 1163F 11641 116AB 116AC 116AD 116AE 116B0 116B6 116B7 116B8 1171D 1171E 1171F",
   "11720 11722 11726 11727 1172C 1182F 11838 11839 1183B 1193B 1193D 1193E 1193F 11943 11944",
   "119D4 119D8 119DA 119DC 119E0 119E1 11A01 11A0B 11A33 11A39 11A3B 11A3F 11A47 11A48 11A51",
   "11A57 11A59 11A5C 11A8A 11A97 11A98 11A9A 11B60 11B61 11B62 11B65 11B66 11B67 11C30 11C37",
   "11C38 11C3E 11C3F 11C40 11C92 11CA8 11CAA 11CB1 11CB2 11CB4 11CB5 11CB7 11D31 11D37 11D3A",
   "11D3B 11D3C 11D3E 11D3F 11D46 11D47 11D48 11D90 11D92 11D95 11D96 11D97 11D98 11EF3 11EF5",
   "11F00 11F02 11F36 11F3B 11F40 11F41 11F42 11F43 11F5A 11F5B 13430 13441 13447 13456 1611E",
   "1612A 1612D 16130 16AF0 16AF5 16B30 16B37 16F4F 16F50 16F8F 16F93 16FE4 16FE5 1BC9D 1BC9F",
   "1BCA0 1BCA4 1CF00 1CF2E 1CF30 1CF47 1D167 1D16A 1D173 1D183 1D185 1D18C 1D1AA 1D1AE 1D242",
   "1D245 1DA00 1DA37 1DA3B 1DA6D 1DA75 1DA76 1DA84 1DA85 1DA9B 1DAA0 1DAA1 1DAB0 1E000 1E007",
   "1E008 1E019 1E01B 1E022 1E023 1E025 1E026 1E02B 1E08F 1E090 1E130 1E137 1E2AE 1E2AF 1E2EC",
   "1E2F0 1E4EC 1E4F0 1E5EE 1E5F0 1E6E3 1E6E4 1E6E6 1E6E7 1E6EE 1E6F0 1E6F5 1E6F6 1E8D0 1E8D7",
   "1E944 1E94C E0001 E0002 E0020 E0080 E0100 E01F0"]

/-- The part that a character plays for the direction of writing. -/
inductive Direction where
  | leftToRight
  | rightToLeft
  | arabicDigit
  | digit
  | nonspacing
  | neutral
  | space
  deriving DecidableEq

/-- The part that a character plays for the direction of writing. -/
def direction (c : Char) : Direction :=
  if rightToLeftRuns.contains c then .rightToLeft
  else if arabicDigitRuns.contains c then .arabicDigit
  else if digitRuns.contains c then .digit
  else if nonspacingRuns.contains c then .nonspacing
  else if neutralRuns.contains c then .neutral
  else if spaceRuns.contains c then .space
  else .leftToRight

/-- Whether a label may stand in a name that is written from right to left somewhere. -/
def isDirected (label : List Char) : Bool :=
  let ds := label.map direction
  let closing := (ds.reverse.dropWhile (· = .nonspacing)).head?
  match ds.head? with
  | none => true
  | some .rightToLeft =>
    ds.all (fun d => d ≠ .leftToRight && d ≠ .space) &&
      (closing = some .rightToLeft || closing = some .digit || closing = some .arabicDigit) &&
      !(Direction.digit ∈ ds && Direction.arabicDigit ∈ ds)
  | some .leftToRight =>
    ds.all (fun d => d ≠ .rightToLeft && d ≠ .arabicDigit && d ≠ .space) &&
      (closing = some .leftToRight || closing = some .digit)
  | some _ => false

/-- Whether a name with these labels is written from right to left somewhere. -/
def isRightToLeft (labels : List (List Char)) : Bool :=
  labels.any fun label => label.any fun c =>
    direction c = .rightToLeft || direction c = .arabicDigit

/-- Whether a joiner may stand between what is before it, read backwards, and what is after it. -/
def mayJoin (joiner : Char) (before after : List Char) : Bool :=
  let virama := match before with
    | [] => false
    | c :: _ => Text.Canonical.level c = 9
  let reaches := fun (runs : Text.Runs) (cs : List Char) =>
    match cs.dropWhile transparentRuns.contains with
    | [] => false
    | c :: _ => runs.contains c || joinsBothRuns.contains c
  virama ||
    (joiner.toNat = 0x200C && reaches joinsNextRuns before && reaches joinsPreviousRuns after)

/-- Whether every joiner of a label may stand where it does; `before` is what has been read of the
label, backwards. -/
def joinersFit (before : List Char) : List Char → Bool
  | [] => true
  | c :: cs =>
    ((c.toNat ≠ 0x200C && c.toNat ≠ 0x200D) || mayJoin c before cs) && joinersFit (c :: before) cs

end BookCatalog.Url.Domain
