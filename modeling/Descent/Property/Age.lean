import Descent.CharSet
import Descent.Text.RunTable

/-!
# Ages

The *age* of a character is the version of the standard that first has it.  A class named by an age
has all characters that the version has.
-/

namespace Descent.Age

/-- The versions, in ascending order. -/
def versions : List String :=
  ("1.1 2.0 2.1 3.0 3.1 3.2 4.0 4.1 5.0 5.1 5.2 6.0 6.1 6.2 6.3 7.0 8.0 9.0 10.0 11.0 12.0 12.1 " ++
    "13.0 14.0 15.0 15.1 16.0").splitOn " "

/-- The runs of ages, each word the place of the version among the versions, from one on, in two
digits, and the first code point.  A zero stands for code points without an age. -/
def runRows : List String :=
  ["010 041F6 011FA 04218 06220 07221 04222 07234 08237 09242 01250 042A9 072AE 012B0 042DF",
   "012E0 042EA 072EF 01300 04346 0634F 07350 08358 0735D 01360 04362 06363 10370 01374 10376",
   "00378 0137A 0937B 0137E 1637F 00380 01384 0038B 0138C 0038D 0138E 003A2 013A3 103CF 013D0",
   "043D7 063D8 013DA 043DB 013DC 043DD 013DE 043DF 013E0 043E1 013E2 053F4 063F6 073F7 083FC",
   "04400 01401 0440D 0140E 04450 01451 0445D 0145E 10487 04488 0648A 0448C 01490 064C5 014C7",
   "064C9 014CB 064CD 094CF 014D0 044EC 014EE 084F6 014F8 094FA 06500 09510 10514 11524 12526",
   "16528 00530 01531 00557 01559 20560 01561 20588 01589 0458A 0058B 1658D 1358F 00590 02591",
   "085A2 025A3 015B0 095BA 015BB 025C4 085C5 005C8 015D0 005EB 205EF 015F0 005F5 07600 13604",
   "16605 10606 0860B 0160C 0760D 10616 0161B 1561C 2461D 0861E 0161F 12620 01621 1063B 01640",
   "04653 07656 08659 1265F 01660 0666E 01670 046B8 016BA 046BF 016C0 046CF 016D0 076EE 016F0",
   "046FA 076FF 04700 0070E 0470F 0772D 04730 0074B 0774D 08750 1076E 04780 067B1 007B2 097C0",
   "007FB 207FD 11800 0082E 11830 0083F 12840 0085C 1285E 0085F 19860 0086B 24870 0088F 24890",
   "00892 27897 24898 138A0 168A1 138A2 168AD 178B3 248B5 188B6 238BE 248C8 208D3 188D4 178E3",
   "138E4 168FF 11900 01901 07904 01905 1293A 0193C 1194E 1294F 01950 11955 12956 01958 10971",
   "12973 16978 11979 0997B 0897D 0997E 16980 01981 00984 01985 0098D 0198F 00991 01993 009A9",
   "019AA 009B1 019B2 009B3 019B6 009BA 019BC 079BD 019BE 009C5 019C7 009C9 019CB 089CE 009CF",
   "019D7 009D8 019DC 009DE 019DF 009E4 019E6 119FB 199FC 209FE 009FF 07A01 01A02 07A03 00A04",
   "01A05 00A0B 01A0F 00A11 01A13 00A29 01A2A 00A31 01A32 00A34 01A35 00A37 01A38 00A3A 01A3C",
   "00A3D 01A3E 00A43 01A47 00A49 01A4B 00A4E 10A51 00A52 01A59 00A5D 01A5E 00A5F 01A66 10A75",
   "20A76 00A77 01A81 00A84 01A85 07A8C 01A8D 00A8E 01A8F 00A92 01A93 00AA9 01AAA 00AB1 01AB2",
   "00AB4 01AB5 00ABA 01ABC 00AC6 01AC7 00ACA 01ACB 00ACE 01AD0 00AD1 01AE0 07AE1 00AE4 01AE6",
   "13AF0 07AF1 00AF2 17AF9 19AFA 00B00 01B01 00B04 01B05 00B0D 01B0F 00B11 01B13 00B29 01B2A",
   "00B31 01B32 00B34 07B35 01B36 00B3A 01B3C 10B44 00B45 01B47 00B49 01B4B 00B4E 23B55 01B56",
   "00B58 01B5C 00B5E 01B5F 10B62 00B64 01B66 07B71 12B72 00B78 01B82 00B84 01B85 00B8B 01B8E",
   "00B91 01B92 00B96 01B99 00B9B 01B9C 00B9D 01B9E 00BA0 01BA3 00BA5 01BA8 00BAB 01BAE 08BB6",
   "01BB7 00BBA 01BBE 00BC3 01BC6 00BC9 01BCA 00BCE 10BD0 00BD1 01BD7 00BD8 08BE6 01BE7 07BF3",
   "00BFB 16C00 01C01 20C04 01C05 00C0D 01C0E 00C11 01C12 00C29 01C2A 16C34 01C35 00C3A 24C3C",
   "10C3D 01C3E 00C45 01C46 00C49 01C4A 00C4E 01C55 00C57 10C58 17C5A 00C5B 24C5D 00C5E 01C60",
   "10C62 00C64 01C66 00C70 21C77 10C78 18C80 16C81 01C82 20C84 01C85 00C8D 01C8E 00C91 01C92",
   "00CA9 01CAA 00CB4 01CB5 00CBA 07CBC 01CBE 00CC5 01CC6 00CC9 01CCA 00CCE 01CD5 00CD7 24CDD",
   "01CDE 00CDF 01CE0 09CE2 00CE4 01CE6 00CF0 09CF1 25CF3 00CF4 19D00 16D01 01D02 23D04 01D05",
   "00D0D 01D0E 00D11 01D12 12D29 01D2A 12D3A 19D3B 10D3D 01D3E 10D44 00D45 01D46 00D49 01D4A",
   "12D4E 18D4F 00D50 18D54 01D57 18D58 17D5F 01D60 10D62 00D64 01D66 10D70 18D76 10D79 00D80",
   "23D81 04D82 00D84 04D85 00D97 04D9A 00DB2 04DB3 00DBC 04DBD 00DBE 04DC0 00DC7 04DCA 00DCB",
   "04DCF 00DD5 04DD6 00DD7 04DD8 00DE0 16DE6 00DF0 04DF2 00DF5 01E01 00E3B 01E3F 00E5C 01E81",
   "00E83 01E84 00E85 21E86 01E87 21E89 01E8A 00E8B 21E8C 01E8D 21E8E 01E94 21E98 01E99 21EA0",
   "01EA1 00EA4 01EA5 00EA6 01EA7 21EA8 01EAA 21EAC 01EAD 21EBA 01EBB 00EBE 01EC0 00EC5 01EC6",
   "00EC7 01EC8 25ECE 00ECF 01ED0 00EDA 01EDC 13EDE 00EE0 02F00 00F48 02F49 04F6A 10F6B 00F6D",
   "02F71 12F8C 02F90 04F96 02F97 00F98 02F99 04FAE 02FB1 04FB8 02FB9 04FBA 00FBD 04FBE 00FCD",
   "10FCE 04FCF 08FD0 10FD2 11FD5 12FD9 00FDB 041000 101022 041023 101028 041029 10102B 04102C",
   "101033 041036 10103A 041040 10105A 11109A 10109E 0110A0 0010C6 1310C7 0010C8 1310CD 0010CE",
   "0110D0 0610F7 0810F9 0110FB 0810FC 1310FD 011100 11115A 01115F 1111A3 0111A8 1111FA 041200",
   "081207 041208 081247 041248 001249 04124A 00124E 041250 001257 041258 001259 04125A 00125E",
   "041260 081287 041288 001289 04128A 00128E 041290 0812AF 0412B0 0012B1 0412B2 0012B6 0412B8",
   "0012BF 0412C0 0012C1 0412C2 0012C6 0412C8 0812CF 0412D0 0012D7 0412D8 0812EF 0412F0 08130F",
   "041310 001311 041312 001316 041318 08131F 041320 081347 041348 00135B 12135D 08135F 041361",
   "00137D 081380 00139A 0413A0 1713F5 0013F6 1713F8 0013FE 111400 041401 111677 041680 00169D",
   "0416A0 1616F1 0016F9 061700 24170D 06170E 241715 001716 24171F 061720 001737 061740 001754",
   "061760 00176D 06176E 001771 061772 001774 041780 0717DD 0017DE 0417E0 0017EA 0717F0 0017FA",
   "041800 24180F 041810 00181A 041820 201878 001879 041880 1018AA 0018AB 1118B0 0018F6 071900",
   "16191D 00191F 071920 00192C 071930 00193C 071940 001941 071944 00196E 071970 001975 081980",
   "1119AA 0019AC 0819B0 0019CA 0819D0 1119DA 0019DB 0819DE 0719E0 081A00 001A1C 081A1E 111A20",
   "001A5F 111A60 001A7D 111A7F 001A8A 111A90 001A9A 111AA0 001AAE 161AB0 231ABF 241AC1 001ACF",
   "091B00 241B4C 001B4D 271B4E 091B50 241B7D 271B7F 101B80 131BAB 101BAE 131BBA 121BC0 001BF4",
   "121BFC 101C00 001C38 101C3B 001C4A 101C4D 181C80 271C89 001C8B 201C90 001CBB 201CBD 131CC0",
   "001CC8 111CD0 131CF3 191CF7 161CF8 211CFA 001CFB 071D00 081D6C 091DC4 101DCB 161DE7 191DF6",
   "241DFA 181DFB 121DFC 111DFD 091DFE 011E00 021E9B 101E9C 011EA0 101EFA 011F00 001F16 011F18",
   "001F1E 011F20 001F46 011F48 001F4E 011F50 001F58 011F59 001F5A 011F5B 001F5C 011F5D 001F5E",
   "011F5F 001F7E 011F80 001FB5 011FB6 001FC5 011FC6 001FD4 011FD6 001FDC 011FDD 001FF0 011FF2",
   "001FF5 011FF6 001FFF 012000 04202F 012030 062047 042048 06204E 072053 082055 062057 082058",
   "06205F 102064 002065 152066 01206A 062071 002072 012074 00208F 082090 122095 00209D 0120A0",
   "0220AB 0320AC 0420AD 0620B0 0820B2 1120B6 1220B9 1420BA 1620BB 1720BE 1920BF 2420C0 0020C1",
   "0120D0 0420E2 0620E4 0820EB 0920EC 1020F0 0020F1 012100 042139 07213B 08213C 06213D 08214C",
   "09214D 10214F 112150 012153 042183 092184 102185 112189 17218A 00218C 012190 0421EB 0621F4",
   "012200 0622F2 012300 042301 012302 04237B 06237C 04237D 06239B 0723CF 0823D1 0923DC 1123E8",
   "1223E9 1623F4 1823FB 1923FF 012400 042425 272427 00242A 012440 00244B 012460 0624EB 0724FF",
   "012500 062596 0125A0 0425F0 0625F8 012600 072614 062616 082618 042619 01261A 042670 062672",
   "08267E 062680 07268A 082692 10269D 11269E 0726A0 0826A2 0926B2 1026B3 1126BD 1026C0 1126C4",
   "1226CE 1126CF 1226E2 1126E3 1226E4 1126E8 162700 012701 122705 012706 12270A 01270C 122728",
   "012729 12274C 01274D 12274E 01274F 122753 012756 112757 012758 12275F 012761 062768 012776",
   "122795 012798 1227B0 0127B1 1227BF 0827C0 0927C7 1327CB 1027CC 1327CD 1227CE 0627D0 1027EC",
   "0627F0 042800 062900 072B00 082B0E 092B14 102B1B 092B20 102B24 162B4D 102B50 112B55 162B5A",
   "002B74 162B76 002B96 232B97 162B98 202BBA 162BBD 212BC9 162BCA 192BD2 202BD3 172BEC 202BF0",
   "212BFF 082C00 242C2F 082C30 242C5F 092C60 102C6D 112C70 102C71 092C74 102C78 112C7E 082C80",
   "112CEB 132CF2 002CF4 082CF9 002D26 132D27 002D28 132D2D 002D2E 082D30 132D66 002D68 082D6F",
   "122D70 002D71 122D7F 082D80 002D97 082DA0 002DA7 082DA8 002DAF 082DB0 002DB7 082DB8 002DBF",
   "082DC0 002DC7 082DC8 002DCF 082DD0 002DD7 082DD8 002DDF 102DE0 082E00 102E18 082E1C 102E1E",
   "112E31 132E32 162E3C 182E43 192E45 202E4A 212E4F 232E50 242E53 002E5E 042E80 002E9A 042E9B",
   "002EF4 042F00 002FD6 042FF0 262FFC 013000 043038 06303B 04303E 01303F 003040 013041 063095",
   "003097 013099 06309F 0130A1 0630FF 003100 013105 10312D 19312E 20312F 003130 013131 00318F",
   "013190 0431A0 1231B8 2331BB 0831C0 1031D0 2731E4 0031E6 2631EF 0631F0 013200 07321D 00321F",
   "013220 113244 073250 063251 013260 07327C 08327E 01327F 0632B1 0132C0 0732CC 0132D0 2232FF",
   "013300 073377 01337B 0733DE 0133E0 0733FF 043400 234DB6 074DC0 014E00 089FA6 109FBC 119FC4",
   "139FCC 179FCD 199FD6 209FEB 239FF0 249FFD 04A000 00A48D 04A490 06A4A2 04A4A4 06A4B4 04A4B5",
   "06A4C1 04A4C2 06A4C5 04A4C6 00A4C7 11A4D0 10A500 00A62C 10A640 12A660 10A662 13A674 10A67C",
   "16A698 17A69E 13A69F 11A6A0 00A6F8 08A700 09A717 10A71B 09A720 10A722 12A78D 17A78F 12A790",
   "13A792 16A794 12A7A0 13A7AA 16A7AB 18A7AE 20A7AF 16A7B0 17A7B2 20A7B8 21A7BA 24A7C0 21A7C2",
   "23A7C7 27A7CB 00A7CE 24A7D0 00A7D2 24A7D3 00A7D4 24A7D5 27A7DA 00A7DD 24A7F2 23A7F5 16A7F7",
   "13A7F8 12A7FA 10A7FB 08A800 23A82C 00A82D 11A830 00A83A 09A840 00A878 10A880 18A8C5 00A8C6",
   "10A8CE 00A8DA 11A8E0 17A8FC 20A8FE 10A900 00A954 10A95F 11A960 00A97D 11A980 00A9CE 11A9CF",
   "00A9DA 11A9DE 16A9E0 00A9FF 10AA00 00AA37 10AA40 00AA4E 10AA50 00AA5A 10AA5C 11AA60 16AA7C",
   "11AA80 00AAC3 11AADB 13AAE0 00AAF7 12AB01 00AB07 12AB09 00AB0F 12AB11 00AB17 12AB20 00AB27",
   "12AB28 00AB2F 16AB30 17AB60 16AB64 21AB66 23AB68 00AB6C 17AB70 11ABC0 00ABEE 11ABF0 00ABFA",
   "02AC00 00D7A4 11D7B0 00D7C7 11D7CB 00D7FC 01E000 13FA2E 06FA30 11FA6B 00FA6E 08FA70 00FADA",
   "01FB00 00FB07 01FB13 00FB18 04FB1D 01FB1E 00FB37 01FB38 00FB3D 01FB3E 00FB3F 01FB40 00FB42",
   "01FB43 00FB45 01FB46 12FBB2 24FBC2 00FBC3 01FBD3 24FD40 01FD50 00FD90 01FD92 00FDC8 24FDCF",
   "05FDD0 01FDF0 06FDFC 07FDFD 24FDFE 06FE00 08FE10 00FE1A 01FE20 10FE24 16FE27 17FE2E 01FE30",
   "06FE45 07FE47 01FE49 00FE53 01FE54 00FE67 01FE68 00FE6C 01FE70 06FE73 01FE74 00FE75 01FE76",
   "00FEFD 01FEFF 00FF00 01FF01 06FF5F 01FF61 00FFBF 01FFC2 00FFC8 01FFCA 00FFD0 01FFD2 00FFD8",
   "01FFDA 00FFDD 01FFE0 00FFE7 01FFE8 00FFEF 04FFF9 03FFFC 01FFFD 0710000 001000C 071000D",
   "0010027 0710028 001003B 071003C 001003E 071003F 001004E 0710050 001005E 0710080 00100FB",
   "0710100 0010103 0710107 0010134 0710137 0810140 161018B 181018D 001018F 1010190 231019C",
   "001019D 16101A0 00101A1 10101D0 00101FE 1010280 001029D 10102A0 00102D1 16102E0 00102FC",
   "0510300 161031F 0510320 0010324 191032D 0510330 001034B 1610350 001037B 0710380 001039E",
   "071039F 08103A0 00103C4 08103C8 00103D6 0510400 0710426 0510428 071044E 001049E 07104A0",
   "00104AA 18104B0 00104D4 18104D8 00104FC 1610500 0010528 1610530 0010564 161056F 2410570",
   "001057B 241057C 001058B 241058C 0010593 2410594 0010596 2410597 00105A2 24105A3 00105B2",
   "24105B3 00105BA 24105BB 00105BD 27105C0 00105F4 1610600 0010737 1610740 0010756 1610760",
   "0010768 2410780 0010786 2410787 00107B1 24107B2 00107BB 0710800 0010806 0710808 0010809",
   "071080A 0010836 0710837 0010839 071083C 001083D 071083F 1110840 0010856 1110857 1610860",
   "001089F 16108A7 00108B0 17108E0 00108F3 17108F4 00108F6 17108FB 0910900 111091A 001091C",
   "091091F 1010920 001093A 101093F 0010940 1310980 00109B8 17109BC 13109BE 17109C0 00109D0",
   "17109D2 0810A00 0010A04 0810A05 0010A07 0810A0C 0010A14 0810A15 0010A18 0810A19 2010A34",
   "0010A36 0810A38 0010A3B 0810A3F 2010A48 0010A49 0810A50 0010A59 1110A60 1610A80 0010AA0",
   "1610AC0 0010AE7 1610AEB 0010AF7 1110B00 0010B36 1110B39 0010B56 1110B58 0010B73 1110B78",
   "1610B80 0010B92 1610B99 0010B9D 1610BA9 0010BB0 1110C00 0010C49 1710C80 0010CB3 1710CC0",
   "0010CF3 1710CFA 2010D00 0010D28 2010D30 0010D3A 2710D40 0010D66 2710D69 0010D86 2710D8E",
   "0010D90 1110E60 0010E7F 2310E80 0010EAA 2310EAB 0010EAE 2310EB0 0010EB2 2710EC2 0010EC5",
   "2710EFC 2510EFD 2010F00 0010F28 2010F30 0010F5A 2410F70 0010F8A 2310FB0 0010FCC 2110FE0",
   "0010FF7 1211000 001104E 1211052 2411070 0011076 161107F 1111080 24110C2 00110C3 20110CD",
   "00110CE 13110D0 00110E9 13110F0 00110FA 1311100 0011135 1311136 2011144 2311147 0011148",
   "1611150 0011177 1311180 17111C9 16111CD 23111CE 13111D0 16111DA 17111DB 00111E0 16111E1",
   "00111F5 1611200 0011212 1611213 181123E 251123F 0011242 1711280 0011287 1711288 0011289",
   "171128A 001128E 171128F 001129E 171129F 00112AA 16112B0 00112EB 16112F0 00112FA 1711300",
   "1611301 0011304 1611305 001130D 161130F 0011311 1611313 0011329 161132A 0011331 1611332",
   "0011334 1611335 001133A 201133B 161133C 0011345 1611347 0011349 161134B 001134E 1711350",
   "0011351 1611357 0011358 161135D 0011364 1611366 001136D 1611370 0011375 2711380 001138A",
   "271138B 001138C 271138E 001138F 2711390 00113B6 27113B7 00113C1 27113C2 00113C3 27113C5",
   "00113C6 27113C7 00113CB 27113CC 00113D6 27113D7 00113D9 27113E1 00113E3 1811400 231145A",
   "181145B 001145C 181145D 201145E 211145F 2311460 0011462 1611480 00114C8 16114D0 00114DA",
   "1611580 00115B6 16115B8 17115CA 00115DE 1611600 0011645 1611650 001165A 1811660 001166D",
   "1311680 21116B8 24116B9 00116BA 13116C0 00116CA 27116D0 00116E4 1711700 201171A 001171B",
   "171171D 001172C 1711730 2411740 0011747 2011800 001183C 16118A0 00118F3 16118FF 2311900",
   "0011907 2311909 001190A 231190C 0011914 2311915 0011917 2311918 0011936 2311937 0011939",
   "231193B 0011947 2311950 001195A 21119A0 00119A8 21119AA 00119D8 21119DA 00119E5 1911A00",
   "0011A48 1911A50 2111A84 1911A86 2011A9D 1911A9E 0011AA3 2411AB0 1611AC0 0011AF9 2511B00",
   "0011B0A 2711BC0 0011BE2 2711BF0 0011BFA 1811C00 0011C09 1811C0A 0011C37 1811C38 0011C46",
   "1811C50 0011C6D 1811C70 0011C90 1811C92 0011CA8 1811CA9 0011CB7 1911D00 0011D07 1911D08",
   "0011D0A 1911D0B 0011D37 1911D3A 0011D3B 1911D3C 0011D3E 1911D3F 0011D48 1911D50 0011D5A",
   "2011D60 0011D66 2011D67 0011D69 2011D6A 0011D8F 2011D90 0011D92 2011D93 0011D99 2011DA0",
   "0011DAA 2011EE0 0011EF9 2511F00 0011F11 2511F12 0011F3B 2511F3E 2711F5A 0011F5B 2311FB0",
   "0011FB1 2111FC0 0011FF2 2111FFF 0912000 161236F 1712399 001239A 0912400 1612463 001246F",
   "0912470 1612474 0012475 1712480 0012544 2412F90 0012FF3 1113000 251342F 2113430 2513439",
   "0013456 2713460 00143FB 1714400 0014647 2716100 001613A 1216800 0016A39 1616A40 0016A5F",
   "1616A60 0016A6A 1616A6E 2416A70 0016ABF 2416AC0 0016ACA 1616AD0 0016AEE 1616AF0 0016AF6",
   "1616B00 0016B46 1616B50 0016B5A 1616B5B 0016B62 1616B63 0016B78 1616B7D 0016B90 2716D40",
   "0016D7A 2016E40 0016E9B 1316F00 2116F45 0016F4B 2116F4F 1316F50 2116F7F 0016F88 1316F8F",
   "0016FA0 1816FE0 1916FE1 2116FE2 2316FE4 0016FE5 2316FF0 0016FF2 1817000 20187ED 21187F2",
   "00187F8 1818800 2318AF3 0018CD6 2718CFF 2318D00 0018D09 241AFF0 001AFF4 241AFF5 001AFFC",
   "241AFFD 001AFFF 121B000 191B002 241B11F 001B123 251B132 001B133 211B150 001B153 251B155",
   "001B156 211B164 001B168 191B170 001B2FC 161BC00 001BC6B 161BC70 001BC7D 161BC80 001BC89",
   "161BC90 001BC9A 161BC9C 001BCA4 271CC00 001CCFA 271CD00 001CEB4 241CF00 001CF2E 241CF30",
   "001CF47 241CF50 001CFC4 051D000 001D0F6 051D100 001D127 101D129 051D12A 171D1DE 241D1E9",
   "001D1EB 081D200 001D246 251D2C0 001D2D4 201D2E0 001D2F4 071D300 001D357 091D360 201D372",
   "001D379 051D400 001D455 051D456 001D49D 051D49E 001D4A0 051D4A2 001D4A3 051D4A5 001D4A7",
   "051D4A9 001D4AD 051D4AE 001D4BA 051D4BB 001D4BC 051D4BD 071D4C1 051D4C2 001D4C4 051D4C5",
   "001D506 051D507 001D50B 051D50D 001D515 051D516 001D51D 051D51E 001D53A 051D53B 001D53F",
   "051D540 001D545 051D546 001D547 051D54A 001D551 051D552 081D6A4 001D6A6 051D6A8 091D7CA",
   "001D7CC 051D7CE 171D800 001DA8C 171DA9B 001DAA0 171DAA1 001DAB0 241DF00 001DF1F 251DF25",
   "001DF2B 181E000 001E007 181E008 001E019 181E01B 001E022 181E023 001E025 181E026 001E02B",
   "251E030 001E06E 251E08F 001E090 211E100 001E12D 211E130 001E13E 211E140 001E14A 211E14E",
   "001E150 241E290 001E2AF 211E2C0 001E2FA 211E2FF 001E300 251E4D0 001E4FA 271E5D0 001E5FB",
   "271E5FF 001E600 241E7E0 001E7E7 241E7E8 001E7EC 241E7ED 001E7EF 241E7F0 001E7FF 161E800",
   "001E8C5 161E8C7 001E8D7 181E900 211E94B 001E94C 181E950 001E95A 181E95E 001E960 201EC71",
   "001ECB5 211ED01 001ED3E 131EE00 001EE04 131EE05 001EE20 131EE21 001EE23 131EE24 001EE25",
   "131EE27 001EE28 131EE29 001EE33 131EE34 001EE38 131EE39 001EE3A 131EE3B 001EE3C 131EE42",
   "001EE43 131EE47 001EE48 131EE49 001EE4A 131EE4B 001EE4C 131EE4D 001EE50 131EE51 001EE53",
   "131EE54 001EE55 131EE57 001EE58 131EE59 001EE5A 131EE5B 001EE5C 131EE5D 001EE5E 131EE5F",
   "001EE60 131EE61 001EE63 131EE64 001EE65 131EE67 001EE6B 131EE6C 001EE73 131EE74 001EE78",
   "131EE79 001EE7D 131EE7E 001EE7F 131EE80 001EE8A 131EE8B 001EE9C 131EEA1 001EEA4 131EEA5",
   "001EEAA 131EEAB 001EEBC 131EEF0 001EEF2 101F000 001F02C 101F030 001F094 121F0A0 001F0AF",
   "121F0B1 161F0BF 001F0C0 121F0C1 001F0D0 121F0D1 161F0E0 001F0F6 111F100 161F10B 231F10D",
   "111F110 201F12F 121F130 111F131 121F132 111F13D 121F13E 111F13F 121F140 111F142 121F143",
   "111F146 121F147 111F14A 121F14F 111F157 121F158 111F15F 121F160 131F16A 211F16C 231F16D",
   "121F170 111F179 121F17A 111F17B 121F17D 111F17F 121F180 111F18A 121F18E 111F190 121F191",
   "181F19B 231F1AD 001F1AE 121F1E6 111F200 121F201 001F203 111F210 121F232 181F23B 001F23C",
   "111F240 001F249 121F250 001F252 191F260 001F266 121F300 161F321 171F32D 121F330 161F336",
   "121F337 161F37D 171F37E 121F380 161F394 121F3A0 161F3C5 121F3C6 161F3CB 171F3CF 161F3D4",
   "121F3E0 161F3F1 171F3F8 121F400 161F43F 121F440 161F441 121F442 161F4F8 121F4F9 161F4FD",
   "171F4FF 121F500 161F53E 131F540 161F544 171F54B 121F550 161F568 181F57A 161F57B 181F5A4",
   "161F5A5 121F5FB 131F600 121F601 131F611 121F612 131F615 121F616 131F617 121F618 131F619",
   "121F61A 131F61B 121F61C 131F61F 121F620 131F626 121F628 131F62C 121F62D 131F62E 121F630",
   "131F634 121F635 161F641 171F643 121F645 161F650 121F680 161F6C6 171F6D0 181F6D1 191F6D3",
   "211F6D5 231F6D6 001F6D8 251F6DC 241F6DD 161F6E0 001F6ED 161F6F0 181F6F4 191F6F7 201F6F9",
   "211F6FA 231F6FB 001F6FD 121F700 251F774 001F777 251F77B 161F780 201F7D5 251F7D9 001F7DA",
   "211F7E0 001F7EC 241F7F0 001F7F1 161F800 001F80C 161F810 001F848 161F850 001F85A 161F860",
   "001F888 161F890 001F8AE 231F8B0 271F8B2 001F8BC 271F8C0 001F8C2 191F900 231F90C 211F90D",
   "171F910 181F919 191F91F 181F920 191F928 181F930 191F931 181F933 211F93F 181F940 191F94C",
   "201F94D 181F950 191F95F 201F96C 211F971 231F972 201F973 231F977 241F979 201F97A 211F97B",
   "201F97C 171F980 181F985 191F992 201F998 231F9A3 211F9A5 231F9AB 211F9AE 201F9B0 211F9BA",
   "171F9C0 201F9C1 211F9C3 231F9CB 241F9CC 211F9CD 191F9D0 201F9E7 211FA00 001FA54 201FA60",
   "001FA6E 211FA70 231FA74 251FA75 211FA78 241FA7B 001FA7D 211FA80 231FA83 251FA87 271FA89",
   "001FA8A 271FA8F 211FA90 231FA96 241FAA9 251FAAD 231FAB0 241FAB7 251FABB 271FABE 251FABF",
   "231FAC0 241FAC3 271FAC6 001FAC7 251FACE 231FAD0 241FAD7 251FADA 271FADC 001FADD 271FADF",
   "241FAE0 251FAE8 271FAE9 001FAEA 241FAF0 251FAF7 001FAF9 231FB00 001FB93 231FB94 271FBCB",
   "231FBF0 001FBFA 021FFFE 0520000 232A6D7 242A6DE 002A6E0 112A700 242B735 252B739 002B73A",
   "122B740 002B81E 172B820 002CEA2 192CEB0 002EBE1 262EBF0 002EE5E 052F800 002FA1E 022FFFE",
   "2330000 003134B 2531350 00323B0 023FFFE 0040000 024FFFE 0050000 025FFFE 0060000 026FFFE",
   "0070000 027FFFE 0080000 028FFFE 0090000 029FFFE 00A0000 02AFFFE 00B0000 02BFFFE 00C0000",
   "02CFFFE 00D0000 02DFFFE 00E0000 05E0001 00E0002 05E0020 00E0080 07E0100 00E01F0 02EFFFE"]

/-- The runs of ages. -/
def table : RunTable Nat := .ofRows 2 String.toNat? runRows

/-- The characters that the version at a place among the versions has. -/
def upTo (place : Nat) : CharSet :=
  ⟨CharSet.joined (table.spans fun n => 0 < n && n ≤ place + 1)⟩

end Descent.Age
