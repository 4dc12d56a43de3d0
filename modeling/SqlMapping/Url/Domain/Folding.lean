import SqlMapping.Unicode.Composition

/-!
# Characters of domain names

Domain names are compared after their characters are folded: capitals are small, letters of other
shapes and widths are plain, signs that do not show are left out. Some characters are refused.
-/

namespace SqlMapping.Url.Domain

/-- Characters that no domain name may hold. -/
def refusedRanges : List Unicode.Range := Unicode.readRanges [
  "80-9f 378-379 380-383 38b 38d 3a2 530 557-558 58b-58c 590 5c8-5cf 5eb-5ee 5f5-605 61c 6dd",
  "70e-70f 74b-74c 7b2-7bf 7fb-7fc 82e-82f 83f 85c-85d 85f 86b-86f 890-896 8e2 984 98d-98e",
  "991-992 9a9 9b1 9b3-9b5 9ba-9bb 9c5-9c6 9c9-9ca 9cf-9d6 9d8-9db 9de 9e4-9e5 9ff-a00 a04",
  "a0b-a0e a11-a12 a29 a31 a34 a37 a3a-a3b a3d a43-a46 a49-a4a a4e-a50 a52-a58 a5d a5f-a65",
  "a77-a80 a84 a8e a92 aa9 ab1 ab4 aba-abb ac6 aca ace-acf ad1-adf ae4-ae5 af2-af8 b00 b04",
  "b0d-b0e b11-b12 b29 b31 b34 b3a-b3b b45-b46 b49-b4a b4e-b54 b58-b5b b5e b64-b65 b78-b81 b84",
  "b8b-b8d b91 b96-b98 b9b b9d ba0-ba2 ba5-ba7 bab-bad bba-bbd bc3-bc5 bc9 bce-bcf bd1-bd6",
  "bd8-be5 bfb-bff c0d c11 c29 c3a-c3b c45 c49 c4e-c54 c57 c5b c5e-c5f c64-c65 c70-c76 c8d c91",
  "ca9 cb4 cba-cbb cc5 cc9 cce-cd4 cd7-cdb cdf ce4-ce5 cf0 cf4-cff d0d d11 d45 d49 d50-d53",
  "d64-d65 d80 d84 d97-d99 db2 dbc dbe-dbf dc7-dc9 dcb-dce dd5 dd7 de0-de5 df0-df1 df5-e00",
  "e3b-e3e e5c-e80 e83 e85 e8b ea4 ea6 ebe-ebf ec5 ec7 ecf eda-edb ee0-eff f48 f6d-f70 f98 fbd",
  "fcd fdb-fff 10c6 10c8-10cc 10ce-10cf 1249 124e-124f 1257 1259 125e-125f 1289 128e-128f 12b1",
  "12b6-12b7 12bf 12c1 12c6-12c7 12d7 1311 1316-1317 135b-135c 137d-137f 139a-139f 13f6-13f7",
  "13fe-13ff 1680 169d-169f 16f9-16ff 1716-171e 1737-173f 1754-175f 176d 1771 1774-177f",
  "17de-17df 17ea-17ef 17fa-17ff 181a-181f 1879-187f 18ab-18af 18f6-18ff 191f 192c-192f",
  "193c-193f 1941-1943 196e-196f 1975-197f 19ac-19af 19ca-19cf 19db-19dd 1a1c-1a1d 1a5f",
  "1a7d-1a7e 1a8a-1a8f 1a9a-1a9f 1aae-1aaf 1ade-1adf 1aec-1aff 1b4d 1bf4-1bfb 1c38-1c3a",
  "1c4a-1c4c 1c8b-1c8f 1cbb-1cbc 1cc8-1ccf 1cfb-1cff 1f16-1f17 1f1e-1f1f 1f46-1f47 1f4e-1f4f",
  "1f58 1f5a 1f5c 1f5e 1f7e-1f7f 1fb5 1fc5 1fd4-1fd5 1fdc 1ff0-1ff1 1ff5 1fff 200e-200f",
  "2024-2026 2028-202e 2065-2069 2072-2073 208f 209d-209f 20c2-20cf 20f1-20ff 218c-218f",
  "242a-243f 244b-245f 2488-249b 2b74-2b75 2cf4-2cf8 2d26 2d28-2d2c 2d2e-2d2f 2d68-2d6e",
  "2d71-2d7e 2d97-2d9f 2da7 2daf 2db7 2dbf 2dc7 2dcf 2dd7 2ddf 2e5e-2e7f 2e9a 2ef4-2eff",
  "2fd6-2fff 3040 3097-3098 3100-3104 3130 318f 31e6-31ef 321f 33c2 33c7 33d8 a48d-a48f",
  "a4c7-a4cf a62c-a63f a6f8-a6ff a7dd-a7f0 a82d-a82f a83a-a83f a878-a87f a8c6-a8cd a8da-a8df",
  "a954-a95e a97d-a97f a9ce a9da-a9dd a9ff aa37-aa3f aa4e-aa4f aa5a-aa5b aac3-aada aaf7-ab00",
  "ab07-ab08 ab0f-ab10 ab17-ab1f ab27 ab2f ab6c-ab6f abee-abef abfa-abff d7a4-d7af d7c7-d7ca",
  "d7fc-d7ff e000-f8ff fa6e-fa6f fada-faff fb07-fb12 fb18-fb1c fb37 fb3d fb3f fb42 fb45",
  "fdd0-fdef fe12 fe19-fe1f fe30 fe52-fe53 fe67 fe6c-fe6f fe75 fefd-fefe ff00 ffbf-ffc1",
  "ffc8-ffc9 ffd0-ffd1 ffd8-ffd9 ffdd-ffdf ffe7 ffef-ffff 1000c 10027 1003b 1003e 1004e-1004f",
  "1005e-1007f 100fb-100ff 10103-10106 10134-10136 1018f 1019d-1019f 101a1-101cf 101fe-1027f",
  "1029d-1029f 102d1-102df 102fc-102ff 10324-1032c 1034b-1034f 1037b-1037f 1039e 103c4-103c7",
  "103d6-103ff 1049e-1049f 104aa-104af 104d4-104d7 104fc-104ff 10528-1052f 10564-1056e 1057b",
  "1058b 10593 10596 105a2 105b2 105ba 105bd-105bf 105f4-105ff 10737-1073f 10756-1075f",
  "10768-1077f 10786 107b1 107bb-107ff 10806-10807 10809 10836 10839-1083b 1083d-1083e 10856",
  "1089f-108a6 108b0-108df 108f3 108f6-108fa 1091c-1091e 1093a-1093e 1095a-1097f 109b8-109bb",
  "109d0-109d1 10a04 10a07-10a0b 10a14 10a18 10a36-10a37 10a3b-10a3e 10a49-10a4f 10a59-10a5f",
  "10aa0-10abf 10ae7-10aea 10af7-10aff 10b36-10b38 10b56-10b57 10b73-10b77 10b92-10b98",
  "10b9d-10ba8 10bb0-10bff 10c49-10c7f 10cb3-10cbf 10cf3-10cf9 10d28-10d2f 10d3a-10d3f",
  "10d66-10d68 10d86-10d8d 10d90-10e5f 10e7f 10eaa 10eae-10eaf 10eb2-10ec1 10ec8-10ecf",
  "10ed9-10ef9 10f28-10f2f 10f5a-10f6f 10f8a-10faf 10fcc-10fdf 10ff7-10fff 1104e-11051",
  "11076-1107e 110bd 110c3-110cf 110e9-110ef 110fa-110ff 11135 11148-1114f 11177-1117f 111e0",
  "111f5-111ff 11212 11242-1127f 11287 11289 1128e 1129e 112aa-112af 112eb-112ef 112fa-112ff",
  "11304 1130d-1130e 11311-11312 11329 11331 11334 1133a 11345-11346 11349-1134a 1134e-1134f",
  "11351-11356 11358-1135c 11364-11365 1136d-1136f 11375-1137f 1138a 1138c-1138d 1138f 113b6",
  "113c1 113c3-113c4 113c6 113cb 113d6 113d9-113e0 113e3-113ff 1145c 11462-1147f 114c8-114cf",
  "114da-1157f 115b6-115b7 115de-115ff 11645-1164f 1165a-1165f 1166d-1167f 116ba-116bf",
  "116ca-116cf 116e4-116ff 1171b-1171c 1172c-1172f 11747-117ff 1183c-1189f 118f3-118fe",
  "11907-11908 1190a-1190b 11914 11917 11936 11939-1193a 11947-1194f 1195a-1199f 119a8-119a9",
  "119d8-119d9 119e5-119ff 11a48-11a4f 11aa3-11aaf 11af9-11aff 11b0a-11b5f 11b68-11bbf",
  "11be2-11bef 11bfa-11bff 11c09 11c37 11c46-11c4f 11c6d-11c6f 11c90-11c91 11ca8 11cb7-11cff",
  "11d07 11d0a 11d37-11d39 11d3b 11d3e 11d48-11d4f 11d5a-11d5f 11d66 11d69 11d8f 11d92",
  "11d99-11d9f 11daa-11daf 11ddc-11ddf 11dea-11edf 11ef9-11eff 11f11 11f3b-11f3d 11f5b-11faf",
  "11fb1-11fbf 11ff2-11ffe 1239a-123ff 1246f 12475-1247f 12544-12f8f 12ff3-12fff 13430-1343f",
  "13456-1345f 143fb-143ff 14647-160ff 1613a-167ff 16a39-16a3f 16a5f 16a6a-16a6d 16abf",
  "16aca-16acf 16aee-16aef 16af6-16aff 16b46-16b4f 16b5a 16b62 16b78-16b7c 16b90-16d3f",
  "16d7a-16e3f 16e9b-16e9f 16eb9-16eba 16ed4-16eff 16f4b-16f4e 16f88-16f8e 16fa0-16fdf",
  "16fe5-16fef 16ff7-16fff 18cd6-18cfe 18d1f-18d7f 18df3-1afef 1aff4 1affc 1afff 1b123-1b131",
  "1b133-1b14f 1b153-1b154 1b156-1b163 1b168-1b16f 1b2fc-1bbff 1bc6b-1bc6f 1bc7d-1bc7f",
  "1bc89-1bc8f 1bc9a-1bc9b 1bca4-1cbff 1ccfd-1ccff 1ceb4-1ceb9 1ced1-1cedf 1cef1-1ceff",
  "1cf2e-1cf2f 1cf47-1cf4f 1cfc4-1cfff 1d0f6-1d0ff 1d127-1d128 1d1eb-1d1ff 1d246-1d2bf",
  "1d2d4-1d2df 1d2f4-1d2ff 1d357-1d35f 1d379-1d3ff 1d455 1d49d 1d4a0-1d4a1 1d4a3-1d4a4",
  "1d4a7-1d4a8 1d4ad 1d4ba 1d4bc 1d4c4 1d506 1d50b-1d50c 1d515 1d51d 1d53a 1d53f 1d545",
  "1d547-1d549 1d551 1d6a6-1d6a7 1d7cc-1d7cd 1da8c-1da9a 1daa0 1dab0-1deff 1df1f-1df24",
  "1df2b-1dfff 1e007 1e019-1e01a 1e022 1e025 1e02b-1e02f 1e06e-1e08e 1e090-1e0ff 1e12d-1e12f",
  "1e13e-1e13f 1e14a-1e14d 1e150-1e28f 1e2af-1e2bf 1e2fa-1e2fe 1e300-1e4cf 1e4fa-1e5cf",
  "1e5fb-1e5fe 1e600-1e6bf 1e6df 1e6f6-1e6fd 1e700-1e7df 1e7e7 1e7ec 1e7ef 1e7ff 1e8c5-1e8c6",
  "1e8d7-1e8ff 1e94c-1e94f 1e95a-1e95d 1e960-1ec70 1ecb5-1ed00 1ed3e-1edff 1ee04 1ee20 1ee23",
  "1ee25-1ee26 1ee28 1ee33 1ee38 1ee3a 1ee3c-1ee41 1ee43-1ee46 1ee48 1ee4a 1ee4c 1ee50 1ee53",
  "1ee55-1ee56 1ee58 1ee5a 1ee5c 1ee5e 1ee60 1ee63 1ee65-1ee66 1ee6b 1ee73 1ee78 1ee7d 1ee7f",
  "1ee8a 1ee9c-1eea0 1eea4 1eeaa 1eebc-1eeef 1eef2-1efff 1f02c-1f02f 1f094-1f09f 1f0af-1f0b0",
  "1f0c0 1f0d0 1f0f6-1f100 1f1ae-1f1e5 1f203-1f20f 1f23c-1f23f 1f249-1f24f 1f252-1f25f",
  "1f266-1f2ff 1f6d9-1f6db 1f6ed-1f6ef 1f6fd-1f6ff 1f7da-1f7df 1f7ec-1f7ef 1f7f1-1f7ff",
  "1f80c-1f80f 1f848-1f84f 1f85a-1f85f 1f888-1f88f 1f8ae-1f8af 1f8bc-1f8bf 1f8c2-1f8cf",
  "1f8d9-1f8ff 1fa58-1fa5f 1fa6e-1fa6f 1fa7d-1fa7f 1fa8b-1fa8d 1fac7 1fac9-1facc 1fadd-1fade",
  "1faeb-1faee 1faf9-1faff 1fb93 1fbfb-1ffff 2a6e0-2a6ff 2b81e-2b81f 2ceae-2ceaf 2ebe1-2ebef",
  "2ee5e-2f7ff 2fa1e-2ffff 3134b-3134f 3347a-e00ff e01f0-10ffff"]

/-- Characters that are left out. -/
def ignoredRanges : List Unicode.Range := Unicode.readRanges [
  "ad 34f 115f-1160 17b4-17b5 180b-180f 200b 2060-2064 206a-206f 3164 fe00-fe0f feff ffa0",
  "1bca0-1bca3 1d173-1d17a e0100-e01ef"]

/-- Characters that fold to one character. -/
def foldShifts : List Unicode.Shift := Unicode.readShifts [
  "41-5a:32 a0:-128 aa:-73 b2-b3:-128 b5:775 b9:-136 ba:-75 c0-d6:32 d8-de:32 100-12e/2:1",
  "134-136/2:1 139-13d/2:1 141-147/2:1 14a-176/2:1 178:-121 179-17d/2:1 17f:-268 181:210",
  "182-184/2:1 186:206 187:1 189-18a:205 18b:1 18e:79 18f:202 190:203 191:1 193:205 194:207",
  "196:211 197:209 198:1 19c:211 19d:213 19f:214 1a0-1a4/2:1 1a6:218 1a7:1 1a9:218 1ac:1",
  "1ae:218 1af:1 1b1-1b2:217 1b3-1b5/2:1 1b7:219 1b8:1 1bc:1 1cd-1db/2:1 1de-1ee/2:1 1f4:1",
  "1f6:-97 1f7:-56 1f8-21e/2:1 220:-130 222-232/2:1 23a:10795 23b:1 23d:-163 23e:10792 241:1",
  "243:-195 244:69 245:71 246-24e/2:1 2b0:-584 2b1:-75 2b2:-584 2b3:-577 2b4:-59 2b5:-58",
  "2b6:-53 2b7:-576 2b8:-575 2e0:-125 2e1:-629 2e2:-623 2e3:-619 2e4:-79 340-341:-64 343:-48",
  "345:116 370-372/2:1 374:-187 376:1 37e:-835 37f:116 386:38 387:-720 388-38a:37 38c:64",
  "38e-38f:63 391-3a1:32 3a3-3ab:32 3cf:8 3d0:-30 3d1:-25 3d2:-13 3d3:-6 3d4:-9 3d5:-15 3d6:-22",
  "3d8-3ee/2:1 3f0:-54 3f1:-48 3f2:-47 3f4:-60 3f5:-64 3f7:1 3f9:-54 3fa:1 3fd-3ff:-130",
  "400-40f:80 410-42f:32 460-480/2:1 48a-4be/2:1 4c0:15 4c1-4cd/2:1 4d0-52e/2:1 531-556:48",
  "f0c:-1 10a0-10c5:7264 10c7:7264 10cd:7264 10fc:-32 13f8-13fd:-8 1c80:-6222 1c81:-6221",
  "1c82:-6212 1c83-1c84:-6210 1c85:-6211 1c86:-6204 1c87:-6180 1c88:35267 1c89:1",
  "1c90-1cba:-3008 1cbd-1cbf:-3008 1d2c:-7371 1d2d:-7239 1d2e-1d30/2:-7372 1d31:-7372",
  "1d32:-6997 1d33-1d3a:-7372 1d3c:-7373 1d3d:-6938 1d3e:-7374 1d3f:-7373 1d40-1d41:-7372",
  "1d42:-7371 1d43:-7394 1d44-1d45:-6900 1d46:-68 1d47:-7397 1d48-1d49:-7396 1d4a:-6897",
  "1d4b-1d4c:-6896 1d4d:-7398 1d4f:-7396 1d50:-7395 1d51:-7174 1d52:-7395 1d53:-6911",
  "1d54-1d55:-62 1d56:-7398 1d57-1d58:-7395 1d59:-60 1d5a:-6891 1d5b:-7397 1d5c:-55",
  "1d5d-1d5f:-6571 1d60-1d61:-6554 1d62:-7417 1d63:-7409 1d64-1d65:-7407 1d66-1d67:-6580",
  "1d68:-6567 1d69-1d6a:-6563 1d78:-6459 1d9b:-6985 1d9c:-7481 1d9d:-6984 1d9e:-7342 1d9f:-6979",
  "1da0:-7482 1da1:-6978 1da2:-6977 1da3:-6974 1da4-1da6:-6972 1da7:-44 1da8:-6923 1da9:-6972",
  "1daa:-37 1dab:-6924 1dac:-6971 1dad:-6973 1dae-1db1:-6972 1db2:-6970 1db3-1db4:-6961",
  "1db5:-7178 1db6-1db7:-6957 1db8:-156 1db9-1dba:-6958 1dbb:-7489 1dbc-1dbe:-6956 1dbf:-6663",
  "1e00-1e94/2:1 1e9b:-58 1e9e:-7615 1ea0-1efe/2:1 1f08-1f0f:-8 1f18-1f1d:-8 1f28-1f2f:-8",
  "1f38-1f3f:-8 1f48-1f4d:-8 1f59-1f5f/2:-8 1f68-1f6f:-8 1f71:-7109 1f73:-7110 1f75:-7111",
  "1f77:-7112 1f79:-7085 1f7b:-7086 1f7d:-7087 1fb8-1fb9:-8 1fba:-74 1fbb:-7183 1fbe:-7173",
  "1fc8:-86 1fc9:-7196 1fca:-86 1fcb:-7197 1fd3:-7235 1fd8-1fd9:-8 1fda:-100 1fdb:-7212",
  "1fe3:-7219 1fe8-1fe9:-8 1fea:-112 1feb:-7198 1fec:-7 1fef:-8079 1ff8:-128 1ff9:-7213",
  "1ffa:-126 1ffb:-7213 2000:-8160 2001:-8161 2002:-8162 2003:-8163 2004:-8164 2005:-8165",
  "2006:-8166 2007:-8167 2008:-8168 2009:-8169 200a:-8170 2011:-1 202f:-8207 205f:-8255",
  "2070:-8256 2071:-8200 2074-2079:-8256 207a:-8271 207b:407 207c:-8255 207d-207e:-8277",
  "207f:-8209 2080-2089:-8272 208a:-8287 208b:391 208c:-8271 208d-208e:-8293 2090:-8239",
  "2091:-8236 2092:-8227 2093:-8219 2094:-7739 2095:-8237 2096-2099:-8235 209a:-8234",
  "209b-209c:-8232 2102:-8351 2107:-7852 210a-210b:-8355 210c:-8356 210d:-8357 210e:-8358",
  "210f:-8168 2110:-8359 2111:-8360 2112:-8358 2113-2115/2:-8359 2119-211b:-8361 211c:-8362",
  "211d:-8363 2124:-8362 2126:-7517 2128:-8366 212a:-8383 212b:-8262 212c-212d:-8394 212f:-8394",
  "2130-2131:-8395 2132:28 2133:-8390 2134:-8389 2135-2138:-7013 2139:-8400 213c:-7548",
  "213d:-7562 213e:-7563 213f:-7551 2140:209 2145:-8417 2146-2147:-8418 2148-2149:-8415",
  "2160:-8439 2164:-8430 2169:-8433 216c:-8448 216d-216e:-8458 216f:-8450 2170:-8455 2174:-8446",
  "2179:-8449 217c:-8464 217d-217e:-8474 217f:-8466 2183:1 2329-232a:3295 2460-2468:-9263",
  "24b6-24cf:-9301 24d0-24e9:-9327 24ea:-9402 2c00-2c2f:48 2c60:1 2c62:-10743 2c63:-3814",
  "2c64:-10727 2c67-2c6b/2:1 2c6d:-10780 2c6e:-10749 2c6f:-10783 2c70:-10782 2c72:1 2c75:1",
  "2c7c:-11282 2c7d:-11271 2c7e-2c7f:-10815 2c80-2ce2/2:1 2ceb-2ced/2:1 2cf2:1 2d6f:-14",
  "2e9f:15662 2ef3:28844 2f00:7936 2f01:7975 2f02:7988 2f03:7996 2f04:8021 2f05:8064 2f06:8070",
  "2f07:8089 2f08:8114 2f09:8758 2f0a:8795 2f0b:8800 2f0c:8822 2f0d:8841 2f0e:8861 2f0f:8913",
  "2f10:8933 2f11:8943 2f12:9097 2f13:9190 2f14:9217 2f15:9221 2f16:9250 2f17:9258 2f18:9284",
  "2f19:9296 2f1a:9320 2f1b:9371 2f1c:9388 2f1d:9414 2f1e:10169 2f1f:10240 2f20:10699",
  "2f21:10721 2f22:10728 2f23:10738 2f24:10755 2f25:10830 2f26:11306 2f27:11353 2f28:11472",
  "2f29:11494 2f2a:11512 2f2b:11533 2f2c:11586 2f2d:11588 2f2e:11949 2f2f:11958 2f30:11969",
  "2f31:11981 2f32:12096 2f33:12103 2f34:12107 2f35:12223 2f36:12232 2f37:12244 2f38:12251",
  "2f39:12311 2f3a:12327 2f3b:12344 2f3c:12423 2f3d:13003 2f3e:13048 2f3f:13068 2f40:13807",
  "2f41:13811 2f42:13893 2f43:13908 2f44:13920 2f45:13940 2f46:13978 2f47:13982 2f48:14248",
  "2f49:14271 2f4a:14302 2f4b:15317 2f4c:15382 2f4d:15404 2f4e:15461 2f4f:15484 2f50:15492",
  "2f51:15498 2f52:15549 2f53:15553 2f54:15584 2f55:16662 2f56:17108 2f57:17119 2f58:17123",
  "2f59:17126 2f5a:17133 2f5b:17150 2f5c:17151 2f5d:17231 2f5e:17446 2f5f:17450 2f60:17788",
  "2f61:17797 2f62:17846 2f63:17852 2f64:17860 2f65:17867 2f66:17957 2f67:17963 2f68:18190",
  "2f69:18196 2f6a:18244 2f6b:18260 2f6c:18306 2f6d:18542 2f6e:18548 2f6f:18564 2f70:18890",
  "2f71:19015 2f72:19020 2f73:19201 2f74:19287 2f75:19332 2f76:19709 2f77:19841 2f78:20414",
  "2f79:20440 2f7a:20496 2f7b:20546 2f7c:20613 2f7d:20623 2f7e:20628 2f7f:20660 2f80:20735",
  "2f81:20744 2f82:21089 2f83:21095 2f84:21103 2f85:21111 2f86:21126 2f87:21140 2f88:21143",
  "2f89:21221 2f8a:21224 2f8b:21229 2f8c:22209 2f8d:22238 2f8e:22706 2f8f:22717 2f90:22739",
  "2f91:23021 2f92:23033 2f93:23103 2f94:23148 2f95:23714 2f96:23728 2f97:23742 2f98:23776",
  "2f99:23812 2f9a:24010 2f9b:24021 2f9c:24087 2f9d:24334 2f9e:24364 2f9f:24572 2fa0:24592",
  "2fa1:24596 2fa2:24815 2fa3:24998 2fa4:25122 2fa5:25127 2fa6:25131 2fa7:26064 2fa8:26072",
  "2fa9:26227 2faa:26380 2fab:26382 2fac:26428 2fad:26532 2fae:26544 2faf:26547 2fb0:26553",
  "2fb1:26650 2fb2:26683 2fb3:26688 2fb4:26701 2fb5:26867 2fb6:26917 2fb7:26920 2fb8:27102",
  "2fb9:27104 2fba:27122 2fbb:27373 2fbc:27420 2fbd:27426 2fbe:27495 2fbf:27504 2fc0:27506",
  "2fc1:27515 2fc2:27544 2fc3:27938 2fc4:28337 2fc5:28346 2fc6:28383 2fc7:28404 2fc8:28411",
  "2fc9:28420 2fca:28423 2fcb:28462 2fcc:28465 2fcd:28481 2fce:28485 2fcf:28497 2fd0:28523",
  "2fd1:28537 2fd2:28544 2fd3:28602 2fd4:28616 2fd5:28619 3000:-12256 3002:-12244 3036:-36",
  "3038:8969 3039-303a:8971 3131-3132:-8241 3133:-8073 3134:-8242 3135-3136:-8073",
  "3137-3139:-8244 313a-313f:-8074 3140:-8230 3141-3143:-8251 3144:-8227 3145-314e:-8252",
  "314f-3163:-8174 3165-3166:-8273 3167-3168:-8096 3169:-8093 316a:-8092 316b:-8088 316c:-8085",
  "316d:-8084 316e:-8274 316f:-8082 3170:-8081 3171-3172:-8276 3173:-8275 3174-3175:-8274",
  "3176:-8271 3177:-8270 3178-317c:-8269 317d:-8267 317e:-8264 317f:-8255 3180:-8249 3181:-8245",
  "3182-3183:-8081 3184-3186:-8237 3187-3188:-8195 3189:-8193 318a-318b:-8185 318c:-8184",
  "318d:-8175 318e:-8173 3192:7278 3193:7417 3194:7285 3195:9542 3196:7284 3197:7318 3198:7283",
  "3199:17305 319a:7359 319b:7294 319c:7269 319d:10124 319e:9618 319f:7451 3244:8971 3245:11319",
  "3246:13121 3247:18760 3260:-8544 3261-3262:-8543 3263-3265:-8542 3266:-8541 3267-3268:-8540",
  "3269-326d:-8539 326e:31122 326f:32297 3270:32884 3271:34059 3272:34646 3273:35233 3274:36408",
  "3275:37583 3276:38170 3277:39345 3278:39932 3279:40519 327a:41106 327b:41693 327e:37938",
  "3280:7040 3281:7179 3282:7047 3283:9304 3284:7184 3285:7912 3286:7037 3287:7908 3288:7125",
  "3289:8376 328a:13438 328b:15840 328c:14760 328d:13467 328e:24387 328f:9360 3290:13141",
  "3291:13721 3292:13431 3293:18091 3294:8569 3295:16356 3296:23051 3297:18118 3298:8220",
  "3299:18239 329a:17053 329b:9944 329c:24013 329d:7821 329e:8402 329f:14921 32a0:25957",
  "32a1:7280 32a2:7927 32a3:14528 32a4:7014 32a5:7048 32a6:7013 32a7:11071 32a8:8523 32a9:8338",
  "32aa:10477 32ab:10427 32ac:17463 32ad:7252 32ae:23065 32af:8357 32b0:9836 32d0:-558",
  "32d1:-557 32d2:-556 32d3:-555 32d4-32d5:-554 32d6:-553 32d7:-552 32d8:-551 32d9:-550",
  "32da:-549 32db:-548 32dc:-547 32dd:-546 32de:-545 32df:-544 32e0:-543 32e1:-541 32e2:-540",
  "32e3:-539 32e4-32e9:-538 32ea:-536 32eb:-534 32ec:-532 32ed:-530 32ee-32f2:-528 32f3:-527",
  "32f4:-526 32f5-32fa:-525 32fb-32fe:-524 a640-a66c/2:1 a680-a69a/2:1 a69c:-41554 a69d:-41553",
  "a722-a72e/2:1 a732-a76e/2:1 a770:-1 a779-a77b/2:1 a77d:-35332 a77e-a786/2:1 a78b:1",
  "a78d:-42280 a790-a792/2:1 a796-a7a8/2:1 a7aa:-42308 a7ab:-42319 a7ac:-42315 a7ad:-42305",
  "a7ae:-42308 a7b0:-42258 a7b1:-42282 a7b2:-42261 a7b3:928 a7b4-a7c2/2:1 a7c4:-48 a7c5:-42307",
  "a7c6:-35384 a7c7-a7c9/2:1 a7cb:-42343 a7cc-a7da/2:1 a7dc:-42561 a7f1:-42878 a7f2:-42895",
  "a7f3:-42893 a7f4:-42883 a7f5:1 a7f8:-42705 a7f9:-42662 ab5c:-1077 ab5d:-38 ab5e:-43251",
  "ab5f:-13 ab69:-43228 ab70-abbf:-38864 f900:-27832 f901:-37389 f902:-27192 f903:-27707",
  "f904:-35379 f905:-43731 f906:-42273 f907:-22891 f908:-22892 f909:-40888 f90a:-26425",
  "f90b:-41860 f90c:-40900 f90d:-38679 f90e:-33445 f90f:-31114 f910:-29393 f911:-29015",
  "f912:-28698 f913:-26756 f914:-36626 f915:-35834 f916:-34877 f917:-34105 f918:-29915",
  "f919:-26543 f91a:-24361 f91b:-43673 f91c:-42407 f91d:-36377 f91e:-34563 f91f:-29426",
  "f920:-23298 f921:-39889 f922:-35127 f923:-29526 f924:-28608 f925:-38492 f926:-30542",
  "f927:-28936 f928:-39518 f929:-37394 f92a:-35776 f92b:-34351 f92c:-26718 f92d:-43431",
  "f92e:-42871 f92f:-42577 f930:-37996 f931:-36446 f932:-34594 f933:-33356 f934:-31027",
  "f935:-29487 f936:-29402 f937:-27464 f938:-25094 f939:-24010 f93a:-23360 f93b:-32943",
  "f93c:-32701 f93d:-31645 f93e:-30069 f93f:-26171 f940:-23233 f941:-28267 f942:-41059",
  "f943:-39487 f944:-31972 f945:-30919 f946:-34532 f947:-32893 f948:-27782 f949:-25170",
  "f94a:-41074 f94b:-40169 f94c:-36665 f94d:-35699 f94e:-35391 f94f:-31776 f950:-31513",
  "f951:-25350 f952:-42624 f953:-30920 f954:-42872 f955:-42889 f956:-32570 f957:-31641",
  "f958:-30055 f959:-25316 f95a:-28122 f95b:-38540 f95c:-36698 f95d:-28255 f95e:-43813",
  "f95f:-40312 f960:-39246 f961:-34266 f962:-33778 f963:-42572 f964:-32873 f965:-43430",
  "f966:-39357 f967:-43866 f968:-35996 f969:-37873 f96a:-31816 f96b:-42408 f96c:-41230",
  "f96d:-33388 f96e:-29989 f96f:-28357 f970:-36278 f971:-27073 f972:-36074 f973:-38517",
  "f974:-30351 f975:-38357 f976:-33809 f977:-43721 f978:-43023 f979:-42928 f97a:-37113",
  "f97b:-31892 f97c:-30477 f97d:-28331 f97e:-26543 f97f:-42634 f980:-42302 f981:-40974",
  "f982:-39574 f983:-37822 f984:-35206 f985:-32859 f986:-25561 f987:-24349 f988:-23281",
  "f989:-23227 f98a:-42735 f98b:-37573 f98c:-36373 f98d:-27179 f98e:-39706 f98f:-38911",
  "f990:-38800 f991:-38135 f992:-35439 f993:-34890 f994:-34059 f995:-32715 f996:-31650",
  "f997:-31016 f998:-27250 f999:-29867 f99a:-26999 f99b:-26193 f99c:-42885 f99d:-42746",
  "f99e:-42209 f99f:-35031 f9a0:-28894 f9a1:-28407 f9a2:-39641 f9a3:-39342 f9a4:-38441",
  "f9a5:-36343 f9a6:-32104 f9a7:-34354 f9a8:-43716 f9a9:-41648 f9aa:-40387 f9ab:-39921",
  "f9ac:-39312 f9ad:-34299 f9ae:-34117 f9af:-31253 f9b0:-31082 f9b1:-26493 f9b2:-25276",
  "f9b3:-25195 f9b4:-24988 f9b5:-43562 f9b6:-32776 f9b7:-26627 f9b8:-25344 f9b9:-39128",
  "f9ba:-43828 f9bb:-43233 f9bc:-40398 f9bd:-40318 f9be:-37925 f9bf:-36797 f9c0:-34802",
  "f9c1:-33663 f9c2:-29894 f9c3:-26951 f9c4:-23095 f9c5:-37693 f9c6:-25496 f9c7:-42814",
  "f9c8:-37453 f9c9:-37334 f9ca:-35977 f9cb:-35631 f9cc:-34243 f9cd:-33908 f9ce:-33123",
  "f9cf:-31935 f9d0:-24946 f9d1:-43108 f9d2:-38820 f9d3:-25435 f9d4:-43433 f9d5:-40124",
  "f9d6:-35820 f9d7:-27309 f9d8:-39501 f9d9:-39061 f9da:-37315 f9db:-34388 f9dc:-25430",
  "f9dd:-42932 f9de:-42447 f9df:-40314 f9e0:-37837 f9e1:-37523 f9e2:-37178 f9e3:-36094",
  "f9e4:-34270 f9e5:-33795 f9e6:-31341 f9e7:-28952 f9e8:-28935 f9e9:-26653 f9ea:-25352",
  "f9eb:-42668 f9ec:-35634 f9ed:-42448 f9ee:-34846 f9ef:-34135 f9f0:-29686 f9f1:-25422",
  "f9f2:-23963 f9f3:-23380 f9f4:-37469 f9f5:-35882 f9f6:-30734 f9f7:-32556 f9f8:-32472",
  "f9f9:-32103 f9fa:-34618 f9fb:-35170 f9fc:-28324 f9fd:-43837 f9fe:-30408 f9ff:-42949",
  "fa00:-43001 fa01:-39771 fa02:-38703 fa03:-32045 fa04:-40575 fa05:-36071 fa06:-37714",
  "fa07:-27340 fa08:-29116 fa09:-25532 fa0a:-28799 fa0b:-39736 fa0c:-43212 fa0d:-42061",
  "fa10:-41398 fa12:-37790 fa15:-43063 fa16:-34540 fa17:-33613 fa18:-32988 fa19:-32955",
  "fa1a:-32949 fa1b:-32908 fa1c:-25286 fa1d:-32095 fa1e:-31329 fa20:-29710 fa22:-28458",
  "fa25:-27117 fa26:-26921 fa2a:-24891 fa2b:-24879 fa2c:-24836 fa2d:-23673 fa2e:-26960",
  "fa2f:-25464 fa30:-43650 fa31:-43338 fa32:-43237 fa33:-42858 fa34:-42832 fa35:-42724",
  "fa36:-42137 fa37:-42033 fa38:-41936 fa39:-41465 fa3a:-41362 fa3b:-40407 fa3c:-40398",
  "fa3d:-39337 fa3e:-39126 fa3f:-39089 fa40:-38990 fa41:-38130 fa42:-37984 fa43:-37810",
  "fa44:-37311 fa45:-36046 fa46:-35884 fa47:-35621 fa48:-35034 fa49:-34846 fa4a:-34344",
  "fa4b:-33210 fa4c:-33038 fa4d:-33028 fa4e:-33030 fa4f:-33023 fa50:-33018 fa51:-33012",
  "fa52-fa53:-32965 fa54:-32788 fa55:-32724 fa56:-32406 fa57:-31843 fa58:-31823 fa59:-31768",
  "fa5a:-31464 fa5b:-31318 fa5c:-30831 fa5d:-30692 fa5e:-30693 fa5f:-30216 fa60:-29008",
  "fa61:-28875 fa62:-28513 fa63:-28458 fa64:-28049 fa65:-27997 fa66:-27312 fa67:-27183",
  "fa68:-25477 fa69:-25194 fa6a:-25135 fa6b:-39414 fa6c:84098 fa6d:-30805 fa70:-44106",
  "fa71:-43196 fa72:-43274 fa73:-43763 fa74:-43311 fa75:-43253 fa76:-42927 fa77:-42877",
  "fa78:-42203 fa79:-42276 fa7a:-42209 fa7b:-42137 fa7c:-41506 fa7d:-41418 fa7e:-41274",
  "fa7f:-41259 fa80:-40990 fa81:-40793 fa82:-39856 fa83:-39850 fa84:-39707 fa85:-39640",
  "fa86:-39342 fa87:-39225 fa88:-39296 fa89:-39163 fa8a:-39210 fa8b:-39065 fa8c:-39000",
  "fa8d:-38601 fa8e:-38514 fa8f:-38461 fa90:-38202 fa91:-37917 fa92:-37755 fa93:-37752",
  "fa94:-37694 fa95:-36636 fa96:-36572 fa97:-36182 fa98:-35773 fa99:-35790 fa9a:-35704",
  "fa9b:-35453 fa9c:-35118 fa9d:-33526 fa9e:-34921 fa9f:-34800 faa0:-34678 faa1:-34352",
  "faa2:-34204 faa3:-34152 faa4:-33927 faa5:-33926 faa6:-33756 faa7:-33740 faa8:-33716",
  "faa9:-33631 faaa:-33642 faab:-33247 faac:-32763 faad:-32493 faae:-32307 faaf:-32084",
  "fab0:-31932 fab1:-31603 fab2:-31405 fab3:-30561 fab4:-30405 fab5:-29500 fab6:-29045",
  "fab7:-28977 fab8:-28962 fab9:-28666 faba:-28610 fabb:-28656 fabc:-28603 fabd:-28607",
  "fabe:-28625 fabf:-28550 fac0:-28470 fac1:-28089 fac2:-27530 fac3:-27217 fac4:-26923",
  "fac5:-26703 fac6:-25674 fac7:-25572 fac8:-25458 fac9:-25326 faca:-25291 facb:-25280",
  "facc:-25233 facd:-24507 face:-23346 facf:77179 fad0:77172 fad1:80132 fad2:-48949 fad3:-47803",
  "fad4:-47771 fad5:87924 fad6:90618 fad7:99324 fad8:-23445 fad9:-23371 fb20:-62782 fb21:-62801",
  "fb22-fb23:-62799 fb24-fb26:-62793 fb27:-62783 fb28:-62782 fb29:-64254 fb50:-62687",
  "fb51:-62688 fb52:-62679 fb53:-62680 fb54:-62681 fb55:-62682 fb56:-62680 fb57:-62681",
  "fb58:-62682 fb59:-62683 fb5a:-62682 fb5b:-62683 fb5c:-62684 fb5d:-62685 fb5e:-62692",
  "fb5f:-62693 fb60:-62694 fb61:-62695 fb62:-62691 fb63:-62692 fb64:-62693 fb65:-62694",
  "fb66:-62701 fb67:-62702 fb68:-62703 fb69:-62704 fb6a:-62662 fb6b:-62663 fb6c:-62664",
  "fb6d:-62665 fb6e:-62664 fb6f:-62665 fb70:-62666 fb71:-62667 fb72:-62702 fb73:-62703",
  "fb74:-62704 fb75:-62705 fb76:-62707 fb77:-62708 fb78:-62709 fb79:-62710 fb7a:-62708",
  "fb7b:-62709 fb7c:-62710 fb7d-fb7e:-62711 fb7f:-62712 fb80:-62713 fb81:-62714 fb82:-62709",
  "fb83:-62710 fb84:-62712 fb85:-62713 fb86:-62712 fb87:-62713 fb88:-62720 fb89:-62721",
  "fb8a:-62706 fb8b:-62707 fb8c:-62715 fb8d:-62716 fb8e:-62693 fb8f:-62694 fb90:-62695",
  "fb91:-62696 fb92:-62691 fb93:-62692 fb94:-62693 fb95:-62694 fb96:-62691 fb97:-62692",
  "fb98:-62693 fb99:-62694 fb9a:-62697 fb9b:-62698 fb9c:-62699 fb9d:-62700 fb9e:-62692",
  "fb9f-fba0:-62693 fba1:-62694 fba2:-62695 fba3:-62696 fba4:-62692 fba5-fba6:-62693",
  "fba7:-62694 fba8:-62695 fba9:-62696 fbaa:-62700 fbab:-62701 fbac:-62702 fbad:-62703",
  "fbae:-62684 fbaf-fbb0:-62685 fbb1:-62686 fbd3:-62758 fbd4:-62759 fbd5:-62760 fbd6:-62761",
  "fbd7:-62736 fbd8:-62737 fbd9:-62739 fbda:-62740 fbdb:-62739 fbdc:-62740 fbde:-62739",
  "fbdf:-62740 fbe0:-62747 fbe1:-62748 fbe2:-62745 fbe3:-62746 fbe4:-62740 fbe5:-62741",
  "fbe6:-62742 fbe7:-62743 fbe8:-62879 fbe9:-62880 fbfc:-62768 fbfd:-62769 fbfe:-62770",
  "fbff:-62771 fe10:-64996 fe11:-52752 fe13-fe14:-64985 fe15:-65012 fe16:-64983",
  "fe17-fe18:-52737 fe31:-56861 fe32:-56863 fe33:-64980 fe34:-64981 fe35-fe36:-65037",
  "fe37:-64956 fe38:-64955 fe39-fe3a:-52773 fe3b-fe3c:-52779 fe3d-fe3e:-52787 fe3f-fe40:-52791",
  "fe41-fe44:-52789 fe47:-65004 fe48:-65003 fe4d:-65006 fe4e:-65007 fe4f:-65008 fe50:-65060",
  "fe51:-52816 fe54:-65049 fe55:-65051 fe56:-65047 fe57:-65078 fe58:-56900 fe59-fe5a:-65073",
  "fe5b:-64992 fe5c:-64991 fe5d-fe5e:-52809 fe5f:-65084 fe60:-65082 fe61-fe62:-65079",
  "fe63:-65078 fe64:-65064 fe65:-65063 fe66:-65065 fe68:-65036 fe69-fe6a:-65093 fe6b:-65067",
  "fe80-fe81:-63583 fe82-fe83:-63584 fe84-fe85:-63585 fe86-fe87:-63586 fe88-fe89:-63587",
  "fe8a:-63588 fe8b:-63589 fe8c-fe8d:-63590 fe8e-fe8f:-63591 fe90:-63592 fe91:-63593",
  "fe92-fe93:-63594 fe94-fe95:-63595 fe96:-63596 fe97:-63597 fe98-fe99:-63598 fe9a:-63599",
  "fe9b:-63600 fe9c-fe9d:-63601 fe9e:-63602 fe9f:-63603 fea0-fea1:-63604 fea2:-63605",
  "fea3:-63606 fea4-fea5:-63607 fea6:-63608 fea7:-63609 fea8-fea9:-63610 feaa-feab:-63611",
  "feac-fead:-63612 feae-feaf:-63613 feb0-feb1:-63614 feb2:-63615 feb3:-63616 feb4-feb5:-63617",
  "feb6:-63618 feb7:-63619 feb8-feb9:-63620 feba:-63621 febb:-63622 febc-febd:-63623",
  "febe:-63624 febf:-63625 fec0-fec1:-63626 fec2:-63627 fec3:-63628 fec4-fec5:-63629",
  "fec6:-63630 fec7:-63631 fec8-fec9:-63632 feca:-63633 fecb:-63634 fecc-fecd:-63635",
  "fece:-63636 fecf:-63637 fed0:-63638 fed1:-63632 fed2:-63633 fed3:-63634 fed4-fed5:-63635",
  "fed6:-63636 fed7:-63637 fed8-fed9:-63638 feda:-63639 fedb:-63640 fedc-fedd:-63641",
  "fede:-63642 fedf:-63643 fee0-fee1:-63644 fee2:-63645 fee3:-63646 fee4-fee5:-63647",
  "fee6:-63648 fee7:-63649 fee8-fee9:-63650 feea:-63651 feeb:-63652 feec-feed:-63653",
  "feee-feef:-63654 fef0-fef1:-63655 fef2:-63656 fef3:-63657 fef4:-63658 ff01-ff20:-65248",
  "ff21-ff3a:-65216 ff3b-ff5e:-65248 ff5f-ff60:-54746 ff61:-65331 ff62-ff63:-53078 ff64:-53091",
  "ff65:-52842 ff66:-52852 ff67:-52934 ff68:-52933 ff69:-52932 ff6a:-52931 ff6b:-52930",
  "ff6c:-52873 ff6d:-52872 ff6e:-52871 ff6f:-52908 ff70:-52852 ff71:-52943 ff72:-52942",
  "ff73:-52941 ff74:-52940 ff75-ff76:-52939 ff77:-52938 ff78:-52937 ff79:-52936 ff7a:-52935",
  "ff7b:-52934 ff7c:-52933 ff7d:-52932 ff7e:-52931 ff7f:-52930 ff80:-52929 ff81:-52928",
  "ff82:-52926 ff83:-52925 ff84:-52924 ff85-ff8a:-52923 ff8b:-52921 ff8c:-52919 ff8d:-52917",
  "ff8e:-52915 ff8f-ff93:-52913 ff94:-52912 ff95:-52911 ff96-ff9b:-52910 ff9c:-52909",
  "ff9d:-52906 ff9e-ff9f:-52997 ffa1-ffa2:-61089 ffa3:-60921 ffa4:-61090 ffa5-ffa6:-60921",
  "ffa7-ffa9:-61092 ffaa-ffaf:-60922 ffb0:-61078 ffb1-ffb3:-61099 ffb4:-61075 ffb5-ffbe:-61100",
  "ffc2-ffc7:-61025 ffca-ffcf:-61027 ffd2-ffd7:-61029 ffda-ffdc:-61031 ffe0-ffe1:-65342",
  "ffe2:-65334 ffe4:-65342 ffe5:-65344 ffe6:-57149 ffe8:-56038 ffe9-ffec:-56921 ffed:-55885",
  "ffee:-55843 10400-10427:40 104b0-104d3:40 10570-1057a:39 1057c-1058a:39 1058c-10592:39",
  "10594-10595:39 10781-10782:-66737 10783:-67229 10784:-66795 10785:-66866 10787:-66788",
  "10788:-23586 10789:-66788 1078a:-66790 1078b-1078c:-66869 1078d:-59900 1078e:-66870",
  "1078f:-66865 10790:-66791 10791:-66861 10792:-66864 10793:-66867 10794:-66809 10795:-67182",
  "10796:-66810 10797:-66864 10798:-66836 10799-1079a:-66799 1079b:-66863 1079c:55144",
  "1079d:-24591 1079e:-66864 1079f:55142 107a0:-66834 107a1:55141 107a2:-67242",
  "107a3-107a4:-66861 107a5:-67380 107a6:-66860 107a7:55137 107a8-107a9:-66859 107aa:-66858",
  "107ab:-66819 107ac:-66822 107ad:-23622 107ae:-66823 107af:-66855 107b0:-56127 107b2:-66851",
  "107b3-107b4:-66834 107b5:-66845 107b6-107b8:-67062 107b9:55121 107ba:55140 10c80-10cb2:64",
  "10d50-10d65:32 118a0-118bf:32 16e40-16e5f:32 16ea0-16eb8:27 1ccd6-1ccef:-117877",
  "1ccf0-1ccf9:-117952 1d400-1d419:-119711 1d41a-1d433:-119737 1d434-1d44d:-119763",
  "1d44e-1d454:-119789 1d456-1d467:-119789 1d468-1d481:-119815 1d482-1d49b:-119841",
  "1d49c-1d49e/2:-119867 1d49f:-119867 1d4a2:-119867 1d4a5-1d4a6:-119867 1d4a9-1d4ac:-119867",
  "1d4ae-1d4b5:-119867 1d4b6-1d4b9:-119893 1d4bb-1d4bd/2:-119893 1d4be-1d4c3:-119893",
  "1d4c5-1d4cf:-119893 1d4d0-1d4e9:-119919 1d4ea-1d503:-119945 1d504-1d505:-119971",
  "1d507-1d50a:-119971 1d50d-1d514:-119971 1d516-1d51c:-119971 1d51e-1d537:-119997",
  "1d538-1d539:-120023 1d53b-1d53e:-120023 1d540-1d544:-120023 1d546:-120023",
  "1d54a-1d550:-120023 1d552-1d56b:-120049 1d56c-1d585:-120075 1d586-1d59f:-120101",
  "1d5a0-1d5b9:-120127 1d5ba-1d5d3:-120153 1d5d4-1d5ed:-120179 1d5ee-1d607:-120205",
  "1d608-1d621:-120231 1d622-1d63b:-120257 1d63c-1d655:-120283 1d656-1d66f:-120309",
  "1d670-1d689:-120335 1d68a-1d6a3:-120361 1d6a4:-120179 1d6a5:-119918 1d6a8-1d6b8:-119543",
  "1d6b9:-119553 1d6ba-1d6c0:-119543 1d6c1:-111802 1d6c2-1d6d2:-119569 1d6d3:-119568",
  "1d6d4-1d6da:-119569 1d6db:-111833 1d6dc:-119591 1d6dd:-119589 1d6de:-119588 1d6df:-119577",
  "1d6e0:-119583 1d6e1:-119585 1d6e2-1d6f2:-119601 1d6f3:-119611 1d6f4-1d6fa:-119601",
  "1d6fb:-111860 1d6fc-1d70c:-119627 1d70d:-119626 1d70e-1d714:-119627 1d715:-111891",
  "1d716:-119649 1d717:-119647 1d718:-119646 1d719:-119635 1d71a:-119641 1d71b:-119643",
  "1d71c-1d72c:-119659 1d72d:-119669 1d72e-1d734:-119659 1d735:-111918 1d736-1d746:-119685",
  "1d747:-119684 1d748-1d74e:-119685 1d74f:-111949 1d750:-119707 1d751:-119705 1d752:-119704",
  "1d753:-119693 1d754:-119699 1d755:-119701 1d756-1d766:-119717 1d767:-119727",
  "1d768-1d76e:-119717 1d76f:-111976 1d770-1d780:-119743 1d781:-119742 1d782-1d788:-119743",
  "1d789:-112007 1d78a:-119765 1d78b:-119763 1d78c:-119762 1d78d:-119751 1d78e:-119757",
  "1d78f:-119759 1d790-1d7a0:-119775 1d7a1:-119785 1d7a2-1d7a8:-119775 1d7a9:-112034",
  "1d7aa-1d7ba:-119801 1d7bb:-119800 1d7bc-1d7c2:-119801 1d7c3:-112065 1d7c4:-119823",
  "1d7c5:-119821 1d7c6:-119820 1d7c7:-119809 1d7c8:-119815 1d7c9:-119817 1d7ca:-119789",
  "1d7cb:-119790 1d7ce-1d7d7:-120734 1d7d8-1d7e1:-120744 1d7e2-1d7eb:-120754",
  "1d7ec-1d7f5:-120764 1d7f6-1d7ff:-120774 1e030-1e038:-121856 1e039-1e03b:-121855",
  "1e03c-1e046:-121854 1e047:-121852 1e048-1e049:-121851 1e04a:-80321 1e04b:-121714",
  "1e04c:-121846 1e04d:-121845 1e04e:-121701 1e04f:-121760 1e050:-121729 1e051-1e059:-121889",
  "1e05a-1e05b:-121888 1e05c-1e05d:-121886 1e05e:-121885 1e05f-1e064:-121884",
  "1e065-1e066:-121883 1e067:-121814 1e068:-121874 1e069:-121876 1e06a:-121867 1e06b:-121792",
  "1e06c:-80411 1e06d:-121788 1e900-1e921:34 1ee00-1ee01:-124889 1ee02:-124886 1ee03:-124884",
  "1ee05:-124861 1ee06:-124884 1ee07:-124890 1ee08:-124881 1ee09:-124863 1ee0a-1ee0d:-124871",
  "1ee0e:-124891 1ee0f:-124886 1ee10:-124879 1ee11:-124892 1ee12:-124880 1ee13:-124898",
  "1ee14:-124896 1ee15-1ee16:-124907 1ee17:-124905 1ee18:-124904 1ee19:-124899 1ee1a:-124898",
  "1ee1b:-124897 1ee1c:-124846 1ee1d:-124771 1ee1e:-124797 1ee1f:-124848 1ee21:-124921",
  "1ee22:-124918 1ee24:-124893 1ee27:-124922 1ee29:-124895 1ee2a-1ee2d:-124903 1ee2e:-124923",
  "1ee2f:-124918 1ee30:-124911 1ee31:-124924 1ee32:-124912 1ee34:-124928 1ee35-1ee36:-124939",
  "1ee37:-124937 1ee39:-124931 1ee3b:-124929 1ee42:-124950 1ee47:-124954 1ee49:-124927",
  "1ee4b-1ee4d/2:-124935 1ee4e:-124955 1ee4f:-124950 1ee51:-124956 1ee52:-124944 1ee54:-124960",
  "1ee57:-124969 1ee59:-124963 1ee5b:-124961 1ee5d:-124835 1ee5f:-124912 1ee61:-124985",
  "1ee62:-124982 1ee64:-124957 1ee67:-124986 1ee68:-124977 1ee69:-124959 1ee6a-1ee6c/2:-124967",
  "1ee6d:-124967 1ee6e:-124987 1ee6f:-124982 1ee70:-124975 1ee71:-124988 1ee72:-124976",
  "1ee74:-124992 1ee75-1ee76:-125003 1ee77:-125001 1ee79:-124995 1ee7a:-124994 1ee7b:-124993",
  "1ee7c:-124942 1ee7e:-124893 1ee80-1ee81:-125017 1ee82:-125014 1ee83:-125012",
  "1ee84-1ee85:-124989 1ee86:-125012 1ee87:-125018 1ee88:-125009 1ee89:-124991",
  "1ee8b-1ee8d:-124999 1ee8e:-125019 1ee8f:-125014 1ee90:-125007 1ee91:-125020 1ee92:-125008",
  "1ee93:-125026 1ee94:-125024 1ee95-1ee96:-125035 1ee97:-125033 1ee98:-125032 1ee99:-125027",
  "1ee9a:-125026 1ee9b:-125025 1eea1:-125049 1eea2:-125046 1eea3:-125044 1eea5:-125021",
  "1eea6:-125044 1eea7:-125050 1eea8:-125041 1eea9:-125023 1eeab-1eead:-125031 1eeae:-125051",
  "1eeaf:-125046 1eeb0:-125039 1eeb1:-125052 1eeb2:-125040 1eeb3:-125058 1eeb4:-125056",
  "1eeb5-1eeb6:-125067 1eeb7:-125065 1eeb8:-125064 1eeb9:-125059 1eeba:-125058 1eebb:-125057",
  "1f12b:-127176 1f12c:-127162 1f130-1f149:-127183 1f202:-115021 1f210:-102341 1f211:-104122",
  "1f212:-106054 1f213:-115020 1f214:-107400 1f215:-104699 1f216:-92211 1f217:-104686",
  "1f218:-107380 1f219:-101369 1f21a:-98553 1f21b:-101506 1f21c:-106447 1f21d:-103057",
  "1f21e:-106641 1f21f:-101487 1f220:-106499 1f221:-95455 1f222:-97539 1f223:-91514",
  "1f224:-104756 1f225:-105964 1f226:-99090 1f227:-102290 1f228:-102099 1f229:-107561",
  "1f22a:-107553 1f22b:-90593 1f22c:-103494 1f22d:-107520 1f22e:-106043 1f22f:-102184",
  "1f230:-91328 1f231:-102366 1f232:-96433 1f233:-96185 1f234:-106028 1f235:-99253",
  "1f236:-101165 1f237:-101167 1f238:-97541 1f239:-106439 1f23a:-105604 1f23b:-90350",
  "1f250:-103097 1f251:-106082 1fbf0-1fbf9:-129984 2f800:-174531 2f801:-174537 2f802:-174529",
  "2f803:-63201 2f804:-174244 2f805:-174167 2f806:-174155 2f807:-174085 2f808:-173966",
  "2f809:-173936 2f80a:-173859 2f80b:-173884 2f80c:-181102 2f80d:-61907 2f80e:-173761",
  "2f80f:-173755 2f810:-173740 2f811:-173722 2f812:-62198 2f813:-181082 2f814:-173741",
  "2f815:-173704 2f816:-62155 2f817:-173696 2f818:-173684 2f819:-174413 2f81a:-173678",
  "2f81b:-173670 2f81c:-26173 2f81d:-173608 2f81e:-173595 2f81f:-181056 2f820:-173541",
  "2f821:-173531 2f822:-173488 2f823:-173484 2f824:-181007 2f825:-173406 2f826:-173405",
  "2f827:-173379 2f828:-173358 2f829-2f82a:-173348 2f82b:-173332 2f82c:-173283 2f82d:-173276",
  "2f82e:-173268 2f82f:-173244 2f830:-173235 2f831:-173234 2f832:-173235 2f833:-173236",
  "2f834:-60936 2f835:-165829 2f836:-173164 2f837:-173144 2f838:-60629 2f839:-173134",
  "2f83a:-173129 2f83b:-173109 2f83c:-172958 2f83d:-173061 2f83e:-173046 2f83f:-173015",
  "2f840:-172958 2f841:-172875 2f842:-172850 2f843:-172784 2f844:-172769 2f845:-172737",
  "2f846:-172738 2f847:-172718 2f848:-172701 2f849:-172694 2f84a:-172680 2f84b:-172341",
  "2f84c:-172614 2f84d:-172342 2f84e:-172541 2f84f:-172507 2f850:-173641 2f851:-171875",
  "2f852:-172164 2f853:-172127 2f854:-172103 2f855:-172234 2f856:-172068 2f857:-172070",
  "2f858:-171948 2f859:-58229 2f85a:-171880 2f85b:-171876 2f85c:-171862 2f85d:-171843",
  "2f85e:-171836 2f85f:-171773 2f860:-57784 2f861:-57719 2f862:-171638 2f863:-171592",
  "2f864:-171581 2f865:-171661 2f866:-171520 2f867:-180601 2f868:-180588 2f869:-171361",
  "2f86a:-171308 2f86b:-171309 2f86c:-56996 2f86d:-171178 2f86e:-171158 2f86f:-171144",
  "2f870:-171133 2f871:-56665 2f872:-171123 2f873:-171117 2f874:-170273 2f875:-171091",
  "2f876:-180469 2f877:-171031 2f878:-171018 2f879:-170937 2f87a:-170989 2f87b:-55959",
  "2f87c:-170809 2f87d:-55959 2f87e:-170768 2f87f:-170772 2f880:-170756 2f881-2f882:-170656",
  "2f883:-180308 2f884:-170631 2f885:-170589 2f886:-170569 2f887:-170526 2f888:-180262",
  "2f889:-55046 2f88a:-180238 2f88b:-170459 2f88c:-170457 2f88d:-170455 2f88e:-170436",
  "2f88f:-21757 2f890:-170386 2f891:-54624 2f892:-54625 2f893:-161426 2f894:-170354",
  "2f895:-170355 2f896:-180175 2f897:-50655 2f898:-38590 2f899:-170295 2f89a:-170287",
  "2f89b:-180152 2f89c:-170242 2f89d:-170192 2f89e:-170183 2f89f:-170150 2f8a0:-170015",
  "2f8a1:-180071 2f8a2:-180102 2f8a3:-169999 2f8a4:-53712 2f8a5:-169950 2f8a6:-169822",
  "2f8a7:-169819 2f8a8:-169818 2f8a9:-169821 2f8aa:-169776 2f8ab:-169757 2f8ac:-169722",
  "2f8ad:-169737 2f8ae:-169727 2f8af:-169681 2f8b0:-169662 2f8b1:-169659 2f8b2:-169634",
  "2f8b3:-169624 2f8b4:-169559 2f8b5:-169476 2f8b6:-169442 2f8b7:-169319 2f8b8:-52652",
  "2f8b9:-169340 2f8ba:-169406 2f8bb:-169299 2f8bc:-169273 2f8bd:-169177 2f8be:-52429",
  "2f8bf:-169117 2f8c0:-169211 2f8c1:-169240 2f8c2:-179860 2f8c3:-169050 2f8c4:-169030",
  "2f8c5:-169000 2f8c6:-169039 2f8c7:-179803 2f8c8:-168825 2f8c9:-168797 2f8ca:-51392",
  "2f8cb:-168680 2f8cc:-168404 2f8cd:-168580 2f8ce:-179637 2f8cf:-168510 2f8d0:-179656",
  "2f8d1:-179693 2f8d2:-173888 2f8d3:-173886 2f8d4:-168404 2f8d5:-168505 2f8d6:-161833",
  "2f8d7:-177406 2f8d8:-168385 2f8d9:-168382 2f8da:-168377 2f8db:-168317 2f8dc:-168329",
  "2f8dd:-50458 2f8de:-179605 2f8df:-168165 2f8e0:-168283 2f8e1:-168079 2f8e2:-168029",
  "2f8e3:-50294 2f8e4:-168022 2f8e5:-168134 2f8e6:-167890 2f8e7:-179530 2f8e8:-167846",
  "2f8e9:-167750 2f8ea:-167680 2f8eb:-167491 2f8ec:-49737 2f8ed:-167442 2f8ee:-179414",
  "2f8ef:-167374 2f8f0:-49225 2f8f1:-167325 2f8f2:-179364 2f8f3:-167297 2f8f4:-167253",
  "2f8f5-2f8f6:-167227 2f8f7:-48746 2f8f8:-56301 2f8f9:-48639 2f8fa:-167084 2f8fb:-48191",
  "2f8fc:-166973 2f8fd:-166960 2f8fe:-167063 2f8ff:-166889 2f900:-166850 2f901:-166794",
  "2f902:-166849 2f903:-166810 2f904:-166796 2f905:-166784 2f906:-48104 2f907:-166867",
  "2f908:-166617 2f909:-166555 2f90a:-179159 2f90b:-166464 2f90c:-166469 2f90d:-47676",
  "2f90e:-166677 2f90f:-166305 2f910:-47538 2f911:-47491 2f912:-166220 2f913:-166106",
  "2f914:-166134 2f915:-166138 2f916:-179072 2f917:-166093 2f918:-166043 2f919:-166050",
  "2f91a:-165997 2f91b:-62454 2f91c:-165847 2f91d:-46778 2f91e:-165762 2f91f:-46452",
  "2f920:-165624 2f921:-165612 2f922:-165586 2f923:-45851 2f924:-165540 2f925:-165520",
  "2f926:-45553 2f927:-45331 2f928:-165294 2f929:-165278 2f92a:-178814 2f92b:-165254",
  "2f92c:-178804 2f92d:-178805 2f92e:-165095 2f92f:-165075 2f930:-165055 2f931:-165036",
  "2f932:-164968 2f933:-178712 2f934:-164880 2f935:-44287 2f936:-164856 2f937:-44197",
  "2f938:-164808 2f939:-55194 2f93a:-164650 2f93b:-43418 2f93c:-43396 2f93d:-43257",
  "2f93e:-178498 2f93f:-178487 2f940:-164428 2f941:-43086 2f942:-43088 2f943:-43050",
  "2f944:-43025 2f945-2f946:-164391 2f947:-164392 2f948:-164350 2f949:-178448 2f94a:-164287",
  "2f94b:-178437 2f94c:-178358 2f94d:-42288 2f94e:-164096 2f94f:-164035 2f950:-163972",
  "2f951:-178286 2f952:-41772 2f953:-163837 2f954:-41658 2f955:-41616 2f956:-163783",
  "2f957:-163692 2f958:-178217 2f959:-163609 2f95a:-163600 2f95b:-163596 2f95c:-40928",
  "2f95d:-40630 2f95e:-40631 2f95f:-163441 2f960:-178014 2f961:-40374 2f962:-163228",
  "2f963:-163226 2f964:-177981 2f965:-40165 2f966:-162964 2f967:-177863 2f968:-162944",
  "2f969:-162950 2f96a:-162922 2f96b:-39397 2f96c:-162825 2f96d:-177772 2f96e:-162727",
  "2f96f:-162669 2f970:-162603 2f971:-177725 2f972:-38730 2f973:-38700 2f974:-177691",
  "2f975:-38556 2f976:-162300 2f977:-38457 2f978:-162275 2f979:-162175 2f97a:-162165",
  "2f97b:-38049 2f97c:-37977 2f97d:-162077 2f97e:-37846 2f97f:-162063 2f980:-50721",
  "2f981:-177580 2f982:-162000 2f983:-161920 2f984:-177529 2f985:-161863 2f986:-171729",
  "2f987:-37344 2f988:-37331 2f989:-50678 2f98a:-50670 2f98b:-161674 2f98c:-161672",
  "2f98d:-158191 2f98e:-177443 2f98f:-161534 2f990:-161541 2f991:-161524 2f992:-173791",
  "2f993:-161506 2f994:-161505 2f995:-161496 2f996:-161456 2f997:-36443 2f998:-161459",
  "2f999:-161404 2f99a:-161335 2f99b:-161262 2f99c:-161401 2f99d:-161248 2f99e:-161207",
  "2f99f:-161096 2f9a0:-161357 2f9a1:-161239 2f9a2:-161238 2f9a3:-161223 2f9a4:-36206",
  "2f9a5:-35898 2f9a6:-36049 2f9a7:-177276 2f9a8:-160951 2f9a9:-160950 2f9aa:-160916",
  "2f9ab:-34273 2f9ac:-160840 2f9ad:-35457 2f9ae:-177233 2f9af:-177230 2f9b0:-35327",
  "2f9b1:-35039 2f9b2:-177223 2f9b3:-160611 2f9b4:-160600 2f9b5:-160590 2f9b6:-160589",
  "2f9b7:-160526 2f9b8:-160560 2f9b9:-160427 2f9ba:-160472 2f9bb:-160322 2f9bc:-160404",
  "2f9bd:-160338 2f9be:-160312 2f9bf:-177128 2f9c0:-160223 2f9c1:-160192 2f9c2:-177097",
  "2f9c3:-160099 2f9c4:-160097 2f9c5:-33630 2f9c6:-159983 2f9c7:-159977 2f9c8:-177043",
  "2f9c9:-159951 2f9ca:-181519 2f9cb:-33053 2f9cc:-32870 2f9cd:-176911 2f9ce:-176903",
  "2f9cf:-159535 2f9d0:-159459 2f9d1:-159303 2f9d2:-159101 2f9d3:-32043 2f9d4:-159017",
  "2f9d5:-158996 2f9d6:-158907 2f9d7:-158816 2f9d8:-31401 2f9d9:-61909 2f9da:-158735",
  "2f9db:-158751 2f9dc:-158700 2f9dd:-61695 2f9de:-158474 2f9df:-158375 2f9e0:-29710",
  "2f9e1:-29684 2f9e2:-158030 2f9e3:-157938 2f9e4:-157907 2f9e5:-29367 2f9e6:-157899",
  "2f9e7:-157615 2f9e8-2f9e9:-157457 2f9ea:-157550 2f9eb:-157170 2f9ec:-157143 2f9ed:-28147",
  "2f9ee:-156771 2f9ef:-176218 2f9f0:-156729 2f9f1:-27770 2f9f2:-176140 2f9f3:-156464",
  "2f9f4:-171074 2f9f5:-156370 2f9f6:-26801 2f9f7:-26589 2f9f8:-176010 2f9f9:-176003",
  "2f9fa:-156186 2f9fb:-26097 2f9fc:-175946 2f9fd:-25959 2f9fe:-156147 2f9ff:-156148",
  "2fa00:-156119 2fa01:-25675 2fa02:-155936 2fa03:-175824 2fa04:-155867 2fa05:-155742",
  "2fa06:-155716 2fa07:-155657 2fa08:-175674 2fa09:-24281 2fa0a:-155384 2fa0b:-155083",
  "2fa0c:-154895 2fa0d:-175423 2fa0e:-175393 2fa0f:-154792 2fa10:-22850 2fa11:-175385",
  "2fa12:-22797 2fa13:-22533 2fa14:-22403 2fa15:-154458 2fa16:-175296 2fa17:-154398",
  "2fa18:-154394 2fa19:-154388 2fa1a:-154379 2fa1b:-154373 2fa1c:-154337 2fa1d:-21533"]

/-- Characters that fold to several characters. -/
def foldImages : List (Char × List Char) := Unicode.readImages [
  "a8:20+308 af:20+304 b4:20+301 b8:20+327 bc:31+2044+34 bd:31+2044+32 be:33+2044+34 130:69+307",
  "132:69+6a 133:69+6a 13f:6c+b7 140:6c+b7 149:2bc+6e 1c4:64+17e 1c5:64+17e 1c6:64+17e",
  "1c7:6c+6a 1c8:6c+6a 1c9:6c+6a 1ca:6e+6a 1cb:6e+6a 1cc:6e+6a 1f1:64+7a 1f2:64+7a 1f3:64+7a",
  "2d8:20+306 2d9:20+307 2da:20+30a 2db:20+328 2dc:20+303 2dd:20+30b 344:308+301 37a:20+3b9",
  "384:20+301 385:20+308+301 587:565+582 675:627+674 676:648+674 677:6c7+674 678:64a+674",
  "958:915+93c 959:916+93c 95a:917+93c 95b:91c+93c 95c:921+93c 95d:922+93c 95e:92b+93c",
  "95f:92f+93c 9dc:9a1+9bc 9dd:9a2+9bc 9df:9af+9bc a33:a32+a3c a36:a38+a3c a59:a16+a3c",
  "a5a:a17+a3c a5b:a1c+a3c a5e:a2b+a3c b5c:b21+b3c b5d:b22+b3c e33:e4d+e32 eb3:ecd+eb2",
  "edc:eab+e99 edd:eab+ea1 f43:f42+fb7 f4d:f4c+fb7 f52:f51+fb7 f57:f56+fb7 f5c:f5b+fb7",
  "f69:f40+fb5 f73:f71+f72 f75:f71+f74 f76:fb2+f80 f77:fb2+f71+f80 f78:fb3+f80 f79:fb3+f71+f80",
  "f81:f71+f80 f93:f92+fb7 f9d:f9c+fb7 fa2:fa1+fb7 fa7:fa6+fb7 fac:fab+fb7 fb9:f90+fb5",
  "1e9a:61+2be 1f80:1f00+3b9 1f81:1f01+3b9 1f82:1f02+3b9 1f83:1f03+3b9 1f84:1f04+3b9",
  "1f85:1f05+3b9 1f86:1f06+3b9 1f87:1f07+3b9 1f88:1f00+3b9 1f89:1f01+3b9 1f8a:1f02+3b9",
  "1f8b:1f03+3b9 1f8c:1f04+3b9 1f8d:1f05+3b9 1f8e:1f06+3b9 1f8f:1f07+3b9 1f90:1f20+3b9",
  "1f91:1f21+3b9 1f92:1f22+3b9 1f93:1f23+3b9 1f94:1f24+3b9 1f95:1f25+3b9 1f96:1f26+3b9",
  "1f97:1f27+3b9 1f98:1f20+3b9 1f99:1f21+3b9 1f9a:1f22+3b9 1f9b:1f23+3b9 1f9c:1f24+3b9",
  "1f9d:1f25+3b9 1f9e:1f26+3b9 1f9f:1f27+3b9 1fa0:1f60+3b9 1fa1:1f61+3b9 1fa2:1f62+3b9",
  "1fa3:1f63+3b9 1fa4:1f64+3b9 1fa5:1f65+3b9 1fa6:1f66+3b9 1fa7:1f67+3b9 1fa8:1f60+3b9",
  "1fa9:1f61+3b9 1faa:1f62+3b9 1fab:1f63+3b9 1fac:1f64+3b9 1fad:1f65+3b9 1fae:1f66+3b9",
  "1faf:1f67+3b9 1fb2:1f70+3b9 1fb3:3b1+3b9 1fb4:3ac+3b9 1fb7:1fb6+3b9 1fbc:3b1+3b9 1fbd:20+313",
  "1fbf:20+313 1fc0:20+342 1fc1:20+308+342 1fc2:1f74+3b9 1fc3:3b7+3b9 1fc4:3ae+3b9",
  "1fc7:1fc6+3b9 1fcc:3b7+3b9 1fcd:20+313+300 1fce:20+313+301 1fcf:20+313+342 1fdd:20+314+300",
  "1fde:20+314+301 1fdf:20+314+342 1fed:20+308+300 1fee:20+308+301 1ff2:1f7c+3b9 1ff3:3c9+3b9",
  "1ff4:3ce+3b9 1ff7:1ff6+3b9 1ffc:3c9+3b9 1ffd:20+301 1ffe:20+314 2017:20+333 2033:2032+2032",
  "2034:2032+2032+2032 2036:2035+2035 2037:2035+2035+2035 203c:21+21 203e:20+305 2047:3f+3f",
  "2048:3f+21 2049:21+3f 2057:2032+2032+2032+2032 20a8:72+73 2100:61+2f+63 2101:61+2f+73",
  "2103:b0+63 2105:63+2f+6f 2106:63+2f+75 2109:b0+66 2116:6e+6f 2120:73+6d 2121:74+65+6c",
  "2122:74+6d 213b:66+61+78 2150:31+2044+37 2151:31+2044+39 2152:31+2044+31+30 2153:31+2044+33",
  "2154:32+2044+33 2155:31+2044+35 2156:32+2044+35 2157:33+2044+35 2158:34+2044+35",
  "2159:31+2044+36 215a:35+2044+36 215b:31+2044+38 215c:33+2044+38 215d:35+2044+38",
  "215e:37+2044+38 215f:31+2044 2161:69+69 2162:69+69+69 2163:69+76 2165:76+69 2166:76+69+69",
  "2167:76+69+69+69 2168:69+78 216a:78+69 216b:78+69+69 2171:69+69 2172:69+69+69 2173:69+76",
  "2175:76+69 2176:76+69+69 2177:76+69+69+69 2178:69+78 217a:78+69 217b:78+69+69",
  "2189:30+2044+33 222c:222b+222b 222d:222b+222b+222b 222f:222e+222e 2230:222e+222e+222e",
  "2469:31+30 246a:31+31 246b:31+32 246c:31+33 246d:31+34 246e:31+35 246f:31+36 2470:31+37",
  "2471:31+38 2472:31+39 2473:32+30 2474:28+31+29 2475:28+32+29 2476:28+33+29 2477:28+34+29",
  "2478:28+35+29 2479:28+36+29 247a:28+37+29 247b:28+38+29 247c:28+39+29 247d:28+31+30+29",
  "247e:28+31+31+29 247f:28+31+32+29 2480:28+31+33+29 2481:28+31+34+29 2482:28+31+35+29",
  "2483:28+31+36+29 2484:28+31+37+29 2485:28+31+38+29 2486:28+31+39+29 2487:28+32+30+29",
  "249c:28+61+29 249d:28+62+29 249e:28+63+29 249f:28+64+29 24a0:28+65+29 24a1:28+66+29",
  "24a2:28+67+29 24a3:28+68+29 24a4:28+69+29 24a5:28+6a+29 24a6:28+6b+29 24a7:28+6c+29",
  "24a8:28+6d+29 24a9:28+6e+29 24aa:28+6f+29 24ab:28+70+29 24ac:28+71+29 24ad:28+72+29",
  "24ae:28+73+29 24af:28+74+29 24b0:28+75+29 24b1:28+76+29 24b2:28+77+29 24b3:28+78+29",
  "24b4:28+79+29 24b5:28+7a+29 2a0c:222b+222b+222b+222b 2a74:3a+3a+3d 2a75:3d+3d 2a76:3d+3d+3d",
  "2adc:2add+338 309b:20+3099 309c:20+309a 309f:3088+308a 30ff:30b3+30c8 3200:28+1100+29",
  "3201:28+1102+29 3202:28+1103+29 3203:28+1105+29 3204:28+1106+29 3205:28+1107+29",
  "3206:28+1109+29 3207:28+110b+29 3208:28+110c+29 3209:28+110e+29 320a:28+110f+29",
  "320b:28+1110+29 320c:28+1111+29 320d:28+1112+29 320e:28+ac00+29 320f:28+b098+29",
  "3210:28+b2e4+29 3211:28+b77c+29 3212:28+b9c8+29 3213:28+bc14+29 3214:28+c0ac+29",
  "3215:28+c544+29 3216:28+c790+29 3217:28+cc28+29 3218:28+ce74+29 3219:28+d0c0+29",
  "321a:28+d30c+29 321b:28+d558+29 321c:28+c8fc+29 321d:28+c624+c804+29 321e:28+c624+d6c4+29",
  "3220:28+4e00+29 3221:28+4e8c+29 3222:28+4e09+29 3223:28+56db+29 3224:28+4e94+29",
  "3225:28+516d+29 3226:28+4e03+29 3227:28+516b+29 3228:28+4e5d+29 3229:28+5341+29",
  "322a:28+6708+29 322b:28+706b+29 322c:28+6c34+29 322d:28+6728+29 322e:28+91d1+29",
  "322f:28+571f+29 3230:28+65e5+29 3231:28+682a+29 3232:28+6709+29 3233:28+793e+29",
  "3234:28+540d+29 3235:28+7279+29 3236:28+8ca1+29 3237:28+795d+29 3238:28+52b4+29",
  "3239:28+4ee3+29 323a:28+547c+29 323b:28+5b66+29 323c:28+76e3+29 323d:28+4f01+29",
  "323e:28+8cc7+29 323f:28+5354+29 3240:28+796d+29 3241:28+4f11+29 3242:28+81ea+29",
  "3243:28+81f3+29 3250:70+74+65 3251:32+31 3252:32+32 3253:32+33 3254:32+34 3255:32+35",
  "3256:32+36 3257:32+37 3258:32+38 3259:32+39 325a:33+30 325b:33+31 325c:33+32 325d:33+33",
  "325e:33+34 325f:33+35 327c:cc38+ace0 327d:c8fc+c758 32b1:33+36 32b2:33+37 32b3:33+38",
  "32b4:33+39 32b5:34+30 32b6:34+31 32b7:34+32 32b8:34+33 32b9:34+34 32ba:34+35 32bb:34+36",
  "32bc:34+37 32bd:34+38 32be:34+39 32bf:35+30 32c0:31+6708 32c1:32+6708 32c2:33+6708",
  "32c3:34+6708 32c4:35+6708 32c5:36+6708 32c6:37+6708 32c7:38+6708 32c8:39+6708",
  "32c9:31+30+6708 32ca:31+31+6708 32cb:31+32+6708 32cc:68+67 32cd:65+72+67 32ce:65+76",
  "32cf:6c+74+64 32ff:4ee4+548c 3300:30a2+30d1+30fc+30c8 3301:30a2+30eb+30d5+30a1",
  "3302:30a2+30f3+30da+30a2 3303:30a2+30fc+30eb 3304:30a4+30cb+30f3+30b0 3305:30a4+30f3+30c1",
  "3306:30a6+30a9+30f3 3307:30a8+30b9+30af+30fc+30c9 3308:30a8+30fc+30ab+30fc",
  "3309:30aa+30f3+30b9 330a:30aa+30fc+30e0 330b:30ab+30a4+30ea 330c:30ab+30e9+30c3+30c8",
  "330d:30ab+30ed+30ea+30fc 330e:30ac+30ed+30f3 330f:30ac+30f3+30de 3310:30ae+30ac",
  "3311:30ae+30cb+30fc 3312:30ad+30e5+30ea+30fc 3313:30ae+30eb+30c0+30fc 3314:30ad+30ed",
  "3315:30ad+30ed+30b0+30e9+30e0 3316:30ad+30ed+30e1+30fc+30c8+30eb",
  "3317:30ad+30ed+30ef+30c3+30c8 3318:30b0+30e9+30e0 3319:30b0+30e9+30e0+30c8+30f3",
  "331a:30af+30eb+30bc+30a4+30ed 331b:30af+30ed+30fc+30cd 331c:30b1+30fc+30b9",
  "331d:30b3+30eb+30ca 331e:30b3+30fc+30dd 331f:30b5+30a4+30af+30eb",
  "3320:30b5+30f3+30c1+30fc+30e0 3321:30b7+30ea+30f3+30b0 3322:30bb+30f3+30c1",
  "3323:30bb+30f3+30c8 3324:30c0+30fc+30b9 3325:30c7+30b7 3326:30c9+30eb 3327:30c8+30f3",
  "3328:30ca+30ce 3329:30ce+30c3+30c8 332a:30cf+30a4+30c4 332b:30d1+30fc+30bb+30f3+30c8",
  "332c:30d1+30fc+30c4 332d:30d0+30fc+30ec+30eb 332e:30d4+30a2+30b9+30c8+30eb",
  "332f:30d4+30af+30eb 3330:30d4+30b3 3331:30d3+30eb 3332:30d5+30a1+30e9+30c3+30c9",
  "3333:30d5+30a3+30fc+30c8 3334:30d6+30c3+30b7+30a7+30eb 3335:30d5+30e9+30f3",
  "3336:30d8+30af+30bf+30fc+30eb 3337:30da+30bd 3338:30da+30cb+30d2 3339:30d8+30eb+30c4",
  "333a:30da+30f3+30b9 333b:30da+30fc+30b8 333c:30d9+30fc+30bf 333d:30dd+30a4+30f3+30c8",
  "333e:30dc+30eb+30c8 333f:30db+30f3 3340:30dd+30f3+30c9 3341:30db+30fc+30eb",
  "3342:30db+30fc+30f3 3343:30de+30a4+30af+30ed 3344:30de+30a4+30eb 3345:30de+30c3+30cf",
  "3346:30de+30eb+30af 3347:30de+30f3+30b7+30e7+30f3 3348:30df+30af+30ed+30f3 3349:30df+30ea",
  "334a:30df+30ea+30d0+30fc+30eb 334b:30e1+30ac 334c:30e1+30ac+30c8+30f3",
  "334d:30e1+30fc+30c8+30eb 334e:30e4+30fc+30c9 334f:30e4+30fc+30eb 3350:30e6+30a2+30f3",
  "3351:30ea+30c3+30c8+30eb 3352:30ea+30e9 3353:30eb+30d4+30fc 3354:30eb+30fc+30d6+30eb",
  "3355:30ec+30e0 3356:30ec+30f3+30c8+30b2+30f3 3357:30ef+30c3+30c8 3358:30+70b9 3359:31+70b9",
  "335a:32+70b9 335b:33+70b9 335c:34+70b9 335d:35+70b9 335e:36+70b9 335f:37+70b9 3360:38+70b9",
  "3361:39+70b9 3362:31+30+70b9 3363:31+31+70b9 3364:31+32+70b9 3365:31+33+70b9 3366:31+34+70b9",
  "3367:31+35+70b9 3368:31+36+70b9 3369:31+37+70b9 336a:31+38+70b9 336b:31+39+70b9",
  "336c:32+30+70b9 336d:32+31+70b9 336e:32+32+70b9 336f:32+33+70b9 3370:32+34+70b9",
  "3371:68+70+61 3372:64+61 3373:61+75 3374:62+61+72 3375:6f+76 3376:70+63 3377:64+6d",
  "3378:64+6d+32 3379:64+6d+33 337a:69+75 337b:5e73+6210 337c:662d+548c 337d:5927+6b63",
  "337e:660e+6cbb 337f:682a+5f0f+4f1a+793e 3380:70+61 3381:6e+61 3382:3bc+61 3383:6d+61",
  "3384:6b+61 3385:6b+62 3386:6d+62 3387:67+62 3388:63+61+6c 3389:6b+63+61+6c 338a:70+66",
  "338b:6e+66 338c:3bc+66 338d:3bc+67 338e:6d+67 338f:6b+67 3390:68+7a 3391:6b+68+7a",
  "3392:6d+68+7a 3393:67+68+7a 3394:74+68+7a 3395:3bc+6c 3396:6d+6c 3397:64+6c 3398:6b+6c",
  "3399:66+6d 339a:6e+6d 339b:3bc+6d 339c:6d+6d 339d:63+6d 339e:6b+6d 339f:6d+6d+32",
  "33a0:63+6d+32 33a1:6d+32 33a2:6b+6d+32 33a3:6d+6d+33 33a4:63+6d+33 33a5:6d+33 33a6:6b+6d+33",
  "33a7:6d+2215+73 33a8:6d+2215+73+32 33a9:70+61 33aa:6b+70+61 33ab:6d+70+61 33ac:67+70+61",
  "33ad:72+61+64 33ae:72+61+64+2215+73 33af:72+61+64+2215+73+32 33b0:70+73 33b1:6e+73",
  "33b2:3bc+73 33b3:6d+73 33b4:70+76 33b5:6e+76 33b6:3bc+76 33b7:6d+76 33b8:6b+76 33b9:6d+76",
  "33ba:70+77 33bb:6e+77 33bc:3bc+77 33bd:6d+77 33be:6b+77 33bf:6d+77 33c0:6b+3c9 33c1:6d+3c9",
  "33c3:62+71 33c4:63+63 33c5:63+64 33c6:63+2215+6b+67 33c8:64+62 33c9:67+79 33ca:68+61",
  "33cb:68+70 33cc:69+6e 33cd:6b+6b 33ce:6b+6d 33cf:6b+74 33d0:6c+6d 33d1:6c+6e 33d2:6c+6f+67",
  "33d3:6c+78 33d4:6d+62 33d5:6d+69+6c 33d6:6d+6f+6c 33d7:70+68 33d9:70+70+6d 33da:70+72",
  "33db:73+72 33dc:73+76 33dd:77+62 33de:76+2215+6d 33df:61+2215+6d 33e0:31+65e5 33e1:32+65e5",
  "33e2:33+65e5 33e3:34+65e5 33e4:35+65e5 33e5:36+65e5 33e6:37+65e5 33e7:38+65e5 33e8:39+65e5",
  "33e9:31+30+65e5 33ea:31+31+65e5 33eb:31+32+65e5 33ec:31+33+65e5 33ed:31+34+65e5",
  "33ee:31+35+65e5 33ef:31+36+65e5 33f0:31+37+65e5 33f1:31+38+65e5 33f2:31+39+65e5",
  "33f3:32+30+65e5 33f4:32+31+65e5 33f5:32+32+65e5 33f6:32+33+65e5 33f7:32+34+65e5",
  "33f8:32+35+65e5 33f9:32+36+65e5 33fa:32+37+65e5 33fb:32+38+65e5 33fc:32+39+65e5",
  "33fd:33+30+65e5 33fe:33+31+65e5 33ff:67+61+6c fb00:66+66 fb01:66+69 fb02:66+6c fb03:66+66+69",
  "fb04:66+66+6c fb05:73+74 fb06:73+74 fb13:574+576 fb14:574+565 fb15:574+56b fb16:57e+576",
  "fb17:574+56d fb1d:5d9+5b4 fb1f:5f2+5b7 fb2a:5e9+5c1 fb2b:5e9+5c2 fb2c:5e9+5bc+5c1",
  "fb2d:5e9+5bc+5c2 fb2e:5d0+5b7 fb2f:5d0+5b8 fb30:5d0+5bc fb31:5d1+5bc fb32:5d2+5bc",
  "fb33:5d3+5bc fb34:5d4+5bc fb35:5d5+5bc fb36:5d6+5bc fb38:5d8+5bc fb39:5d9+5bc fb3a:5da+5bc",
  "fb3b:5db+5bc fb3c:5dc+5bc fb3e:5de+5bc fb40:5e0+5bc fb41:5e1+5bc fb43:5e3+5bc fb44:5e4+5bc",
  "fb46:5e6+5bc fb47:5e7+5bc fb48:5e8+5bc fb49:5e9+5bc fb4a:5ea+5bc fb4b:5d5+5b9 fb4c:5d1+5bf",
  "fb4d:5db+5bf fb4e:5e4+5bf fb4f:5d0+5dc fbdd:6c7+674 fbea:626+627 fbeb:626+627 fbec:626+6d5",
  "fbed:626+6d5 fbee:626+648 fbef:626+648 fbf0:626+6c7 fbf1:626+6c7 fbf2:626+6c6 fbf3:626+6c6",
  "fbf4:626+6c8 fbf5:626+6c8 fbf6:626+6d0 fbf7:626+6d0 fbf8:626+6d0 fbf9:626+649 fbfa:626+649",
  "fbfb:626+649 fc00:626+62c fc01:626+62d fc02:626+645 fc03:626+649 fc04:626+64a fc05:628+62c",
  "fc06:628+62d fc07:628+62e fc08:628+645 fc09:628+649 fc0a:628+64a fc0b:62a+62c fc0c:62a+62d",
  "fc0d:62a+62e fc0e:62a+645 fc0f:62a+649 fc10:62a+64a fc11:62b+62c fc12:62b+645 fc13:62b+649",
  "fc14:62b+64a fc15:62c+62d fc16:62c+645 fc17:62d+62c fc18:62d+645 fc19:62e+62c fc1a:62e+62d",
  "fc1b:62e+645 fc1c:633+62c fc1d:633+62d fc1e:633+62e fc1f:633+645 fc20:635+62d fc21:635+645",
  "fc22:636+62c fc23:636+62d fc24:636+62e fc25:636+645 fc26:637+62d fc27:637+645 fc28:638+645",
  "fc29:639+62c fc2a:639+645 fc2b:63a+62c fc2c:63a+645 fc2d:641+62c fc2e:641+62d fc2f:641+62e",
  "fc30:641+645 fc31:641+649 fc32:641+64a fc33:642+62d fc34:642+645 fc35:642+649 fc36:642+64a",
  "fc37:643+627 fc38:643+62c fc39:643+62d fc3a:643+62e fc3b:643+644 fc3c:643+645 fc3d:643+649",
  "fc3e:643+64a fc3f:644+62c fc40:644+62d fc41:644+62e fc42:644+645 fc43:644+649 fc44:644+64a",
  "fc45:645+62c fc46:645+62d fc47:645+62e fc48:645+645 fc49:645+649 fc4a:645+64a fc4b:646+62c",
  "fc4c:646+62d fc4d:646+62e fc4e:646+645 fc4f:646+649 fc50:646+64a fc51:647+62c fc52:647+645",
  "fc53:647+649 fc54:647+64a fc55:64a+62c fc56:64a+62d fc57:64a+62e fc58:64a+645 fc59:64a+649",
  "fc5a:64a+64a fc5b:630+670 fc5c:631+670 fc5d:649+670 fc5e:20+64c+651 fc5f:20+64d+651",
  "fc60:20+64e+651 fc61:20+64f+651 fc62:20+650+651 fc63:20+651+670 fc64:626+631 fc65:626+632",
  "fc66:626+645 fc67:626+646 fc68:626+649 fc69:626+64a fc6a:628+631 fc6b:628+632 fc6c:628+645",
  "fc6d:628+646 fc6e:628+649 fc6f:628+64a fc70:62a+631 fc71:62a+632 fc72:62a+645 fc73:62a+646",
  "fc74:62a+649 fc75:62a+64a fc76:62b+631 fc77:62b+632 fc78:62b+645 fc79:62b+646 fc7a:62b+649",
  "fc7b:62b+64a fc7c:641+649 fc7d:641+64a fc7e:642+649 fc7f:642+64a fc80:643+627 fc81:643+644",
  "fc82:643+645 fc83:643+649 fc84:643+64a fc85:644+645 fc86:644+649 fc87:644+64a fc88:645+627",
  "fc89:645+645 fc8a:646+631 fc8b:646+632 fc8c:646+645 fc8d:646+646 fc8e:646+649 fc8f:646+64a",
  "fc90:649+670 fc91:64a+631 fc92:64a+632 fc93:64a+645 fc94:64a+646 fc95:64a+649 fc96:64a+64a",
  "fc97:626+62c fc98:626+62d fc99:626+62e fc9a:626+645 fc9b:626+647 fc9c:628+62c fc9d:628+62d",
  "fc9e:628+62e fc9f:628+645 fca0:628+647 fca1:62a+62c fca2:62a+62d fca3:62a+62e fca4:62a+645",
  "fca5:62a+647 fca6:62b+645 fca7:62c+62d fca8:62c+645 fca9:62d+62c fcaa:62d+645 fcab:62e+62c",
  "fcac:62e+645 fcad:633+62c fcae:633+62d fcaf:633+62e fcb0:633+645 fcb1:635+62d fcb2:635+62e",
  "fcb3:635+645 fcb4:636+62c fcb5:636+62d fcb6:636+62e fcb7:636+645 fcb8:637+62d fcb9:638+645",
  "fcba:639+62c fcbb:639+645 fcbc:63a+62c fcbd:63a+645 fcbe:641+62c fcbf:641+62d fcc0:641+62e",
  "fcc1:641+645 fcc2:642+62d fcc3:642+645 fcc4:643+62c fcc5:643+62d fcc6:643+62e fcc7:643+644",
  "fcc8:643+645 fcc9:644+62c fcca:644+62d fccb:644+62e fccc:644+645 fccd:644+647 fcce:645+62c",
  "fccf:645+62d fcd0:645+62e fcd1:645+645 fcd2:646+62c fcd3:646+62d fcd4:646+62e fcd5:646+645",
  "fcd6:646+647 fcd7:647+62c fcd8:647+645 fcd9:647+670 fcda:64a+62c fcdb:64a+62d fcdc:64a+62e",
  "fcdd:64a+645 fcde:64a+647 fcdf:626+645 fce0:626+647 fce1:628+645 fce2:628+647 fce3:62a+645",
  "fce4:62a+647 fce5:62b+645 fce6:62b+647 fce7:633+645 fce8:633+647 fce9:634+645 fcea:634+647",
  "fceb:643+644 fcec:643+645 fced:644+645 fcee:646+645 fcef:646+647 fcf0:64a+645 fcf1:64a+647",
  "fcf2:640+64e+651 fcf3:640+64f+651 fcf4:640+650+651 fcf5:637+649 fcf6:637+64a fcf7:639+649",
  "fcf8:639+64a fcf9:63a+649 fcfa:63a+64a fcfb:633+649 fcfc:633+64a fcfd:634+649 fcfe:634+64a",
  "fcff:62d+649 fd00:62d+64a fd01:62c+649 fd02:62c+64a fd03:62e+649 fd04:62e+64a fd05:635+649",
  "fd06:635+64a fd07:636+649 fd08:636+64a fd09:634+62c fd0a:634+62d fd0b:634+62e fd0c:634+645",
  "fd0d:634+631 fd0e:633+631 fd0f:635+631 fd10:636+631 fd11:637+649 fd12:637+64a fd13:639+649",
  "fd14:639+64a fd15:63a+649 fd16:63a+64a fd17:633+649 fd18:633+64a fd19:634+649 fd1a:634+64a",
  "fd1b:62d+649 fd1c:62d+64a fd1d:62c+649 fd1e:62c+64a fd1f:62e+649 fd20:62e+64a fd21:635+649",
  "fd22:635+64a fd23:636+649 fd24:636+64a fd25:634+62c fd26:634+62d fd27:634+62e fd28:634+645",
  "fd29:634+631 fd2a:633+631 fd2b:635+631 fd2c:636+631 fd2d:634+62c fd2e:634+62d fd2f:634+62e",
  "fd30:634+645 fd31:633+647 fd32:634+647 fd33:637+645 fd34:633+62c fd35:633+62d fd36:633+62e",
  "fd37:634+62c fd38:634+62d fd39:634+62e fd3a:637+645 fd3b:638+645 fd3c:627+64b fd3d:627+64b",
  "fd50:62a+62c+645 fd51:62a+62d+62c fd52:62a+62d+62c fd53:62a+62d+645 fd54:62a+62e+645",
  "fd55:62a+645+62c fd56:62a+645+62d fd57:62a+645+62e fd58:62c+645+62d fd59:62c+645+62d",
  "fd5a:62d+645+64a fd5b:62d+645+649 fd5c:633+62d+62c fd5d:633+62c+62d fd5e:633+62c+649",
  "fd5f:633+645+62d fd60:633+645+62d fd61:633+645+62c fd62:633+645+645 fd63:633+645+645",
  "fd64:635+62d+62d fd65:635+62d+62d fd66:635+645+645 fd67:634+62d+645 fd68:634+62d+645",
  "fd69:634+62c+64a fd6a:634+645+62e fd6b:634+645+62e fd6c:634+645+645 fd6d:634+645+645",
  "fd6e:636+62d+649 fd6f:636+62e+645 fd70:636+62e+645 fd71:637+645+62d fd72:637+645+62d",
  "fd73:637+645+645 fd74:637+645+64a fd75:639+62c+645 fd76:639+645+645 fd77:639+645+645",
  "fd78:639+645+649 fd79:63a+645+645 fd7a:63a+645+64a fd7b:63a+645+649 fd7c:641+62e+645",
  "fd7d:641+62e+645 fd7e:642+645+62d fd7f:642+645+645 fd80:644+62d+645 fd81:644+62d+64a",
  "fd82:644+62d+649 fd83:644+62c+62c fd84:644+62c+62c fd85:644+62e+645 fd86:644+62e+645",
  "fd87:644+645+62d fd88:644+645+62d fd89:645+62d+62c fd8a:645+62d+645 fd8b:645+62d+64a",
  "fd8c:645+62c+62d fd8d:645+62c+645 fd8e:645+62e+62c fd8f:645+62e+645 fd92:645+62c+62e",
  "fd93:647+645+62c fd94:647+645+645 fd95:646+62d+645 fd96:646+62d+649 fd97:646+62c+645",
  "fd98:646+62c+645 fd99:646+62c+649 fd9a:646+645+64a fd9b:646+645+649 fd9c:64a+645+645",
  "fd9d:64a+645+645 fd9e:628+62e+64a fd9f:62a+62c+64a fda0:62a+62c+649 fda1:62a+62e+64a",
  "fda2:62a+62e+649 fda3:62a+645+64a fda4:62a+645+649 fda5:62c+645+64a fda6:62c+62d+649",
  "fda7:62c+645+649 fda8:633+62e+649 fda9:635+62d+64a fdaa:634+62d+64a fdab:636+62d+64a",
  "fdac:644+62c+64a fdad:644+645+64a fdae:64a+62d+64a fdaf:64a+62c+64a fdb0:64a+645+64a",
  "fdb1:645+645+64a fdb2:642+645+64a fdb3:646+62d+64a fdb4:642+645+62d fdb5:644+62d+645",
  "fdb6:639+645+64a fdb7:643+645+64a fdb8:646+62c+62d fdb9:645+62e+64a fdba:644+62c+645",
  "fdbb:643+645+645 fdbc:644+62c+645 fdbd:646+62c+62d fdbe:62c+62d+64a fdbf:62d+62c+64a",
  "fdc0:645+62c+64a fdc1:641+645+64a fdc2:628+62d+64a fdc3:643+645+645 fdc4:639+62c+645",
  "fdc5:635+645+645 fdc6:633+62e+64a fdc7:646+62c+64a fdf0:635+644+6d2 fdf1:642+644+6d2",
  "fdf2:627+644+644+647 fdf3:627+643+628+631 fdf4:645+62d+645+62f fdf5:635+644+639+645",
  "fdf6:631+633+648+644 fdf7:639+644+64a+647 fdf8:648+633+644+645 fdf9:635+644+649",
  "fdfa:635+644+649+20+627+644+644+647+20+639+644+64a+647+20+648+633+644+645",
  "fdfb:62c+644+20+62c+644+627+644+647 fdfc:631+6cc+627+644 fe49:20+305 fe4a:20+305 fe4b:20+305",
  "fe4c:20+305 fe70:20+64b fe71:640+64b fe72:20+64c fe74:20+64d fe76:20+64e fe77:640+64e",
  "fe78:20+64f fe79:640+64f fe7a:20+650 fe7b:640+650 fe7c:20+651 fe7d:640+651 fe7e:20+652",
  "fe7f:640+652 fef5:644+622 fef6:644+622 fef7:644+623 fef8:644+623 fef9:644+625 fefa:644+625",
  "fefb:644+627 fefc:644+627 ffe3:20+304 1d15e:1d157+1d165 1d15f:1d158+1d165",
  "1d160:1d158+1d165+1d16e 1d161:1d158+1d165+1d16f 1d162:1d158+1d165+1d170",
  "1d163:1d158+1d165+1d171 1d164:1d158+1d165+1d172 1d1bb:1d1b9+1d165 1d1bc:1d1ba+1d165",
  "1d1bd:1d1b9+1d165+1d16e 1d1be:1d1ba+1d165+1d16e 1d1bf:1d1b9+1d165+1d16f",
  "1d1c0:1d1ba+1d165+1d16f 1f101:30+2c 1f102:31+2c 1f103:32+2c 1f104:33+2c 1f105:34+2c",
  "1f106:35+2c 1f107:36+2c 1f108:37+2c 1f109:38+2c 1f10a:39+2c 1f110:28+61+29 1f111:28+62+29",
  "1f112:28+63+29 1f113:28+64+29 1f114:28+65+29 1f115:28+66+29 1f116:28+67+29 1f117:28+68+29",
  "1f118:28+69+29 1f119:28+6a+29 1f11a:28+6b+29 1f11b:28+6c+29 1f11c:28+6d+29 1f11d:28+6e+29",
  "1f11e:28+6f+29 1f11f:28+70+29 1f120:28+71+29 1f121:28+72+29 1f122:28+73+29 1f123:28+74+29",
  "1f124:28+75+29 1f125:28+76+29 1f126:28+77+29 1f127:28+78+29 1f128:28+79+29 1f129:28+7a+29",
  "1f12a:3014+73+3015 1f12d:63+64 1f12e:77+7a 1f14a:68+76 1f14b:6d+76 1f14c:73+64 1f14d:73+73",
  "1f14e:70+70+76 1f14f:77+63 1f16a:6d+63 1f16b:6d+64 1f16c:6d+72 1f190:64+6a 1f200:307b+304b",
  "1f201:30b3+30b3 1f240:3014+672c+3015 1f241:3014+4e09+3015 1f242:3014+4e8c+3015",
  "1f243:3014+5b89+3015 1f244:3014+70b9+3015 1f245:3014+6253+3015 1f246:3014+76d7+3015",
  "1f247:3014+52dd+3015 1f248:3014+6557+3015"]

/-- What a character folds to, if a domain name may hold it. -/
def fold? (c : Char) : Option (List Char) :=
  if Unicode.inRanges c.toNat refusedRanges then none
  else if Unicode.inRanges c.toNat ignoredRanges then some []
  else
    match foldImages.find? (·.1 == c) with
    | some (_, cs) => some cs
    | none => some [(Unicode.shifted? c foldShifts).getD c]

/-- A text folded and composed. -/
def folded? (cs : List Char) : Option (List Char) :=
  (cs.mapM fold?).map fun images => Unicode.composed images.flatten

/-- Whether a text is folded and composed already, each of its characters by itself. -/
def isSettled (cs : List Char) : Bool :=
  cs.all (fun c => fold? c == some [c]) && Unicode.composed cs == cs

end SqlMapping.Url.Domain
