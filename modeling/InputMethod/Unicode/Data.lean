/-! # Unicode character data

The character data that patterns consult, for Unicode 16.0: the general category, script and
script extensions of every code point, the binary properties, the version that assigned each
character, the grapheme, word and sentence break classes, the alias names of properties and of
their values, the word characters, and the classes of characters that are equal under simple
case folding.

A set of code points is written as a text: comma-separated items, each a hexadecimal code
point or two joined by `-` for an inclusive range, in ascending order. Surrogate code points
are never listed.
-/

namespace InputMethod.Unicode

def categoryTable : List (String × String) := [
  ("Cc", "0-1f,7f-9f"),
  ("Cf", "ad,600-605,61c,6dd,70f,890-891,8e2,180e,200b-200f,202a-202e,2060-2064,2066-206f,feff,fff9-fffb,110bd,110cd,13430-1343f,1bca0-1bca3,1d173-1d17a,e0001,e0020-e007f"),
  ("Cn", "378-379,380-383,38b,38d,3a2,530,557-558,58b-58c,590,5c8-5cf,5eb-5ee,5f5-5ff,70e,74b-74c,7b2-7bf,7fb-7fc,82e-82f,83f,85c-85d,85f,86b-86f,88f,892-896,984,98d-98e,991-992,9a9,9b1,9b3-9b5,9ba-9bb,9c5-9c6,9c9-9ca,9cf-9d6,9d8-9db,9de,9e4-9e5,9ff-a00,a04,a0b-a0e,a11-a12,a29,a31,a34,a37,a3a-a3b,a3d,a43-a46,a49-a4a,a4e-a50,a52-a58,a5d,a5f-a65,a77-a80,a84,a8e,a92,aa9,ab1,ab4,aba-abb,ac6,aca,ace-acf,ad1-adf,ae4-ae5,af2-af8,b00,b04,b0d-b0e,b11-b12,b29,b31,b34,b3a-b3b,b45-b46,b49-b4a,b4e-b54,b58-b5b,b5e,b64-b65,b78-b81,b84,b8b-b8d,b91,b96-b98,b9b,b9d,ba0-ba2,ba5-ba7,bab-bad,bba-bbd,bc3-bc5,bc9,bce-bcf,bd1-bd6,bd8-be5,bfb-bff,c0d,c11,c29,c3a-c3b,c45,c49,c4e-c54,c57,c5b-c5c,c5e-c5f,c64-c65,c70-c76,c8d,c91,ca9,cb4,cba-cbb,cc5,cc9,cce-cd4,cd7-cdc,cdf,ce4-ce5,cf0,cf4-cff,d0d,d11,d45,d49,d50-d53,d64-d65,d80,d84,d97-d99,db2,dbc,dbe-dbf,dc7-dc9,dcb-dce,dd5,dd7,de0-de5,df0-df1,df5-e00,e3b-e3e,e5c-e80,e83,e85,e8b,ea4,ea6,ebe-ebf,ec5,ec7,ecf,eda-edb,ee0-eff,f48,f6d-f70,f98,fbd,fcd,fdb-fff,10c6,10c8-10cc,10ce-10cf,1249,124e-124f,1257,1259,125e-125f,1289,128e-128f,12b1,12b6-12b7,12bf,12c1,12c6-12c7,12d7,1311,1316-1317,135b-135c,137d-137f,139a-139f,13f6-13f7,13fe-13ff,169d-169f,16f9-16ff,1716-171e,1737-173f,1754-175f,176d,1771,1774-177f,17de-17df,17ea-17ef,17fa-17ff,181a-181f,1879-187f,18ab-18af,18f6-18ff,191f,192c-192f,193c-193f,1941-1943,196e-196f,1975-197f,19ac-19af,19ca-19cf,19db-19dd,1a1c-1a1d,1a5f,1a7d-1a7e,1a8a-1a8f,1a9a-1a9f,1aae-1aaf,1acf-1aff,1b4d,1bf4-1bfb,1c38-1c3a,1c4a-1c4c,1c8b-1c8f,1cbb-1cbc,1cc8-1ccf,1cfb-1cff,1f16-1f17,1f1e-1f1f,1f46-1f47,1f4e-1f4f,1f58,1f5a,1f5c,1f5e,1f7e-1f7f,1fb5,1fc5,1fd4-1fd5,1fdc,1ff0-1ff1,1ff5,1fff,2065,2072-2073,208f,209d-209f,20c1-20cf,20f1-20ff,218c-218f,242a-243f,244b-245f,2b74-2b75,2b96,2cf4-2cf8,2d26,2d28-2d2c,2d2e-2d2f,2d68-2d6e,2d71-2d7e,2d97-2d9f,2da7,2daf,2db7,2dbf,2dc7,2dcf,2dd7,2ddf,2e5e-2e7f,2e9a,2ef4-2eff,2fd6-2fef,3040,3097-3098,3100-3104,3130,318f,31e6-31ee,321f,a48d-a48f,a4c7-a4cf,a62c-a63f,a6f8-a6ff,a7ce-a7cf,a7d2,a7d4,a7dd-a7f1,a82d-a82f,a83a-a83f,a878-a87f,a8c6-a8cd,a8da-a8df,a954-a95e,a97d-a97f,a9ce,a9da-a9dd,a9ff,aa37-aa3f,aa4e-aa4f,aa5a-aa5b,aac3-aada,aaf7-ab00,ab07-ab08,ab0f-ab10,ab17-ab1f,ab27,ab2f,ab6c-ab6f,abee-abef,abfa-abff,d7a4-d7af,d7c7-d7ca,d7fc-d7ff,fa6e-fa6f,fada-faff,fb07-fb12,fb18-fb1c,fb37,fb3d,fb3f,fb42,fb45,fbc3-fbd2,fd90-fd91,fdc8-fdce,fdd0-fdef,fe1a-fe1f,fe53,fe67,fe6c-fe6f,fe75,fefd-fefe,ff00,ffbf-ffc1,ffc8-ffc9,ffd0-ffd1,ffd8-ffd9,ffdd-ffdf,ffe7,ffef-fff8,fffe-ffff,1000c,10027,1003b,1003e,1004e-1004f,1005e-1007f,100fb-100ff,10103-10106,10134-10136,1018f,1019d-1019f,101a1-101cf,101fe-1027f,1029d-1029f,102d1-102df,102fc-102ff,10324-1032c,1034b-1034f,1037b-1037f,1039e,103c4-103c7,103d6-103ff,1049e-1049f,104aa-104af,104d4-104d7,104fc-104ff,10528-1052f,10564-1056e,1057b,1058b,10593,10596,105a2,105b2,105ba,105bd-105bf,105f4-105ff,10737-1073f,10756-1075f,10768-1077f,10786,107b1,107bb-107ff,10806-10807,10809,10836,10839-1083b,1083d-1083e,10856,1089f-108a6,108b0-108df,108f3,108f6-108fa,1091c-1091e,1093a-1093e,10940-1097f,109b8-109bb,109d0-109d1,10a04,10a07-10a0b,10a14,10a18,10a36-10a37,10a3b-10a3e,10a49-10a4f,10a59-10a5f,10aa0-10abf,10ae7-10aea,10af7-10aff,10b36-10b38,10b56-10b57,10b73-10b77,10b92-10b98,10b9d-10ba8,10bb0-10bff,10c49-10c7f,10cb3-10cbf,10cf3-10cf9,10d28-10d2f,10d3a-10d3f,10d66-10d68,10d86-10d8d,10d90-10e5f,10e7f,10eaa,10eae-10eaf,10eb2-10ec1,10ec5-10efb,10f28-10f2f,10f5a-10f6f,10f8a-10faf,10fcc-10fdf,10ff7-10fff,1104e-11051,11076-1107e,110c3-110cc,110ce-110cf,110e9-110ef,110fa-110ff,11135,11148-1114f,11177-1117f,111e0,111f5-111ff,11212,11242-1127f,11287,11289,1128e,1129e,112aa-112af,112eb-112ef,112fa-112ff,11304,1130d-1130e,11311-11312,11329,11331,11334,1133a,11345-11346,11349-1134a,1134e-1134f,11351-11356,11358-1135c,11364-11365,1136d-1136f,11375-1137f,1138a,1138c-1138d,1138f,113b6,113c1,113c3-113c4,113c6,113cb,113d6,113d9-113e0,113e3-113ff,1145c,11462-1147f,114c8-114cf,114da-1157f,115b6-115b7,115de-115ff,11645-1164f,1165a-1165f,1166d-1167f,116ba-116bf,116ca-116cf,116e4-116ff,1171b-1171c,1172c-1172f,11747-117ff,1183c-1189f,118f3-118fe,11907-11908,1190a-1190b,11914,11917,11936,11939-1193a,11947-1194f,1195a-1199f,119a8-119a9,119d8-119d9,119e5-119ff,11a48-11a4f,11aa3-11aaf,11af9-11aff,11b0a-11bbf,11be2-11bef,11bfa-11bff,11c09,11c37,11c46-11c4f,11c6d-11c6f,11c90-11c91,11ca8,11cb7-11cff,11d07,11d0a,11d37-11d39,11d3b,11d3e,11d48-11d4f,11d5a-11d5f,11d66,11d69,11d8f,11d92,11d99-11d9f,11daa-11edf,11ef9-11eff,11f11,11f3b-11f3d,11f5b-11faf,11fb1-11fbf,11ff2-11ffe,1239a-123ff,1246f,12475-1247f,12544-12f8f,12ff3-12fff,13456-1345f,143fb-143ff,14647-160ff,1613a-167ff,16a39-16a3f,16a5f,16a6a-16a6d,16abf,16aca-16acf,16aee-16aef,16af6-16aff,16b46-16b4f,16b5a,16b62,16b78-16b7c,16b90-16d3f,16d7a-16e3f,16e9b-16eff,16f4b-16f4e,16f88-16f8e,16fa0-16fdf,16fe5-16fef,16ff2-16fff,187f8-187ff,18cd6-18cfe,18d09-1afef,1aff4,1affc,1afff,1b123-1b131,1b133-1b14f,1b153-1b154,1b156-1b163,1b168-1b16f,1b2fc-1bbff,1bc6b-1bc6f,1bc7d-1bc7f,1bc89-1bc8f,1bc9a-1bc9b,1bca4-1cbff,1ccfa-1ccff,1ceb4-1ceff,1cf2e-1cf2f,1cf47-1cf4f,1cfc4-1cfff,1d0f6-1d0ff,1d127-1d128,1d1eb-1d1ff,1d246-1d2bf,1d2d4-1d2df,1d2f4-1d2ff,1d357-1d35f,1d379-1d3ff,1d455,1d49d,1d4a0-1d4a1,1d4a3-1d4a4,1d4a7-1d4a8,1d4ad,1d4ba,1d4bc,1d4c4,1d506,1d50b-1d50c,1d515,1d51d,1d53a,1d53f,1d545,1d547-1d549,1d551,1d6a6-1d6a7,1d7cc-1d7cd,1da8c-1da9a,1daa0,1dab0-1deff,1df1f-1df24,1df2b-1dfff,1e007,1e019-1e01a,1e022,1e025,1e02b-1e02f,1e06e-1e08e,1e090-1e0ff,1e12d-1e12f,1e13e-1e13f,1e14a-1e14d,1e150-1e28f,1e2af-1e2bf,1e2fa-1e2fe,1e300-1e4cf,1e4fa-1e5cf,1e5fb-1e5fe,1e600-1e7df,1e7e7,1e7ec,1e7ef,1e7ff,1e8c5-1e8c6,1e8d7-1e8ff,1e94c-1e94f,1e95a-1e95d,1e960-1ec70,1ecb5-1ed00,1ed3e-1edff,1ee04,1ee20,1ee23,1ee25-1ee26,1ee28,1ee33,1ee38,1ee3a,1ee3c-1ee41,1ee43-1ee46,1ee48,1ee4a,1ee4c,1ee50,1ee53,1ee55-1ee56,1ee58,1ee5a,1ee5c,1ee5e,1ee60,1ee63,1ee65-1ee66,1ee6b,1ee73,1ee78,1ee7d,1ee7f,1ee8a,1ee9c-1eea0,1eea4,1eeaa,1eebc-1eeef,1eef2-1efff,1f02c-1f02f,1f094-1f09f,1f0af-1f0b0,1f0c0,1f0d0,1f0f6-1f0ff,1f1ae-1f1e5,1f203-1f20f,1f23c-1f23f,1f249-1f24f,1f252-1f25f,1f266-1f2ff,1f6d8-1f6db,1f6ed-1f6ef,1f6fd-1f6ff,1f777-1f77a,1f7da-1f7df,1f7ec-1f7ef,1f7f1-1f7ff,1f80c-1f80f,1f848-1f84f,1f85a-1f85f,1f888-1f88f,1f8ae-1f8af,1f8bc-1f8bf,1f8c2-1f8ff,1fa54-1fa5f,1fa6e-1fa6f,1fa7d-1fa7f,1fa8a-1fa8e,1fac7-1facd,1fadd-1fade,1faea-1faef,1faf9-1faff,1fb93,1fbfa-1ffff,2a6e0-2a6ff,2b73a-2b73f,2b81e-2b81f,2cea2-2ceaf,2ebe1-2ebef,2ee5e-2f7ff,2fa1e-2ffff,3134b-3134f,323b0-e0000,e0002-e001f,e0080-e00ff,e01f0-effff,ffffe-fffff,10fffe-10ffff"),
  ("Co", "e000-f8ff,f0000-ffffd,100000-10fffd"),
  ("Ll", "61-7a,b5,df-f6,f8-ff,101,103,105,107,109,10b,10d,10f,111,113,115,117,119,11b,11d,11f,121,123,125,127,129,12b,12d,12f,131,133,135,137-138,13a,13c,13e,140,142,144,146,148-149,14b,14d,14f,151,153,155,157,159,15b,15d,15f,161,163,165,167,169,16b,16d,16f,171,173,175,177,17a,17c,17e-180,183,185,188,18c-18d,192,195,199-19b,19e,1a1,1a3,1a5,1a8,1aa-1ab,1ad,1b0,1b4,1b6,1b9-1ba,1bd-1bf,1c6,1c9,1cc,1ce,1d0,1d2,1d4,1d6,1d8,1da,1dc-1dd,1df,1e1,1e3,1e5,1e7,1e9,1eb,1ed,1ef-1f0,1f3,1f5,1f9,1fb,1fd,1ff,201,203,205,207,209,20b,20d,20f,211,213,215,217,219,21b,21d,21f,221,223,225,227,229,22b,22d,22f,231,233-239,23c,23f-240,242,247,249,24b,24d,24f-293,295-2af,371,373,377,37b-37d,390,3ac-3ce,3d0-3d1,3d5-3d7,3d9,3db,3dd,3df,3e1,3e3,3e5,3e7,3e9,3eb,3ed,3ef-3f3,3f5,3f8,3fb-3fc,430-45f,461,463,465,467,469,46b,46d,46f,471,473,475,477,479,47b,47d,47f,481,48b,48d,48f,491,493,495,497,499,49b,49d,49f,4a1,4a3,4a5,4a7,4a9,4ab,4ad,4af,4b1,4b3,4b5,4b7,4b9,4bb,4bd,4bf,4c2,4c4,4c6,4c8,4ca,4cc,4ce-4cf,4d1,4d3,4d5,4d7,4d9,4db,4dd,4df,4e1,4e3,4e5,4e7,4e9,4eb,4ed,4ef,4f1,4f3,4f5,4f7,4f9,4fb,4fd,4ff,501,503,505,507,509,50b,50d,50f,511,513,515,517,519,51b,51d,51f,521,523,525,527,529,52b,52d,52f,560-588,10d0-10fa,10fd-10ff,13f8-13fd,1c80-1c88,1c8a,1d00-1d2b,1d6b-1d77,1d79-1d9a,1e01,1e03,1e05,1e07,1e09,1e0b,1e0d,1e0f,1e11,1e13,1e15,1e17,1e19,1e1b,1e1d,1e1f,1e21,1e23,1e25,1e27,1e29,1e2b,1e2d,1e2f,1e31,1e33,1e35,1e37,1e39,1e3b,1e3d,1e3f,1e41,1e43,1e45,1e47,1e49,1e4b,1e4d,1e4f,1e51,1e53,1e55,1e57,1e59,1e5b,1e5d,1e5f,1e61,1e63,1e65,1e67,1e69,1e6b,1e6d,1e6f,1e71,1e73,1e75,1e77,1e79,1e7b,1e7d,1e7f,1e81,1e83,1e85,1e87,1e89,1e8b,1e8d,1e8f,1e91,1e93,1e95-1e9d,1e9f,1ea1,1ea3,1ea5,1ea7,1ea9,1eab,1ead,1eaf,1eb1,1eb3,1eb5,1eb7,1eb9,1ebb,1ebd,1ebf,1ec1,1ec3,1ec5,1ec7,1ec9,1ecb,1ecd,1ecf,1ed1,1ed3,1ed5,1ed7,1ed9,1edb,1edd,1edf,1ee1,1ee3,1ee5,1ee7,1ee9,1eeb,1eed,1eef,1ef1,1ef3,1ef5,1ef7,1ef9,1efb,1efd,1eff-1f07,1f10-1f15,1f20-1f27,1f30-1f37,1f40-1f45,1f50-1f57,1f60-1f67,1f70-1f7d,1f80-1f87,1f90-1f97,1fa0-1fa7,1fb0-1fb4,1fb6-1fb7,1fbe,1fc2-1fc4,1fc6-1fc7,1fd0-1fd3,1fd6-1fd7,1fe0-1fe7,1ff2-1ff4,1ff6-1ff7,210a,210e-210f,2113,212f,2134,2139,213c-213d,2146-2149,214e,2184,2c30-2c5f,2c61,2c65-2c66,2c68,2c6a,2c6c,2c71,2c73-2c74,2c76-2c7b,2c81,2c83,2c85,2c87,2c89,2c8b,2c8d,2c8f,2c91,2c93,2c95,2c97,2c99,2c9b,2c9d,2c9f,2ca1,2ca3,2ca5,2ca7,2ca9,2cab,2cad,2caf,2cb1,2cb3,2cb5,2cb7,2cb9,2cbb,2cbd,2cbf,2cc1,2cc3,2cc5,2cc7,2cc9,2ccb,2ccd,2ccf,2cd1,2cd3,2cd5,2cd7,2cd9,2cdb,2cdd,2cdf,2ce1,2ce3-2ce4,2cec,2cee,2cf3,2d00-2d25,2d27,2d2d,a641,a643,a645,a647,a649,a64b,a64d,a64f,a651,a653,a655,a657,a659,a65b,a65d,a65f,a661,a663,a665,a667,a669,a66b,a66d,a681,a683,a685,a687,a689,a68b,a68d,a68f,a691,a693,a695,a697,a699,a69b,a723,a725,a727,a729,a72b,a72d,a72f-a731,a733,a735,a737,a739,a73b,a73d,a73f,a741,a743,a745,a747,a749,a74b,a74d,a74f,a751,a753,a755,a757,a759,a75b,a75d,a75f,a761,a763,a765,a767,a769,a76b,a76d,a76f,a771-a778,a77a,a77c,a77f,a781,a783,a785,a787,a78c,a78e,a791,a793-a795,a797,a799,a79b,a79d,a79f,a7a1,a7a3,a7a5,a7a7,a7a9,a7af,a7b5,a7b7,a7b9,a7bb,a7bd,a7bf,a7c1,a7c3,a7c8,a7ca,a7cd,a7d1,a7d3,a7d5,a7d7,a7d9,a7db,a7f6,a7fa,ab30-ab5a,ab60-ab68,ab70-abbf,fb00-fb06,fb13-fb17,ff41-ff5a,10428-1044f,104d8-104fb,10597-105a1,105a3-105b1,105b3-105b9,105bb-105bc,10cc0-10cf2,10d70-10d85,118c0-118df,16e60-16e7f,1d41a-1d433,1d44e-1d454,1d456-1d467,1d482-1d49b,1d4b6-1d4b9,1d4bb,1d4bd-1d4c3,1d4c5-1d4cf,1d4ea-1d503,1d51e-1d537,1d552-1d56b,1d586-1d59f,1d5ba-1d5d3,1d5ee-1d607,1d622-1d63b,1d656-1d66f,1d68a-1d6a5,1d6c2-1d6da,1d6dc-1d6e1,1d6fc-1d714,1d716-1d71b,1d736-1d74e,1d750-1d755,1d770-1d788,1d78a-1d78f,1d7aa-1d7c2,1d7c4-1d7c9,1d7cb,1df00-1df09,1df0b-1df1e,1df25-1df2a,1e922-1e943"),
  ("Lm", "2b0-2c1,2c6-2d1,2e0-2e4,2ec,2ee,374,37a,559,640,6e5-6e6,7f4-7f5,7fa,81a,824,828,8c9,971,e46,ec6,10fc,17d7,1843,1aa7,1c78-1c7d,1d2c-1d6a,1d78,1d9b-1dbf,2071,207f,2090-209c,2c7c-2c7d,2d6f,2e2f,3005,3031-3035,303b,309d-309e,30fc-30fe,a015,a4f8-a4fd,a60c,a67f,a69c-a69d,a717-a71f,a770,a788,a7f2-a7f4,a7f8-a7f9,a9cf,a9e6,aa70,aadd,aaf3-aaf4,ab5c-ab5f,ab69,ff70,ff9e-ff9f,10780-10785,10787-107b0,107b2-107ba,10d4e,10d6f,16b40-16b43,16d40-16d42,16d6b-16d6c,16f93-16f9f,16fe0-16fe1,16fe3,1aff0-1aff3,1aff5-1affb,1affd-1affe,1e030-1e06d,1e137-1e13d,1e4eb,1e94b"),
  ("Lo", "aa,ba,1bb,1c0-1c3,294,5d0-5ea,5ef-5f2,620-63f,641-64a,66e-66f,671-6d3,6d5,6ee-6ef,6fa-6fc,6ff,710,712-72f,74d-7a5,7b1,7ca-7ea,800-815,840-858,860-86a,870-887,889-88e,8a0-8c8,904-939,93d,950,958-961,972-980,985-98c,98f-990,993-9a8,9aa-9b0,9b2,9b6-9b9,9bd,9ce,9dc-9dd,9df-9e1,9f0-9f1,9fc,a05-a0a,a0f-a10,a13-a28,a2a-a30,a32-a33,a35-a36,a38-a39,a59-a5c,a5e,a72-a74,a85-a8d,a8f-a91,a93-aa8,aaa-ab0,ab2-ab3,ab5-ab9,abd,ad0,ae0-ae1,af9,b05-b0c,b0f-b10,b13-b28,b2a-b30,b32-b33,b35-b39,b3d,b5c-b5d,b5f-b61,b71,b83,b85-b8a,b8e-b90,b92-b95,b99-b9a,b9c,b9e-b9f,ba3-ba4,ba8-baa,bae-bb9,bd0,c05-c0c,c0e-c10,c12-c28,c2a-c39,c3d,c58-c5a,c5d,c60-c61,c80,c85-c8c,c8e-c90,c92-ca8,caa-cb3,cb5-cb9,cbd,cdd-cde,ce0-ce1,cf1-cf2,d04-d0c,d0e-d10,d12-d3a,d3d,d4e,d54-d56,d5f-d61,d7a-d7f,d85-d96,d9a-db1,db3-dbb,dbd,dc0-dc6,e01-e30,e32-e33,e40-e45,e81-e82,e84,e86-e8a,e8c-ea3,ea5,ea7-eb0,eb2-eb3,ebd,ec0-ec4,edc-edf,f00,f40-f47,f49-f6c,f88-f8c,1000-102a,103f,1050-1055,105a-105d,1061,1065-1066,106e-1070,1075-1081,108e,1100-1248,124a-124d,1250-1256,1258,125a-125d,1260-1288,128a-128d,1290-12b0,12b2-12b5,12b8-12be,12c0,12c2-12c5,12c8-12d6,12d8-1310,1312-1315,1318-135a,1380-138f,1401-166c,166f-167f,1681-169a,16a0-16ea,16f1-16f8,1700-1711,171f-1731,1740-1751,1760-176c,176e-1770,1780-17b3,17dc,1820-1842,1844-1878,1880-1884,1887-18a8,18aa,18b0-18f5,1900-191e,1950-196d,1970-1974,1980-19ab,19b0-19c9,1a00-1a16,1a20-1a54,1b05-1b33,1b45-1b4c,1b83-1ba0,1bae-1baf,1bba-1be5,1c00-1c23,1c4d-1c4f,1c5a-1c77,1ce9-1cec,1cee-1cf3,1cf5-1cf6,1cfa,2135-2138,2d30-2d67,2d80-2d96,2da0-2da6,2da8-2dae,2db0-2db6,2db8-2dbe,2dc0-2dc6,2dc8-2dce,2dd0-2dd6,2dd8-2dde,3006,303c,3041-3096,309f,30a1-30fa,30ff,3105-312f,3131-318e,31a0-31bf,31f0-31ff,3400-4dbf,4e00-a014,a016-a48c,a4d0-a4f7,a500-a60b,a610-a61f,a62a-a62b,a66e,a6a0-a6e5,a78f,a7f7,a7fb-a801,a803-a805,a807-a80a,a80c-a822,a840-a873,a882-a8b3,a8f2-a8f7,a8fb,a8fd-a8fe,a90a-a925,a930-a946,a960-a97c,a984-a9b2,a9e0-a9e4,a9e7-a9ef,a9fa-a9fe,aa00-aa28,aa40-aa42,aa44-aa4b,aa60-aa6f,aa71-aa76,aa7a,aa7e-aaaf,aab1,aab5-aab6,aab9-aabd,aac0,aac2,aadb-aadc,aae0-aaea,aaf2,ab01-ab06,ab09-ab0e,ab11-ab16,ab20-ab26,ab28-ab2e,abc0-abe2,ac00-d7a3,d7b0-d7c6,d7cb-d7fb,f900-fa6d,fa70-fad9,fb1d,fb1f-fb28,fb2a-fb36,fb38-fb3c,fb3e,fb40-fb41,fb43-fb44,fb46-fbb1,fbd3-fd3d,fd50-fd8f,fd92-fdc7,fdf0-fdfb,fe70-fe74,fe76-fefc,ff66-ff6f,ff71-ff9d,ffa0-ffbe,ffc2-ffc7,ffca-ffcf,ffd2-ffd7,ffda-ffdc,10000-1000b,1000d-10026,10028-1003a,1003c-1003d,1003f-1004d,10050-1005d,10080-100fa,10280-1029c,102a0-102d0,10300-1031f,1032d-10340,10342-10349,10350-10375,10380-1039d,103a0-103c3,103c8-103cf,10450-1049d,10500-10527,10530-10563,105c0-105f3,10600-10736,10740-10755,10760-10767,10800-10805,10808,1080a-10835,10837-10838,1083c,1083f-10855,10860-10876,10880-1089e,108e0-108f2,108f4-108f5,10900-10915,10920-10939,10980-109b7,109be-109bf,10a00,10a10-10a13,10a15-10a17,10a19-10a35,10a60-10a7c,10a80-10a9c,10ac0-10ac7,10ac9-10ae4,10b00-10b35,10b40-10b55,10b60-10b72,10b80-10b91,10c00-10c48,10d00-10d23,10d4a-10d4d,10d4f,10e80-10ea9,10eb0-10eb1,10ec2-10ec4,10f00-10f1c,10f27,10f30-10f45,10f70-10f81,10fb0-10fc4,10fe0-10ff6,11003-11037,11071-11072,11075,11083-110af,110d0-110e8,11103-11126,11144,11147,11150-11172,11176,11183-111b2,111c1-111c4,111da,111dc,11200-11211,11213-1122b,1123f-11240,11280-11286,11288,1128a-1128d,1128f-1129d,1129f-112a8,112b0-112de,11305-1130c,1130f-11310,11313-11328,1132a-11330,11332-11333,11335-11339,1133d,11350,1135d-11361,11380-11389,1138b,1138e,11390-113b5,113b7,113d1,113d3,11400-11434,11447-1144a,1145f-11461,11480-114af,114c4-114c5,114c7,11580-115ae,115d8-115db,11600-1162f,11644,11680-116aa,116b8,11700-1171a,11740-11746,11800-1182b,118ff-11906,11909,1190c-11913,11915-11916,11918-1192f,1193f,11941,119a0-119a7,119aa-119d0,119e1,119e3,11a00,11a0b-11a32,11a3a,11a50,11a5c-11a89,11a9d,11ab0-11af8,11bc0-11be0,11c00-11c08,11c0a-11c2e,11c40,11c72-11c8f,11d00-11d06,11d08-11d09,11d0b-11d30,11d46,11d60-11d65,11d67-11d68,11d6a-11d89,11d98,11ee0-11ef2,11f02,11f04-11f10,11f12-11f33,11fb0,12000-12399,12480-12543,12f90-12ff0,13000-1342f,13441-13446,13460-143fa,14400-14646,16100-1611d,16800-16a38,16a40-16a5e,16a70-16abe,16ad0-16aed,16b00-16b2f,16b63-16b77,16b7d-16b8f,16d43-16d6a,16f00-16f4a,16f50,17000-187f7,18800-18cd5,18cff-18d08,1b000-1b122,1b132,1b150-1b152,1b155,1b164-1b167,1b170-1b2fb,1bc00-1bc6a,1bc70-1bc7c,1bc80-1bc88,1bc90-1bc99,1df0a,1e100-1e12c,1e14e,1e290-1e2ad,1e2c0-1e2eb,1e4d0-1e4ea,1e5d0-1e5ed,1e5f0,1e7e0-1e7e6,1e7e8-1e7eb,1e7ed-1e7ee,1e7f0-1e7fe,1e800-1e8c4,1ee00-1ee03,1ee05-1ee1f,1ee21-1ee22,1ee24,1ee27,1ee29-1ee32,1ee34-1ee37,1ee39,1ee3b,1ee42,1ee47,1ee49,1ee4b,1ee4d-1ee4f,1ee51-1ee52,1ee54,1ee57,1ee59,1ee5b,1ee5d,1ee5f,1ee61-1ee62,1ee64,1ee67-1ee6a,1ee6c-1ee72,1ee74-1ee77,1ee79-1ee7c,1ee7e,1ee80-1ee89,1ee8b-1ee9b,1eea1-1eea3,1eea5-1eea9,1eeab-1eebb,20000-2a6df,2a700-2b739,2b740-2b81d,2b820-2cea1,2ceb0-2ebe0,2ebf0-2ee5d,2f800-2fa1d,30000-3134a,31350-323af"),
  ("Lt", "1c5,1c8,1cb,1f2,1f88-1f8f,1f98-1f9f,1fa8-1faf,1fbc,1fcc,1ffc"),
  ("Lu", "41-5a,c0-d6,d8-de,100,102,104,106,108,10a,10c,10e,110,112,114,116,118,11a,11c,11e,120,122,124,126,128,12a,12c,12e,130,132,134,136,139,13b,13d,13f,141,143,145,147,14a,14c,14e,150,152,154,156,158,15a,15c,15e,160,162,164,166,168,16a,16c,16e,170,172,174,176,178-179,17b,17d,181-182,184,186-187,189-18b,18e-191,193-194,196-198,19c-19d,19f-1a0,1a2,1a4,1a6-1a7,1a9,1ac,1ae-1af,1b1-1b3,1b5,1b7-1b8,1bc,1c4,1c7,1ca,1cd,1cf,1d1,1d3,1d5,1d7,1d9,1db,1de,1e0,1e2,1e4,1e6,1e8,1ea,1ec,1ee,1f1,1f4,1f6-1f8,1fa,1fc,1fe,200,202,204,206,208,20a,20c,20e,210,212,214,216,218,21a,21c,21e,220,222,224,226,228,22a,22c,22e,230,232,23a-23b,23d-23e,241,243-246,248,24a,24c,24e,370,372,376,37f,386,388-38a,38c,38e-38f,391-3a1,3a3-3ab,3cf,3d2-3d4,3d8,3da,3dc,3de,3e0,3e2,3e4,3e6,3e8,3ea,3ec,3ee,3f4,3f7,3f9-3fa,3fd-42f,460,462,464,466,468,46a,46c,46e,470,472,474,476,478,47a,47c,47e,480,48a,48c,48e,490,492,494,496,498,49a,49c,49e,4a0,4a2,4a4,4a6,4a8,4aa,4ac,4ae,4b0,4b2,4b4,4b6,4b8,4ba,4bc,4be,4c0-4c1,4c3,4c5,4c7,4c9,4cb,4cd,4d0,4d2,4d4,4d6,4d8,4da,4dc,4de,4e0,4e2,4e4,4e6,4e8,4ea,4ec,4ee,4f0,4f2,4f4,4f6,4f8,4fa,4fc,4fe,500,502,504,506,508,50a,50c,50e,510,512,514,516,518,51a,51c,51e,520,522,524,526,528,52a,52c,52e,531-556,10a0-10c5,10c7,10cd,13a0-13f5,1c89,1c90-1cba,1cbd-1cbf,1e00,1e02,1e04,1e06,1e08,1e0a,1e0c,1e0e,1e10,1e12,1e14,1e16,1e18,1e1a,1e1c,1e1e,1e20,1e22,1e24,1e26,1e28,1e2a,1e2c,1e2e,1e30,1e32,1e34,1e36,1e38,1e3a,1e3c,1e3e,1e40,1e42,1e44,1e46,1e48,1e4a,1e4c,1e4e,1e50,1e52,1e54,1e56,1e58,1e5a,1e5c,1e5e,1e60,1e62,1e64,1e66,1e68,1e6a,1e6c,1e6e,1e70,1e72,1e74,1e76,1e78,1e7a,1e7c,1e7e,1e80,1e82,1e84,1e86,1e88,1e8a,1e8c,1e8e,1e90,1e92,1e94,1e9e,1ea0,1ea2,1ea4,1ea6,1ea8,1eaa,1eac,1eae,1eb0,1eb2,1eb4,1eb6,1eb8,1eba,1ebc,1ebe,1ec0,1ec2,1ec4,1ec6,1ec8,1eca,1ecc,1ece,1ed0,1ed2,1ed4,1ed6,1ed8,1eda,1edc,1ede,1ee0,1ee2,1ee4,1ee6,1ee8,1eea,1eec,1eee,1ef0,1ef2,1ef4,1ef6,1ef8,1efa,1efc,1efe,1f08-1f0f,1f18-1f1d,1f28-1f2f,1f38-1f3f,1f48-1f4d,1f59,1f5b,1f5d,1f5f,1f68-1f6f,1fb8-1fbb,1fc8-1fcb,1fd8-1fdb,1fe8-1fec,1ff8-1ffb,2102,2107,210b-210d,2110-2112,2115,2119-211d,2124,2126,2128,212a-212d,2130-2133,213e-213f,2145,2183,2c00-2c2f,2c60,2c62-2c64,2c67,2c69,2c6b,2c6d-2c70,2c72,2c75,2c7e-2c80,2c82,2c84,2c86,2c88,2c8a,2c8c,2c8e,2c90,2c92,2c94,2c96,2c98,2c9a,2c9c,2c9e,2ca0,2ca2,2ca4,2ca6,2ca8,2caa,2cac,2cae,2cb0,2cb2,2cb4,2cb6,2cb8,2cba,2cbc,2cbe,2cc0,2cc2,2cc4,2cc6,2cc8,2cca,2ccc,2cce,2cd0,2cd2,2cd4,2cd6,2cd8,2cda,2cdc,2cde,2ce0,2ce2,2ceb,2ced,2cf2,a640,a642,a644,a646,a648,a64a,a64c,a64e,a650,a652,a654,a656,a658,a65a,a65c,a65e,a660,a662,a664,a666,a668,a66a,a66c,a680,a682,a684,a686,a688,a68a,a68c,a68e,a690,a692,a694,a696,a698,a69a,a722,a724,a726,a728,a72a,a72c,a72e,a732,a734,a736,a738,a73a,a73c,a73e,a740,a742,a744,a746,a748,a74a,a74c,a74e,a750,a752,a754,a756,a758,a75a,a75c,a75e,a760,a762,a764,a766,a768,a76a,a76c,a76e,a779,a77b,a77d-a77e,a780,a782,a784,a786,a78b,a78d,a790,a792,a796,a798,a79a,a79c,a79e,a7a0,a7a2,a7a4,a7a6,a7a8,a7aa-a7ae,a7b0-a7b4,a7b6,a7b8,a7ba,a7bc,a7be,a7c0,a7c2,a7c4-a7c7,a7c9,a7cb-a7cc,a7d0,a7d6,a7d8,a7da,a7dc,a7f5,ff21-ff3a,10400-10427,104b0-104d3,10570-1057a,1057c-1058a,1058c-10592,10594-10595,10c80-10cb2,10d50-10d65,118a0-118bf,16e40-16e5f,1d400-1d419,1d434-1d44d,1d468-1d481,1d49c,1d49e-1d49f,1d4a2,1d4a5-1d4a6,1d4a9-1d4ac,1d4ae-1d4b5,1d4d0-1d4e9,1d504-1d505,1d507-1d50a,1d50d-1d514,1d516-1d51c,1d538-1d539,1d53b-1d53e,1d540-1d544,1d546,1d54a-1d550,1d56c-1d585,1d5a0-1d5b9,1d5d4-1d5ed,1d608-1d621,1d63c-1d655,1d670-1d689,1d6a8-1d6c0,1d6e2-1d6fa,1d71c-1d734,1d756-1d76e,1d790-1d7a8,1d7ca,1e900-1e921"),
  ("Mc", "903,93b,93e-940,949-94c,94e-94f,982-983,9be-9c0,9c7-9c8,9cb-9cc,9d7,a03,a3e-a40,a83,abe-ac0,ac9,acb-acc,b02-b03,b3e,b40,b47-b48,b4b-b4c,b57,bbe-bbf,bc1-bc2,bc6-bc8,bca-bcc,bd7,c01-c03,c41-c44,c82-c83,cbe,cc0-cc4,cc7-cc8,cca-ccb,cd5-cd6,cf3,d02-d03,d3e-d40,d46-d48,d4a-d4c,d57,d82-d83,dcf-dd1,dd8-ddf,df2-df3,f3e-f3f,f7f,102b-102c,1031,1038,103b-103c,1056-1057,1062-1064,1067-106d,1083-1084,1087-108c,108f,109a-109c,1715,1734,17b6,17be-17c5,17c7-17c8,1923-1926,1929-192b,1930-1931,1933-1938,1a19-1a1a,1a55,1a57,1a61,1a63-1a64,1a6d-1a72,1b04,1b35,1b3b,1b3d-1b41,1b43-1b44,1b82,1ba1,1ba6-1ba7,1baa,1be7,1bea-1bec,1bee,1bf2-1bf3,1c24-1c2b,1c34-1c35,1ce1,1cf7,302e-302f,a823-a824,a827,a880-a881,a8b4-a8c3,a952-a953,a983,a9b4-a9b5,a9ba-a9bb,a9be-a9c0,aa2f-aa30,aa33-aa34,aa4d,aa7b,aa7d,aaeb,aaee-aaef,aaf5,abe3-abe4,abe6-abe7,abe9-abea,abec,11000,11002,11082,110b0-110b2,110b7-110b8,1112c,11145-11146,11182,111b3-111b5,111bf-111c0,111ce,1122c-1122e,11232-11233,11235,112e0-112e2,11302-11303,1133e-1133f,11341-11344,11347-11348,1134b-1134d,11357,11362-11363,113b8-113ba,113c2,113c5,113c7-113ca,113cc-113cd,113cf,11435-11437,11440-11441,11445,114b0-114b2,114b9,114bb-114be,114c1,115af-115b1,115b8-115bb,115be,11630-11632,1163b-1163c,1163e,116ac,116ae-116af,116b6,1171e,11720-11721,11726,1182c-1182e,11838,11930-11935,11937-11938,1193d,11940,11942,119d1-119d3,119dc-119df,119e4,11a39,11a57-11a58,11a97,11c2f,11c3e,11ca9,11cb1,11cb4,11d8a-11d8e,11d93-11d94,11d96,11ef5-11ef6,11f03,11f34-11f35,11f3e-11f3f,11f41,1612a-1612c,16f51-16f87,16ff0-16ff1,1d165-1d166,1d16d-1d172"),
  ("Me", "488-489,1abe,20dd-20e0,20e2-20e4,a670-a672"),
  ("Mn", "300-36f,483-487,591-5bd,5bf,5c1-5c2,5c4-5c5,5c7,610-61a,64b-65f,670,6d6-6dc,6df-6e4,6e7-6e8,6ea-6ed,711,730-74a,7a6-7b0,7eb-7f3,7fd,816-819,81b-823,825-827,829-82d,859-85b,897-89f,8ca-8e1,8e3-902,93a,93c,941-948,94d,951-957,962-963,981,9bc,9c1-9c4,9cd,9e2-9e3,9fe,a01-a02,a3c,a41-a42,a47-a48,a4b-a4d,a51,a70-a71,a75,a81-a82,abc,ac1-ac5,ac7-ac8,acd,ae2-ae3,afa-aff,b01,b3c,b3f,b41-b44,b4d,b55-b56,b62-b63,b82,bc0,bcd,c00,c04,c3c,c3e-c40,c46-c48,c4a-c4d,c55-c56,c62-c63,c81,cbc,cbf,cc6,ccc-ccd,ce2-ce3,d00-d01,d3b-d3c,d41-d44,d4d,d62-d63,d81,dca,dd2-dd4,dd6,e31,e34-e3a,e47-e4e,eb1,eb4-ebc,ec8-ece,f18-f19,f35,f37,f39,f71-f7e,f80-f84,f86-f87,f8d-f97,f99-fbc,fc6,102d-1030,1032-1037,1039-103a,103d-103e,1058-1059,105e-1060,1071-1074,1082,1085-1086,108d,109d,135d-135f,1712-1714,1732-1733,1752-1753,1772-1773,17b4-17b5,17b7-17bd,17c6,17c9-17d3,17dd,180b-180d,180f,1885-1886,18a9,1920-1922,1927-1928,1932,1939-193b,1a17-1a18,1a1b,1a56,1a58-1a5e,1a60,1a62,1a65-1a6c,1a73-1a7c,1a7f,1ab0-1abd,1abf-1ace,1b00-1b03,1b34,1b36-1b3a,1b3c,1b42,1b6b-1b73,1b80-1b81,1ba2-1ba5,1ba8-1ba9,1bab-1bad,1be6,1be8-1be9,1bed,1bef-1bf1,1c2c-1c33,1c36-1c37,1cd0-1cd2,1cd4-1ce0,1ce2-1ce8,1ced,1cf4,1cf8-1cf9,1dc0-1dff,20d0-20dc,20e1,20e5-20f0,2cef-2cf1,2d7f,2de0-2dff,302a-302d,3099-309a,a66f,a674-a67d,a69e-a69f,a6f0-a6f1,a802,a806,a80b,a825-a826,a82c,a8c4-a8c5,a8e0-a8f1,a8ff,a926-a92d,a947-a951,a980-a982,a9b3,a9b6-a9b9,a9bc-a9bd,a9e5,aa29-aa2e,aa31-aa32,aa35-aa36,aa43,aa4c,aa7c,aab0,aab2-aab4,aab7-aab8,aabe-aabf,aac1,aaec-aaed,aaf6,abe5,abe8,abed,fb1e,fe00-fe0f,fe20-fe2f,101fd,102e0,10376-1037a,10a01-10a03,10a05-10a06,10a0c-10a0f,10a38-10a3a,10a3f,10ae5-10ae6,10d24-10d27,10d69-10d6d,10eab-10eac,10efc-10eff,10f46-10f50,10f82-10f85,11001,11038-11046,11070,11073-11074,1107f-11081,110b3-110b6,110b9-110ba,110c2,11100-11102,11127-1112b,1112d-11134,11173,11180-11181,111b6-111be,111c9-111cc,111cf,1122f-11231,11234,11236-11237,1123e,11241,112df,112e3-112ea,11300-11301,1133b-1133c,11340,11366-1136c,11370-11374,113bb-113c0,113ce,113d0,113d2,113e1-113e2,11438-1143f,11442-11444,11446,1145e,114b3-114b8,114ba,114bf-114c0,114c2-114c3,115b2-115b5,115bc-115bd,115bf-115c0,115dc-115dd,11633-1163a,1163d,1163f-11640,116ab,116ad,116b0-116b5,116b7,1171d,1171f,11722-11725,11727-1172b,1182f-11837,11839-1183a,1193b-1193c,1193e,11943,119d4-119d7,119da-119db,119e0,11a01-11a0a,11a33-11a38,11a3b-11a3e,11a47,11a51-11a56,11a59-11a5b,11a8a-11a96,11a98-11a99,11c30-11c36,11c38-11c3d,11c3f,11c92-11ca7,11caa-11cb0,11cb2-11cb3,11cb5-11cb6,11d31-11d36,11d3a,11d3c-11d3d,11d3f-11d45,11d47,11d90-11d91,11d95,11d97,11ef3-11ef4,11f00-11f01,11f36-11f3a,11f40,11f42,11f5a,13440,13447-13455,1611e-16129,1612d-1612f,16af0-16af4,16b30-16b36,16f4f,16f8f-16f92,16fe4,1bc9d-1bc9e,1cf00-1cf2d,1cf30-1cf46,1d167-1d169,1d17b-1d182,1d185-1d18b,1d1aa-1d1ad,1d242-1d244,1da00-1da36,1da3b-1da6c,1da75,1da84,1da9b-1da9f,1daa1-1daaf,1e000-1e006,1e008-1e018,1e01b-1e021,1e023-1e024,1e026-1e02a,1e08f,1e130-1e136,1e2ae,1e2ec-1e2ef,1e4ec-1e4ef,1e5ee-1e5ef,1e8d0-1e8d6,1e944-1e94a,e0100-e01ef"),
  ("Nd", "30-39,660-669,6f0-6f9,7c0-7c9,966-96f,9e6-9ef,a66-a6f,ae6-aef,b66-b6f,be6-bef,c66-c6f,ce6-cef,d66-d6f,de6-def,e50-e59,ed0-ed9,f20-f29,1040-1049,1090-1099,17e0-17e9,1810-1819,1946-194f,19d0-19d9,1a80-1a89,1a90-1a99,1b50-1b59,1bb0-1bb9,1c40-1c49,1c50-1c59,a620-a629,a8d0-a8d9,a900-a909,a9d0-a9d9,a9f0-a9f9,aa50-aa59,abf0-abf9,ff10-ff19,104a0-104a9,10d30-10d39,10d40-10d49,11066-1106f,110f0-110f9,11136-1113f,111d0-111d9,112f0-112f9,11450-11459,114d0-114d9,11650-11659,116c0-116c9,116d0-116e3,11730-11739,118e0-118e9,11950-11959,11bf0-11bf9,11c50-11c59,11d50-11d59,11da0-11da9,11f50-11f59,16130-16139,16a60-16a69,16ac0-16ac9,16b50-16b59,16d70-16d79,1ccf0-1ccf9,1d7ce-1d7ff,1e140-1e149,1e2f0-1e2f9,1e4f0-1e4f9,1e5f1-1e5fa,1e950-1e959,1fbf0-1fbf9"),
  ("Nl", "16ee-16f0,2160-2182,2185-2188,3007,3021-3029,3038-303a,a6e6-a6ef,10140-10174,10341,1034a,103d1-103d5,12400-1246e"),
  ("No", "b2-b3,b9,bc-be,9f4-9f9,b72-b77,bf0-bf2,c78-c7e,d58-d5e,d70-d78,f2a-f33,1369-137c,17f0-17f9,19da,2070,2074-2079,2080-2089,2150-215f,2189,2460-249b,24ea-24ff,2776-2793,2cfd,3192-3195,3220-3229,3248-324f,3251-325f,3280-3289,32b1-32bf,a830-a835,10107-10133,10175-10178,1018a-1018b,102e1-102fb,10320-10323,10858-1085f,10879-1087f,108a7-108af,108fb-108ff,10916-1091b,109bc-109bd,109c0-109cf,109d2-109ff,10a40-10a48,10a7d-10a7e,10a9d-10a9f,10aeb-10aef,10b58-10b5f,10b78-10b7f,10ba9-10baf,10cfa-10cff,10e60-10e7e,10f1d-10f26,10f51-10f54,10fc5-10fcb,11052-11065,111e1-111f4,1173a-1173b,118ea-118f2,11c5a-11c6c,11fc0-11fd4,16b5b-16b61,16e80-16e96,1d2c0-1d2d3,1d2e0-1d2f3,1d360-1d378,1e8c7-1e8cf,1ec71-1ecab,1ecad-1ecaf,1ecb1-1ecb4,1ed01-1ed2d,1ed2f-1ed3d,1f100-1f10c"),
  ("Pc", "5f,203f-2040,2054,fe33-fe34,fe4d-fe4f,ff3f"),
  ("Pd", "2d,58a,5be,1400,1806,2010-2015,2e17,2e1a,2e3a-2e3b,2e40,2e5d,301c,3030,30a0,fe31-fe32,fe58,fe63,ff0d,10d6e,10ead"),
  ("Pe", "29,5d,7d,f3b,f3d,169c,2046,207e,208e,2309,230b,232a,2769,276b,276d,276f,2771,2773,2775,27c6,27e7,27e9,27eb,27ed,27ef,2984,2986,2988,298a,298c,298e,2990,2992,2994,2996,2998,29d9,29db,29fd,2e23,2e25,2e27,2e29,2e56,2e58,2e5a,2e5c,3009,300b,300d,300f,3011,3015,3017,3019,301b,301e-301f,fd3e,fe18,fe36,fe38,fe3a,fe3c,fe3e,fe40,fe42,fe44,fe48,fe5a,fe5c,fe5e,ff09,ff3d,ff5d,ff60,ff63"),
  ("Pf", "bb,2019,201d,203a,2e03,2e05,2e0a,2e0d,2e1d,2e21"),
  ("Pi", "ab,2018,201b-201c,201f,2039,2e02,2e04,2e09,2e0c,2e1c,2e20"),
  ("Po", "21-23,25-27,2a,2c,2e-2f,3a-3b,3f-40,5c,a1,a7,b6-b7,bf,37e,387,55a-55f,589,5c0,5c3,5c6,5f3-5f4,609-60a,60c-60d,61b,61d-61f,66a-66d,6d4,700-70d,7f7-7f9,830-83e,85e,964-965,970,9fd,a76,af0,c77,c84,df4,e4f,e5a-e5b,f04-f12,f14,f85,fd0-fd4,fd9-fda,104a-104f,10fb,1360-1368,166e,16eb-16ed,1735-1736,17d4-17d6,17d8-17da,1800-1805,1807-180a,1944-1945,1a1e-1a1f,1aa0-1aa6,1aa8-1aad,1b4e-1b4f,1b5a-1b60,1b7d-1b7f,1bfc-1bff,1c3b-1c3f,1c7e-1c7f,1cc0-1cc7,1cd3,2016-2017,2020-2027,2030-2038,203b-203e,2041-2043,2047-2051,2053,2055-205e,2cf9-2cfc,2cfe-2cff,2d70,2e00-2e01,2e06-2e08,2e0b,2e0e-2e16,2e18-2e19,2e1b,2e1e-2e1f,2e2a-2e2e,2e30-2e39,2e3c-2e3f,2e41,2e43-2e4f,2e52-2e54,3001-3003,303d,30fb,a4fe-a4ff,a60d-a60f,a673,a67e,a6f2-a6f7,a874-a877,a8ce-a8cf,a8f8-a8fa,a8fc,a92e-a92f,a95f,a9c1-a9cd,a9de-a9df,aa5c-aa5f,aade-aadf,aaf0-aaf1,abeb,fe10-fe16,fe19,fe30,fe45-fe46,fe49-fe4c,fe50-fe52,fe54-fe57,fe5f-fe61,fe68,fe6a-fe6b,ff01-ff03,ff05-ff07,ff0a,ff0c,ff0e-ff0f,ff1a-ff1b,ff1f-ff20,ff3c,ff61,ff64-ff65,10100-10102,1039f,103d0,1056f,10857,1091f,1093f,10a50-10a58,10a7f,10af0-10af6,10b39-10b3f,10b99-10b9c,10f55-10f59,10f86-10f89,11047-1104d,110bb-110bc,110be-110c1,11140-11143,11174-11175,111c5-111c8,111cd,111db,111dd-111df,11238-1123d,112a9,113d4-113d5,113d7-113d8,1144b-1144f,1145a-1145b,1145d,114c6,115c1-115d7,11641-11643,11660-1166c,116b9,1173c-1173e,1183b,11944-11946,119e2,11a3f-11a46,11a9a-11a9c,11a9e-11aa2,11b00-11b09,11be1,11c41-11c45,11c70-11c71,11ef7-11ef8,11f43-11f4f,11fff,12470-12474,12ff1-12ff2,16a6e-16a6f,16af5,16b37-16b3b,16b44,16d6d-16d6f,16e97-16e9a,16fe2,1bc9f,1da87-1da8b,1e5ff,1e95e-1e95f"),
  ("Ps", "28,5b,7b,f3a,f3c,169b,201a,201e,2045,207d,208d,2308,230a,2329,2768,276a,276c,276e,2770,2772,2774,27c5,27e6,27e8,27ea,27ec,27ee,2983,2985,2987,2989,298b,298d,298f,2991,2993,2995,2997,29d8,29da,29fc,2e22,2e24,2e26,2e28,2e42,2e55,2e57,2e59,2e5b,3008,300a,300c,300e,3010,3014,3016,3018,301a,301d,fd3f,fe17,fe35,fe37,fe39,fe3b,fe3d,fe3f,fe41,fe43,fe47,fe59,fe5b,fe5d,ff08,ff3b,ff5b,ff5f,ff62"),
  ("Sc", "24,a2-a5,58f,60b,7fe-7ff,9f2-9f3,9fb,af1,bf9,e3f,17db,20a0-20c0,a838,fdfc,fe69,ff04,ffe0-ffe1,ffe5-ffe6,11fdd-11fe0,1e2ff,1ecb0"),
  ("Sk", "5e,60,a8,af,b4,b8,2c2-2c5,2d2-2df,2e5-2eb,2ed,2ef-2ff,375,384-385,888,1fbd,1fbf-1fc1,1fcd-1fcf,1fdd-1fdf,1fed-1fef,1ffd-1ffe,309b-309c,a700-a716,a720-a721,a789-a78a,ab5b,ab6a-ab6b,fbb2-fbc2,ff3e,ff40,ffe3,1f3fb-1f3ff"),
  ("Sm", "2b,3c-3e,7c,7e,ac,b1,d7,f7,3f6,606-608,2044,2052,207a-207c,208a-208c,2118,2140-2144,214b,2190-2194,219a-219b,21a0,21a3,21a6,21ae,21ce-21cf,21d2,21d4,21f4-22ff,2320-2321,237c,239b-23b3,23dc-23e1,25b7,25c1,25f8-25ff,266f,27c0-27c4,27c7-27e5,27f0-27ff,2900-2982,2999-29d7,29dc-29fb,29fe-2aff,2b30-2b44,2b47-2b4c,fb29,fe62,fe64-fe66,ff0b,ff1c-ff1e,ff5c,ff5e,ffe2,ffe9-ffec,10d8e-10d8f,1d6c1,1d6db,1d6fb,1d715,1d735,1d74f,1d76f,1d789,1d7a9,1d7c3,1eef0-1eef1"),
  ("So", "a6,a9,ae,b0,482,58d-58e,60e-60f,6de,6e9,6fd-6fe,7f6,9fa,b70,bf3-bf8,bfa,c7f,d4f,d79,f01-f03,f13,f15-f17,f1a-f1f,f34,f36,f38,fbe-fc5,fc7-fcc,fce-fcf,fd5-fd8,109e-109f,1390-1399,166d,1940,19de-19ff,1b61-1b6a,1b74-1b7c,2100-2101,2103-2106,2108-2109,2114,2116-2117,211e-2123,2125,2127,2129,212e,213a-213b,214a,214c-214d,214f,218a-218b,2195-2199,219c-219f,21a1-21a2,21a4-21a5,21a7-21ad,21af-21cd,21d0-21d1,21d3,21d5-21f3,2300-2307,230c-231f,2322-2328,232b-237b,237d-239a,23b4-23db,23e2-2429,2440-244a,249c-24e9,2500-25b6,25b8-25c0,25c2-25f7,2600-266e,2670-2767,2794-27bf,2800-28ff,2b00-2b2f,2b45-2b46,2b4d-2b73,2b76-2b95,2b97-2bff,2ce5-2cea,2e50-2e51,2e80-2e99,2e9b-2ef3,2f00-2fd5,2ff0-2fff,3004,3012-3013,3020,3036-3037,303e-303f,3190-3191,3196-319f,31c0-31e5,31ef,3200-321e,322a-3247,3250,3260-327f,328a-32b0,32c0-33ff,4dc0-4dff,a490-a4c6,a828-a82b,a836-a837,a839,aa77-aa79,fd40-fd4f,fdcf,fdfd-fdff,ffe4,ffe8,ffed-ffee,fffc-fffd,10137-1013f,10179-10189,1018c-1018e,10190-1019c,101a0,101d0-101fc,10877-10878,10ac8,1173f,11fd5-11fdc,11fe1-11ff1,16b3c-16b3f,16b45,1bc9c,1cc00-1ccef,1cd00-1ceb3,1cf50-1cfc3,1d000-1d0f5,1d100-1d126,1d129-1d164,1d16a-1d16c,1d183-1d184,1d18c-1d1a9,1d1ae-1d1ea,1d200-1d241,1d245,1d300-1d356,1d800-1d9ff,1da37-1da3a,1da6d-1da74,1da76-1da83,1da85-1da86,1e14f,1ecac,1ed2e,1f000-1f02b,1f030-1f093,1f0a0-1f0ae,1f0b1-1f0bf,1f0c1-1f0cf,1f0d1-1f0f5,1f10d-1f1ad,1f1e6-1f202,1f210-1f23b,1f240-1f248,1f250-1f251,1f260-1f265,1f300-1f3fa,1f400-1f6d7,1f6dc-1f6ec,1f6f0-1f6fc,1f700-1f776,1f77b-1f7d9,1f7e0-1f7eb,1f7f0,1f800-1f80b,1f810-1f847,1f850-1f859,1f860-1f887,1f890-1f8ad,1f8b0-1f8bb,1f8c0-1f8c1,1f900-1fa53,1fa60-1fa6d,1fa70-1fa7c,1fa80-1fa89,1fa8f-1fac6,1face-1fadc,1fadf-1fae9,1faf0-1faf8,1fb00-1fb92,1fb94-1fbef"),
  ("Zl", "2028"),
  ("Zp", "2029"),
  ("Zs", "20,a0,1680,2000-200a,202f,205f,3000")
]

def scriptTable : List (String × String) := [
  ("Adlam", "1e900-1e94b,1e950-1e959,1e95e-1e95f"),
  ("Ahom", "11700-1171a,1171d-1172b,11730-11746"),
  ("Anatolian_Hieroglyphs", "14400-14646"),
  ("Arabic", "600-604,606-60b,60d-61a,61c-61e,620-63f,641-64a,656-66f,671-6dc,6de-6ff,750-77f,870-88e,890-891,897-8e1,8e3-8ff,fb50-fbc2,fbd3-fd3d,fd40-fd8f,fd92-fdc7,fdcf,fdf0-fdff,fe70-fe74,fe76-fefc,10e60-10e7e,10ec2-10ec4,10efc-10eff,1ee00-1ee03,1ee05-1ee1f,1ee21-1ee22,1ee24,1ee27,1ee29-1ee32,1ee34-1ee37,1ee39,1ee3b,1ee42,1ee47,1ee49,1ee4b,1ee4d-1ee4f,1ee51-1ee52,1ee54,1ee57,1ee59,1ee5b,1ee5d,1ee5f,1ee61-1ee62,1ee64,1ee67-1ee6a,1ee6c-1ee72,1ee74-1ee77,1ee79-1ee7c,1ee7e,1ee80-1ee89,1ee8b-1ee9b,1eea1-1eea3,1eea5-1eea9,1eeab-1eebb,1eef0-1eef1"),
  ("Armenian", "531-556,559-58a,58d-58f,fb13-fb17"),
  ("Avestan", "10b00-10b35,10b39-10b3f"),
  ("Balinese", "1b00-1b4c,1b4e-1b7f"),
  ("Bamum", "a6a0-a6f7,16800-16a38"),
  ("Bassa_Vah", "16ad0-16aed,16af0-16af5"),
  ("Batak", "1bc0-1bf3,1bfc-1bff"),
  ("Bengali", "980-983,985-98c,98f-990,993-9a8,9aa-9b0,9b2,9b6-9b9,9bc-9c4,9c7-9c8,9cb-9ce,9d7,9dc-9dd,9df-9e3,9e6-9fe"),
  ("Bhaiksuki", "11c00-11c08,11c0a-11c36,11c38-11c45,11c50-11c6c"),
  ("Bopomofo", "2ea-2eb,3105-312f,31a0-31bf"),
  ("Brahmi", "11000-1104d,11052-11075,1107f"),
  ("Braille", "2800-28ff"),
  ("Buginese", "1a00-1a1b,1a1e-1a1f"),
  ("Buhid", "1740-1753"),
  ("Canadian_Aboriginal", "1400-167f,18b0-18f5,11ab0-11abf"),
  ("Carian", "102a0-102d0"),
  ("Caucasian_Albanian", "10530-10563,1056f"),
  ("Chakma", "11100-11134,11136-11147"),
  ("Cham", "aa00-aa36,aa40-aa4d,aa50-aa59,aa5c-aa5f"),
  ("Cherokee", "13a0-13f5,13f8-13fd,ab70-abbf"),
  ("Chorasmian", "10fb0-10fcb"),
  ("Common", "0-40,5b-60,7b-a9,ab-b9,bb-bf,d7,f7,2b9-2df,2e5-2e9,2ec-2ff,374,37e,385,387,605,60c,61b,61f,640,6dd,8e2,964-965,e3f,fd5-fd8,10fb,16eb-16ed,1735-1736,1802-1803,1805,1cd3,1ce1,1ce9-1cec,1cee-1cf3,1cf5-1cf7,1cfa,2000-200b,200e-2064,2066-2070,2074-207e,2080-208e,20a0-20c0,2100-2125,2127-2129,212c-2131,2133-214d,214f-215f,2189-218b,2190-2429,2440-244a,2460-27ff,2900-2b73,2b76-2b95,2b97-2bff,2e00-2e5d,2ff0-3004,3006,3008-3020,3030-3037,303c-303f,309b-309c,30a0,30fb-30fc,3190-319f,31c0-31e5,31ef,3220-325f,327f-32cf,32ff,3358-33ff,4dc0-4dff,a700-a721,a788-a78a,a830-a839,a92e,a9cf,ab5b,ab6a-ab6b,fd3e-fd3f,fe10-fe19,fe30-fe52,fe54-fe66,fe68-fe6b,feff,ff01-ff20,ff3b-ff40,ff5b-ff65,ff70,ff9e-ff9f,ffe0-ffe6,ffe8-ffee,fff9-fffd,10100-10102,10107-10133,10137-1013f,10190-1019c,101d0-101fc,102e1-102fb,1bca0-1bca3,1cc00-1ccf9,1cd00-1ceb3,1cf50-1cfc3,1d000-1d0f5,1d100-1d126,1d129-1d166,1d16a-1d17a,1d183-1d184,1d18c-1d1a9,1d1ae-1d1ea,1d2c0-1d2d3,1d2e0-1d2f3,1d300-1d356,1d360-1d378,1d400-1d454,1d456-1d49c,1d49e-1d49f,1d4a2,1d4a5-1d4a6,1d4a9-1d4ac,1d4ae-1d4b9,1d4bb,1d4bd-1d4c3,1d4c5-1d505,1d507-1d50a,1d50d-1d514,1d516-1d51c,1d51e-1d539,1d53b-1d53e,1d540-1d544,1d546,1d54a-1d550,1d552-1d6a5,1d6a8-1d7cb,1d7ce-1d7ff,1ec71-1ecb4,1ed01-1ed3d,1f000-1f02b,1f030-1f093,1f0a0-1f0ae,1f0b1-1f0bf,1f0c1-1f0cf,1f0d1-1f0f5,1f100-1f1ad,1f1e6-1f1ff,1f201-1f202,1f210-1f23b,1f240-1f248,1f250-1f251,1f260-1f265,1f300-1f6d7,1f6dc-1f6ec,1f6f0-1f6fc,1f700-1f776,1f77b-1f7d9,1f7e0-1f7eb,1f7f0,1f800-1f80b,1f810-1f847,1f850-1f859,1f860-1f887,1f890-1f8ad,1f8b0-1f8bb,1f8c0-1f8c1,1f900-1fa53,1fa60-1fa6d,1fa70-1fa7c,1fa80-1fa89,1fa8f-1fac6,1face-1fadc,1fadf-1fae9,1faf0-1faf8,1fb00-1fb92,1fb94-1fbf9,e0001,e0020-e007f"),
  ("Coptic", "3e2-3ef,2c80-2cf3,2cf9-2cff"),
  ("Cuneiform", "12000-12399,12400-1246e,12470-12474,12480-12543"),
  ("Cypriot", "10800-10805,10808,1080a-10835,10837-10838,1083c,1083f"),
  ("Cypro_Minoan", "12f90-12ff2"),
  ("Cyrillic", "400-484,487-52f,1c80-1c8a,1d2b,1d78,2de0-2dff,a640-a69f,fe2e-fe2f,1e030-1e06d,1e08f"),
  ("Deseret", "10400-1044f"),
  ("Devanagari", "900-950,955-963,966-97f,a8e0-a8ff,11b00-11b09"),
  ("Dives_Akuru", "11900-11906,11909,1190c-11913,11915-11916,11918-11935,11937-11938,1193b-11946,11950-11959"),
  ("Dogra", "11800-1183b"),
  ("Duployan", "1bc00-1bc6a,1bc70-1bc7c,1bc80-1bc88,1bc90-1bc99,1bc9c-1bc9f"),
  ("Egyptian_Hieroglyphs", "13000-13455,13460-143fa"),
  ("Elbasan", "10500-10527"),
  ("Elymaic", "10fe0-10ff6"),
  ("Ethiopic", "1200-1248,124a-124d,1250-1256,1258,125a-125d,1260-1288,128a-128d,1290-12b0,12b2-12b5,12b8-12be,12c0,12c2-12c5,12c8-12d6,12d8-1310,1312-1315,1318-135a,135d-137c,1380-1399,2d80-2d96,2da0-2da6,2da8-2dae,2db0-2db6,2db8-2dbe,2dc0-2dc6,2dc8-2dce,2dd0-2dd6,2dd8-2dde,ab01-ab06,ab09-ab0e,ab11-ab16,ab20-ab26,ab28-ab2e,1e7e0-1e7e6,1e7e8-1e7eb,1e7ed-1e7ee,1e7f0-1e7fe"),
  ("Garay", "10d40-10d65,10d69-10d85,10d8e-10d8f"),
  ("Georgian", "10a0-10c5,10c7,10cd,10d0-10fa,10fc-10ff,1c90-1cba,1cbd-1cbf,2d00-2d25,2d27,2d2d"),
  ("Glagolitic", "2c00-2c5f,1e000-1e006,1e008-1e018,1e01b-1e021,1e023-1e024,1e026-1e02a"),
  ("Gothic", "10330-1034a"),
  ("Grantha", "11300-11303,11305-1130c,1130f-11310,11313-11328,1132a-11330,11332-11333,11335-11339,1133c-11344,11347-11348,1134b-1134d,11350,11357,1135d-11363,11366-1136c,11370-11374"),
  ("Greek", "370-373,375-377,37a-37d,37f,384,386,388-38a,38c,38e-3a1,3a3-3e1,3f0-3ff,1d26-1d2a,1d5d-1d61,1d66-1d6a,1dbf,1f00-1f15,1f18-1f1d,1f20-1f45,1f48-1f4d,1f50-1f57,1f59,1f5b,1f5d,1f5f-1f7d,1f80-1fb4,1fb6-1fc4,1fc6-1fd3,1fd6-1fdb,1fdd-1fef,1ff2-1ff4,1ff6-1ffe,2126,ab65,10140-1018e,101a0,1d200-1d245"),
  ("Gujarati", "a81-a83,a85-a8d,a8f-a91,a93-aa8,aaa-ab0,ab2-ab3,ab5-ab9,abc-ac5,ac7-ac9,acb-acd,ad0,ae0-ae3,ae6-af1,af9-aff"),
  ("Gunjala_Gondi", "11d60-11d65,11d67-11d68,11d6a-11d8e,11d90-11d91,11d93-11d98,11da0-11da9"),
  ("Gurmukhi", "a01-a03,a05-a0a,a0f-a10,a13-a28,a2a-a30,a32-a33,a35-a36,a38-a39,a3c,a3e-a42,a47-a48,a4b-a4d,a51,a59-a5c,a5e,a66-a76"),
  ("Gurung_Khema", "16100-16139"),
  ("Han", "2e80-2e99,2e9b-2ef3,2f00-2fd5,3005,3007,3021-3029,3038-303b,3400-4dbf,4e00-9fff,f900-fa6d,fa70-fad9,16fe2-16fe3,16ff0-16ff1,20000-2a6df,2a700-2b739,2b740-2b81d,2b820-2cea1,2ceb0-2ebe0,2ebf0-2ee5d,2f800-2fa1d,30000-3134a,31350-323af"),
  ("Hangul", "1100-11ff,302e-302f,3131-318e,3200-321e,3260-327e,a960-a97c,ac00-d7a3,d7b0-d7c6,d7cb-d7fb,ffa0-ffbe,ffc2-ffc7,ffca-ffcf,ffd2-ffd7,ffda-ffdc"),
  ("Hanifi_Rohingya", "10d00-10d27,10d30-10d39"),
  ("Hanunoo", "1720-1734"),
  ("Hatran", "108e0-108f2,108f4-108f5,108fb-108ff"),
  ("Hebrew", "591-5c7,5d0-5ea,5ef-5f4,fb1d-fb36,fb38-fb3c,fb3e,fb40-fb41,fb43-fb44,fb46-fb4f"),
  ("Hiragana", "3041-3096,309d-309f,1b001-1b11f,1b132,1b150-1b152,1f200"),
  ("Imperial_Aramaic", "10840-10855,10857-1085f"),
  ("Inherited", "300-36f,485-486,64b-655,670,951-954,1ab0-1ace,1cd0-1cd2,1cd4-1ce0,1ce2-1ce8,1ced,1cf4,1cf8-1cf9,1dc0-1dff,200c-200d,20d0-20f0,302a-302d,3099-309a,fe00-fe0f,fe20-fe2d,101fd,102e0,1133b,1cf00-1cf2d,1cf30-1cf46,1d167-1d169,1d17b-1d182,1d185-1d18b,1d1aa-1d1ad,e0100-e01ef"),
  ("Inscriptional_Pahlavi", "10b60-10b72,10b78-10b7f"),
  ("Inscriptional_Parthian", "10b40-10b55,10b58-10b5f"),
  ("Javanese", "a980-a9cd,a9d0-a9d9,a9de-a9df"),
  ("Kaithi", "11080-110c2,110cd"),
  ("Kannada", "c80-c8c,c8e-c90,c92-ca8,caa-cb3,cb5-cb9,cbc-cc4,cc6-cc8,cca-ccd,cd5-cd6,cdd-cde,ce0-ce3,ce6-cef,cf1-cf3"),
  ("Katakana", "30a1-30fa,30fd-30ff,31f0-31ff,32d0-32fe,3300-3357,ff66-ff6f,ff71-ff9d,1aff0-1aff3,1aff5-1affb,1affd-1affe,1b000,1b120-1b122,1b155,1b164-1b167"),
  ("Kawi", "11f00-11f10,11f12-11f3a,11f3e-11f5a"),
  ("Kayah_Li", "a900-a92d,a92f"),
  ("Kharoshthi", "10a00-10a03,10a05-10a06,10a0c-10a13,10a15-10a17,10a19-10a35,10a38-10a3a,10a3f-10a48,10a50-10a58"),
  ("Khitan_Small_Script", "16fe4,18b00-18cd5,18cff"),
  ("Khmer", "1780-17dd,17e0-17e9,17f0-17f9,19e0-19ff"),
  ("Khojki", "11200-11211,11213-11241"),
  ("Khudawadi", "112b0-112ea,112f0-112f9"),
  ("Kirat_Rai", "16d40-16d79"),
  ("Lao", "e81-e82,e84,e86-e8a,e8c-ea3,ea5,ea7-ebd,ec0-ec4,ec6,ec8-ece,ed0-ed9,edc-edf"),
  ("Latin", "41-5a,61-7a,aa,ba,c0-d6,d8-f6,f8-2b8,2e0-2e4,1d00-1d25,1d2c-1d5c,1d62-1d65,1d6b-1d77,1d79-1dbe,1e00-1eff,2071,207f,2090-209c,212a-212b,2132,214e,2160-2188,2c60-2c7f,a722-a787,a78b-a7cd,a7d0-a7d1,a7d3,a7d5-a7dc,a7f2-a7ff,ab30-ab5a,ab5c-ab64,ab66-ab69,fb00-fb06,ff21-ff3a,ff41-ff5a,10780-10785,10787-107b0,107b2-107ba,1df00-1df1e,1df25-1df2a"),
  ("Lepcha", "1c00-1c37,1c3b-1c49,1c4d-1c4f"),
  ("Limbu", "1900-191e,1920-192b,1930-193b,1940,1944-194f"),
  ("Linear_A", "10600-10736,10740-10755,10760-10767"),
  ("Linear_B", "10000-1000b,1000d-10026,10028-1003a,1003c-1003d,1003f-1004d,10050-1005d,10080-100fa"),
  ("Lisu", "a4d0-a4ff,11fb0"),
  ("Lycian", "10280-1029c"),
  ("Lydian", "10920-10939,1093f"),
  ("Mahajani", "11150-11176"),
  ("Makasar", "11ee0-11ef8"),
  ("Malayalam", "d00-d0c,d0e-d10,d12-d44,d46-d48,d4a-d4f,d54-d63,d66-d7f"),
  ("Mandaic", "840-85b,85e"),
  ("Manichaean", "10ac0-10ae6,10aeb-10af6"),
  ("Marchen", "11c70-11c8f,11c92-11ca7,11ca9-11cb6"),
  ("Masaram_Gondi", "11d00-11d06,11d08-11d09,11d0b-11d36,11d3a,11d3c-11d3d,11d3f-11d47,11d50-11d59"),
  ("Medefaidrin", "16e40-16e9a"),
  ("Meetei_Mayek", "aae0-aaf6,abc0-abed,abf0-abf9"),
  ("Mende_Kikakui", "1e800-1e8c4,1e8c7-1e8d6"),
  ("Meroitic_Cursive", "109a0-109b7,109bc-109cf,109d2-109ff"),
  ("Meroitic_Hieroglyphs", "10980-1099f"),
  ("Miao", "16f00-16f4a,16f4f-16f87,16f8f-16f9f"),
  ("Modi", "11600-11644,11650-11659"),
  ("Mongolian", "1800-1801,1804,1806-1819,1820-1878,1880-18aa,11660-1166c"),
  ("Mro", "16a40-16a5e,16a60-16a69,16a6e-16a6f"),
  ("Multani", "11280-11286,11288,1128a-1128d,1128f-1129d,1129f-112a9"),
  ("Myanmar", "1000-109f,a9e0-a9fe,aa60-aa7f,116d0-116e3"),
  ("Nabataean", "10880-1089e,108a7-108af"),
  ("Nag_Mundari", "1e4d0-1e4f9"),
  ("Nandinagari", "119a0-119a7,119aa-119d7,119da-119e4"),
  ("New_Tai_Lue", "1980-19ab,19b0-19c9,19d0-19da,19de-19df"),
  ("Newa", "11400-1145b,1145d-11461"),
  ("Nko", "7c0-7fa,7fd-7ff"),
  ("Nushu", "16fe1,1b170-1b2fb"),
  ("Nyiakeng_Puachue_Hmong", "1e100-1e12c,1e130-1e13d,1e140-1e149,1e14e-1e14f"),
  ("Ogham", "1680-169c"),
  ("Ol_Chiki", "1c50-1c7f"),
  ("Ol_Onal", "1e5d0-1e5fa,1e5ff"),
  ("Old_Hungarian", "10c80-10cb2,10cc0-10cf2,10cfa-10cff"),
  ("Old_Italic", "10300-10323,1032d-1032f"),
  ("Old_North_Arabian", "10a80-10a9f"),
  ("Old_Permic", "10350-1037a"),
  ("Old_Persian", "103a0-103c3,103c8-103d5"),
  ("Old_Sogdian", "10f00-10f27"),
  ("Old_South_Arabian", "10a60-10a7f"),
  ("Old_Turkic", "10c00-10c48"),
  ("Old_Uyghur", "10f70-10f89"),
  ("Oriya", "b01-b03,b05-b0c,b0f-b10,b13-b28,b2a-b30,b32-b33,b35-b39,b3c-b44,b47-b48,b4b-b4d,b55-b57,b5c-b5d,b5f-b63,b66-b77"),
  ("Osage", "104b0-104d3,104d8-104fb"),
  ("Osmanya", "10480-1049d,104a0-104a9"),
  ("Pahawh_Hmong", "16b00-16b45,16b50-16b59,16b5b-16b61,16b63-16b77,16b7d-16b8f"),
  ("Palmyrene", "10860-1087f"),
  ("Pau_Cin_Hau", "11ac0-11af8"),
  ("Phags_Pa", "a840-a877"),
  ("Phoenician", "10900-1091b,1091f"),
  ("Psalter_Pahlavi", "10b80-10b91,10b99-10b9c,10ba9-10baf"),
  ("Rejang", "a930-a953,a95f"),
  ("Runic", "16a0-16ea,16ee-16f8"),
  ("Samaritan", "800-82d,830-83e"),
  ("Saurashtra", "a880-a8c5,a8ce-a8d9"),
  ("Sharada", "11180-111df"),
  ("Shavian", "10450-1047f"),
  ("Siddham", "11580-115b5,115b8-115dd"),
  ("SignWriting", "1d800-1da8b,1da9b-1da9f,1daa1-1daaf"),
  ("Sinhala", "d81-d83,d85-d96,d9a-db1,db3-dbb,dbd,dc0-dc6,dca,dcf-dd4,dd6,dd8-ddf,de6-def,df2-df4,111e1-111f4"),
  ("Sogdian", "10f30-10f59"),
  ("Sora_Sompeng", "110d0-110e8,110f0-110f9"),
  ("Soyombo", "11a50-11aa2"),
  ("Sundanese", "1b80-1bbf,1cc0-1cc7"),
  ("Sunuwar", "11bc0-11be1,11bf0-11bf9"),
  ("Syloti_Nagri", "a800-a82c"),
  ("Syriac", "700-70d,70f-74a,74d-74f,860-86a"),
  ("Tagalog", "1700-1715,171f"),
  ("Tagbanwa", "1760-176c,176e-1770,1772-1773"),
  ("Tai_Le", "1950-196d,1970-1974"),
  ("Tai_Tham", "1a20-1a5e,1a60-1a7c,1a7f-1a89,1a90-1a99,1aa0-1aad"),
  ("Tai_Viet", "aa80-aac2,aadb-aadf"),
  ("Takri", "11680-116b9,116c0-116c9"),
  ("Tamil", "b82-b83,b85-b8a,b8e-b90,b92-b95,b99-b9a,b9c,b9e-b9f,ba3-ba4,ba8-baa,bae-bb9,bbe-bc2,bc6-bc8,bca-bcd,bd0,bd7,be6-bfa,11fc0-11ff1,11fff"),
  ("Tangsa", "16a70-16abe,16ac0-16ac9"),
  ("Tangut", "16fe0,17000-187f7,18800-18aff,18d00-18d08"),
  ("Telugu", "c00-c0c,c0e-c10,c12-c28,c2a-c39,c3c-c44,c46-c48,c4a-c4d,c55-c56,c58-c5a,c5d,c60-c63,c66-c6f,c77-c7f"),
  ("Thaana", "780-7b1"),
  ("Thai", "e01-e3a,e40-e5b"),
  ("Tibetan", "f00-f47,f49-f6c,f71-f97,f99-fbc,fbe-fcc,fce-fd4,fd9-fda"),
  ("Tifinagh", "2d30-2d67,2d6f-2d70,2d7f"),
  ("Tirhuta", "11480-114c7,114d0-114d9"),
  ("Todhri", "105c0-105f3"),
  ("Toto", "1e290-1e2ae"),
  ("Tulu_Tigalari", "11380-11389,1138b,1138e,11390-113b5,113b7-113c0,113c2,113c5,113c7-113ca,113cc-113d5,113d7-113d8,113e1-113e2"),
  ("Ugaritic", "10380-1039d,1039f"),
  ("Vai", "a500-a62b"),
  ("Vithkuqi", "10570-1057a,1057c-1058a,1058c-10592,10594-10595,10597-105a1,105a3-105b1,105b3-105b9,105bb-105bc"),
  ("Wancho", "1e2c0-1e2f9,1e2ff"),
  ("Warang_Citi", "118a0-118f2,118ff"),
  ("Yezidi", "10e80-10ea9,10eab-10ead,10eb0-10eb1"),
  ("Yi", "a000-a48c,a490-a4c6"),
  ("Zanabazar_Square", "11a00-11a47")
]

def scriptExtensionTable : List (String × String) := [
  ("Adlam", "61f,640,204f,2e41,1e900-1e94b,1e950-1e959,1e95e-1e95f"),
  ("Ahom", "11700-1171a,1171d-1172b,11730-11746"),
  ("Anatolian_Hieroglyphs", "14400-14646"),
  ("Arabic", "600-604,606-6dc,6de-6ff,750-77f,870-88e,890-891,897-8e1,8e3-8ff,204f,2e41,fb50-fbc2,fbd3-fd8f,fd92-fdc7,fdcf,fdf0-fdff,fe70-fe74,fe76-fefc,102e0-102fb,10e60-10e7e,10ec2-10ec4,10efc-10eff,1ee00-1ee03,1ee05-1ee1f,1ee21-1ee22,1ee24,1ee27,1ee29-1ee32,1ee34-1ee37,1ee39,1ee3b,1ee42,1ee47,1ee49,1ee4b,1ee4d-1ee4f,1ee51-1ee52,1ee54,1ee57,1ee59,1ee5b,1ee5d,1ee5f,1ee61-1ee62,1ee64,1ee67-1ee6a,1ee6c-1ee72,1ee74-1ee77,1ee79-1ee7c,1ee7e,1ee80-1ee89,1ee8b-1ee9b,1eea1-1eea3,1eea5-1eea9,1eeab-1eebb,1eef0-1eef1"),
  ("Armenian", "308,531-556,559-58a,58d-58f,fb13-fb17"),
  ("Avestan", "b7,2e30-2e31,10b00-10b35,10b39-10b3f"),
  ("Balinese", "1b00-1b4c,1b4e-1b7f"),
  ("Bamum", "a6a0-a6f7,16800-16a38"),
  ("Bassa_Vah", "16ad0-16aed,16af0-16af5"),
  ("Batak", "1bc0-1bf3,1bfc-1bff"),
  ("Bengali", "2bc,951-952,964-965,980-983,985-98c,98f-990,993-9a8,9aa-9b0,9b2,9b6-9b9,9bc-9c4,9c7-9c8,9cb-9ce,9d7,9dc-9dd,9df-9e3,9e6-9fe,1cd0,1cd2,1cd5-1cd6,1cd8,1ce1,1cea,1ced,1cf2,1cf5-1cf7,a8f1"),
  ("Bhaiksuki", "11c00-11c08,11c0a-11c36,11c38-11c45,11c50-11c6c"),
  ("Bopomofo", "2c7,2c9-2cb,2d9,2ea-2eb,3001-3003,3008-3011,3013-301f,302a-302d,3030,3037,30fb,3105-312f,31a0-31bf,fe45-fe46,ff61-ff65"),
  ("Brahmi", "11000-1104d,11052-11075,1107f"),
  ("Braille", "2800-28ff"),
  ("Buginese", "1a00-1a1b,1a1e-1a1f,a9cf"),
  ("Buhid", "1735-1736,1740-1753"),
  ("Canadian_Aboriginal", "1400-167f,18b0-18f5,11ab0-11abf"),
  ("Carian", "b7,205a,205d,2e31,102a0-102d0"),
  ("Caucasian_Albanian", "304,331,35e,10530-10563,1056f"),
  ("Chakma", "9e6-9ef,1040-1049,11100-11134,11136-11147"),
  ("Cham", "aa00-aa36,aa40-aa4d,aa50-aa59,aa5c-aa5f"),
  ("Cherokee", "300-302,304,30b-30c,323-324,330-331,13a0-13f5,13f8-13fd,ab70-abbf"),
  ("Chorasmian", "10fb0-10fcb"),
  ("Common", "0-40,5b-60,7b-a9,ab-b6,b8-b9,bb-bf,d7,f7,2b9-2bb,2bd-2c6,2c8,2cc,2ce-2d6,2d8,2da-2df,2e5-2e9,2ec-2ff,37e,385,387,605,6dd,8e2,e3f,fd5-fd8,2000-200b,200e-202e,2030-204e,2050-2059,205b-205c,205e-2064,2066-2070,2074-207e,2080-208e,20a0-20c0,2100-2125,2127-2129,212c-2131,2133-214d,214f-215f,2189-218b,2190-2429,2440-244a,2460-27ff,2900-2b73,2b76-2b95,2b97-2bff,2e00-2e16,2e18-2e2f,2e32-2e3b,2e3d-2e40,2e42,2e44-2e5d,3000,3004,3012,3020,3036,3248-325f,327f,32b1-32bf,32cc-32cf,3371-337a,3380-33df,33ff,4dc0-4dff,a708-a721,a788-a78a,ab5b,ab6a-ab6b,fe10-fe19,fe30-fe44,fe47-fe52,fe54-fe66,fe68-fe6b,feff,ff01-ff20,ff3b-ff40,ff5b-ff60,ffe0-ffe6,ffe8-ffee,fff9-fffd,10190-1019c,101d0-101fc,1cc00-1ccf9,1cd00-1ceb3,1cf50-1cfc3,1d000-1d0f5,1d100-1d126,1d129-1d166,1d16a-1d17a,1d183-1d184,1d18c-1d1a9,1d1ae-1d1ea,1d2c0-1d2d3,1d2e0-1d2f3,1d300-1d356,1d372-1d378,1d400-1d454,1d456-1d49c,1d49e-1d49f,1d4a2,1d4a5-1d4a6,1d4a9-1d4ac,1d4ae-1d4b9,1d4bb,1d4bd-1d4c3,1d4c5-1d505,1d507-1d50a,1d50d-1d514,1d516-1d51c,1d51e-1d539,1d53b-1d53e,1d540-1d544,1d546,1d54a-1d550,1d552-1d6a5,1d6a8-1d7cb,1d7ce-1d7ff,1ec71-1ecb4,1ed01-1ed3d,1f000-1f02b,1f030-1f093,1f0a0-1f0ae,1f0b1-1f0bf,1f0c1-1f0cf,1f0d1-1f0f5,1f100-1f1ad,1f1e6-1f1ff,1f201-1f202,1f210-1f23b,1f240-1f248,1f260-1f265,1f300-1f6d7,1f6dc-1f6ec,1f6f0-1f6fc,1f700-1f776,1f77b-1f7d9,1f7e0-1f7eb,1f7f0,1f800-1f80b,1f810-1f847,1f850-1f859,1f860-1f887,1f890-1f8ad,1f8b0-1f8bb,1f8c0-1f8c1,1f900-1fa53,1fa60-1fa6d,1fa70-1fa7c,1fa80-1fa89,1fa8f-1fac6,1face-1fadc,1fadf-1fae9,1faf0-1faf8,1fb00-1fb92,1fb94-1fbf9,e0001,e0020-e007f"),
  ("Coptic", "b7,300,304-305,307,374-375,3e2-3ef,2c80-2cf3,2cf9-2cff,2e17,102e0-102fb"),
  ("Cuneiform", "12000-12399,12400-1246e,12470-12474,12480-12543"),
  ("Cypriot", "10100-10102,10107-10133,10137-1013f,10800-10805,10808,1080a-10835,10837-10838,1083c,1083f"),
  ("Cypro_Minoan", "10100-10101,12f90-12ff2"),
  ("Cyrillic", "2bc,300-302,304,306,308,30b,311,400-52f,1c80-1c8a,1d2b,1d78,1df8,2de0-2dff,2e43,a640-a69f,fe2e-fe2f,1e030-1e06d,1e08f"),
  ("Deseret", "10400-1044f"),
  ("Devanagari", "2bc,900-952,955-97f,1cd0-1cf6,1cf8-1cf9,20f0,a830-a839,a8e0-a8ff,11b00-11b09"),
  ("Dives_Akuru", "11900-11906,11909,1190c-11913,11915-11916,11918-11935,11937-11938,1193b-11946,11950-11959"),
  ("Dogra", "964-96f,a830-a839,11800-1183b"),
  ("Duployan", "b7,307-308,30a,323-324,2e3c,1bc00-1bc6a,1bc70-1bc7c,1bc80-1bc88,1bc90-1bc99,1bc9c-1bca3"),
  ("Egyptian_Hieroglyphs", "13000-13455,13460-143fa"),
  ("Elbasan", "b7,305,10500-10527"),
  ("Elymaic", "10fe0-10ff6"),
  ("Ethiopic", "30e,1200-1248,124a-124d,1250-1256,1258,125a-125d,1260-1288,128a-128d,1290-12b0,12b2-12b5,12b8-12be,12c0,12c2-12c5,12c8-12d6,12d8-1310,1312-1315,1318-135a,135d-137c,1380-1399,2d80-2d96,2da0-2da6,2da8-2dae,2db0-2db6,2db8-2dbe,2dc0-2dc6,2dc8-2dce,2dd0-2dd6,2dd8-2dde,ab01-ab06,ab09-ab0e,ab11-ab16,ab20-ab26,ab28-ab2e,1e7e0-1e7e6,1e7e8-1e7eb,1e7ed-1e7ee,1e7f0-1e7fe"),
  ("Garay", "60c,61b,61f,10d40-10d65,10d69-10d85,10d8e-10d8f"),
  ("Georgian", "b7,589,10a0-10c5,10c7,10cd,10d0-10ff,1c90-1cba,1cbd-1cbf,205a,2d00-2d25,2d27,2d2d,2e31"),
  ("Glagolitic", "b7,303,305,484,487,589,10fb,205a,2c00-2c5f,2e43,a66f,1e000-1e006,1e008-1e018,1e01b-1e021,1e023-1e024,1e026-1e02a"),
  ("Gothic", "b7,304-305,308,331,10330-1034a"),
  ("Grantha", "951-952,964-965,be6-bf3,1cd0,1cd2-1cd3,1cf2-1cf4,1cf8-1cf9,20f0,11300-11303,11305-1130c,1130f-11310,11313-11328,1132a-11330,11332-11333,11335-11339,1133b-11344,11347-11348,1134b-1134d,11350,11357,1135d-11363,11366-1136c,11370-11374,11fd0-11fd1,11fd3"),
  ("Greek", "b7,300-301,304,306,308,313,342,345,370-377,37a-37d,37f,384,386,388-38a,38c,38e-3a1,3a3-3e1,3f0-3ff,1d26-1d2a,1d5d-1d61,1d66-1d6a,1dbf-1dc1,1f00-1f15,1f18-1f1d,1f20-1f45,1f48-1f4d,1f50-1f57,1f59,1f5b,1f5d,1f5f-1f7d,1f80-1fb4,1fb6-1fc4,1fc6-1fd3,1fd6-1fdb,1fdd-1fef,1ff2-1ff4,1ff6-1ffe,205d,2126,ab65,10140-1018e,101a0,1d200-1d245"),
  ("Gujarati", "951-952,964-965,a81-a83,a85-a8d,a8f-a91,a93-aa8,aaa-ab0,ab2-ab3,ab5-ab9,abc-ac5,ac7-ac9,acb-acd,ad0,ae0-ae3,ae6-af1,af9-aff,a830-a839"),
  ("Gunjala_Gondi", "b7,964-965,11d60-11d65,11d67-11d68,11d6a-11d8e,11d90-11d91,11d93-11d98,11da0-11da9"),
  ("Gurmukhi", "951-952,964-965,a01-a03,a05-a0a,a0f-a10,a13-a28,a2a-a30,a32-a33,a35-a36,a38-a39,a3c,a3e-a42,a47-a48,a4b-a4d,a51,a59-a5c,a5e,a66-a76,a830-a839"),
  ("Gurung_Khema", "965,16100-16139"),
  ("Han", "b7,2e80-2e99,2e9b-2ef3,2f00-2fd5,2ff0-2fff,3001-3003,3005-3011,3013-301f,3021-302d,3030,3037-303f,30fb,3190-319f,31c0-31e5,31ef,3220-3247,3280-32b0,32c0-32cb,32ff,3358-3370,337b-337f,33e0-33fe,3400-4dbf,4e00-9fff,a700-a707,f900-fa6d,fa70-fad9,fe45-fe46,ff61-ff65,16fe2-16fe3,16ff0-16ff1,1d360-1d371,1f250-1f251,20000-2a6df,2a700-2b739,2b740-2b81d,2b820-2cea1,2ceb0-2ebe0,2ebf0-2ee5d,2f800-2fa1d,30000-3134a,31350-323af"),
  ("Hangul", "1100-11ff,3001-3003,3008-3011,3013-301f,302e-3030,3037,30fb,3131-318e,3200-321e,3260-327e,a960-a97c,ac00-d7a3,d7b0-d7c6,d7cb-d7fb,fe45-fe46,ff61-ff65,ffa0-ffbe,ffc2-ffc7,ffca-ffcf,ffd2-ffd7,ffda-ffdc"),
  ("Hanifi_Rohingya", "60c,61b,61f,640,6d4,10d00-10d27,10d30-10d39"),
  ("Hanunoo", "1720-1736"),
  ("Hatran", "108e0-108f2,108f4-108f5,108fb-108ff"),
  ("Hebrew", "307-308,591-5c7,5d0-5ea,5ef-5f4,fb1d-fb36,fb38-fb3c,fb3e,fb40-fb41,fb43-fb44,fb46-fb4f"),
  ("Hiragana", "3001-3003,3008-3011,3013-301f,3030-3035,3037,303c-303d,3041-3096,3099-30a0,30fb-30fc,fe45-fe46,ff61-ff65,ff70,ff9e-ff9f,1b001-1b11f,1b132,1b150-1b152,1f200"),
  ("Imperial_Aramaic", "10840-10855,10857-1085f"),
  ("Inherited", "30f,312,314-322,326-32c,32f,332-341,343-344,346-357,359-35d,35f-362,953-954,1ab0-1ace,1dc2-1df7,1df9,1dfb-1dff,200c-200d,20d0-20ef,fe00-fe0f,fe20-fe2d,101fd,1cf00-1cf2d,1cf30-1cf46,1d167-1d169,1d17b-1d182,1d185-1d18b,1d1aa-1d1ad,e0100-e01ef"),
  ("Inscriptional_Pahlavi", "10b60-10b72,10b78-10b7f"),
  ("Inscriptional_Parthian", "10b40-10b55,10b58-10b5f"),
  ("Javanese", "a980-a9cd,a9cf-a9d9,a9de-a9df"),
  ("Kaithi", "966-96f,2e31,a830-a839,11080-110c2,110cd"),
  ("Kannada", "951-952,964-965,c80-c8c,c8e-c90,c92-ca8,caa-cb3,cb5-cb9,cbc-cc4,cc6-cc8,cca-ccd,cd5-cd6,cdd-cde,ce0-ce3,ce6-cef,cf1-cf3,1cd0,1cd2-1cd3,1cda,1cf2,1cf4,a830-a835"),
  ("Katakana", "305,323,3001-3003,3008-3011,3013-301f,3030-3035,3037,303c-303d,3099-309c,30a0-30ff,31f0-31ff,32d0-32fe,3300-3357,fe45-fe46,ff61-ff9f,1aff0-1aff3,1aff5-1affb,1affd-1affe,1b000,1b120-1b122,1b155,1b164-1b167"),
  ("Kawi", "11f00-11f10,11f12-11f3a,11f3e-11f5a"),
  ("Kayah_Li", "a900-a92f"),
  ("Kharoshthi", "10a00-10a03,10a05-10a06,10a0c-10a13,10a15-10a17,10a19-10a35,10a38-10a3a,10a3f-10a48,10a50-10a58"),
  ("Khitan_Small_Script", "16fe4,18b00-18cd5,18cff"),
  ("Khmer", "1780-17dd,17e0-17e9,17f0-17f9,19e0-19ff"),
  ("Khojki", "ae6-aef,a830-a839,11200-11211,11213-11241"),
  ("Khudawadi", "964-965,a830-a839,112b0-112ea,112f0-112f9"),
  ("Kirat_Rai", "16d40-16d79"),
  ("Lao", "e81-e82,e84,e86-e8a,e8c-ea3,ea5,ea7-ebd,ec0-ec4,ec6,ec8-ece,ed0-ed9,edc-edf"),
  ("Latin", "41-5a,61-7a,aa,b7,ba,c0-d6,d8-f6,f8-2b8,2bc,2c7,2c9-2cb,2cd,2d7,2d9,2e0-2e4,300-30e,310-311,313,323-325,32d-32e,330-331,358,35e,363-36f,485-486,951-952,10fb,1d00-1d25,1d2c-1d5c,1d62-1d65,1d6b-1d77,1d79-1dbe,1df8,1e00-1eff,202f,2071,207f,2090-209c,20f0,212a-212b,2132,214e,2160-2188,2c60-2c7f,2e17,a700-a707,a722-a787,a78b-a7cd,a7d0-a7d1,a7d3,a7d5-a7dc,a7f2-a7ff,a92e,ab30-ab5a,ab5c-ab64,ab66-ab69,fb00-fb06,ff21-ff3a,ff41-ff5a,10780-10785,10787-107b0,107b2-107ba,1df00-1df1e,1df25-1df2a"),
  ("Lepcha", "1c00-1c37,1c3b-1c49,1c4d-1c4f"),
  ("Limbu", "965,1900-191e,1920-192b,1930-193b,1940,1944-194f"),
  ("Linear_A", "10107-10133,10600-10736,10740-10755,10760-10767"),
  ("Linear_B", "10000-1000b,1000d-10026,10028-1003a,1003c-1003d,1003f-1004d,10050-1005d,10080-100fa,10100-10102,10107-10133,10137-1013f"),
  ("Lisu", "2bc,2cd,300a-300b,a4d0-a4ff,11fb0"),
  ("Lycian", "205a,10280-1029c"),
  ("Lydian", "b7,2e31,10920-10939,1093f"),
  ("Mahajani", "b7,964-96f,a830-a839,11150-11176"),
  ("Makasar", "11ee0-11ef8"),
  ("Malayalam", "951-952,964-965,d00-d0c,d0e-d10,d12-d44,d46-d48,d4a-d4f,d54-d63,d66-d7f,1cda,1cf2,a830-a832"),
  ("Mandaic", "640,840-85b,85e"),
  ("Manichaean", "640,10ac0-10ae6,10aeb-10af6"),
  ("Marchen", "11c70-11c8f,11c92-11ca7,11ca9-11cb6"),
  ("Masaram_Gondi", "964-965,11d00-11d06,11d08-11d09,11d0b-11d36,11d3a,11d3c-11d3d,11d3f-11d47,11d50-11d59"),
  ("Medefaidrin", "16e40-16e9a"),
  ("Meetei_Mayek", "aae0-aaf6,abc0-abed,abf0-abf9"),
  ("Mende_Kikakui", "1e800-1e8c4,1e8c7-1e8d6"),
  ("Meroitic_Cursive", "109a0-109b7,109bc-109cf,109d2-109ff"),
  ("Meroitic_Hieroglyphs", "205d,10980-1099f"),
  ("Miao", "16f00-16f4a,16f4f-16f87,16f8f-16f9f"),
  ("Modi", "a830-a839,11600-11644,11650-11659"),
  ("Mongolian", "1800-1819,1820-1878,1880-18aa,202f,3001-3002,3008-300b,11660-1166c"),
  ("Mro", "16a40-16a5e,16a60-16a69,16a6e-16a6f"),
  ("Multani", "a66-a6f,11280-11286,11288,1128a-1128d,1128f-1129d,1129f-112a9"),
  ("Myanmar", "1000-109f,a92e,a9e0-a9fe,aa60-aa7f,116d0-116e3"),
  ("Nabataean", "10880-1089e,108a7-108af"),
  ("Nag_Mundari", "1e4d0-1e4f9"),
  ("Nandinagari", "951,964-965,ce6-cef,1ce9,1cf2,1cfa,a830-a835,119a0-119a7,119aa-119d7,119da-119e4"),
  ("New_Tai_Lue", "1980-19ab,19b0-19c9,19d0-19da,19de-19df"),
  ("Newa", "951-952,1cd5,1cd7-1cd8,1ce2,1ce9,1ceb,1ced,11400-1145b,1145d-11461"),
  ("Nko", "60c,61b,61f,7c0-7fa,7fd-7ff,fd3e-fd3f"),
  ("Nushu", "16fe1,1b170-1b2fb"),
  ("Nyiakeng_Puachue_Hmong", "1e100-1e12c,1e130-1e13d,1e140-1e149,1e14e-1e14f"),
  ("Ogham", "1680-169c"),
  ("Ol_Chiki", "1c50-1c7f"),
  ("Ol_Onal", "964-965,1e5d0-1e5fa,1e5ff"),
  ("Old_Hungarian", "205a,205d,2e31,2e41,10c80-10cb2,10cc0-10cf2,10cfa-10cff"),
  ("Old_Italic", "10300-10323,1032d-1032f"),
  ("Old_North_Arabian", "10a80-10a9f"),
  ("Old_Permic", "b7,300,306-308,313,483,10350-1037a"),
  ("Old_Persian", "103a0-103c3,103c8-103d5"),
  ("Old_Sogdian", "10f00-10f27"),
  ("Old_South_Arabian", "10a60-10a7f"),
  ("Old_Turkic", "205a,2e30,10c00-10c48"),
  ("Old_Uyghur", "640,10af2,10f70-10f89"),
  ("Oriya", "951-952,964-965,b01-b03,b05-b0c,b0f-b10,b13-b28,b2a-b30,b32-b33,b35-b39,b3c-b44,b47-b48,b4b-b4d,b55-b57,b5c-b5d,b5f-b63,b66-b77,1cda,1cf2"),
  ("Osage", "301,304,30b,358,104b0-104d3,104d8-104fb"),
  ("Osmanya", "10480-1049d,104a0-104a9"),
  ("Pahawh_Hmong", "16b00-16b45,16b50-16b59,16b5b-16b61,16b63-16b77,16b7d-16b8f"),
  ("Palmyrene", "10860-1087f"),
  ("Pau_Cin_Hau", "11ac0-11af8"),
  ("Phags_Pa", "1802-1803,1805,202f,3002,a840-a877"),
  ("Phoenician", "10900-1091b,1091f"),
  ("Psalter_Pahlavi", "640,10b80-10b91,10b99-10b9c,10ba9-10baf"),
  ("Rejang", "a930-a953,a95f"),
  ("Runic", "16a0-16f8"),
  ("Samaritan", "800-82d,830-83e,2e31"),
  ("Saurashtra", "a880-a8c5,a8ce-a8d9"),
  ("Sharada", "951,1cd7,1cd9,1cdc-1cdd,1ce0,1cea,1ced,a830-a835,a838,11180-111df"),
  ("Shavian", "b7,10450-1047f"),
  ("Siddham", "11580-115b5,115b8-115dd"),
  ("SignWriting", "1d800-1da8b,1da9b-1da9f,1daa1-1daaf"),
  ("Sinhala", "964-965,d81-d83,d85-d96,d9a-db1,db3-dbb,dbd,dc0-dc6,dca,dcf-dd4,dd6,dd8-ddf,de6-def,df2-df4,1cf2,111e1-111f4"),
  ("Sogdian", "640,10f30-10f59"),
  ("Sora_Sompeng", "110d0-110e8,110f0-110f9"),
  ("Soyombo", "11a50-11aa2"),
  ("Sundanese", "1b80-1bbf,1cc0-1cc7"),
  ("Sunuwar", "300-301,303,30d,310,32d,331,11bc0-11be1,11bf0-11bf9"),
  ("Syloti_Nagri", "964-965,9e6-9ef,a800-a82c"),
  ("Syriac", "303-304,307-308,30a,323-325,32d-32e,330-331,60c,61b-61c,61f,640,64b-655,670,700-70d,70f-74a,74d-74f,860-86a,1df8,1dfa"),
  ("Tagalog", "1700-1715,171f,1735-1736"),
  ("Tagbanwa", "1735-1736,1760-176c,176e-1770,1772-1773"),
  ("Tai_Le", "300-301,307-308,30c,1040-1049,1950-196d,1970-1974"),
  ("Tai_Tham", "1a20-1a5e,1a60-1a7c,1a7f-1a89,1a90-1a99,1aa0-1aad"),
  ("Tai_Viet", "aa80-aac2,aadb-aadf"),
  ("Takri", "964-965,a830-a839,11680-116b9,116c0-116c9"),
  ("Tamil", "951-952,964-965,b82-b83,b85-b8a,b8e-b90,b92-b95,b99-b9a,b9c,b9e-b9f,ba3-ba4,ba8-baa,bae-bb9,bbe-bc2,bc6-bc8,bca-bcd,bd0,bd7,be6-bfa,1cda,a8f3,11301,11303,1133b-1133c,11fc0-11ff1,11fff"),
  ("Tangsa", "16a70-16abe,16ac0-16ac9"),
  ("Tangut", "2ff0-2fff,31ef,16fe0,17000-187f7,18800-18aff,18d00-18d08"),
  ("Telugu", "951-952,964-965,c00-c0c,c0e-c10,c12-c28,c2a-c39,c3c-c44,c46-c48,c4a-c4d,c55-c56,c58-c5a,c5d,c60-c63,c66-c6f,c77-c7f,1cd5-1cd6,1cd8,1cda,1cf2"),
  ("Thaana", "60c,61b-61c,61f,660-669,780-7b1,fdf2,fdfd"),
  ("Thai", "2bc,2d7,303,331,e01-e3a,e40-e5b"),
  ("Tibetan", "f00-f47,f49-f6c,f71-f97,f99-fbc,fbe-fcc,fce-fd4,fd9-fda,3008-300b"),
  ("Tifinagh", "302,304,306-309,323,2d30-2d67,2d6f-2d70,2d7f"),
  ("Tirhuta", "951-952,964-965,1cd5,1ce2,1cf2,a830-a839,11480-114c7,114d0-114d9"),
  ("Todhri", "301,304,307,311,313,35e,105c0-105f3"),
  ("Toto", "2bc,1e290-1e2ae"),
  ("Tulu_Tigalari", "ce6-cef,1cf2,1cf4,a830-a835,a8f1,11380-11389,1138b,1138e,11390-113b5,113b7-113c0,113c2,113c5,113c7-113ca,113cc-113d5,113d7-113d8,113e1-113e2"),
  ("Ugaritic", "10380-1039d,1039f"),
  ("Vai", "a500-a62b"),
  ("Vithkuqi", "10570-1057a,1057c-1058a,1058c-10592,10594-10595,10597-105a1,105a3-105b1,105b3-105b9,105bb-105bc"),
  ("Wancho", "1e2c0-1e2f9,1e2ff"),
  ("Warang_Citi", "118a0-118f2,118ff"),
  ("Yezidi", "60c,61b,61f,660-669,10e80-10ea9,10eab-10ead,10eb0-10eb1"),
  ("Yi", "3001-3002,3008-3011,3014-301b,30fb,a000-a48c,a490-a4c6,ff61-ff65"),
  ("Zanabazar_Square", "11a00-11a47")
]

def scriptNames : List (List String) := [
  ["Adlm", "Adlam"],
  ["Ahom", "Ahom"],
  ["Hluw", "Anatolian_Hieroglyphs"],
  ["Arab", "Arabic"],
  ["Armn", "Armenian"],
  ["Avst", "Avestan"],
  ["Bali", "Balinese"],
  ["Bamu", "Bamum"],
  ["Bass", "Bassa_Vah"],
  ["Batk", "Batak"],
  ["Beng", "Bengali"],
  ["Bhks", "Bhaiksuki"],
  ["Bopo", "Bopomofo"],
  ["Brah", "Brahmi"],
  ["Brai", "Braille"],
  ["Bugi", "Buginese"],
  ["Buhd", "Buhid"],
  ["Cans", "Canadian_Aboriginal"],
  ["Cari", "Carian"],
  ["Aghb", "Caucasian_Albanian"],
  ["Cakm", "Chakma"],
  ["Cham", "Cham"],
  ["Cher", "Cherokee"],
  ["Chrs", "Chorasmian"],
  ["Zyyy", "Common"],
  ["Copt", "Coptic", "Qaac"],
  ["Xsux", "Cuneiform"],
  ["Cprt", "Cypriot"],
  ["Cpmn", "Cypro_Minoan"],
  ["Cyrl", "Cyrillic"],
  ["Dsrt", "Deseret"],
  ["Deva", "Devanagari"],
  ["Diak", "Dives_Akuru"],
  ["Dogr", "Dogra"],
  ["Dupl", "Duployan"],
  ["Egyp", "Egyptian_Hieroglyphs"],
  ["Elba", "Elbasan"],
  ["Elym", "Elymaic"],
  ["Ethi", "Ethiopic"],
  ["Gara", "Garay"],
  ["Geor", "Georgian"],
  ["Glag", "Glagolitic"],
  ["Goth", "Gothic"],
  ["Gran", "Grantha"],
  ["Grek", "Greek"],
  ["Gujr", "Gujarati"],
  ["Gong", "Gunjala_Gondi"],
  ["Guru", "Gurmukhi"],
  ["Gukh", "Gurung_Khema"],
  ["Hani", "Han"],
  ["Hang", "Hangul"],
  ["Rohg", "Hanifi_Rohingya"],
  ["Hano", "Hanunoo"],
  ["Hatr", "Hatran"],
  ["Hebr", "Hebrew"],
  ["Hira", "Hiragana"],
  ["Armi", "Imperial_Aramaic"],
  ["Zinh", "Inherited", "Qaai"],
  ["Phli", "Inscriptional_Pahlavi"],
  ["Prti", "Inscriptional_Parthian"],
  ["Java", "Javanese"],
  ["Kthi", "Kaithi"],
  ["Knda", "Kannada"],
  ["Kana", "Katakana"],
  ["Hrkt", "Katakana_Or_Hiragana"],
  ["Kawi", "Kawi"],
  ["Kali", "Kayah_Li"],
  ["Khar", "Kharoshthi"],
  ["Kits", "Khitan_Small_Script"],
  ["Khmr", "Khmer"],
  ["Khoj", "Khojki"],
  ["Sind", "Khudawadi"],
  ["Krai", "Kirat_Rai"],
  ["Laoo", "Lao"],
  ["Latn", "Latin"],
  ["Lepc", "Lepcha"],
  ["Limb", "Limbu"],
  ["Lina", "Linear_A"],
  ["Linb", "Linear_B"],
  ["Lisu", "Lisu"],
  ["Lyci", "Lycian"],
  ["Lydi", "Lydian"],
  ["Mahj", "Mahajani"],
  ["Maka", "Makasar"],
  ["Mlym", "Malayalam"],
  ["Mand", "Mandaic"],
  ["Mani", "Manichaean"],
  ["Marc", "Marchen"],
  ["Gonm", "Masaram_Gondi"],
  ["Medf", "Medefaidrin"],
  ["Mtei", "Meetei_Mayek"],
  ["Mend", "Mende_Kikakui"],
  ["Merc", "Meroitic_Cursive"],
  ["Mero", "Meroitic_Hieroglyphs"],
  ["Plrd", "Miao"],
  ["Modi", "Modi"],
  ["Mong", "Mongolian"],
  ["Mroo", "Mro"],
  ["Mult", "Multani"],
  ["Mymr", "Myanmar"],
  ["Nbat", "Nabataean"],
  ["Nagm", "Nag_Mundari"],
  ["Nand", "Nandinagari"],
  ["Talu", "New_Tai_Lue"],
  ["Newa", "Newa"],
  ["Nkoo", "Nko"],
  ["Nshu", "Nushu"],
  ["Hmnp", "Nyiakeng_Puachue_Hmong"],
  ["Ogam", "Ogham"],
  ["Olck", "Ol_Chiki"],
  ["Onao", "Ol_Onal"],
  ["Hung", "Old_Hungarian"],
  ["Ital", "Old_Italic"],
  ["Narb", "Old_North_Arabian"],
  ["Perm", "Old_Permic"],
  ["Xpeo", "Old_Persian"],
  ["Sogo", "Old_Sogdian"],
  ["Sarb", "Old_South_Arabian"],
  ["Orkh", "Old_Turkic"],
  ["Ougr", "Old_Uyghur"],
  ["Orya", "Oriya"],
  ["Osge", "Osage"],
  ["Osma", "Osmanya"],
  ["Hmng", "Pahawh_Hmong"],
  ["Palm", "Palmyrene"],
  ["Pauc", "Pau_Cin_Hau"],
  ["Phag", "Phags_Pa"],
  ["Phnx", "Phoenician"],
  ["Phlp", "Psalter_Pahlavi"],
  ["Rjng", "Rejang"],
  ["Runr", "Runic"],
  ["Samr", "Samaritan"],
  ["Saur", "Saurashtra"],
  ["Shrd", "Sharada"],
  ["Shaw", "Shavian"],
  ["Sidd", "Siddham"],
  ["Sgnw", "SignWriting"],
  ["Sinh", "Sinhala"],
  ["Sogd", "Sogdian"],
  ["Sora", "Sora_Sompeng"],
  ["Soyo", "Soyombo"],
  ["Sund", "Sundanese"],
  ["Sunu", "Sunuwar"],
  ["Sylo", "Syloti_Nagri"],
  ["Syrc", "Syriac"],
  ["Tglg", "Tagalog"],
  ["Tagb", "Tagbanwa"],
  ["Tale", "Tai_Le"],
  ["Lana", "Tai_Tham"],
  ["Tavt", "Tai_Viet"],
  ["Takr", "Takri"],
  ["Taml", "Tamil"],
  ["Tnsa", "Tangsa"],
  ["Tang", "Tangut"],
  ["Telu", "Telugu"],
  ["Thaa", "Thaana"],
  ["Thai", "Thai"],
  ["Tibt", "Tibetan"],
  ["Tfng", "Tifinagh"],
  ["Tirh", "Tirhuta"],
  ["Todr", "Todhri"],
  ["Toto", "Toto"],
  ["Tutg", "Tulu_Tigalari"],
  ["Ugar", "Ugaritic"],
  ["Zzzz", "Unknown"],
  ["Vaii", "Vai"],
  ["Vith", "Vithkuqi"],
  ["Wcho", "Wancho"],
  ["Wara", "Warang_Citi"],
  ["Yezi", "Yezidi"],
  ["Yiii", "Yi"],
  ["Zanb", "Zanabazar_Square"]
]

def categoryNames : List (List String) := [
  ["C", "Other"],
  ["Cc", "Control", "cntrl"],
  ["Cf", "Format"],
  ["Cn", "Unassigned"],
  ["Co", "Private_Use"],
  ["Cs", "Surrogate"],
  ["L", "Letter"],
  ["LC", "Cased_Letter"],
  ["Ll", "Lowercase_Letter"],
  ["Lm", "Modifier_Letter"],
  ["Lo", "Other_Letter"],
  ["Lt", "Titlecase_Letter"],
  ["Lu", "Uppercase_Letter"],
  ["M", "Mark", "Combining_Mark"],
  ["Mc", "Spacing_Mark"],
  ["Me", "Enclosing_Mark"],
  ["Mn", "Nonspacing_Mark"],
  ["N", "Number"],
  ["Nd", "Decimal_Number", "digit"],
  ["Nl", "Letter_Number"],
  ["No", "Other_Number"],
  ["P", "Punctuation", "punct"],
  ["Pc", "Connector_Punctuation"],
  ["Pd", "Dash_Punctuation"],
  ["Pe", "Close_Punctuation"],
  ["Pf", "Final_Punctuation"],
  ["Pi", "Initial_Punctuation"],
  ["Po", "Other_Punctuation"],
  ["Ps", "Open_Punctuation"],
  ["S", "Symbol"],
  ["Sc", "Currency_Symbol"],
  ["Sk", "Modifier_Symbol"],
  ["Sm", "Math_Symbol"],
  ["So", "Other_Symbol"],
  ["Z", "Separator"],
  ["Zl", "Line_Separator"],
  ["Zp", "Paragraph_Separator"],
  ["Zs", "Space_Separator"]
]

/-- The code points that have each binary property, by its long name. -/
def booleanTable : List (String × String) := [
  ("ASCII_Hex_Digit", "30-39,41-46,61-66"),
  ("Alphabetic", "41-5a,61-7a,aa,b5,ba,c0-d6,d8-f6,f8-2c1,2c6-2d1,2e0-2e4,2ec,2ee,345,363-374,376-377,37a-37d,37f,386,388-38a,38c,38e-3a1,3a3-3f5,3f7-481,48a-52f,531-556,559,560-588,5b0-5bd,5bf,5c1-5c2,5c4-5c5,5c7,5d0-5ea,5ef-5f2,610-61a,620-657,659-65f,66e-6d3,6d5-6dc,6e1-6e8,6ed-6ef,6fa-6fc,6ff,710-73f,74d-7b1,7ca-7ea,7f4-7f5,7fa,800-817,81a-82c,840-858,860-86a,870-887,889-88e,897,8a0-8c9,8d4-8df,8e3-8e9,8f0-93b,93d-94c,94e-950,955-963,971-983,985-98c,98f-990,993-9a8,9aa-9b0,9b2,9b6-9b9,9bd-9c4,9c7-9c8,9cb-9cc,9ce,9d7,9dc-9dd,9df-9e3,9f0-9f1,9fc,a01-a03,a05-a0a,a0f-a10,a13-a28,a2a-a30,a32-a33,a35-a36,a38-a39,a3e-a42,a47-a48,a4b-a4c,a51,a59-a5c,a5e,a70-a75,a81-a83,a85-a8d,a8f-a91,a93-aa8,aaa-ab0,ab2-ab3,ab5-ab9,abd-ac5,ac7-ac9,acb-acc,ad0,ae0-ae3,af9-afc,b01-b03,b05-b0c,b0f-b10,b13-b28,b2a-b30,b32-b33,b35-b39,b3d-b44,b47-b48,b4b-b4c,b56-b57,b5c-b5d,b5f-b63,b71,b82-b83,b85-b8a,b8e-b90,b92-b95,b99-b9a,b9c,b9e-b9f,ba3-ba4,ba8-baa,bae-bb9,bbe-bc2,bc6-bc8,bca-bcc,bd0,bd7,c00-c0c,c0e-c10,c12-c28,c2a-c39,c3d-c44,c46-c48,c4a-c4c,c55-c56,c58-c5a,c5d,c60-c63,c80-c83,c85-c8c,c8e-c90,c92-ca8,caa-cb3,cb5-cb9,cbd-cc4,cc6-cc8,cca-ccc,cd5-cd6,cdd-cde,ce0-ce3,cf1-cf3,d00-d0c,d0e-d10,d12-d3a,d3d-d44,d46-d48,d4a-d4c,d4e,d54-d57,d5f-d63,d7a-d7f,d81-d83,d85-d96,d9a-db1,db3-dbb,dbd,dc0-dc6,dcf-dd4,dd6,dd8-ddf,df2-df3,e01-e3a,e40-e46,e4d,e81-e82,e84,e86-e8a,e8c-ea3,ea5,ea7-eb9,ebb-ebd,ec0-ec4,ec6,ecd,edc-edf,f00,f40-f47,f49-f6c,f71-f83,f88-f97,f99-fbc,1000-1036,1038,103b-103f,1050-108f,109a-109d,10a0-10c5,10c7,10cd,10d0-10fa,10fc-1248,124a-124d,1250-1256,1258,125a-125d,1260-1288,128a-128d,1290-12b0,12b2-12b5,12b8-12be,12c0,12c2-12c5,12c8-12d6,12d8-1310,1312-1315,1318-135a,1380-138f,13a0-13f5,13f8-13fd,1401-166c,166f-167f,1681-169a,16a0-16ea,16ee-16f8,1700-1713,171f-1733,1740-1753,1760-176c,176e-1770,1772-1773,1780-17b3,17b6-17c8,17d7,17dc,1820-1878,1880-18aa,18b0-18f5,1900-191e,1920-192b,1930-1938,1950-196d,1970-1974,1980-19ab,19b0-19c9,1a00-1a1b,1a20-1a5e,1a61-1a74,1aa7,1abf-1ac0,1acc-1ace,1b00-1b33,1b35-1b43,1b45-1b4c,1b80-1ba9,1bac-1baf,1bba-1be5,1be7-1bf1,1c00-1c36,1c4d-1c4f,1c5a-1c7d,1c80-1c8a,1c90-1cba,1cbd-1cbf,1ce9-1cec,1cee-1cf3,1cf5-1cf6,1cfa,1d00-1dbf,1dd3-1df4,1e00-1f15,1f18-1f1d,1f20-1f45,1f48-1f4d,1f50-1f57,1f59,1f5b,1f5d,1f5f-1f7d,1f80-1fb4,1fb6-1fbc,1fbe,1fc2-1fc4,1fc6-1fcc,1fd0-1fd3,1fd6-1fdb,1fe0-1fec,1ff2-1ff4,1ff6-1ffc,2071,207f,2090-209c,2102,2107,210a-2113,2115,2119-211d,2124,2126,2128,212a-212d,212f-2139,213c-213f,2145-2149,214e,2160-2188,24b6-24e9,2c00-2ce4,2ceb-2cee,2cf2-2cf3,2d00-2d25,2d27,2d2d,2d30-2d67,2d6f,2d80-2d96,2da0-2da6,2da8-2dae,2db0-2db6,2db8-2dbe,2dc0-2dc6,2dc8-2dce,2dd0-2dd6,2dd8-2dde,2de0-2dff,2e2f,3005-3007,3021-3029,3031-3035,3038-303c,3041-3096,309d-309f,30a1-30fa,30fc-30ff,3105-312f,3131-318e,31a0-31bf,31f0-31ff,3400-4dbf,4e00-a48c,a4d0-a4fd,a500-a60c,a610-a61f,a62a-a62b,a640-a66e,a674-a67b,a67f-a6ef,a717-a71f,a722-a788,a78b-a7cd,a7d0-a7d1,a7d3,a7d5-a7dc,a7f2-a805,a807-a827,a840-a873,a880-a8c3,a8c5,a8f2-a8f7,a8fb,a8fd-a8ff,a90a-a92a,a930-a952,a960-a97c,a980-a9b2,a9b4-a9bf,a9cf,a9e0-a9ef,a9fa-a9fe,aa00-aa36,aa40-aa4d,aa60-aa76,aa7a-aabe,aac0,aac2,aadb-aadd,aae0-aaef,aaf2-aaf5,ab01-ab06,ab09-ab0e,ab11-ab16,ab20-ab26,ab28-ab2e,ab30-ab5a,ab5c-ab69,ab70-abea,ac00-d7a3,d7b0-d7c6,d7cb-d7fb,f900-fa6d,fa70-fad9,fb00-fb06,fb13-fb17,fb1d-fb28,fb2a-fb36,fb38-fb3c,fb3e,fb40-fb41,fb43-fb44,fb46-fbb1,fbd3-fd3d,fd50-fd8f,fd92-fdc7,fdf0-fdfb,fe70-fe74,fe76-fefc,ff21-ff3a,ff41-ff5a,ff66-ffbe,ffc2-ffc7,ffca-ffcf,ffd2-ffd7,ffda-ffdc,10000-1000b,1000d-10026,10028-1003a,1003c-1003d,1003f-1004d,10050-1005d,10080-100fa,10140-10174,10280-1029c,102a0-102d0,10300-1031f,1032d-1034a,10350-1037a,10380-1039d,103a0-103c3,103c8-103cf,103d1-103d5,10400-1049d,104b0-104d3,104d8-104fb,10500-10527,10530-10563,10570-1057a,1057c-1058a,1058c-10592,10594-10595,10597-105a1,105a3-105b1,105b3-105b9,105bb-105bc,105c0-105f3,10600-10736,10740-10755,10760-10767,10780-10785,10787-107b0,107b2-107ba,10800-10805,10808,1080a-10835,10837-10838,1083c,1083f-10855,10860-10876,10880-1089e,108e0-108f2,108f4-108f5,10900-10915,10920-10939,10980-109b7,109be-109bf,10a00-10a03,10a05-10a06,10a0c-10a13,10a15-10a17,10a19-10a35,10a60-10a7c,10a80-10a9c,10ac0-10ac7,10ac9-10ae4,10b00-10b35,10b40-10b55,10b60-10b72,10b80-10b91,10c00-10c48,10c80-10cb2,10cc0-10cf2,10d00-10d27,10d4a-10d65,10d69,10d6f-10d85,10e80-10ea9,10eab-10eac,10eb0-10eb1,10ec2-10ec4,10efc,10f00-10f1c,10f27,10f30-10f45,10f70-10f81,10fb0-10fc4,10fe0-10ff6,11000-11045,11071-11075,11080-110b8,110c2,110d0-110e8,11100-11132,11144-11147,11150-11172,11176,11180-111bf,111c1-111c4,111ce-111cf,111da,111dc,11200-11211,11213-11234,11237,1123e-11241,11280-11286,11288,1128a-1128d,1128f-1129d,1129f-112a8,112b0-112e8,11300-11303,11305-1130c,1130f-11310,11313-11328,1132a-11330,11332-11333,11335-11339,1133d-11344,11347-11348,1134b-1134c,11350,11357,1135d-11363,11380-11389,1138b,1138e,11390-113b5,113b7-113c0,113c2,113c5,113c7-113ca,113cc-113cd,113d1,113d3,11400-11441,11443-11445,11447-1144a,1145f-11461,11480-114c1,114c4-114c5,114c7,11580-115b5,115b8-115be,115d8-115dd,11600-1163e,11640,11644,11680-116b5,116b8,11700-1171a,1171d-1172a,11740-11746,11800-11838,118a0-118df,118ff-11906,11909,1190c-11913,11915-11916,11918-11935,11937-11938,1193b-1193c,1193f-11942,119a0-119a7,119aa-119d7,119da-119df,119e1,119e3-119e4,11a00-11a32,11a35-11a3e,11a50-11a97,11a9d,11ab0-11af8,11bc0-11be0,11c00-11c08,11c0a-11c36,11c38-11c3e,11c40,11c72-11c8f,11c92-11ca7,11ca9-11cb6,11d00-11d06,11d08-11d09,11d0b-11d36,11d3a,11d3c-11d3d,11d3f-11d41,11d43,11d46-11d47,11d60-11d65,11d67-11d68,11d6a-11d8e,11d90-11d91,11d93-11d96,11d98,11ee0-11ef6,11f00-11f10,11f12-11f3a,11f3e-11f40,11fb0,12000-12399,12400-1246e,12480-12543,12f90-12ff0,13000-1342f,13441-13446,13460-143fa,14400-14646,16100-1612e,16800-16a38,16a40-16a5e,16a70-16abe,16ad0-16aed,16b00-16b2f,16b40-16b43,16b63-16b77,16b7d-16b8f,16d40-16d6c,16e40-16e7f,16f00-16f4a,16f4f-16f87,16f8f-16f9f,16fe0-16fe1,16fe3,16ff0-16ff1,17000-187f7,18800-18cd5,18cff-18d08,1aff0-1aff3,1aff5-1affb,1affd-1affe,1b000-1b122,1b132,1b150-1b152,1b155,1b164-1b167,1b170-1b2fb,1bc00-1bc6a,1bc70-1bc7c,1bc80-1bc88,1bc90-1bc99,1bc9e,1d400-1d454,1d456-1d49c,1d49e-1d49f,1d4a2,1d4a5-1d4a6,1d4a9-1d4ac,1d4ae-1d4b9,1d4bb,1d4bd-1d4c3,1d4c5-1d505,1d507-1d50a,1d50d-1d514,1d516-1d51c,1d51e-1d539,1d53b-1d53e,1d540-1d544,1d546,1d54a-1d550,1d552-1d6a5,1d6a8-1d6c0,1d6c2-1d6da,1d6dc-1d6fa,1d6fc-1d714,1d716-1d734,1d736-1d74e,1d750-1d76e,1d770-1d788,1d78a-1d7a8,1d7aa-1d7c2,1d7c4-1d7cb,1df00-1df1e,1df25-1df2a,1e000-1e006,1e008-1e018,1e01b-1e021,1e023-1e024,1e026-1e02a,1e030-1e06d,1e08f,1e100-1e12c,1e137-1e13d,1e14e,1e290-1e2ad,1e2c0-1e2eb,1e4d0-1e4eb,1e5d0-1e5ed,1e5f0,1e7e0-1e7e6,1e7e8-1e7eb,1e7ed-1e7ee,1e7f0-1e7fe,1e800-1e8c4,1e900-1e943,1e947,1e94b,1ee00-1ee03,1ee05-1ee1f,1ee21-1ee22,1ee24,1ee27,1ee29-1ee32,1ee34-1ee37,1ee39,1ee3b,1ee42,1ee47,1ee49,1ee4b,1ee4d-1ee4f,1ee51-1ee52,1ee54,1ee57,1ee59,1ee5b,1ee5d,1ee5f,1ee61-1ee62,1ee64,1ee67-1ee6a,1ee6c-1ee72,1ee74-1ee77,1ee79-1ee7c,1ee7e,1ee80-1ee89,1ee8b-1ee9b,1eea1-1eea3,1eea5-1eea9,1eeab-1eebb,1f130-1f149,1f150-1f169,1f170-1f189,20000-2a6df,2a700-2b739,2b740-2b81d,2b820-2cea1,2ceb0-2ebe0,2ebf0-2ee5d,2f800-2fa1d,30000-3134a,31350-323af"),
  ("Bidi_Control", "61c,200e-200f,202a-202e,2066-2069"),
  ("Bidi_Mirrored", "28-29,3c,3e,5b,5d,7b,7d,ab,bb,f3a-f3d,169b-169c,2039-203a,2045-2046,207d-207e,208d-208e,2140,2201-2204,2208-220d,2211,2215-2216,221a-221d,221f-2222,2224,2226,222b-2233,2239,223b-224c,2252-2255,225f-2260,2262,2264-226b,226d-228c,228f-2292,2298,22a2-22a3,22a6-22b8,22be-22bf,22c9-22cd,22d0-22d1,22d6-22ed,22f0-22ff,2308-230b,2320-2321,2329-232a,2768-2775,27c0,27c3-27c6,27c8-27c9,27cb-27cd,27d3-27d6,27dc-27de,27e2-27ef,2983-2998,299b-29a0,29a2-29af,29b8,29c0-29c5,29c9,29ce-29d2,29d4-29d5,29d8-29dc,29e1,29e3-29e5,29e8-29e9,29f4-29f9,29fc-29fd,2a0a-2a1c,2a1e-2a21,2a24,2a26,2a29,2a2b-2a2e,2a34-2a35,2a3c-2a3e,2a57-2a58,2a64-2a65,2a6a-2a6d,2a6f-2a70,2a73-2a74,2a79-2aa3,2aa6-2aad,2aaf-2ad6,2adc,2ade,2ae2-2ae6,2aec-2aee,2af3,2af7-2afb,2afd,2bfe,2e02-2e05,2e09-2e0a,2e0c-2e0d,2e1c-2e1d,2e20-2e29,2e55-2e5c,3008-3011,3014-301b,fe59-fe5e,fe64-fe65,ff08-ff09,ff1c,ff1e,ff3b,ff3d,ff5b,ff5d,ff5f-ff60,ff62-ff63,1d6db,1d715,1d74f,1d789,1d7c3"),
  ("Case_Ignorable", "27,2e,3a,5e,60,a8,ad,af,b4,b7-b8,2b0-36f,374-375,37a,384-385,387,483-489,559,55f,591-5bd,5bf,5c1-5c2,5c4-5c5,5c7,5f4,600-605,610-61a,61c,640,64b-65f,670,6d6-6dd,6df-6e8,6ea-6ed,70f,711,730-74a,7a6-7b0,7eb-7f5,7fa,7fd,816-82d,859-85b,888,890-891,897-89f,8c9-902,93a,93c,941-948,94d,951-957,962-963,971,981,9bc,9c1-9c4,9cd,9e2-9e3,9fe,a01-a02,a3c,a41-a42,a47-a48,a4b-a4d,a51,a70-a71,a75,a81-a82,abc,ac1-ac5,ac7-ac8,acd,ae2-ae3,afa-aff,b01,b3c,b3f,b41-b44,b4d,b55-b56,b62-b63,b82,bc0,bcd,c00,c04,c3c,c3e-c40,c46-c48,c4a-c4d,c55-c56,c62-c63,c81,cbc,cbf,cc6,ccc-ccd,ce2-ce3,d00-d01,d3b-d3c,d41-d44,d4d,d62-d63,d81,dca,dd2-dd4,dd6,e31,e34-e3a,e46-e4e,eb1,eb4-ebc,ec6,ec8-ece,f18-f19,f35,f37,f39,f71-f7e,f80-f84,f86-f87,f8d-f97,f99-fbc,fc6,102d-1030,1032-1037,1039-103a,103d-103e,1058-1059,105e-1060,1071-1074,1082,1085-1086,108d,109d,10fc,135d-135f,1712-1714,1732-1733,1752-1753,1772-1773,17b4-17b5,17b7-17bd,17c6,17c9-17d3,17d7,17dd,180b-180f,1843,1885-1886,18a9,1920-1922,1927-1928,1932,1939-193b,1a17-1a18,1a1b,1a56,1a58-1a5e,1a60,1a62,1a65-1a6c,1a73-1a7c,1a7f,1aa7,1ab0-1ace,1b00-1b03,1b34,1b36-1b3a,1b3c,1b42,1b6b-1b73,1b80-1b81,1ba2-1ba5,1ba8-1ba9,1bab-1bad,1be6,1be8-1be9,1bed,1bef-1bf1,1c2c-1c33,1c36-1c37,1c78-1c7d,1cd0-1cd2,1cd4-1ce0,1ce2-1ce8,1ced,1cf4,1cf8-1cf9,1d2c-1d6a,1d78,1d9b-1dff,1fbd,1fbf-1fc1,1fcd-1fcf,1fdd-1fdf,1fed-1fef,1ffd-1ffe,200b-200f,2018-2019,2024,2027,202a-202e,2060-2064,2066-206f,2071,207f,2090-209c,20d0-20f0,2c7c-2c7d,2cef-2cf1,2d6f,2d7f,2de0-2dff,2e2f,3005,302a-302d,3031-3035,303b,3099-309e,30fc-30fe,a015,a4f8-a4fd,a60c,a66f-a672,a674-a67d,a67f,a69c-a69f,a6f0-a6f1,a700-a721,a770,a788-a78a,a7f2-a7f4,a7f8-a7f9,a802,a806,a80b,a825-a826,a82c,a8c4-a8c5,a8e0-a8f1,a8ff,a926-a92d,a947-a951,a980-a982,a9b3,a9b6-a9b9,a9bc-a9bd,a9cf,a9e5-a9e6,aa29-aa2e,aa31-aa32,aa35-aa36,aa43,aa4c,aa70,aa7c,aab0,aab2-aab4,aab7-aab8,aabe-aabf,aac1,aadd,aaec-aaed,aaf3-aaf4,aaf6,ab5b-ab5f,ab69-ab6b,abe5,abe8,abed,fb1e,fbb2-fbc2,fe00-fe0f,fe13,fe20-fe2f,fe52,fe55,feff,ff07,ff0e,ff1a,ff3e,ff40,ff70,ff9e-ff9f,ffe3,fff9-fffb,101fd,102e0,10376-1037a,10780-10785,10787-107b0,107b2-107ba,10a01-10a03,10a05-10a06,10a0c-10a0f,10a38-10a3a,10a3f,10ae5-10ae6,10d24-10d27,10d4e,10d69-10d6d,10d6f,10eab-10eac,10efc-10eff,10f46-10f50,10f82-10f85,11001,11038-11046,11070,11073-11074,1107f-11081,110b3-110b6,110b9-110ba,110bd,110c2,110cd,11100-11102,11127-1112b,1112d-11134,11173,11180-11181,111b6-111be,111c9-111cc,111cf,1122f-11231,11234,11236-11237,1123e,11241,112df,112e3-112ea,11300-11301,1133b-1133c,11340,11366-1136c,11370-11374,113bb-113c0,113ce,113d0,113d2,113e1-113e2,11438-1143f,11442-11444,11446,1145e,114b3-114b8,114ba,114bf-114c0,114c2-114c3,115b2-115b5,115bc-115bd,115bf-115c0,115dc-115dd,11633-1163a,1163d,1163f-11640,116ab,116ad,116b0-116b5,116b7,1171d,1171f,11722-11725,11727-1172b,1182f-11837,11839-1183a,1193b-1193c,1193e,11943,119d4-119d7,119da-119db,119e0,11a01-11a0a,11a33-11a38,11a3b-11a3e,11a47,11a51-11a56,11a59-11a5b,11a8a-11a96,11a98-11a99,11c30-11c36,11c38-11c3d,11c3f,11c92-11ca7,11caa-11cb0,11cb2-11cb3,11cb5-11cb6,11d31-11d36,11d3a,11d3c-11d3d,11d3f-11d45,11d47,11d90-11d91,11d95,11d97,11ef3-11ef4,11f00-11f01,11f36-11f3a,11f40,11f42,11f5a,13430-13440,13447-13455,1611e-16129,1612d-1612f,16af0-16af4,16b30-16b36,16b40-16b43,16d40-16d42,16d6b-16d6c,16f4f,16f8f-16f9f,16fe0-16fe1,16fe3-16fe4,1aff0-1aff3,1aff5-1affb,1affd-1affe,1bc9d-1bc9e,1bca0-1bca3,1cf00-1cf2d,1cf30-1cf46,1d167-1d169,1d173-1d182,1d185-1d18b,1d1aa-1d1ad,1d242-1d244,1da00-1da36,1da3b-1da6c,1da75,1da84,1da9b-1da9f,1daa1-1daaf,1e000-1e006,1e008-1e018,1e01b-1e021,1e023-1e024,1e026-1e02a,1e030-1e06d,1e08f,1e130-1e13d,1e2ae,1e2ec-1e2ef,1e4eb-1e4ef,1e5ee-1e5ef,1e8d0-1e8d6,1e944-1e94b,1f3fb-1f3ff,e0001,e0020-e007f,e0100-e01ef"),
  ("Cased", "41-5a,61-7a,aa,b5,ba,c0-d6,d8-f6,f8-1ba,1bc-1bf,1c4-293,295-2b8,2c0-2c1,2e0-2e4,345,370-373,376-377,37a-37d,37f,386,388-38a,38c,38e-3a1,3a3-3f5,3f7-481,48a-52f,531-556,560-588,10a0-10c5,10c7,10cd,10d0-10fa,10fc-10ff,13a0-13f5,13f8-13fd,1c80-1c8a,1c90-1cba,1cbd-1cbf,1d00-1dbf,1e00-1f15,1f18-1f1d,1f20-1f45,1f48-1f4d,1f50-1f57,1f59,1f5b,1f5d,1f5f-1f7d,1f80-1fb4,1fb6-1fbc,1fbe,1fc2-1fc4,1fc6-1fcc,1fd0-1fd3,1fd6-1fdb,1fe0-1fec,1ff2-1ff4,1ff6-1ffc,2071,207f,2090-209c,2102,2107,210a-2113,2115,2119-211d,2124,2126,2128,212a-212d,212f-2134,2139,213c-213f,2145-2149,214e,2160-217f,2183-2184,24b6-24e9,2c00-2ce4,2ceb-2cee,2cf2-2cf3,2d00-2d25,2d27,2d2d,a640-a66d,a680-a69d,a722-a787,a78b-a78e,a790-a7cd,a7d0-a7d1,a7d3,a7d5-a7dc,a7f2-a7f6,a7f8-a7fa,ab30-ab5a,ab5c-ab69,ab70-abbf,fb00-fb06,fb13-fb17,ff21-ff3a,ff41-ff5a,10400-1044f,104b0-104d3,104d8-104fb,10570-1057a,1057c-1058a,1058c-10592,10594-10595,10597-105a1,105a3-105b1,105b3-105b9,105bb-105bc,10780,10783-10785,10787-107b0,107b2-107ba,10c80-10cb2,10cc0-10cf2,10d50-10d65,10d70-10d85,118a0-118df,16e40-16e7f,1d400-1d454,1d456-1d49c,1d49e-1d49f,1d4a2,1d4a5-1d4a6,1d4a9-1d4ac,1d4ae-1d4b9,1d4bb,1d4bd-1d4c3,1d4c5-1d505,1d507-1d50a,1d50d-1d514,1d516-1d51c,1d51e-1d539,1d53b-1d53e,1d540-1d544,1d546,1d54a-1d550,1d552-1d6a5,1d6a8-1d6c0,1d6c2-1d6da,1d6dc-1d6fa,1d6fc-1d714,1d716-1d734,1d736-1d74e,1d750-1d76e,1d770-1d788,1d78a-1d7a8,1d7aa-1d7c2,1d7c4-1d7cb,1df00-1df09,1df0b-1df1e,1df25-1df2a,1e030-1e06d,1e900-1e943,1f130-1f149,1f150-1f169,1f170-1f189"),
  ("Changes_When_Casefolded", "41-5a,b5,c0-d6,d8-df,100,102,104,106,108,10a,10c,10e,110,112,114,116,118,11a,11c,11e,120,122,124,126,128,12a,12c,12e,130,132,134,136,139,13b,13d,13f,141,143,145,147,149-14a,14c,14e,150,152,154,156,158,15a,15c,15e,160,162,164,166,168,16a,16c,16e,170,172,174,176,178-179,17b,17d,17f,181-182,184,186-187,189-18b,18e-191,193-194,196-198,19c-19d,19f-1a0,1a2,1a4,1a6-1a7,1a9,1ac,1ae-1af,1b1-1b3,1b5,1b7-1b8,1bc,1c4-1c5,1c7-1c8,1ca-1cb,1cd,1cf,1d1,1d3,1d5,1d7,1d9,1db,1de,1e0,1e2,1e4,1e6,1e8,1ea,1ec,1ee,1f1-1f2,1f4,1f6-1f8,1fa,1fc,1fe,200,202,204,206,208,20a,20c,20e,210,212,214,216,218,21a,21c,21e,220,222,224,226,228,22a,22c,22e,230,232,23a-23b,23d-23e,241,243-246,248,24a,24c,24e,345,370,372,376,37f,386,388-38a,38c,38e-38f,391-3a1,3a3-3ab,3c2,3cf-3d1,3d5-3d6,3d8,3da,3dc,3de,3e0,3e2,3e4,3e6,3e8,3ea,3ec,3ee,3f0-3f1,3f4-3f5,3f7,3f9-3fa,3fd-42f,460,462,464,466,468,46a,46c,46e,470,472,474,476,478,47a,47c,47e,480,48a,48c,48e,490,492,494,496,498,49a,49c,49e,4a0,4a2,4a4,4a6,4a8,4aa,4ac,4ae,4b0,4b2,4b4,4b6,4b8,4ba,4bc,4be,4c0-4c1,4c3,4c5,4c7,4c9,4cb,4cd,4d0,4d2,4d4,4d6,4d8,4da,4dc,4de,4e0,4e2,4e4,4e6,4e8,4ea,4ec,4ee,4f0,4f2,4f4,4f6,4f8,4fa,4fc,4fe,500,502,504,506,508,50a,50c,50e,510,512,514,516,518,51a,51c,51e,520,522,524,526,528,52a,52c,52e,531-556,587,10a0-10c5,10c7,10cd,13f8-13fd,1c80-1c89,1c90-1cba,1cbd-1cbf,1e00,1e02,1e04,1e06,1e08,1e0a,1e0c,1e0e,1e10,1e12,1e14,1e16,1e18,1e1a,1e1c,1e1e,1e20,1e22,1e24,1e26,1e28,1e2a,1e2c,1e2e,1e30,1e32,1e34,1e36,1e38,1e3a,1e3c,1e3e,1e40,1e42,1e44,1e46,1e48,1e4a,1e4c,1e4e,1e50,1e52,1e54,1e56,1e58,1e5a,1e5c,1e5e,1e60,1e62,1e64,1e66,1e68,1e6a,1e6c,1e6e,1e70,1e72,1e74,1e76,1e78,1e7a,1e7c,1e7e,1e80,1e82,1e84,1e86,1e88,1e8a,1e8c,1e8e,1e90,1e92,1e94,1e9a-1e9b,1e9e,1ea0,1ea2,1ea4,1ea6,1ea8,1eaa,1eac,1eae,1eb0,1eb2,1eb4,1eb6,1eb8,1eba,1ebc,1ebe,1ec0,1ec2,1ec4,1ec6,1ec8,1eca,1ecc,1ece,1ed0,1ed2,1ed4,1ed6,1ed8,1eda,1edc,1ede,1ee0,1ee2,1ee4,1ee6,1ee8,1eea,1eec,1eee,1ef0,1ef2,1ef4,1ef6,1ef8,1efa,1efc,1efe,1f08-1f0f,1f18-1f1d,1f28-1f2f,1f38-1f3f,1f48-1f4d,1f59,1f5b,1f5d,1f5f,1f68-1f6f,1f80-1faf,1fb2-1fb4,1fb7-1fbc,1fc2-1fc4,1fc7-1fcc,1fd8-1fdb,1fe8-1fec,1ff2-1ff4,1ff7-1ffc,2126,212a-212b,2132,2160-216f,2183,24b6-24cf,2c00-2c2f,2c60,2c62-2c64,2c67,2c69,2c6b,2c6d-2c70,2c72,2c75,2c7e-2c80,2c82,2c84,2c86,2c88,2c8a,2c8c,2c8e,2c90,2c92,2c94,2c96,2c98,2c9a,2c9c,2c9e,2ca0,2ca2,2ca4,2ca6,2ca8,2caa,2cac,2cae,2cb0,2cb2,2cb4,2cb6,2cb8,2cba,2cbc,2cbe,2cc0,2cc2,2cc4,2cc6,2cc8,2cca,2ccc,2cce,2cd0,2cd2,2cd4,2cd6,2cd8,2cda,2cdc,2cde,2ce0,2ce2,2ceb,2ced,2cf2,a640,a642,a644,a646,a648,a64a,a64c,a64e,a650,a652,a654,a656,a658,a65a,a65c,a65e,a660,a662,a664,a666,a668,a66a,a66c,a680,a682,a684,a686,a688,a68a,a68c,a68e,a690,a692,a694,a696,a698,a69a,a722,a724,a726,a728,a72a,a72c,a72e,a732,a734,a736,a738,a73a,a73c,a73e,a740,a742,a744,a746,a748,a74a,a74c,a74e,a750,a752,a754,a756,a758,a75a,a75c,a75e,a760,a762,a764,a766,a768,a76a,a76c,a76e,a779,a77b,a77d-a77e,a780,a782,a784,a786,a78b,a78d,a790,a792,a796,a798,a79a,a79c,a79e,a7a0,a7a2,a7a4,a7a6,a7a8,a7aa-a7ae,a7b0-a7b4,a7b6,a7b8,a7ba,a7bc,a7be,a7c0,a7c2,a7c4-a7c7,a7c9,a7cb-a7cc,a7d0,a7d6,a7d8,a7da,a7dc,a7f5,ab70-abbf,fb00-fb06,fb13-fb17,ff21-ff3a,10400-10427,104b0-104d3,10570-1057a,1057c-1058a,1058c-10592,10594-10595,10c80-10cb2,10d50-10d65,118a0-118bf,16e40-16e5f,1e900-1e921"),
  ("Changes_When_Casemapped", "41-5a,61-7a,b5,c0-d6,d8-f6,f8-137,139-18c,18e-1a9,1ac-1b9,1bc-1bd,1bf,1c4-220,222-233,23a-254,256-257,259,25b-25c,260-261,263-266,268-26c,26f,271-272,275,27d,280,282-283,287-28c,292,29d-29e,345,370-373,376-377,37b-37d,37f,386,388-38a,38c,38e-3a1,3a3-3d1,3d5-3f5,3f7-3fb,3fd-481,48a-52f,531-556,561-587,10a0-10c5,10c7,10cd,10d0-10fa,10fd-10ff,13a0-13f5,13f8-13fd,1c80-1c8a,1c90-1cba,1cbd-1cbf,1d79,1d7d,1d8e,1e00-1e9b,1e9e,1ea0-1f15,1f18-1f1d,1f20-1f45,1f48-1f4d,1f50-1f57,1f59,1f5b,1f5d,1f5f-1f7d,1f80-1fb4,1fb6-1fbc,1fbe,1fc2-1fc4,1fc6-1fcc,1fd0-1fd3,1fd6-1fdb,1fe0-1fec,1ff2-1ff4,1ff6-1ffc,2126,212a-212b,2132,214e,2160-217f,2183-2184,24b6-24e9,2c00-2c70,2c72-2c73,2c75-2c76,2c7e-2ce3,2ceb-2cee,2cf2-2cf3,2d00-2d25,2d27,2d2d,a640-a66d,a680-a69b,a722-a72f,a732-a76f,a779-a787,a78b-a78d,a790-a794,a796-a7ae,a7b0-a7cd,a7d0-a7d1,a7d6-a7dc,a7f5-a7f6,ab53,ab70-abbf,fb00-fb06,fb13-fb17,ff21-ff3a,ff41-ff5a,10400-1044f,104b0-104d3,104d8-104fb,10570-1057a,1057c-1058a,1058c-10592,10594-10595,10597-105a1,105a3-105b1,105b3-105b9,105bb-105bc,10c80-10cb2,10cc0-10cf2,10d50-10d65,10d70-10d85,118a0-118df,16e40-16e7f,1e900-1e943"),
  ("Changes_When_Lowercased", "41-5a,c0-d6,d8-de,100,102,104,106,108,10a,10c,10e,110,112,114,116,118,11a,11c,11e,120,122,124,126,128,12a,12c,12e,130,132,134,136,139,13b,13d,13f,141,143,145,147,14a,14c,14e,150,152,154,156,158,15a,15c,15e,160,162,164,166,168,16a,16c,16e,170,172,174,176,178-179,17b,17d,181-182,184,186-187,189-18b,18e-191,193-194,196-198,19c-19d,19f-1a0,1a2,1a4,1a6-1a7,1a9,1ac,1ae-1af,1b1-1b3,1b5,1b7-1b8,1bc,1c4-1c5,1c7-1c8,1ca-1cb,1cd,1cf,1d1,1d3,1d5,1d7,1d9,1db,1de,1e0,1e2,1e4,1e6,1e8,1ea,1ec,1ee,1f1-1f2,1f4,1f6-1f8,1fa,1fc,1fe,200,202,204,206,208,20a,20c,20e,210,212,214,216,218,21a,21c,21e,220,222,224,226,228,22a,22c,22e,230,232,23a-23b,23d-23e,241,243-246,248,24a,24c,24e,370,372,376,37f,386,388-38a,38c,38e-38f,391-3a1,3a3-3ab,3cf,3d8,3da,3dc,3de,3e0,3e2,3e4,3e6,3e8,3ea,3ec,3ee,3f4,3f7,3f9-3fa,3fd-42f,460,462,464,466,468,46a,46c,46e,470,472,474,476,478,47a,47c,47e,480,48a,48c,48e,490,492,494,496,498,49a,49c,49e,4a0,4a2,4a4,4a6,4a8,4aa,4ac,4ae,4b0,4b2,4b4,4b6,4b8,4ba,4bc,4be,4c0-4c1,4c3,4c5,4c7,4c9,4cb,4cd,4d0,4d2,4d4,4d6,4d8,4da,4dc,4de,4e0,4e2,4e4,4e6,4e8,4ea,4ec,4ee,4f0,4f2,4f4,4f6,4f8,4fa,4fc,4fe,500,502,504,506,508,50a,50c,50e,510,512,514,516,518,51a,51c,51e,520,522,524,526,528,52a,52c,52e,531-556,10a0-10c5,10c7,10cd,13a0-13f5,1c89,1c90-1cba,1cbd-1cbf,1e00,1e02,1e04,1e06,1e08,1e0a,1e0c,1e0e,1e10,1e12,1e14,1e16,1e18,1e1a,1e1c,1e1e,1e20,1e22,1e24,1e26,1e28,1e2a,1e2c,1e2e,1e30,1e32,1e34,1e36,1e38,1e3a,1e3c,1e3e,1e40,1e42,1e44,1e46,1e48,1e4a,1e4c,1e4e,1e50,1e52,1e54,1e56,1e58,1e5a,1e5c,1e5e,1e60,1e62,1e64,1e66,1e68,1e6a,1e6c,1e6e,1e70,1e72,1e74,1e76,1e78,1e7a,1e7c,1e7e,1e80,1e82,1e84,1e86,1e88,1e8a,1e8c,1e8e,1e90,1e92,1e94,1e9e,1ea0,1ea2,1ea4,1ea6,1ea8,1eaa,1eac,1eae,1eb0,1eb2,1eb4,1eb6,1eb8,1eba,1ebc,1ebe,1ec0,1ec2,1ec4,1ec6,1ec8,1eca,1ecc,1ece,1ed0,1ed2,1ed4,1ed6,1ed8,1eda,1edc,1ede,1ee0,1ee2,1ee4,1ee6,1ee8,1eea,1eec,1eee,1ef0,1ef2,1ef4,1ef6,1ef8,1efa,1efc,1efe,1f08-1f0f,1f18-1f1d,1f28-1f2f,1f38-1f3f,1f48-1f4d,1f59,1f5b,1f5d,1f5f,1f68-1f6f,1f88-1f8f,1f98-1f9f,1fa8-1faf,1fb8-1fbc,1fc8-1fcc,1fd8-1fdb,1fe8-1fec,1ff8-1ffc,2126,212a-212b,2132,2160-216f,2183,24b6-24cf,2c00-2c2f,2c60,2c62-2c64,2c67,2c69,2c6b,2c6d-2c70,2c72,2c75,2c7e-2c80,2c82,2c84,2c86,2c88,2c8a,2c8c,2c8e,2c90,2c92,2c94,2c96,2c98,2c9a,2c9c,2c9e,2ca0,2ca2,2ca4,2ca6,2ca8,2caa,2cac,2cae,2cb0,2cb2,2cb4,2cb6,2cb8,2cba,2cbc,2cbe,2cc0,2cc2,2cc4,2cc6,2cc8,2cca,2ccc,2cce,2cd0,2cd2,2cd4,2cd6,2cd8,2cda,2cdc,2cde,2ce0,2ce2,2ceb,2ced,2cf2,a640,a642,a644,a646,a648,a64a,a64c,a64e,a650,a652,a654,a656,a658,a65a,a65c,a65e,a660,a662,a664,a666,a668,a66a,a66c,a680,a682,a684,a686,a688,a68a,a68c,a68e,a690,a692,a694,a696,a698,a69a,a722,a724,a726,a728,a72a,a72c,a72e,a732,a734,a736,a738,a73a,a73c,a73e,a740,a742,a744,a746,a748,a74a,a74c,a74e,a750,a752,a754,a756,a758,a75a,a75c,a75e,a760,a762,a764,a766,a768,a76a,a76c,a76e,a779,a77b,a77d-a77e,a780,a782,a784,a786,a78b,a78d,a790,a792,a796,a798,a79a,a79c,a79e,a7a0,a7a2,a7a4,a7a6,a7a8,a7aa-a7ae,a7b0-a7b4,a7b6,a7b8,a7ba,a7bc,a7be,a7c0,a7c2,a7c4-a7c7,a7c9,a7cb-a7cc,a7d0,a7d6,a7d8,a7da,a7dc,a7f5,ff21-ff3a,10400-10427,104b0-104d3,10570-1057a,1057c-1058a,1058c-10592,10594-10595,10c80-10cb2,10d50-10d65,118a0-118bf,16e40-16e5f,1e900-1e921"),
  ("Changes_When_Titlecased", "61-7a,b5,df-f6,f8-ff,101,103,105,107,109,10b,10d,10f,111,113,115,117,119,11b,11d,11f,121,123,125,127,129,12b,12d,12f,131,133,135,137,13a,13c,13e,140,142,144,146,148-149,14b,14d,14f,151,153,155,157,159,15b,15d,15f,161,163,165,167,169,16b,16d,16f,171,173,175,177,17a,17c,17e-180,183,185,188,18c,192,195,199-19b,19e,1a1,1a3,1a5,1a8,1ad,1b0,1b4,1b6,1b9,1bd,1bf,1c4,1c6-1c7,1c9-1ca,1cc,1ce,1d0,1d2,1d4,1d6,1d8,1da,1dc-1dd,1df,1e1,1e3,1e5,1e7,1e9,1eb,1ed,1ef-1f1,1f3,1f5,1f9,1fb,1fd,1ff,201,203,205,207,209,20b,20d,20f,211,213,215,217,219,21b,21d,21f,223,225,227,229,22b,22d,22f,231,233,23c,23f-240,242,247,249,24b,24d,24f-254,256-257,259,25b-25c,260-261,263-266,268-26c,26f,271-272,275,27d,280,282-283,287-28c,292,29d-29e,345,371,373,377,37b-37d,390,3ac-3ce,3d0-3d1,3d5-3d7,3d9,3db,3dd,3df,3e1,3e3,3e5,3e7,3e9,3eb,3ed,3ef-3f3,3f5,3f8,3fb,430-45f,461,463,465,467,469,46b,46d,46f,471,473,475,477,479,47b,47d,47f,481,48b,48d,48f,491,493,495,497,499,49b,49d,49f,4a1,4a3,4a5,4a7,4a9,4ab,4ad,4af,4b1,4b3,4b5,4b7,4b9,4bb,4bd,4bf,4c2,4c4,4c6,4c8,4ca,4cc,4ce-4cf,4d1,4d3,4d5,4d7,4d9,4db,4dd,4df,4e1,4e3,4e5,4e7,4e9,4eb,4ed,4ef,4f1,4f3,4f5,4f7,4f9,4fb,4fd,4ff,501,503,505,507,509,50b,50d,50f,511,513,515,517,519,51b,51d,51f,521,523,525,527,529,52b,52d,52f,561-587,13f8-13fd,1c80-1c88,1c8a,1d79,1d7d,1d8e,1e01,1e03,1e05,1e07,1e09,1e0b,1e0d,1e0f,1e11,1e13,1e15,1e17,1e19,1e1b,1e1d,1e1f,1e21,1e23,1e25,1e27,1e29,1e2b,1e2d,1e2f,1e31,1e33,1e35,1e37,1e39,1e3b,1e3d,1e3f,1e41,1e43,1e45,1e47,1e49,1e4b,1e4d,1e4f,1e51,1e53,1e55,1e57,1e59,1e5b,1e5d,1e5f,1e61,1e63,1e65,1e67,1e69,1e6b,1e6d,1e6f,1e71,1e73,1e75,1e77,1e79,1e7b,1e7d,1e7f,1e81,1e83,1e85,1e87,1e89,1e8b,1e8d,1e8f,1e91,1e93,1e95-1e9b,1ea1,1ea3,1ea5,1ea7,1ea9,1eab,1ead,1eaf,1eb1,1eb3,1eb5,1eb7,1eb9,1ebb,1ebd,1ebf,1ec1,1ec3,1ec5,1ec7,1ec9,1ecb,1ecd,1ecf,1ed1,1ed3,1ed5,1ed7,1ed9,1edb,1edd,1edf,1ee1,1ee3,1ee5,1ee7,1ee9,1eeb,1eed,1eef,1ef1,1ef3,1ef5,1ef7,1ef9,1efb,1efd,1eff-1f07,1f10-1f15,1f20-1f27,1f30-1f37,1f40-1f45,1f50-1f57,1f60-1f67,1f70-1f7d,1f80-1f87,1f90-1f97,1fa0-1fa7,1fb0-1fb4,1fb6-1fb7,1fbe,1fc2-1fc4,1fc6-1fc7,1fd0-1fd3,1fd6-1fd7,1fe0-1fe7,1ff2-1ff4,1ff6-1ff7,214e,2170-217f,2184,24d0-24e9,2c30-2c5f,2c61,2c65-2c66,2c68,2c6a,2c6c,2c73,2c76,2c81,2c83,2c85,2c87,2c89,2c8b,2c8d,2c8f,2c91,2c93,2c95,2c97,2c99,2c9b,2c9d,2c9f,2ca1,2ca3,2ca5,2ca7,2ca9,2cab,2cad,2caf,2cb1,2cb3,2cb5,2cb7,2cb9,2cbb,2cbd,2cbf,2cc1,2cc3,2cc5,2cc7,2cc9,2ccb,2ccd,2ccf,2cd1,2cd3,2cd5,2cd7,2cd9,2cdb,2cdd,2cdf,2ce1,2ce3,2cec,2cee,2cf3,2d00-2d25,2d27,2d2d,a641,a643,a645,a647,a649,a64b,a64d,a64f,a651,a653,a655,a657,a659,a65b,a65d,a65f,a661,a663,a665,a667,a669,a66b,a66d,a681,a683,a685,a687,a689,a68b,a68d,a68f,a691,a693,a695,a697,a699,a69b,a723,a725,a727,a729,a72b,a72d,a72f,a733,a735,a737,a739,a73b,a73d,a73f,a741,a743,a745,a747,a749,a74b,a74d,a74f,a751,a753,a755,a757,a759,a75b,a75d,a75f,a761,a763,a765,a767,a769,a76b,a76d,a76f,a77a,a77c,a77f,a781,a783,a785,a787,a78c,a791,a793-a794,a797,a799,a79b,a79d,a79f,a7a1,a7a3,a7a5,a7a7,a7a9,a7b5,a7b7,a7b9,a7bb,a7bd,a7bf,a7c1,a7c3,a7c8,a7ca,a7cd,a7d1,a7d7,a7d9,a7db,a7f6,ab53,ab70-abbf,fb00-fb06,fb13-fb17,ff41-ff5a,10428-1044f,104d8-104fb,10597-105a1,105a3-105b1,105b3-105b9,105bb-105bc,10cc0-10cf2,10d70-10d85,118c0-118df,16e60-16e7f,1e922-1e943"),
  ("Changes_When_Uppercased", "61-7a,b5,df-f6,f8-ff,101,103,105,107,109,10b,10d,10f,111,113,115,117,119,11b,11d,11f,121,123,125,127,129,12b,12d,12f,131,133,135,137,13a,13c,13e,140,142,144,146,148-149,14b,14d,14f,151,153,155,157,159,15b,15d,15f,161,163,165,167,169,16b,16d,16f,171,173,175,177,17a,17c,17e-180,183,185,188,18c,192,195,199-19b,19e,1a1,1a3,1a5,1a8,1ad,1b0,1b4,1b6,1b9,1bd,1bf,1c5-1c6,1c8-1c9,1cb-1cc,1ce,1d0,1d2,1d4,1d6,1d8,1da,1dc-1dd,1df,1e1,1e3,1e5,1e7,1e9,1eb,1ed,1ef-1f0,1f2-1f3,1f5,1f9,1fb,1fd,1ff,201,203,205,207,209,20b,20d,20f,211,213,215,217,219,21b,21d,21f,223,225,227,229,22b,22d,22f,231,233,23c,23f-240,242,247,249,24b,24d,24f-254,256-257,259,25b-25c,260-261,263-266,268-26c,26f,271-272,275,27d,280,282-283,287-28c,292,29d-29e,345,371,373,377,37b-37d,390,3ac-3ce,3d0-3d1,3d5-3d7,3d9,3db,3dd,3df,3e1,3e3,3e5,3e7,3e9,3eb,3ed,3ef-3f3,3f5,3f8,3fb,430-45f,461,463,465,467,469,46b,46d,46f,471,473,475,477,479,47b,47d,47f,481,48b,48d,48f,491,493,495,497,499,49b,49d,49f,4a1,4a3,4a5,4a7,4a9,4ab,4ad,4af,4b1,4b3,4b5,4b7,4b9,4bb,4bd,4bf,4c2,4c4,4c6,4c8,4ca,4cc,4ce-4cf,4d1,4d3,4d5,4d7,4d9,4db,4dd,4df,4e1,4e3,4e5,4e7,4e9,4eb,4ed,4ef,4f1,4f3,4f5,4f7,4f9,4fb,4fd,4ff,501,503,505,507,509,50b,50d,50f,511,513,515,517,519,51b,51d,51f,521,523,525,527,529,52b,52d,52f,561-587,10d0-10fa,10fd-10ff,13f8-13fd,1c80-1c88,1c8a,1d79,1d7d,1d8e,1e01,1e03,1e05,1e07,1e09,1e0b,1e0d,1e0f,1e11,1e13,1e15,1e17,1e19,1e1b,1e1d,1e1f,1e21,1e23,1e25,1e27,1e29,1e2b,1e2d,1e2f,1e31,1e33,1e35,1e37,1e39,1e3b,1e3d,1e3f,1e41,1e43,1e45,1e47,1e49,1e4b,1e4d,1e4f,1e51,1e53,1e55,1e57,1e59,1e5b,1e5d,1e5f,1e61,1e63,1e65,1e67,1e69,1e6b,1e6d,1e6f,1e71,1e73,1e75,1e77,1e79,1e7b,1e7d,1e7f,1e81,1e83,1e85,1e87,1e89,1e8b,1e8d,1e8f,1e91,1e93,1e95-1e9b,1ea1,1ea3,1ea5,1ea7,1ea9,1eab,1ead,1eaf,1eb1,1eb3,1eb5,1eb7,1eb9,1ebb,1ebd,1ebf,1ec1,1ec3,1ec5,1ec7,1ec9,1ecb,1ecd,1ecf,1ed1,1ed3,1ed5,1ed7,1ed9,1edb,1edd,1edf,1ee1,1ee3,1ee5,1ee7,1ee9,1eeb,1eed,1eef,1ef1,1ef3,1ef5,1ef7,1ef9,1efb,1efd,1eff-1f07,1f10-1f15,1f20-1f27,1f30-1f37,1f40-1f45,1f50-1f57,1f60-1f67,1f70-1f7d,1f80-1fb4,1fb6-1fb7,1fbc,1fbe,1fc2-1fc4,1fc6-1fc7,1fcc,1fd0-1fd3,1fd6-1fd7,1fe0-1fe7,1ff2-1ff4,1ff6-1ff7,1ffc,214e,2170-217f,2184,24d0-24e9,2c30-2c5f,2c61,2c65-2c66,2c68,2c6a,2c6c,2c73,2c76,2c81,2c83,2c85,2c87,2c89,2c8b,2c8d,2c8f,2c91,2c93,2c95,2c97,2c99,2c9b,2c9d,2c9f,2ca1,2ca3,2ca5,2ca7,2ca9,2cab,2cad,2caf,2cb1,2cb3,2cb5,2cb7,2cb9,2cbb,2cbd,2cbf,2cc1,2cc3,2cc5,2cc7,2cc9,2ccb,2ccd,2ccf,2cd1,2cd3,2cd5,2cd7,2cd9,2cdb,2cdd,2cdf,2ce1,2ce3,2cec,2cee,2cf3,2d00-2d25,2d27,2d2d,a641,a643,a645,a647,a649,a64b,a64d,a64f,a651,a653,a655,a657,a659,a65b,a65d,a65f,a661,a663,a665,a667,a669,a66b,a66d,a681,a683,a685,a687,a689,a68b,a68d,a68f,a691,a693,a695,a697,a699,a69b,a723,a725,a727,a729,a72b,a72d,a72f,a733,a735,a737,a739,a73b,a73d,a73f,a741,a743,a745,a747,a749,a74b,a74d,a74f,a751,a753,a755,a757,a759,a75b,a75d,a75f,a761,a763,a765,a767,a769,a76b,a76d,a76f,a77a,a77c,a77f,a781,a783,a785,a787,a78c,a791,a793-a794,a797,a799,a79b,a79d,a79f,a7a1,a7a3,a7a5,a7a7,a7a9,a7b5,a7b7,a7b9,a7bb,a7bd,a7bf,a7c1,a7c3,a7c8,a7ca,a7cd,a7d1,a7d7,a7d9,a7db,a7f6,ab53,ab70-abbf,fb00-fb06,fb13-fb17,ff41-ff5a,10428-1044f,104d8-104fb,10597-105a1,105a3-105b1,105b3-105b9,105bb-105bc,10cc0-10cf2,10d70-10d85,118c0-118df,16e60-16e7f,1e922-1e943"),
  ("Dash", "2d,58a,5be,1400,1806,2010-2015,2053,207b,208b,2212,2e17,2e1a,2e3a-2e3b,2e40,2e5d,301c,3030,30a0,fe31-fe32,fe58,fe63,ff0d,10d6e,10ead"),
  ("Default_Ignorable_Code_Point", "ad,34f,61c,115f-1160,17b4-17b5,180b-180f,200b-200f,202a-202e,2060-206f,3164,fe00-fe0f,feff,ffa0,fff0-fff8,1bca0-1bca3,1d173-1d17a,e0000-e0fff"),
  ("Deprecated", "149,673,f77,f79,17a3-17a4,206a-206f,2329-232a,e0001"),
  ("Diacritic", "5e,60,a8,af,b4,b7-b8,2b0-34e,350-357,35d-362,374-375,37a,384-385,483-487,559,591-5bd,5bf,5c1-5c2,5c4-5c5,5c7,64b-652,657-658,6df-6e0,6e5-6e6,6ea-6ec,730-74a,7a6-7b0,7eb-7f5,818-819,898-89f,8c9-8d2,8e3-8fe,93c,94d,951-954,971,9bc,9cd,a3c,a4d,abc,acd,afd-aff,b3c,b4d,b55,bcd,c3c,c4d,cbc,ccd,d3b-d3c,d4d,dca,e3a,e47-e4c,e4e,eba,ec8-ecc,f18-f19,f35,f37,f39,f3e-f3f,f82-f84,f86-f87,fc6,1037,1039-103a,1063-1064,1069-106d,1087-108d,108f,109a-109b,135d-135f,1714-1715,1734,17c9-17d3,17dd,1939-193b,1a60,1a75-1a7c,1a7f,1ab0-1abe,1ac1-1acb,1b34,1b44,1b6b-1b73,1baa-1bab,1be6,1bf2-1bf3,1c36-1c37,1c78-1c7d,1cd0-1ce8,1ced,1cf4,1cf7-1cf9,1d2c-1d6a,1d9b-1dbe,1dc4-1dcf,1df5-1dff,1fbd,1fbf-1fc1,1fcd-1fcf,1fdd-1fdf,1fed-1fef,1ffd-1ffe,2cef-2cf1,2e2f,302a-302f,3099-309c,30fc,a66f,a67c-a67d,a67f,a69c-a69d,a6f0-a6f1,a700-a721,a788-a78a,a7f8-a7f9,a806,a82c,a8c4,a8e0-a8f1,a92b-a92e,a953,a9b3,a9c0,a9e5,aa7b-aa7d,aabf-aac2,aaf6,ab5b-ab5f,ab69-ab6b,abec-abed,fb1e,fe20-fe2f,ff3e,ff40,ff70,ff9e-ff9f,ffe3,102e0,10780-10785,10787-107b0,107b2-107ba,10a38-10a3a,10a3f,10ae5-10ae6,10d22-10d27,10d4e,10d69-10d6d,10efd-10eff,10f46-10f50,10f82-10f85,11046,11070,110b9-110ba,11133-11134,11173,111c0,111ca-111cc,11235-11236,112e9-112ea,1133b-1133c,1134d,11366-1136c,11370-11374,113ce-113d0,113d2-113d3,113e1-113e2,11442,11446,114c2-114c3,115bf-115c0,1163f,116b6-116b7,1172b,11839-1183a,1193d-1193e,11943,119e0,11a34,11a47,11a99,11c3f,11d42,11d44-11d45,11d97,11f41-11f42,11f5a,13447-13455,1612f,16af0-16af4,16b30-16b36,16d6b-16d6c,16f8f-16f9f,16ff0-16ff1,1aff0-1aff3,1aff5-1affb,1affd-1affe,1cf00-1cf2d,1cf30-1cf46,1d167-1d169,1d16d-1d172,1d17b-1d182,1d185-1d18b,1d1aa-1d1ad,1e030-1e06d,1e130-1e136,1e2ae,1e2ec-1e2ef,1e5ee-1e5ef,1e8d0-1e8d6,1e944-1e946,1e948-1e94a"),
  ("Emoji", "23,2a,30-39,a9,ae,203c,2049,2122,2139,2194-2199,21a9-21aa,231a-231b,2328,23cf,23e9-23f3,23f8-23fa,24c2,25aa-25ab,25b6,25c0,25fb-25fe,2600-2604,260e,2611,2614-2615,2618,261d,2620,2622-2623,2626,262a,262e-262f,2638-263a,2640,2642,2648-2653,265f-2660,2663,2665-2666,2668,267b,267e-267f,2692-2697,2699,269b-269c,26a0-26a1,26a7,26aa-26ab,26b0-26b1,26bd-26be,26c4-26c5,26c8,26ce-26cf,26d1,26d3-26d4,26e9-26ea,26f0-26f5,26f7-26fa,26fd,2702,2705,2708-270d,270f,2712,2714,2716,271d,2721,2728,2733-2734,2744,2747,274c,274e,2753-2755,2757,2763-2764,2795-2797,27a1,27b0,27bf,2934-2935,2b05-2b07,2b1b-2b1c,2b50,2b55,3030,303d,3297,3299,1f004,1f0cf,1f170-1f171,1f17e-1f17f,1f18e,1f191-1f19a,1f1e6-1f1ff,1f201-1f202,1f21a,1f22f,1f232-1f23a,1f250-1f251,1f300-1f321,1f324-1f393,1f396-1f397,1f399-1f39b,1f39e-1f3f0,1f3f3-1f3f5,1f3f7-1f4fd,1f4ff-1f53d,1f549-1f54e,1f550-1f567,1f56f-1f570,1f573-1f57a,1f587,1f58a-1f58d,1f590,1f595-1f596,1f5a4-1f5a5,1f5a8,1f5b1-1f5b2,1f5bc,1f5c2-1f5c4,1f5d1-1f5d3,1f5dc-1f5de,1f5e1,1f5e3,1f5e8,1f5ef,1f5f3,1f5fa-1f64f,1f680-1f6c5,1f6cb-1f6d2,1f6d5-1f6d7,1f6dc-1f6e5,1f6e9,1f6eb-1f6ec,1f6f0,1f6f3-1f6fc,1f7e0-1f7eb,1f7f0,1f90c-1f93a,1f93c-1f945,1f947-1f9ff,1fa70-1fa7c,1fa80-1fa89,1fa8f-1fac6,1face-1fadc,1fadf-1fae9,1faf0-1faf8"),
  ("Emoji_Component", "23,2a,30-39,200d,20e3,fe0f,1f1e6-1f1ff,1f3fb-1f3ff,1f9b0-1f9b3,e0020-e007f"),
  ("Emoji_Modifier", "1f3fb-1f3ff"),
  ("Emoji_Modifier_Base", "261d,26f9,270a-270d,1f385,1f3c2-1f3c4,1f3c7,1f3ca-1f3cc,1f442-1f443,1f446-1f450,1f466-1f478,1f47c,1f481-1f483,1f485-1f487,1f48f,1f491,1f4aa,1f574-1f575,1f57a,1f590,1f595-1f596,1f645-1f647,1f64b-1f64f,1f6a3,1f6b4-1f6b6,1f6c0,1f6cc,1f90c,1f90f,1f918-1f91f,1f926,1f930-1f939,1f93c-1f93e,1f977,1f9b5-1f9b6,1f9b8-1f9b9,1f9bb,1f9cd-1f9cf,1f9d1-1f9dd,1fac3-1fac5,1faf0-1faf8"),
  ("Emoji_Presentation", "231a-231b,23e9-23ec,23f0,23f3,25fd-25fe,2614-2615,2648-2653,267f,2693,26a1,26aa-26ab,26bd-26be,26c4-26c5,26ce,26d4,26ea,26f2-26f3,26f5,26fa,26fd,2705,270a-270b,2728,274c,274e,2753-2755,2757,2795-2797,27b0,27bf,2b1b-2b1c,2b50,2b55,1f004,1f0cf,1f18e,1f191-1f19a,1f1e6-1f1ff,1f201,1f21a,1f22f,1f232-1f236,1f238-1f23a,1f250-1f251,1f300-1f320,1f32d-1f335,1f337-1f37c,1f37e-1f393,1f3a0-1f3ca,1f3cf-1f3d3,1f3e0-1f3f0,1f3f4,1f3f8-1f43e,1f440,1f442-1f4fc,1f4ff-1f53d,1f54b-1f54e,1f550-1f567,1f57a,1f595-1f596,1f5a4,1f5fb-1f64f,1f680-1f6c5,1f6cc,1f6d0-1f6d2,1f6d5-1f6d7,1f6dc-1f6df,1f6eb-1f6ec,1f6f4-1f6fc,1f7e0-1f7eb,1f7f0,1f90c-1f93a,1f93c-1f945,1f947-1f9ff,1fa70-1fa7c,1fa80-1fa89,1fa8f-1fac6,1face-1fadc,1fadf-1fae9,1faf0-1faf8"),
  ("Extended_Pictographic", "a9,ae,203c,2049,2122,2139,2194-2199,21a9-21aa,231a-231b,2328,2388,23cf,23e9-23f3,23f8-23fa,24c2,25aa-25ab,25b6,25c0,25fb-25fe,2600-2605,2607-2612,2614-2685,2690-2705,2708-2712,2714,2716,271d,2721,2728,2733-2734,2744,2747,274c,274e,2753-2755,2757,2763-2767,2795-2797,27a1,27b0,27bf,2934-2935,2b05-2b07,2b1b-2b1c,2b50,2b55,3030,303d,3297,3299,1f000-1f0ff,1f10d-1f10f,1f12f,1f16c-1f171,1f17e-1f17f,1f18e,1f191-1f19a,1f1ad-1f1e5,1f201-1f20f,1f21a,1f22f,1f232-1f23a,1f23c-1f23f,1f249-1f3fa,1f400-1f53d,1f546-1f64f,1f680-1f6ff,1f774-1f77f,1f7d5-1f7ff,1f80c-1f80f,1f848-1f84f,1f85a-1f85f,1f888-1f88f,1f8ae-1f8ff,1f90c-1f93a,1f93c-1f945,1f947-1faff,1fc00-1fffd"),
  ("Extender", "b7,2d0-2d1,640,7fa,a71,afb,b55,e46,ec6,180a,1843,1aa7,1c36,1c7b,3005,3031-3035,309d-309e,30fc-30fe,a015,a60c,a9cf,a9e6,aa70,aadd,aaf3-aaf4,ff70,10781-10782,10d4e,10d6a,10d6f,11237,1135d,113d2-113d3,115c6-115c8,11a98,16b42-16b43,16fe0-16fe1,16fe3,1e13c-1e13d,1e5ef,1e944-1e946"),
  ("Grapheme_Base", "20-7e,a0-ac,ae-2ff,370-377,37a-37f,384-38a,38c,38e-3a1,3a3-482,48a-52f,531-556,559-58a,58d-58f,5be,5c0,5c3,5c6,5d0-5ea,5ef-5f4,606-60f,61b,61d-64a,660-66f,671-6d5,6de,6e5-6e6,6e9,6ee-70d,710,712-72f,74d-7a5,7b1,7c0-7ea,7f4-7fa,7fe-815,81a,824,828,830-83e,840-858,85e,860-86a,870-88e,8a0-8c9,903-939,93b,93d-940,949-94c,94e-950,958-961,964-980,982-983,985-98c,98f-990,993-9a8,9aa-9b0,9b2,9b6-9b9,9bd,9bf-9c0,9c7-9c8,9cb-9cc,9ce,9dc-9dd,9df-9e1,9e6-9fd,a03,a05-a0a,a0f-a10,a13-a28,a2a-a30,a32-a33,a35-a36,a38-a39,a3e-a40,a59-a5c,a5e,a66-a6f,a72-a74,a76,a83,a85-a8d,a8f-a91,a93-aa8,aaa-ab0,ab2-ab3,ab5-ab9,abd-ac0,ac9,acb-acc,ad0,ae0-ae1,ae6-af1,af9,b02-b03,b05-b0c,b0f-b10,b13-b28,b2a-b30,b32-b33,b35-b39,b3d,b40,b47-b48,b4b-b4c,b5c-b5d,b5f-b61,b66-b77,b83,b85-b8a,b8e-b90,b92-b95,b99-b9a,b9c,b9e-b9f,ba3-ba4,ba8-baa,bae-bb9,bbf,bc1-bc2,bc6-bc8,bca-bcc,bd0,be6-bfa,c01-c03,c05-c0c,c0e-c10,c12-c28,c2a-c39,c3d,c41-c44,c58-c5a,c5d,c60-c61,c66-c6f,c77-c80,c82-c8c,c8e-c90,c92-ca8,caa-cb3,cb5-cb9,cbd-cbe,cc1,cc3-cc4,cdd-cde,ce0-ce1,ce6-cef,cf1-cf3,d02-d0c,d0e-d10,d12-d3a,d3d,d3f-d40,d46-d48,d4a-d4c,d4e-d4f,d54-d56,d58-d61,d66-d7f,d82-d83,d85-d96,d9a-db1,db3-dbb,dbd,dc0-dc6,dd0-dd1,dd8-dde,de6-def,df2-df4,e01-e30,e32-e33,e3f-e46,e4f-e5b,e81-e82,e84,e86-e8a,e8c-ea3,ea5,ea7-eb0,eb2-eb3,ebd,ec0-ec4,ec6,ed0-ed9,edc-edf,f00-f17,f1a-f34,f36,f38,f3a-f47,f49-f6c,f7f,f85,f88-f8c,fbe-fc5,fc7-fcc,fce-fda,1000-102c,1031,1038,103b-103c,103f-1057,105a-105d,1061-1070,1075-1081,1083-1084,1087-108c,108e-109c,109e-10c5,10c7,10cd,10d0-1248,124a-124d,1250-1256,1258,125a-125d,1260-1288,128a-128d,1290-12b0,12b2-12b5,12b8-12be,12c0,12c2-12c5,12c8-12d6,12d8-1310,1312-1315,1318-135a,1360-137c,1380-1399,13a0-13f5,13f8-13fd,1400-169c,16a0-16f8,1700-1711,171f-1731,1735-1736,1740-1751,1760-176c,176e-1770,1780-17b3,17b6,17be-17c5,17c7-17c8,17d4-17dc,17e0-17e9,17f0-17f9,1800-180a,1810-1819,1820-1878,1880-1884,1887-18a8,18aa,18b0-18f5,1900-191e,1923-1926,1929-192b,1930-1931,1933-1938,1940,1944-196d,1970-1974,1980-19ab,19b0-19c9,19d0-19da,19de-1a16,1a19-1a1a,1a1e-1a55,1a57,1a61,1a63-1a64,1a6d-1a72,1a80-1a89,1a90-1a99,1aa0-1aad,1b04-1b33,1b3e-1b41,1b45-1b4c,1b4e-1b6a,1b74-1b7f,1b82-1ba1,1ba6-1ba7,1bae-1be5,1be7,1bea-1bec,1bee,1bfc-1c2b,1c34-1c35,1c3b-1c49,1c4d-1c8a,1c90-1cba,1cbd-1cc7,1cd3,1ce1,1ce9-1cec,1cee-1cf3,1cf5-1cf7,1cfa,1d00-1dbf,1e00-1f15,1f18-1f1d,1f20-1f45,1f48-1f4d,1f50-1f57,1f59,1f5b,1f5d,1f5f-1f7d,1f80-1fb4,1fb6-1fc4,1fc6-1fd3,1fd6-1fdb,1fdd-1fef,1ff2-1ff4,1ff6-1ffe,2000-200a,2010-2027,202f-205f,2070-2071,2074-208e,2090-209c,20a0-20c0,2100-218b,2190-2429,2440-244a,2460-2b73,2b76-2b95,2b97-2cee,2cf2-2cf3,2cf9-2d25,2d27,2d2d,2d30-2d67,2d6f-2d70,2d80-2d96,2da0-2da6,2da8-2dae,2db0-2db6,2db8-2dbe,2dc0-2dc6,2dc8-2dce,2dd0-2dd6,2dd8-2dde,2e00-2e5d,2e80-2e99,2e9b-2ef3,2f00-2fd5,2ff0-3029,3030-303f,3041-3096,309b-30ff,3105-312f,3131-318e,3190-31e5,31ef-321e,3220-a48c,a490-a4c6,a4d0-a62b,a640-a66e,a673,a67e-a69d,a6a0-a6ef,a6f2-a6f7,a700-a7cd,a7d0-a7d1,a7d3,a7d5-a7dc,a7f2-a801,a803-a805,a807-a80a,a80c-a824,a827-a82b,a830-a839,a840-a877,a880-a8c3,a8ce-a8d9,a8f2-a8fe,a900-a925,a92e-a946,a952,a95f-a97c,a983-a9b2,a9b4-a9b5,a9ba-a9bb,a9be-a9bf,a9c1-a9cd,a9cf-a9d9,a9de-a9e4,a9e6-a9fe,aa00-aa28,aa2f-aa30,aa33-aa34,aa40-aa42,aa44-aa4b,aa4d,aa50-aa59,aa5c-aa7b,aa7d-aaaf,aab1,aab5-aab6,aab9-aabd,aac0,aac2,aadb-aaeb,aaee-aaf5,ab01-ab06,ab09-ab0e,ab11-ab16,ab20-ab26,ab28-ab2e,ab30-ab6b,ab70-abe4,abe6-abe7,abe9-abec,abf0-abf9,ac00-d7a3,d7b0-d7c6,d7cb-d7fb,f900-fa6d,fa70-fad9,fb00-fb06,fb13-fb17,fb1d,fb1f-fb36,fb38-fb3c,fb3e,fb40-fb41,fb43-fb44,fb46-fbc2,fbd3-fd8f,fd92-fdc7,fdcf,fdf0-fdff,fe10-fe19,fe30-fe52,fe54-fe66,fe68-fe6b,fe70-fe74,fe76-fefc,ff01-ff9d,ffa0-ffbe,ffc2-ffc7,ffca-ffcf,ffd2-ffd7,ffda-ffdc,ffe0-ffe6,ffe8-ffee,fffc-fffd,10000-1000b,1000d-10026,10028-1003a,1003c-1003d,1003f-1004d,10050-1005d,10080-100fa,10100-10102,10107-10133,10137-1018e,10190-1019c,101a0,101d0-101fc,10280-1029c,102a0-102d0,102e1-102fb,10300-10323,1032d-1034a,10350-10375,10380-1039d,1039f-103c3,103c8-103d5,10400-1049d,104a0-104a9,104b0-104d3,104d8-104fb,10500-10527,10530-10563,1056f-1057a,1057c-1058a,1058c-10592,10594-10595,10597-105a1,105a3-105b1,105b3-105b9,105bb-105bc,105c0-105f3,10600-10736,10740-10755,10760-10767,10780-10785,10787-107b0,107b2-107ba,10800-10805,10808,1080a-10835,10837-10838,1083c,1083f-10855,10857-1089e,108a7-108af,108e0-108f2,108f4-108f5,108fb-1091b,1091f-10939,1093f,10980-109b7,109bc-109cf,109d2-10a00,10a10-10a13,10a15-10a17,10a19-10a35,10a40-10a48,10a50-10a58,10a60-10a9f,10ac0-10ae4,10aeb-10af6,10b00-10b35,10b39-10b55,10b58-10b72,10b78-10b91,10b99-10b9c,10ba9-10baf,10c00-10c48,10c80-10cb2,10cc0-10cf2,10cfa-10d23,10d30-10d39,10d40-10d65,10d6e-10d85,10d8e-10d8f,10e60-10e7e,10e80-10ea9,10ead,10eb0-10eb1,10ec2-10ec4,10f00-10f27,10f30-10f45,10f51-10f59,10f70-10f81,10f86-10f89,10fb0-10fcb,10fe0-10ff6,11000,11002-11037,11047-1104d,11052-1106f,11071-11072,11075,11082-110b2,110b7-110b8,110bb-110bc,110be-110c1,110d0-110e8,110f0-110f9,11103-11126,1112c,11136-11147,11150-11172,11174-11176,11182-111b5,111bf,111c1-111c8,111cd-111ce,111d0-111df,111e1-111f4,11200-11211,11213-1122e,11232-11233,11238-1123d,1123f-11240,11280-11286,11288,1128a-1128d,1128f-1129d,1129f-112a9,112b0-112de,112e0-112e2,112f0-112f9,11302-11303,11305-1130c,1130f-11310,11313-11328,1132a-11330,11332-11333,11335-11339,1133d,1133f,11341-11344,11347-11348,1134b-1134c,11350,1135d-11363,11380-11389,1138b,1138e,11390-113b5,113b7,113b9-113ba,113ca,113cc-113cd,113d1,113d3-113d5,113d7-113d8,11400-11437,11440-11441,11445,11447-1145b,1145d,1145f-11461,11480-114af,114b1-114b2,114b9,114bb-114bc,114be,114c1,114c4-114c7,114d0-114d9,11580-115ae,115b0-115b1,115b8-115bb,115be,115c1-115db,11600-11632,1163b-1163c,1163e,11641-11644,11650-11659,11660-1166c,11680-116aa,116ac,116ae-116af,116b8-116b9,116c0-116c9,116d0-116e3,11700-1171a,1171e,11720-11721,11726,11730-11746,11800-1182e,11838,1183b,118a0-118f2,118ff-11906,11909,1190c-11913,11915-11916,11918-1192f,11931-11935,11937-11938,1193f-11942,11944-11946,11950-11959,119a0-119a7,119aa-119d3,119dc-119df,119e1-119e4,11a00,11a0b-11a32,11a39-11a3a,11a3f-11a46,11a50,11a57-11a58,11a5c-11a89,11a97,11a9a-11aa2,11ab0-11af8,11b00-11b09,11bc0-11be1,11bf0-11bf9,11c00-11c08,11c0a-11c2f,11c3e,11c40-11c45,11c50-11c6c,11c70-11c8f,11ca9,11cb1,11cb4,11d00-11d06,11d08-11d09,11d0b-11d30,11d46,11d50-11d59,11d60-11d65,11d67-11d68,11d6a-11d8e,11d93-11d94,11d96,11d98,11da0-11da9,11ee0-11ef2,11ef5-11ef8,11f02-11f10,11f12-11f35,11f3e-11f3f,11f43-11f59,11fb0,11fc0-11ff1,11fff-12399,12400-1246e,12470-12474,12480-12543,12f90-12ff2,13000-1342f,13441-13446,13460-143fa,14400-14646,16100-1611d,1612a-1612c,16130-16139,16800-16a38,16a40-16a5e,16a60-16a69,16a6e-16abe,16ac0-16ac9,16ad0-16aed,16af5,16b00-16b2f,16b37-16b45,16b50-16b59,16b5b-16b61,16b63-16b77,16b7d-16b8f,16d40-16d79,16e40-16e9a,16f00-16f4a,16f50-16f87,16f93-16f9f,16fe0-16fe3,17000-187f7,18800-18cd5,18cff-18d08,1aff0-1aff3,1aff5-1affb,1affd-1affe,1b000-1b122,1b132,1b150-1b152,1b155,1b164-1b167,1b170-1b2fb,1bc00-1bc6a,1bc70-1bc7c,1bc80-1bc88,1bc90-1bc99,1bc9c,1bc9f,1cc00-1ccf9,1cd00-1ceb3,1cf50-1cfc3,1d000-1d0f5,1d100-1d126,1d129-1d164,1d16a-1d16c,1d183-1d184,1d18c-1d1a9,1d1ae-1d1ea,1d200-1d241,1d245,1d2c0-1d2d3,1d2e0-1d2f3,1d300-1d356,1d360-1d378,1d400-1d454,1d456-1d49c,1d49e-1d49f,1d4a2,1d4a5-1d4a6,1d4a9-1d4ac,1d4ae-1d4b9,1d4bb,1d4bd-1d4c3,1d4c5-1d505,1d507-1d50a,1d50d-1d514,1d516-1d51c,1d51e-1d539,1d53b-1d53e,1d540-1d544,1d546,1d54a-1d550,1d552-1d6a5,1d6a8-1d7cb,1d7ce-1d9ff,1da37-1da3a,1da6d-1da74,1da76-1da83,1da85-1da8b,1df00-1df1e,1df25-1df2a,1e030-1e06d,1e100-1e12c,1e137-1e13d,1e140-1e149,1e14e-1e14f,1e290-1e2ad,1e2c0-1e2eb,1e2f0-1e2f9,1e2ff,1e4d0-1e4eb,1e4f0-1e4f9,1e5d0-1e5ed,1e5f0-1e5fa,1e5ff,1e7e0-1e7e6,1e7e8-1e7eb,1e7ed-1e7ee,1e7f0-1e7fe,1e800-1e8c4,1e8c7-1e8cf,1e900-1e943,1e94b,1e950-1e959,1e95e-1e95f,1ec71-1ecb4,1ed01-1ed3d,1ee00-1ee03,1ee05-1ee1f,1ee21-1ee22,1ee24,1ee27,1ee29-1ee32,1ee34-1ee37,1ee39,1ee3b,1ee42,1ee47,1ee49,1ee4b,1ee4d-1ee4f,1ee51-1ee52,1ee54,1ee57,1ee59,1ee5b,1ee5d,1ee5f,1ee61-1ee62,1ee64,1ee67-1ee6a,1ee6c-1ee72,1ee74-1ee77,1ee79-1ee7c,1ee7e,1ee80-1ee89,1ee8b-1ee9b,1eea1-1eea3,1eea5-1eea9,1eeab-1eebb,1eef0-1eef1,1f000-1f02b,1f030-1f093,1f0a0-1f0ae,1f0b1-1f0bf,1f0c1-1f0cf,1f0d1-1f0f5,1f100-1f1ad,1f1e6-1f202,1f210-1f23b,1f240-1f248,1f250-1f251,1f260-1f265,1f300-1f6d7,1f6dc-1f6ec,1f6f0-1f6fc,1f700-1f776,1f77b-1f7d9,1f7e0-1f7eb,1f7f0,1f800-1f80b,1f810-1f847,1f850-1f859,1f860-1f887,1f890-1f8ad,1f8b0-1f8bb,1f8c0-1f8c1,1f900-1fa53,1fa60-1fa6d,1fa70-1fa7c,1fa80-1fa89,1fa8f-1fac6,1face-1fadc,1fadf-1fae9,1faf0-1faf8,1fb00-1fb92,1fb94-1fbf9,20000-2a6df,2a700-2b739,2b740-2b81d,2b820-2cea1,2ceb0-2ebe0,2ebf0-2ee5d,2f800-2fa1d,30000-3134a,31350-323af"),
  ("Grapheme_Extend", "300-36f,483-489,591-5bd,5bf,5c1-5c2,5c4-5c5,5c7,610-61a,64b-65f,670,6d6-6dc,6df-6e4,6e7-6e8,6ea-6ed,711,730-74a,7a6-7b0,7eb-7f3,7fd,816-819,81b-823,825-827,829-82d,859-85b,897-89f,8ca-8e1,8e3-902,93a,93c,941-948,94d,951-957,962-963,981,9bc,9be,9c1-9c4,9cd,9d7,9e2-9e3,9fe,a01-a02,a3c,a41-a42,a47-a48,a4b-a4d,a51,a70-a71,a75,a81-a82,abc,ac1-ac5,ac7-ac8,acd,ae2-ae3,afa-aff,b01,b3c,b3e-b3f,b41-b44,b4d,b55-b57,b62-b63,b82,bbe,bc0,bcd,bd7,c00,c04,c3c,c3e-c40,c46-c48,c4a-c4d,c55-c56,c62-c63,c81,cbc,cbf-cc0,cc2,cc6-cc8,cca-ccd,cd5-cd6,ce2-ce3,d00-d01,d3b-d3c,d3e,d41-d44,d4d,d57,d62-d63,d81,dca,dcf,dd2-dd4,dd6,ddf,e31,e34-e3a,e47-e4e,eb1,eb4-ebc,ec8-ece,f18-f19,f35,f37,f39,f71-f7e,f80-f84,f86-f87,f8d-f97,f99-fbc,fc6,102d-1030,1032-1037,1039-103a,103d-103e,1058-1059,105e-1060,1071-1074,1082,1085-1086,108d,109d,135d-135f,1712-1715,1732-1734,1752-1753,1772-1773,17b4-17b5,17b7-17bd,17c6,17c9-17d3,17dd,180b-180d,180f,1885-1886,18a9,1920-1922,1927-1928,1932,1939-193b,1a17-1a18,1a1b,1a56,1a58-1a5e,1a60,1a62,1a65-1a6c,1a73-1a7c,1a7f,1ab0-1ace,1b00-1b03,1b34-1b3d,1b42-1b44,1b6b-1b73,1b80-1b81,1ba2-1ba5,1ba8-1bad,1be6,1be8-1be9,1bed,1bef-1bf3,1c2c-1c33,1c36-1c37,1cd0-1cd2,1cd4-1ce0,1ce2-1ce8,1ced,1cf4,1cf8-1cf9,1dc0-1dff,200c,20d0-20f0,2cef-2cf1,2d7f,2de0-2dff,302a-302f,3099-309a,a66f-a672,a674-a67d,a69e-a69f,a6f0-a6f1,a802,a806,a80b,a825-a826,a82c,a8c4-a8c5,a8e0-a8f1,a8ff,a926-a92d,a947-a951,a953,a980-a982,a9b3,a9b6-a9b9,a9bc-a9bd,a9c0,a9e5,aa29-aa2e,aa31-aa32,aa35-aa36,aa43,aa4c,aa7c,aab0,aab2-aab4,aab7-aab8,aabe-aabf,aac1,aaec-aaed,aaf6,abe5,abe8,abed,fb1e,fe00-fe0f,fe20-fe2f,ff9e-ff9f,101fd,102e0,10376-1037a,10a01-10a03,10a05-10a06,10a0c-10a0f,10a38-10a3a,10a3f,10ae5-10ae6,10d24-10d27,10d69-10d6d,10eab-10eac,10efc-10eff,10f46-10f50,10f82-10f85,11001,11038-11046,11070,11073-11074,1107f-11081,110b3-110b6,110b9-110ba,110c2,11100-11102,11127-1112b,1112d-11134,11173,11180-11181,111b6-111be,111c0,111c9-111cc,111cf,1122f-11231,11234-11237,1123e,11241,112df,112e3-112ea,11300-11301,1133b-1133c,1133e,11340,1134d,11357,11366-1136c,11370-11374,113b8,113bb-113c0,113c2,113c5,113c7-113c9,113ce-113d0,113d2,113e1-113e2,11438-1143f,11442-11444,11446,1145e,114b0,114b3-114b8,114ba,114bd,114bf-114c0,114c2-114c3,115af,115b2-115b5,115bc-115bd,115bf-115c0,115dc-115dd,11633-1163a,1163d,1163f-11640,116ab,116ad,116b0-116b7,1171d,1171f,11722-11725,11727-1172b,1182f-11837,11839-1183a,11930,1193b-1193e,11943,119d4-119d7,119da-119db,119e0,11a01-11a0a,11a33-11a38,11a3b-11a3e,11a47,11a51-11a56,11a59-11a5b,11a8a-11a96,11a98-11a99,11c30-11c36,11c38-11c3d,11c3f,11c92-11ca7,11caa-11cb0,11cb2-11cb3,11cb5-11cb6,11d31-11d36,11d3a,11d3c-11d3d,11d3f-11d45,11d47,11d90-11d91,11d95,11d97,11ef3-11ef4,11f00-11f01,11f36-11f3a,11f40-11f42,11f5a,13440,13447-13455,1611e-16129,1612d-1612f,16af0-16af4,16b30-16b36,16f4f,16f8f-16f92,16fe4,16ff0-16ff1,1bc9d-1bc9e,1cf00-1cf2d,1cf30-1cf46,1d165-1d169,1d16d-1d172,1d17b-1d182,1d185-1d18b,1d1aa-1d1ad,1d242-1d244,1da00-1da36,1da3b-1da6c,1da75,1da84,1da9b-1da9f,1daa1-1daaf,1e000-1e006,1e008-1e018,1e01b-1e021,1e023-1e024,1e026-1e02a,1e08f,1e130-1e136,1e2ae,1e2ec-1e2ef,1e4ec-1e4ef,1e5ee-1e5ef,1e8d0-1e8d6,1e944-1e94a,e0020-e007f,e0100-e01ef"),
  ("Grapheme_Link", "94d,9cd,a4d,acd,b4d,bcd,c4d,ccd,d3b-d3c,d4d,dca,e3a,eba,f84,1039-103a,1714-1715,1734,17d2,1a60,1b44,1baa-1bab,1bf2-1bf3,2d7f,a806,a82c,a8c4,a953,a9c0,aaf6,abed,10a3f,11046,11070,1107f,110b9,11133-11134,111c0,11235,112ea,1134d,113ce-113d0,11442,114c2,115bf,1163f,116b6,1172b,11839,1193d-1193e,119e0,11a34,11a47,11a99,11c3f,11d44-11d45,11d97,11f41-11f42,1612f"),
  ("Hex_Digit", "30-39,41-46,61-66,ff10-ff19,ff21-ff26,ff41-ff46"),
  ("Hyphen", "2d,ad,58a,1806,2010-2011,2e17,30fb,fe63,ff0d,ff65"),
  ("IDS_Binary_Operator", "2ff0-2ff1,2ff4-2ffd,31ef"),
  ("IDS_Trinary_Operator", "2ff2-2ff3"),
  ("IDS_Unary_Operator", "2ffe-2fff"),
  ("ID_Compat_Math_Continue", "b2-b3,b9,2070,2074-207e,2080-208e,2202,2207,221e,1d6c1,1d6db,1d6fb,1d715,1d735,1d74f,1d76f,1d789,1d7a9,1d7c3"),
  ("ID_Compat_Math_Start", "2202,2207,221e,1d6c1,1d6db,1d6fb,1d715,1d735,1d74f,1d76f,1d789,1d7a9,1d7c3"),
  ("ID_Continue", "30-39,41-5a,5f,61-7a,aa,b5,b7,ba,c0-d6,d8-f6,f8-2c1,2c6-2d1,2e0-2e4,2ec,2ee,300-374,376-377,37a-37d,37f,386-38a,38c,38e-3a1,3a3-3f5,3f7-481,483-487,48a-52f,531-556,559,560-588,591-5bd,5bf,5c1-5c2,5c4-5c5,5c7,5d0-5ea,5ef-5f2,610-61a,620-669,66e-6d3,6d5-6dc,6df-6e8,6ea-6fc,6ff,710-74a,74d-7b1,7c0-7f5,7fa,7fd,800-82d,840-85b,860-86a,870-887,889-88e,897-8e1,8e3-963,966-96f,971-983,985-98c,98f-990,993-9a8,9aa-9b0,9b2,9b6-9b9,9bc-9c4,9c7-9c8,9cb-9ce,9d7,9dc-9dd,9df-9e3,9e6-9f1,9fc,9fe,a01-a03,a05-a0a,a0f-a10,a13-a28,a2a-a30,a32-a33,a35-a36,a38-a39,a3c,a3e-a42,a47-a48,a4b-a4d,a51,a59-a5c,a5e,a66-a75,a81-a83,a85-a8d,a8f-a91,a93-aa8,aaa-ab0,ab2-ab3,ab5-ab9,abc-ac5,ac7-ac9,acb-acd,ad0,ae0-ae3,ae6-aef,af9-aff,b01-b03,b05-b0c,b0f-b10,b13-b28,b2a-b30,b32-b33,b35-b39,b3c-b44,b47-b48,b4b-b4d,b55-b57,b5c-b5d,b5f-b63,b66-b6f,b71,b82-b83,b85-b8a,b8e-b90,b92-b95,b99-b9a,b9c,b9e-b9f,ba3-ba4,ba8-baa,bae-bb9,bbe-bc2,bc6-bc8,bca-bcd,bd0,bd7,be6-bef,c00-c0c,c0e-c10,c12-c28,c2a-c39,c3c-c44,c46-c48,c4a-c4d,c55-c56,c58-c5a,c5d,c60-c63,c66-c6f,c80-c83,c85-c8c,c8e-c90,c92-ca8,caa-cb3,cb5-cb9,cbc-cc4,cc6-cc8,cca-ccd,cd5-cd6,cdd-cde,ce0-ce3,ce6-cef,cf1-cf3,d00-d0c,d0e-d10,d12-d44,d46-d48,d4a-d4e,d54-d57,d5f-d63,d66-d6f,d7a-d7f,d81-d83,d85-d96,d9a-db1,db3-dbb,dbd,dc0-dc6,dca,dcf-dd4,dd6,dd8-ddf,de6-def,df2-df3,e01-e3a,e40-e4e,e50-e59,e81-e82,e84,e86-e8a,e8c-ea3,ea5,ea7-ebd,ec0-ec4,ec6,ec8-ece,ed0-ed9,edc-edf,f00,f18-f19,f20-f29,f35,f37,f39,f3e-f47,f49-f6c,f71-f84,f86-f97,f99-fbc,fc6,1000-1049,1050-109d,10a0-10c5,10c7,10cd,10d0-10fa,10fc-1248,124a-124d,1250-1256,1258,125a-125d,1260-1288,128a-128d,1290-12b0,12b2-12b5,12b8-12be,12c0,12c2-12c5,12c8-12d6,12d8-1310,1312-1315,1318-135a,135d-135f,1369-1371,1380-138f,13a0-13f5,13f8-13fd,1401-166c,166f-167f,1681-169a,16a0-16ea,16ee-16f8,1700-1715,171f-1734,1740-1753,1760-176c,176e-1770,1772-1773,1780-17d3,17d7,17dc-17dd,17e0-17e9,180b-180d,180f-1819,1820-1878,1880-18aa,18b0-18f5,1900-191e,1920-192b,1930-193b,1946-196d,1970-1974,1980-19ab,19b0-19c9,19d0-19da,1a00-1a1b,1a20-1a5e,1a60-1a7c,1a7f-1a89,1a90-1a99,1aa7,1ab0-1abd,1abf-1ace,1b00-1b4c,1b50-1b59,1b6b-1b73,1b80-1bf3,1c00-1c37,1c40-1c49,1c4d-1c7d,1c80-1c8a,1c90-1cba,1cbd-1cbf,1cd0-1cd2,1cd4-1cfa,1d00-1f15,1f18-1f1d,1f20-1f45,1f48-1f4d,1f50-1f57,1f59,1f5b,1f5d,1f5f-1f7d,1f80-1fb4,1fb6-1fbc,1fbe,1fc2-1fc4,1fc6-1fcc,1fd0-1fd3,1fd6-1fdb,1fe0-1fec,1ff2-1ff4,1ff6-1ffc,200c-200d,203f-2040,2054,2071,207f,2090-209c,20d0-20dc,20e1,20e5-20f0,2102,2107,210a-2113,2115,2118-211d,2124,2126,2128,212a-2139,213c-213f,2145-2149,214e,2160-2188,2c00-2ce4,2ceb-2cf3,2d00-2d25,2d27,2d2d,2d30-2d67,2d6f,2d7f-2d96,2da0-2da6,2da8-2dae,2db0-2db6,2db8-2dbe,2dc0-2dc6,2dc8-2dce,2dd0-2dd6,2dd8-2dde,2de0-2dff,3005-3007,3021-302f,3031-3035,3038-303c,3041-3096,3099-309f,30a1-30ff,3105-312f,3131-318e,31a0-31bf,31f0-31ff,3400-4dbf,4e00-a48c,a4d0-a4fd,a500-a60c,a610-a62b,a640-a66f,a674-a67d,a67f-a6f1,a717-a71f,a722-a788,a78b-a7cd,a7d0-a7d1,a7d3,a7d5-a7dc,a7f2-a827,a82c,a840-a873,a880-a8c5,a8d0-a8d9,a8e0-a8f7,a8fb,a8fd-a92d,a930-a953,a960-a97c,a980-a9c0,a9cf-a9d9,a9e0-a9fe,aa00-aa36,aa40-aa4d,aa50-aa59,aa60-aa76,aa7a-aac2,aadb-aadd,aae0-aaef,aaf2-aaf6,ab01-ab06,ab09-ab0e,ab11-ab16,ab20-ab26,ab28-ab2e,ab30-ab5a,ab5c-ab69,ab70-abea,abec-abed,abf0-abf9,ac00-d7a3,d7b0-d7c6,d7cb-d7fb,f900-fa6d,fa70-fad9,fb00-fb06,fb13-fb17,fb1d-fb28,fb2a-fb36,fb38-fb3c,fb3e,fb40-fb41,fb43-fb44,fb46-fbb1,fbd3-fd3d,fd50-fd8f,fd92-fdc7,fdf0-fdfb,fe00-fe0f,fe20-fe2f,fe33-fe34,fe4d-fe4f,fe70-fe74,fe76-fefc,ff10-ff19,ff21-ff3a,ff3f,ff41-ff5a,ff65-ffbe,ffc2-ffc7,ffca-ffcf,ffd2-ffd7,ffda-ffdc,10000-1000b,1000d-10026,10028-1003a,1003c-1003d,1003f-1004d,10050-1005d,10080-100fa,10140-10174,101fd,10280-1029c,102a0-102d0,102e0,10300-1031f,1032d-1034a,10350-1037a,10380-1039d,103a0-103c3,103c8-103cf,103d1-103d5,10400-1049d,104a0-104a9,104b0-104d3,104d8-104fb,10500-10527,10530-10563,10570-1057a,1057c-1058a,1058c-10592,10594-10595,10597-105a1,105a3-105b1,105b3-105b9,105bb-105bc,105c0-105f3,10600-10736,10740-10755,10760-10767,10780-10785,10787-107b0,107b2-107ba,10800-10805,10808,1080a-10835,10837-10838,1083c,1083f-10855,10860-10876,10880-1089e,108e0-108f2,108f4-108f5,10900-10915,10920-10939,10980-109b7,109be-109bf,10a00-10a03,10a05-10a06,10a0c-10a13,10a15-10a17,10a19-10a35,10a38-10a3a,10a3f,10a60-10a7c,10a80-10a9c,10ac0-10ac7,10ac9-10ae6,10b00-10b35,10b40-10b55,10b60-10b72,10b80-10b91,10c00-10c48,10c80-10cb2,10cc0-10cf2,10d00-10d27,10d30-10d39,10d40-10d65,10d69-10d6d,10d6f-10d85,10e80-10ea9,10eab-10eac,10eb0-10eb1,10ec2-10ec4,10efc-10f1c,10f27,10f30-10f50,10f70-10f85,10fb0-10fc4,10fe0-10ff6,11000-11046,11066-11075,1107f-110ba,110c2,110d0-110e8,110f0-110f9,11100-11134,11136-1113f,11144-11147,11150-11173,11176,11180-111c4,111c9-111cc,111ce-111da,111dc,11200-11211,11213-11237,1123e-11241,11280-11286,11288,1128a-1128d,1128f-1129d,1129f-112a8,112b0-112ea,112f0-112f9,11300-11303,11305-1130c,1130f-11310,11313-11328,1132a-11330,11332-11333,11335-11339,1133b-11344,11347-11348,1134b-1134d,11350,11357,1135d-11363,11366-1136c,11370-11374,11380-11389,1138b,1138e,11390-113b5,113b7-113c0,113c2,113c5,113c7-113ca,113cc-113d3,113e1-113e2,11400-1144a,11450-11459,1145e-11461,11480-114c5,114c7,114d0-114d9,11580-115b5,115b8-115c0,115d8-115dd,11600-11640,11644,11650-11659,11680-116b8,116c0-116c9,116d0-116e3,11700-1171a,1171d-1172b,11730-11739,11740-11746,11800-1183a,118a0-118e9,118ff-11906,11909,1190c-11913,11915-11916,11918-11935,11937-11938,1193b-11943,11950-11959,119a0-119a7,119aa-119d7,119da-119e1,119e3-119e4,11a00-11a3e,11a47,11a50-11a99,11a9d,11ab0-11af8,11bc0-11be0,11bf0-11bf9,11c00-11c08,11c0a-11c36,11c38-11c40,11c50-11c59,11c72-11c8f,11c92-11ca7,11ca9-11cb6,11d00-11d06,11d08-11d09,11d0b-11d36,11d3a,11d3c-11d3d,11d3f-11d47,11d50-11d59,11d60-11d65,11d67-11d68,11d6a-11d8e,11d90-11d91,11d93-11d98,11da0-11da9,11ee0-11ef6,11f00-11f10,11f12-11f3a,11f3e-11f42,11f50-11f5a,11fb0,12000-12399,12400-1246e,12480-12543,12f90-12ff0,13000-1342f,13440-13455,13460-143fa,14400-14646,16100-16139,16800-16a38,16a40-16a5e,16a60-16a69,16a70-16abe,16ac0-16ac9,16ad0-16aed,16af0-16af4,16b00-16b36,16b40-16b43,16b50-16b59,16b63-16b77,16b7d-16b8f,16d40-16d6c,16d70-16d79,16e40-16e7f,16f00-16f4a,16f4f-16f87,16f8f-16f9f,16fe0-16fe1,16fe3-16fe4,16ff0-16ff1,17000-187f7,18800-18cd5,18cff-18d08,1aff0-1aff3,1aff5-1affb,1affd-1affe,1b000-1b122,1b132,1b150-1b152,1b155,1b164-1b167,1b170-1b2fb,1bc00-1bc6a,1bc70-1bc7c,1bc80-1bc88,1bc90-1bc99,1bc9d-1bc9e,1ccf0-1ccf9,1cf00-1cf2d,1cf30-1cf46,1d165-1d169,1d16d-1d172,1d17b-1d182,1d185-1d18b,1d1aa-1d1ad,1d242-1d244,1d400-1d454,1d456-1d49c,1d49e-1d49f,1d4a2,1d4a5-1d4a6,1d4a9-1d4ac,1d4ae-1d4b9,1d4bb,1d4bd-1d4c3,1d4c5-1d505,1d507-1d50a,1d50d-1d514,1d516-1d51c,1d51e-1d539,1d53b-1d53e,1d540-1d544,1d546,1d54a-1d550,1d552-1d6a5,1d6a8-1d6c0,1d6c2-1d6da,1d6dc-1d6fa,1d6fc-1d714,1d716-1d734,1d736-1d74e,1d750-1d76e,1d770-1d788,1d78a-1d7a8,1d7aa-1d7c2,1d7c4-1d7cb,1d7ce-1d7ff,1da00-1da36,1da3b-1da6c,1da75,1da84,1da9b-1da9f,1daa1-1daaf,1df00-1df1e,1df25-1df2a,1e000-1e006,1e008-1e018,1e01b-1e021,1e023-1e024,1e026-1e02a,1e030-1e06d,1e08f,1e100-1e12c,1e130-1e13d,1e140-1e149,1e14e,1e290-1e2ae,1e2c0-1e2f9,1e4d0-1e4f9,1e5d0-1e5fa,1e7e0-1e7e6,1e7e8-1e7eb,1e7ed-1e7ee,1e7f0-1e7fe,1e800-1e8c4,1e8d0-1e8d6,1e900-1e94b,1e950-1e959,1ee00-1ee03,1ee05-1ee1f,1ee21-1ee22,1ee24,1ee27,1ee29-1ee32,1ee34-1ee37,1ee39,1ee3b,1ee42,1ee47,1ee49,1ee4b,1ee4d-1ee4f,1ee51-1ee52,1ee54,1ee57,1ee59,1ee5b,1ee5d,1ee5f,1ee61-1ee62,1ee64,1ee67-1ee6a,1ee6c-1ee72,1ee74-1ee77,1ee79-1ee7c,1ee7e,1ee80-1ee89,1ee8b-1ee9b,1eea1-1eea3,1eea5-1eea9,1eeab-1eebb,1fbf0-1fbf9,20000-2a6df,2a700-2b739,2b740-2b81d,2b820-2cea1,2ceb0-2ebe0,2ebf0-2ee5d,2f800-2fa1d,30000-3134a,31350-323af,e0100-e01ef"),
  ("ID_Start", "41-5a,61-7a,aa,b5,ba,c0-d6,d8-f6,f8-2c1,2c6-2d1,2e0-2e4,2ec,2ee,370-374,376-377,37a-37d,37f,386,388-38a,38c,38e-3a1,3a3-3f5,3f7-481,48a-52f,531-556,559,560-588,5d0-5ea,5ef-5f2,620-64a,66e-66f,671-6d3,6d5,6e5-6e6,6ee-6ef,6fa-6fc,6ff,710,712-72f,74d-7a5,7b1,7ca-7ea,7f4-7f5,7fa,800-815,81a,824,828,840-858,860-86a,870-887,889-88e,8a0-8c9,904-939,93d,950,958-961,971-980,985-98c,98f-990,993-9a8,9aa-9b0,9b2,9b6-9b9,9bd,9ce,9dc-9dd,9df-9e1,9f0-9f1,9fc,a05-a0a,a0f-a10,a13-a28,a2a-a30,a32-a33,a35-a36,a38-a39,a59-a5c,a5e,a72-a74,a85-a8d,a8f-a91,a93-aa8,aaa-ab0,ab2-ab3,ab5-ab9,abd,ad0,ae0-ae1,af9,b05-b0c,b0f-b10,b13-b28,b2a-b30,b32-b33,b35-b39,b3d,b5c-b5d,b5f-b61,b71,b83,b85-b8a,b8e-b90,b92-b95,b99-b9a,b9c,b9e-b9f,ba3-ba4,ba8-baa,bae-bb9,bd0,c05-c0c,c0e-c10,c12-c28,c2a-c39,c3d,c58-c5a,c5d,c60-c61,c80,c85-c8c,c8e-c90,c92-ca8,caa-cb3,cb5-cb9,cbd,cdd-cde,ce0-ce1,cf1-cf2,d04-d0c,d0e-d10,d12-d3a,d3d,d4e,d54-d56,d5f-d61,d7a-d7f,d85-d96,d9a-db1,db3-dbb,dbd,dc0-dc6,e01-e30,e32-e33,e40-e46,e81-e82,e84,e86-e8a,e8c-ea3,ea5,ea7-eb0,eb2-eb3,ebd,ec0-ec4,ec6,edc-edf,f00,f40-f47,f49-f6c,f88-f8c,1000-102a,103f,1050-1055,105a-105d,1061,1065-1066,106e-1070,1075-1081,108e,10a0-10c5,10c7,10cd,10d0-10fa,10fc-1248,124a-124d,1250-1256,1258,125a-125d,1260-1288,128a-128d,1290-12b0,12b2-12b5,12b8-12be,12c0,12c2-12c5,12c8-12d6,12d8-1310,1312-1315,1318-135a,1380-138f,13a0-13f5,13f8-13fd,1401-166c,166f-167f,1681-169a,16a0-16ea,16ee-16f8,1700-1711,171f-1731,1740-1751,1760-176c,176e-1770,1780-17b3,17d7,17dc,1820-1878,1880-18a8,18aa,18b0-18f5,1900-191e,1950-196d,1970-1974,1980-19ab,19b0-19c9,1a00-1a16,1a20-1a54,1aa7,1b05-1b33,1b45-1b4c,1b83-1ba0,1bae-1baf,1bba-1be5,1c00-1c23,1c4d-1c4f,1c5a-1c7d,1c80-1c8a,1c90-1cba,1cbd-1cbf,1ce9-1cec,1cee-1cf3,1cf5-1cf6,1cfa,1d00-1dbf,1e00-1f15,1f18-1f1d,1f20-1f45,1f48-1f4d,1f50-1f57,1f59,1f5b,1f5d,1f5f-1f7d,1f80-1fb4,1fb6-1fbc,1fbe,1fc2-1fc4,1fc6-1fcc,1fd0-1fd3,1fd6-1fdb,1fe0-1fec,1ff2-1ff4,1ff6-1ffc,2071,207f,2090-209c,2102,2107,210a-2113,2115,2118-211d,2124,2126,2128,212a-2139,213c-213f,2145-2149,214e,2160-2188,2c00-2ce4,2ceb-2cee,2cf2-2cf3,2d00-2d25,2d27,2d2d,2d30-2d67,2d6f,2d80-2d96,2da0-2da6,2da8-2dae,2db0-2db6,2db8-2dbe,2dc0-2dc6,2dc8-2dce,2dd0-2dd6,2dd8-2dde,3005-3007,3021-3029,3031-3035,3038-303c,3041-3096,309b-309f,30a1-30fa,30fc-30ff,3105-312f,3131-318e,31a0-31bf,31f0-31ff,3400-4dbf,4e00-a48c,a4d0-a4fd,a500-a60c,a610-a61f,a62a-a62b,a640-a66e,a67f-a69d,a6a0-a6ef,a717-a71f,a722-a788,a78b-a7cd,a7d0-a7d1,a7d3,a7d5-a7dc,a7f2-a801,a803-a805,a807-a80a,a80c-a822,a840-a873,a882-a8b3,a8f2-a8f7,a8fb,a8fd-a8fe,a90a-a925,a930-a946,a960-a97c,a984-a9b2,a9cf,a9e0-a9e4,a9e6-a9ef,a9fa-a9fe,aa00-aa28,aa40-aa42,aa44-aa4b,aa60-aa76,aa7a,aa7e-aaaf,aab1,aab5-aab6,aab9-aabd,aac0,aac2,aadb-aadd,aae0-aaea,aaf2-aaf4,ab01-ab06,ab09-ab0e,ab11-ab16,ab20-ab26,ab28-ab2e,ab30-ab5a,ab5c-ab69,ab70-abe2,ac00-d7a3,d7b0-d7c6,d7cb-d7fb,f900-fa6d,fa70-fad9,fb00-fb06,fb13-fb17,fb1d,fb1f-fb28,fb2a-fb36,fb38-fb3c,fb3e,fb40-fb41,fb43-fb44,fb46-fbb1,fbd3-fd3d,fd50-fd8f,fd92-fdc7,fdf0-fdfb,fe70-fe74,fe76-fefc,ff21-ff3a,ff41-ff5a,ff66-ffbe,ffc2-ffc7,ffca-ffcf,ffd2-ffd7,ffda-ffdc,10000-1000b,1000d-10026,10028-1003a,1003c-1003d,1003f-1004d,10050-1005d,10080-100fa,10140-10174,10280-1029c,102a0-102d0,10300-1031f,1032d-1034a,10350-10375,10380-1039d,103a0-103c3,103c8-103cf,103d1-103d5,10400-1049d,104b0-104d3,104d8-104fb,10500-10527,10530-10563,10570-1057a,1057c-1058a,1058c-10592,10594-10595,10597-105a1,105a3-105b1,105b3-105b9,105bb-105bc,105c0-105f3,10600-10736,10740-10755,10760-10767,10780-10785,10787-107b0,107b2-107ba,10800-10805,10808,1080a-10835,10837-10838,1083c,1083f-10855,10860-10876,10880-1089e,108e0-108f2,108f4-108f5,10900-10915,10920-10939,10980-109b7,109be-109bf,10a00,10a10-10a13,10a15-10a17,10a19-10a35,10a60-10a7c,10a80-10a9c,10ac0-10ac7,10ac9-10ae4,10b00-10b35,10b40-10b55,10b60-10b72,10b80-10b91,10c00-10c48,10c80-10cb2,10cc0-10cf2,10d00-10d23,10d4a-10d65,10d6f-10d85,10e80-10ea9,10eb0-10eb1,10ec2-10ec4,10f00-10f1c,10f27,10f30-10f45,10f70-10f81,10fb0-10fc4,10fe0-10ff6,11003-11037,11071-11072,11075,11083-110af,110d0-110e8,11103-11126,11144,11147,11150-11172,11176,11183-111b2,111c1-111c4,111da,111dc,11200-11211,11213-1122b,1123f-11240,11280-11286,11288,1128a-1128d,1128f-1129d,1129f-112a8,112b0-112de,11305-1130c,1130f-11310,11313-11328,1132a-11330,11332-11333,11335-11339,1133d,11350,1135d-11361,11380-11389,1138b,1138e,11390-113b5,113b7,113d1,113d3,11400-11434,11447-1144a,1145f-11461,11480-114af,114c4-114c5,114c7,11580-115ae,115d8-115db,11600-1162f,11644,11680-116aa,116b8,11700-1171a,11740-11746,11800-1182b,118a0-118df,118ff-11906,11909,1190c-11913,11915-11916,11918-1192f,1193f,11941,119a0-119a7,119aa-119d0,119e1,119e3,11a00,11a0b-11a32,11a3a,11a50,11a5c-11a89,11a9d,11ab0-11af8,11bc0-11be0,11c00-11c08,11c0a-11c2e,11c40,11c72-11c8f,11d00-11d06,11d08-11d09,11d0b-11d30,11d46,11d60-11d65,11d67-11d68,11d6a-11d89,11d98,11ee0-11ef2,11f02,11f04-11f10,11f12-11f33,11fb0,12000-12399,12400-1246e,12480-12543,12f90-12ff0,13000-1342f,13441-13446,13460-143fa,14400-14646,16100-1611d,16800-16a38,16a40-16a5e,16a70-16abe,16ad0-16aed,16b00-16b2f,16b40-16b43,16b63-16b77,16b7d-16b8f,16d40-16d6c,16e40-16e7f,16f00-16f4a,16f50,16f93-16f9f,16fe0-16fe1,16fe3,17000-187f7,18800-18cd5,18cff-18d08,1aff0-1aff3,1aff5-1affb,1affd-1affe,1b000-1b122,1b132,1b150-1b152,1b155,1b164-1b167,1b170-1b2fb,1bc00-1bc6a,1bc70-1bc7c,1bc80-1bc88,1bc90-1bc99,1d400-1d454,1d456-1d49c,1d49e-1d49f,1d4a2,1d4a5-1d4a6,1d4a9-1d4ac,1d4ae-1d4b9,1d4bb,1d4bd-1d4c3,1d4c5-1d505,1d507-1d50a,1d50d-1d514,1d516-1d51c,1d51e-1d539,1d53b-1d53e,1d540-1d544,1d546,1d54a-1d550,1d552-1d6a5,1d6a8-1d6c0,1d6c2-1d6da,1d6dc-1d6fa,1d6fc-1d714,1d716-1d734,1d736-1d74e,1d750-1d76e,1d770-1d788,1d78a-1d7a8,1d7aa-1d7c2,1d7c4-1d7cb,1df00-1df1e,1df25-1df2a,1e030-1e06d,1e100-1e12c,1e137-1e13d,1e14e,1e290-1e2ad,1e2c0-1e2eb,1e4d0-1e4eb,1e5d0-1e5ed,1e5f0,1e7e0-1e7e6,1e7e8-1e7eb,1e7ed-1e7ee,1e7f0-1e7fe,1e800-1e8c4,1e900-1e943,1e94b,1ee00-1ee03,1ee05-1ee1f,1ee21-1ee22,1ee24,1ee27,1ee29-1ee32,1ee34-1ee37,1ee39,1ee3b,1ee42,1ee47,1ee49,1ee4b,1ee4d-1ee4f,1ee51-1ee52,1ee54,1ee57,1ee59,1ee5b,1ee5d,1ee5f,1ee61-1ee62,1ee64,1ee67-1ee6a,1ee6c-1ee72,1ee74-1ee77,1ee79-1ee7c,1ee7e,1ee80-1ee89,1ee8b-1ee9b,1eea1-1eea3,1eea5-1eea9,1eeab-1eebb,20000-2a6df,2a700-2b739,2b740-2b81d,2b820-2cea1,2ceb0-2ebe0,2ebf0-2ee5d,2f800-2fa1d,30000-3134a,31350-323af"),
  ("Ideographic", "3006-3007,3021-3029,3038-303a,3400-4dbf,4e00-9fff,f900-fa6d,fa70-fad9,16fe4,17000-187f7,18800-18cd5,18cff-18d08,1b170-1b2fb,20000-2a6df,2a700-2b739,2b740-2b81d,2b820-2cea1,2ceb0-2ebe0,2ebf0-2ee5d,2f800-2fa1d,30000-3134a,31350-323af"),
  ("Join_Control", "200c-200d"),
  ("Logical_Order_Exception", "e40-e44,ec0-ec4,19b5-19b7,19ba,aab5-aab6,aab9,aabb-aabc"),
  ("Lowercase", "61-7a,aa,b5,ba,df-f6,f8-ff,101,103,105,107,109,10b,10d,10f,111,113,115,117,119,11b,11d,11f,121,123,125,127,129,12b,12d,12f,131,133,135,137-138,13a,13c,13e,140,142,144,146,148-149,14b,14d,14f,151,153,155,157,159,15b,15d,15f,161,163,165,167,169,16b,16d,16f,171,173,175,177,17a,17c,17e-180,183,185,188,18c-18d,192,195,199-19b,19e,1a1,1a3,1a5,1a8,1aa-1ab,1ad,1b0,1b4,1b6,1b9-1ba,1bd-1bf,1c6,1c9,1cc,1ce,1d0,1d2,1d4,1d6,1d8,1da,1dc-1dd,1df,1e1,1e3,1e5,1e7,1e9,1eb,1ed,1ef-1f0,1f3,1f5,1f9,1fb,1fd,1ff,201,203,205,207,209,20b,20d,20f,211,213,215,217,219,21b,21d,21f,221,223,225,227,229,22b,22d,22f,231,233-239,23c,23f-240,242,247,249,24b,24d,24f-293,295-2b8,2c0-2c1,2e0-2e4,345,371,373,377,37a-37d,390,3ac-3ce,3d0-3d1,3d5-3d7,3d9,3db,3dd,3df,3e1,3e3,3e5,3e7,3e9,3eb,3ed,3ef-3f3,3f5,3f8,3fb-3fc,430-45f,461,463,465,467,469,46b,46d,46f,471,473,475,477,479,47b,47d,47f,481,48b,48d,48f,491,493,495,497,499,49b,49d,49f,4a1,4a3,4a5,4a7,4a9,4ab,4ad,4af,4b1,4b3,4b5,4b7,4b9,4bb,4bd,4bf,4c2,4c4,4c6,4c8,4ca,4cc,4ce-4cf,4d1,4d3,4d5,4d7,4d9,4db,4dd,4df,4e1,4e3,4e5,4e7,4e9,4eb,4ed,4ef,4f1,4f3,4f5,4f7,4f9,4fb,4fd,4ff,501,503,505,507,509,50b,50d,50f,511,513,515,517,519,51b,51d,51f,521,523,525,527,529,52b,52d,52f,560-588,10d0-10fa,10fc-10ff,13f8-13fd,1c80-1c88,1c8a,1d00-1dbf,1e01,1e03,1e05,1e07,1e09,1e0b,1e0d,1e0f,1e11,1e13,1e15,1e17,1e19,1e1b,1e1d,1e1f,1e21,1e23,1e25,1e27,1e29,1e2b,1e2d,1e2f,1e31,1e33,1e35,1e37,1e39,1e3b,1e3d,1e3f,1e41,1e43,1e45,1e47,1e49,1e4b,1e4d,1e4f,1e51,1e53,1e55,1e57,1e59,1e5b,1e5d,1e5f,1e61,1e63,1e65,1e67,1e69,1e6b,1e6d,1e6f,1e71,1e73,1e75,1e77,1e79,1e7b,1e7d,1e7f,1e81,1e83,1e85,1e87,1e89,1e8b,1e8d,1e8f,1e91,1e93,1e95-1e9d,1e9f,1ea1,1ea3,1ea5,1ea7,1ea9,1eab,1ead,1eaf,1eb1,1eb3,1eb5,1eb7,1eb9,1ebb,1ebd,1ebf,1ec1,1ec3,1ec5,1ec7,1ec9,1ecb,1ecd,1ecf,1ed1,1ed3,1ed5,1ed7,1ed9,1edb,1edd,1edf,1ee1,1ee3,1ee5,1ee7,1ee9,1eeb,1eed,1eef,1ef1,1ef3,1ef5,1ef7,1ef9,1efb,1efd,1eff-1f07,1f10-1f15,1f20-1f27,1f30-1f37,1f40-1f45,1f50-1f57,1f60-1f67,1f70-1f7d,1f80-1f87,1f90-1f97,1fa0-1fa7,1fb0-1fb4,1fb6-1fb7,1fbe,1fc2-1fc4,1fc6-1fc7,1fd0-1fd3,1fd6-1fd7,1fe0-1fe7,1ff2-1ff4,1ff6-1ff7,2071,207f,2090-209c,210a,210e-210f,2113,212f,2134,2139,213c-213d,2146-2149,214e,2170-217f,2184,24d0-24e9,2c30-2c5f,2c61,2c65-2c66,2c68,2c6a,2c6c,2c71,2c73-2c74,2c76-2c7d,2c81,2c83,2c85,2c87,2c89,2c8b,2c8d,2c8f,2c91,2c93,2c95,2c97,2c99,2c9b,2c9d,2c9f,2ca1,2ca3,2ca5,2ca7,2ca9,2cab,2cad,2caf,2cb1,2cb3,2cb5,2cb7,2cb9,2cbb,2cbd,2cbf,2cc1,2cc3,2cc5,2cc7,2cc9,2ccb,2ccd,2ccf,2cd1,2cd3,2cd5,2cd7,2cd9,2cdb,2cdd,2cdf,2ce1,2ce3-2ce4,2cec,2cee,2cf3,2d00-2d25,2d27,2d2d,a641,a643,a645,a647,a649,a64b,a64d,a64f,a651,a653,a655,a657,a659,a65b,a65d,a65f,a661,a663,a665,a667,a669,a66b,a66d,a681,a683,a685,a687,a689,a68b,a68d,a68f,a691,a693,a695,a697,a699,a69b-a69d,a723,a725,a727,a729,a72b,a72d,a72f-a731,a733,a735,a737,a739,a73b,a73d,a73f,a741,a743,a745,a747,a749,a74b,a74d,a74f,a751,a753,a755,a757,a759,a75b,a75d,a75f,a761,a763,a765,a767,a769,a76b,a76d,a76f-a778,a77a,a77c,a77f,a781,a783,a785,a787,a78c,a78e,a791,a793-a795,a797,a799,a79b,a79d,a79f,a7a1,a7a3,a7a5,a7a7,a7a9,a7af,a7b5,a7b7,a7b9,a7bb,a7bd,a7bf,a7c1,a7c3,a7c8,a7ca,a7cd,a7d1,a7d3,a7d5,a7d7,a7d9,a7db,a7f2-a7f4,a7f6,a7f8-a7fa,ab30-ab5a,ab5c-ab69,ab70-abbf,fb00-fb06,fb13-fb17,ff41-ff5a,10428-1044f,104d8-104fb,10597-105a1,105a3-105b1,105b3-105b9,105bb-105bc,10780,10783-10785,10787-107b0,107b2-107ba,10cc0-10cf2,10d70-10d85,118c0-118df,16e60-16e7f,1d41a-1d433,1d44e-1d454,1d456-1d467,1d482-1d49b,1d4b6-1d4b9,1d4bb,1d4bd-1d4c3,1d4c5-1d4cf,1d4ea-1d503,1d51e-1d537,1d552-1d56b,1d586-1d59f,1d5ba-1d5d3,1d5ee-1d607,1d622-1d63b,1d656-1d66f,1d68a-1d6a5,1d6c2-1d6da,1d6dc-1d6e1,1d6fc-1d714,1d716-1d71b,1d736-1d74e,1d750-1d755,1d770-1d788,1d78a-1d78f,1d7aa-1d7c2,1d7c4-1d7c9,1d7cb,1df00-1df09,1df0b-1df1e,1df25-1df2a,1e030-1e06d,1e922-1e943"),
  ("Math", "2b,3c-3e,5e,7c,7e,ac,b1,d7,f7,3d0-3d2,3d5,3f0-3f1,3f4-3f6,606-608,2016,2032-2034,2040,2044,2052,2061-2064,207a-207e,208a-208e,20d0-20dc,20e1,20e5-20e6,20eb-20ef,2102,2107,210a-2113,2115,2118-211d,2124,2128-2129,212c-212d,212f-2131,2133-2138,213c-2149,214b,2190-21a7,21a9-21ae,21b0-21b1,21b6-21b7,21bc-21db,21dd,21e4-21e5,21f4-22ff,2308-230b,2320-2321,237c,239b-23b5,23b7,23d0,23dc-23e2,25a0-25a1,25ae-25b7,25bc-25c1,25c6-25c7,25ca-25cb,25cf-25d3,25e2,25e4,25e7-25ec,25f8-25ff,2605-2606,2640,2642,2660-2663,266d-266f,27c0-27ff,2900-2aff,2b30-2b44,2b47-2b4c,fb29,fe61-fe66,fe68,ff0b,ff1c-ff1e,ff3c,ff3e,ff5c,ff5e,ffe2,ffe9-ffec,10d8e-10d8f,1d400-1d454,1d456-1d49c,1d49e-1d49f,1d4a2,1d4a5-1d4a6,1d4a9-1d4ac,1d4ae-1d4b9,1d4bb,1d4bd-1d4c3,1d4c5-1d505,1d507-1d50a,1d50d-1d514,1d516-1d51c,1d51e-1d539,1d53b-1d53e,1d540-1d544,1d546,1d54a-1d550,1d552-1d6a5,1d6a8-1d7cb,1d7ce-1d7ff,1ee00-1ee03,1ee05-1ee1f,1ee21-1ee22,1ee24,1ee27,1ee29-1ee32,1ee34-1ee37,1ee39,1ee3b,1ee42,1ee47,1ee49,1ee4b,1ee4d-1ee4f,1ee51-1ee52,1ee54,1ee57,1ee59,1ee5b,1ee5d,1ee5f,1ee61-1ee62,1ee64,1ee67-1ee6a,1ee6c-1ee72,1ee74-1ee77,1ee79-1ee7c,1ee7e,1ee80-1ee89,1ee8b-1ee9b,1eea1-1eea3,1eea5-1eea9,1eeab-1eebb,1eef0-1eef1"),
  ("Modifier_Combining_Mark", "654-655,658,6dc,6e3,6e7-6e8,8ca-8cb,8cd-8cf,8d3,8f3"),
  ("Noncharacter_Code_Point", "fdd0-fdef,fffe-ffff,1fffe-1ffff,2fffe-2ffff,3fffe-3ffff,4fffe-4ffff,5fffe-5ffff,6fffe-6ffff,7fffe-7ffff,8fffe-8ffff,9fffe-9ffff,afffe-affff,bfffe-bffff,cfffe-cffff,dfffe-dffff,efffe-effff,ffffe-fffff,10fffe-10ffff"),
  ("Other_Alphabetic", "345,363-36f,5b0-5bd,5bf,5c1-5c2,5c4-5c5,5c7,610-61a,64b-657,659-65f,670,6d6-6dc,6e1-6e4,6e7-6e8,6ed,711,730-73f,7a6-7b0,816-817,81b-823,825-827,829-82c,897,8d4-8df,8e3-8e9,8f0-903,93a-93b,93e-94c,94e-94f,955-957,962-963,981-983,9be-9c4,9c7-9c8,9cb-9cc,9d7,9e2-9e3,a01-a03,a3e-a42,a47-a48,a4b-a4c,a51,a70-a71,a75,a81-a83,abe-ac5,ac7-ac9,acb-acc,ae2-ae3,afa-afc,b01-b03,b3e-b44,b47-b48,b4b-b4c,b56-b57,b62-b63,b82,bbe-bc2,bc6-bc8,bca-bcc,bd7,c00-c04,c3e-c44,c46-c48,c4a-c4c,c55-c56,c62-c63,c81-c83,cbe-cc4,cc6-cc8,cca-ccc,cd5-cd6,ce2-ce3,cf3,d00-d03,d3e-d44,d46-d48,d4a-d4c,d57,d62-d63,d81-d83,dcf-dd4,dd6,dd8-ddf,df2-df3,e31,e34-e3a,e4d,eb1,eb4-eb9,ebb-ebc,ecd,f71-f83,f8d-f97,f99-fbc,102b-1036,1038,103b-103e,1056-1059,105e-1060,1062-1064,1067-106d,1071-1074,1082-108d,108f,109a-109d,1712-1713,1732-1733,1752-1753,1772-1773,17b6-17c8,1885-1886,18a9,1920-192b,1930-1938,1a17-1a1b,1a55-1a5e,1a61-1a74,1abf-1ac0,1acc-1ace,1b00-1b04,1b35-1b43,1b80-1b82,1ba1-1ba9,1bac-1bad,1be7-1bf1,1c24-1c36,1dd3-1df4,24b6-24e9,2de0-2dff,a674-a67b,a69e-a69f,a802,a80b,a823-a827,a880-a881,a8b4-a8c3,a8c5,a8ff,a926-a92a,a947-a952,a980-a983,a9b4-a9bf,a9e5,aa29-aa36,aa43,aa4c-aa4d,aa7b-aa7d,aab0,aab2-aab4,aab7-aab8,aabe,aaeb-aaef,aaf5,abe3-abea,fb1e,10376-1037a,10a01-10a03,10a05-10a06,10a0c-10a0f,10d24-10d27,10d69,10eab-10eac,10efc,11000-11002,11038-11045,11073-11074,11080-11082,110b0-110b8,110c2,11100-11102,11127-11132,11145-11146,11180-11182,111b3-111bf,111ce-111cf,1122c-11234,11237,1123e,11241,112df-112e8,11300-11303,1133e-11344,11347-11348,1134b-1134c,11357,11362-11363,113b8-113c0,113c2,113c5,113c7-113ca,113cc-113cd,11435-11441,11443-11445,114b0-114c1,115af-115b5,115b8-115be,115dc-115dd,11630-1163e,11640,116ab-116b5,1171d-1172a,1182c-11838,11930-11935,11937-11938,1193b-1193c,11940,11942,119d1-119d7,119da-119df,119e4,11a01-11a0a,11a35-11a39,11a3b-11a3e,11a51-11a5b,11a8a-11a97,11c2f-11c36,11c38-11c3e,11c92-11ca7,11ca9-11cb6,11d31-11d36,11d3a,11d3c-11d3d,11d3f-11d41,11d43,11d47,11d8a-11d8e,11d90-11d91,11d93-11d96,11ef3-11ef6,11f00-11f01,11f03,11f34-11f3a,11f3e-11f40,1611e-1612e,16f4f,16f51-16f87,16f8f-16f92,16ff0-16ff1,1bc9e,1e000-1e006,1e008-1e018,1e01b-1e021,1e023-1e024,1e026-1e02a,1e08f,1e947,1f130-1f149,1f150-1f169,1f170-1f189"),
  ("Other_Default_Ignorable_Code_Point", "34f,115f-1160,17b4-17b5,2065,3164,ffa0,fff0-fff8,e0000,e0002-e001f,e0080-e00ff,e01f0-e0fff"),
  ("Other_Grapheme_Extend", "9be,9d7,b3e,b57,bbe,bd7,cc0,cc2,cc7-cc8,cca-ccb,cd5-cd6,d3e,d57,dcf,ddf,1715,1734,1b35,1b3b,1b3d,1b43-1b44,1baa,1bf2-1bf3,200c,302e-302f,a953,a9c0,ff9e-ff9f,111c0,11235,1133e,1134d,11357,113b8,113c2,113c5,113c7-113c9,113cf,114b0,114bd,115af,116b6,11930,1193d,11f41,16ff0-16ff1,1d165-1d166,1d16d-1d172,e0020-e007f"),
  ("Other_ID_Continue", "b7,387,1369-1371,19da,200c-200d,30fb,ff65"),
  ("Other_ID_Start", "1885-1886,2118,212e,309b-309c"),
  ("Other_Lowercase", "aa,ba,2b0-2b8,2c0-2c1,2e0-2e4,345,37a,10fc,1d2c-1d6a,1d78,1d9b-1dbf,2071,207f,2090-209c,2170-217f,24d0-24e9,2c7c-2c7d,a69c-a69d,a770,a7f2-a7f4,a7f8-a7f9,ab5c-ab5f,ab69,10780,10783-10785,10787-107b0,107b2-107ba,1e030-1e06d"),
  ("Other_Math", "5e,3d0-3d2,3d5,3f0-3f1,3f4-3f5,2016,2032-2034,2040,2061-2064,207d-207e,208d-208e,20d0-20dc,20e1,20e5-20e6,20eb-20ef,2102,2107,210a-2113,2115,2119-211d,2124,2128-2129,212c-212d,212f-2131,2133-2138,213c-213f,2145-2149,2195-2199,219c-219f,21a1-21a2,21a4-21a5,21a7,21a9-21ad,21b0-21b1,21b6-21b7,21bc-21cd,21d0-21d1,21d3,21d5-21db,21dd,21e4-21e5,2308-230b,23b4-23b5,23b7,23d0,23e2,25a0-25a1,25ae-25b6,25bc-25c0,25c6-25c7,25ca-25cb,25cf-25d3,25e2,25e4,25e7-25ec,2605-2606,2640,2642,2660-2663,266d-266e,27c5-27c6,27e6-27ef,2983-2998,29d8-29db,29fc-29fd,fe61,fe63,fe68,ff3c,ff3e,1d400-1d454,1d456-1d49c,1d49e-1d49f,1d4a2,1d4a5-1d4a6,1d4a9-1d4ac,1d4ae-1d4b9,1d4bb,1d4bd-1d4c3,1d4c5-1d505,1d507-1d50a,1d50d-1d514,1d516-1d51c,1d51e-1d539,1d53b-1d53e,1d540-1d544,1d546,1d54a-1d550,1d552-1d6a5,1d6a8-1d6c0,1d6c2-1d6da,1d6dc-1d6fa,1d6fc-1d714,1d716-1d734,1d736-1d74e,1d750-1d76e,1d770-1d788,1d78a-1d7a8,1d7aa-1d7c2,1d7c4-1d7cb,1d7ce-1d7ff,1ee00-1ee03,1ee05-1ee1f,1ee21-1ee22,1ee24,1ee27,1ee29-1ee32,1ee34-1ee37,1ee39,1ee3b,1ee42,1ee47,1ee49,1ee4b,1ee4d-1ee4f,1ee51-1ee52,1ee54,1ee57,1ee59,1ee5b,1ee5d,1ee5f,1ee61-1ee62,1ee64,1ee67-1ee6a,1ee6c-1ee72,1ee74-1ee77,1ee79-1ee7c,1ee7e,1ee80-1ee89,1ee8b-1ee9b,1eea1-1eea3,1eea5-1eea9,1eeab-1eebb"),
  ("Other_Uppercase", "2160-216f,24b6-24cf,1f130-1f149,1f150-1f169,1f170-1f189"),
  ("Pattern_Syntax", "21-2f,3a-40,5b-5e,60,7b-7e,a1-a7,a9,ab-ac,ae,b0-b1,b6,bb,bf,d7,f7,2010-2027,2030-203e,2041-2053,2055-205e,2190-245f,2500-2775,2794-2b95,2b97-2bff,2e00-2e7f,3001-3003,3008-3020,3030,fd3e-fd3f,fe45-fe46"),
  ("Pattern_White_Space", "9-d,20,85,200e-200f,2028-2029"),
  ("Prepended_Concatenation_Mark", "600-605,6dd,70f,890-891,8e2,110bd,110cd"),
  ("Quotation_Mark", "22,27,ab,bb,2018-201f,2039-203a,2e42,300c-300f,301d-301f,fe41-fe44,ff02,ff07,ff62-ff63"),
  ("Radical", "2e80-2e99,2e9b-2ef3,2f00-2fd5"),
  ("Regional_Indicator", "1f1e6-1f1ff"),
  ("Sentence_Terminal", "21,2e,3f,589,61d-61f,6d4,700-702,7f9,837,839,83d-83e,964-965,104a-104b,1362,1367-1368,166e,1735-1736,17d4-17d5,1803,1809,1944-1945,1aa8-1aab,1b4e-1b4f,1b5a-1b5b,1b5e-1b5f,1b7d-1b7f,1c3b-1c3c,1c7e-1c7f,2024,203c-203d,2047-2049,2cf9-2cfb,2e2e,2e3c,2e53-2e54,3002,a4ff,a60e-a60f,a6f3,a6f7,a876-a877,a8ce-a8cf,a92f,a9c8-a9c9,aa5d-aa5f,aaf0-aaf1,abeb,fe12,fe15-fe16,fe52,fe56-fe57,ff01,ff0e,ff1f,ff61,10a56-10a57,10f55-10f59,10f86-10f89,11047-11048,110be-110c1,11141-11143,111c5-111c6,111cd,111de-111df,11238-11239,1123b-1123c,112a9,113d4-113d5,1144b-1144c,115c2-115c3,115c9-115d7,11641-11642,1173c-1173e,11944,11946,11a42-11a43,11a9b-11a9c,11c41-11c42,11ef7-11ef8,11f43-11f44,16a6e-16a6f,16af5,16b37-16b38,16b44,16d6e-16d6f,16e98,1bc9f,1da88"),
  ("Soft_Dotted", "69-6a,12f,249,268,29d,2b2,3f3,456,458,1d62,1d96,1da4,1da8,1e2d,1ecb,2071,2148-2149,2c7c,1d422-1d423,1d456-1d457,1d48a-1d48b,1d4be-1d4bf,1d4f2-1d4f3,1d526-1d527,1d55a-1d55b,1d58e-1d58f,1d5c2-1d5c3,1d5f6-1d5f7,1d62a-1d62b,1d65e-1d65f,1d692-1d693,1df1a,1e04c-1e04d,1e068"),
  ("Terminal_Punctuation", "21,2c,2e,3a-3b,3f,37e,387,589,5c3,60c,61b,61d-61f,6d4,700-70a,70c,7f8-7f9,830-835,837-83e,85e,964-965,e5a-e5b,f08,f0d-f12,104a-104b,1361-1368,166e,16eb-16ed,1735-1736,17d4-17d6,17da,1802-1805,1808-1809,1944-1945,1aa8-1aab,1b4e-1b4f,1b5a-1b5b,1b5d-1b5f,1b7d-1b7f,1c3b-1c3f,1c7e-1c7f,2024,203c-203d,2047-2049,2cf9-2cfb,2e2e,2e3c,2e41,2e4c,2e4e-2e4f,2e53-2e54,3001-3002,a4fe-a4ff,a60d-a60f,a6f3-a6f7,a876-a877,a8ce-a8cf,a92f,a9c7-a9c9,aa5d-aa5f,aadf,aaf0-aaf1,abeb,fe12,fe15-fe16,fe50-fe52,fe54-fe57,ff01,ff0c,ff0e,ff1a-ff1b,ff1f,ff61,ff64,1039f,103d0,10857,1091f,10a56-10a57,10af0-10af5,10b3a-10b3f,10b99-10b9c,10f55-10f59,10f86-10f89,11047-1104d,110be-110c1,11141-11143,111c5-111c6,111cd,111de-111df,11238-1123c,112a9,113d4-113d5,1144b-1144d,1145a-1145b,115c2-115c5,115c9-115d7,11641-11642,1173c-1173e,11944,11946,11a42-11a43,11a9b-11a9c,11aa1-11aa2,11c41-11c43,11c71,11ef7-11ef8,11f43-11f44,12470-12474,16a6e-16a6f,16af5,16b37-16b39,16b44,16d6e-16d6f,16e97-16e98,1bc9f,1da87-1da8a"),
  ("Unified_Ideograph", "3400-4dbf,4e00-9fff,fa0e-fa0f,fa11,fa13-fa14,fa1f,fa21,fa23-fa24,fa27-fa29,20000-2a6df,2a700-2b739,2b740-2b81d,2b820-2cea1,2ceb0-2ebe0,2ebf0-2ee5d,30000-3134a,31350-323af"),
  ("Uppercase", "41-5a,c0-d6,d8-de,100,102,104,106,108,10a,10c,10e,110,112,114,116,118,11a,11c,11e,120,122,124,126,128,12a,12c,12e,130,132,134,136,139,13b,13d,13f,141,143,145,147,14a,14c,14e,150,152,154,156,158,15a,15c,15e,160,162,164,166,168,16a,16c,16e,170,172,174,176,178-179,17b,17d,181-182,184,186-187,189-18b,18e-191,193-194,196-198,19c-19d,19f-1a0,1a2,1a4,1a6-1a7,1a9,1ac,1ae-1af,1b1-1b3,1b5,1b7-1b8,1bc,1c4,1c7,1ca,1cd,1cf,1d1,1d3,1d5,1d7,1d9,1db,1de,1e0,1e2,1e4,1e6,1e8,1ea,1ec,1ee,1f1,1f4,1f6-1f8,1fa,1fc,1fe,200,202,204,206,208,20a,20c,20e,210,212,214,216,218,21a,21c,21e,220,222,224,226,228,22a,22c,22e,230,232,23a-23b,23d-23e,241,243-246,248,24a,24c,24e,370,372,376,37f,386,388-38a,38c,38e-38f,391-3a1,3a3-3ab,3cf,3d2-3d4,3d8,3da,3dc,3de,3e0,3e2,3e4,3e6,3e8,3ea,3ec,3ee,3f4,3f7,3f9-3fa,3fd-42f,460,462,464,466,468,46a,46c,46e,470,472,474,476,478,47a,47c,47e,480,48a,48c,48e,490,492,494,496,498,49a,49c,49e,4a0,4a2,4a4,4a6,4a8,4aa,4ac,4ae,4b0,4b2,4b4,4b6,4b8,4ba,4bc,4be,4c0-4c1,4c3,4c5,4c7,4c9,4cb,4cd,4d0,4d2,4d4,4d6,4d8,4da,4dc,4de,4e0,4e2,4e4,4e6,4e8,4ea,4ec,4ee,4f0,4f2,4f4,4f6,4f8,4fa,4fc,4fe,500,502,504,506,508,50a,50c,50e,510,512,514,516,518,51a,51c,51e,520,522,524,526,528,52a,52c,52e,531-556,10a0-10c5,10c7,10cd,13a0-13f5,1c89,1c90-1cba,1cbd-1cbf,1e00,1e02,1e04,1e06,1e08,1e0a,1e0c,1e0e,1e10,1e12,1e14,1e16,1e18,1e1a,1e1c,1e1e,1e20,1e22,1e24,1e26,1e28,1e2a,1e2c,1e2e,1e30,1e32,1e34,1e36,1e38,1e3a,1e3c,1e3e,1e40,1e42,1e44,1e46,1e48,1e4a,1e4c,1e4e,1e50,1e52,1e54,1e56,1e58,1e5a,1e5c,1e5e,1e60,1e62,1e64,1e66,1e68,1e6a,1e6c,1e6e,1e70,1e72,1e74,1e76,1e78,1e7a,1e7c,1e7e,1e80,1e82,1e84,1e86,1e88,1e8a,1e8c,1e8e,1e90,1e92,1e94,1e9e,1ea0,1ea2,1ea4,1ea6,1ea8,1eaa,1eac,1eae,1eb0,1eb2,1eb4,1eb6,1eb8,1eba,1ebc,1ebe,1ec0,1ec2,1ec4,1ec6,1ec8,1eca,1ecc,1ece,1ed0,1ed2,1ed4,1ed6,1ed8,1eda,1edc,1ede,1ee0,1ee2,1ee4,1ee6,1ee8,1eea,1eec,1eee,1ef0,1ef2,1ef4,1ef6,1ef8,1efa,1efc,1efe,1f08-1f0f,1f18-1f1d,1f28-1f2f,1f38-1f3f,1f48-1f4d,1f59,1f5b,1f5d,1f5f,1f68-1f6f,1fb8-1fbb,1fc8-1fcb,1fd8-1fdb,1fe8-1fec,1ff8-1ffb,2102,2107,210b-210d,2110-2112,2115,2119-211d,2124,2126,2128,212a-212d,2130-2133,213e-213f,2145,2160-216f,2183,24b6-24cf,2c00-2c2f,2c60,2c62-2c64,2c67,2c69,2c6b,2c6d-2c70,2c72,2c75,2c7e-2c80,2c82,2c84,2c86,2c88,2c8a,2c8c,2c8e,2c90,2c92,2c94,2c96,2c98,2c9a,2c9c,2c9e,2ca0,2ca2,2ca4,2ca6,2ca8,2caa,2cac,2cae,2cb0,2cb2,2cb4,2cb6,2cb8,2cba,2cbc,2cbe,2cc0,2cc2,2cc4,2cc6,2cc8,2cca,2ccc,2cce,2cd0,2cd2,2cd4,2cd6,2cd8,2cda,2cdc,2cde,2ce0,2ce2,2ceb,2ced,2cf2,a640,a642,a644,a646,a648,a64a,a64c,a64e,a650,a652,a654,a656,a658,a65a,a65c,a65e,a660,a662,a664,a666,a668,a66a,a66c,a680,a682,a684,a686,a688,a68a,a68c,a68e,a690,a692,a694,a696,a698,a69a,a722,a724,a726,a728,a72a,a72c,a72e,a732,a734,a736,a738,a73a,a73c,a73e,a740,a742,a744,a746,a748,a74a,a74c,a74e,a750,a752,a754,a756,a758,a75a,a75c,a75e,a760,a762,a764,a766,a768,a76a,a76c,a76e,a779,a77b,a77d-a77e,a780,a782,a784,a786,a78b,a78d,a790,a792,a796,a798,a79a,a79c,a79e,a7a0,a7a2,a7a4,a7a6,a7a8,a7aa-a7ae,a7b0-a7b4,a7b6,a7b8,a7ba,a7bc,a7be,a7c0,a7c2,a7c4-a7c7,a7c9,a7cb-a7cc,a7d0,a7d6,a7d8,a7da,a7dc,a7f5,ff21-ff3a,10400-10427,104b0-104d3,10570-1057a,1057c-1058a,1058c-10592,10594-10595,10c80-10cb2,10d50-10d65,118a0-118bf,16e40-16e5f,1d400-1d419,1d434-1d44d,1d468-1d481,1d49c,1d49e-1d49f,1d4a2,1d4a5-1d4a6,1d4a9-1d4ac,1d4ae-1d4b5,1d4d0-1d4e9,1d504-1d505,1d507-1d50a,1d50d-1d514,1d516-1d51c,1d538-1d539,1d53b-1d53e,1d540-1d544,1d546,1d54a-1d550,1d56c-1d585,1d5a0-1d5b9,1d5d4-1d5ed,1d608-1d621,1d63c-1d655,1d670-1d689,1d6a8-1d6c0,1d6e2-1d6fa,1d71c-1d734,1d756-1d76e,1d790-1d7a8,1d7ca,1e900-1e921,1f130-1f149,1f150-1f169,1f170-1f189"),
  ("Variation_Selector", "180b-180d,180f,fe00-fe0f,e0100-e01ef"),
  ("White_Space", "9-d,20,85,a0,1680,2000-200a,2028-2029,202f,205f,3000"),
  ("XID_Continue", "30-39,41-5a,5f,61-7a,aa,b5,b7,ba,c0-d6,d8-f6,f8-2c1,2c6-2d1,2e0-2e4,2ec,2ee,300-374,376-377,37b-37d,37f,386-38a,38c,38e-3a1,3a3-3f5,3f7-481,483-487,48a-52f,531-556,559,560-588,591-5bd,5bf,5c1-5c2,5c4-5c5,5c7,5d0-5ea,5ef-5f2,610-61a,620-669,66e-6d3,6d5-6dc,6df-6e8,6ea-6fc,6ff,710-74a,74d-7b1,7c0-7f5,7fa,7fd,800-82d,840-85b,860-86a,870-887,889-88e,897-8e1,8e3-963,966-96f,971-983,985-98c,98f-990,993-9a8,9aa-9b0,9b2,9b6-9b9,9bc-9c4,9c7-9c8,9cb-9ce,9d7,9dc-9dd,9df-9e3,9e6-9f1,9fc,9fe,a01-a03,a05-a0a,a0f-a10,a13-a28,a2a-a30,a32-a33,a35-a36,a38-a39,a3c,a3e-a42,a47-a48,a4b-a4d,a51,a59-a5c,a5e,a66-a75,a81-a83,a85-a8d,a8f-a91,a93-aa8,aaa-ab0,ab2-ab3,ab5-ab9,abc-ac5,ac7-ac9,acb-acd,ad0,ae0-ae3,ae6-aef,af9-aff,b01-b03,b05-b0c,b0f-b10,b13-b28,b2a-b30,b32-b33,b35-b39,b3c-b44,b47-b48,b4b-b4d,b55-b57,b5c-b5d,b5f-b63,b66-b6f,b71,b82-b83,b85-b8a,b8e-b90,b92-b95,b99-b9a,b9c,b9e-b9f,ba3-ba4,ba8-baa,bae-bb9,bbe-bc2,bc6-bc8,bca-bcd,bd0,bd7,be6-bef,c00-c0c,c0e-c10,c12-c28,c2a-c39,c3c-c44,c46-c48,c4a-c4d,c55-c56,c58-c5a,c5d,c60-c63,c66-c6f,c80-c83,c85-c8c,c8e-c90,c92-ca8,caa-cb3,cb5-cb9,cbc-cc4,cc6-cc8,cca-ccd,cd5-cd6,cdd-cde,ce0-ce3,ce6-cef,cf1-cf3,d00-d0c,d0e-d10,d12-d44,d46-d48,d4a-d4e,d54-d57,d5f-d63,d66-d6f,d7a-d7f,d81-d83,d85-d96,d9a-db1,db3-dbb,dbd,dc0-dc6,dca,dcf-dd4,dd6,dd8-ddf,de6-def,df2-df3,e01-e3a,e40-e4e,e50-e59,e81-e82,e84,e86-e8a,e8c-ea3,ea5,ea7-ebd,ec0-ec4,ec6,ec8-ece,ed0-ed9,edc-edf,f00,f18-f19,f20-f29,f35,f37,f39,f3e-f47,f49-f6c,f71-f84,f86-f97,f99-fbc,fc6,1000-1049,1050-109d,10a0-10c5,10c7,10cd,10d0-10fa,10fc-1248,124a-124d,1250-1256,1258,125a-125d,1260-1288,128a-128d,1290-12b0,12b2-12b5,12b8-12be,12c0,12c2-12c5,12c8-12d6,12d8-1310,1312-1315,1318-135a,135d-135f,1369-1371,1380-138f,13a0-13f5,13f8-13fd,1401-166c,166f-167f,1681-169a,16a0-16ea,16ee-16f8,1700-1715,171f-1734,1740-1753,1760-176c,176e-1770,1772-1773,1780-17d3,17d7,17dc-17dd,17e0-17e9,180b-180d,180f-1819,1820-1878,1880-18aa,18b0-18f5,1900-191e,1920-192b,1930-193b,1946-196d,1970-1974,1980-19ab,19b0-19c9,19d0-19da,1a00-1a1b,1a20-1a5e,1a60-1a7c,1a7f-1a89,1a90-1a99,1aa7,1ab0-1abd,1abf-1ace,1b00-1b4c,1b50-1b59,1b6b-1b73,1b80-1bf3,1c00-1c37,1c40-1c49,1c4d-1c7d,1c80-1c8a,1c90-1cba,1cbd-1cbf,1cd0-1cd2,1cd4-1cfa,1d00-1f15,1f18-1f1d,1f20-1f45,1f48-1f4d,1f50-1f57,1f59,1f5b,1f5d,1f5f-1f7d,1f80-1fb4,1fb6-1fbc,1fbe,1fc2-1fc4,1fc6-1fcc,1fd0-1fd3,1fd6-1fdb,1fe0-1fec,1ff2-1ff4,1ff6-1ffc,200c-200d,203f-2040,2054,2071,207f,2090-209c,20d0-20dc,20e1,20e5-20f0,2102,2107,210a-2113,2115,2118-211d,2124,2126,2128,212a-2139,213c-213f,2145-2149,214e,2160-2188,2c00-2ce4,2ceb-2cf3,2d00-2d25,2d27,2d2d,2d30-2d67,2d6f,2d7f-2d96,2da0-2da6,2da8-2dae,2db0-2db6,2db8-2dbe,2dc0-2dc6,2dc8-2dce,2dd0-2dd6,2dd8-2dde,2de0-2dff,3005-3007,3021-302f,3031-3035,3038-303c,3041-3096,3099-309a,309d-309f,30a1-30ff,3105-312f,3131-318e,31a0-31bf,31f0-31ff,3400-4dbf,4e00-a48c,a4d0-a4fd,a500-a60c,a610-a62b,a640-a66f,a674-a67d,a67f-a6f1,a717-a71f,a722-a788,a78b-a7cd,a7d0-a7d1,a7d3,a7d5-a7dc,a7f2-a827,a82c,a840-a873,a880-a8c5,a8d0-a8d9,a8e0-a8f7,a8fb,a8fd-a92d,a930-a953,a960-a97c,a980-a9c0,a9cf-a9d9,a9e0-a9fe,aa00-aa36,aa40-aa4d,aa50-aa59,aa60-aa76,aa7a-aac2,aadb-aadd,aae0-aaef,aaf2-aaf6,ab01-ab06,ab09-ab0e,ab11-ab16,ab20-ab26,ab28-ab2e,ab30-ab5a,ab5c-ab69,ab70-abea,abec-abed,abf0-abf9,ac00-d7a3,d7b0-d7c6,d7cb-d7fb,f900-fa6d,fa70-fad9,fb00-fb06,fb13-fb17,fb1d-fb28,fb2a-fb36,fb38-fb3c,fb3e,fb40-fb41,fb43-fb44,fb46-fbb1,fbd3-fc5d,fc64-fd3d,fd50-fd8f,fd92-fdc7,fdf0-fdf9,fe00-fe0f,fe20-fe2f,fe33-fe34,fe4d-fe4f,fe71,fe73,fe77,fe79,fe7b,fe7d,fe7f-fefc,ff10-ff19,ff21-ff3a,ff3f,ff41-ff5a,ff65-ffbe,ffc2-ffc7,ffca-ffcf,ffd2-ffd7,ffda-ffdc,10000-1000b,1000d-10026,10028-1003a,1003c-1003d,1003f-1004d,10050-1005d,10080-100fa,10140-10174,101fd,10280-1029c,102a0-102d0,102e0,10300-1031f,1032d-1034a,10350-1037a,10380-1039d,103a0-103c3,103c8-103cf,103d1-103d5,10400-1049d,104a0-104a9,104b0-104d3,104d8-104fb,10500-10527,10530-10563,10570-1057a,1057c-1058a,1058c-10592,10594-10595,10597-105a1,105a3-105b1,105b3-105b9,105bb-105bc,105c0-105f3,10600-10736,10740-10755,10760-10767,10780-10785,10787-107b0,107b2-107ba,10800-10805,10808,1080a-10835,10837-10838,1083c,1083f-10855,10860-10876,10880-1089e,108e0-108f2,108f4-108f5,10900-10915,10920-10939,10980-109b7,109be-109bf,10a00-10a03,10a05-10a06,10a0c-10a13,10a15-10a17,10a19-10a35,10a38-10a3a,10a3f,10a60-10a7c,10a80-10a9c,10ac0-10ac7,10ac9-10ae6,10b00-10b35,10b40-10b55,10b60-10b72,10b80-10b91,10c00-10c48,10c80-10cb2,10cc0-10cf2,10d00-10d27,10d30-10d39,10d40-10d65,10d69-10d6d,10d6f-10d85,10e80-10ea9,10eab-10eac,10eb0-10eb1,10ec2-10ec4,10efc-10f1c,10f27,10f30-10f50,10f70-10f85,10fb0-10fc4,10fe0-10ff6,11000-11046,11066-11075,1107f-110ba,110c2,110d0-110e8,110f0-110f9,11100-11134,11136-1113f,11144-11147,11150-11173,11176,11180-111c4,111c9-111cc,111ce-111da,111dc,11200-11211,11213-11237,1123e-11241,11280-11286,11288,1128a-1128d,1128f-1129d,1129f-112a8,112b0-112ea,112f0-112f9,11300-11303,11305-1130c,1130f-11310,11313-11328,1132a-11330,11332-11333,11335-11339,1133b-11344,11347-11348,1134b-1134d,11350,11357,1135d-11363,11366-1136c,11370-11374,11380-11389,1138b,1138e,11390-113b5,113b7-113c0,113c2,113c5,113c7-113ca,113cc-113d3,113e1-113e2,11400-1144a,11450-11459,1145e-11461,11480-114c5,114c7,114d0-114d9,11580-115b5,115b8-115c0,115d8-115dd,11600-11640,11644,11650-11659,11680-116b8,116c0-116c9,116d0-116e3,11700-1171a,1171d-1172b,11730-11739,11740-11746,11800-1183a,118a0-118e9,118ff-11906,11909,1190c-11913,11915-11916,11918-11935,11937-11938,1193b-11943,11950-11959,119a0-119a7,119aa-119d7,119da-119e1,119e3-119e4,11a00-11a3e,11a47,11a50-11a99,11a9d,11ab0-11af8,11bc0-11be0,11bf0-11bf9,11c00-11c08,11c0a-11c36,11c38-11c40,11c50-11c59,11c72-11c8f,11c92-11ca7,11ca9-11cb6,11d00-11d06,11d08-11d09,11d0b-11d36,11d3a,11d3c-11d3d,11d3f-11d47,11d50-11d59,11d60-11d65,11d67-11d68,11d6a-11d8e,11d90-11d91,11d93-11d98,11da0-11da9,11ee0-11ef6,11f00-11f10,11f12-11f3a,11f3e-11f42,11f50-11f5a,11fb0,12000-12399,12400-1246e,12480-12543,12f90-12ff0,13000-1342f,13440-13455,13460-143fa,14400-14646,16100-16139,16800-16a38,16a40-16a5e,16a60-16a69,16a70-16abe,16ac0-16ac9,16ad0-16aed,16af0-16af4,16b00-16b36,16b40-16b43,16b50-16b59,16b63-16b77,16b7d-16b8f,16d40-16d6c,16d70-16d79,16e40-16e7f,16f00-16f4a,16f4f-16f87,16f8f-16f9f,16fe0-16fe1,16fe3-16fe4,16ff0-16ff1,17000-187f7,18800-18cd5,18cff-18d08,1aff0-1aff3,1aff5-1affb,1affd-1affe,1b000-1b122,1b132,1b150-1b152,1b155,1b164-1b167,1b170-1b2fb,1bc00-1bc6a,1bc70-1bc7c,1bc80-1bc88,1bc90-1bc99,1bc9d-1bc9e,1ccf0-1ccf9,1cf00-1cf2d,1cf30-1cf46,1d165-1d169,1d16d-1d172,1d17b-1d182,1d185-1d18b,1d1aa-1d1ad,1d242-1d244,1d400-1d454,1d456-1d49c,1d49e-1d49f,1d4a2,1d4a5-1d4a6,1d4a9-1d4ac,1d4ae-1d4b9,1d4bb,1d4bd-1d4c3,1d4c5-1d505,1d507-1d50a,1d50d-1d514,1d516-1d51c,1d51e-1d539,1d53b-1d53e,1d540-1d544,1d546,1d54a-1d550,1d552-1d6a5,1d6a8-1d6c0,1d6c2-1d6da,1d6dc-1d6fa,1d6fc-1d714,1d716-1d734,1d736-1d74e,1d750-1d76e,1d770-1d788,1d78a-1d7a8,1d7aa-1d7c2,1d7c4-1d7cb,1d7ce-1d7ff,1da00-1da36,1da3b-1da6c,1da75,1da84,1da9b-1da9f,1daa1-1daaf,1df00-1df1e,1df25-1df2a,1e000-1e006,1e008-1e018,1e01b-1e021,1e023-1e024,1e026-1e02a,1e030-1e06d,1e08f,1e100-1e12c,1e130-1e13d,1e140-1e149,1e14e,1e290-1e2ae,1e2c0-1e2f9,1e4d0-1e4f9,1e5d0-1e5fa,1e7e0-1e7e6,1e7e8-1e7eb,1e7ed-1e7ee,1e7f0-1e7fe,1e800-1e8c4,1e8d0-1e8d6,1e900-1e94b,1e950-1e959,1ee00-1ee03,1ee05-1ee1f,1ee21-1ee22,1ee24,1ee27,1ee29-1ee32,1ee34-1ee37,1ee39,1ee3b,1ee42,1ee47,1ee49,1ee4b,1ee4d-1ee4f,1ee51-1ee52,1ee54,1ee57,1ee59,1ee5b,1ee5d,1ee5f,1ee61-1ee62,1ee64,1ee67-1ee6a,1ee6c-1ee72,1ee74-1ee77,1ee79-1ee7c,1ee7e,1ee80-1ee89,1ee8b-1ee9b,1eea1-1eea3,1eea5-1eea9,1eeab-1eebb,1fbf0-1fbf9,20000-2a6df,2a700-2b739,2b740-2b81d,2b820-2cea1,2ceb0-2ebe0,2ebf0-2ee5d,2f800-2fa1d,30000-3134a,31350-323af,e0100-e01ef"),
  ("XID_Start", "41-5a,61-7a,aa,b5,ba,c0-d6,d8-f6,f8-2c1,2c6-2d1,2e0-2e4,2ec,2ee,370-374,376-377,37b-37d,37f,386,388-38a,38c,38e-3a1,3a3-3f5,3f7-481,48a-52f,531-556,559,560-588,5d0-5ea,5ef-5f2,620-64a,66e-66f,671-6d3,6d5,6e5-6e6,6ee-6ef,6fa-6fc,6ff,710,712-72f,74d-7a5,7b1,7ca-7ea,7f4-7f5,7fa,800-815,81a,824,828,840-858,860-86a,870-887,889-88e,8a0-8c9,904-939,93d,950,958-961,971-980,985-98c,98f-990,993-9a8,9aa-9b0,9b2,9b6-9b9,9bd,9ce,9dc-9dd,9df-9e1,9f0-9f1,9fc,a05-a0a,a0f-a10,a13-a28,a2a-a30,a32-a33,a35-a36,a38-a39,a59-a5c,a5e,a72-a74,a85-a8d,a8f-a91,a93-aa8,aaa-ab0,ab2-ab3,ab5-ab9,abd,ad0,ae0-ae1,af9,b05-b0c,b0f-b10,b13-b28,b2a-b30,b32-b33,b35-b39,b3d,b5c-b5d,b5f-b61,b71,b83,b85-b8a,b8e-b90,b92-b95,b99-b9a,b9c,b9e-b9f,ba3-ba4,ba8-baa,bae-bb9,bd0,c05-c0c,c0e-c10,c12-c28,c2a-c39,c3d,c58-c5a,c5d,c60-c61,c80,c85-c8c,c8e-c90,c92-ca8,caa-cb3,cb5-cb9,cbd,cdd-cde,ce0-ce1,cf1-cf2,d04-d0c,d0e-d10,d12-d3a,d3d,d4e,d54-d56,d5f-d61,d7a-d7f,d85-d96,d9a-db1,db3-dbb,dbd,dc0-dc6,e01-e30,e32,e40-e46,e81-e82,e84,e86-e8a,e8c-ea3,ea5,ea7-eb0,eb2,ebd,ec0-ec4,ec6,edc-edf,f00,f40-f47,f49-f6c,f88-f8c,1000-102a,103f,1050-1055,105a-105d,1061,1065-1066,106e-1070,1075-1081,108e,10a0-10c5,10c7,10cd,10d0-10fa,10fc-1248,124a-124d,1250-1256,1258,125a-125d,1260-1288,128a-128d,1290-12b0,12b2-12b5,12b8-12be,12c0,12c2-12c5,12c8-12d6,12d8-1310,1312-1315,1318-135a,1380-138f,13a0-13f5,13f8-13fd,1401-166c,166f-167f,1681-169a,16a0-16ea,16ee-16f8,1700-1711,171f-1731,1740-1751,1760-176c,176e-1770,1780-17b3,17d7,17dc,1820-1878,1880-18a8,18aa,18b0-18f5,1900-191e,1950-196d,1970-1974,1980-19ab,19b0-19c9,1a00-1a16,1a20-1a54,1aa7,1b05-1b33,1b45-1b4c,1b83-1ba0,1bae-1baf,1bba-1be5,1c00-1c23,1c4d-1c4f,1c5a-1c7d,1c80-1c8a,1c90-1cba,1cbd-1cbf,1ce9-1cec,1cee-1cf3,1cf5-1cf6,1cfa,1d00-1dbf,1e00-1f15,1f18-1f1d,1f20-1f45,1f48-1f4d,1f50-1f57,1f59,1f5b,1f5d,1f5f-1f7d,1f80-1fb4,1fb6-1fbc,1fbe,1fc2-1fc4,1fc6-1fcc,1fd0-1fd3,1fd6-1fdb,1fe0-1fec,1ff2-1ff4,1ff6-1ffc,2071,207f,2090-209c,2102,2107,210a-2113,2115,2118-211d,2124,2126,2128,212a-2139,213c-213f,2145-2149,214e,2160-2188,2c00-2ce4,2ceb-2cee,2cf2-2cf3,2d00-2d25,2d27,2d2d,2d30-2d67,2d6f,2d80-2d96,2da0-2da6,2da8-2dae,2db0-2db6,2db8-2dbe,2dc0-2dc6,2dc8-2dce,2dd0-2dd6,2dd8-2dde,3005-3007,3021-3029,3031-3035,3038-303c,3041-3096,309d-309f,30a1-30fa,30fc-30ff,3105-312f,3131-318e,31a0-31bf,31f0-31ff,3400-4dbf,4e00-a48c,a4d0-a4fd,a500-a60c,a610-a61f,a62a-a62b,a640-a66e,a67f-a69d,a6a0-a6ef,a717-a71f,a722-a788,a78b-a7cd,a7d0-a7d1,a7d3,a7d5-a7dc,a7f2-a801,a803-a805,a807-a80a,a80c-a822,a840-a873,a882-a8b3,a8f2-a8f7,a8fb,a8fd-a8fe,a90a-a925,a930-a946,a960-a97c,a984-a9b2,a9cf,a9e0-a9e4,a9e6-a9ef,a9fa-a9fe,aa00-aa28,aa40-aa42,aa44-aa4b,aa60-aa76,aa7a,aa7e-aaaf,aab1,aab5-aab6,aab9-aabd,aac0,aac2,aadb-aadd,aae0-aaea,aaf2-aaf4,ab01-ab06,ab09-ab0e,ab11-ab16,ab20-ab26,ab28-ab2e,ab30-ab5a,ab5c-ab69,ab70-abe2,ac00-d7a3,d7b0-d7c6,d7cb-d7fb,f900-fa6d,fa70-fad9,fb00-fb06,fb13-fb17,fb1d,fb1f-fb28,fb2a-fb36,fb38-fb3c,fb3e,fb40-fb41,fb43-fb44,fb46-fbb1,fbd3-fc5d,fc64-fd3d,fd50-fd8f,fd92-fdc7,fdf0-fdf9,fe71,fe73,fe77,fe79,fe7b,fe7d,fe7f-fefc,ff21-ff3a,ff41-ff5a,ff66-ff9d,ffa0-ffbe,ffc2-ffc7,ffca-ffcf,ffd2-ffd7,ffda-ffdc,10000-1000b,1000d-10026,10028-1003a,1003c-1003d,1003f-1004d,10050-1005d,10080-100fa,10140-10174,10280-1029c,102a0-102d0,10300-1031f,1032d-1034a,10350-10375,10380-1039d,103a0-103c3,103c8-103cf,103d1-103d5,10400-1049d,104b0-104d3,104d8-104fb,10500-10527,10530-10563,10570-1057a,1057c-1058a,1058c-10592,10594-10595,10597-105a1,105a3-105b1,105b3-105b9,105bb-105bc,105c0-105f3,10600-10736,10740-10755,10760-10767,10780-10785,10787-107b0,107b2-107ba,10800-10805,10808,1080a-10835,10837-10838,1083c,1083f-10855,10860-10876,10880-1089e,108e0-108f2,108f4-108f5,10900-10915,10920-10939,10980-109b7,109be-109bf,10a00,10a10-10a13,10a15-10a17,10a19-10a35,10a60-10a7c,10a80-10a9c,10ac0-10ac7,10ac9-10ae4,10b00-10b35,10b40-10b55,10b60-10b72,10b80-10b91,10c00-10c48,10c80-10cb2,10cc0-10cf2,10d00-10d23,10d4a-10d65,10d6f-10d85,10e80-10ea9,10eb0-10eb1,10ec2-10ec4,10f00-10f1c,10f27,10f30-10f45,10f70-10f81,10fb0-10fc4,10fe0-10ff6,11003-11037,11071-11072,11075,11083-110af,110d0-110e8,11103-11126,11144,11147,11150-11172,11176,11183-111b2,111c1-111c4,111da,111dc,11200-11211,11213-1122b,1123f-11240,11280-11286,11288,1128a-1128d,1128f-1129d,1129f-112a8,112b0-112de,11305-1130c,1130f-11310,11313-11328,1132a-11330,11332-11333,11335-11339,1133d,11350,1135d-11361,11380-11389,1138b,1138e,11390-113b5,113b7,113d1,113d3,11400-11434,11447-1144a,1145f-11461,11480-114af,114c4-114c5,114c7,11580-115ae,115d8-115db,11600-1162f,11644,11680-116aa,116b8,11700-1171a,11740-11746,11800-1182b,118a0-118df,118ff-11906,11909,1190c-11913,11915-11916,11918-1192f,1193f,11941,119a0-119a7,119aa-119d0,119e1,119e3,11a00,11a0b-11a32,11a3a,11a50,11a5c-11a89,11a9d,11ab0-11af8,11bc0-11be0,11c00-11c08,11c0a-11c2e,11c40,11c72-11c8f,11d00-11d06,11d08-11d09,11d0b-11d30,11d46,11d60-11d65,11d67-11d68,11d6a-11d89,11d98,11ee0-11ef2,11f02,11f04-11f10,11f12-11f33,11fb0,12000-12399,12400-1246e,12480-12543,12f90-12ff0,13000-1342f,13441-13446,13460-143fa,14400-14646,16100-1611d,16800-16a38,16a40-16a5e,16a70-16abe,16ad0-16aed,16b00-16b2f,16b40-16b43,16b63-16b77,16b7d-16b8f,16d40-16d6c,16e40-16e7f,16f00-16f4a,16f50,16f93-16f9f,16fe0-16fe1,16fe3,17000-187f7,18800-18cd5,18cff-18d08,1aff0-1aff3,1aff5-1affb,1affd-1affe,1b000-1b122,1b132,1b150-1b152,1b155,1b164-1b167,1b170-1b2fb,1bc00-1bc6a,1bc70-1bc7c,1bc80-1bc88,1bc90-1bc99,1d400-1d454,1d456-1d49c,1d49e-1d49f,1d4a2,1d4a5-1d4a6,1d4a9-1d4ac,1d4ae-1d4b9,1d4bb,1d4bd-1d4c3,1d4c5-1d505,1d507-1d50a,1d50d-1d514,1d516-1d51c,1d51e-1d539,1d53b-1d53e,1d540-1d544,1d546,1d54a-1d550,1d552-1d6a5,1d6a8-1d6c0,1d6c2-1d6da,1d6dc-1d6fa,1d6fc-1d714,1d716-1d734,1d736-1d74e,1d750-1d76e,1d770-1d788,1d78a-1d7a8,1d7aa-1d7c2,1d7c4-1d7cb,1df00-1df1e,1df25-1df2a,1e030-1e06d,1e100-1e12c,1e137-1e13d,1e14e,1e290-1e2ad,1e2c0-1e2eb,1e4d0-1e4eb,1e5d0-1e5ed,1e5f0,1e7e0-1e7e6,1e7e8-1e7eb,1e7ed-1e7ee,1e7f0-1e7fe,1e800-1e8c4,1e900-1e943,1e94b,1ee00-1ee03,1ee05-1ee1f,1ee21-1ee22,1ee24,1ee27,1ee29-1ee32,1ee34-1ee37,1ee39,1ee3b,1ee42,1ee47,1ee49,1ee4b,1ee4d-1ee4f,1ee51-1ee52,1ee54,1ee57,1ee59,1ee5b,1ee5d,1ee5f,1ee61-1ee62,1ee64,1ee67-1ee6a,1ee6c-1ee72,1ee74-1ee77,1ee79-1ee7c,1ee7e,1ee80-1ee89,1ee8b-1ee9b,1eea1-1eea3,1eea5-1eea9,1eeab-1eebb,20000-2a6df,2a700-2b739,2b740-2b81d,2b820-2cea1,2ceb0-2ebe0,2ebf0-2ee5d,2f800-2fa1d,30000-3134a,31350-323af")
]

def propertyNames : List (String × String) := [
  ("age", "Age"),
  ("ahex", "ASCII_Hex_Digit"),
  ("alpha", "Alphabetic"),
  ("alphabetic", "Alphabetic"),
  ("asciihexdigit", "ASCII_Hex_Digit"),
  ("bc", "Bidi_Class"),
  ("bidic", "Bidi_Control"),
  ("bidiclass", "Bidi_Class"),
  ("bidicontrol", "Bidi_Control"),
  ("bidim", "Bidi_Mirrored"),
  ("bidimirrored", "Bidi_Mirrored"),
  ("bidimirroringglyph", "Bidi_Mirroring_Glyph"),
  ("bidipairedbracket", "Bidi_Paired_Bracket"),
  ("bidipairedbrackettype", "Bidi_Paired_Bracket_Type"),
  ("blk", "Block"),
  ("block", "Block"),
  ("bmg", "Bidi_Mirroring_Glyph"),
  ("bpb", "Bidi_Paired_Bracket"),
  ("bpt", "Bidi_Paired_Bracket_Type"),
  ("canonicalcombiningclass", "Canonical_Combining_Class"),
  ("cased", "Cased"),
  ("casefolding", "Case_Folding"),
  ("caseignorable", "Case_Ignorable"),
  ("ccc", "Canonical_Combining_Class"),
  ("ce", "Composition_Exclusion"),
  ("cf", "Case_Folding"),
  ("changeswhencasefolded", "Changes_When_Casefolded"),
  ("changeswhencasemapped", "Changes_When_Casemapped"),
  ("changeswhenlowercased", "Changes_When_Lowercased"),
  ("changeswhennfkccasefolded", "Changes_When_NFKC_Casefolded"),
  ("changeswhentitlecased", "Changes_When_Titlecased"),
  ("changeswhenuppercased", "Changes_When_Uppercased"),
  ("ci", "Case_Ignorable"),
  ("cjkaccountingnumeric", "kAccountingNumeric"),
  ("cjkcompatibilityvariant", "kCompatibilityVariant"),
  ("cjkiicore", "kIICore"),
  ("cjkirggsource", "kIRG_GSource"),
  ("cjkirghsource", "kIRG_HSource"),
  ("cjkirgjsource", "kIRG_JSource"),
  ("cjkirgkpsource", "kIRG_KPSource"),
  ("cjkirgksource", "kIRG_KSource"),
  ("cjkirgmsource", "kIRG_MSource"),
  ("cjkirgssource", "kIRG_SSource"),
  ("cjkirgtsource", "kIRG_TSource"),
  ("cjkirguksource", "kIRG_UKSource"),
  ("cjkirgusource", "kIRG_USource"),
  ("cjkirgvsource", "kIRG_VSource"),
  ("cjkothernumeric", "kOtherNumeric"),
  ("cjkprimarynumeric", "kPrimaryNumeric"),
  ("cjkrsunicode", "kRSUnicode"),
  ("compex", "Full_Composition_Exclusion"),
  ("compositionexclusion", "Composition_Exclusion"),
  ("cwcf", "Changes_When_Casefolded"),
  ("cwcm", "Changes_When_Casemapped"),
  ("cwkcf", "Changes_When_NFKC_Casefolded"),
  ("cwl", "Changes_When_Lowercased"),
  ("cwt", "Changes_When_Titlecased"),
  ("cwu", "Changes_When_Uppercased"),
  ("dash", "Dash"),
  ("decompositionmapping", "Decomposition_Mapping"),
  ("decompositiontype", "Decomposition_Type"),
  ("defaultignorablecodepoint", "Default_Ignorable_Code_Point"),
  ("dep", "Deprecated"),
  ("deprecated", "Deprecated"),
  ("di", "Default_Ignorable_Code_Point"),
  ("dia", "Diacritic"),
  ("diacritic", "Diacritic"),
  ("dm", "Decomposition_Mapping"),
  ("dt", "Decomposition_Type"),
  ("ea", "East_Asian_Width"),
  ("eastasianwidth", "East_Asian_Width"),
  ("ebase", "Emoji_Modifier_Base"),
  ("ecomp", "Emoji_Component"),
  ("emod", "Emoji_Modifier"),
  ("emoji", "Emoji"),
  ("emojicomponent", "Emoji_Component"),
  ("emojimodifier", "Emoji_Modifier"),
  ("emojimodifierbase", "Emoji_Modifier_Base"),
  ("emojipresentation", "Emoji_Presentation"),
  ("epres", "Emoji_Presentation"),
  ("equideo", "Equivalent_Unified_Ideograph"),
  ("equivalentunifiedideograph", "Equivalent_Unified_Ideograph"),
  ("expandsonnfc", "Expands_On_NFC"),
  ("expandsonnfd", "Expands_On_NFD"),
  ("expandsonnfkc", "Expands_On_NFKC"),
  ("expandsonnfkd", "Expands_On_NFKD"),
  ("ext", "Extender"),
  ("extendedpictographic", "Extended_Pictographic"),
  ("extender", "Extender"),
  ("extpict", "Extended_Pictographic"),
  ("fcnfkc", "FC_NFKC_Closure"),
  ("fcnfkcclosure", "FC_NFKC_Closure"),
  ("fullcompositionexclusion", "Full_Composition_Exclusion"),
  ("gc", "General_Category"),
  ("gcb", "Grapheme_Cluster_Break"),
  ("generalcategory", "General_Category"),
  ("graphemebase", "Grapheme_Base"),
  ("graphemeclusterbreak", "Grapheme_Cluster_Break"),
  ("graphemeextend", "Grapheme_Extend"),
  ("graphemelink", "Grapheme_Link"),
  ("grbase", "Grapheme_Base"),
  ("grext", "Grapheme_Extend"),
  ("grlink", "Grapheme_Link"),
  ("hangulsyllabletype", "Hangul_Syllable_Type"),
  ("hex", "Hex_Digit"),
  ("hexdigit", "Hex_Digit"),
  ("hst", "Hangul_Syllable_Type"),
  ("hyphen", "Hyphen"),
  ("idc", "ID_Continue"),
  ("idcompatmathcontinue", "ID_Compat_Math_Continue"),
  ("idcompatmathstart", "ID_Compat_Math_Start"),
  ("idcontinue", "ID_Continue"),
  ("ideo", "Ideographic"),
  ("ideographic", "Ideographic"),
  ("ids", "ID_Start"),
  ("idsb", "IDS_Binary_Operator"),
  ("idsbinaryoperator", "IDS_Binary_Operator"),
  ("idst", "IDS_Trinary_Operator"),
  ("idstart", "ID_Start"),
  ("idstrinaryoperator", "IDS_Trinary_Operator"),
  ("idsu", "IDS_Unary_Operator"),
  ("idsunaryoperator", "IDS_Unary_Operator"),
  ("incb", "Indic_Conjunct_Break"),
  ("indicconjunctbreak", "Indic_Conjunct_Break"),
  ("indicpositionalcategory", "Indic_Positional_Category"),
  ("indicsyllabiccategory", "Indic_Syllabic_Category"),
  ("inpc", "Indic_Positional_Category"),
  ("insc", "Indic_Syllabic_Category"),
  ("isc", "ISO_Comment"),
  ("jamoshortname", "Jamo_Short_Name"),
  ("jg", "Joining_Group"),
  ("joinc", "Join_Control"),
  ("joincontrol", "Join_Control"),
  ("joininggroup", "Joining_Group"),
  ("joiningtype", "Joining_Type"),
  ("jsn", "Jamo_Short_Name"),
  ("jt", "Joining_Type"),
  ("kaccountingnumeric", "kAccountingNumeric"),
  ("kcompatibilityvariant", "kCompatibilityVariant"),
  ("kehcat", "kEH_Cat"),
  ("kehdesc", "kEH_Desc"),
  ("kehhg", "kEH_HG"),
  ("kehifao", "kEH_IFAO"),
  ("kehjsesh", "kEH_JSesh"),
  ("kehnomirror", "kEH_NoMirror"),
  ("kehnorotate", "kEH_NoRotate"),
  ("kiicore", "kIICore"),
  ("kirggsource", "kIRG_GSource"),
  ("kirghsource", "kIRG_HSource"),
  ("kirgjsource", "kIRG_JSource"),
  ("kirgkpsource", "kIRG_KPSource"),
  ("kirgksource", "kIRG_KSource"),
  ("kirgmsource", "kIRG_MSource"),
  ("kirgssource", "kIRG_SSource"),
  ("kirgtsource", "kIRG_TSource"),
  ("kirguksource", "kIRG_UKSource"),
  ("kirgusource", "kIRG_USource"),
  ("kirgvsource", "kIRG_VSource"),
  ("kothernumeric", "kOtherNumeric"),
  ("kprimarynumeric", "kPrimaryNumeric"),
  ("krsunicode", "kRSUnicode"),
  ("lb", "Line_Break"),
  ("lc", "Lowercase_Mapping"),
  ("linebreak", "Line_Break"),
  ("loe", "Logical_Order_Exception"),
  ("logicalorderexception", "Logical_Order_Exception"),
  ("lower", "Lowercase"),
  ("lowercase", "Lowercase"),
  ("lowercasemapping", "Lowercase_Mapping"),
  ("math", "Math"),
  ("mcm", "Modifier_Combining_Mark"),
  ("modifiercombiningmark", "Modifier_Combining_Mark"),
  ("na", "Name"),
  ("na1", "Unicode_1_Name"),
  ("name", "Name"),
  ("namealias", "Name_Alias"),
  ("nchar", "Noncharacter_Code_Point"),
  ("nfcqc", "NFC_Quick_Check"),
  ("nfcquickcheck", "NFC_Quick_Check"),
  ("nfdqc", "NFD_Quick_Check"),
  ("nfdquickcheck", "NFD_Quick_Check"),
  ("nfkccasefold", "NFKC_Casefold"),
  ("nfkccf", "NFKC_Casefold"),
  ("nfkcqc", "NFKC_Quick_Check"),
  ("nfkcquickcheck", "NFKC_Quick_Check"),
  ("nfkcscf", "NFKC_Simple_Casefold"),
  ("nfkcsimplecasefold", "NFKC_Simple_Casefold"),
  ("nfkdqc", "NFKD_Quick_Check"),
  ("nfkdquickcheck", "NFKD_Quick_Check"),
  ("noncharactercodepoint", "Noncharacter_Code_Point"),
  ("nt", "Numeric_Type"),
  ("numerictype", "Numeric_Type"),
  ("numericvalue", "Numeric_Value"),
  ("nv", "Numeric_Value"),
  ("oalpha", "Other_Alphabetic"),
  ("ocomment", "ISO_Comment"),
  ("odi", "Other_Default_Ignorable_Code_Point"),
  ("ogrext", "Other_Grapheme_Extend"),
  ("oidc", "Other_ID_Continue"),
  ("oids", "Other_ID_Start"),
  ("olower", "Other_Lowercase"),
  ("omath", "Other_Math"),
  ("otheralphabetic", "Other_Alphabetic"),
  ("otherdefaultignorablecodepoint", "Other_Default_Ignorable_Code_Point"),
  ("othergraphemeextend", "Other_Grapheme_Extend"),
  ("otheridcontinue", "Other_ID_Continue"),
  ("otheridstart", "Other_ID_Start"),
  ("otherlowercase", "Other_Lowercase"),
  ("othermath", "Other_Math"),
  ("otheruppercase", "Other_Uppercase"),
  ("oupper", "Other_Uppercase"),
  ("patsyn", "Pattern_Syntax"),
  ("patternsyntax", "Pattern_Syntax"),
  ("patternwhitespace", "Pattern_White_Space"),
  ("patws", "Pattern_White_Space"),
  ("pcm", "Prepended_Concatenation_Mark"),
  ("prependedconcatenationmark", "Prepended_Concatenation_Mark"),
  ("qmark", "Quotation_Mark"),
  ("quotationmark", "Quotation_Mark"),
  ("radical", "Radical"),
  ("regionalindicator", "Regional_Indicator"),
  ("ri", "Regional_Indicator"),
  ("sb", "Sentence_Break"),
  ("sc", "Script"),
  ("scf", "Simple_Case_Folding"),
  ("script", "Script"),
  ("scriptextensions", "Script_Extensions"),
  ("scx", "Script_Extensions"),
  ("sd", "Soft_Dotted"),
  ("sentencebreak", "Sentence_Break"),
  ("sentenceterminal", "Sentence_Terminal"),
  ("sfc", "Simple_Case_Folding"),
  ("simplecasefolding", "Simple_Case_Folding"),
  ("simplelowercasemapping", "Simple_Lowercase_Mapping"),
  ("simpletitlecasemapping", "Simple_Titlecase_Mapping"),
  ("simpleuppercasemapping", "Simple_Uppercase_Mapping"),
  ("slc", "Simple_Lowercase_Mapping"),
  ("softdotted", "Soft_Dotted"),
  ("space", "White_Space"),
  ("stc", "Simple_Titlecase_Mapping"),
  ("sterm", "Sentence_Terminal"),
  ("suc", "Simple_Uppercase_Mapping"),
  ("tc", "Titlecase_Mapping"),
  ("term", "Terminal_Punctuation"),
  ("terminalpunctuation", "Terminal_Punctuation"),
  ("titlecasemapping", "Titlecase_Mapping"),
  ("uc", "Uppercase_Mapping"),
  ("uideo", "Unified_Ideograph"),
  ("unicode1name", "Unicode_1_Name"),
  ("unicoderadicalstroke", "kRSUnicode"),
  ("unifiedideograph", "Unified_Ideograph"),
  ("upper", "Uppercase"),
  ("uppercase", "Uppercase"),
  ("uppercasemapping", "Uppercase_Mapping"),
  ("urs", "kRSUnicode"),
  ("variationselector", "Variation_Selector"),
  ("verticalorientation", "Vertical_Orientation"),
  ("vo", "Vertical_Orientation"),
  ("vs", "Variation_Selector"),
  ("wb", "Word_Break"),
  ("whitespace", "White_Space"),
  ("wordbreak", "Word_Break"),
  ("wspace", "White_Space"),
  ("xidc", "XID_Continue"),
  ("xidcontinue", "XID_Continue"),
  ("xids", "XID_Start"),
  ("xidstart", "XID_Start"),
  ("xonfc", "Expands_On_NFC"),
  ("xonfd", "Expands_On_NFD"),
  ("xonfkc", "Expands_On_NFKC"),
  ("xonfkd", "Expands_On_NFKD")
]

def ageNames : List (List String) := [
  ["1.1", "V1_1"],
  ["2.0", "V2_0"],
  ["2.1", "V2_1"],
  ["3.0", "V3_0"],
  ["3.1", "V3_1"],
  ["3.2", "V3_2"],
  ["4.0", "V4_0"],
  ["4.1", "V4_1"],
  ["5.0", "V5_0"],
  ["5.1", "V5_1"],
  ["5.2", "V5_2"],
  ["6.0", "V6_0"],
  ["6.1", "V6_1"],
  ["6.2", "V6_2"],
  ["6.3", "V6_3"],
  ["7.0", "V7_0"],
  ["8.0", "V8_0"],
  ["9.0", "V9_0"],
  ["10.0", "V10_0"],
  ["11.0", "V11_0"],
  ["12.0", "V12_0"],
  ["12.1", "V12_1"],
  ["13.0", "V13_0"],
  ["14.0", "V14_0"],
  ["15.0", "V15_0"],
  ["15.1", "V15_1"],
  ["16.0", "V16_0"],
  ["NA", "Unassigned"]
]

def ageTable : List (String × String) := [
  ("V1_1", "0-1f5,1fa-217,250-2a8,2b0-2de,2e0-2e9,300-345,360-361,374-375,37a,37e,384-38a,38c,38e-3a1,3a3-3ce,3d0-3d6,3da,3dc,3de,3e0,3e2-3f3,401-40c,40e-44f,451-45c,45e-486,490-4c4,4c7-4c8,4cb-4cc,4d0-4eb,4ee-4f5,4f8-4f9,531-556,559-55f,561-587,589,5b0-5b9,5bb-5c3,5d0-5ea,5f0-5f4,60c,61b,61f,621-63a,640-652,660-66d,670-6b7,6ba-6be,6c0-6ce,6d0-6ed,6f0-6f9,901-903,905-939,93c-94d,950-954,958-970,981-983,985-98c,98f-990,993-9a8,9aa-9b0,9b2,9b6-9b9,9bc,9be-9c4,9c7-9c8,9cb-9cd,9d7,9dc-9dd,9df-9e3,9e6-9fa,a02,a05-a0a,a0f-a10,a13-a28,a2a-a30,a32-a33,a35-a36,a38-a39,a3c,a3e-a42,a47-a48,a4b-a4d,a59-a5c,a5e,a66-a74,a81-a83,a85-a8b,a8d,a8f-a91,a93-aa8,aaa-ab0,ab2-ab3,ab5-ab9,abc-ac5,ac7-ac9,acb-acd,ad0,ae0,ae6-aef,b01-b03,b05-b0c,b0f-b10,b13-b28,b2a-b30,b32-b33,b36-b39,b3c-b43,b47-b48,b4b-b4d,b56-b57,b5c-b5d,b5f-b61,b66-b70,b82-b83,b85-b8a,b8e-b90,b92-b95,b99-b9a,b9c,b9e-b9f,ba3-ba4,ba8-baa,bae-bb5,bb7-bb9,bbe-bc2,bc6-bc8,bca-bcd,bd7,be7-bf2,c01-c03,c05-c0c,c0e-c10,c12-c28,c2a-c33,c35-c39,c3e-c44,c46-c48,c4a-c4d,c55-c56,c60-c61,c66-c6f,c82-c83,c85-c8c,c8e-c90,c92-ca8,caa-cb3,cb5-cb9,cbe-cc4,cc6-cc8,cca-ccd,cd5-cd6,cde,ce0-ce1,ce6-cef,d02-d03,d05-d0c,d0e-d10,d12-d28,d2a-d39,d3e-d43,d46-d48,d4a-d4d,d57,d60-d61,d66-d6f,e01-e3a,e3f-e5b,e81-e82,e84,e87-e88,e8a,e8d,e94-e97,e99-e9f,ea1-ea3,ea5,ea7,eaa-eab,ead-eb9,ebb-ebd,ec0-ec4,ec6,ec8-ecd,ed0-ed9,edc-edd,10a0-10c5,10d0-10f6,10fb,1100-1159,115f-11a2,11a8-11f9,1e00-1e9a,1ea0-1ef9,1f00-1f15,1f18-1f1d,1f20-1f45,1f48-1f4d,1f50-1f57,1f59,1f5b,1f5d,1f5f-1f7d,1f80-1fb4,1fb6-1fc4,1fc6-1fd3,1fd6-1fdb,1fdd-1fef,1ff2-1ff4,1ff6-1ffe,2000-202e,2030-2046,206a-2070,2074-208e,20a0-20aa,20d0-20e1,2100-2138,2153-2182,2190-21ea,2200-22f1,2300,2302-237a,2400-2424,2440-244a,2460-24ea,2500-2595,25a0-25ef,2600-2613,261a-266f,2701-2704,2706-2709,270c-2727,2729-274b,274d,274f-2752,2756,2758-275e,2761-2767,2776-2794,2798-27af,27b1-27be,3000-3037,303f,3041-3094,3099-309e,30a1-30fe,3105-312c,3131-318e,3190-319f,3200-321c,3220-3243,3260-327b,327f-32b0,32c0-32cb,32d0-32fe,3300-3376,337b-33dd,33e0-33fe,4e00-9fa5,e000-fa2d,fb00-fb06,fb13-fb17,fb1e-fb36,fb38-fb3c,fb3e,fb40-fb41,fb43-fb44,fb46-fbb1,fbd3-fd3f,fd50-fd8f,fd92-fdc7,fdf0-fdfb,fe20-fe23,fe30-fe44,fe49-fe52,fe54-fe66,fe68-fe6b,fe70-fe72,fe74,fe76-fefc,feff,ff01-ff5e,ff61-ffbe,ffc2-ffc7,ffca-ffcf,ffd2-ffd7,ffda-ffdc,ffe0-ffe6,ffe8-ffee,fffd-ffff"),
  ("V2_0", "591-5a1,5a3-5af,5c4,f00-f47,f49-f69,f71-f8b,f90-f95,f97,f99-fad,fb1-fb7,fb9,1e9b,20ab,ac00-d7a3,1fffe-1ffff,2fffe-2ffff,3fffe-3ffff,4fffe-4ffff,5fffe-5ffff,6fffe-6ffff,7fffe-7ffff,8fffe-8ffff,9fffe-9ffff,afffe-affff,bfffe-bffff,cfffe-cffff,dfffe-dffff,efffe-10ffff"),
  ("V2_1", "20ac,fffc"),
  ("V3_0", "1f6-1f9,218-21f,222-233,2a9-2ad,2df,2ea-2ee,346-34e,362,3d7,3db,3dd,3df,3e1,400,40d,450,45d,488-489,48c-48f,4ec-4ed,58a,653-655,6b8-6b9,6bf,6cf,6fa-6fe,700-70d,70f-72c,730-74a,780-7b0,d82-d83,d85-d96,d9a-db1,db3-dbb,dbd,dc0-dc6,dca,dcf-dd4,dd6,dd8-ddf,df2-df4,f6a,f96,fae-fb0,fb8,fba-fbc,fbe-fcc,fcf,1000-1021,1023-1027,1029-102a,102c-1032,1036-1039,1040-1059,1200-1206,1208-1246,1248,124a-124d,1250-1256,1258,125a-125d,1260-1286,1288,128a-128d,1290-12ae,12b0,12b2-12b5,12b8-12be,12c0,12c2-12c5,12c8-12ce,12d0-12d6,12d8-12ee,12f0-130e,1310,1312-1315,1318-131e,1320-1346,1348-135a,1361-137c,13a0-13f4,1401-1676,1680-169c,16a0-16f0,1780-17dc,17e0-17e9,1800-180e,1810-1819,1820-1877,1880-18a9,202f,2048-204d,20ad-20af,20e2-20e3,2139-213a,2183,21eb-21f3,2301,237b,237d-239a,2425-2426,25f0-25f7,2619,2670-2671,2800-28ff,2e80-2e99,2e9b-2ef3,2f00-2fd5,2ff0-2ffb,3038-303a,303e,31a0-31b7,3400-4db5,a000-a48c,a490-a4a1,a4a4-a4b3,a4b5-a4c0,a4c2-a4c4,a4c6,fb1d,fff9-fffb"),
  ("V3_1", "3f4-3f5,fdd0-fdef,10300-1031e,10320-10323,10330-1034a,10400-10425,10428-1044d,1d000-1d0f5,1d100-1d126,1d12a-1d1dd,1d400-1d454,1d456-1d49c,1d49e-1d49f,1d4a2,1d4a5-1d4a6,1d4a9-1d4ac,1d4ae-1d4b9,1d4bb,1d4bd-1d4c0,1d4c2-1d4c3,1d4c5-1d505,1d507-1d50a,1d50d-1d514,1d516-1d51c,1d51e-1d539,1d53b-1d53e,1d540-1d544,1d546,1d54a-1d550,1d552-1d6a3,1d6a8-1d7c9,1d7ce-1d7ff,20000-2a6d6,2f800-2fa1d,e0001,e0020-e007f"),
  ("V3_2", "220,34f,363-36f,3d8-3d9,3f6,48a-48b,4c5-4c6,4c9-4ca,4cd-4ce,500-50f,66e-66f,7b1,10f7-10f8,1700-170c,170e-1714,1720-1736,1740-1753,1760-176c,176e-1770,1772-1773,2047,204e-2052,2057,205f-2063,2071,20b0-20b1,20e4-20ea,213d-214b,21f4-21ff,22f2-22ff,237c,239b-23ce,24eb-24fe,2596-259f,25f8-25ff,2616-2617,2672-267d,2680-2689,2768-2775,27d0-27eb,27f0-27ff,2900-2aff,303b-303d,3095-3096,309f-30a0,30ff,31f0-31ff,3251-325f,32b1-32bf,a4a2-a4a3,a4b4,a4c1,a4c5,fa30-fa6a,fdfc,fe00-fe0f,fe45-fe46,fe73,ff5f-ff60"),
  ("V4_0", "221,234-236,2ae-2af,2ef-2ff,350-357,35d-35f,3f7-3fb,600-603,60d-615,656-658,6ee-6ef,6ff,72d-72f,74d-74f,904,9bd,a01,a03,a8c,ae1-ae3,af1,b35,b71,bf3-bfa,cbc-cbd,17dd,17f0-17f9,1900-191c,1920-192b,1930-193b,1940,1944-196d,1970-1974,19e0-19ff,1d00-1d6b,2053-2054,213b,23cf-23d0,24ff,2614-2615,268a-2691,26a0-26a1,2b00-2b0d,321d-321e,3250,327c-327d,32cc-32cf,3377-337a,33de-33df,33ff,4dc0-4dff,fdfd,fe47-fe48,10000-1000b,1000d-10026,10028-1003a,1003c-1003d,1003f-1004d,10050-1005d,10080-100fa,10100-10102,10107-10133,10137-1013f,10380-1039d,1039f,10426-10427,1044e-1049d,104a0-104a9,10800-10805,10808,1080a-10835,10837-10838,1083c,1083f,1d300-1d356,1d4c1,e0100-e01ef"),
  ("V4_1", "237-241,358-35c,3fc-3ff,4f6-4f7,5a2,5c5-5c7,60b,61e,659-65e,750-76d,97d,9ce,bb6,be6,fd0-fd1,10f9-10fa,10fc,1207,1247,1287,12af,12cf,12ef,130f,131f,1347,135f-1360,1380-1399,1980-19a9,19b0-19c9,19d0-19d9,19de-19df,1a00-1a1b,1a1e-1a1f,1d6c-1dc3,2055-2056,2058-205e,2090-2094,20b2-20b5,20eb,213c,214c,23d1-23db,2618,267e-267f,2692-269c,26a2-26b1,27c0-27c6,2b0e-2b13,2c00-2c2e,2c30-2c5e,2c80-2cea,2cf9-2d25,2d30-2d65,2d6f,2d80-2d96,2da0-2da6,2da8-2dae,2db0-2db6,2db8-2dbe,2dc0-2dc6,2dc8-2dce,2dd0-2dd6,2dd8-2dde,2e00-2e17,2e1c-2e1d,31c0-31cf,327e,9fa6-9fbb,a700-a716,a800-a82b,fa70-fad9,fe10-fe19,10140-1018a,103a0-103c3,103c8-103d5,10a00-10a03,10a05-10a06,10a0c-10a13,10a15-10a17,10a19-10a33,10a38-10a3a,10a3f-10a47,10a50-10a58,1d200-1d245,1d6a4-1d6a5"),
  ("V5_0", "242-24f,37b-37d,4cf,4fa-4ff,510-513,5ba,7c0-7fa,97b-97c,97e-97f,ce2-ce3,cf1-cf2,1b00-1b4b,1b50-1b7c,1dc4-1dca,1dfe-1dff,20ec-20ef,214d-214e,2184,23dc-23e7,26b2,27c7-27ca,2b14-2b1a,2b20-2b23,2c60-2c6c,2c74-2c77,a717-a71a,a720-a721,a840-a877,10900-10919,1091f,12000-1236e,12400-12462,12470-12473,1d360-1d371,1d7ca-1d7cb"),
  ("V5_1", "370-373,376-377,3cf,487,514-523,606-60a,616-61a,63b-63f,76e-77f,971-972,a51,a75,b44,b62-b63,bd0,c3d,c58-c59,c62-c63,c78-c7f,d3d,d44,d62-d63,d70-d75,d79-d7f,f6b-f6c,fce,fd2-fd4,1022,1028,102b,1033-1035,103a-103f,105a-1099,109e-109f,18aa,1b80-1baa,1bae-1bb9,1c00-1c37,1c3b-1c49,1c4d-1c7f,1dcb-1de6,1e9c-1e9f,1efa-1eff,2064,20f0,214f,2185-2188,269d,26b3-26bc,26c0-26c3,27cc,27ec-27ef,2b1b-2b1f,2b24-2b4c,2b50-2b54,2c6d-2c6f,2c71-2c73,2c78-2c7d,2de0-2dff,2e18-2e1b,2e1e-2e30,312d,31d0-31e3,9fbc-9fc3,a500-a62b,a640-a65f,a662-a673,a67c-a697,a71b-a71f,a722-a78c,a7fb-a7ff,a880-a8c4,a8ce-a8d9,a900-a953,a95f,aa00-aa36,aa40-aa4d,aa50-aa59,aa5c-aa5f,fe24-fe26,10190-1019b,101d0-101fd,10280-1029c,102a0-102d0,10920-10939,1093f,1d129,1f000-1f02b,1f030-1f093"),
  ("V5_2", "524-525,800-82d,830-83e,900,94e,955,979-97a,9fb,fd5-fd8,109a-109d,115a-115e,11a3-11a7,11fa-11ff,1400,1677-167f,18b0-18f5,19aa-19ab,19da,1a20-1a5e,1a60-1a7c,1a7f-1a89,1a90-1a99,1aa0-1aad,1cd0-1cf2,1dfd,20b6-20b8,2150-2152,2189,23e8,269e-269f,26bd-26bf,26c4-26cd,26cf-26e1,26e3,26e8-26ff,2757,2b55-2b59,2c70,2c7e-2c7f,2ceb-2cf1,2e31,3244-324f,9fc4-9fcb,a4d0-a4ff,a6a0-a6f7,a830-a839,a8e0-a8fb,a960-a97c,a980-a9cd,a9cf-a9d9,a9de-a9df,aa60-aa7b,aa80-aac2,aadb-aadf,abc0-abed,abf0-abf9,d7b0-d7c6,d7cb-d7fb,fa6b-fa6d,10840-10855,10857-1085f,1091a-1091b,10a60-10a7f,10b00-10b35,10b39-10b55,10b58-10b72,10b78-10b7f,10c00-10c48,10e60-10e7e,11080-110c1,13000-1342e,1f100-1f10a,1f110-1f12e,1f131,1f13d,1f13f,1f142,1f146,1f14a-1f14e,1f157,1f15f,1f179,1f17b-1f17c,1f17f,1f18a-1f18d,1f190,1f200,1f210-1f231,1f240-1f248,2a700-2b734"),
  ("V6_0", "526-527,620,65f,840-85b,85e,93a-93b,94f,956-957,973-977,b72-b77,d29,d3a,d4e,f8c-f8f,fd9-fda,135d-135e,1bc0-1bf3,1bfc-1bff,1dfc,2095-209c,20b9,23e9-23f3,26ce,26e2,26e4-26e7,2705,270a-270b,2728,274c,274e,2753-2755,275f-2760,2795-2797,27b0,27bf,27ce-27cf,2d70,2d7f,31b8-31ba,a660-a661,a78d-a78e,a790-a791,a7a0-a7a9,a7fa,ab01-ab06,ab09-ab0e,ab11-ab16,ab20-ab26,ab28-ab2e,fbb2-fbc1,11000-1104d,11052-1106f,16800-16a38,1b000-1b001,1f0a0-1f0ae,1f0b1-1f0be,1f0c1-1f0cf,1f0d1-1f0df,1f130,1f132-1f13c,1f13e,1f140-1f141,1f143-1f145,1f147-1f149,1f14f-1f156,1f158-1f15e,1f160-1f169,1f170-1f178,1f17a,1f17d-1f17e,1f180-1f189,1f18e-1f18f,1f191-1f19a,1f1e6-1f1ff,1f201-1f202,1f232-1f23a,1f250-1f251,1f300-1f320,1f330-1f335,1f337-1f37c,1f380-1f393,1f3a0-1f3c4,1f3c6-1f3ca,1f3e0-1f3f0,1f400-1f43e,1f440,1f442-1f4f7,1f4f9-1f4fc,1f500-1f53d,1f550-1f567,1f5fb-1f5ff,1f601-1f610,1f612-1f614,1f616,1f618,1f61a,1f61c-1f61e,1f620-1f625,1f628-1f62b,1f62d,1f630-1f633,1f635-1f640,1f645-1f64f,1f680-1f6c5,1f700-1f773,2b740-2b81d"),
  ("V6_1", "58f,604,8a0,8a2-8ac,8e4-8fe,af0,ede-edf,10c7,10cd,10fd-10ff,1bab-1bad,1bba-1bbf,1cc0-1cc7,1cf3-1cf6,27cb,27cd,2cf2-2cf3,2d27,2d2d,2d66-2d67,2e32-2e3b,9fcc,a674-a67b,a69f,a792-a793,a7aa,a7f8-a7f9,aae0-aaf6,fa2e-fa2f,10980-109b7,109be-109bf,110d0-110e8,110f0-110f9,11100-11134,11136-11143,11180-111c8,111d0-111d9,11680-116b7,116c0-116c9,16f00-16f44,16f50-16f7e,16f8f-16f9f,1ee00-1ee03,1ee05-1ee1f,1ee21-1ee22,1ee24,1ee27,1ee29-1ee32,1ee34-1ee37,1ee39,1ee3b,1ee42,1ee47,1ee49,1ee4b,1ee4d-1ee4f,1ee51-1ee52,1ee54,1ee57,1ee59,1ee5b,1ee5d,1ee5f,1ee61-1ee62,1ee64,1ee67-1ee6a,1ee6c-1ee72,1ee74-1ee77,1ee79-1ee7c,1ee7e,1ee80-1ee89,1ee8b-1ee9b,1eea1-1eea3,1eea5-1eea9,1eeab-1eebb,1eef0-1eef1,1f16a-1f16b,1f540-1f543,1f600,1f611,1f615,1f617,1f619,1f61b,1f61f,1f626-1f627,1f62c,1f62e-1f62f,1f634"),
  ("V6_2", "20ba"),
  ("V6_3", "61c,2066-2069"),
  ("V7_0", "37f,528-52f,58d-58e,605,8a1,8ad-8b2,8ff,978,980,c00,c34,c81,d01,de6-def,16f1-16f8,191d-191e,1ab0-1abe,1cf8-1cf9,1de7-1df5,20bb-20bd,23f4-23fa,2700,2b4d-2b4f,2b5a-2b73,2b76-2b95,2b98-2bb9,2bbd-2bc8,2bca-2bd1,2e3c-2e42,a698-a69d,a794-a79f,a7ab-a7ad,a7b0-a7b1,a7f7,a9e0-a9fe,aa7c-aa7f,ab30-ab5f,ab64-ab65,fe27-fe2d,1018b-1018c,101a0,102e0-102fb,1031f,10350-1037a,10500-10527,10530-10563,1056f,10600-10736,10740-10755,10760-10767,10860-1089e,108a7-108af,10a80-10a9f,10ac0-10ae6,10aeb-10af6,10b80-10b91,10b99-10b9c,10ba9-10baf,1107f,11150-11176,111cd,111da,111e1-111f4,11200-11211,11213-1123d,112b0-112ea,112f0-112f9,11301-11303,11305-1130c,1130f-11310,11313-11328,1132a-11330,11332-11333,11335-11339,1133c-11344,11347-11348,1134b-1134d,11357,1135d-11363,11366-1136c,11370-11374,11480-114c7,114d0-114d9,11580-115b5,115b8-115c9,11600-11644,11650-11659,118a0-118f2,118ff,11ac0-11af8,1236f-12398,12463-1246e,12474,16a40-16a5e,16a60-16a69,16a6e-16a6f,16ad0-16aed,16af0-16af5,16b00-16b45,16b50-16b59,16b5b-16b61,16b63-16b77,16b7d-16b8f,1bc00-1bc6a,1bc70-1bc7c,1bc80-1bc88,1bc90-1bc99,1bc9c-1bca3,1e800-1e8c4,1e8c7-1e8d6,1f0bf,1f0e0-1f0f5,1f10b-1f10c,1f321-1f32c,1f336,1f37d,1f394-1f39f,1f3c5,1f3cb-1f3ce,1f3d4-1f3df,1f3f1-1f3f7,1f43f,1f441,1f4f8,1f4fd-1f4fe,1f53e-1f53f,1f544-1f54a,1f568-1f579,1f57b-1f5a3,1f5a5-1f5fa,1f641-1f642,1f650-1f67f,1f6c6-1f6cf,1f6e0-1f6ec,1f6f0-1f6f3,1f780-1f7d4,1f800-1f80b,1f810-1f847,1f850-1f859,1f860-1f887,1f890-1f8ad"),
  ("V8_0", "8b3-8b4,8e3,af9,c5a,d5f,13f5,13f8-13fd,20be,218a-218b,2bec-2bef,9fcd-9fd5,a69e,a78f,a7b2-a7b7,a8fc-a8fd,ab60-ab63,ab70-abbf,fe2e-fe2f,108e0-108f2,108f4-108f5,108fb-108ff,109bc-109bd,109c0-109cf,109d2-109ff,10c80-10cb2,10cc0-10cf2,10cfa-10cff,111c9-111cc,111db-111df,11280-11286,11288,1128a-1128d,1128f-1129d,1129f-112a9,11300,11350,115ca-115dd,11700-11719,1171d-1172b,11730-1173f,12399,12480-12543,14400-14646,1d1de-1d1e8,1d800-1da8b,1da9b-1da9f,1daa1-1daaf,1f32d-1f32f,1f37e-1f37f,1f3cf-1f3d3,1f3f8-1f3ff,1f4ff,1f54b-1f54f,1f643-1f644,1f6d0,1f910-1f918,1f980-1f984,1f9c0,2b820-2cea1"),
  ("V9_0", "8b6-8bd,8d4-8e2,c80,d4f,d54-d56,d58-d5e,d76-d78,1c80-1c88,1dfb,23fb-23fe,2e43-2e44,a7ae,a8c5,1018d-1018e,104b0-104d3,104d8-104fb,1123e,11400-11459,1145b,1145d,11660-1166c,11c00-11c08,11c0a-11c36,11c38-11c45,11c50-11c6c,11c70-11c8f,11c92-11ca7,11ca9-11cb6,16fe0,17000-187ec,18800-18af2,1e000-1e006,1e008-1e018,1e01b-1e021,1e023-1e024,1e026-1e02a,1e900-1e94a,1e950-1e959,1e95e-1e95f,1f19b-1f1ac,1f23b,1f57a,1f5a4,1f6d1-1f6d2,1f6f4-1f6f6,1f919-1f91e,1f920-1f927,1f930,1f933-1f93e,1f940-1f94b,1f950-1f95e,1f985-1f991"),
  ("V10_0", "860-86a,9fc-9fd,afa-aff,d00,d3b-d3c,1cf7,1df6-1df9,20bf,23ff,2bd2,2e45-2e49,312e,9fd6-9fea,1032d-1032f,11a00-11a47,11a50-11a83,11a86-11a9c,11a9e-11aa2,11d00-11d06,11d08-11d09,11d0b-11d36,11d3a,11d3c-11d3d,11d3f-11d47,11d50-11d59,16fe1,1b002-1b11e,1b170-1b2fb,1f260-1f265,1f6d3-1f6d4,1f6f7-1f6f8,1f900-1f90b,1f91f,1f928-1f92f,1f931-1f932,1f94c,1f95f-1f96b,1f992-1f997,1f9d0-1f9e6,2ceb0-2ebe0"),
  ("V11_0", "560,588,5ef,7fd-7ff,8d3,9fe,a76,c04,c84,1878,1c90-1cba,1cbd-1cbf,2bba-2bbc,2bd3-2beb,2bf0-2bfe,2e4a-2e4e,312f,9feb-9fef,a7af,a7b8-a7b9,a8fe-a8ff,10a34-10a35,10a48,10d00-10d27,10d30-10d39,10f00-10f27,10f30-10f59,110cd,11144-11146,1133b,1145e,1171a,11800-1183b,11a9d,11d60-11d65,11d67-11d68,11d6a-11d8e,11d90-11d91,11d93-11d98,11da0-11da9,11ee0-11ef8,16e40-16e9a,187ed-187f1,1d2e0-1d2f3,1d372-1d378,1ec71-1ecb4,1f12f,1f6f9,1f7d5-1f7d8,1f94d-1f94f,1f96c-1f970,1f973-1f976,1f97a,1f97c-1f97f,1f998-1f9a2,1f9b0-1f9b9,1f9c1-1f9c2,1f9e7-1f9ff,1fa60-1fa6d"),
  ("V12_0", "c77,e86,e89,e8c,e8e-e93,e98,ea0,ea8-ea9,eac,eba,1cfa,2bc9,2bff,2e4f,a7ba-a7bf,a7c2-a7c6,ab66-ab67,10fe0-10ff6,1145f,116b8,119a0-119a7,119aa-119d7,119da-119e4,11a84-11a85,11fc0-11ff1,11fff,13430-13438,16f45-16f4a,16f4f,16f7f-16f87,16fe2-16fe3,187f2-187f7,1b150-1b152,1b164-1b167,1e100-1e12c,1e130-1e13d,1e140-1e149,1e14e-1e14f,1e2c0-1e2f9,1e2ff,1e94b,1ed01-1ed3d,1f16c,1f6d5,1f6fa,1f7e0-1f7eb,1f90d-1f90f,1f93f,1f971,1f97b,1f9a5-1f9aa,1f9ae-1f9af,1f9ba-1f9bf,1f9c3-1f9ca,1f9cd-1f9cf,1fa00-1fa53,1fa70-1fa73,1fa78-1fa7a,1fa80-1fa82,1fa90-1fa95"),
  ("V12_1", "32ff"),
  ("V13_0", "8be-8c7,b55,d04,d81,1abf-1ac0,2b97,2e50-2e52,31bb-31bf,4db6-4dbf,9ff0-9ffc,a7c7-a7ca,a7f5-a7f6,a82c,ab68-ab6b,1019c,10e80-10ea9,10eab-10ead,10eb0-10eb1,10fb0-10fcb,11147,111ce-111cf,1145a,11460-11461,11900-11906,11909,1190c-11913,11915-11916,11918-11935,11937-11938,1193b-11946,11950-11959,11fb0,16fe4,16ff0-16ff1,18af3-18cd5,18d00-18d08,1f10d-1f10f,1f16d-1f16f,1f1ad,1f6d6-1f6d7,1f6fb-1f6fc,1f8b0-1f8b1,1f90c,1f972,1f977-1f978,1f9a3-1f9a4,1f9ab-1f9ad,1f9cb,1fa74,1fa83-1fa86,1fa96-1faa8,1fab0-1fab6,1fac0-1fac2,1fad0-1fad6,1fb00-1fb92,1fb94-1fbca,1fbf0-1fbf9,2a6d7-2a6dd,30000-3134a"),
  ("V14_0", "61d,870-88e,890-891,898-89f,8b5,8c8-8d2,c3c,c5d,cdd,170d,1715,171f,180f,1ac1-1ace,1b4c,1b7d-1b7e,1dfa,20c0,2c2f,2c5f,2e53-2e5d,9ffd-9fff,a7c0-a7c1,a7d0-a7d1,a7d3,a7d5-a7d9,a7f2-a7f4,fbc2,fd40-fd4f,fdcf,fdfe-fdff,10570-1057a,1057c-1058a,1058c-10592,10594-10595,10597-105a1,105a3-105b1,105b3-105b9,105bb-105bc,10780-10785,10787-107b0,107b2-107ba,10f70-10f89,11070-11075,110c2,116b9,11740-11746,11ab0-11abf,12f90-12ff2,16a70-16abe,16ac0-16ac9,1aff0-1aff3,1aff5-1affb,1affd-1affe,1b11f-1b122,1cf00-1cf2d,1cf30-1cf46,1cf50-1cfc3,1d1e9-1d1ea,1df00-1df1e,1e290-1e2ae,1e7e0-1e7e6,1e7e8-1e7eb,1e7ed-1e7ee,1e7f0-1e7fe,1f6dd-1f6df,1f7f0,1f979,1f9cc,1fa7b-1fa7c,1faa9-1faac,1fab7-1faba,1fac3-1fac5,1fad7-1fad9,1fae0-1fae7,1faf0-1faf6,2a6de-2a6df,2b735-2b738"),
  ("V15_0", "cf3,ece,10efd-10eff,1123f-11241,11b00-11b09,11f00-11f10,11f12-11f3a,11f3e-11f59,1342f,13439-13455,1b132,1b155,1d2c0-1d2d3,1df25-1df2a,1e030-1e06d,1e08f,1e4d0-1e4f9,1f6dc,1f774-1f776,1f77b-1f77f,1f7d9,1fa75-1fa77,1fa87-1fa88,1faad-1faaf,1fabb-1fabd,1fabf,1face-1facf,1fada-1fadb,1fae8,1faf7-1faf8,2b739,31350-323af"),
  ("V15_1", "2ffc-2fff,31ef,2ebf0-2ee5d"),
  ("V16_0", "897,1b4e-1b4f,1b7f,1c89-1c8a,2427-2429,31e4-31e5,a7cb-a7cd,a7da-a7dc,105c0-105f3,10d40-10d65,10d69-10d85,10d8e-10d8f,10ec2-10ec4,10efc,11380-11389,1138b,1138e,11390-113b5,113b7-113c0,113c2,113c5,113c7-113ca,113cc-113d5,113d7-113d8,113e1-113e2,116d0-116e3,11bc0-11be1,11bf0-11bf9,11f5a,13460-143fa,16100-16139,16d40-16d79,18cff,1cc00-1ccf9,1cd00-1ceb3,1e5d0-1e5fa,1e5ff,1f8b2-1f8bb,1f8c0-1f8c1,1fa89,1fa8f,1fabe,1fac6,1fadc,1fadf,1fae9,1fbcb-1fbef")
]

def graphemeBreakNames : List (List String) := [
  ["CN", "Control"],
  ["CR", "CR"],
  ["EB", "E_Base"],
  ["EBG", "E_Base_GAZ"],
  ["EM", "E_Modifier"],
  ["EX", "Extend"],
  ["GAZ", "Glue_After_Zwj"],
  ["L", "L"],
  ["LF", "LF"],
  ["LV", "LV"],
  ["LVT", "LVT"],
  ["PP", "Prepend"],
  ["RI", "Regional_Indicator"],
  ["SM", "SpacingMark"],
  ["T", "T"],
  ["V", "V"],
  ["XX", "Other"],
  ["ZWJ", "ZWJ"]
]

def graphemeBreakTable : List (String × String) := [
  ("CR", "d"),
  ("Control", "0-9,b-c,e-1f,7f-9f,ad,61c,180e,200b,200e-200f,2028-202e,2060-206f,feff,fff0-fffb,13430-1343f,1bca0-1bca3,1d173-1d17a,e0000-e001f,e0080-e00ff,e01f0-e0fff"),
  ("Extend", "300-36f,483-489,591-5bd,5bf,5c1-5c2,5c4-5c5,5c7,610-61a,64b-65f,670,6d6-6dc,6df-6e4,6e7-6e8,6ea-6ed,711,730-74a,7a6-7b0,7eb-7f3,7fd,816-819,81b-823,825-827,829-82d,859-85b,897-89f,8ca-8e1,8e3-902,93a,93c,941-948,94d,951-957,962-963,981,9bc,9be,9c1-9c4,9cd,9d7,9e2-9e3,9fe,a01-a02,a3c,a41-a42,a47-a48,a4b-a4d,a51,a70-a71,a75,a81-a82,abc,ac1-ac5,ac7-ac8,acd,ae2-ae3,afa-aff,b01,b3c,b3e-b3f,b41-b44,b4d,b55-b57,b62-b63,b82,bbe,bc0,bcd,bd7,c00,c04,c3c,c3e-c40,c46-c48,c4a-c4d,c55-c56,c62-c63,c81,cbc,cbf-cc0,cc2,cc6-cc8,cca-ccd,cd5-cd6,ce2-ce3,d00-d01,d3b-d3c,d3e,d41-d44,d4d,d57,d62-d63,d81,dca,dcf,dd2-dd4,dd6,ddf,e31,e34-e3a,e47-e4e,eb1,eb4-ebc,ec8-ece,f18-f19,f35,f37,f39,f71-f7e,f80-f84,f86-f87,f8d-f97,f99-fbc,fc6,102d-1030,1032-1037,1039-103a,103d-103e,1058-1059,105e-1060,1071-1074,1082,1085-1086,108d,109d,135d-135f,1712-1715,1732-1734,1752-1753,1772-1773,17b4-17b5,17b7-17bd,17c6,17c9-17d3,17dd,180b-180d,180f,1885-1886,18a9,1920-1922,1927-1928,1932,1939-193b,1a17-1a18,1a1b,1a56,1a58-1a5e,1a60,1a62,1a65-1a6c,1a73-1a7c,1a7f,1ab0-1ace,1b00-1b03,1b34-1b3d,1b42-1b44,1b6b-1b73,1b80-1b81,1ba2-1ba5,1ba8-1bad,1be6,1be8-1be9,1bed,1bef-1bf3,1c2c-1c33,1c36-1c37,1cd0-1cd2,1cd4-1ce0,1ce2-1ce8,1ced,1cf4,1cf8-1cf9,1dc0-1dff,200c,20d0-20f0,2cef-2cf1,2d7f,2de0-2dff,302a-302f,3099-309a,a66f-a672,a674-a67d,a69e-a69f,a6f0-a6f1,a802,a806,a80b,a825-a826,a82c,a8c4-a8c5,a8e0-a8f1,a8ff,a926-a92d,a947-a951,a953,a980-a982,a9b3,a9b6-a9b9,a9bc-a9bd,a9c0,a9e5,aa29-aa2e,aa31-aa32,aa35-aa36,aa43,aa4c,aa7c,aab0,aab2-aab4,aab7-aab8,aabe-aabf,aac1,aaec-aaed,aaf6,abe5,abe8,abed,fb1e,fe00-fe0f,fe20-fe2f,ff9e-ff9f,101fd,102e0,10376-1037a,10a01-10a03,10a05-10a06,10a0c-10a0f,10a38-10a3a,10a3f,10ae5-10ae6,10d24-10d27,10d69-10d6d,10eab-10eac,10efc-10eff,10f46-10f50,10f82-10f85,11001,11038-11046,11070,11073-11074,1107f-11081,110b3-110b6,110b9-110ba,110c2,11100-11102,11127-1112b,1112d-11134,11173,11180-11181,111b6-111be,111c0,111c9-111cc,111cf,1122f-11231,11234-11237,1123e,11241,112df,112e3-112ea,11300-11301,1133b-1133c,1133e,11340,1134d,11357,11366-1136c,11370-11374,113b8,113bb-113c0,113c2,113c5,113c7-113c9,113ce-113d0,113d2,113e1-113e2,11438-1143f,11442-11444,11446,1145e,114b0,114b3-114b8,114ba,114bd,114bf-114c0,114c2-114c3,115af,115b2-115b5,115bc-115bd,115bf-115c0,115dc-115dd,11633-1163a,1163d,1163f-11640,116ab,116ad,116b0-116b7,1171d,1171f,11722-11725,11727-1172b,1182f-11837,11839-1183a,11930,1193b-1193e,11943,119d4-119d7,119da-119db,119e0,11a01-11a0a,11a33-11a38,11a3b-11a3e,11a47,11a51-11a56,11a59-11a5b,11a8a-11a96,11a98-11a99,11c30-11c36,11c38-11c3d,11c3f,11c92-11ca7,11caa-11cb0,11cb2-11cb3,11cb5-11cb6,11d31-11d36,11d3a,11d3c-11d3d,11d3f-11d45,11d47,11d90-11d91,11d95,11d97,11ef3-11ef4,11f00-11f01,11f36-11f3a,11f40-11f42,11f5a,13440,13447-13455,1611e-16129,1612d-1612f,16af0-16af4,16b30-16b36,16f4f,16f8f-16f92,16fe4,16ff0-16ff1,1bc9d-1bc9e,1cf00-1cf2d,1cf30-1cf46,1d165-1d169,1d16d-1d172,1d17b-1d182,1d185-1d18b,1d1aa-1d1ad,1d242-1d244,1da00-1da36,1da3b-1da6c,1da75,1da84,1da9b-1da9f,1daa1-1daaf,1e000-1e006,1e008-1e018,1e01b-1e021,1e023-1e024,1e026-1e02a,1e08f,1e130-1e136,1e2ae,1e2ec-1e2ef,1e4ec-1e4ef,1e5ee-1e5ef,1e8d0-1e8d6,1e944-1e94a,1f3fb-1f3ff,e0020-e007f,e0100-e01ef"),
  ("L", "1100-115f,a960-a97c"),
  ("LF", "a"),
  ("LV", "ac00,ac1c,ac38,ac54,ac70,ac8c,aca8,acc4,ace0,acfc,ad18,ad34,ad50,ad6c,ad88,ada4,adc0,addc,adf8,ae14,ae30,ae4c,ae68,ae84,aea0,aebc,aed8,aef4,af10,af2c,af48,af64,af80,af9c,afb8,afd4,aff0,b00c,b028,b044,b060,b07c,b098,b0b4,b0d0,b0ec,b108,b124,b140,b15c,b178,b194,b1b0,b1cc,b1e8,b204,b220,b23c,b258,b274,b290,b2ac,b2c8,b2e4,b300,b31c,b338,b354,b370,b38c,b3a8,b3c4,b3e0,b3fc,b418,b434,b450,b46c,b488,b4a4,b4c0,b4dc,b4f8,b514,b530,b54c,b568,b584,b5a0,b5bc,b5d8,b5f4,b610,b62c,b648,b664,b680,b69c,b6b8,b6d4,b6f0,b70c,b728,b744,b760,b77c,b798,b7b4,b7d0,b7ec,b808,b824,b840,b85c,b878,b894,b8b0,b8cc,b8e8,b904,b920,b93c,b958,b974,b990,b9ac,b9c8,b9e4,ba00,ba1c,ba38,ba54,ba70,ba8c,baa8,bac4,bae0,bafc,bb18,bb34,bb50,bb6c,bb88,bba4,bbc0,bbdc,bbf8,bc14,bc30,bc4c,bc68,bc84,bca0,bcbc,bcd8,bcf4,bd10,bd2c,bd48,bd64,bd80,bd9c,bdb8,bdd4,bdf0,be0c,be28,be44,be60,be7c,be98,beb4,bed0,beec,bf08,bf24,bf40,bf5c,bf78,bf94,bfb0,bfcc,bfe8,c004,c020,c03c,c058,c074,c090,c0ac,c0c8,c0e4,c100,c11c,c138,c154,c170,c18c,c1a8,c1c4,c1e0,c1fc,c218,c234,c250,c26c,c288,c2a4,c2c0,c2dc,c2f8,c314,c330,c34c,c368,c384,c3a0,c3bc,c3d8,c3f4,c410,c42c,c448,c464,c480,c49c,c4b8,c4d4,c4f0,c50c,c528,c544,c560,c57c,c598,c5b4,c5d0,c5ec,c608,c624,c640,c65c,c678,c694,c6b0,c6cc,c6e8,c704,c720,c73c,c758,c774,c790,c7ac,c7c8,c7e4,c800,c81c,c838,c854,c870,c88c,c8a8,c8c4,c8e0,c8fc,c918,c934,c950,c96c,c988,c9a4,c9c0,c9dc,c9f8,ca14,ca30,ca4c,ca68,ca84,caa0,cabc,cad8,caf4,cb10,cb2c,cb48,cb64,cb80,cb9c,cbb8,cbd4,cbf0,cc0c,cc28,cc44,cc60,cc7c,cc98,ccb4,ccd0,ccec,cd08,cd24,cd40,cd5c,cd78,cd94,cdb0,cdcc,cde8,ce04,ce20,ce3c,ce58,ce74,ce90,ceac,cec8,cee4,cf00,cf1c,cf38,cf54,cf70,cf8c,cfa8,cfc4,cfe0,cffc,d018,d034,d050,d06c,d088,d0a4,d0c0,d0dc,d0f8,d114,d130,d14c,d168,d184,d1a0,d1bc,d1d8,d1f4,d210,d22c,d248,d264,d280,d29c,d2b8,d2d4,d2f0,d30c,d328,d344,d360,d37c,d398,d3b4,d3d0,d3ec,d408,d424,d440,d45c,d478,d494,d4b0,d4cc,d4e8,d504,d520,d53c,d558,d574,d590,d5ac,d5c8,d5e4,d600,d61c,d638,d654,d670,d68c,d6a8,d6c4,d6e0,d6fc,d718,d734,d750,d76c,d788"),
  ("LVT", "ac01-ac1b,ac1d-ac37,ac39-ac53,ac55-ac6f,ac71-ac8b,ac8d-aca7,aca9-acc3,acc5-acdf,ace1-acfb,acfd-ad17,ad19-ad33,ad35-ad4f,ad51-ad6b,ad6d-ad87,ad89-ada3,ada5-adbf,adc1-addb,addd-adf7,adf9-ae13,ae15-ae2f,ae31-ae4b,ae4d-ae67,ae69-ae83,ae85-ae9f,aea1-aebb,aebd-aed7,aed9-aef3,aef5-af0f,af11-af2b,af2d-af47,af49-af63,af65-af7f,af81-af9b,af9d-afb7,afb9-afd3,afd5-afef,aff1-b00b,b00d-b027,b029-b043,b045-b05f,b061-b07b,b07d-b097,b099-b0b3,b0b5-b0cf,b0d1-b0eb,b0ed-b107,b109-b123,b125-b13f,b141-b15b,b15d-b177,b179-b193,b195-b1af,b1b1-b1cb,b1cd-b1e7,b1e9-b203,b205-b21f,b221-b23b,b23d-b257,b259-b273,b275-b28f,b291-b2ab,b2ad-b2c7,b2c9-b2e3,b2e5-b2ff,b301-b31b,b31d-b337,b339-b353,b355-b36f,b371-b38b,b38d-b3a7,b3a9-b3c3,b3c5-b3df,b3e1-b3fb,b3fd-b417,b419-b433,b435-b44f,b451-b46b,b46d-b487,b489-b4a3,b4a5-b4bf,b4c1-b4db,b4dd-b4f7,b4f9-b513,b515-b52f,b531-b54b,b54d-b567,b569-b583,b585-b59f,b5a1-b5bb,b5bd-b5d7,b5d9-b5f3,b5f5-b60f,b611-b62b,b62d-b647,b649-b663,b665-b67f,b681-b69b,b69d-b6b7,b6b9-b6d3,b6d5-b6ef,b6f1-b70b,b70d-b727,b729-b743,b745-b75f,b761-b77b,b77d-b797,b799-b7b3,b7b5-b7cf,b7d1-b7eb,b7ed-b807,b809-b823,b825-b83f,b841-b85b,b85d-b877,b879-b893,b895-b8af,b8b1-b8cb,b8cd-b8e7,b8e9-b903,b905-b91f,b921-b93b,b93d-b957,b959-b973,b975-b98f,b991-b9ab,b9ad-b9c7,b9c9-b9e3,b9e5-b9ff,ba01-ba1b,ba1d-ba37,ba39-ba53,ba55-ba6f,ba71-ba8b,ba8d-baa7,baa9-bac3,bac5-badf,bae1-bafb,bafd-bb17,bb19-bb33,bb35-bb4f,bb51-bb6b,bb6d-bb87,bb89-bba3,bba5-bbbf,bbc1-bbdb,bbdd-bbf7,bbf9-bc13,bc15-bc2f,bc31-bc4b,bc4d-bc67,bc69-bc83,bc85-bc9f,bca1-bcbb,bcbd-bcd7,bcd9-bcf3,bcf5-bd0f,bd11-bd2b,bd2d-bd47,bd49-bd63,bd65-bd7f,bd81-bd9b,bd9d-bdb7,bdb9-bdd3,bdd5-bdef,bdf1-be0b,be0d-be27,be29-be43,be45-be5f,be61-be7b,be7d-be97,be99-beb3,beb5-becf,bed1-beeb,beed-bf07,bf09-bf23,bf25-bf3f,bf41-bf5b,bf5d-bf77,bf79-bf93,bf95-bfaf,bfb1-bfcb,bfcd-bfe7,bfe9-c003,c005-c01f,c021-c03b,c03d-c057,c059-c073,c075-c08f,c091-c0ab,c0ad-c0c7,c0c9-c0e3,c0e5-c0ff,c101-c11b,c11d-c137,c139-c153,c155-c16f,c171-c18b,c18d-c1a7,c1a9-c1c3,c1c5-c1df,c1e1-c1fb,c1fd-c217,c219-c233,c235-c24f,c251-c26b,c26d-c287,c289-c2a3,c2a5-c2bf,c2c1-c2db,c2dd-c2f7,c2f9-c313,c315-c32f,c331-c34b,c34d-c367,c369-c383,c385-c39f,c3a1-c3bb,c3bd-c3d7,c3d9-c3f3,c3f5-c40f,c411-c42b,c42d-c447,c449-c463,c465-c47f,c481-c49b,c49d-c4b7,c4b9-c4d3,c4d5-c4ef,c4f1-c50b,c50d-c527,c529-c543,c545-c55f,c561-c57b,c57d-c597,c599-c5b3,c5b5-c5cf,c5d1-c5eb,c5ed-c607,c609-c623,c625-c63f,c641-c65b,c65d-c677,c679-c693,c695-c6af,c6b1-c6cb,c6cd-c6e7,c6e9-c703,c705-c71f,c721-c73b,c73d-c757,c759-c773,c775-c78f,c791-c7ab,c7ad-c7c7,c7c9-c7e3,c7e5-c7ff,c801-c81b,c81d-c837,c839-c853,c855-c86f,c871-c88b,c88d-c8a7,c8a9-c8c3,c8c5-c8df,c8e1-c8fb,c8fd-c917,c919-c933,c935-c94f,c951-c96b,c96d-c987,c989-c9a3,c9a5-c9bf,c9c1-c9db,c9dd-c9f7,c9f9-ca13,ca15-ca2f,ca31-ca4b,ca4d-ca67,ca69-ca83,ca85-ca9f,caa1-cabb,cabd-cad7,cad9-caf3,caf5-cb0f,cb11-cb2b,cb2d-cb47,cb49-cb63,cb65-cb7f,cb81-cb9b,cb9d-cbb7,cbb9-cbd3,cbd5-cbef,cbf1-cc0b,cc0d-cc27,cc29-cc43,cc45-cc5f,cc61-cc7b,cc7d-cc97,cc99-ccb3,ccb5-cccf,ccd1-cceb,cced-cd07,cd09-cd23,cd25-cd3f,cd41-cd5b,cd5d-cd77,cd79-cd93,cd95-cdaf,cdb1-cdcb,cdcd-cde7,cde9-ce03,ce05-ce1f,ce21-ce3b,ce3d-ce57,ce59-ce73,ce75-ce8f,ce91-ceab,cead-cec7,cec9-cee3,cee5-ceff,cf01-cf1b,cf1d-cf37,cf39-cf53,cf55-cf6f,cf71-cf8b,cf8d-cfa7,cfa9-cfc3,cfc5-cfdf,cfe1-cffb,cffd-d017,d019-d033,d035-d04f,d051-d06b,d06d-d087,d089-d0a3,d0a5-d0bf,d0c1-d0db,d0dd-d0f7,d0f9-d113,d115-d12f,d131-d14b,d14d-d167,d169-d183,d185-d19f,d1a1-d1bb,d1bd-d1d7,d1d9-d1f3,d1f5-d20f,d211-d22b,d22d-d247,d249-d263,d265-d27f,d281-d29b,d29d-d2b7,d2b9-d2d3,d2d5-d2ef,d2f1-d30b,d30d-d327,d329-d343,d345-d35f,d361-d37b,d37d-d397,d399-d3b3,d3b5-d3cf,d3d1-d3eb,d3ed-d407,d409-d423,d425-d43f,d441-d45b,d45d-d477,d479-d493,d495-d4af,d4b1-d4cb,d4cd-d4e7,d4e9-d503,d505-d51f,d521-d53b,d53d-d557,d559-d573,d575-d58f,d591-d5ab,d5ad-d5c7,d5c9-d5e3,d5e5-d5ff,d601-d61b,d61d-d637,d639-d653,d655-d66f,d671-d68b,d68d-d6a7,d6a9-d6c3,d6c5-d6df,d6e1-d6fb,d6fd-d717,d719-d733,d735-d74f,d751-d76b,d76d-d787,d789-d7a3"),
  ("Prepend", "600-605,6dd,70f,890-891,8e2,d4e,110bd,110cd,111c2-111c3,113d1,1193f,11941,11a84-11a89,11d46,11f02"),
  ("Regional_Indicator", "1f1e6-1f1ff"),
  ("SpacingMark", "903,93b,93e-940,949-94c,94e-94f,982-983,9bf-9c0,9c7-9c8,9cb-9cc,a03,a3e-a40,a83,abe-ac0,ac9,acb-acc,b02-b03,b40,b47-b48,b4b-b4c,bbf,bc1-bc2,bc6-bc8,bca-bcc,c01-c03,c41-c44,c82-c83,cbe,cc1,cc3-cc4,cf3,d02-d03,d3f-d40,d46-d48,d4a-d4c,d82-d83,dd0-dd1,dd8-dde,df2-df3,e33,eb3,f3e-f3f,f7f,1031,103b-103c,1056-1057,1084,17b6,17be-17c5,17c7-17c8,1923-1926,1929-192b,1930-1931,1933-1938,1a19-1a1a,1a55,1a57,1a6d-1a72,1b04,1b3e-1b41,1b82,1ba1,1ba6-1ba7,1be7,1bea-1bec,1bee,1c24-1c2b,1c34-1c35,1ce1,1cf7,a823-a824,a827,a880-a881,a8b4-a8c3,a952,a983,a9b4-a9b5,a9ba-a9bb,a9be-a9bf,aa2f-aa30,aa33-aa34,aa4d,aaeb,aaee-aaef,aaf5,abe3-abe4,abe6-abe7,abe9-abea,abec,11000,11002,11082,110b0-110b2,110b7-110b8,1112c,11145-11146,11182,111b3-111b5,111bf,111ce,1122c-1122e,11232-11233,112e0-112e2,11302-11303,1133f,11341-11344,11347-11348,1134b-1134c,11362-11363,113b9-113ba,113ca,113cc-113cd,11435-11437,11440-11441,11445,114b1-114b2,114b9,114bb-114bc,114be,114c1,115b0-115b1,115b8-115bb,115be,11630-11632,1163b-1163c,1163e,116ac,116ae-116af,1171e,11726,1182c-1182e,11838,11931-11935,11937-11938,11940,11942,119d1-119d3,119dc-119df,119e4,11a39,11a57-11a58,11a97,11c2f,11c3e,11ca9,11cb1,11cb4,11d8a-11d8e,11d93-11d94,11d96,11ef5-11ef6,11f03,11f34-11f35,11f3e-11f3f,1612a-1612c,16f51-16f87"),
  ("T", "11a8-11ff,d7cb-d7fb"),
  ("V", "1160-11a7,d7b0-d7c6,16d63,16d67-16d6a"),
  ("ZWJ", "200d")
]

def wordBreakNames : List (List String) := [
  ["CR", "CR"],
  ["DQ", "Double_Quote"],
  ["EB", "E_Base"],
  ["EBG", "E_Base_GAZ"],
  ["EM", "E_Modifier"],
  ["EX", "ExtendNumLet"],
  ["Extend", "Extend"],
  ["FO", "Format"],
  ["GAZ", "Glue_After_Zwj"],
  ["HL", "Hebrew_Letter"],
  ["KA", "Katakana"],
  ["LE", "ALetter"],
  ["LF", "LF"],
  ["MB", "MidNumLet"],
  ["ML", "MidLetter"],
  ["MN", "MidNum"],
  ["NL", "Newline"],
  ["NU", "Numeric"],
  ["RI", "Regional_Indicator"],
  ["SQ", "Single_Quote"],
  ["WSegSpace", "WSegSpace"],
  ["XX", "Other"],
  ["ZWJ", "ZWJ"]
]

def wordBreakTable : List (String × String) := [
  ("ALetter", "41-5a,61-7a,aa,b5,b8,ba,c0-d6,d8-f6,f8-2d7,2de-2ff,370-374,376-377,37a-37d,37f,386,388-38a,38c,38e-3a1,3a3-3f5,3f7-481,48a-52f,531-556,559-55c,55e,560-588,58a,5f3,620-64a,66e-66f,671-6d3,6d5,6e5-6e6,6ee-6ef,6fa-6fc,6ff,70f-710,712-72f,74d-7a5,7b1,7ca-7ea,7f4-7f5,7fa,800-815,81a,824,828,840-858,860-86a,870-887,889-88e,8a0-8c9,904-939,93d,950,958-961,971-980,985-98c,98f-990,993-9a8,9aa-9b0,9b2,9b6-9b9,9bd,9ce,9dc-9dd,9df-9e1,9f0-9f1,9fc,a05-a0a,a0f-a10,a13-a28,a2a-a30,a32-a33,a35-a36,a38-a39,a59-a5c,a5e,a72-a74,a85-a8d,a8f-a91,a93-aa8,aaa-ab0,ab2-ab3,ab5-ab9,abd,ad0,ae0-ae1,af9,b05-b0c,b0f-b10,b13-b28,b2a-b30,b32-b33,b35-b39,b3d,b5c-b5d,b5f-b61,b71,b83,b85-b8a,b8e-b90,b92-b95,b99-b9a,b9c,b9e-b9f,ba3-ba4,ba8-baa,bae-bb9,bd0,c05-c0c,c0e-c10,c12-c28,c2a-c39,c3d,c58-c5a,c5d,c60-c61,c80,c85-c8c,c8e-c90,c92-ca8,caa-cb3,cb5-cb9,cbd,cdd-cde,ce0-ce1,cf1-cf2,d04-d0c,d0e-d10,d12-d3a,d3d,d4e,d54-d56,d5f-d61,d7a-d7f,d85-d96,d9a-db1,db3-dbb,dbd,dc0-dc6,f00,f40-f47,f49-f6c,f88-f8c,10a0-10c5,10c7,10cd,10d0-10fa,10fc-1248,124a-124d,1250-1256,1258,125a-125d,1260-1288,128a-128d,1290-12b0,12b2-12b5,12b8-12be,12c0,12c2-12c5,12c8-12d6,12d8-1310,1312-1315,1318-135a,1380-138f,13a0-13f5,13f8-13fd,1401-166c,166f-167f,1681-169a,16a0-16ea,16ee-16f8,1700-1711,171f-1731,1740-1751,1760-176c,176e-1770,1820-1878,1880-1884,1887-18a8,18aa,18b0-18f5,1900-191e,1a00-1a16,1b05-1b33,1b45-1b4c,1b83-1ba0,1bae-1baf,1bba-1be5,1c00-1c23,1c4d-1c4f,1c5a-1c7d,1c80-1c8a,1c90-1cba,1cbd-1cbf,1ce9-1cec,1cee-1cf3,1cf5-1cf6,1cfa,1d00-1dbf,1e00-1f15,1f18-1f1d,1f20-1f45,1f48-1f4d,1f50-1f57,1f59,1f5b,1f5d,1f5f-1f7d,1f80-1fb4,1fb6-1fbc,1fbe,1fc2-1fc4,1fc6-1fcc,1fd0-1fd3,1fd6-1fdb,1fe0-1fec,1ff2-1ff4,1ff6-1ffc,2071,207f,2090-209c,2102,2107,210a-2113,2115,2119-211d,2124,2126,2128,212a-212d,212f-2139,213c-213f,2145-2149,214e,2160-2188,24b6-24e9,2c00-2ce4,2ceb-2cee,2cf2-2cf3,2d00-2d25,2d27,2d2d,2d30-2d67,2d6f,2d80-2d96,2da0-2da6,2da8-2dae,2db0-2db6,2db8-2dbe,2dc0-2dc6,2dc8-2dce,2dd0-2dd6,2dd8-2dde,2e2f,3005,303b-303c,3105-312f,3131-318e,31a0-31bf,a000-a48c,a4d0-a4fd,a500-a60c,a610-a61f,a62a-a62b,a640-a66e,a67f-a69d,a6a0-a6ef,a708-a7cd,a7d0-a7d1,a7d3,a7d5-a7dc,a7f2-a801,a803-a805,a807-a80a,a80c-a822,a840-a873,a882-a8b3,a8f2-a8f7,a8fb,a8fd-a8fe,a90a-a925,a930-a946,a960-a97c,a984-a9b2,a9cf,aa00-aa28,aa40-aa42,aa44-aa4b,aae0-aaea,aaf2-aaf4,ab01-ab06,ab09-ab0e,ab11-ab16,ab20-ab26,ab28-ab2e,ab30-ab69,ab70-abe2,ac00-d7a3,d7b0-d7c6,d7cb-d7fb,fb00-fb06,fb13-fb17,fb50-fbb1,fbd3-fd3d,fd50-fd8f,fd92-fdc7,fdf0-fdfb,fe70-fe74,fe76-fefc,ff21-ff3a,ff41-ff5a,ffa0-ffbe,ffc2-ffc7,ffca-ffcf,ffd2-ffd7,ffda-ffdc,10000-1000b,1000d-10026,10028-1003a,1003c-1003d,1003f-1004d,10050-1005d,10080-100fa,10140-10174,10280-1029c,102a0-102d0,10300-1031f,1032d-1034a,10350-10375,10380-1039d,103a0-103c3,103c8-103cf,103d1-103d5,10400-1049d,104b0-104d3,104d8-104fb,10500-10527,10530-10563,10570-1057a,1057c-1058a,1058c-10592,10594-10595,10597-105a1,105a3-105b1,105b3-105b9,105bb-105bc,105c0-105f3,10600-10736,10740-10755,10760-10767,10780-10785,10787-107b0,107b2-107ba,10800-10805,10808,1080a-10835,10837-10838,1083c,1083f-10855,10860-10876,10880-1089e,108e0-108f2,108f4-108f5,10900-10915,10920-10939,10980-109b7,109be-109bf,10a00,10a10-10a13,10a15-10a17,10a19-10a35,10a60-10a7c,10a80-10a9c,10ac0-10ac7,10ac9-10ae4,10b00-10b35,10b40-10b55,10b60-10b72,10b80-10b91,10c00-10c48,10c80-10cb2,10cc0-10cf2,10d00-10d23,10d4a-10d65,10d6f-10d85,10e80-10ea9,10eb0-10eb1,10ec2-10ec4,10f00-10f1c,10f27,10f30-10f45,10f70-10f81,10fb0-10fc4,10fe0-10ff6,11003-11037,11071-11072,11075,11083-110af,110d0-110e8,11103-11126,11144,11147,11150-11172,11176,11183-111b2,111c1-111c4,111da,111dc,11200-11211,11213-1122b,1123f-11240,11280-11286,11288,1128a-1128d,1128f-1129d,1129f-112a8,112b0-112de,11305-1130c,1130f-11310,11313-11328,1132a-11330,11332-11333,11335-11339,1133d,11350,1135d-11361,11380-11389,1138b,1138e,11390-113b5,113b7,113d1,113d3,11400-11434,11447-1144a,1145f-11461,11480-114af,114c4-114c5,114c7,11580-115ae,115d8-115db,11600-1162f,11644,11680-116aa,116b8,11800-1182b,118a0-118df,118ff-11906,11909,1190c-11913,11915-11916,11918-1192f,1193f,11941,119a0-119a7,119aa-119d0,119e1,119e3,11a00,11a0b-11a32,11a3a,11a50,11a5c-11a89,11a9d,11ab0-11af8,11bc0-11be0,11c00-11c08,11c0a-11c2e,11c40,11c72-11c8f,11d00-11d06,11d08-11d09,11d0b-11d30,11d46,11d60-11d65,11d67-11d68,11d6a-11d89,11d98,11ee0-11ef2,11f02,11f04-11f10,11f12-11f33,11fb0,12000-12399,12400-1246e,12480-12543,12f90-12ff0,13000-1342f,13441-13446,13460-143fa,14400-14646,16100-1611d,16800-16a38,16a40-16a5e,16a70-16abe,16ad0-16aed,16b00-16b2f,16b40-16b43,16b63-16b77,16b7d-16b8f,16d40-16d6c,16e40-16e7f,16f00-16f4a,16f50,16f93-16f9f,16fe0-16fe1,16fe3,1bc00-1bc6a,1bc70-1bc7c,1bc80-1bc88,1bc90-1bc99,1d400-1d454,1d456-1d49c,1d49e-1d49f,1d4a2,1d4a5-1d4a6,1d4a9-1d4ac,1d4ae-1d4b9,1d4bb,1d4bd-1d4c3,1d4c5-1d505,1d507-1d50a,1d50d-1d514,1d516-1d51c,1d51e-1d539,1d53b-1d53e,1d540-1d544,1d546,1d54a-1d550,1d552-1d6a5,1d6a8-1d6c0,1d6c2-1d6da,1d6dc-1d6fa,1d6fc-1d714,1d716-1d734,1d736-1d74e,1d750-1d76e,1d770-1d788,1d78a-1d7a8,1d7aa-1d7c2,1d7c4-1d7cb,1df00-1df1e,1df25-1df2a,1e030-1e06d,1e100-1e12c,1e137-1e13d,1e14e,1e290-1e2ad,1e2c0-1e2eb,1e4d0-1e4eb,1e5d0-1e5ed,1e5f0,1e7e0-1e7e6,1e7e8-1e7eb,1e7ed-1e7ee,1e7f0-1e7fe,1e800-1e8c4,1e900-1e943,1e94b,1ee00-1ee03,1ee05-1ee1f,1ee21-1ee22,1ee24,1ee27,1ee29-1ee32,1ee34-1ee37,1ee39,1ee3b,1ee42,1ee47,1ee49,1ee4b,1ee4d-1ee4f,1ee51-1ee52,1ee54,1ee57,1ee59,1ee5b,1ee5d,1ee5f,1ee61-1ee62,1ee64,1ee67-1ee6a,1ee6c-1ee72,1ee74-1ee77,1ee79-1ee7c,1ee7e,1ee80-1ee89,1ee8b-1ee9b,1eea1-1eea3,1eea5-1eea9,1eeab-1eebb,1f130-1f149,1f150-1f169,1f170-1f189"),
  ("CR", "d"),
  ("Double_Quote", "22"),
  ("Extend", "300-36f,483-489,591-5bd,5bf,5c1-5c2,5c4-5c5,5c7,610-61a,64b-65f,670,6d6-6dc,6df-6e4,6e7-6e8,6ea-6ed,711,730-74a,7a6-7b0,7eb-7f3,7fd,816-819,81b-823,825-827,829-82d,859-85b,897-89f,8ca-8e1,8e3-903,93a-93c,93e-94f,951-957,962-963,981-983,9bc,9be-9c4,9c7-9c8,9cb-9cd,9d7,9e2-9e3,9fe,a01-a03,a3c,a3e-a42,a47-a48,a4b-a4d,a51,a70-a71,a75,a81-a83,abc,abe-ac5,ac7-ac9,acb-acd,ae2-ae3,afa-aff,b01-b03,b3c,b3e-b44,b47-b48,b4b-b4d,b55-b57,b62-b63,b82,bbe-bc2,bc6-bc8,bca-bcd,bd7,c00-c04,c3c,c3e-c44,c46-c48,c4a-c4d,c55-c56,c62-c63,c81-c83,cbc,cbe-cc4,cc6-cc8,cca-ccd,cd5-cd6,ce2-ce3,cf3,d00-d03,d3b-d3c,d3e-d44,d46-d48,d4a-d4d,d57,d62-d63,d81-d83,dca,dcf-dd4,dd6,dd8-ddf,df2-df3,e31,e34-e3a,e47-e4e,eb1,eb4-ebc,ec8-ece,f18-f19,f35,f37,f39,f3e-f3f,f71-f84,f86-f87,f8d-f97,f99-fbc,fc6,102b-103e,1056-1059,105e-1060,1062-1064,1067-106d,1071-1074,1082-108d,108f,109a-109d,135d-135f,1712-1715,1732-1734,1752-1753,1772-1773,17b4-17d3,17dd,180b-180d,180f,1885-1886,18a9,1920-192b,1930-193b,1a17-1a1b,1a55-1a5e,1a60-1a7c,1a7f,1ab0-1ace,1b00-1b04,1b34-1b44,1b6b-1b73,1b80-1b82,1ba1-1bad,1be6-1bf3,1c24-1c37,1cd0-1cd2,1cd4-1ce8,1ced,1cf4,1cf7-1cf9,1dc0-1dff,200c,20d0-20f0,2cef-2cf1,2d7f,2de0-2dff,302a-302f,3099-309a,a66f-a672,a674-a67d,a69e-a69f,a6f0-a6f1,a802,a806,a80b,a823-a827,a82c,a880-a881,a8b4-a8c5,a8e0-a8f1,a8ff,a926-a92d,a947-a953,a980-a983,a9b3-a9c0,a9e5,aa29-aa36,aa43,aa4c-aa4d,aa7b-aa7d,aab0,aab2-aab4,aab7-aab8,aabe-aabf,aac1,aaeb-aaef,aaf5-aaf6,abe3-abea,abec-abed,fb1e,fe00-fe0f,fe20-fe2f,ff9e-ff9f,101fd,102e0,10376-1037a,10a01-10a03,10a05-10a06,10a0c-10a0f,10a38-10a3a,10a3f,10ae5-10ae6,10d24-10d27,10d69-10d6d,10eab-10eac,10efc-10eff,10f46-10f50,10f82-10f85,11000-11002,11038-11046,11070,11073-11074,1107f-11082,110b0-110ba,110c2,11100-11102,11127-11134,11145-11146,11173,11180-11182,111b3-111c0,111c9-111cc,111ce-111cf,1122c-11237,1123e,11241,112df-112ea,11300-11303,1133b-1133c,1133e-11344,11347-11348,1134b-1134d,11357,11362-11363,11366-1136c,11370-11374,113b8-113c0,113c2,113c5,113c7-113ca,113cc-113d0,113d2,113e1-113e2,11435-11446,1145e,114b0-114c3,115af-115b5,115b8-115c0,115dc-115dd,11630-11640,116ab-116b7,1171d-1172b,1182c-1183a,11930-11935,11937-11938,1193b-1193e,11940,11942-11943,119d1-119d7,119da-119e0,119e4,11a01-11a0a,11a33-11a39,11a3b-11a3e,11a47,11a51-11a5b,11a8a-11a99,11c2f-11c36,11c38-11c3f,11c92-11ca7,11ca9-11cb6,11d31-11d36,11d3a,11d3c-11d3d,11d3f-11d45,11d47,11d8a-11d8e,11d90-11d91,11d93-11d97,11ef3-11ef6,11f00-11f01,11f03,11f34-11f3a,11f3e-11f42,11f5a,13440,13447-13455,1611e-1612f,16af0-16af4,16b30-16b36,16f4f,16f51-16f87,16f8f-16f92,16fe4,16ff0-16ff1,1bc9d-1bc9e,1cf00-1cf2d,1cf30-1cf46,1d165-1d169,1d16d-1d172,1d17b-1d182,1d185-1d18b,1d1aa-1d1ad,1d242-1d244,1da00-1da36,1da3b-1da6c,1da75,1da84,1da9b-1da9f,1daa1-1daaf,1e000-1e006,1e008-1e018,1e01b-1e021,1e023-1e024,1e026-1e02a,1e08f,1e130-1e136,1e2ae,1e2ec-1e2ef,1e4ec-1e4ef,1e5ee-1e5ef,1e8d0-1e8d6,1e944-1e94a,1f3fb-1f3ff,e0020-e007f,e0100-e01ef"),
  ("ExtendNumLet", "5f,202f,203f-2040,2054,fe33-fe34,fe4d-fe4f,ff3f"),
  ("Format", "ad,61c,180e,200e-200f,202a-202e,2060-2064,2066-206f,feff,fff9-fffb,13430-1343f,1bca0-1bca3,1d173-1d17a,e0001"),
  ("Hebrew_Letter", "5d0-5ea,5ef-5f2,fb1d,fb1f-fb28,fb2a-fb36,fb38-fb3c,fb3e,fb40-fb41,fb43-fb44,fb46-fb4f"),
  ("Katakana", "3031-3035,309b-309c,30a0-30fa,30fc-30ff,31f0-31ff,32d0-32fe,3300-3357,ff66-ff9d,1aff0-1aff3,1aff5-1affb,1affd-1affe,1b000,1b120-1b122,1b155,1b164-1b167"),
  ("LF", "a"),
  ("MidLetter", "3a,b7,387,55f,5f4,2027,fe13,fe55,ff1a"),
  ("MidNum", "2c,3b,37e,589,60c-60d,66c,7f8,2044,fe50,fe54,ff0c,ff1b"),
  ("MidNumLet", "2e,2018-2019,2024,fe52,ff07,ff0e"),
  ("Newline", "b-c,85,2028-2029"),
  ("Numeric", "30-39,600-605,660-669,66b,6dd,6f0-6f9,7c0-7c9,890-891,8e2,966-96f,9e6-9ef,a66-a6f,ae6-aef,b66-b6f,be6-bef,c66-c6f,ce6-cef,d66-d6f,de6-def,e50-e59,ed0-ed9,f20-f29,1040-1049,1090-1099,17e0-17e9,1810-1819,1946-194f,19d0-19da,1a80-1a89,1a90-1a99,1b50-1b59,1bb0-1bb9,1c40-1c49,1c50-1c59,a620-a629,a8d0-a8d9,a900-a909,a9d0-a9d9,a9f0-a9f9,aa50-aa59,abf0-abf9,ff10-ff19,104a0-104a9,10d30-10d39,10d40-10d49,11066-1106f,110bd,110cd,110f0-110f9,11136-1113f,111d0-111d9,112f0-112f9,11450-11459,114d0-114d9,11650-11659,116c0-116c9,116d0-116e3,11730-11739,118e0-118e9,11950-11959,11bf0-11bf9,11c50-11c59,11d50-11d59,11da0-11da9,11f50-11f59,16130-16139,16a60-16a69,16ac0-16ac9,16b50-16b59,16d70-16d79,1ccf0-1ccf9,1d7ce-1d7ff,1e140-1e149,1e2f0-1e2f9,1e4f0-1e4f9,1e5f1-1e5fa,1e950-1e959,1fbf0-1fbf9"),
  ("Regional_Indicator", "1f1e6-1f1ff"),
  ("Single_Quote", "27"),
  ("WSegSpace", "20,1680,2000-2006,2008-200a,205f,3000"),
  ("ZWJ", "200d")
]

def sentenceBreakNames : List (List String) := [
  ["AT", "ATerm"],
  ["CL", "Close"],
  ["CR", "CR"],
  ["EX", "Extend"],
  ["FO", "Format"],
  ["LE", "OLetter"],
  ["LF", "LF"],
  ["LO", "Lower"],
  ["NU", "Numeric"],
  ["SC", "SContinue"],
  ["SE", "Sep"],
  ["SP", "Sp"],
  ["ST", "STerm"],
  ["UP", "Upper"],
  ["XX", "Other"]
]

def sentenceBreakTable : List (String × String) := [
  ("ATerm", "2e,2024,fe52,ff0e"),
  ("CR", "d"),
  ("Close", "22,27-29,5b,5d,7b,7d,ab,bb,f3a-f3d,169b-169c,2018-201f,2039-203a,2045-2046,207d-207e,208d-208e,2308-230b,2329-232a,275b-2760,2768-2775,27c5-27c6,27e6-27ef,2983-2998,29d8-29db,29fc-29fd,2e00-2e0d,2e1c-2e1d,2e20-2e29,2e42,2e55-2e5c,3008-3011,3014-301b,301d-301f,fd3e-fd3f,fe17-fe18,fe35-fe44,fe47-fe48,fe59-fe5e,ff08-ff09,ff3b,ff3d,ff5b,ff5d,ff5f-ff60,ff62-ff63,1f676-1f678"),
  ("Extend", "300-36f,483-489,591-5bd,5bf,5c1-5c2,5c4-5c5,5c7,610-61a,64b-65f,670,6d6-6dc,6df-6e4,6e7-6e8,6ea-6ed,711,730-74a,7a6-7b0,7eb-7f3,7fd,816-819,81b-823,825-827,829-82d,859-85b,897-89f,8ca-8e1,8e3-903,93a-93c,93e-94f,951-957,962-963,981-983,9bc,9be-9c4,9c7-9c8,9cb-9cd,9d7,9e2-9e3,9fe,a01-a03,a3c,a3e-a42,a47-a48,a4b-a4d,a51,a70-a71,a75,a81-a83,abc,abe-ac5,ac7-ac9,acb-acd,ae2-ae3,afa-aff,b01-b03,b3c,b3e-b44,b47-b48,b4b-b4d,b55-b57,b62-b63,b82,bbe-bc2,bc6-bc8,bca-bcd,bd7,c00-c04,c3c,c3e-c44,c46-c48,c4a-c4d,c55-c56,c62-c63,c81-c83,cbc,cbe-cc4,cc6-cc8,cca-ccd,cd5-cd6,ce2-ce3,cf3,d00-d03,d3b-d3c,d3e-d44,d46-d48,d4a-d4d,d57,d62-d63,d81-d83,dca,dcf-dd4,dd6,dd8-ddf,df2-df3,e31,e34-e3a,e47-e4e,eb1,eb4-ebc,ec8-ece,f18-f19,f35,f37,f39,f3e-f3f,f71-f84,f86-f87,f8d-f97,f99-fbc,fc6,102b-103e,1056-1059,105e-1060,1062-1064,1067-106d,1071-1074,1082-108d,108f,109a-109d,135d-135f,1712-1715,1732-1734,1752-1753,1772-1773,17b4-17d3,17dd,180b-180d,180f,1885-1886,18a9,1920-192b,1930-193b,1a17-1a1b,1a55-1a5e,1a60-1a7c,1a7f,1ab0-1ace,1b00-1b04,1b34-1b44,1b6b-1b73,1b80-1b82,1ba1-1bad,1be6-1bf3,1c24-1c37,1cd0-1cd2,1cd4-1ce8,1ced,1cf4,1cf7-1cf9,1dc0-1dff,200c-200d,20d0-20f0,2cef-2cf1,2d7f,2de0-2dff,302a-302f,3099-309a,a66f-a672,a674-a67d,a69e-a69f,a6f0-a6f1,a802,a806,a80b,a823-a827,a82c,a880-a881,a8b4-a8c5,a8e0-a8f1,a8ff,a926-a92d,a947-a953,a980-a983,a9b3-a9c0,a9e5,aa29-aa36,aa43,aa4c-aa4d,aa7b-aa7d,aab0,aab2-aab4,aab7-aab8,aabe-aabf,aac1,aaeb-aaef,aaf5-aaf6,abe3-abea,abec-abed,fb1e,fe00-fe0f,fe20-fe2f,ff9e-ff9f,101fd,102e0,10376-1037a,10a01-10a03,10a05-10a06,10a0c-10a0f,10a38-10a3a,10a3f,10ae5-10ae6,10d24-10d27,10d69-10d6d,10eab-10eac,10efc-10eff,10f46-10f50,10f82-10f85,11000-11002,11038-11046,11070,11073-11074,1107f-11082,110b0-110ba,110c2,11100-11102,11127-11134,11145-11146,11173,11180-11182,111b3-111c0,111c9-111cc,111ce-111cf,1122c-11237,1123e,11241,112df-112ea,11300-11303,1133b-1133c,1133e-11344,11347-11348,1134b-1134d,11357,11362-11363,11366-1136c,11370-11374,113b8-113c0,113c2,113c5,113c7-113ca,113cc-113d0,113d2,113e1-113e2,11435-11446,1145e,114b0-114c3,115af-115b5,115b8-115c0,115dc-115dd,11630-11640,116ab-116b7,1171d-1172b,1182c-1183a,11930-11935,11937-11938,1193b-1193e,11940,11942-11943,119d1-119d7,119da-119e0,119e4,11a01-11a0a,11a33-11a39,11a3b-11a3e,11a47,11a51-11a5b,11a8a-11a99,11c2f-11c36,11c38-11c3f,11c92-11ca7,11ca9-11cb6,11d31-11d36,11d3a,11d3c-11d3d,11d3f-11d45,11d47,11d8a-11d8e,11d90-11d91,11d93-11d97,11ef3-11ef6,11f00-11f01,11f03,11f34-11f3a,11f3e-11f42,11f5a,13440,13447-13455,1611e-1612f,16af0-16af4,16b30-16b36,16f4f,16f51-16f87,16f8f-16f92,16fe4,16ff0-16ff1,1bc9d-1bc9e,1cf00-1cf2d,1cf30-1cf46,1d165-1d169,1d16d-1d172,1d17b-1d182,1d185-1d18b,1d1aa-1d1ad,1d242-1d244,1da00-1da36,1da3b-1da6c,1da75,1da84,1da9b-1da9f,1daa1-1daaf,1e000-1e006,1e008-1e018,1e01b-1e021,1e023-1e024,1e026-1e02a,1e08f,1e130-1e136,1e2ae,1e2ec-1e2ef,1e4ec-1e4ef,1e5ee-1e5ef,1e8d0-1e8d6,1e944-1e94a,e0020-e007f,e0100-e01ef"),
  ("Format", "ad,61c,70f,180e,200b,200e-200f,202a-202e,2060-2064,2066-206f,feff,fff9-fffb,13430-1343f,1bca0-1bca3,1d173-1d17a,e0001"),
  ("LF", "a"),
  ("Lower", "61-7a,aa,b5,ba,df-f6,f8-ff,101,103,105,107,109,10b,10d,10f,111,113,115,117,119,11b,11d,11f,121,123,125,127,129,12b,12d,12f,131,133,135,137-138,13a,13c,13e,140,142,144,146,148-149,14b,14d,14f,151,153,155,157,159,15b,15d,15f,161,163,165,167,169,16b,16d,16f,171,173,175,177,17a,17c,17e-180,183,185,188,18c-18d,192,195,199-19b,19e,1a1,1a3,1a5,1a8,1aa-1ab,1ad,1b0,1b4,1b6,1b9-1ba,1bd-1bf,1c6,1c9,1cc,1ce,1d0,1d2,1d4,1d6,1d8,1da,1dc-1dd,1df,1e1,1e3,1e5,1e7,1e9,1eb,1ed,1ef-1f0,1f3,1f5,1f9,1fb,1fd,1ff,201,203,205,207,209,20b,20d,20f,211,213,215,217,219,21b,21d,21f,221,223,225,227,229,22b,22d,22f,231,233-239,23c,23f-240,242,247,249,24b,24d,24f-293,295-2b8,2c0-2c1,2e0-2e4,371,373,377,37a-37d,390,3ac-3ce,3d0-3d1,3d5-3d7,3d9,3db,3dd,3df,3e1,3e3,3e5,3e7,3e9,3eb,3ed,3ef-3f3,3f5,3f8,3fb-3fc,430-45f,461,463,465,467,469,46b,46d,46f,471,473,475,477,479,47b,47d,47f,481,48b,48d,48f,491,493,495,497,499,49b,49d,49f,4a1,4a3,4a5,4a7,4a9,4ab,4ad,4af,4b1,4b3,4b5,4b7,4b9,4bb,4bd,4bf,4c2,4c4,4c6,4c8,4ca,4cc,4ce-4cf,4d1,4d3,4d5,4d7,4d9,4db,4dd,4df,4e1,4e3,4e5,4e7,4e9,4eb,4ed,4ef,4f1,4f3,4f5,4f7,4f9,4fb,4fd,4ff,501,503,505,507,509,50b,50d,50f,511,513,515,517,519,51b,51d,51f,521,523,525,527,529,52b,52d,52f,560-588,10fc,13f8-13fd,1c80-1c88,1c8a,1d00-1dbf,1e01,1e03,1e05,1e07,1e09,1e0b,1e0d,1e0f,1e11,1e13,1e15,1e17,1e19,1e1b,1e1d,1e1f,1e21,1e23,1e25,1e27,1e29,1e2b,1e2d,1e2f,1e31,1e33,1e35,1e37,1e39,1e3b,1e3d,1e3f,1e41,1e43,1e45,1e47,1e49,1e4b,1e4d,1e4f,1e51,1e53,1e55,1e57,1e59,1e5b,1e5d,1e5f,1e61,1e63,1e65,1e67,1e69,1e6b,1e6d,1e6f,1e71,1e73,1e75,1e77,1e79,1e7b,1e7d,1e7f,1e81,1e83,1e85,1e87,1e89,1e8b,1e8d,1e8f,1e91,1e93,1e95-1e9d,1e9f,1ea1,1ea3,1ea5,1ea7,1ea9,1eab,1ead,1eaf,1eb1,1eb3,1eb5,1eb7,1eb9,1ebb,1ebd,1ebf,1ec1,1ec3,1ec5,1ec7,1ec9,1ecb,1ecd,1ecf,1ed1,1ed3,1ed5,1ed7,1ed9,1edb,1edd,1edf,1ee1,1ee3,1ee5,1ee7,1ee9,1eeb,1eed,1eef,1ef1,1ef3,1ef5,1ef7,1ef9,1efb,1efd,1eff-1f07,1f10-1f15,1f20-1f27,1f30-1f37,1f40-1f45,1f50-1f57,1f60-1f67,1f70-1f7d,1f80-1f87,1f90-1f97,1fa0-1fa7,1fb0-1fb4,1fb6-1fb7,1fbe,1fc2-1fc4,1fc6-1fc7,1fd0-1fd3,1fd6-1fd7,1fe0-1fe7,1ff2-1ff4,1ff6-1ff7,2071,207f,2090-209c,210a,210e-210f,2113,212f,2134,2139,213c-213d,2146-2149,214e,2170-217f,2184,24d0-24e9,2c30-2c5f,2c61,2c65-2c66,2c68,2c6a,2c6c,2c71,2c73-2c74,2c76-2c7d,2c81,2c83,2c85,2c87,2c89,2c8b,2c8d,2c8f,2c91,2c93,2c95,2c97,2c99,2c9b,2c9d,2c9f,2ca1,2ca3,2ca5,2ca7,2ca9,2cab,2cad,2caf,2cb1,2cb3,2cb5,2cb7,2cb9,2cbb,2cbd,2cbf,2cc1,2cc3,2cc5,2cc7,2cc9,2ccb,2ccd,2ccf,2cd1,2cd3,2cd5,2cd7,2cd9,2cdb,2cdd,2cdf,2ce1,2ce3-2ce4,2cec,2cee,2cf3,2d00-2d25,2d27,2d2d,a641,a643,a645,a647,a649,a64b,a64d,a64f,a651,a653,a655,a657,a659,a65b,a65d,a65f,a661,a663,a665,a667,a669,a66b,a66d,a681,a683,a685,a687,a689,a68b,a68d,a68f,a691,a693,a695,a697,a699,a69b-a69d,a723,a725,a727,a729,a72b,a72d,a72f-a731,a733,a735,a737,a739,a73b,a73d,a73f,a741,a743,a745,a747,a749,a74b,a74d,a74f,a751,a753,a755,a757,a759,a75b,a75d,a75f,a761,a763,a765,a767,a769,a76b,a76d,a76f-a778,a77a,a77c,a77f,a781,a783,a785,a787,a78c,a78e,a791,a793-a795,a797,a799,a79b,a79d,a79f,a7a1,a7a3,a7a5,a7a7,a7a9,a7af,a7b5,a7b7,a7b9,a7bb,a7bd,a7bf,a7c1,a7c3,a7c8,a7ca,a7cd,a7d1,a7d3,a7d5,a7d7,a7d9,a7db,a7f2-a7f4,a7f6,a7f8-a7fa,ab30-ab5a,ab5c-ab69,ab70-abbf,fb00-fb06,fb13-fb17,ff41-ff5a,10428-1044f,104d8-104fb,10597-105a1,105a3-105b1,105b3-105b9,105bb-105bc,10780,10783-10785,10787-107b0,107b2-107ba,10cc0-10cf2,10d70-10d85,118c0-118df,16e60-16e7f,1d41a-1d433,1d44e-1d454,1d456-1d467,1d482-1d49b,1d4b6-1d4b9,1d4bb,1d4bd-1d4c3,1d4c5-1d4cf,1d4ea-1d503,1d51e-1d537,1d552-1d56b,1d586-1d59f,1d5ba-1d5d3,1d5ee-1d607,1d622-1d63b,1d656-1d66f,1d68a-1d6a5,1d6c2-1d6da,1d6dc-1d6e1,1d6fc-1d714,1d716-1d71b,1d736-1d74e,1d750-1d755,1d770-1d788,1d78a-1d78f,1d7aa-1d7c2,1d7c4-1d7c9,1d7cb,1df00-1df09,1df0b-1df1e,1df25-1df2a,1e030-1e06d,1e922-1e943"),
  ("Numeric", "30-39,600-605,660-669,66b-66c,6dd,6f0-6f9,7c0-7c9,890-891,8e2,966-96f,9e6-9ef,a66-a6f,ae6-aef,b66-b6f,be6-bef,c66-c6f,ce6-cef,d66-d6f,de6-def,e50-e59,ed0-ed9,f20-f29,1040-1049,1090-1099,17e0-17e9,1810-1819,1946-194f,19d0-19da,1a80-1a89,1a90-1a99,1b50-1b59,1bb0-1bb9,1c40-1c49,1c50-1c59,a620-a629,a8d0-a8d9,a900-a909,a9d0-a9d9,a9f0-a9f9,aa50-aa59,abf0-abf9,ff10-ff19,104a0-104a9,10d30-10d39,10d40-10d49,11066-1106f,110bd,110cd,110f0-110f9,11136-1113f,111d0-111d9,112f0-112f9,11450-11459,114d0-114d9,11650-11659,116c0-116c9,116d0-116e3,11730-11739,118e0-118e9,11950-11959,11bf0-11bf9,11c50-11c59,11d50-11d59,11da0-11da9,11f50-11f59,16130-16139,16a60-16a69,16ac0-16ac9,16b50-16b59,16d70-16d79,1ccf0-1ccf9,1d7ce-1d7ff,1e140-1e149,1e2f0-1e2f9,1e4f0-1e4f9,1e5f1-1e5fa,1e950-1e959,1fbf0-1fbf9"),
  ("OLetter", "1bb,1c0-1c3,294,2b9-2bf,2c6-2d1,2ec,2ee,374,559,5d0-5ea,5ef-5f3,620-64a,66e-66f,671-6d3,6d5,6e5-6e6,6ee-6ef,6fa-6fc,6ff,710,712-72f,74d-7a5,7b1,7ca-7ea,7f4-7f5,7fa,800-815,81a,824,828,840-858,860-86a,870-887,889-88e,8a0-8c9,904-939,93d,950,958-961,971-980,985-98c,98f-990,993-9a8,9aa-9b0,9b2,9b6-9b9,9bd,9ce,9dc-9dd,9df-9e1,9f0-9f1,9fc,a05-a0a,a0f-a10,a13-a28,a2a-a30,a32-a33,a35-a36,a38-a39,a59-a5c,a5e,a72-a74,a85-a8d,a8f-a91,a93-aa8,aaa-ab0,ab2-ab3,ab5-ab9,abd,ad0,ae0-ae1,af9,b05-b0c,b0f-b10,b13-b28,b2a-b30,b32-b33,b35-b39,b3d,b5c-b5d,b5f-b61,b71,b83,b85-b8a,b8e-b90,b92-b95,b99-b9a,b9c,b9e-b9f,ba3-ba4,ba8-baa,bae-bb9,bd0,c05-c0c,c0e-c10,c12-c28,c2a-c39,c3d,c58-c5a,c5d,c60-c61,c80,c85-c8c,c8e-c90,c92-ca8,caa-cb3,cb5-cb9,cbd,cdd-cde,ce0-ce1,cf1-cf2,d04-d0c,d0e-d10,d12-d3a,d3d,d4e,d54-d56,d5f-d61,d7a-d7f,d85-d96,d9a-db1,db3-dbb,dbd,dc0-dc6,e01-e30,e32-e33,e40-e46,e81-e82,e84,e86-e8a,e8c-ea3,ea5,ea7-eb0,eb2-eb3,ebd,ec0-ec4,ec6,edc-edf,f00,f40-f47,f49-f6c,f88-f8c,1000-102a,103f,1050-1055,105a-105d,1061,1065-1066,106e-1070,1075-1081,108e,10d0-10fa,10fd-1248,124a-124d,1250-1256,1258,125a-125d,1260-1288,128a-128d,1290-12b0,12b2-12b5,12b8-12be,12c0,12c2-12c5,12c8-12d6,12d8-1310,1312-1315,1318-135a,1380-138f,1401-166c,166f-167f,1681-169a,16a0-16ea,16ee-16f8,1700-1711,171f-1731,1740-1751,1760-176c,176e-1770,1780-17b3,17d7,17dc,1820-1878,1880-1884,1887-18a8,18aa,18b0-18f5,1900-191e,1950-196d,1970-1974,1980-19ab,19b0-19c9,1a00-1a16,1a20-1a54,1aa7,1b05-1b33,1b45-1b4c,1b83-1ba0,1bae-1baf,1bba-1be5,1c00-1c23,1c4d-1c4f,1c5a-1c7d,1c90-1cba,1cbd-1cbf,1ce9-1cec,1cee-1cf3,1cf5-1cf6,1cfa,2135-2138,2180-2182,2185-2188,2d30-2d67,2d6f,2d80-2d96,2da0-2da6,2da8-2dae,2db0-2db6,2db8-2dbe,2dc0-2dc6,2dc8-2dce,2dd0-2dd6,2dd8-2dde,2e2f,3005-3007,3021-3029,3031-3035,3038-303c,3041-3096,309d-309f,30a1-30fa,30fc-30ff,3105-312f,3131-318e,31a0-31bf,31f0-31ff,3400-4dbf,4e00-a48c,a4d0-a4fd,a500-a60c,a610-a61f,a62a-a62b,a66e,a67f,a6a0-a6ef,a717-a71f,a788,a78f,a7f7,a7fb-a801,a803-a805,a807-a80a,a80c-a822,a840-a873,a882-a8b3,a8f2-a8f7,a8fb,a8fd-a8fe,a90a-a925,a930-a946,a960-a97c,a984-a9b2,a9cf,a9e0-a9e4,a9e6-a9ef,a9fa-a9fe,aa00-aa28,aa40-aa42,aa44-aa4b,aa60-aa76,aa7a,aa7e-aaaf,aab1,aab5-aab6,aab9-aabd,aac0,aac2,aadb-aadd,aae0-aaea,aaf2-aaf4,ab01-ab06,ab09-ab0e,ab11-ab16,ab20-ab26,ab28-ab2e,abc0-abe2,ac00-d7a3,d7b0-d7c6,d7cb-d7fb,f900-fa6d,fa70-fad9,fb1d,fb1f-fb28,fb2a-fb36,fb38-fb3c,fb3e,fb40-fb41,fb43-fb44,fb46-fbb1,fbd3-fd3d,fd50-fd8f,fd92-fdc7,fdf0-fdfb,fe70-fe74,fe76-fefc,ff66-ff9d,ffa0-ffbe,ffc2-ffc7,ffca-ffcf,ffd2-ffd7,ffda-ffdc,10000-1000b,1000d-10026,10028-1003a,1003c-1003d,1003f-1004d,10050-1005d,10080-100fa,10140-10174,10280-1029c,102a0-102d0,10300-1031f,1032d-1034a,10350-10375,10380-1039d,103a0-103c3,103c8-103cf,103d1-103d5,10450-1049d,10500-10527,10530-10563,105c0-105f3,10600-10736,10740-10755,10760-10767,10781-10782,10800-10805,10808,1080a-10835,10837-10838,1083c,1083f-10855,10860-10876,10880-1089e,108e0-108f2,108f4-108f5,10900-10915,10920-10939,10980-109b7,109be-109bf,10a00,10a10-10a13,10a15-10a17,10a19-10a35,10a60-10a7c,10a80-10a9c,10ac0-10ac7,10ac9-10ae4,10b00-10b35,10b40-10b55,10b60-10b72,10b80-10b91,10c00-10c48,10d00-10d23,10d4a-10d4f,10d6f,10e80-10ea9,10eb0-10eb1,10ec2-10ec4,10f00-10f1c,10f27,10f30-10f45,10f70-10f81,10fb0-10fc4,10fe0-10ff6,11003-11037,11071-11072,11075,11083-110af,110d0-110e8,11103-11126,11144,11147,11150-11172,11176,11183-111b2,111c1-111c4,111da,111dc,11200-11211,11213-1122b,1123f-11240,11280-11286,11288,1128a-1128d,1128f-1129d,1129f-112a8,112b0-112de,11305-1130c,1130f-11310,11313-11328,1132a-11330,11332-11333,11335-11339,1133d,11350,1135d-11361,11380-11389,1138b,1138e,11390-113b5,113b7,113d1,113d3,11400-11434,11447-1144a,1145f-11461,11480-114af,114c4-114c5,114c7,11580-115ae,115d8-115db,11600-1162f,11644,11680-116aa,116b8,11700-1171a,11740-11746,11800-1182b,118ff-11906,11909,1190c-11913,11915-11916,11918-1192f,1193f,11941,119a0-119a7,119aa-119d0,119e1,119e3,11a00,11a0b-11a32,11a3a,11a50,11a5c-11a89,11a9d,11ab0-11af8,11bc0-11be0,11c00-11c08,11c0a-11c2e,11c40,11c72-11c8f,11d00-11d06,11d08-11d09,11d0b-11d30,11d46,11d60-11d65,11d67-11d68,11d6a-11d89,11d98,11ee0-11ef2,11f02,11f04-11f10,11f12-11f33,11fb0,12000-12399,12400-1246e,12480-12543,12f90-12ff0,13000-1342f,13441-13446,13460-143fa,14400-14646,16100-1611d,16800-16a38,16a40-16a5e,16a70-16abe,16ad0-16aed,16b00-16b2f,16b40-16b43,16b63-16b77,16b7d-16b8f,16d40-16d6c,16f00-16f4a,16f50,16f93-16f9f,16fe0-16fe1,16fe3,17000-187f7,18800-18cd5,18cff-18d08,1aff0-1aff3,1aff5-1affb,1affd-1affe,1b000-1b122,1b132,1b150-1b152,1b155,1b164-1b167,1b170-1b2fb,1bc00-1bc6a,1bc70-1bc7c,1bc80-1bc88,1bc90-1bc99,1df0a,1e100-1e12c,1e137-1e13d,1e14e,1e290-1e2ad,1e2c0-1e2eb,1e4d0-1e4eb,1e5d0-1e5ed,1e5f0,1e7e0-1e7e6,1e7e8-1e7eb,1e7ed-1e7ee,1e7f0-1e7fe,1e800-1e8c4,1e94b,1ee00-1ee03,1ee05-1ee1f,1ee21-1ee22,1ee24,1ee27,1ee29-1ee32,1ee34-1ee37,1ee39,1ee3b,1ee42,1ee47,1ee49,1ee4b,1ee4d-1ee4f,1ee51-1ee52,1ee54,1ee57,1ee59,1ee5b,1ee5d,1ee5f,1ee61-1ee62,1ee64,1ee67-1ee6a,1ee6c-1ee72,1ee74-1ee77,1ee79-1ee7c,1ee7e,1ee80-1ee89,1ee8b-1ee9b,1eea1-1eea3,1eea5-1eea9,1eeab-1eebb,20000-2a6df,2a700-2b739,2b740-2b81d,2b820-2cea1,2ceb0-2ebe0,2ebf0-2ee5d,2f800-2fa1d,30000-3134a,31350-323af"),
  ("SContinue", "2c-2d,3a-3b,37e,55d,60c-60d,7f8,1802,1808,2013-2014,3001,fe10-fe11,fe13-fe14,fe31-fe32,fe50-fe51,fe54-fe55,fe58,fe63,ff0c-ff0d,ff1a-ff1b,ff64"),
  ("STerm", "21,3f,589,61d-61f,6d4,700-702,7f9,837,839,83d-83e,964-965,104a-104b,1362,1367-1368,166e,1735-1736,17d4-17d5,1803,1809,1944-1945,1aa8-1aab,1b4e-1b4f,1b5a-1b5b,1b5e-1b5f,1b7d-1b7f,1c3b-1c3c,1c7e-1c7f,203c-203d,2047-2049,2cf9-2cfb,2e2e,2e3c,2e53-2e54,3002,a4ff,a60e-a60f,a6f3,a6f7,a876-a877,a8ce-a8cf,a92f,a9c8-a9c9,aa5d-aa5f,aaf0-aaf1,abeb,fe12,fe15-fe16,fe56-fe57,ff01,ff1f,ff61,10a56-10a57,10f55-10f59,10f86-10f89,11047-11048,110be-110c1,11141-11143,111c5-111c6,111cd,111de-111df,11238-11239,1123b-1123c,112a9,113d4-113d5,1144b-1144c,115c2-115c3,115c9-115d7,11641-11642,1173c-1173e,11944,11946,11a42-11a43,11a9b-11a9c,11c41-11c42,11ef7-11ef8,11f43-11f44,16a6e-16a6f,16af5,16b37-16b38,16b44,16d6e-16d6f,16e98,1bc9f,1da88"),
  ("Sep", "85,2028-2029"),
  ("Sp", "9,b-c,20,a0,1680,2000-200a,202f,205f,3000"),
  ("Upper", "41-5a,c0-d6,d8-de,100,102,104,106,108,10a,10c,10e,110,112,114,116,118,11a,11c,11e,120,122,124,126,128,12a,12c,12e,130,132,134,136,139,13b,13d,13f,141,143,145,147,14a,14c,14e,150,152,154,156,158,15a,15c,15e,160,162,164,166,168,16a,16c,16e,170,172,174,176,178-179,17b,17d,181-182,184,186-187,189-18b,18e-191,193-194,196-198,19c-19d,19f-1a0,1a2,1a4,1a6-1a7,1a9,1ac,1ae-1af,1b1-1b3,1b5,1b7-1b8,1bc,1c4-1c5,1c7-1c8,1ca-1cb,1cd,1cf,1d1,1d3,1d5,1d7,1d9,1db,1de,1e0,1e2,1e4,1e6,1e8,1ea,1ec,1ee,1f1-1f2,1f4,1f6-1f8,1fa,1fc,1fe,200,202,204,206,208,20a,20c,20e,210,212,214,216,218,21a,21c,21e,220,222,224,226,228,22a,22c,22e,230,232,23a-23b,23d-23e,241,243-246,248,24a,24c,24e,370,372,376,37f,386,388-38a,38c,38e-38f,391-3a1,3a3-3ab,3cf,3d2-3d4,3d8,3da,3dc,3de,3e0,3e2,3e4,3e6,3e8,3ea,3ec,3ee,3f4,3f7,3f9-3fa,3fd-42f,460,462,464,466,468,46a,46c,46e,470,472,474,476,478,47a,47c,47e,480,48a,48c,48e,490,492,494,496,498,49a,49c,49e,4a0,4a2,4a4,4a6,4a8,4aa,4ac,4ae,4b0,4b2,4b4,4b6,4b8,4ba,4bc,4be,4c0-4c1,4c3,4c5,4c7,4c9,4cb,4cd,4d0,4d2,4d4,4d6,4d8,4da,4dc,4de,4e0,4e2,4e4,4e6,4e8,4ea,4ec,4ee,4f0,4f2,4f4,4f6,4f8,4fa,4fc,4fe,500,502,504,506,508,50a,50c,50e,510,512,514,516,518,51a,51c,51e,520,522,524,526,528,52a,52c,52e,531-556,10a0-10c5,10c7,10cd,13a0-13f5,1c89,1e00,1e02,1e04,1e06,1e08,1e0a,1e0c,1e0e,1e10,1e12,1e14,1e16,1e18,1e1a,1e1c,1e1e,1e20,1e22,1e24,1e26,1e28,1e2a,1e2c,1e2e,1e30,1e32,1e34,1e36,1e38,1e3a,1e3c,1e3e,1e40,1e42,1e44,1e46,1e48,1e4a,1e4c,1e4e,1e50,1e52,1e54,1e56,1e58,1e5a,1e5c,1e5e,1e60,1e62,1e64,1e66,1e68,1e6a,1e6c,1e6e,1e70,1e72,1e74,1e76,1e78,1e7a,1e7c,1e7e,1e80,1e82,1e84,1e86,1e88,1e8a,1e8c,1e8e,1e90,1e92,1e94,1e9e,1ea0,1ea2,1ea4,1ea6,1ea8,1eaa,1eac,1eae,1eb0,1eb2,1eb4,1eb6,1eb8,1eba,1ebc,1ebe,1ec0,1ec2,1ec4,1ec6,1ec8,1eca,1ecc,1ece,1ed0,1ed2,1ed4,1ed6,1ed8,1eda,1edc,1ede,1ee0,1ee2,1ee4,1ee6,1ee8,1eea,1eec,1eee,1ef0,1ef2,1ef4,1ef6,1ef8,1efa,1efc,1efe,1f08-1f0f,1f18-1f1d,1f28-1f2f,1f38-1f3f,1f48-1f4d,1f59,1f5b,1f5d,1f5f,1f68-1f6f,1f88-1f8f,1f98-1f9f,1fa8-1faf,1fb8-1fbc,1fc8-1fcc,1fd8-1fdb,1fe8-1fec,1ff8-1ffc,2102,2107,210b-210d,2110-2112,2115,2119-211d,2124,2126,2128,212a-212d,2130-2133,213e-213f,2145,2160-216f,2183,24b6-24cf,2c00-2c2f,2c60,2c62-2c64,2c67,2c69,2c6b,2c6d-2c70,2c72,2c75,2c7e-2c80,2c82,2c84,2c86,2c88,2c8a,2c8c,2c8e,2c90,2c92,2c94,2c96,2c98,2c9a,2c9c,2c9e,2ca0,2ca2,2ca4,2ca6,2ca8,2caa,2cac,2cae,2cb0,2cb2,2cb4,2cb6,2cb8,2cba,2cbc,2cbe,2cc0,2cc2,2cc4,2cc6,2cc8,2cca,2ccc,2cce,2cd0,2cd2,2cd4,2cd6,2cd8,2cda,2cdc,2cde,2ce0,2ce2,2ceb,2ced,2cf2,a640,a642,a644,a646,a648,a64a,a64c,a64e,a650,a652,a654,a656,a658,a65a,a65c,a65e,a660,a662,a664,a666,a668,a66a,a66c,a680,a682,a684,a686,a688,a68a,a68c,a68e,a690,a692,a694,a696,a698,a69a,a722,a724,a726,a728,a72a,a72c,a72e,a732,a734,a736,a738,a73a,a73c,a73e,a740,a742,a744,a746,a748,a74a,a74c,a74e,a750,a752,a754,a756,a758,a75a,a75c,a75e,a760,a762,a764,a766,a768,a76a,a76c,a76e,a779,a77b,a77d-a77e,a780,a782,a784,a786,a78b,a78d,a790,a792,a796,a798,a79a,a79c,a79e,a7a0,a7a2,a7a4,a7a6,a7a8,a7aa-a7ae,a7b0-a7b4,a7b6,a7b8,a7ba,a7bc,a7be,a7c0,a7c2,a7c4-a7c7,a7c9,a7cb-a7cc,a7d0,a7d6,a7d8,a7da,a7dc,a7f5,ff21-ff3a,10400-10427,104b0-104d3,10570-1057a,1057c-1058a,1058c-10592,10594-10595,10c80-10cb2,10d50-10d65,118a0-118bf,16e40-16e5f,1d400-1d419,1d434-1d44d,1d468-1d481,1d49c,1d49e-1d49f,1d4a2,1d4a5-1d4a6,1d4a9-1d4ac,1d4ae-1d4b5,1d4d0-1d4e9,1d504-1d505,1d507-1d50a,1d50d-1d514,1d516-1d51c,1d538-1d539,1d53b-1d53e,1d540-1d544,1d546,1d54a-1d550,1d56c-1d585,1d5a0-1d5b9,1d5d4-1d5ed,1d608-1d621,1d63c-1d655,1d670-1d689,1d6a8-1d6c0,1d6e2-1d6fa,1d71c-1d734,1d756-1d76e,1d790-1d7a8,1d7ca,1e900-1e921,1f130-1f149,1f150-1f169,1f170-1f189")
]

def wordRanges : String :=
  "30-39,41-5a,5f,61-7a,aa,b5,ba,c0-d6,d8-f6,f8-2c1,2c6-2d1,2e0-2e4,2ec,2ee,300-374,376-377,37a-37d,37f,386,388-38a,38c,38e-3a1,3a3-3f5,3f7-481,483-52f,531-556,559,560-588,591-5bd,5bf,5c1-5c2,5c4-5c5,5c7,5d0-5ea,5ef-5f2,610-61a,620-669,66e-6d3,6d5-6dc,6df-6e8,6ea-6fc,6ff,710-74a,74d-7b1,7c0-7f5,7fa,7fd,800-82d,840-85b,860-86a,870-887,889-88e,897-8e1,8e3-963,966-96f,971-983,985-98c,98f-990,993-9a8,9aa-9b0,9b2,9b6-9b9,9bc-9c4,9c7-9c8,9cb-9ce,9d7,9dc-9dd,9df-9e3,9e6-9f1,9fc,9fe,a01-a03,a05-a0a,a0f-a10,a13-a28,a2a-a30,a32-a33,a35-a36,a38-a39,a3c,a3e-a42,a47-a48,a4b-a4d,a51,a59-a5c,a5e,a66-a75,a81-a83,a85-a8d,a8f-a91,a93-aa8,aaa-ab0,ab2-ab3,ab5-ab9,abc-ac5,ac7-ac9,acb-acd,ad0,ae0-ae3,ae6-aef,af9-aff,b01-b03,b05-b0c,b0f-b10,b13-b28,b2a-b30,b32-b33,b35-b39,b3c-b44,b47-b48,b4b-b4d,b55-b57,b5c-b5d,b5f-b63,b66-b6f,b71,b82-b83,b85-b8a,b8e-b90,b92-b95,b99-b9a,b9c,b9e-b9f,ba3-ba4,ba8-baa,bae-bb9,bbe-bc2,bc6-bc8,bca-bcd,bd0,bd7,be6-bef,c00-c0c,c0e-c10,c12-c28,c2a-c39,c3c-c44,c46-c48,c4a-c4d,c55-c56,c58-c5a,c5d,c60-c63,c66-c6f,c80-c83,c85-c8c,c8e-c90,c92-ca8,caa-cb3,cb5-cb9,cbc-cc4,cc6-cc8,cca-ccd,cd5-cd6,cdd-cde,ce0-ce3,ce6-cef,cf1-cf3,d00-d0c,d0e-d10,d12-d44,d46-d48,d4a-d4e,d54-d57,d5f-d63,d66-d6f,d7a-d7f,d81-d83,d85-d96,d9a-db1,db3-dbb,dbd,dc0-dc6,dca,dcf-dd4,dd6,dd8-ddf,de6-def,df2-df3,e01-e3a,e40-e4e,e50-e59,e81-e82,e84,e86-e8a,e8c-ea3,ea5,ea7-ebd,ec0-ec4,ec6,ec8-ece,ed0-ed9,edc-edf,f00,f18-f19,f20-f29,f35,f37,f39,f3e-f47,f49-f6c,f71-f84,f86-f97,f99-fbc,fc6,1000-1049,1050-109d,10a0-10c5,10c7,10cd,10d0-10fa,10fc-1248,124a-124d,1250-1256,1258,125a-125d,1260-1288,128a-128d,1290-12b0,12b2-12b5,12b8-12be,12c0,12c2-12c5,12c8-12d6,12d8-1310,1312-1315,1318-135a,135d-135f,1380-138f,13a0-13f5,13f8-13fd,1401-166c,166f-167f,1681-169a,16a0-16ea,16ee-16f8,1700-1715,171f-1734,1740-1753,1760-176c,176e-1770,1772-1773,1780-17d3,17d7,17dc-17dd,17e0-17e9,180b-180d,180f-1819,1820-1878,1880-18aa,18b0-18f5,1900-191e,1920-192b,1930-193b,1946-196d,1970-1974,1980-19ab,19b0-19c9,19d0-19d9,1a00-1a1b,1a20-1a5e,1a60-1a7c,1a7f-1a89,1a90-1a99,1aa7,1ab0-1ace,1b00-1b4c,1b50-1b59,1b6b-1b73,1b80-1bf3,1c00-1c37,1c40-1c49,1c4d-1c7d,1c80-1c8a,1c90-1cba,1cbd-1cbf,1cd0-1cd2,1cd4-1cfa,1d00-1f15,1f18-1f1d,1f20-1f45,1f48-1f4d,1f50-1f57,1f59,1f5b,1f5d,1f5f-1f7d,1f80-1fb4,1fb6-1fbc,1fbe,1fc2-1fc4,1fc6-1fcc,1fd0-1fd3,1fd6-1fdb,1fe0-1fec,1ff2-1ff4,1ff6-1ffc,200c-200d,203f-2040,2054,2071,207f,2090-209c,20d0-20f0,2102,2107,210a-2113,2115,2119-211d,2124,2126,2128,212a-212d,212f-2139,213c-213f,2145-2149,214e,2160-2188,24b6-24e9,2c00-2ce4,2ceb-2cf3,2d00-2d25,2d27,2d2d,2d30-2d67,2d6f,2d7f-2d96,2da0-2da6,2da8-2dae,2db0-2db6,2db8-2dbe,2dc0-2dc6,2dc8-2dce,2dd0-2dd6,2dd8-2dde,2de0-2dff,2e2f,3005-3007,3021-302f,3031-3035,3038-303c,3041-3096,3099-309a,309d-309f,30a1-30fa,30fc-30ff,3105-312f,3131-318e,31a0-31bf,31f0-31ff,3400-4dbf,4e00-a48c,a4d0-a4fd,a500-a60c,a610-a62b,a640-a672,a674-a67d,a67f-a6f1,a717-a71f,a722-a788,a78b-a7cd,a7d0-a7d1,a7d3,a7d5-a7dc,a7f2-a827,a82c,a840-a873,a880-a8c5,a8d0-a8d9,a8e0-a8f7,a8fb,a8fd-a92d,a930-a953,a960-a97c,a980-a9c0,a9cf-a9d9,a9e0-a9fe,aa00-aa36,aa40-aa4d,aa50-aa59,aa60-aa76,aa7a-aac2,aadb-aadd,aae0-aaef,aaf2-aaf6,ab01-ab06,ab09-ab0e,ab11-ab16,ab20-ab26,ab28-ab2e,ab30-ab5a,ab5c-ab69,ab70-abea,abec-abed,abf0-abf9,ac00-d7a3,d7b0-d7c6,d7cb-d7fb,f900-fa6d,fa70-fad9,fb00-fb06,fb13-fb17,fb1d-fb28,fb2a-fb36,fb38-fb3c,fb3e,fb40-fb41,fb43-fb44,fb46-fbb1,fbd3-fd3d,fd50-fd8f,fd92-fdc7,fdf0-fdfb,fe00-fe0f,fe20-fe2f,fe33-fe34,fe4d-fe4f,fe70-fe74,fe76-fefc,ff10-ff19,ff21-ff3a,ff3f,ff41-ff5a,ff66-ffbe,ffc2-ffc7,ffca-ffcf,ffd2-ffd7,ffda-ffdc,10000-1000b,1000d-10026,10028-1003a,1003c-1003d,1003f-1004d,10050-1005d,10080-100fa,10140-10174,101fd,10280-1029c,102a0-102d0,102e0,10300-1031f,1032d-1034a,10350-1037a,10380-1039d,103a0-103c3,103c8-103cf,103d1-103d5,10400-1049d,104a0-104a9,104b0-104d3,104d8-104fb,10500-10527,10530-10563,10570-1057a,1057c-1058a,1058c-10592,10594-10595,10597-105a1,105a3-105b1,105b3-105b9,105bb-105bc,105c0-105f3,10600-10736,10740-10755,10760-10767,10780-10785,10787-107b0,107b2-107ba,10800-10805,10808,1080a-10835,10837-10838,1083c,1083f-10855,10860-10876,10880-1089e,108e0-108f2,108f4-108f5,10900-10915,10920-10939,10980-109b7,109be-109bf,10a00-10a03,10a05-10a06,10a0c-10a13,10a15-10a17,10a19-10a35,10a38-10a3a,10a3f,10a60-10a7c,10a80-10a9c,10ac0-10ac7,10ac9-10ae6,10b00-10b35,10b40-10b55,10b60-10b72,10b80-10b91,10c00-10c48,10c80-10cb2,10cc0-10cf2,10d00-10d27,10d30-10d39,10d40-10d65,10d69-10d6d,10d6f-10d85,10e80-10ea9,10eab-10eac,10eb0-10eb1,10ec2-10ec4,10efc-10f1c,10f27,10f30-10f50,10f70-10f85,10fb0-10fc4,10fe0-10ff6,11000-11046,11066-11075,1107f-110ba,110c2,110d0-110e8,110f0-110f9,11100-11134,11136-1113f,11144-11147,11150-11173,11176,11180-111c4,111c9-111cc,111ce-111da,111dc,11200-11211,11213-11237,1123e-11241,11280-11286,11288,1128a-1128d,1128f-1129d,1129f-112a8,112b0-112ea,112f0-112f9,11300-11303,11305-1130c,1130f-11310,11313-11328,1132a-11330,11332-11333,11335-11339,1133b-11344,11347-11348,1134b-1134d,11350,11357,1135d-11363,11366-1136c,11370-11374,11380-11389,1138b,1138e,11390-113b5,113b7-113c0,113c2,113c5,113c7-113ca,113cc-113d3,113e1-113e2,11400-1144a,11450-11459,1145e-11461,11480-114c5,114c7,114d0-114d9,11580-115b5,115b8-115c0,115d8-115dd,11600-11640,11644,11650-11659,11680-116b8,116c0-116c9,116d0-116e3,11700-1171a,1171d-1172b,11730-11739,11740-11746,11800-1183a,118a0-118e9,118ff-11906,11909,1190c-11913,11915-11916,11918-11935,11937-11938,1193b-11943,11950-11959,119a0-119a7,119aa-119d7,119da-119e1,119e3-119e4,11a00-11a3e,11a47,11a50-11a99,11a9d,11ab0-11af8,11bc0-11be0,11bf0-11bf9,11c00-11c08,11c0a-11c36,11c38-11c40,11c50-11c59,11c72-11c8f,11c92-11ca7,11ca9-11cb6,11d00-11d06,11d08-11d09,11d0b-11d36,11d3a,11d3c-11d3d,11d3f-11d47,11d50-11d59,11d60-11d65,11d67-11d68,11d6a-11d8e,11d90-11d91,11d93-11d98,11da0-11da9,11ee0-11ef6,11f00-11f10,11f12-11f3a,11f3e-11f42,11f50-11f5a,11fb0,12000-12399,12400-1246e,12480-12543,12f90-12ff0,13000-1342f,13440-13455,13460-143fa,14400-14646,16100-16139,16800-16a38,16a40-16a5e,16a60-16a69,16a70-16abe,16ac0-16ac9,16ad0-16aed,16af0-16af4,16b00-16b36,16b40-16b43,16b50-16b59,16b63-16b77,16b7d-16b8f,16d40-16d6c,16d70-16d79,16e40-16e7f,16f00-16f4a,16f4f-16f87,16f8f-16f9f,16fe0-16fe1,16fe3-16fe4,16ff0-16ff1,17000-187f7,18800-18cd5,18cff-18d08,1aff0-1aff3,1aff5-1affb,1affd-1affe,1b000-1b122,1b132,1b150-1b152,1b155,1b164-1b167,1b170-1b2fb,1bc00-1bc6a,1bc70-1bc7c,1bc80-1bc88,1bc90-1bc99,1bc9d-1bc9e,1ccf0-1ccf9,1cf00-1cf2d,1cf30-1cf46,1d165-1d169,1d16d-1d172,1d17b-1d182,1d185-1d18b,1d1aa-1d1ad,1d242-1d244,1d400-1d454,1d456-1d49c,1d49e-1d49f,1d4a2,1d4a5-1d4a6,1d4a9-1d4ac,1d4ae-1d4b9,1d4bb,1d4bd-1d4c3,1d4c5-1d505,1d507-1d50a,1d50d-1d514,1d516-1d51c,1d51e-1d539,1d53b-1d53e,1d540-1d544,1d546,1d54a-1d550,1d552-1d6a5,1d6a8-1d6c0,1d6c2-1d6da,1d6dc-1d6fa,1d6fc-1d714,1d716-1d734,1d736-1d74e,1d750-1d76e,1d770-1d788,1d78a-1d7a8,1d7aa-1d7c2,1d7c4-1d7cb,1d7ce-1d7ff,1da00-1da36,1da3b-1da6c,1da75,1da84,1da9b-1da9f,1daa1-1daaf,1df00-1df1e,1df25-1df2a,1e000-1e006,1e008-1e018,1e01b-1e021,1e023-1e024,1e026-1e02a,1e030-1e06d,1e08f,1e100-1e12c,1e130-1e13d,1e140-1e149,1e14e,1e290-1e2ae,1e2c0-1e2f9,1e4d0-1e4f9,1e5d0-1e5fa,1e7e0-1e7e6,1e7e8-1e7eb,1e7ed-1e7ee,1e7f0-1e7fe,1e800-1e8c4,1e8d0-1e8d6,1e900-1e94b,1e950-1e959,1ee00-1ee03,1ee05-1ee1f,1ee21-1ee22,1ee24,1ee27,1ee29-1ee32,1ee34-1ee37,1ee39,1ee3b,1ee42,1ee47,1ee49,1ee4b,1ee4d-1ee4f,1ee51-1ee52,1ee54,1ee57,1ee59,1ee5b,1ee5d,1ee5f,1ee61-1ee62,1ee64,1ee67-1ee6a,1ee6c-1ee72,1ee74-1ee77,1ee79-1ee7c,1ee7e,1ee80-1ee89,1ee8b-1ee9b,1eea1-1eea3,1eea5-1eea9,1eeab-1eebb,1f130-1f149,1f150-1f169,1f170-1f189,1fbf0-1fbf9,20000-2a6df,2a700-2b739,2b740-2b81d,2b820-2cea1,2ceb0-2ebe0,2ebf0-2ee5d,2f800-2fa1d,30000-3134a,31350-323af,e0100-e01ef"

def foldClasses : String :=
  "41 61,42 62,43 63,44 64,45 65,46 66,47 67,48 68,49 69,4a 6a,4b 6b 212a,4c 6c,4d 6d,4e 6e,4f 6f,50 70,51 71,52 72,53 73 17f,54 74,55 75,56 76,57 77,58 78,59 79,5a 7a,b5 39c 3bc,c0 e0,c1 e1,c2 e2,c3 e3,c4 e4,c5 e5 212b,c6 e6,c7 e7,c8 e8,c9 e9,ca ea,cb eb,cc ec,cd ed,ce ee,cf ef,d0 f0,d1 f1,d2 f2,d3 f3,d4 f4,d5 f5,d6 f6,d8 f8,d9 f9,da fa,db fb,dc fc,dd fd,de fe,df 1e9e,ff 178,100 101,102 103,104 105,106 107,108 109,10a 10b,10c 10d,10e 10f,110 111,112 113,114 115,116 117,118 119,11a 11b,11c 11d,11e 11f,120 121,122 123,124 125,126 127,128 129,12a 12b,12c 12d,12e 12f,132 133,134 135,136 137,139 13a,13b 13c,13d 13e,13f 140,141 142,143 144,145 146,147 148,14a 14b,14c 14d,14e 14f,150 151,152 153,154 155,156 157,158 159,15a 15b,15c 15d,15e 15f,160 161,162 163,164 165,166 167,168 169,16a 16b,16c 16d,16e 16f,170 171,172 173,174 175,176 177,179 17a,17b 17c,17d 17e,180 243,181 253,182 183,184 185,186 254,187 188,189 256,18a 257,18b 18c,18e 1dd,18f 259,190 25b,191 192,193 260,194 263,195 1f6,196 269,197 268,198 199,19a 23d,19b a7dc,19c 26f,19d 272,19e 220,19f 275,1a0 1a1,1a2 1a3,1a4 1a5,1a6 280,1a7 1a8,1a9 283,1ac 1ad,1ae 288,1af 1b0,1b1 28a,1b2 28b,1b3 1b4,1b5 1b6,1b7 292,1b8 1b9,1bc 1bd,1bf 1f7,1c4 1c5 1c6,1c7 1c8 1c9,1ca 1cb 1cc,1cd 1ce,1cf 1d0,1d1 1d2,1d3 1d4,1d5 1d6,1d7 1d8,1d9 1da,1db 1dc,1de 1df,1e0 1e1,1e2 1e3,1e4 1e5,1e6 1e7,1e8 1e9,1ea 1eb,1ec 1ed,1ee 1ef,1f1 1f2 1f3,1f4 1f5,1f8 1f9,1fa 1fb,1fc 1fd,1fe 1ff,200 201,202 203,204 205,206 207,208 209,20a 20b,20c 20d,20e 20f,210 211,212 213,214 215,216 217,218 219,21a 21b,21c 21d,21e 21f,222 223,224 225,226 227,228 229,22a 22b,22c 22d,22e 22f,230 231,232 233,23a 2c65,23b 23c,23e 2c66,23f 2c7e,240 2c7f,241 242,244 289,245 28c,246 247,248 249,24a 24b,24c 24d,24e 24f,250 2c6f,251 2c6d,252 2c70,25c a7ab,261 a7ac,264 a7cb,265 a78d,266 a7aa,26a a7ae,26b 2c62,26c a7ad,271 2c6e,27d 2c64,282 a7c5,287 a7b1,29d a7b2,29e a7b0,345 399 3b9 1fbe,370 371,372 373,376 377,37b 3fd,37c 3fe,37d 3ff,37f 3f3,386 3ac,388 3ad,389 3ae,38a 3af,38c 3cc,38e 3cd,38f 3ce,390 1fd3,391 3b1,392 3b2 3d0,393 3b3,394 3b4,395 3b5 3f5,396 3b6,397 3b7,398 3b8 3d1 3f4,39a 3ba 3f0,39b 3bb,39d 3bd,39e 3be,39f 3bf,3a0 3c0 3d6,3a1 3c1 3f1,3a3 3c2 3c3,3a4 3c4,3a5 3c5,3a6 3c6 3d5,3a7 3c7,3a8 3c8,3a9 3c9 2126,3aa 3ca,3ab 3cb,3b0 1fe3,3cf 3d7,3d8 3d9,3da 3db,3dc 3dd,3de 3df,3e0 3e1,3e2 3e3,3e4 3e5,3e6 3e7,3e8 3e9,3ea 3eb,3ec 3ed,3ee 3ef,3f2 3f9,3f7 3f8,3fa 3fb,400 450,401 451,402 452,403 453,404 454,405 455,406 456,407 457,408 458,409 459,40a 45a,40b 45b,40c 45c,40d 45d,40e 45e,40f 45f,410 430,411 431,412 432 1c80,413 433,414 434 1c81,415 435,416 436,417 437,418 438,419 439,41a 43a,41b 43b,41c 43c,41d 43d,41e 43e 1c82,41f 43f,420 440,421 441 1c83,422 442 1c84 1c85,423 443,424 444,425 445,426 446,427 447,428 448,429 449,42a 44a 1c86,42b 44b,42c 44c,42d 44d,42e 44e,42f 44f,460 461,462 463 1c87,464 465,466 467,468 469,46a 46b,46c 46d,46e 46f,470 471,472 473,474 475,476 477,478 479,47a 47b,47c 47d,47e 47f,480 481,48a 48b,48c 48d,48e 48f,490 491,492 493,494 495,496 497,498 499,49a 49b,49c 49d,49e 49f,4a0 4a1,4a2 4a3,4a4 4a5,4a6 4a7,4a8 4a9,4aa 4ab,4ac 4ad,4ae 4af,4b0 4b1,4b2 4b3,4b4 4b5,4b6 4b7,4b8 4b9,4ba 4bb,4bc 4bd,4be 4bf,4c0 4cf,4c1 4c2,4c3 4c4,4c5 4c6,4c7 4c8,4c9 4ca,4cb 4cc,4cd 4ce,4d0 4d1,4d2 4d3,4d4 4d5,4d6 4d7,4d8 4d9,4da 4db,4dc 4dd,4de 4df,4e0 4e1,4e2 4e3,4e4 4e5,4e6 4e7,4e8 4e9,4ea 4eb,4ec 4ed,4ee 4ef,4f0 4f1,4f2 4f3,4f4 4f5,4f6 4f7,4f8 4f9,4fa 4fb,4fc 4fd,4fe 4ff,500 501,502 503,504 505,506 507,508 509,50a 50b,50c 50d,50e 50f,510 511,512 513,514 515,516 517,518 519,51a 51b,51c 51d,51e 51f,520 521,522 523,524 525,526 527,528 529,52a 52b,52c 52d,52e 52f,531 561,532 562,533 563,534 564,535 565,536 566,537 567,538 568,539 569,53a 56a,53b 56b,53c 56c,53d 56d,53e 56e,53f 56f,540 570,541 571,542 572,543 573,544 574,545 575,546 576,547 577,548 578,549 579,54a 57a,54b 57b,54c 57c,54d 57d,54e 57e,54f 57f,550 580,551 581,552 582,553 583,554 584,555 585,556 586,10a0 2d00,10a1 2d01,10a2 2d02,10a3 2d03,10a4 2d04,10a5 2d05,10a6 2d06,10a7 2d07,10a8 2d08,10a9 2d09,10aa 2d0a,10ab 2d0b,10ac 2d0c,10ad 2d0d,10ae 2d0e,10af 2d0f,10b0 2d10,10b1 2d11,10b2 2d12,10b3 2d13,10b4 2d14,10b5 2d15,10b6 2d16,10b7 2d17,10b8 2d18,10b9 2d19,10ba 2d1a,10bb 2d1b,10bc 2d1c,10bd 2d1d,10be 2d1e,10bf 2d1f,10c0 2d20,10c1 2d21,10c2 2d22,10c3 2d23,10c4 2d24,10c5 2d25,10c7 2d27,10cd 2d2d,10d0 1c90,10d1 1c91,10d2 1c92,10d3 1c93,10d4 1c94,10d5 1c95,10d6 1c96,10d7 1c97,10d8 1c98,10d9 1c99,10da 1c9a,10db 1c9b,10dc 1c9c,10dd 1c9d,10de 1c9e,10df 1c9f,10e0 1ca0,10e1 1ca1,10e2 1ca2,10e3 1ca3,10e4 1ca4,10e5 1ca5,10e6 1ca6,10e7 1ca7,10e8 1ca8,10e9 1ca9,10ea 1caa,10eb 1cab,10ec 1cac,10ed 1cad,10ee 1cae,10ef 1caf,10f0 1cb0,10f1 1cb1,10f2 1cb2,10f3 1cb3,10f4 1cb4,10f5 1cb5,10f6 1cb6,10f7 1cb7,10f8 1cb8,10f9 1cb9,10fa 1cba,10fd 1cbd,10fe 1cbe,10ff 1cbf,13a0 ab70,13a1 ab71,13a2 ab72,13a3 ab73,13a4 ab74,13a5 ab75,13a6 ab76,13a7 ab77,13a8 ab78,13a9 ab79,13aa ab7a,13ab ab7b,13ac ab7c,13ad ab7d,13ae ab7e,13af ab7f,13b0 ab80,13b1 ab81,13b2 ab82,13b3 ab83,13b4 ab84,13b5 ab85,13b6 ab86,13b7 ab87,13b8 ab88,13b9 ab89,13ba ab8a,13bb ab8b,13bc ab8c,13bd ab8d,13be ab8e,13bf ab8f,13c0 ab90,13c1 ab91,13c2 ab92,13c3 ab93,13c4 ab94,13c5 ab95,13c6 ab96,13c7 ab97,13c8 ab98,13c9 ab99,13ca ab9a,13cb ab9b,13cc ab9c,13cd ab9d,13ce ab9e,13cf ab9f,13d0 aba0,13d1 aba1,13d2 aba2,13d3 aba3,13d4 aba4,13d5 aba5,13d6 aba6,13d7 aba7,13d8 aba8,13d9 aba9,13da abaa,13db abab,13dc abac,13dd abad,13de abae,13df abaf,13e0 abb0,13e1 abb1,13e2 abb2,13e3 abb3,13e4 abb4,13e5 abb5,13e6 abb6,13e7 abb7,13e8 abb8,13e9 abb9,13ea abba,13eb abbb,13ec abbc,13ed abbd,13ee abbe,13ef abbf,13f0 13f8,13f1 13f9,13f2 13fa,13f3 13fb,13f4 13fc,13f5 13fd,1c88 a64a a64b,1c89 1c8a,1d79 a77d,1d7d 2c63,1d8e a7c6,1e00 1e01,1e02 1e03,1e04 1e05,1e06 1e07,1e08 1e09,1e0a 1e0b,1e0c 1e0d,1e0e 1e0f,1e10 1e11,1e12 1e13,1e14 1e15,1e16 1e17,1e18 1e19,1e1a 1e1b,1e1c 1e1d,1e1e 1e1f,1e20 1e21,1e22 1e23,1e24 1e25,1e26 1e27,1e28 1e29,1e2a 1e2b,1e2c 1e2d,1e2e 1e2f,1e30 1e31,1e32 1e33,1e34 1e35,1e36 1e37,1e38 1e39,1e3a 1e3b,1e3c 1e3d,1e3e 1e3f,1e40 1e41,1e42 1e43,1e44 1e45,1e46 1e47,1e48 1e49,1e4a 1e4b,1e4c 1e4d,1e4e 1e4f,1e50 1e51,1e52 1e53,1e54 1e55,1e56 1e57,1e58 1e59,1e5a 1e5b,1e5c 1e5d,1e5e 1e5f,1e60 1e61 1e9b,1e62 1e63,1e64 1e65,1e66 1e67,1e68 1e69,1e6a 1e6b,1e6c 1e6d,1e6e 1e6f,1e70 1e71,1e72 1e73,1e74 1e75,1e76 1e77,1e78 1e79,1e7a 1e7b,1e7c 1e7d,1e7e 1e7f,1e80 1e81,1e82 1e83,1e84 1e85,1e86 1e87,1e88 1e89,1e8a 1e8b,1e8c 1e8d,1e8e 1e8f,1e90 1e91,1e92 1e93,1e94 1e95,1ea0 1ea1,1ea2 1ea3,1ea4 1ea5,1ea6 1ea7,1ea8 1ea9,1eaa 1eab,1eac 1ead,1eae 1eaf,1eb0 1eb1,1eb2 1eb3,1eb4 1eb5,1eb6 1eb7,1eb8 1eb9,1eba 1ebb,1ebc 1ebd,1ebe 1ebf,1ec0 1ec1,1ec2 1ec3,1ec4 1ec5,1ec6 1ec7,1ec8 1ec9,1eca 1ecb,1ecc 1ecd,1ece 1ecf,1ed0 1ed1,1ed2 1ed3,1ed4 1ed5,1ed6 1ed7,1ed8 1ed9,1eda 1edb,1edc 1edd,1ede 1edf,1ee0 1ee1,1ee2 1ee3,1ee4 1ee5,1ee6 1ee7,1ee8 1ee9,1eea 1eeb,1eec 1eed,1eee 1eef,1ef0 1ef1,1ef2 1ef3,1ef4 1ef5,1ef6 1ef7,1ef8 1ef9,1efa 1efb,1efc 1efd,1efe 1eff,1f00 1f08,1f01 1f09,1f02 1f0a,1f03 1f0b,1f04 1f0c,1f05 1f0d,1f06 1f0e,1f07 1f0f,1f10 1f18,1f11 1f19,1f12 1f1a,1f13 1f1b,1f14 1f1c,1f15 1f1d,1f20 1f28,1f21 1f29,1f22 1f2a,1f23 1f2b,1f24 1f2c,1f25 1f2d,1f26 1f2e,1f27 1f2f,1f30 1f38,1f31 1f39,1f32 1f3a,1f33 1f3b,1f34 1f3c,1f35 1f3d,1f36 1f3e,1f37 1f3f,1f40 1f48,1f41 1f49,1f42 1f4a,1f43 1f4b,1f44 1f4c,1f45 1f4d,1f51 1f59,1f53 1f5b,1f55 1f5d,1f57 1f5f,1f60 1f68,1f61 1f69,1f62 1f6a,1f63 1f6b,1f64 1f6c,1f65 1f6d,1f66 1f6e,1f67 1f6f,1f70 1fba,1f71 1fbb,1f72 1fc8,1f73 1fc9,1f74 1fca,1f75 1fcb,1f76 1fda,1f77 1fdb,1f78 1ff8,1f79 1ff9,1f7a 1fea,1f7b 1feb,1f7c 1ffa,1f7d 1ffb,1f80 1f88,1f81 1f89,1f82 1f8a,1f83 1f8b,1f84 1f8c,1f85 1f8d,1f86 1f8e,1f87 1f8f,1f90 1f98,1f91 1f99,1f92 1f9a,1f93 1f9b,1f94 1f9c,1f95 1f9d,1f96 1f9e,1f97 1f9f,1fa0 1fa8,1fa1 1fa9,1fa2 1faa,1fa3 1fab,1fa4 1fac,1fa5 1fad,1fa6 1fae,1fa7 1faf,1fb0 1fb8,1fb1 1fb9,1fb3 1fbc,1fc3 1fcc,1fd0 1fd8,1fd1 1fd9,1fe0 1fe8,1fe1 1fe9,1fe5 1fec,1ff3 1ffc,2132 214e,2160 2170,2161 2171,2162 2172,2163 2173,2164 2174,2165 2175,2166 2176,2167 2177,2168 2178,2169 2179,216a 217a,216b 217b,216c 217c,216d 217d,216e 217e,216f 217f,2183 2184,24b6 24d0,24b7 24d1,24b8 24d2,24b9 24d3,24ba 24d4,24bb 24d5,24bc 24d6,24bd 24d7,24be 24d8,24bf 24d9,24c0 24da,24c1 24db,24c2 24dc,24c3 24dd,24c4 24de,24c5 24df,24c6 24e0,24c7 24e1,24c8 24e2,24c9 24e3,24ca 24e4,24cb 24e5,24cc 24e6,24cd 24e7,24ce 24e8,24cf 24e9,2c00 2c30,2c01 2c31,2c02 2c32,2c03 2c33,2c04 2c34,2c05 2c35,2c06 2c36,2c07 2c37,2c08 2c38,2c09 2c39,2c0a 2c3a,2c0b 2c3b,2c0c 2c3c,2c0d 2c3d,2c0e 2c3e,2c0f 2c3f,2c10 2c40,2c11 2c41,2c12 2c42,2c13 2c43,2c14 2c44,2c15 2c45,2c16 2c46,2c17 2c47,2c18 2c48,2c19 2c49,2c1a 2c4a,2c1b 2c4b,2c1c 2c4c,2c1d 2c4d,2c1e 2c4e,2c1f 2c4f,2c20 2c50,2c21 2c51,2c22 2c52,2c23 2c53,2c24 2c54,2c25 2c55,2c26 2c56,2c27 2c57,2c28 2c58,2c29 2c59,2c2a 2c5a,2c2b 2c5b,2c2c 2c5c,2c2d 2c5d,2c2e 2c5e,2c2f 2c5f,2c60 2c61,2c67 2c68,2c69 2c6a,2c6b 2c6c,2c72 2c73,2c75 2c76,2c80 2c81,2c82 2c83,2c84 2c85,2c86 2c87,2c88 2c89,2c8a 2c8b,2c8c 2c8d,2c8e 2c8f,2c90 2c91,2c92 2c93,2c94 2c95,2c96 2c97,2c98 2c99,2c9a 2c9b,2c9c 2c9d,2c9e 2c9f,2ca0 2ca1,2ca2 2ca3,2ca4 2ca5,2ca6 2ca7,2ca8 2ca9,2caa 2cab,2cac 2cad,2cae 2caf,2cb0 2cb1,2cb2 2cb3,2cb4 2cb5,2cb6 2cb7,2cb8 2cb9,2cba 2cbb,2cbc 2cbd,2cbe 2cbf,2cc0 2cc1,2cc2 2cc3,2cc4 2cc5,2cc6 2cc7,2cc8 2cc9,2cca 2ccb,2ccc 2ccd,2cce 2ccf,2cd0 2cd1,2cd2 2cd3,2cd4 2cd5,2cd6 2cd7,2cd8 2cd9,2cda 2cdb,2cdc 2cdd,2cde 2cdf,2ce0 2ce1,2ce2 2ce3,2ceb 2cec,2ced 2cee,2cf2 2cf3,a640 a641,a642 a643,a644 a645,a646 a647,a648 a649,a64c a64d,a64e a64f,a650 a651,a652 a653,a654 a655,a656 a657,a658 a659,a65a a65b,a65c a65d,a65e a65f,a660 a661,a662 a663,a664 a665,a666 a667,a668 a669,a66a a66b,a66c a66d,a680 a681,a682 a683,a684 a685,a686 a687,a688 a689,a68a a68b,a68c a68d,a68e a68f,a690 a691,a692 a693,a694 a695,a696 a697,a698 a699,a69a a69b,a722 a723,a724 a725,a726 a727,a728 a729,a72a a72b,a72c a72d,a72e a72f,a732 a733,a734 a735,a736 a737,a738 a739,a73a a73b,a73c a73d,a73e a73f,a740 a741,a742 a743,a744 a745,a746 a747,a748 a749,a74a a74b,a74c a74d,a74e a74f,a750 a751,a752 a753,a754 a755,a756 a757,a758 a759,a75a a75b,a75c a75d,a75e a75f,a760 a761,a762 a763,a764 a765,a766 a767,a768 a769,a76a a76b,a76c a76d,a76e a76f,a779 a77a,a77b a77c,a77e a77f,a780 a781,a782 a783,a784 a785,a786 a787,a78b a78c,a790 a791,a792 a793,a794 a7c4,a796 a797,a798 a799,a79a a79b,a79c a79d,a79e a79f,a7a0 a7a1,a7a2 a7a3,a7a4 a7a5,a7a6 a7a7,a7a8 a7a9,a7b3 ab53,a7b4 a7b5,a7b6 a7b7,a7b8 a7b9,a7ba a7bb,a7bc a7bd,a7be a7bf,a7c0 a7c1,a7c2 a7c3,a7c7 a7c8,a7c9 a7ca,a7cc a7cd,a7d0 a7d1,a7d6 a7d7,a7d8 a7d9,a7da a7db,a7f5 a7f6,fb05 fb06,ff21 ff41,ff22 ff42,ff23 ff43,ff24 ff44,ff25 ff45,ff26 ff46,ff27 ff47,ff28 ff48,ff29 ff49,ff2a ff4a,ff2b ff4b,ff2c ff4c,ff2d ff4d,ff2e ff4e,ff2f ff4f,ff30 ff50,ff31 ff51,ff32 ff52,ff33 ff53,ff34 ff54,ff35 ff55,ff36 ff56,ff37 ff57,ff38 ff58,ff39 ff59,ff3a ff5a,10400 10428,10401 10429,10402 1042a,10403 1042b,10404 1042c,10405 1042d,10406 1042e,10407 1042f,10408 10430,10409 10431,1040a 10432,1040b 10433,1040c 10434,1040d 10435,1040e 10436,1040f 10437,10410 10438,10411 10439,10412 1043a,10413 1043b,10414 1043c,10415 1043d,10416 1043e,10417 1043f,10418 10440,10419 10441,1041a 10442,1041b 10443,1041c 10444,1041d 10445,1041e 10446,1041f 10447,10420 10448,10421 10449,10422 1044a,10423 1044b,10424 1044c,10425 1044d,10426 1044e,10427 1044f,104b0 104d8,104b1 104d9,104b2 104da,104b3 104db,104b4 104dc,104b5 104dd,104b6 104de,104b7 104df,104b8 104e0,104b9 104e1,104ba 104e2,104bb 104e3,104bc 104e4,104bd 104e5,104be 104e6,104bf 104e7,104c0 104e8,104c1 104e9,104c2 104ea,104c3 104eb,104c4 104ec,104c5 104ed,104c6 104ee,104c7 104ef,104c8 104f0,104c9 104f1,104ca 104f2,104cb 104f3,104cc 104f4,104cd 104f5,104ce 104f6,104cf 104f7,104d0 104f8,104d1 104f9,104d2 104fa,104d3 104fb,10570 10597,10571 10598,10572 10599,10573 1059a,10574 1059b,10575 1059c,10576 1059d,10577 1059e,10578 1059f,10579 105a0,1057a 105a1,1057c 105a3,1057d 105a4,1057e 105a5,1057f 105a6,10580 105a7,10581 105a8,10582 105a9,10583 105aa,10584 105ab,10585 105ac,10586 105ad,10587 105ae,10588 105af,10589 105b0,1058a 105b1,1058c 105b3,1058d 105b4,1058e 105b5,1058f 105b6,10590 105b7,10591 105b8,10592 105b9,10594 105bb,10595 105bc,10c80 10cc0,10c81 10cc1,10c82 10cc2,10c83 10cc3,10c84 10cc4,10c85 10cc5,10c86 10cc6,10c87 10cc7,10c88 10cc8,10c89 10cc9,10c8a 10cca,10c8b 10ccb,10c8c 10ccc,10c8d 10ccd,10c8e 10cce,10c8f 10ccf,10c90 10cd0,10c91 10cd1,10c92 10cd2,10c93 10cd3,10c94 10cd4,10c95 10cd5,10c96 10cd6,10c97 10cd7,10c98 10cd8,10c99 10cd9,10c9a 10cda,10c9b 10cdb,10c9c 10cdc,10c9d 10cdd,10c9e 10cde,10c9f 10cdf,10ca0 10ce0,10ca1 10ce1,10ca2 10ce2,10ca3 10ce3,10ca4 10ce4,10ca5 10ce5,10ca6 10ce6,10ca7 10ce7,10ca8 10ce8,10ca9 10ce9,10caa 10cea,10cab 10ceb,10cac 10cec,10cad 10ced,10cae 10cee,10caf 10cef,10cb0 10cf0,10cb1 10cf1,10cb2 10cf2,10d50 10d70,10d51 10d71,10d52 10d72,10d53 10d73,10d54 10d74,10d55 10d75,10d56 10d76,10d57 10d77,10d58 10d78,10d59 10d79,10d5a 10d7a,10d5b 10d7b,10d5c 10d7c,10d5d 10d7d,10d5e 10d7e,10d5f 10d7f,10d60 10d80,10d61 10d81,10d62 10d82,10d63 10d83,10d64 10d84,10d65 10d85,118a0 118c0,118a1 118c1,118a2 118c2,118a3 118c3,118a4 118c4,118a5 118c5,118a6 118c6,118a7 118c7,118a8 118c8,118a9 118c9,118aa 118ca,118ab 118cb,118ac 118cc,118ad 118cd,118ae 118ce,118af 118cf,118b0 118d0,118b1 118d1,118b2 118d2,118b3 118d3,118b4 118d4,118b5 118d5,118b6 118d6,118b7 118d7,118b8 118d8,118b9 118d9,118ba 118da,118bb 118db,118bc 118dc,118bd 118dd,118be 118de,118bf 118df,16e40 16e60,16e41 16e61,16e42 16e62,16e43 16e63,16e44 16e64,16e45 16e65,16e46 16e66,16e47 16e67,16e48 16e68,16e49 16e69,16e4a 16e6a,16e4b 16e6b,16e4c 16e6c,16e4d 16e6d,16e4e 16e6e,16e4f 16e6f,16e50 16e70,16e51 16e71,16e52 16e72,16e53 16e73,16e54 16e74,16e55 16e75,16e56 16e76,16e57 16e77,16e58 16e78,16e59 16e79,16e5a 16e7a,16e5b 16e7b,16e5c 16e7c,16e5d 16e7d,16e5e 16e7e,16e5f 16e7f,1e900 1e922,1e901 1e923,1e902 1e924,1e903 1e925,1e904 1e926,1e905 1e927,1e906 1e928,1e907 1e929,1e908 1e92a,1e909 1e92b,1e90a 1e92c,1e90b 1e92d,1e90c 1e92e,1e90d 1e92f,1e90e 1e930,1e90f 1e931,1e910 1e932,1e911 1e933,1e912 1e934,1e913 1e935,1e914 1e936,1e915 1e937,1e916 1e938,1e917 1e939,1e918 1e93a,1e919 1e93b,1e91a 1e93c,1e91b 1e93d,1e91c 1e93e,1e91d 1e93f,1e91e 1e940,1e91f 1e941,1e920 1e942,1e921 1e943"

end InputMethod.Unicode
