import AsmHarness.Unicode.Table

/-!
# Ages

The age of a code point is the version of Unicode in which it was assigned. A version is named by
its number; what it has are the code points of its own age and of those before it.
-/

namespace AsmHarness.Unicode.Age

/-- The symbol of every version, from the first on, with the number it also goes by. -/
def versions : List (String × List String) :=
  [("V1_1", ["1.1"]), ("V2_0", ["2.0"]), ("V2_1", ["2.1"]), ("V3_0", ["3.0"]), ("V3_1", ["3.1"]),
   ("V3_2", ["3.2"]), ("V4_0", ["4.0"]), ("V4_1", ["4.1"]), ("V5_0", ["5.0"]), ("V5_1", ["5.1"]),
   ("V5_2", ["5.2"]), ("V6_0", ["6.0"]), ("V6_1", ["6.1"]), ("V6_2", ["6.2"]), ("V6_3", ["6.3"]),
   ("V7_0", ["7.0"]), ("V8_0", ["8.0"]), ("V9_0", ["9.0"]), ("V10_0", ["10.0"]),
   ("V11_0", ["11.0"]), ("V12_0", ["12.0"]), ("V12_1", ["12.1"]), ("V13_0", ["13.0"]),
   ("V14_0", ["14.0"]), ("V15_0", ["15.0"]), ("V15_1", ["15.1"]), ("V16_0", ["16.0"]),
   ("V17_0", ["17.0"])]

/-- The code points at which the age changes, with the symbol of the version from there on. -/
def runs : Runs String :=
  .read some
    ["0V1_1 1f6V3_0 1faV1_1 218V3_0 220V3_2 221V4_0 222V3_0 234V4_0 237V4_1 242V5_0 250V1_1",
     "2a9V3_0 2aeV4_0 2b0V1_1 2dfV3_0 2e0V1_1 2eaV3_0 2efV4_0 300V1_1 346V3_0 34fV3_2 350V4_0",
     "358V4_1 35dV4_0 360V1_1 362V3_0 363V3_2 370V5_1 374V1_1 376V5_1 378NA 37aV1_1 37bV5_0",
     "37eV1_1 37fV7_0 380NA 384V1_1 38bNA 38cV1_1 38dNA 38eV1_1 3a2NA 3a3V1_1 3cfV5_1 3d0V1_1",
     "3d7V3_0 3d8V3_2 3daV1_1 3dbV3_0 3dcV1_1 3ddV3_0 3deV1_1 3dfV3_0 3e0V1_1 3e1V3_0 3e2V1_1",
     "3f4V3_1 3f6V3_2 3f7V4_0 3fcV4_1 400V3_0 401V1_1 40dV3_0 40eV1_1 450V3_0 451V1_1 45dV3_0",
     "45eV1_1 487V5_1 488V3_0 48aV3_2 48cV3_0 490V1_1 4c5V3_2 4c7V1_1 4c9V3_2 4cbV1_1 4cdV3_2",
     "4cfV5_0 4d0V1_1 4ecV3_0 4eeV1_1 4f6V4_1 4f8V1_1 4faV5_0 500V3_2 510V5_0 514V5_1 524V5_2",
     "526V6_0 528V7_0 530NA 531V1_1 557NA 559V1_1 560V11_0 561V1_1 588V11_0 589V1_1 58aV3_0 58bNA",
     "58dV7_0 58fV6_1 590NA 591V2_0 5a2V4_1 5a3V2_0 5b0V1_1 5baV5_0 5bbV1_1 5c4V2_0 5c5V4_1 5c8NA",
     "5d0V1_1 5ebNA 5efV11_0 5f0V1_1 5f5NA 600V4_0 604V6_1 605V7_0 606V5_1 60bV4_1 60cV1_1",
     "60dV4_0 616V5_1 61bV1_1 61cV6_3 61dV14_0 61eV4_1 61fV1_1 620V6_0 621V1_1 63bV5_1 640V1_1",
     "653V3_0 656V4_0 659V4_1 65fV6_0 660V1_1 66eV3_2 670V1_1 6b8V3_0 6baV1_1 6bfV3_0 6c0V1_1",
     "6cfV3_0 6d0V1_1 6eeV4_0 6f0V1_1 6faV3_0 6ffV4_0 700V3_0 70eNA 70fV3_0 72dV4_0 730V3_0 74bNA",
     "74dV4_0 750V4_1 76eV5_1 780V3_0 7b1V3_2 7b2NA 7c0V5_0 7fbNA 7fdV11_0 800V5_2 82eNA 830V5_2",
     "83fNA 840V6_0 85cNA 85eV6_0 85fNA 860V10_0 86bNA 870V14_0 88fV17_0 890V14_0 892NA 897V16_0",
     "898V14_0 8a0V6_1 8a1V7_0 8a2V6_1 8adV7_0 8b3V8_0 8b5V14_0 8b6V9_0 8beV13_0 8c8V14_0",
     "8d3V11_0 8d4V9_0 8e3V8_0 8e4V6_1 8ffV7_0 900V5_2 901V1_1 904V4_0 905V1_1 93aV6_0 93cV1_1",
     "94eV5_2 94fV6_0 950V1_1 955V5_2 956V6_0 958V1_1 971V5_1 973V6_0 978V7_0 979V5_2 97bV5_0",
     "97dV4_1 97eV5_0 980V7_0 981V1_1 984NA 985V1_1 98dNA 98fV1_1 991NA 993V1_1 9a9NA 9aaV1_1",
     "9b1NA 9b2V1_1 9b3NA 9b6V1_1 9baNA 9bcV1_1 9bdV4_0 9beV1_1 9c5NA 9c7V1_1 9c9NA 9cbV1_1",
     "9ceV4_1 9cfNA 9d7V1_1 9d8NA 9dcV1_1 9deNA 9dfV1_1 9e4NA 9e6V1_1 9fbV5_2 9fcV10_0 9feV11_0",
     "9ffNA a01V4_0 a02V1_1 a03V4_0 a04NA a05V1_1 a0bNA a0fV1_1 a11NA a13V1_1 a29NA a2aV1_1 a31NA",
     "a32V1_1 a34NA a35V1_1 a37NA a38V1_1 a3aNA a3cV1_1 a3dNA a3eV1_1 a43NA a47V1_1 a49NA a4bV1_1",
     "a4eNA a51V5_1 a52NA a59V1_1 a5dNA a5eV1_1 a5fNA a66V1_1 a75V5_1 a76V11_0 a77NA a81V1_1",
     "a84NA a85V1_1 a8cV4_0 a8dV1_1 a8eNA a8fV1_1 a92NA a93V1_1 aa9NA aaaV1_1 ab1NA ab2V1_1 ab4NA",
     "ab5V1_1 abaNA abcV1_1 ac6NA ac7V1_1 acaNA acbV1_1 aceNA ad0V1_1 ad1NA ae0V1_1 ae1V4_0 ae4NA",
     "ae6V1_1 af0V6_1 af1V4_0 af2NA af9V8_0 afaV10_0 b00NA b01V1_1 b04NA b05V1_1 b0dNA b0fV1_1",
     "b11NA b13V1_1 b29NA b2aV1_1 b31NA b32V1_1 b34NA b35V4_0 b36V1_1 b3aNA b3cV1_1 b44V5_1 b45NA",
     "b47V1_1 b49NA b4bV1_1 b4eNA b55V13_0 b56V1_1 b58NA b5cV1_1 b5eNA b5fV1_1 b62V5_1 b64NA",
     "b66V1_1 b71V4_0 b72V6_0 b78NA b82V1_1 b84NA b85V1_1 b8bNA b8eV1_1 b91NA b92V1_1 b96NA",
     "b99V1_1 b9bNA b9cV1_1 b9dNA b9eV1_1 ba0NA ba3V1_1 ba5NA ba8V1_1 babNA baeV1_1 bb6V4_1",
     "bb7V1_1 bbaNA bbeV1_1 bc3NA bc6V1_1 bc9NA bcaV1_1 bceNA bd0V5_1 bd1NA bd7V1_1 bd8NA be6V4_1",
     "be7V1_1 bf3V4_0 bfbNA c00V7_0 c01V1_1 c04V11_0 c05V1_1 c0dNA c0eV1_1 c11NA c12V1_1 c29NA",
     "c2aV1_1 c34V7_0 c35V1_1 c3aNA c3cV14_0 c3dV5_1 c3eV1_1 c45NA c46V1_1 c49NA c4aV1_1 c4eNA",
     "c55V1_1 c57NA c58V5_1 c5aV8_0 c5bNA c5cV17_0 c5dV14_0 c5eNA c60V1_1 c62V5_1 c64NA c66V1_1",
     "c70NA c77V12_0 c78V5_1 c80V9_0 c81V7_0 c82V1_1 c84V11_0 c85V1_1 c8dNA c8eV1_1 c91NA c92V1_1",
     "ca9NA caaV1_1 cb4NA cb5V1_1 cbaNA cbcV4_0 cbeV1_1 cc5NA cc6V1_1 cc9NA ccaV1_1 cceNA cd5V1_1",
     "cd7NA cdcV17_0 cddV14_0 cdeV1_1 cdfNA ce0V1_1 ce2V5_0 ce4NA ce6V1_1 cf0NA cf1V5_0 cf3V15_0",
     "cf4NA d00V10_0 d01V7_0 d02V1_1 d04V13_0 d05V1_1 d0dNA d0eV1_1 d11NA d12V1_1 d29V6_0 d2aV1_1",
     "d3aV6_0 d3bV10_0 d3dV5_1 d3eV1_1 d44V5_1 d45NA d46V1_1 d49NA d4aV1_1 d4eV6_0 d4fV9_0 d50NA",
     "d54V9_0 d57V1_1 d58V9_0 d5fV8_0 d60V1_1 d62V5_1 d64NA d66V1_1 d70V5_1 d76V9_0 d79V5_1 d80NA",
     "d81V13_0 d82V3_0 d84NA d85V3_0 d97NA d9aV3_0 db2NA db3V3_0 dbcNA dbdV3_0 dbeNA dc0V3_0",
     "dc7NA dcaV3_0 dcbNA dcfV3_0 dd5NA dd6V3_0 dd7NA dd8V3_0 de0NA de6V7_0 df0NA df2V3_0 df5NA",
     "e01V1_1 e3bNA e3fV1_1 e5cNA e81V1_1 e83NA e84V1_1 e85NA e86V12_0 e87V1_1 e89V12_0 e8aV1_1",
     "e8bNA e8cV12_0 e8dV1_1 e8eV12_0 e94V1_1 e98V12_0 e99V1_1 ea0V12_0 ea1V1_1 ea4NA ea5V1_1",
     "ea6NA ea7V1_1 ea8V12_0 eaaV1_1 eacV12_0 eadV1_1 ebaV12_0 ebbV1_1 ebeNA ec0V1_1 ec5NA",
     "ec6V1_1 ec7NA ec8V1_1 eceV15_0 ecfNA ed0V1_1 edaNA edcV1_1 edeV6_1 ee0NA f00V2_0 f48NA",
     "f49V2_0 f6aV3_0 f6bV5_1 f6dNA f71V2_0 f8cV6_0 f90V2_0 f96V3_0 f97V2_0 f98NA f99V2_0 faeV3_0",
     "fb1V2_0 fb8V3_0 fb9V2_0 fbaV3_0 fbdNA fbeV3_0 fcdNA fceV5_1 fcfV3_0 fd0V4_1 fd2V5_1 fd5V5_2",
     "fd9V6_0 fdbNA 1000V3_0 1022V5_1 1023V3_0 1028V5_1 1029V3_0 102bV5_1 102cV3_0 1033V5_1",
     "1036V3_0 103aV5_1 1040V3_0 105aV5_1 109aV5_2 109eV5_1 10a0V1_1 10c6NA 10c7V6_1 10c8NA",
     "10cdV6_1 10ceNA 10d0V1_1 10f7V3_2 10f9V4_1 10fbV1_1 10fcV4_1 10fdV6_1 1100V1_1 115aV5_2",
     "115fV1_1 11a3V5_2 11a8V1_1 11faV5_2 1200V3_0 1207V4_1 1208V3_0 1247V4_1 1248V3_0 1249NA",
     "124aV3_0 124eNA 1250V3_0 1257NA 1258V3_0 1259NA 125aV3_0 125eNA 1260V3_0 1287V4_1 1288V3_0",
     "1289NA 128aV3_0 128eNA 1290V3_0 12afV4_1 12b0V3_0 12b1NA 12b2V3_0 12b6NA 12b8V3_0 12bfNA",
     "12c0V3_0 12c1NA 12c2V3_0 12c6NA 12c8V3_0 12cfV4_1 12d0V3_0 12d7NA 12d8V3_0 12efV4_1",
     "12f0V3_0 130fV4_1 1310V3_0 1311NA 1312V3_0 1316NA 1318V3_0 131fV4_1 1320V3_0 1347V4_1",
     "1348V3_0 135bNA 135dV6_0 135fV4_1 1361V3_0 137dNA 1380V4_1 139aNA 13a0V3_0 13f5V8_0 13f6NA",
     "13f8V8_0 13feNA 1400V5_2 1401V3_0 1677V5_2 1680V3_0 169dNA 16a0V3_0 16f1V7_0 16f9NA",
     "1700V3_2 170dV14_0 170eV3_2 1715V14_0 1716NA 171fV14_0 1720V3_2 1737NA 1740V3_2 1754NA",
     "1760V3_2 176dNA 176eV3_2 1771NA 1772V3_2 1774NA 1780V3_0 17ddV4_0 17deNA 17e0V3_0 17eaNA",
     "17f0V4_0 17faNA 1800V3_0 180fV14_0 1810V3_0 181aNA 1820V3_0 1878V11_0 1879NA 1880V3_0",
     "18aaV5_1 18abNA 18b0V5_2 18f6NA 1900V4_0 191dV7_0 191fNA 1920V4_0 192cNA 1930V4_0 193cNA",
     "1940V4_0 1941NA 1944V4_0 196eNA 1970V4_0 1975NA 1980V4_1 19aaV5_2 19acNA 19b0V4_1 19caNA",
     "19d0V4_1 19daV5_2 19dbNA 19deV4_1 19e0V4_0 1a00V4_1 1a1cNA 1a1eV4_1 1a20V5_2 1a5fNA",
     "1a60V5_2 1a7dNA 1a7fV5_2 1a8aNA 1a90V5_2 1a9aNA 1aa0V5_2 1aaeNA 1ab0V7_0 1abfV13_0",
     "1ac1V14_0 1acfV17_0 1adeNA 1ae0V17_0 1aecNA 1b00V5_0 1b4cV14_0 1b4dNA 1b4eV16_0 1b50V5_0",
     "1b7dV14_0 1b7fV16_0 1b80V5_1 1babV6_1 1baeV5_1 1bbaV6_1 1bc0V6_0 1bf4NA 1bfcV6_0 1c00V5_1",
     "1c38NA 1c3bV5_1 1c4aNA 1c4dV5_1 1c80V9_0 1c89V16_0 1c8bNA 1c90V11_0 1cbbNA 1cbdV11_0",
     "1cc0V6_1 1cc8NA 1cd0V5_2 1cf3V6_1 1cf7V10_0 1cf8V7_0 1cfaV12_0 1cfbNA 1d00V4_0 1d6cV4_1",
     "1dc4V5_0 1dcbV5_1 1de7V7_0 1df6V10_0 1dfaV14_0 1dfbV9_0 1dfcV6_0 1dfdV5_2 1dfeV5_0 1e00V1_1",
     "1e9bV2_0 1e9cV5_1 1ea0V1_1 1efaV5_1 1f00V1_1 1f16NA 1f18V1_1 1f1eNA 1f20V1_1 1f46NA",
     "1f48V1_1 1f4eNA 1f50V1_1 1f58NA 1f59V1_1 1f5aNA 1f5bV1_1 1f5cNA 1f5dV1_1 1f5eNA 1f5fV1_1",
     "1f7eNA 1f80V1_1 1fb5NA 1fb6V1_1 1fc5NA 1fc6V1_1 1fd4NA 1fd6V1_1 1fdcNA 1fddV1_1 1ff0NA",
     "1ff2V1_1 1ff5NA 1ff6V1_1 1fffNA 2000V1_1 202fV3_0 2030V1_1 2047V3_2 2048V3_0 204eV3_2",
     "2053V4_0 2055V4_1 2057V3_2 2058V4_1 205fV3_2 2064V5_1 2065NA 2066V6_3 206aV1_1 2071V3_2",
     "2072NA 2074V1_1 208fNA 2090V4_1 2095V6_0 209dNA 20a0V1_1 20abV2_0 20acV2_1 20adV3_0",
     "20b0V3_2 20b2V4_1 20b6V5_2 20b9V6_0 20baV6_2 20bbV7_0 20beV8_0 20bfV10_0 20c0V14_0",
     "20c1V17_0 20c2NA 20d0V1_1 20e2V3_0 20e4V3_2 20ebV4_1 20ecV5_0 20f0V5_1 20f1NA 2100V1_1",
     "2139V3_0 213bV4_0 213cV4_1 213dV3_2 214cV4_1 214dV5_0 214fV5_1 2150V5_2 2153V1_1 2183V3_0",
     "2184V5_0 2185V5_1 2189V5_2 218aV8_0 218cNA 2190V1_1 21ebV3_0 21f4V3_2 2200V1_1 22f2V3_2",
     "2300V1_1 2301V3_0 2302V1_1 237bV3_0 237cV3_2 237dV3_0 239bV3_2 23cfV4_0 23d1V4_1 23dcV5_0",
     "23e8V5_2 23e9V6_0 23f4V7_0 23fbV9_0 23ffV10_0 2400V1_1 2425V3_0 2427V16_0 242aNA 2440V1_1",
     "244bNA 2460V1_1 24ebV3_2 24ffV4_0 2500V1_1 2596V3_2 25a0V1_1 25f0V3_0 25f8V3_2 2600V1_1",
     "2614V4_0 2616V3_2 2618V4_1 2619V3_0 261aV1_1 2670V3_0 2672V3_2 267eV4_1 2680V3_2 268aV4_0",
     "2692V4_1 269dV5_1 269eV5_2 26a0V4_0 26a2V4_1 26b2V5_0 26b3V5_1 26bdV5_2 26c0V5_1 26c4V5_2",
     "26ceV6_0 26cfV5_2 26e2V6_0 26e3V5_2 26e4V6_0 26e8V5_2 2700V7_0 2701V1_1 2705V6_0 2706V1_1",
     "270aV6_0 270cV1_1 2728V6_0 2729V1_1 274cV6_0 274dV1_1 274eV6_0 274fV1_1 2753V6_0 2756V1_1",
     "2757V5_2 2758V1_1 275fV6_0 2761V1_1 2768V3_2 2776V1_1 2795V6_0 2798V1_1 27b0V6_0 27b1V1_1",
     "27bfV6_0 27c0V4_1 27c7V5_0 27cbV6_1 27ccV5_1 27cdV6_1 27ceV6_0 27d0V3_2 27ecV5_1 27f0V3_2",
     "2800V3_0 2900V3_2 2b00V4_0 2b0eV4_1 2b14V5_0 2b1bV5_1 2b20V5_0 2b24V5_1 2b4dV7_0 2b50V5_1",
     "2b55V5_2 2b5aV7_0 2b74NA 2b76V7_0 2b96V17_0 2b97V13_0 2b98V7_0 2bbaV11_0 2bbdV7_0 2bc9V12_0",
     "2bcaV7_0 2bd2V10_0 2bd3V11_0 2becV8_0 2bf0V11_0 2bffV12_0 2c00V4_1 2c2fV14_0 2c30V4_1",
     "2c5fV14_0 2c60V5_0 2c6dV5_1 2c70V5_2 2c71V5_1 2c74V5_0 2c78V5_1 2c7eV5_2 2c80V4_1 2cebV5_2",
     "2cf2V6_1 2cf4NA 2cf9V4_1 2d26NA 2d27V6_1 2d28NA 2d2dV6_1 2d2eNA 2d30V4_1 2d66V6_1 2d68NA",
     "2d6fV4_1 2d70V6_0 2d71NA 2d7fV6_0 2d80V4_1 2d97NA 2da0V4_1 2da7NA 2da8V4_1 2dafNA 2db0V4_1",
     "2db7NA 2db8V4_1 2dbfNA 2dc0V4_1 2dc7NA 2dc8V4_1 2dcfNA 2dd0V4_1 2dd7NA 2dd8V4_1 2ddfNA",
     "2de0V5_1 2e00V4_1 2e18V5_1 2e1cV4_1 2e1eV5_1 2e31V5_2 2e32V6_1 2e3cV7_0 2e43V9_0 2e45V10_0",
     "2e4aV11_0 2e4fV12_0 2e50V13_0 2e53V14_0 2e5eNA 2e80V3_0 2e9aNA 2e9bV3_0 2ef4NA 2f00V3_0",
     "2fd6NA 2ff0V3_0 2ffcV15_1 3000V1_1 3038V3_0 303bV3_2 303eV3_0 303fV1_1 3040NA 3041V1_1",
     "3095V3_2 3097NA 3099V1_1 309fV3_2 30a1V1_1 30ffV3_2 3100NA 3105V1_1 312dV5_1 312eV10_0",
     "312fV11_0 3130NA 3131V1_1 318fNA 3190V1_1 31a0V3_0 31b8V6_0 31bbV13_0 31c0V4_1 31d0V5_1",
     "31e4V16_0 31e6NA 31efV15_1 31f0V3_2 3200V1_1 321dV4_0 321fNA 3220V1_1 3244V5_2 3250V4_0",
     "3251V3_2 3260V1_1 327cV4_0 327eV4_1 327fV1_1 32b1V3_2 32c0V1_1 32ccV4_0 32d0V1_1 32ffV12_1",
     "3300V1_1 3377V4_0 337bV1_1 33deV4_0 33e0V1_1 33ffV4_0 3400V3_0 4db6V13_0 4dc0V4_0 4e00V1_1",
     "9fa6V4_1 9fbcV5_1 9fc4V5_2 9fccV6_1 9fcdV8_0 9fd6V10_0 9febV11_0 9ff0V13_0 9ffdV14_0",
     "a000V3_0 a48dNA a490V3_0 a4a2V3_2 a4a4V3_0 a4b4V3_2 a4b5V3_0 a4c1V3_2 a4c2V3_0 a4c5V3_2",
     "a4c6V3_0 a4c7NA a4d0V5_2 a500V5_1 a62cNA a640V5_1 a660V6_0 a662V5_1 a674V6_1 a67cV5_1",
     "a698V7_0 a69eV8_0 a69fV6_1 a6a0V5_2 a6f8NA a700V4_1 a717V5_0 a71bV5_1 a720V5_0 a722V5_1",
     "a78dV6_0 a78fV8_0 a790V6_0 a792V6_1 a794V7_0 a7a0V6_0 a7aaV6_1 a7abV7_0 a7aeV9_0 a7afV11_0",
     "a7b0V7_0 a7b2V8_0 a7b8V11_0 a7baV12_0 a7c0V14_0 a7c2V12_0 a7c7V13_0 a7cbV16_0 a7ceV17_0",
     "a7d0V14_0 a7d2V17_0 a7d3V14_0 a7d4V17_0 a7d5V14_0 a7daV16_0 a7ddNA a7f1V17_0 a7f2V14_0",
     "a7f5V13_0 a7f7V7_0 a7f8V6_1 a7faV6_0 a7fbV5_1 a800V4_1 a82cV13_0 a82dNA a830V5_2 a83aNA",
     "a840V5_0 a878NA a880V5_1 a8c5V9_0 a8c6NA a8ceV5_1 a8daNA a8e0V5_2 a8fcV8_0 a8feV11_0",
     "a900V5_1 a954NA a95fV5_1 a960V5_2 a97dNA a980V5_2 a9ceNA a9cfV5_2 a9daNA a9deV5_2 a9e0V7_0",
     "a9ffNA aa00V5_1 aa37NA aa40V5_1 aa4eNA aa50V5_1 aa5aNA aa5cV5_1 aa60V5_2 aa7cV7_0 aa80V5_2",
     "aac3NA aadbV5_2 aae0V6_1 aaf7NA ab01V6_0 ab07NA ab09V6_0 ab0fNA ab11V6_0 ab17NA ab20V6_0",
     "ab27NA ab28V6_0 ab2fNA ab30V7_0 ab60V8_0 ab64V7_0 ab66V12_0 ab68V13_0 ab6cNA ab70V8_0",
     "abc0V5_2 abeeNA abf0V5_2 abfaNA ac00V2_0 d7a4NA d7b0V5_2 d7c7NA d7cbV5_2 d7fcNA d800V2_0",
     "e000V1_1 fa2eV6_1 fa30V3_2 fa6bV5_2 fa6eNA fa70V4_1 fadaNA fb00V1_1 fb07NA fb13V1_1 fb18NA",
     "fb1dV3_0 fb1eV1_1 fb37NA fb38V1_1 fb3dNA fb3eV1_1 fb3fNA fb40V1_1 fb42NA fb43V1_1 fb45NA",
     "fb46V1_1 fbb2V6_0 fbc2V14_0 fbc3V17_0 fbd3V1_1 fd40V14_0 fd50V1_1 fd90V17_0 fd92V1_1",
     "fdc8V17_0 fdcfV14_0 fdd0V3_1 fdf0V1_1 fdfcV3_2 fdfdV4_0 fdfeV14_0 fe00V3_2 fe10V4_1 fe1aNA",
     "fe20V1_1 fe24V5_1 fe27V7_0 fe2eV8_0 fe30V1_1 fe45V3_2 fe47V4_0 fe49V1_1 fe53NA fe54V1_1",
     "fe67NA fe68V1_1 fe6cNA fe70V1_1 fe73V3_2 fe74V1_1 fe75NA fe76V1_1 fefdNA feffV1_1 ff00NA",
     "ff01V1_1 ff5fV3_2 ff61V1_1 ffbfNA ffc2V1_1 ffc8NA ffcaV1_1 ffd0NA ffd2V1_1 ffd8NA ffdaV1_1",
     "ffddNA ffe0V1_1 ffe7NA ffe8V1_1 ffefNA fff9V3_0 fffcV2_1 fffdV1_1 10000V4_0 1000cNA",
     "1000dV4_0 10027NA 10028V4_0 1003bNA 1003cV4_0 1003eNA 1003fV4_0 1004eNA 10050V4_0 1005eNA",
     "10080V4_0 100fbNA 10100V4_0 10103NA 10107V4_0 10134NA 10137V4_0 10140V4_1 1018bV7_0",
     "1018dV9_0 1018fNA 10190V5_1 1019cV13_0 1019dNA 101a0V7_0 101a1NA 101d0V5_1 101feNA",
     "10280V5_1 1029dNA 102a0V5_1 102d1NA 102e0V7_0 102fcNA 10300V3_1 1031fV7_0 10320V3_1 10324NA",
     "1032dV10_0 10330V3_1 1034bNA 10350V7_0 1037bNA 10380V4_0 1039eNA 1039fV4_0 103a0V4_1",
     "103c4NA 103c8V4_1 103d6NA 10400V3_1 10426V4_0 10428V3_1 1044eV4_0 1049eNA 104a0V4_0 104aaNA",
     "104b0V9_0 104d4NA 104d8V9_0 104fcNA 10500V7_0 10528NA 10530V7_0 10564NA 1056fV7_0",
     "10570V14_0 1057bNA 1057cV14_0 1058bNA 1058cV14_0 10593NA 10594V14_0 10596NA 10597V14_0",
     "105a2NA 105a3V14_0 105b2NA 105b3V14_0 105baNA 105bbV14_0 105bdNA 105c0V16_0 105f4NA",
     "10600V7_0 10737NA 10740V7_0 10756NA 10760V7_0 10768NA 10780V14_0 10786NA 10787V14_0 107b1NA",
     "107b2V14_0 107bbNA 10800V4_0 10806NA 10808V4_0 10809NA 1080aV4_0 10836NA 10837V4_0 10839NA",
     "1083cV4_0 1083dNA 1083fV4_0 10840V5_2 10856NA 10857V5_2 10860V7_0 1089fNA 108a7V7_0 108b0NA",
     "108e0V8_0 108f3NA 108f4V8_0 108f6NA 108fbV8_0 10900V5_0 1091aV5_2 1091cNA 1091fV5_0",
     "10920V5_1 1093aNA 1093fV5_1 10940V17_0 1095aNA 10980V6_1 109b8NA 109bcV8_0 109beV6_1",
     "109c0V8_0 109d0NA 109d2V8_0 10a00V4_1 10a04NA 10a05V4_1 10a07NA 10a0cV4_1 10a14NA 10a15V4_1",
     "10a18NA 10a19V4_1 10a34V11_0 10a36NA 10a38V4_1 10a3bNA 10a3fV4_1 10a48V11_0 10a49NA",
     "10a50V4_1 10a59NA 10a60V5_2 10a80V7_0 10aa0NA 10ac0V7_0 10ae7NA 10aebV7_0 10af7NA 10b00V5_2",
     "10b36NA 10b39V5_2 10b56NA 10b58V5_2 10b73NA 10b78V5_2 10b80V7_0 10b92NA 10b99V7_0 10b9dNA",
     "10ba9V7_0 10bb0NA 10c00V5_2 10c49NA 10c80V8_0 10cb3NA 10cc0V8_0 10cf3NA 10cfaV8_0",
     "10d00V11_0 10d28NA 10d30V11_0 10d3aNA 10d40V16_0 10d66NA 10d69V16_0 10d86NA 10d8eV16_0",
     "10d90NA 10e60V5_2 10e7fNA 10e80V13_0 10eaaNA 10eabV13_0 10eaeNA 10eb0V13_0 10eb2NA",
     "10ec2V16_0 10ec5V17_0 10ec8NA 10ed0V17_0 10ed9NA 10efaV17_0 10efcV16_0 10efdV15_0",
     "10f00V11_0 10f28NA 10f30V11_0 10f5aNA 10f70V14_0 10f8aNA 10fb0V13_0 10fccNA 10fe0V12_0",
     "10ff7NA 11000V6_0 1104eNA 11052V6_0 11070V14_0 11076NA 1107fV7_0 11080V5_2 110c2V14_0",
     "110c3NA 110cdV11_0 110ceNA 110d0V6_1 110e9NA 110f0V6_1 110faNA 11100V6_1 11135NA 11136V6_1",
     "11144V11_0 11147V13_0 11148NA 11150V7_0 11177NA 11180V6_1 111c9V8_0 111cdV7_0 111ceV13_0",
     "111d0V6_1 111daV7_0 111dbV8_0 111e0NA 111e1V7_0 111f5NA 11200V7_0 11212NA 11213V7_0",
     "1123eV9_0 1123fV15_0 11242NA 11280V8_0 11287NA 11288V8_0 11289NA 1128aV8_0 1128eNA",
     "1128fV8_0 1129eNA 1129fV8_0 112aaNA 112b0V7_0 112ebNA 112f0V7_0 112faNA 11300V8_0 11301V7_0",
     "11304NA 11305V7_0 1130dNA 1130fV7_0 11311NA 11313V7_0 11329NA 1132aV7_0 11331NA 11332V7_0",
     "11334NA 11335V7_0 1133aNA 1133bV11_0 1133cV7_0 11345NA 11347V7_0 11349NA 1134bV7_0 1134eNA",
     "11350V8_0 11351NA 11357V7_0 11358NA 1135dV7_0 11364NA 11366V7_0 1136dNA 11370V7_0 11375NA",
     "11380V16_0 1138aNA 1138bV16_0 1138cNA 1138eV16_0 1138fNA 11390V16_0 113b6NA 113b7V16_0",
     "113c1NA 113c2V16_0 113c3NA 113c5V16_0 113c6NA 113c7V16_0 113cbNA 113ccV16_0 113d6NA",
     "113d7V16_0 113d9NA 113e1V16_0 113e3NA 11400V9_0 1145aV13_0 1145bV9_0 1145cNA 1145dV9_0",
     "1145eV11_0 1145fV12_0 11460V13_0 11462NA 11480V7_0 114c8NA 114d0V7_0 114daNA 11580V7_0",
     "115b6NA 115b8V7_0 115caV8_0 115deNA 11600V7_0 11645NA 11650V7_0 1165aNA 11660V9_0 1166dNA",
     "11680V6_1 116b8V12_0 116b9V14_0 116baNA 116c0V6_1 116caNA 116d0V16_0 116e4NA 11700V8_0",
     "1171aV11_0 1171bNA 1171dV8_0 1172cNA 11730V8_0 11740V14_0 11747NA 11800V11_0 1183cNA",
     "118a0V7_0 118f3NA 118ffV7_0 11900V13_0 11907NA 11909V13_0 1190aNA 1190cV13_0 11914NA",
     "11915V13_0 11917NA 11918V13_0 11936NA 11937V13_0 11939NA 1193bV13_0 11947NA 11950V13_0",
     "1195aNA 119a0V12_0 119a8NA 119aaV12_0 119d8NA 119daV12_0 119e5NA 11a00V10_0 11a48NA",
     "11a50V10_0 11a84V12_0 11a86V10_0 11a9dV11_0 11a9eV10_0 11aa3NA 11ab0V14_0 11ac0V7_0 11af9NA",
     "11b00V15_0 11b0aNA 11b60V17_0 11b68NA 11bc0V16_0 11be2NA 11bf0V16_0 11bfaNA 11c00V9_0",
     "11c09NA 11c0aV9_0 11c37NA 11c38V9_0 11c46NA 11c50V9_0 11c6dNA 11c70V9_0 11c90NA 11c92V9_0",
     "11ca8NA 11ca9V9_0 11cb7NA 11d00V10_0 11d07NA 11d08V10_0 11d0aNA 11d0bV10_0 11d37NA",
     "11d3aV10_0 11d3bNA 11d3cV10_0 11d3eNA 11d3fV10_0 11d48NA 11d50V10_0 11d5aNA 11d60V11_0",
     "11d66NA 11d67V11_0 11d69NA 11d6aV11_0 11d8fNA 11d90V11_0 11d92NA 11d93V11_0 11d99NA",
     "11da0V11_0 11daaNA 11db0V17_0 11ddcNA 11de0V17_0 11deaNA 11ee0V11_0 11ef9NA 11f00V15_0",
     "11f11NA 11f12V15_0 11f3bNA 11f3eV15_0 11f5aV16_0 11f5bNA 11fb0V13_0 11fb1NA 11fc0V12_0",
     "11ff2NA 11fffV12_0 12000V5_0 1236fV7_0 12399V8_0 1239aNA 12400V5_0 12463V7_0 1246fNA",
     "12470V5_0 12474V7_0 12475NA 12480V8_0 12544NA 12f90V14_0 12ff3NA 13000V5_2 1342fV15_0",
     "13430V12_0 13439V15_0 13456NA 13460V16_0 143fbNA 14400V8_0 14647NA 16100V16_0 1613aNA",
     "16800V6_0 16a39NA 16a40V7_0 16a5fNA 16a60V7_0 16a6aNA 16a6eV7_0 16a70V14_0 16abfNA",
     "16ac0V14_0 16acaNA 16ad0V7_0 16aeeNA 16af0V7_0 16af6NA 16b00V7_0 16b46NA 16b50V7_0 16b5aNA",
     "16b5bV7_0 16b62NA 16b63V7_0 16b78NA 16b7dV7_0 16b90NA 16d40V16_0 16d7aNA 16e40V11_0 16e9bNA",
     "16ea0V17_0 16eb9NA 16ebbV17_0 16ed4NA 16f00V6_1 16f45V12_0 16f4bNA 16f4fV12_0 16f50V6_1",
     "16f7fV12_0 16f88NA 16f8fV6_1 16fa0NA 16fe0V9_0 16fe1V10_0 16fe2V12_0 16fe4V13_0 16fe5NA",
     "16ff0V13_0 16ff2V17_0 16ff7NA 17000V9_0 187edV11_0 187f2V12_0 187f8V17_0 18800V9_0",
     "18af3V13_0 18cd6NA 18cffV16_0 18d00V13_0 18d09V17_0 18d1fNA 18d80V17_0 18df3NA 1aff0V14_0",
     "1aff4NA 1aff5V14_0 1affcNA 1affdV14_0 1afffNA 1b000V6_0 1b002V10_0 1b11fV14_0 1b123NA",
     "1b132V15_0 1b133NA 1b150V12_0 1b153NA 1b155V15_0 1b156NA 1b164V12_0 1b168NA 1b170V10_0",
     "1b2fcNA 1bc00V7_0 1bc6bNA 1bc70V7_0 1bc7dNA 1bc80V7_0 1bc89NA 1bc90V7_0 1bc9aNA 1bc9cV7_0",
     "1bca4NA 1cc00V16_0 1ccfaV17_0 1ccfdNA 1cd00V16_0 1ceb4NA 1cebaV17_0 1ced1NA 1cee0V17_0",
     "1cef1NA 1cf00V14_0 1cf2eNA 1cf30V14_0 1cf47NA 1cf50V14_0 1cfc4NA 1d000V3_1 1d0f6NA",
     "1d100V3_1 1d127NA 1d129V5_1 1d12aV3_1 1d1deV8_0 1d1e9V14_0 1d1ebNA 1d200V4_1 1d246NA",
     "1d2c0V15_0 1d2d4NA 1d2e0V11_0 1d2f4NA 1d300V4_0 1d357NA 1d360V5_0 1d372V11_0 1d379NA",
     "1d400V3_1 1d455NA 1d456V3_1 1d49dNA 1d49eV3_1 1d4a0NA 1d4a2V3_1 1d4a3NA 1d4a5V3_1 1d4a7NA",
     "1d4a9V3_1 1d4adNA 1d4aeV3_1 1d4baNA 1d4bbV3_1 1d4bcNA 1d4bdV3_1 1d4c1V4_0 1d4c2V3_1 1d4c4NA",
     "1d4c5V3_1 1d506NA 1d507V3_1 1d50bNA 1d50dV3_1 1d515NA 1d516V3_1 1d51dNA 1d51eV3_1 1d53aNA",
     "1d53bV3_1 1d53fNA 1d540V3_1 1d545NA 1d546V3_1 1d547NA 1d54aV3_1 1d551NA 1d552V3_1 1d6a4V4_1",
     "1d6a6NA 1d6a8V3_1 1d7caV5_0 1d7ccNA 1d7ceV3_1 1d800V8_0 1da8cNA 1da9bV8_0 1daa0NA 1daa1V8_0",
     "1dab0NA 1df00V14_0 1df1fNA 1df25V15_0 1df2bNA 1e000V9_0 1e007NA 1e008V9_0 1e019NA 1e01bV9_0",
     "1e022NA 1e023V9_0 1e025NA 1e026V9_0 1e02bNA 1e030V15_0 1e06eNA 1e08fV15_0 1e090NA",
     "1e100V12_0 1e12dNA 1e130V12_0 1e13eNA 1e140V12_0 1e14aNA 1e14eV12_0 1e150NA 1e290V14_0",
     "1e2afNA 1e2c0V12_0 1e2faNA 1e2ffV12_0 1e300NA 1e4d0V15_0 1e4faNA 1e5d0V16_0 1e5fbNA",
     "1e5ffV16_0 1e600NA 1e6c0V17_0 1e6dfNA 1e6e0V17_0 1e6f6NA 1e6feV17_0 1e700NA 1e7e0V14_0",
     "1e7e7NA 1e7e8V14_0 1e7ecNA 1e7edV14_0 1e7efNA 1e7f0V14_0 1e7ffNA 1e800V7_0 1e8c5NA",
     "1e8c7V7_0 1e8d7NA 1e900V9_0 1e94bV12_0 1e94cNA 1e950V9_0 1e95aNA 1e95eV9_0 1e960NA",
     "1ec71V11_0 1ecb5NA 1ed01V12_0 1ed3eNA 1ee00V6_1 1ee04NA 1ee05V6_1 1ee20NA 1ee21V6_1 1ee23NA",
     "1ee24V6_1 1ee25NA 1ee27V6_1 1ee28NA 1ee29V6_1 1ee33NA 1ee34V6_1 1ee38NA 1ee39V6_1 1ee3aNA",
     "1ee3bV6_1 1ee3cNA 1ee42V6_1 1ee43NA 1ee47V6_1 1ee48NA 1ee49V6_1 1ee4aNA 1ee4bV6_1 1ee4cNA",
     "1ee4dV6_1 1ee50NA 1ee51V6_1 1ee53NA 1ee54V6_1 1ee55NA 1ee57V6_1 1ee58NA 1ee59V6_1 1ee5aNA",
     "1ee5bV6_1 1ee5cNA 1ee5dV6_1 1ee5eNA 1ee5fV6_1 1ee60NA 1ee61V6_1 1ee63NA 1ee64V6_1 1ee65NA",
     "1ee67V6_1 1ee6bNA 1ee6cV6_1 1ee73NA 1ee74V6_1 1ee78NA 1ee79V6_1 1ee7dNA 1ee7eV6_1 1ee7fNA",
     "1ee80V6_1 1ee8aNA 1ee8bV6_1 1ee9cNA 1eea1V6_1 1eea4NA 1eea5V6_1 1eeaaNA 1eeabV6_1 1eebcNA",
     "1eef0V6_1 1eef2NA 1f000V5_1 1f02cNA 1f030V5_1 1f094NA 1f0a0V6_0 1f0afNA 1f0b1V6_0 1f0bfV7_0",
     "1f0c0NA 1f0c1V6_0 1f0d0NA 1f0d1V6_0 1f0e0V7_0 1f0f6NA 1f100V5_2 1f10bV7_0 1f10dV13_0",
     "1f110V5_2 1f12fV11_0 1f130V6_0 1f131V5_2 1f132V6_0 1f13dV5_2 1f13eV6_0 1f13fV5_2 1f140V6_0",
     "1f142V5_2 1f143V6_0 1f146V5_2 1f147V6_0 1f14aV5_2 1f14fV6_0 1f157V5_2 1f158V6_0 1f15fV5_2",
     "1f160V6_0 1f16aV6_1 1f16cV12_0 1f16dV13_0 1f170V6_0 1f179V5_2 1f17aV6_0 1f17bV5_2 1f17dV6_0",
     "1f17fV5_2 1f180V6_0 1f18aV5_2 1f18eV6_0 1f190V5_2 1f191V6_0 1f19bV9_0 1f1adV13_0 1f1aeNA",
     "1f1e6V6_0 1f200V5_2 1f201V6_0 1f203NA 1f210V5_2 1f232V6_0 1f23bV9_0 1f23cNA 1f240V5_2",
     "1f249NA 1f250V6_0 1f252NA 1f260V10_0 1f266NA 1f300V6_0 1f321V7_0 1f32dV8_0 1f330V6_0",
     "1f336V7_0 1f337V6_0 1f37dV7_0 1f37eV8_0 1f380V6_0 1f394V7_0 1f3a0V6_0 1f3c5V7_0 1f3c6V6_0",
     "1f3cbV7_0 1f3cfV8_0 1f3d4V7_0 1f3e0V6_0 1f3f1V7_0 1f3f8V8_0 1f400V6_0 1f43fV7_0 1f440V6_0",
     "1f441V7_0 1f442V6_0 1f4f8V7_0 1f4f9V6_0 1f4fdV7_0 1f4ffV8_0 1f500V6_0 1f53eV7_0 1f540V6_1",
     "1f544V7_0 1f54bV8_0 1f550V6_0 1f568V7_0 1f57aV9_0 1f57bV7_0 1f5a4V9_0 1f5a5V7_0 1f5fbV6_0",
     "1f600V6_1 1f601V6_0 1f611V6_1 1f612V6_0 1f615V6_1 1f616V6_0 1f617V6_1 1f618V6_0 1f619V6_1",
     "1f61aV6_0 1f61bV6_1 1f61cV6_0 1f61fV6_1 1f620V6_0 1f626V6_1 1f628V6_0 1f62cV6_1 1f62dV6_0",
     "1f62eV6_1 1f630V6_0 1f634V6_1 1f635V6_0 1f641V7_0 1f643V8_0 1f645V6_0 1f650V7_0 1f680V6_0",
     "1f6c6V7_0 1f6d0V8_0 1f6d1V9_0 1f6d3V10_0 1f6d5V12_0 1f6d6V13_0 1f6d8V17_0 1f6d9NA",
     "1f6dcV15_0 1f6ddV14_0 1f6e0V7_0 1f6edNA 1f6f0V7_0 1f6f4V9_0 1f6f7V10_0 1f6f9V11_0",
     "1f6faV12_0 1f6fbV13_0 1f6fdNA 1f700V6_0 1f774V15_0 1f777V17_0 1f77bV15_0 1f780V7_0",
     "1f7d5V11_0 1f7d9V15_0 1f7daNA 1f7e0V12_0 1f7ecNA 1f7f0V14_0 1f7f1NA 1f800V7_0 1f80cNA",
     "1f810V7_0 1f848NA 1f850V7_0 1f85aNA 1f860V7_0 1f888NA 1f890V7_0 1f8aeNA 1f8b0V13_0",
     "1f8b2V16_0 1f8bcNA 1f8c0V16_0 1f8c2NA 1f8d0V17_0 1f8d9NA 1f900V10_0 1f90cV13_0 1f90dV12_0",
     "1f910V8_0 1f919V9_0 1f91fV10_0 1f920V9_0 1f928V10_0 1f930V9_0 1f931V10_0 1f933V9_0",
     "1f93fV12_0 1f940V9_0 1f94cV10_0 1f94dV11_0 1f950V9_0 1f95fV10_0 1f96cV11_0 1f971V12_0",
     "1f972V13_0 1f973V11_0 1f977V13_0 1f979V14_0 1f97aV11_0 1f97bV12_0 1f97cV11_0 1f980V8_0",
     "1f985V9_0 1f992V10_0 1f998V11_0 1f9a3V13_0 1f9a5V12_0 1f9abV13_0 1f9aeV12_0 1f9b0V11_0",
     "1f9baV12_0 1f9c0V8_0 1f9c1V11_0 1f9c3V12_0 1f9cbV13_0 1f9ccV14_0 1f9cdV12_0 1f9d0V10_0",
     "1f9e7V11_0 1fa00V12_0 1fa54V17_0 1fa58NA 1fa60V11_0 1fa6eNA 1fa70V12_0 1fa74V13_0",
     "1fa75V15_0 1fa78V12_0 1fa7bV14_0 1fa7dNA 1fa80V12_0 1fa83V13_0 1fa87V15_0 1fa89V16_0",
     "1fa8aV17_0 1fa8bNA 1fa8eV17_0 1fa8fV16_0 1fa90V12_0 1fa96V13_0 1faa9V14_0 1faadV15_0",
     "1fab0V13_0 1fab7V14_0 1fabbV15_0 1fabeV16_0 1fabfV15_0 1fac0V13_0 1fac3V14_0 1fac6V16_0",
     "1fac7NA 1fac8V17_0 1fac9NA 1facdV17_0 1faceV15_0 1fad0V13_0 1fad7V14_0 1fadaV15_0",
     "1fadcV16_0 1faddNA 1fadfV16_0 1fae0V14_0 1fae8V15_0 1fae9V16_0 1faeaV17_0 1faebNA",
     "1faefV17_0 1faf0V14_0 1faf7V15_0 1faf9NA 1fb00V13_0 1fb93NA 1fb94V13_0 1fbcbV16_0",
     "1fbf0V13_0 1fbfaV17_0 1fbfbNA 1fffeV2_0 20000V3_1 2a6d7V13_0 2a6deV14_0 2a6e0NA 2a700V5_2",
     "2b735V14_0 2b739V15_0 2b73aV17_0 2b740V6_0 2b81eNA 2b820V8_0 2cea2V17_0 2ceaeNA 2ceb0V10_0",
     "2ebe1NA 2ebf0V15_1 2ee5eNA 2f800V3_1 2fa1eNA 2fffeV2_0 30000V13_0 3134bNA 31350V15_0",
     "323b0V17_0 3347aNA 3fffeV2_0 40000NA 4fffeV2_0 50000NA 5fffeV2_0 60000NA 6fffeV2_0 70000NA",
     "7fffeV2_0 80000NA 8fffeV2_0 90000NA 9fffeV2_0 a0000NA afffeV2_0 b0000NA bfffeV2_0 c0000NA",
     "cfffeV2_0 d0000NA dfffeV2_0 e0000NA e0001V3_1 e0002NA e0020V3_1 e0080NA e0100V4_0 e01f0NA",
     "efffeV2_0"]

/-- The code points that a version has. -/
def upTo (symbol : String) : CodePoints :=
  let earlier := (versions.map (·.1)).takeWhile (· ≠ symbol)
  runs.select fun age => age = symbol || earlier.contains age

end AsmHarness.Unicode.Age
