import AsmHarness.Unicode.Table

/-!
# Script extensions

Some code points are used in other scripts than the one they belong to, and many that belong to no
script in particular are used in a few only. The table lists, for every script, the code points that
are used in it without belonging to it, or belong to it without being listed as used in it.
-/

namespace AsmHarness.Unicode.Script

/-- The four-letter codes of scripts, each with the code points for which belonging to the script
and being used in it differ. Scripts without such code points are left out. -/
def extensionChanges : List (String × CodePoints) :=
  [("Adlm", .read
     ["61f 620 640 641 204f 2050 2e41 2e42"]),
   ("Aghb", .read
     ["304 305 331 332 35e 35f"]),
   ("Arab", .read
     ["60c 60d 61b 61c 61f 620 640 641 64b 656 670 671 204f 2050 2e41 2e42 fd3e fd40 102e0 102fc"]),
   ("Armn", .read
     ["308 309"]),
   ("Avst", .read
     ["b7 b8 2e30 2e32"]),
   ("Beng", .read
     ["2bc 2bd 951 953 964 966 1cd0 1cd1 1cd2 1cd3 1cd5 1cd7 1cd8 1cd9 1ce1 1ce2 1cea 1ceb 1ced",
      "1cee 1cf2 1cf3 1cf5 1cf8 a8f1 a8f2"]),
   ("Bopo", .read
     ["2c7 2c8 2c9 2cc 2d9 2da 3001 3004 3008 3012 3013 3020 302a 302e 3030 3031 3037 3038 30fb",
      "30fc fe45 fe47 ff61 ff66"]),
   ("Bugi", .read
     ["a9cf a9d0"]),
   ("Buhd", .read
     ["1735 1737"]),
   ("Cakm", .read
     ["9e6 9f0 1040 104a"]),
   ("Cari", .read
     ["b7 b8 205a 205b 205d 205e 2e31 2e32"]),
   ("Cher", .read
     ["300 303 304 305 30b 30d 323 325 330 332"]),
   ("Copt", .read
     ["b7 b8 300 301 304 306 307 308 374 376 2e17 2e18 102e0 102fc"]),
   ("Cpmn", .read
     ["10100 10102"]),
   ("Cprt", .read
     ["10100 10103 10107 10134 10137 10140"]),
   ("Cyrl", .read
     ["2bc 2bd 300 303 304 305 306 307 308 309 30b 30c 311 312 485 487 1df8 1df9 2e43 2e44"]),
   ("Deva", .read
     ["2bc 2bd 951 953 964 966 1cd0 1cf7 1cf8 1cfa 20f0 20f1 a830 a83a"]),
   ("Dogr", .read
     ["964 970 a830 a83a"]),
   ("Dupl", .read
     ["b7 b8 307 309 30a 30b 323 325 2e3c 2e3d 1bca0 1bca4"]),
   ("Elba", .read
     ["b7 b8 305 306"]),
   ("Ethi", .read
     ["30e 30f"]),
   ("Gara", .read
     ["60c 60d 61b 61c 61f 620"]),
   ("Geor", .read
     ["b7 b8 589 58a 10fb 10fc 205a 205b 2e31 2e32"]),
   ("Glag", .read
     ["b7 b8 303 304 305 306 484 485 487 488 589 58a 10fb 10fc 205a 205b 2e43 2e44 a66f a670"]),
   ("Gong", .read
     ["b7 b8 964 966"]),
   ("Gonm", .read
     ["964 966"]),
   ("Goth", .read
     ["b7 b8 304 306 308 309 331 332"]),
   ("Gran", .read
     ["951 953 964 966 be6 bf4 1cd0 1cd1 1cd2 1cd4 1cf2 1cf5 1cf8 1cfa 20f0 20f1 1133b 1133c",
      "11fd0 11fd2 11fd3 11fd4"]),
   ("Grek", .read
     ["b7 b8 300 302 304 305 306 307 308 309 313 314 342 343 345 346 374 375 1dc0 1dc2 205d 205e"]),
   ("Gujr", .read
     ["951 953 964 966 a830 a83a"]),
   ("Gukh", .read
     ["965 966"]),
   ("Guru", .read
     ["951 953 964 966 a830 a83a"]),
   ("Hang", .read
     ["3001 3004 3008 3012 3013 3020 3030 3031 3037 3038 30fb 30fc fe45 fe47 ff61 ff66"]),
   ("Hani", .read
     ["b7 b8 2ff0 3000 3001 3004 3006 3007 3008 3012 3013 3020 302a 302e 3030 3031 3037 3038",
      "303c 3040 30fb 30fc 3190 31a0 31c0 31e6 31ef 31f0 3220 3248 3280 32b1 32c0 32cc 32ff 3300",
      "3358 3371 337b 3380 33e0 33ff a700 a708 fe45 fe47 ff61 ff66 1d360 1d372 1f250 1f252"]),
   ("Hano", .read
     ["1735 1737"]),
   ("Hebr", .read
     ["307 309"]),
   ("Hira", .read
     ["3001 3004 3008 3012 3013 3020 3030 3036 3037 3038 303c 303e 3099 309d 30a0 30a1 30fb 30fd",
      "fe45 fe47 ff61 ff66 ff70 ff71 ff9e ffa0"]),
   ("Hung", .read
     ["205a 205b 205d 205e 2e31 2e32 2e41 2e42"]),
   ("Java", .read
     ["a9cf a9d0"]),
   ("Kali", .read
     ["a92e a92f"]),
   ("Kana", .read
     ["305 306 323 324 3001 3004 3008 3012 3013 3020 3030 3036 3037 3038 303c 303e 3099 309d",
      "30a0 30a1 30fb 30fd fe45 fe47 ff61 ff66 ff70 ff71 ff9e ffa0"]),
   ("Khoj", .read
     ["ae6 af0 a830 a83a"]),
   ("Knda", .read
     ["951 953 964 966 1cd0 1cd1 1cd2 1cd4 1cda 1cdb 1cf2 1cf3 1cf4 1cf5 a830 a836"]),
   ("Kthi", .read
     ["966 970 2e31 2e32 a830 a83a"]),
   ("Latn", .read
     ["b7 b8 2bc 2bd 2c7 2c8 2c9 2cc 2cd 2ce 2d7 2d8 2d9 2da 300 30f 310 312 313 314 323 326 32d",
      "32f 330 332 358 359 35e 35f 363 370 485 487 951 953 10fb 10fc 1df8 1df9 202f 2030 20f0",
      "20f1 2e17 2e18 a700 a708 a92e a92f"]),
   ("Limb", .read
     ["965 966"]),
   ("Lina", .read
     ["10107 10134"]),
   ("Linb", .read
     ["10100 10103 10107 10134 10137 10140"]),
   ("Lisu", .read
     ["2bc 2bd 2cd 2ce 300a 300c"]),
   ("Lyci", .read
     ["205a 205b"]),
   ("Lydi", .read
     ["b7 b8 2e31 2e32"]),
   ("Mahj", .read
     ["b7 b8 964 970 a830 a83a"]),
   ("Mand", .read
     ["640 641"]),
   ("Mani", .read
     ["640 641"]),
   ("Mero", .read
     ["205d 205e"]),
   ("Mlym", .read
     ["951 953 964 966 1cda 1cdb 1cf2 1cf3 a830 a833"]),
   ("Modi", .read
     ["a830 a83a"]),
   ("Mong", .read
     ["1802 1804 1805 1806 202f 2030 3001 3003 3008 300c"]),
   ("Mult", .read
     ["a66 a70"]),
   ("Mymr", .read
     ["a92e a92f"]),
   ("Nand", .read
     ["951 952 964 966 ce6 cf0 1ce9 1cea 1cf2 1cf3 1cfa 1cfb a830 a836"]),
   ("Newa", .read
     ["951 953 1cd5 1cd6 1cd7 1cd9 1ce2 1ce3 1ce9 1cea 1ceb 1cec 1ced 1cee"]),
   ("Nkoo", .read
     ["60c 60d 61b 61c 61f 620 fd3e fd40"]),
   ("Onao", .read
     ["964 966"]),
   ("Orkh", .read
     ["205a 205b 2e30 2e31"]),
   ("Orya", .read
     ["951 953 964 966 1cda 1cdb 1cf2 1cf3"]),
   ("Osge", .read
     ["301 302 304 305 30b 30c 358 359"]),
   ("Ougr", .read
     ["640 641 10af2 10af3"]),
   ("Perm", .read
     ["b7 b8 300 301 306 309 313 314 483 484"]),
   ("Phag", .read
     ["1802 1804 1805 1806 202f 2030 3002 3003"]),
   ("Phlp", .read
     ["640 641"]),
   ("Rohg", .read
     ["60c 60d 61b 61c 61f 620 640 641 6d4 6d5"]),
   ("Runr", .read
     ["16eb 16ee"]),
   ("Samr", .read
     ["2e31 2e32"]),
   ("Shaw", .read
     ["b7 b8"]),
   ("Shrd", .read
     ["951 952 1cd7 1cd8 1cd9 1cda 1cdc 1cde 1ce0 1ce1 1cea 1ceb 1ced 1cee a830 a836 a838 a839"]),
   ("Sind", .read
     ["964 966 a830 a83a"]),
   ("Sinh", .read
     ["964 966 1cf2 1cf3"]),
   ("Sogd", .read
     ["640 641"]),
   ("Sunu", .read
     ["300 302 303 304 30d 30e 310 311 32d 32e 331 332"]),
   ("Sylo", .read
     ["964 966 9e6 9f0"]),
   ("Syrc", .read
     ["303 305 307 309 30a 30b 323 326 32d 32f 330 332 60c 60d 61b 61d 61f 620 640 641 64b 656",
      "670 671 1df8 1df9 1dfa 1dfb"]),
   ("Tagb", .read
     ["1735 1737"]),
   ("Takr", .read
     ["964 966 a830 a83a"]),
   ("Tale", .read
     ["300 302 307 309 30c 30d 1040 104a"]),
   ("Taml", .read
     ["951 953 964 966 1cda 1cdb a8f3 a8f4 11301 11302 11303 11304 1133b 1133d"]),
   ("Tang", .read
     ["2ff0 3000 31ef 31f0"]),
   ("Telu", .read
     ["951 953 964 966 1cd5 1cd7 1cd8 1cd9 1cda 1cdb 1cf2 1cf3"]),
   ("Tfng", .read
     ["302 303 304 305 306 30a 323 324"]),
   ("Tglg", .read
     ["1735 1737"]),
   ("Thaa", .read
     ["60c 60d 61b 61d 61f 620 660 66a fdf2 fdf3 fdfd fdfe"]),
   ("Thai", .read
     ["2bc 2bd 2d7 2d8 303 304 331 332"]),
   ("Tibt", .read
     ["3008 300c"]),
   ("Tirh", .read
     ["951 953 964 966 1cd5 1cd6 1ce2 1ce3 1cf2 1cf3 a830 a83a"]),
   ("Todr", .read
     ["301 302 304 305 307 308 311 312 313 314 35e 35f"]),
   ("Toto", .read
     ["2bc 2bd"]),
   ("Tutg", .read
     ["ce6 cf0 1cf2 1cf3 1cf4 1cf5 a830 a836 a8f1 a8f2"]),
   ("Yezi", .read
     ["60c 60d 61b 61c 61f 620 660 66a"]),
   ("Yiii", .read
     ["3001 3003 3008 3012 3014 301c 30fb 30fc ff61 ff66"]),
   ("Zinh", .read
     ["300 30f 310 312 313 314 323 326 32d 32f 330 332 342 343 345 346 358 359 35e 35f 363 370",
      "485 487 64b 656 670 671 951 953 1cd0 1cd3 1cd4 1ce1 1ce2 1ce9 1ced 1cee 1cf4 1cf5 1cf8",
      "1cfa 1dc0 1dc2 1df8 1df9 1dfa 1dfb 20f0 20f1 302a 302e 3099 309b 102e0 102e1 1133b 1133c"]),
   ("Zyyy", .read
     ["b7 b8 2bc 2bd 2c7 2c8 2c9 2cc 2cd 2ce 2d7 2d8 2d9 2da 374 375 60c 60d 61b 61c 61f 620 640",
      "641 964 966 10fb 10fc 16eb 16ee 1735 1737 1802 1804 1805 1806 1cd3 1cd4 1ce1 1ce2 1ce9",
      "1ced 1cee 1cf4 1cf5 1cf8 1cfa 1cfb 202f 2030 204f 2050 205a 205b 205d 205e 2e17 2e18 2e30",
      "2e32 2e3c 2e3d 2e41 2e42 2e43 2e44 2ff0 3000 3001 3004 3006 3007 3008 3012 3013 3020 3030",
      "3036 3037 3038 303c 3040 309b 309d 30a0 30a1 30fb 30fd 3190 31a0 31c0 31e6 31ef 31f0 3220",
      "3248 3280 32b1 32c0 32cc 32ff 3300 3358 3371 337b 3380 33e0 33ff a700 a708 a830 a83a a92e",
      "a92f a9cf a9d0 fd3e fd40 fe45 fe47 ff61 ff66 ff70 ff71 ff9e ffa0 10100 10103 10107 10134",
      "10137 10140 102e1 102fc 1bca0 1bca4 1d360 1d372 1f250 1f252"])]

end AsmHarness.Unicode.Script
