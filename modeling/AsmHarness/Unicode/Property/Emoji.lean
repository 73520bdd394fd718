import AsmHarness.Unicode.Table

/-!
# Properties: emoji

Each set is given by its boundaries: the first code point in it, the first one after that which is
not, and so on in turn.
-/

namespace AsmHarness.Unicode.Property

/-- The property `Emoji`. -/
def emoji : CodePoints :=
  .read
    ["23 24 2a 2b 30 3a a9 aa ae af 203c 203d 2049 204a 2122 2123 2139 213a 2194 219a 21a9 21ab",
     "231a 231c 2328 2329 23cf 23d0 23e9 23f4 23f8 23fb 24c2 24c3 25aa 25ac 25b6 25b7 25c0 25c1",
     "25fb 25ff 2600 2605 260e 260f 2611 2612 2614 2616 2618 2619 261d 261e 2620 2621 2622 2624",
     "2626 2627 262a 262b 262e 2630 2638 263b 2640 2641 2642 2643 2648 2654 265f 2661 2663 2664",
     "2665 2667 2668 2669 267b 267c 267e 2680 2692 2698 2699 269a 269b 269d 26a0 26a2 26a7 26a8",
     "26aa 26ac 26b0 26b2 26bd 26bf 26c4 26c6 26c8 26c9 26ce 26d0 26d1 26d2 26d3 26d5 26e9 26eb",
     "26f0 26f6 26f7 26fb 26fd 26fe 2702 2703 2705 2706 2708 270e 270f 2710 2712 2713 2714 2715",
     "2716 2717 271d 271e 2721 2722 2728 2729 2733 2735 2744 2745 2747 2748 274c 274d 274e 274f",
     "2753 2756 2757 2758 2763 2765 2795 2798 27a1 27a2 27b0 27b1 27bf 27c0 2934 2936 2b05 2b08",
     "2b1b 2b1d 2b50 2b51 2b55 2b56 3030 3031 303d 303e 3297 3298 3299 329a 1f004 1f005 1f0cf",
     "1f0d0 1f170 1f172 1f17e 1f180 1f18e 1f18f 1f191 1f19b 1f1e6 1f200 1f201 1f203 1f21a 1f21b",
     "1f22f 1f230 1f232 1f23b 1f250 1f252 1f300 1f322 1f324 1f394 1f396 1f398 1f399 1f39c 1f39e",
     "1f3f1 1f3f3 1f3f6 1f3f7 1f4fe 1f4ff 1f53e 1f549 1f54f 1f550 1f568 1f56f 1f571 1f573 1f57b",
     "1f587 1f588 1f58a 1f58e 1f590 1f591 1f595 1f597 1f5a4 1f5a6 1f5a8 1f5a9 1f5b1 1f5b3 1f5bc",
     "1f5bd 1f5c2 1f5c5 1f5d1 1f5d4 1f5dc 1f5df 1f5e1 1f5e2 1f5e3 1f5e4 1f5e8 1f5e9 1f5ef 1f5f0",
     "1f5f3 1f5f4 1f5fa 1f650 1f680 1f6c6 1f6cb 1f6d3 1f6d5 1f6d9 1f6dc 1f6e6 1f6e9 1f6ea 1f6eb",
     "1f6ed 1f6f0 1f6f1 1f6f3 1f6fd 1f7e0 1f7ec 1f7f0 1f7f1 1f90c 1f93b 1f93c 1f946 1f947 1fa00",
     "1fa70 1fa7d 1fa80 1fa8b 1fa8e 1fac7 1fac8 1fac9 1facd 1fadd 1fadf 1faeb 1faef 1faf9"]

/-- The property `Emoji_Presentation`. -/
def emojiPresentation : CodePoints :=
  .read
    ["231a 231c 23e9 23ed 23f0 23f1 23f3 23f4 25fd 25ff 2614 2616 2648 2654 267f 2680 2693 2694",
     "26a1 26a2 26aa 26ac 26bd 26bf 26c4 26c6 26ce 26cf 26d4 26d5 26ea 26eb 26f2 26f4 26f5 26f6",
     "26fa 26fb 26fd 26fe 2705 2706 270a 270c 2728 2729 274c 274d 274e 274f 2753 2756 2757 2758",
     "2795 2798 27b0 27b1 27bf 27c0 2b1b 2b1d 2b50 2b51 2b55 2b56 1f004 1f005 1f0cf 1f0d0 1f18e",
     "1f18f 1f191 1f19b 1f1e6 1f200 1f201 1f202 1f21a 1f21b 1f22f 1f230 1f232 1f237 1f238 1f23b",
     "1f250 1f252 1f300 1f321 1f32d 1f336 1f337 1f37d 1f37e 1f394 1f3a0 1f3cb 1f3cf 1f3d4 1f3e0",
     "1f3f1 1f3f4 1f3f5 1f3f8 1f43f 1f440 1f441 1f442 1f4fd 1f4ff 1f53e 1f54b 1f54f 1f550 1f568",
     "1f57a 1f57b 1f595 1f597 1f5a4 1f5a5 1f5fb 1f650 1f680 1f6c6 1f6cc 1f6cd 1f6d0 1f6d3 1f6d5",
     "1f6d9 1f6dc 1f6e0 1f6eb 1f6ed 1f6f4 1f6fd 1f7e0 1f7ec 1f7f0 1f7f1 1f90c 1f93b 1f93c 1f946",
     "1f947 1fa00 1fa70 1fa7d 1fa80 1fa8b 1fa8e 1fac7 1fac8 1fac9 1facd 1fadd 1fadf 1faeb 1faef",
     "1faf9"]

/-- The property `Emoji_Modifier_Base`. -/
def emojiModifierBase : CodePoints :=
  .read
    ["261d 261e 26f9 26fa 270a 270e 1f385 1f386 1f3c2 1f3c5 1f3c7 1f3c8 1f3ca 1f3cd 1f442 1f444",
     "1f446 1f451 1f466 1f479 1f47c 1f47d 1f481 1f484 1f485 1f488 1f48f 1f490 1f491 1f492 1f4aa",
     "1f4ab 1f574 1f576 1f57a 1f57b 1f590 1f591 1f595 1f597 1f645 1f648 1f64b 1f650 1f6a3 1f6a4",
     "1f6b4 1f6b7 1f6c0 1f6c1 1f6cc 1f6cd 1f90c 1f90d 1f90f 1f910 1f918 1f920 1f926 1f927 1f930",
     "1f93a 1f93c 1f93f 1f977 1f978 1f9b5 1f9b7 1f9b8 1f9ba 1f9bb 1f9bc 1f9cd 1f9d0 1f9d1 1f9de",
     "1fac3 1fac6 1faf0 1faf9"]

/-- The property `Emoji_Modifier`. -/
def emojiModifier : CodePoints :=
  .read
    ["1f3fb 1f400"]

/-- The property `Emoji_Component`. -/
def emojiComponent : CodePoints :=
  .read
    ["23 24 2a 2b 30 3a 200d 200e 20e3 20e4 fe0f fe10 1f1e6 1f200 1f3fb 1f400 1f9b0 1f9b4 e0020",
     "e0080"]

/-- The property `Extended_Pictographic`. -/
def extendedPictographic : CodePoints :=
  .read
    ["a9 aa ae af 203c 203d 2049 204a 2122 2123 2139 213a 2194 219a 21a9 21ab 231a 231c 2328",
     "2329 23cf 23d0 23e9 23f4 23f8 23fb 24c2 24c3 25aa 25ac 25b6 25b7 25c0 25c1 25fb 25ff 2600",
     "2605 260e 260f 2611 2612 2614 2616 2618 2619 261d 261e 2620 2621 2622 2624 2626 2627 262a",
     "262b 262e 2630 2638 263b 2640 2641 2642 2643 2648 2654 265f 2661 2663 2664 2665 2667 2668",
     "2669 267b 267c 267e 2680 2692 2698 2699 269a 269b 269d 26a0 26a2 26a7 26a8 26aa 26ac 26b0",
     "26b2 26bd 26bf 26c4 26c6 26c8 26c9 26ce 26d0 26d1 26d2 26d3 26d5 26e9 26eb 26f0 26f6 26f7",
     "26fb 26fd 26fe 2702 2703 2705 2706 2708 270e 270f 2710 2712 2713 2714 2715 2716 2717 271d",
     "271e 2721 2722 2728 2729 2733 2735 2744 2745 2747 2748 274c 274d 274e 274f 2753 2756 2757",
     "2758 2763 2765 2795 2798 27a1 27a2 27b0 27b1 27bf 27c0 2934 2936 2b05 2b08 2b1b 2b1d 2b50",
     "2b51 2b55 2b56 3030 3031 303d 303e 3297 3298 3299 329a 1f004 1f005 1f02c 1f030 1f094 1f0a0",
     "1f0af 1f0b1 1f0c0 1f0c1 1f0cf 1f0d1 1f0f6 1f100 1f170 1f172 1f17e 1f180 1f18e 1f18f 1f191",
     "1f19b 1f1ae 1f1e6 1f201 1f210 1f21a 1f21b 1f22f 1f230 1f232 1f23b 1f23c 1f240 1f249 1f260",
     "1f266 1f322 1f324 1f394 1f396 1f398 1f399 1f39c 1f39e 1f3f1 1f3f3 1f3f6 1f3f7 1f3fb 1f400",
     "1f4fe 1f4ff 1f53e 1f549 1f54f 1f550 1f568 1f56f 1f571 1f573 1f57b 1f587 1f588 1f58a 1f58e",
     "1f590 1f591 1f595 1f597 1f5a4 1f5a6 1f5a8 1f5a9 1f5b1 1f5b3 1f5bc 1f5bd 1f5c2 1f5c5 1f5d1",
     "1f5d4 1f5dc 1f5df 1f5e1 1f5e2 1f5e3 1f5e4 1f5e8 1f5e9 1f5ef 1f5f0 1f5f3 1f5f4 1f5fa 1f650",
     "1f680 1f6c6 1f6cb 1f6d3 1f6d5 1f6e6 1f6e9 1f6ea 1f6eb 1f6f1 1f6f3 1f700 1f7da 1f800 1f80c",
     "1f810 1f848 1f850 1f85a 1f860 1f888 1f890 1f8ae 1f8b0 1f8bc 1f8c0 1f8c2 1f8d0 1f8d9 1f900",
     "1f90c 1f93b 1f93c 1f946 1f947 1fa00 1fa58 1fa60 1fa6e 1fb00 1fc00 1fffe"]

/-- The property `Regional_Indicator`. -/
def regionalIndicator : CodePoints :=
  .read
    ["1f1e6 1f200"]

end AsmHarness.Unicode.Property
