import ReactiveTree.Pattern.Listing

/-!
# Boundaries in texts

What a character is to the rules by which texts divide into user-perceived characters, words and
sentences, in version 16 of Unicode. Characters that no rule names have no class here.

Key definitions: `graphemeBreaks`, `wordBreaks`, `sentenceBreaks`.
-/
namespace ReactiveTree.Pattern

/-- The classes of characters within user-perceived characters. -/
def graphemeBreaks : List Listing := [
  { names := ["cr"]
    more :=
      "d" },
  { names := ["control", "cn"]
    categories := "zl zp cc cf"
    more :=
      "2065 fff0-fff8 e0000 e0002-e001f e0080-e00ff e01f0-e0fff"
    fewer :=
      "a d 600-605 6dd 70f 890-891 8e2 200c-200d 110bd 110cd e0020-e007f" },
  { names := ["extend", "ex"]
    categories := "mn me"
    more :=
      "9be 9d7 b3e b57 bbe bd7 cc0 cc2 cc7-cc8 cca-ccb cd5-cd6 d3e d57 dcf ddf 1715 1734 1acf-1add
      1ae0-1aeb 1b35 1b3b 1b3d 1b43-1b44 1baa 1bf2-1bf3 200c 302e-302f a953 a9c0 ff9e-ff9f
      10efa-10efb 111c0 11235 1133e 1134d 11357 113b8 113c2 113c5 113c7-113c9 113cf 114b0 114bd
      115af 116b6 11930 1193d 11b60 11b62-11b64 11b66 11f41 16ff0-16ff1 1d165-1d166 1d16d-1d172
      1e6e3 1e6e6 1e6ee-1e6ef 1e6f5 1f3fb-1f3ff e0020-e007f" },
  { names := ["l"]
    more :=
      "1100-115f a960-a97c" },
  { names := ["lf"]
    more :=
      "a" },
  { names := ["lv"]
    more :=
      "ac00 ac1c ac38 ac54 ac70 ac8c aca8 acc4 ace0 acfc ad18 ad34 ad50 ad6c ad88 ada4 adc0 addc
      adf8 ae14 ae30 ae4c ae68 ae84 aea0 aebc aed8 aef4 af10 af2c af48 af64 af80 af9c afb8 afd4
      aff0 b00c b028 b044 b060 b07c b098 b0b4 b0d0 b0ec b108 b124 b140 b15c b178 b194 b1b0 b1cc
      b1e8 b204 b220 b23c b258 b274 b290 b2ac b2c8 b2e4 b300 b31c b338 b354 b370 b38c b3a8 b3c4
      b3e0 b3fc b418 b434 b450 b46c b488 b4a4 b4c0 b4dc b4f8 b514 b530 b54c b568 b584 b5a0 b5bc
      b5d8 b5f4 b610 b62c b648 b664 b680 b69c b6b8 b6d4 b6f0 b70c b728 b744 b760 b77c b798 b7b4
      b7d0 b7ec b808 b824 b840 b85c b878 b894 b8b0 b8cc b8e8 b904 b920 b93c b958 b974 b990 b9ac
      b9c8 b9e4 ba00 ba1c ba38 ba54 ba70 ba8c baa8 bac4 bae0 bafc bb18 bb34 bb50 bb6c bb88 bba4
      bbc0 bbdc bbf8 bc14 bc30 bc4c bc68 bc84 bca0 bcbc bcd8 bcf4 bd10 bd2c bd48 bd64 bd80 bd9c
      bdb8 bdd4 bdf0 be0c be28 be44 be60 be7c be98 beb4 bed0 beec bf08 bf24 bf40 bf5c bf78 bf94
      bfb0 bfcc bfe8 c004 c020 c03c c058 c074 c090 c0ac c0c8 c0e4 c100 c11c c138 c154 c170 c18c
      c1a8 c1c4 c1e0 c1fc c218 c234 c250 c26c c288 c2a4 c2c0 c2dc c2f8 c314 c330 c34c c368 c384
      c3a0 c3bc c3d8 c3f4 c410 c42c c448 c464 c480 c49c c4b8 c4d4 c4f0 c50c c528 c544 c560 c57c
      c598 c5b4 c5d0 c5ec c608 c624 c640 c65c c678 c694 c6b0 c6cc c6e8 c704 c720 c73c c758 c774
      c790 c7ac c7c8 c7e4 c800 c81c c838 c854 c870 c88c c8a8 c8c4 c8e0 c8fc c918 c934 c950 c96c
      c988 c9a4 c9c0 c9dc c9f8 ca14 ca30 ca4c ca68 ca84 caa0 cabc cad8 caf4 cb10 cb2c cb48 cb64
      cb80 cb9c cbb8 cbd4 cbf0 cc0c cc28 cc44 cc60 cc7c cc98 ccb4 ccd0 ccec cd08 cd24 cd40 cd5c
      cd78 cd94 cdb0 cdcc cde8 ce04 ce20 ce3c ce58 ce74 ce90 ceac cec8 cee4 cf00 cf1c cf38 cf54
      cf70 cf8c cfa8 cfc4 cfe0 cffc d018 d034 d050 d06c d088 d0a4 d0c0 d0dc d0f8 d114 d130 d14c
      d168 d184 d1a0 d1bc d1d8 d1f4 d210 d22c d248 d264 d280 d29c d2b8 d2d4 d2f0 d30c d328 d344
      d360 d37c d398 d3b4 d3d0 d3ec d408 d424 d440 d45c d478 d494 d4b0 d4cc d4e8 d504 d520 d53c
      d558 d574 d590 d5ac d5c8 d5e4 d600 d61c d638 d654 d670 d68c d6a8 d6c4 d6e0 d6fc d718 d734
      d750 d76c d788" },
  { names := ["lvt"]
    more :=
      "ac01-ac1b ac1d-ac37 ac39-ac53 ac55-ac6f ac71-ac8b ac8d-aca7 aca9-acc3 acc5-acdf ace1-acfb
      acfd-ad17 ad19-ad33 ad35-ad4f ad51-ad6b ad6d-ad87 ad89-ada3 ada5-adbf adc1-addb addd-adf7
      adf9-ae13 ae15-ae2f ae31-ae4b ae4d-ae67 ae69-ae83 ae85-ae9f aea1-aebb aebd-aed7 aed9-aef3
      aef5-af0f af11-af2b af2d-af47 af49-af63 af65-af7f af81-af9b af9d-afb7 afb9-afd3 afd5-afef
      aff1-b00b b00d-b027 b029-b043 b045-b05f b061-b07b b07d-b097 b099-b0b3 b0b5-b0cf b0d1-b0eb
      b0ed-b107 b109-b123 b125-b13f b141-b15b b15d-b177 b179-b193 b195-b1af b1b1-b1cb b1cd-b1e7
      b1e9-b203 b205-b21f b221-b23b b23d-b257 b259-b273 b275-b28f b291-b2ab b2ad-b2c7 b2c9-b2e3
      b2e5-b2ff b301-b31b b31d-b337 b339-b353 b355-b36f b371-b38b b38d-b3a7 b3a9-b3c3 b3c5-b3df
      b3e1-b3fb b3fd-b417 b419-b433 b435-b44f b451-b46b b46d-b487 b489-b4a3 b4a5-b4bf b4c1-b4db
      b4dd-b4f7 b4f9-b513 b515-b52f b531-b54b b54d-b567 b569-b583 b585-b59f b5a1-b5bb b5bd-b5d7
      b5d9-b5f3 b5f5-b60f b611-b62b b62d-b647 b649-b663 b665-b67f b681-b69b b69d-b6b7 b6b9-b6d3
      b6d5-b6ef b6f1-b70b b70d-b727 b729-b743 b745-b75f b761-b77b b77d-b797 b799-b7b3 b7b5-b7cf
      b7d1-b7eb b7ed-b807 b809-b823 b825-b83f b841-b85b b85d-b877 b879-b893 b895-b8af b8b1-b8cb
      b8cd-b8e7 b8e9-b903 b905-b91f b921-b93b b93d-b957 b959-b973 b975-b98f b991-b9ab b9ad-b9c7
      b9c9-b9e3 b9e5-b9ff ba01-ba1b ba1d-ba37 ba39-ba53 ba55-ba6f ba71-ba8b ba8d-baa7 baa9-bac3
      bac5-badf bae1-bafb bafd-bb17 bb19-bb33 bb35-bb4f bb51-bb6b bb6d-bb87 bb89-bba3 bba5-bbbf
      bbc1-bbdb bbdd-bbf7 bbf9-bc13 bc15-bc2f bc31-bc4b bc4d-bc67 bc69-bc83 bc85-bc9f bca1-bcbb
      bcbd-bcd7 bcd9-bcf3 bcf5-bd0f bd11-bd2b bd2d-bd47 bd49-bd63 bd65-bd7f bd81-bd9b bd9d-bdb7
      bdb9-bdd3 bdd5-bdef bdf1-be0b be0d-be27 be29-be43 be45-be5f be61-be7b be7d-be97 be99-beb3
      beb5-becf bed1-beeb beed-bf07 bf09-bf23 bf25-bf3f bf41-bf5b bf5d-bf77 bf79-bf93 bf95-bfaf
      bfb1-bfcb bfcd-bfe7 bfe9-c003 c005-c01f c021-c03b c03d-c057 c059-c073 c075-c08f c091-c0ab
      c0ad-c0c7 c0c9-c0e3 c0e5-c0ff c101-c11b c11d-c137 c139-c153 c155-c16f c171-c18b c18d-c1a7
      c1a9-c1c3 c1c5-c1df c1e1-c1fb c1fd-c217 c219-c233 c235-c24f c251-c26b c26d-c287 c289-c2a3
      c2a5-c2bf c2c1-c2db c2dd-c2f7 c2f9-c313 c315-c32f c331-c34b c34d-c367 c369-c383 c385-c39f
      c3a1-c3bb c3bd-c3d7 c3d9-c3f3 c3f5-c40f c411-c42b c42d-c447 c449-c463 c465-c47f c481-c49b
      c49d-c4b7 c4b9-c4d3 c4d5-c4ef c4f1-c50b c50d-c527 c529-c543 c545-c55f c561-c57b c57d-c597
      c599-c5b3 c5b5-c5cf c5d1-c5eb c5ed-c607 c609-c623 c625-c63f c641-c65b c65d-c677 c679-c693
      c695-c6af c6b1-c6cb c6cd-c6e7 c6e9-c703 c705-c71f c721-c73b c73d-c757 c759-c773 c775-c78f
      c791-c7ab c7ad-c7c7 c7c9-c7e3 c7e5-c7ff c801-c81b c81d-c837 c839-c853 c855-c86f c871-c88b
      c88d-c8a7 c8a9-c8c3 c8c5-c8df c8e1-c8fb c8fd-c917 c919-c933 c935-c94f c951-c96b c96d-c987
      c989-c9a3 c9a5-c9bf c9c1-c9db c9dd-c9f7 c9f9-ca13 ca15-ca2f ca31-ca4b ca4d-ca67 ca69-ca83
      ca85-ca9f caa1-cabb cabd-cad7 cad9-caf3 caf5-cb0f cb11-cb2b cb2d-cb47 cb49-cb63 cb65-cb7f
      cb81-cb9b cb9d-cbb7 cbb9-cbd3 cbd5-cbef cbf1-cc0b cc0d-cc27 cc29-cc43 cc45-cc5f cc61-cc7b
      cc7d-cc97 cc99-ccb3 ccb5-cccf ccd1-cceb cced-cd07 cd09-cd23 cd25-cd3f cd41-cd5b cd5d-cd77
      cd79-cd93 cd95-cdaf cdb1-cdcb cdcd-cde7 cde9-ce03 ce05-ce1f ce21-ce3b ce3d-ce57 ce59-ce73
      ce75-ce8f ce91-ceab cead-cec7 cec9-cee3 cee5-ceff cf01-cf1b cf1d-cf37 cf39-cf53 cf55-cf6f
      cf71-cf8b cf8d-cfa7 cfa9-cfc3 cfc5-cfdf cfe1-cffb cffd-d017 d019-d033 d035-d04f d051-d06b
      d06d-d087 d089-d0a3 d0a5-d0bf d0c1-d0db d0dd-d0f7 d0f9-d113 d115-d12f d131-d14b d14d-d167
      d169-d183 d185-d19f d1a1-d1bb d1bd-d1d7 d1d9-d1f3 d1f5-d20f d211-d22b d22d-d247 d249-d263
      d265-d27f d281-d29b d29d-d2b7 d2b9-d2d3 d2d5-d2ef d2f1-d30b d30d-d327 d329-d343 d345-d35f
      d361-d37b d37d-d397 d399-d3b3 d3b5-d3cf d3d1-d3eb d3ed-d407 d409-d423 d425-d43f d441-d45b
      d45d-d477 d479-d493 d495-d4af d4b1-d4cb d4cd-d4e7 d4e9-d503 d505-d51f d521-d53b d53d-d557
      d559-d573 d575-d58f d591-d5ab d5ad-d5c7 d5c9-d5e3 d5e5-d5ff d601-d61b d61d-d637 d639-d653
      d655-d66f d671-d68b d68d-d6a7 d6a9-d6c3 d6c5-d6df d6e1-d6fb d6fd-d717 d719-d733 d735-d74f
      d751-d76b d76d-d787 d789-d7a3" },
  { names := ["prepend", "pp"]
    more :=
      "600-605 6dd 70f 890-891 8e2 d4e 110bd 110cd 111c2-111c3 113d1 1193f 11941 11a3a 11a84-11a89
      11d46 11f02" },
  { names := ["regionalindicator", "ri"]
    more :=
      "1f1e6-1f1ff" },
  { names := ["spacingmark", "sm"]
    categories := "mc"
    more :=
      "e33 eb3 11b61 11b65 11b67"
    fewer :=
      "9be 9d7 b3e b57 bbe bd7 cc0 cc2 cc7-cc8 cca-ccb cd5-cd6 d3e d57 dcf ddf 102b-102c 1038
      1062-1064 1067-106d 1083 1087-108c 108f 109a-109c 1715 1734 1a61 1a63-1a64 1b35 1b3b 1b3d
      1b43-1b44 1baa 1bf2-1bf3 302e-302f a953 a9c0 aa7b aa7d 111c0 11235 1133e 1134d 11357 113b8
      113c2 113c5 113c7-113c9 113cf 114b0 114bd 115af 116b6 11720-11721 11930 1193d 11f41
      16ff0-16ff1 1d165-1d166 1d16d-1d172" },
  { names := ["t"]
    more :=
      "11a8-11ff d7cb-d7fb" },
  { names := ["v"]
    more :=
      "1160-11a7 d7b0-d7c6 16d63 16d67-16d6a" },
  { names := ["zwj"]
    more :=
      "200d" }]

/-- The classes of characters within words. -/
def wordBreaks : List Listing := [
  { names := ["aletter", "le"]
    categories := "lm lo nl"
    more :=
      "41-5a 61-7a b5 c0-d6 d8-f6 f8-1ba 1bc-1bf 1c4-293 295-2af 2c2-2c5 2d2-2d7 2de-2df 2e5-2eb
      2ed 2ef-2ff 370-373 376-377 37b-37d 37f 386 388-38a 38c 38e-3a1 3a3-3f5 3f7-481 48a-52f
      531-556 55a-55c 55e 560-588 58a 5f3 70f 88f c5c cdc 10a0-10c5 10c7 10cd 10d0-10fa 10fd-10ff
      13a0-13f5 13f8-13fd 1c80-1c8a 1c90-1cba 1cbd-1cbf 1d00-1d2b 1d6b-1d77 1d79-1d9a 1e00-1f15
      1f18-1f1d 1f20-1f45 1f48-1f4d 1f50-1f57 1f59-1f5d/2 1f5f-1f7d 1f80-1fb4 1fb6-1fbc 1fbe
      1fc2-1fc4 1fc6-1fcc 1fd0-1fd3 1fd6-1fdb 1fe0-1fec 1ff2-1ff4 1ff6-1ffc 2102 2107 210a-2113
      2115 2119-211d 2124-2128/2 212a-212d 212f-2134 2139 213c-213f 2145-2149 214e 2183-2184
      24b6-24e9 2c00-2c7b 2c7e-2ce4 2ceb-2cee 2cf2-2cf3 2d00-2d25 2d27 2d2d a640-a66d a680-a69b
      a708-a716 a720-a76f a771-a787 a789-a78e a790-a7dc a7f1 a7f5-a7f6 a7fa ab30-ab5b ab60-ab68
      ab70-abbf fb00-fb06 fb13-fb17 ff21-ff3a ff41-ff5a 10400-1044f 104b0-104d3 104d8-104fb
      10570-1057a 1057c-1058a 1058c-10592 10594-10595 10597-105a1 105a3-105b1 105b3-105b9
      105bb-105bc 10940-10959 10c80-10cb2 10cc0-10cf2 10d50-10d65 10d70-10d85 10ec5-10ec7
      118a0-118df 11db0-11ddb 16e40-16e7f 16ea0-16eb8 16ebb-16ed3 1d400-1d454 1d456-1d49c
      1d49e-1d49f 1d4a2 1d4a5-1d4a6 1d4a9-1d4ac 1d4ae-1d4b9 1d4bb 1d4bd-1d4c3 1d4c5-1d505
      1d507-1d50a 1d50d-1d514 1d516-1d51c 1d51e-1d539 1d53b-1d53e 1d540-1d544 1d546 1d54a-1d550
      1d552-1d6a5 1d6a8-1d6c0 1d6c2-1d6da 1d6dc-1d6fa 1d6fc-1d714 1d716-1d734 1d736-1d74e
      1d750-1d76e 1d770-1d788 1d78a-1d7a8 1d7aa-1d7c2 1d7c4-1d7cb 1df00-1df09 1df0b-1df1e
      1df25-1df2a 1e6c0-1e6de 1e6e0-1e6e2 1e6e4-1e6e5 1e6e7-1e6ed 1e6f0-1e6f4 1e6fe-1e6ff
      1e900-1e943 1f130-1f149 1f150-1f169 1f170-1f189"
    fewer :=
      "5d0-5ea 5ef-5f2 e01-e30 e32-e33 e40-e46 e81-e82 e84 e86-e8a e8c-ea3 ea5 ea7-eb0 eb2-eb3 ebd
      ec0-ec4 ec6 edc-edf 1000-102a 103f 1050-1055 105a-105d 1061 1065-1066 106e-1070 1075-1081
      108e 1780-17b3 17d7 17dc 1950-196d 1970-1974 1980-19ab 19b0-19c9 1a20-1a54 1aa7 3006-3007
      3021-3029 3031-3035 3038-303a 3041-3096 309d-309f 30a1-30fa 30fc-30ff 31f0-31ff 3400-4dbf
      4e00-9fff a9e0-a9e4 a9e6-a9ef a9fa-a9fe aa60-aa76 aa7a aa7e-aaaf aab1 aab5-aab6 aab9-aabd
      aac0 aac2 aadb-aadd f900-fa6d fa70-fad9 fb1d fb1f-fb28 fb2a-fb36 fb38-fb3c fb3e fb40-fb41
      fb43-fb44 fb46-fb4f ff66-ff9f 11700-1171a 11740-11746 17000-187f7 18800-18cd5 18cff-18d08
      1aff0-1aff3 1aff5-1affb 1affd-1affe 1b000-1b122 1b132 1b150-1b152 1b155 1b164-1b167
      1b170-1b2fb 20000-2a6df 2a700-2b739 2b740-2b81d 2b820-2cea1 2ceb0-2ebe0 2ebf0-2ee5d
      2f800-2fa1d 30000-3134a 31350-323af" },
  { names := ["cr"]
    more :=
      "d" },
  { names := ["doublequote", "dq"]
    more :=
      "22" },
  { names := ["extend"]
    categories := "m"
    more :=
      "1acf-1add 1ae0-1aeb 200c ff9e-ff9f 10efa-10efb 11b60-11b67 1e6e3 1e6e6 1e6ee-1e6ef 1e6f5
      1f3fb-1f3ff e0020-e007f" },
  { names := ["extendnumlet", "ex"]
    categories := "pc"
    more :=
      "202f" },
  { names := ["format", "fo"]
    categories := "cf"
    fewer :=
      "600-605 6dd 70f 890-891 8e2 200b-200d 110bd 110cd e0020-e007f" },
  { names := ["hebrewletter", "hl"]
    more :=
      "5d0-5ea 5ef-5f2 fb1d fb1f-fb28 fb2a-fb36 fb38-fb3c fb3e fb40-fb41 fb43-fb44 fb46-fb4f" },
  { names := ["katakana", "ka"]
    more :=
      "3031-3035 309b-309c 30a0-30fa 30fc-30ff 31f0-31ff 32d0-32fe 3300-3357 ff66-ff9d 1aff0-1aff3
      1aff5-1affb 1affd-1affe 1b000 1b120-1b122 1b155 1b164-1b167" },
  { names := ["lf"]
    more :=
      "a" },
  { names := ["midletter", "ml"]
    more :=
      "3a b7 387 55f 5f4 2027 fe13 fe55 ff1a" },
  { names := ["midnum", "mn"]
    more :=
      "2c 3b 37e 589 60c-60d 66c 7f8 2044 fe10 fe14 fe50 fe54 ff0c ff1b" },
  { names := ["midnumlet", "mb"]
    more :=
      "2e 2018-2019 2024 fe52 ff07 ff0e" },
  { names := ["newline", "nl"]
    categories := "zl zp"
    more :=
      "b-c 85" },
  { names := ["numeric", "nu"]
    categories := "nd"
    more :=
      "600-605 66b 6dd 890-891 8e2 110bd 110cd 11de0-11de9" },
  { names := ["regionalindicator", "ri"]
    more :=
      "1f1e6-1f1ff" },
  { names := ["singlequote", "sq"]
    more :=
      "27" },
  { names := ["wsegspace"]
    categories := "zs"
    fewer :=
      "a0 2007 202f" },
  { names := ["zwj"]
    more :=
      "200d" }]

/-- The classes of characters within sentences. -/
def sentenceBreaks : List Listing := [
  { names := ["aterm", "at"]
    more :=
      "2e 2024 fe52 ff0e" },
  { names := ["cr"]
    more :=
      "d" },
  { names := ["close", "cl"]
    categories := "ps pe"
    more :=
      "22 27 ab bb 2018-2019 201b-201d 201f 2039-203a 275b-2760 2e00-2e0d 2e1c-2e1d 2e20-2e21
      1f676-1f678" },
  { names := ["extend", "ex"]
    categories := "m"
    more :=
      "1acf-1add 1ae0-1aeb 200c-200d ff9e-ff9f 10efa-10efb 11b60-11b67 1e6e3 1e6e6 1e6ee-1e6ef
      1e6f5 e0020-e007f" },
  { names := ["format", "fo"]
    categories := "cf"
    fewer :=
      "600-605 6dd 70f 890-891 8e2 200c-200d 110bd 110cd e0020-e007f" },
  { names := ["lf"]
    more :=
      "a" },
  { names := ["lower", "lo"]
    categories := "ll"
    more :=
      "aa ba 2b0-2b8 2c0-2c1 2e0-2e4 37a 10fc 1d2c-1d6a 1d78 1d9b-1dbf 2071 207f 2090-209c
      2170-217f 24d0-24e9 2c7c-2c7d a69c-a69d a770 a7cf a7f1-a7f4 a7f8-a7f9 ab5c-ab5f ab69 10780
      10783-10785 10787-107b0 107b2-107ba 16ebb-16ed3 1e030-1e06d"
    fewer :=
      "10d0-10fa 10fd-10ff" },
  { names := ["numeric", "nu"]
    categories := "nd"
    more :=
      "600-605 66b-66c 6dd 890-891 8e2 110bd 110cd 11de0-11de9" },
  { names := ["oletter", "le"]
    categories := "lm lo nl"
    more :=
      "5f3 70f 88f c5c cdc 10d0-10fa 10fd-10ff 1c90-1cba 1cbd-1cbf 10940-10959 10ec5-10ec7
      11db0-11ddb 16ff2-16ff6 187f8-187ff 18d09-18d1e 18d80-18df2 1e6c0-1e6de 1e6e0-1e6e2
      1e6e4-1e6e5 1e6e7-1e6ed 1e6f0-1e6f4 1e6fe-1e6ff 2b73a-2b73f 2cea2-2cead 323b0-33479"
    fewer :=
      "aa ba 2b0-2b8 2c0-2c1 2e0-2e4 37a 10fc 1d2c-1d6a 1d78 1d9b-1dbf 2071 207f 2090-209c
      2160-217f 2c7c-2c7d a69c-a69d a770 a7f2-a7f4 a7f8-a7f9 ab5c-ab5f ab69 ff9e-ff9f 10780
      10783-10785 10787-107b0 107b2-107ba 1e030-1e06d" },
  { names := ["scontinue", "sc"]
    more :=
      "2c-2d 3a-3b 37e 55d 60c-60d 7f8 1802 1808 2013-2014 3001 fe10-fe11 fe13-fe14 fe31-fe32
      fe50-fe51 fe54-fe55 fe58 fe63 ff0c-ff0d ff1a-ff1b ff64" },
  { names := ["sterm", "st"]
    more :=
      "21 3f 589 61d-61f 6d4 700-702 7f9 837 839 83d-83e 964-965 104a-104b 1362 1367-1368 166e
      1735-1736 17d4-17d5 1803 1809 1944-1945 1aa8-1aab 1b4e-1b4f 1b5a-1b5b 1b5e-1b5f 1b7d-1b7f
      1c3b-1c3c 1c7e-1c7f 203c-203d 2047-2049 2cf9-2cfb 2e2e 2e3c 2e53-2e54 3002 a4ff a60e-a60f
      a6f3 a6f7 a876-a877 a8ce-a8cf a92f a9c8-a9c9 aa5d-aa5f aaf0-aaf1 abeb fe12 fe15-fe16
      fe56-fe57 ff01 ff1f ff61 10a56-10a57 10f55-10f59 10f86-10f89 11047-11048 110be-110c1
      11141-11143 111c5-111c6 111cd 111de-111df 11238-11239 1123b-1123c 112a9 113d4-113d5
      1144b-1144c 115c2-115c3 115c9-115d7 11641-11642 1173c-1173e 11944 11946 11a42-11a43
      11a9b-11a9c 11c41-11c42 11ef7-11ef8 11f43-11f44 16a6e-16a6f 16af5 16b37-16b38 16b44
      16d6e-16d6f 16e98 1bc9f 1da88" },
  { names := ["sep", "se"]
    categories := "zl zp"
    more :=
      "85" },
  { names := ["sp"]
    categories := "zs"
    more :=
      "9 b-c" },
  { names := ["upper", "up"]
    categories := "lu lt"
    more :=
      "2160-216f 24b6-24cf a7ce a7d2 a7d4 16ea0-16eb8 1f130-1f149 1f150-1f169 1f170-1f189"
    fewer :=
      "1c90-1cba 1cbd-1cbf" }]

end ReactiveTree.Pattern
