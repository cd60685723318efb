import BuildConfig.Text.Blank
import BuildConfig.Unicode.Table

namespace BuildConfig.Unicode

/-- The scripts of all code points, by their codes. -/
def scriptRuns : List Run :=
  runs "
  zyyy 65 latn 26 zyyy 6 latn 26 zyyy 47 latn 1 zyyy 15 latn 1 zyyy 5 latn 23 zyyy 1 latn 31 zyyy
  1 latn 449 zyyy 39 latn 5 zyyy 5 bopo 2 zyyy 20 zinh 112 grek 4 zyyy 1 grek 3 zzzz 2 grek 4 zyyy
  1 grek 1 zzzz 4 grek 1 zyyy 1 grek 1 zyyy 1 grek 3 zzzz 1 grek 1 zzzz 1 grek 20 zzzz 1 grek 63
  copt 14 grek 16 cyrl 133 zinh 2 cyrl 169 zzzz 1 armn 38 zzzz 2 armn 50 zzzz 2 armn 3 zzzz 1 hebr
  55 zzzz 8 hebr 27 zzzz 4 hebr 6 zzzz 11 arab 5 zyyy 1 arab 6 zyyy 1 arab 14 zyyy 1 arab 3 zyyy 1
  arab 32 zyyy 1 arab 10 zinh 11 arab 26 zinh 1 arab 108 zyyy 1 arab 34 syrc 14 zzzz 1 syrc 60
  zzzz 2 syrc 3 arab 48 thaa 50 zzzz 14 nkoo 59 zzzz 2 nkoo 3 samr 46 zzzz 2 samr 15 zzzz 1 mand
  28 zzzz 2 mand 1 zzzz 1 syrc 11 zzzz 5 arab 31 zzzz 1 arab 2 zzzz 5 arab 75 zyyy 1 arab 29 deva
  81 zinh 4 deva 15 zyyy 2 deva 26 beng 4 zzzz 1 beng 8 zzzz 2 beng 2 zzzz 2 beng 22 zzzz 1 beng 7
  zzzz 1 beng 1 zzzz 3 beng 4 zzzz 2 beng 9 zzzz 2 beng 2 zzzz 2 beng 4 zzzz 8 beng 1 zzzz 4 beng
  2 zzzz 1 beng 5 zzzz 2 beng 25 zzzz 2 guru 3 zzzz 1 guru 6 zzzz 4 guru 2 zzzz 2 guru 22 zzzz 1
  guru 7 zzzz 1 guru 2 zzzz 1 guru 2 zzzz 1 guru 2 zzzz 2 guru 1 zzzz 1 guru 5 zzzz 4 guru 2 zzzz
  2 guru 3 zzzz 3 guru 1 zzzz 7 guru 4 zzzz 1 guru 1 zzzz 7 guru 17 zzzz 10 gujr 3 zzzz 1 gujr 9
  zzzz 1 gujr 3 zzzz 1 gujr 22 zzzz 1 gujr 7 zzzz 1 gujr 2 zzzz 1 gujr 5 zzzz 2 gujr 10 zzzz 1
  gujr 3 zzzz 1 gujr 3 zzzz 2 gujr 1 zzzz 15 gujr 4 zzzz 2 gujr 12 zzzz 7 gujr 7 zzzz 1 orya 3
  zzzz 1 orya 8 zzzz 2 orya 2 zzzz 2 orya 22 zzzz 1 orya 7 zzzz 1 orya 2 zzzz 1 orya 5 zzzz 2 orya
  9 zzzz 2 orya 2 zzzz 2 orya 3 zzzz 7 orya 3 zzzz 4 orya 2 zzzz 1 orya 5 zzzz 2 orya 18 zzzz 10
  taml 2 zzzz 1 taml 6 zzzz 3 taml 3 zzzz 1 taml 4 zzzz 3 taml 2 zzzz 1 taml 1 zzzz 1 taml 2 zzzz
  3 taml 2 zzzz 3 taml 3 zzzz 3 taml 12 zzzz 4 taml 5 zzzz 3 taml 3 zzzz 1 taml 4 zzzz 2 taml 1
  zzzz 6 taml 1 zzzz 14 taml 21 zzzz 5 telu 13 zzzz 1 telu 3 zzzz 1 telu 23 zzzz 1 telu 16 zzzz 2
  telu 9 zzzz 1 telu 3 zzzz 1 telu 4 zzzz 7 telu 2 zzzz 1 telu 3 zzzz 2 telu 1 zzzz 2 telu 4 zzzz
  2 telu 10 zzzz 7 telu 9 knda 13 zzzz 1 knda 3 zzzz 1 knda 23 zzzz 1 knda 10 zzzz 1 knda 5 zzzz 2
  knda 9 zzzz 1 knda 3 zzzz 1 knda 4 zzzz 7 knda 2 zzzz 6 knda 2 zzzz 1 knda 4 zzzz 2 knda 10 zzzz
  1 knda 3 zzzz 12 mlym 13 zzzz 1 mlym 3 zzzz 1 mlym 51 zzzz 1 mlym 3 zzzz 1 mlym 6 zzzz 4 mlym 16
  zzzz 2 mlym 26 zzzz 1 sinh 3 zzzz 1 sinh 18 zzzz 3 sinh 24 zzzz 1 sinh 9 zzzz 1 sinh 1 zzzz 2
  sinh 7 zzzz 3 sinh 1 zzzz 4 sinh 6 zzzz 1 sinh 1 zzzz 1 sinh 8 zzzz 6 sinh 10 zzzz 2 sinh 3 zzzz
  12 thai 58 zzzz 4 zyyy 1 thai 28 zzzz 37 laoo 2 zzzz 1 laoo 1 zzzz 1 laoo 5 zzzz 1 laoo 24 zzzz
  1 laoo 1 zzzz 1 laoo 23 zzzz 2 laoo 5 zzzz 1 laoo 1 zzzz 1 laoo 7 zzzz 1 laoo 10 zzzz 2 laoo 4
  zzzz 32 tibt 72 zzzz 1 tibt 36 zzzz 4 tibt 39 zzzz 1 tibt 36 zzzz 1 tibt 15 zzzz 1 tibt 7 zyyy 4
  tibt 2 zzzz 37 mymr 160 geor 38 zzzz 1 geor 1 zzzz 5 geor 1 zzzz 2 geor 43 zyyy 1 geor 4 hang
  256 ethi 73 zzzz 1 ethi 4 zzzz 2 ethi 7 zzzz 1 ethi 1 zzzz 1 ethi 4 zzzz 2 ethi 41 zzzz 1 ethi 4
  zzzz 2 ethi 33 zzzz 1 ethi 4 zzzz 2 ethi 7 zzzz 1 ethi 1 zzzz 1 ethi 4 zzzz 2 ethi 15 zzzz 1
  ethi 57 zzzz 1 ethi 4 zzzz 2 ethi 67 zzzz 2 ethi 32 zzzz 3 ethi 26 zzzz 6 cher 86 zzzz 2 cher 6
  zzzz 2 cans 640 ogam 29 zzzz 3 runr 75 zyyy 3 runr 11 zzzz 7 tglg 22 zzzz 9 tglg 1 hano 21 zyyy
  2 zzzz 9 buhd 20 zzzz 12 tagb 13 zzzz 1 tagb 3 zzzz 1 tagb 2 zzzz 12 khmr 94 zzzz 2 khmr 10 zzzz
  6 khmr 10 zzzz 6 mong 2 zyyy 2 mong 1 zyyy 1 mong 20 zzzz 6 mong 89 zzzz 7 mong 43 zzzz 5 cans
  70 zzzz 10 limb 31 zzzz 1 limb 12 zzzz 4 limb 12 zzzz 4 limb 1 zzzz 3 limb 12 tale 30 zzzz 2
  tale 5 zzzz 11 talu 44 zzzz 4 talu 26 zzzz 6 talu 11 zzzz 3 talu 2 khmr 32 bugi 28 zzzz 2 bugi 2
  lana 63 zzzz 1 lana 29 zzzz 2 lana 11 zzzz 6 lana 10 zzzz 6 lana 14 zzzz 2 zinh 31 zzzz 49 bali
  77 zzzz 1 bali 50 sund 64 batk 52 zzzz 8 batk 4 lepc 56 zzzz 3 lepc 15 zzzz 3 lepc 3 olck 48
  cyrl 11 zzzz 5 geor 43 zzzz 2 geor 3 sund 8 zzzz 8 zinh 3 zyyy 1 zinh 13 zyyy 1 zinh 7 zyyy 4
  zinh 1 zyyy 6 zinh 1 zyyy 3 zinh 2 zyyy 1 zzzz 5 latn 38 grek 5 cyrl 1 latn 49 grek 5 latn 4
  grek 5 latn 13 cyrl 1 latn 70 grek 1 zinh 64 latn 256 grek 22 zzzz 2 grek 6 zzzz 2 grek 38 zzzz
  2 grek 6 zzzz 2 grek 8 zzzz 1 grek 1 zzzz 1 grek 1 zzzz 1 grek 1 zzzz 1 grek 31 zzzz 2 grek 53
  zzzz 1 grek 15 zzzz 1 grek 14 zzzz 2 grek 6 zzzz 1 grek 19 zzzz 2 grek 3 zzzz 1 grek 9 zzzz 1
  zyyy 12 zinh 2 zyyy 87 zzzz 1 zyyy 11 latn 1 zzzz 2 zyyy 11 latn 1 zyyy 15 zzzz 1 latn 13 zzzz 3
  zyyy 33 zzzz 15 zinh 33 zzzz 15 zyyy 38 grek 1 zyyy 3 latn 2 zyyy 6 latn 1 zyyy 27 latn 1 zyyy
  17 latn 41 zyyy 3 zzzz 4 zyyy 666 zzzz 22 zyyy 11 zzzz 21 zyyy 928 brai 256 zyyy 628 zzzz 2 zyyy
  32 zzzz 1 zyyy 105 glag 96 latn 32 copt 116 zzzz 5 copt 7 geor 38 zzzz 1 geor 1 zzzz 5 geor 1
  zzzz 2 tfng 56 zzzz 7 tfng 2 zzzz 14 tfng 1 ethi 23 zzzz 9 ethi 7 zzzz 1 ethi 7 zzzz 1 ethi 7
  zzzz 1 ethi 7 zzzz 1 ethi 7 zzzz 1 ethi 7 zzzz 1 ethi 7 zzzz 1 ethi 7 zzzz 1 cyrl 32 zyyy 94
  zzzz 34 hani 26 zzzz 1 hani 89 zzzz 12 hani 214 zzzz 26 zyyy 21 hani 1 zyyy 1 hani 1 zyyy 25
  hani 9 zinh 4 hang 2 zyyy 8 hani 4 zyyy 4 zzzz 1 hira 86 zzzz 2 zinh 2 zyyy 2 hira 3 zyyy 1 kana
  90 zyyy 2 kana 3 zzzz 5 bopo 43 zzzz 1 hang 94 zzzz 1 zyyy 16 bopo 32 zyyy 38 zzzz 9 zyyy 1 kana
  16 hang 31 zzzz 1 zyyy 64 hang 31 zyyy 81 kana 47 zyyy 1 kana 88 zyyy 168 hani 6592 zyyy 64 hani
  20992 yiii 1165 zzzz 3 yiii 55 zzzz 9 lisu 48 vaii 300 zzzz 20 cyrl 96 bamu 88 zzzz 8 zyyy 34
  latn 102 zyyy 3 latn 67 zzzz 2 latn 2 zzzz 1 latn 1 zzzz 1 latn 8 zzzz 21 latn 14 sylo 45 zzzz 3
  zyyy 10 zzzz 6 phag 56 zzzz 8 saur 70 zzzz 8 saur 12 zzzz 6 deva 32 kali 46 zyyy 1 kali 1 rjng
  36 zzzz 11 rjng 1 hang 29 zzzz 3 java 78 zzzz 1 zyyy 1 java 10 zzzz 4 java 2 mymr 31 zzzz 1 cham
  55 zzzz 9 cham 14 zzzz 2 cham 10 zzzz 2 cham 4 mymr 32 tavt 67 zzzz 24 tavt 5 mtei 23 zzzz 10
  ethi 6 zzzz 2 ethi 6 zzzz 2 ethi 6 zzzz 9 ethi 7 zzzz 1 ethi 7 zzzz 1 latn 43 zyyy 1 latn 9 grek
  1 latn 4 zyyy 2 zzzz 4 cher 80 mtei 46 zzzz 2 mtei 10 zzzz 6 hang 11172 zzzz 12 hang 23 zzzz 4
  hang 49 zzzz 8452 hani 366 zzzz 2 hani 106 zzzz 38 latn 7 zzzz 12 armn 5 zzzz 5 hebr 26 zzzz 1
  hebr 5 zzzz 1 hebr 1 zzzz 1 hebr 2 zzzz 1 hebr 2 zzzz 1 hebr 10 arab 115 zzzz 16 arab 363 zyyy 2
  arab 80 zzzz 2 arab 54 zzzz 7 arab 1 zzzz 32 arab 16 zinh 16 zyyy 10 zzzz 6 zinh 14 cyrl 2 zyyy
  35 zzzz 1 zyyy 19 zzzz 1 zyyy 4 zzzz 4 arab 5 zzzz 1 arab 135 zzzz 2 zyyy 1 zzzz 1 zyyy 32 latn
  26 zyyy 6 latn 26 zyyy 11 kana 10 zyyy 1 kana 45 zyyy 2 hang 31 zzzz 3 hang 6 zzzz 2 hang 6 zzzz
  2 hang 6 zzzz 2 hang 3 zzzz 3 zyyy 7 zzzz 1 zyyy 7 zzzz 10 zyyy 5 zzzz 2 linb 12 zzzz 1 linb 26
  zzzz 1 linb 19 zzzz 1 linb 2 zzzz 1 linb 15 zzzz 2 linb 14 zzzz 34 linb 123 zzzz 5 zyyy 3 zzzz 4
  zyyy 45 zzzz 3 zyyy 9 grek 79 zzzz 1 zyyy 13 zzzz 3 grek 1 zzzz 47 zyyy 45 zinh 1 zzzz 130 lyci
  29 zzzz 3 cari 49 zzzz 15 zinh 1 zyyy 27 zzzz 4 ital 36 zzzz 9 ital 3 goth 27 zzzz 5 perm 43
  zzzz 5 ugar 30 zzzz 1 ugar 1 xpeo 36 zzzz 4 xpeo 14 zzzz 42 dsrt 80 shaw 48 osma 30 zzzz 2 osma
  10 zzzz 6 osge 36 zzzz 4 osge 36 zzzz 4 elba 40 zzzz 8 aghb 52 zzzz 11 aghb 1 vith 11 zzzz 1
  vith 15 zzzz 1 vith 7 zzzz 1 vith 2 zzzz 1 vith 11 zzzz 1 vith 15 zzzz 1 vith 7 zzzz 1 vith 2
  zzzz 3 todr 52 zzzz 12 lina 311 zzzz 9 lina 22 zzzz 10 lina 8 zzzz 24 latn 6 zzzz 1 latn 42 zzzz
  1 latn 9 zzzz 69 cprt 6 zzzz 2 cprt 1 zzzz 1 cprt 44 zzzz 1 cprt 2 zzzz 3 cprt 1 zzzz 2 cprt 1
  armi 22 zzzz 1 armi 9 palm 32 nbat 31 zzzz 8 nbat 9 zzzz 48 hatr 19 zzzz 1 hatr 2 zzzz 5 hatr 5
  phnx 28 zzzz 3 phnx 1 lydi 26 zzzz 5 lydi 1 zzzz 64 mero 32 merc 24 zzzz 4 merc 20 zzzz 2 merc
  46 khar 4 zzzz 1 khar 2 zzzz 5 khar 8 zzzz 1 khar 3 zzzz 1 khar 29 zzzz 2 khar 3 zzzz 4 khar 10
  zzzz 7 khar 9 zzzz 7 sarb 32 narb 32 zzzz 32 mani 39 zzzz 4 mani 12 zzzz 9 avst 54 zzzz 3 avst 7
  prti 22 zzzz 2 prti 8 phli 19 zzzz 5 phli 8 phlp 18 zzzz 7 phlp 4 zzzz 12 phlp 7 zzzz 80 orkh 73
  zzzz 55 hung 51 zzzz 13 hung 51 zzzz 7 hung 6 rohg 40 zzzz 8 rohg 10 zzzz 6 gara 38 zzzz 3 gara
  29 zzzz 8 gara 2 zzzz 208 arab 31 zzzz 1 yezi 42 zzzz 1 yezi 3 zzzz 2 yezi 2 zzzz 16 arab 3 zzzz
  55 arab 4 sogo 40 zzzz 8 sogd 42 zzzz 22 ougr 26 zzzz 38 chrs 28 zzzz 20 elym 23 zzzz 9 brah 78
  zzzz 4 brah 36 zzzz 9 brah 1 kthi 67 zzzz 10 kthi 1 zzzz 2 sora 25 zzzz 7 sora 10 zzzz 6 cakm 53
  zzzz 1 cakm 18 zzzz 8 mahj 39 zzzz 9 shrd 96 zzzz 1 sinh 20 zzzz 11 khoj 18 zzzz 1 khoj 47 zzzz
  62 mult 7 zzzz 1 mult 1 zzzz 1 mult 4 zzzz 1 mult 15 zzzz 1 mult 11 zzzz 6 sind 59 zzzz 5 sind
  10 zzzz 6 gran 4 zzzz 1 gran 8 zzzz 2 gran 2 zzzz 2 gran 22 zzzz 1 gran 7 zzzz 1 gran 2 zzzz 1
  gran 5 zzzz 1 zinh 1 gran 9 zzzz 2 gran 2 zzzz 2 gran 3 zzzz 2 gran 1 zzzz 6 gran 1 zzzz 5 gran
  7 zzzz 2 gran 7 zzzz 3 gran 5 zzzz 11 tutg 10 zzzz 1 tutg 1 zzzz 2 tutg 1 zzzz 1 tutg 38 zzzz 1
  tutg 10 zzzz 1 tutg 1 zzzz 2 tutg 1 zzzz 1 tutg 4 zzzz 1 tutg 10 zzzz 1 tutg 2 zzzz 8 tutg 2
  zzzz 29 newa 92 zzzz 1 newa 5 zzzz 30 tirh 72 zzzz 8 tirh 10 zzzz 166 sidd 54 zzzz 2 sidd 38
  zzzz 34 modi 69 zzzz 11 modi 10 zzzz 6 mong 13 zzzz 19 takr 58 zzzz 6 takr 10 zzzz 6 mymr 20
  zzzz 28 ahom 27 zzzz 2 ahom 15 zzzz 4 ahom 23 zzzz 185 dogr 60 zzzz 100 wara 83 zzzz 12 wara 1
  diak 7 zzzz 2 diak 1 zzzz 2 diak 8 zzzz 1 diak 2 zzzz 1 diak 30 zzzz 1 diak 2 zzzz 2 diak 12
  zzzz 9 diak 10 zzzz 70 nand 8 zzzz 2 nand 46 zzzz 2 nand 11 zzzz 27 zanb 72 zzzz 8 soyo 83 zzzz
  13 cans 16 pauc 57 zzzz 7 deva 10 zzzz 182 sunu 34 zzzz 14 sunu 10 zzzz 6 bhks 9 zzzz 1 bhks 45
  zzzz 1 bhks 14 zzzz 10 bhks 29 zzzz 3 marc 32 zzzz 2 marc 22 zzzz 1 marc 14 zzzz 73 gonm 7 zzzz
  1 gonm 2 zzzz 1 gonm 44 zzzz 3 gonm 1 zzzz 1 gonm 2 zzzz 1 gonm 9 zzzz 8 gonm 10 zzzz 6 gong 6
  zzzz 1 gong 2 zzzz 1 gong 37 zzzz 1 gong 2 zzzz 1 gong 6 zzzz 7 gong 10 zzzz 310 maka 25 zzzz 7
  kawi 17 zzzz 1 kawi 41 zzzz 3 kawi 29 zzzz 85 lisu 1 zzzz 15 taml 50 zzzz 13 taml 1 xsux 922
  zzzz 102 xsux 111 zzzz 1 xsux 5 zzzz 11 xsux 196 zzzz 2636 cpmn 99 zzzz 13 egyp 1110 zzzz 10
  egyp 3995 zzzz 5 hluw 583 zzzz 6841 gukh 58 zzzz 1734 bamu 569 zzzz 7 mroo 31 zzzz 1 mroo 10
  zzzz 4 mroo 2 tnsa 79 zzzz 1 tnsa 10 zzzz 6 bass 30 zzzz 2 bass 6 zzzz 10 hmng 70 zzzz 10 hmng
  10 zzzz 1 hmng 7 zzzz 1 hmng 21 zzzz 5 hmng 19 zzzz 432 krai 58 zzzz 198 medf 91 zzzz 101 plrd
  75 zzzz 4 plrd 57 zzzz 7 plrd 17 zzzz 64 tang 1 nshu 1 hani 2 kits 1 zzzz 11 hani 2 zzzz 14 tang
  6136 zzzz 8 tang 768 kits 470 zzzz 41 kits 1 tang 9 zzzz 8935 kana 4 zzzz 1 kana 7 zzzz 1 kana 2
  zzzz 1 kana 1 hira 287 kana 3 zzzz 15 hira 1 zzzz 29 hira 3 zzzz 2 kana 1 zzzz 14 kana 4 zzzz 8
  nshu 396 zzzz 2308 dupl 107 zzzz 5 dupl 13 zzzz 3 dupl 9 zzzz 7 dupl 10 zzzz 2 dupl 4 zyyy 4
  zzzz 3932 zyyy 250 zzzz 6 zyyy 436 zzzz 76 zinh 46 zzzz 2 zinh 23 zzzz 9 zyyy 116 zzzz 60 zyyy
  246 zzzz 10 zyyy 39 zzzz 2 zyyy 62 zinh 3 zyyy 17 zinh 8 zyyy 2 zinh 7 zyyy 30 zinh 4 zyyy 61
  zzzz 21 grek 70 zzzz 122 zyyy 20 zzzz 12 zyyy 20 zzzz 12 zyyy 87 zzzz 9 zyyy 25 zzzz 135 zyyy 85
  zzzz 1 zyyy 71 zzzz 1 zyyy 2 zzzz 2 zyyy 1 zzzz 2 zyyy 2 zzzz 2 zyyy 4 zzzz 1 zyyy 12 zzzz 1
  zyyy 1 zzzz 1 zyyy 7 zzzz 1 zyyy 65 zzzz 1 zyyy 4 zzzz 2 zyyy 8 zzzz 1 zyyy 7 zzzz 1 zyyy 28
  zzzz 1 zyyy 4 zzzz 1 zyyy 5 zzzz 1 zyyy 1 zzzz 3 zyyy 7 zzzz 1 zyyy 340 zzzz 2 zyyy 292 zzzz 2
  zyyy 50 sgnw 652 zzzz 15 sgnw 5 zzzz 1 sgnw 15 zzzz 1104 latn 31 zzzz 6 latn 6 zzzz 213 glag 7
  zzzz 1 glag 17 zzzz 2 glag 7 zzzz 1 glag 2 zzzz 1 glag 5 zzzz 5 cyrl 62 zzzz 33 cyrl 1 zzzz 112
  hmnp 45 zzzz 3 hmnp 14 zzzz 2 hmnp 10 zzzz 4 hmnp 2 zzzz 320 toto 31 zzzz 17 wcho 58 zzzz 5 wcho
  1 zzzz 464 nagm 42 zzzz 214 onao 43 zzzz 4 onao 1 zzzz 480 ethi 7 zzzz 1 ethi 4 zzzz 1 ethi 2
  zzzz 1 ethi 15 zzzz 1 mend 197 zzzz 2 mend 16 zzzz 41 adlm 76 zzzz 4 adlm 10 zzzz 4 adlm 2 zzzz
  785 zyyy 68 zzzz 76 zyyy 61 zzzz 194 arab 4 zzzz 1 arab 27 zzzz 1 arab 2 zzzz 1 arab 1 zzzz 2
  arab 1 zzzz 1 arab 10 zzzz 1 arab 4 zzzz 1 arab 1 zzzz 1 arab 1 zzzz 6 arab 1 zzzz 4 arab 1 zzzz
  1 arab 1 zzzz 1 arab 1 zzzz 1 arab 3 zzzz 1 arab 2 zzzz 1 arab 1 zzzz 2 arab 1 zzzz 1 arab 1
  zzzz 1 arab 1 zzzz 1 arab 1 zzzz 1 arab 1 zzzz 1 arab 2 zzzz 1 arab 1 zzzz 2 arab 4 zzzz 1 arab
  7 zzzz 1 arab 4 zzzz 1 arab 4 zzzz 1 arab 1 zzzz 1 arab 10 zzzz 1 arab 17 zzzz 5 arab 3 zzzz 1
  arab 5 zzzz 1 arab 17 zzzz 52 arab 2 zzzz 270 zyyy 44 zzzz 4 zyyy 100 zzzz 12 zyyy 15 zzzz 2
  zyyy 15 zzzz 1 zyyy 15 zzzz 1 zyyy 37 zzzz 10 zyyy 174 zzzz 56 zyyy 26 hira 1 zyyy 2 zzzz 13
  zyyy 44 zzzz 4 zyyy 9 zzzz 7 zyyy 2 zzzz 14 zyyy 6 zzzz 154 zyyy 984 zzzz 4 zyyy 17 zzzz 3 zyyy
  13 zzzz 3 zyyy 119 zzzz 4 zyyy 95 zzzz 6 zyyy 12 zzzz 4 zyyy 1 zzzz 15 zyyy 12 zzzz 4 zyyy 56
  zzzz 8 zyyy 10 zzzz 6 zyyy 40 zzzz 8 zyyy 30 zzzz 2 zyyy 12 zzzz 4 zyyy 2 zzzz 62 zyyy 340 zzzz
  12 zyyy 14 zzzz 2 zyyy 13 zzzz 3 zyyy 10 zzzz 5 zyyy 56 zzzz 7 zyyy 15 zzzz 2 zyyy 11 zzzz 6
  zyyy 9 zzzz 7 zyyy 147 zzzz 1 zyyy 102 zzzz 1030 hani 42720 zzzz 32 hani 4154 zzzz 6 hani 222
  zzzz 2 hani 5762 zzzz 14 hani 7473 zzzz 15 hani 622 zzzz 2466 hani 542 zzzz 1506 hani 4939 zzzz
  5 hani 4192 zzzz 711761 zyyy 1 zzzz 30 zyyy 96 zzzz 128 zinh 240 zzzz 196112"

/-- The code points that more scripts use than the one they are of, or other ones, with the codes of
all scripts that use them. -/
def sharedScripts : List (CodeRange × List String) :=
  (words "
  b7=avst,cari,copt,dupl,elba,geor,glag,gong,goth,grek,hani,latn,lydi,mahj,perm,shaw
  2bc=beng,cyrl,deva,latn,lisu,thai,toto 2c7=bopo,latn 2c9-2cb=bopo,latn 2cd=latn,lisu
  2d7=latn,thai 2d9=bopo,latn 300=cher,copt,cyrl,grek,latn,perm,sunu,tale
  301=cher,cyrl,grek,latn,osge,sunu,tale,todr 302=cher,cyrl,latn,tfng 303=glag,latn,sunu,syrc,thai
  304=aghb,cher,copt,cyrl,goth,grek,latn,osge,syrc,tfng,todr 305=copt,elba,glag,goth,kana,latn
  306=cyrl,grek,latn,perm 307=copt,dupl,hebr,latn,perm,syrc,tale,tfng,todr
  308=armn,cyrl,dupl,goth,grek,hebr,latn,perm,syrc,tale 309=latn,tfng 30a=dupl,latn,syrc
  30b=cher,cyrl,latn,osge 30c=cher,latn,tale 30d=latn,sunu 30e=ethi,latn 310=latn,sunu
  311=cyrl,latn,todr 313=grek,latn,perm,todr 320=latn,syrc 323=cher,dupl,kana,latn,syrc
  324=cher,dupl,latn,syrc 325=latn,syrc 32d=latn,sunu,syrc 32e=latn,syrc 330=cher,latn,syrc
  331=aghb,cher,goth,latn,sunu,thai 342=grek 345=grek 358=latn,osge 35e=aghb,latn,todr
  363-36f=latn 374-375=copt,grek 483=cyrl,perm 484=cyrl,glag 485-486=cyrl,latn 487=cyrl,glag
  589=armn,geor,glag 60c=arab,gara,nkoo,rohg,syrc,thaa,yezi 61b=arab,gara,nkoo,rohg,syrc,thaa,yezi
  61c=arab,syrc,thaa 61f=adlm,arab,gara,nkoo,rohg,syrc,thaa,yezi
  640=adlm,arab,mand,mani,ougr,phlp,rohg,sogd,syrc 64b-655=arab,syrc 660-669=arab,thaa,yezi
  670=arab,syrc 6d4=arab,rohg 951=beng,deva,gran,gujr,guru,knda,latn,mlym,orya,shrd,taml,telu,tirh
  952=beng,deva,gran,gujr,guru,knda,latn,mlym,orya,taml,telu,tirh
  964=beng,deva,dogr,gong,gonm,gran,gujr,guru,knda,mahj,mlym,nand,onao,orya,sind,sinh,sylo,takr,taml,telu,tirh
  965=beng,deva,dogr,gong,gonm,gran,gujr,gukh,guru,knda,limb,mahj,mlym,nand,onao,orya,sind,sinh,sylo,takr,taml,telu,tirh
  966-96f=deva,dogr,kthi,mahj 9e6-9ef=beng,cakm,sylo a66-a6f=guru,mult ae6-aef=gujr,khoj
  be6-bf3=gran,taml ce6-cef=knda,nand,tutg 1040-1049=cakm,mymr,tale 10fb=geor,glag,latn
  16eb-16ed=runr 1735-1736=buhd,hano,tagb,tglg 1802-1803=mong,phag 1805=mong,phag
  1cd0=beng,deva,gran,knda 1cd1=deva 1cd2=beng,deva,gran,knda 1cd3=deva,gran,knda 1cd4=deva
  1cd5-1cd6=beng,deva 1cd7=deva,shrd 1cd8=beng,deva 1cd9=deva,shrd
  1cda=deva,knda,mlym,orya,taml,telu 1cdb=deva 1cdc-1cdd=deva,shrd 1cde-1cdf=deva 1ce0=deva,shrd
  1ce1=beng,deva 1ce2-1ce8=deva 1ce9=deva,nand 1cea=beng,deva 1ceb-1cec=deva 1ced=beng,deva
  1cee-1cf1=deva 1cf2=beng,deva,gran,knda,mlym,nand,orya,sinh,telu,tirh,tutg 1cf3=deva,gran
  1cf4=deva,gran,knda,tutg 1cf5-1cf6=beng,deva 1cf7=beng 1cf8-1cf9=deva,gran 1cfa=nand
  1dc0-1dc1=grek 1df8=cyrl,latn,syrc 1dfa=syrc 202f=latn,mong,phag 204f=adlm,arab
  205a=cari,geor,glag,hung,lyci,orkh 205d=cari,grek,hung,mero 20f0=deva,gran,latn 2e17=copt,latn
  2e30=avst,orkh 2e31=avst,cari,geor,hung,kthi,lydi,samr 2e3c=dupl 2e41=adlm,arab,hung
  2e43=cyrl,glag 2ff0-2fff=hani,tang 3001=bopo,hang,hani,hira,kana,mong,yiii
  3002=bopo,hang,hani,hira,kana,mong,phag,yiii 3003=bopo,hang,hani,hira,kana 3006=hani
  3008-3009=bopo,hang,hani,hira,kana,mong,tibt,yiii
  300a-300b=bopo,hang,hani,hira,kana,lisu,mong,tibt,yiii 300c-3011=bopo,hang,hani,hira,kana,yiii
  3013=bopo,hang,hani,hira,kana 3014-301b=bopo,hang,hani,hira,kana,yiii
  301c-301f=bopo,hang,hani,hira,kana 302a-302d=bopo,hani 3030=bopo,hang,hani,hira,kana
  3031-3035=hira,kana 3037=bopo,hang,hani,hira,kana 303c-303d=hani,hira,kana 303e-303f=hani
  3099-309c=hira,kana 30a0=hira,kana 30fb=bopo,hang,hani,hira,kana,yiii 30fc=hira,kana
  3190-319f=hani 31c0-31e5=hani 31ef=hani,tang 3220-3247=hani 3280-32b0=hani 32c0-32cb=hani
  32ff=hani 3358-3370=hani 337b-337f=hani 33e0-33fe=hani a66f=cyrl,glag a700-a707=hani,latn
  a830-a832=deva,dogr,gujr,guru,khoj,knda,kthi,mahj,mlym,modi,nand,shrd,sind,takr,tirh,tutg
  a833-a835=deva,dogr,gujr,guru,khoj,knda,kthi,mahj,modi,nand,shrd,sind,takr,tirh,tutg
  a836-a837=deva,dogr,gujr,guru,khoj,kthi,mahj,modi,sind,takr,tirh
  a838=deva,dogr,gujr,guru,khoj,kthi,mahj,modi,shrd,sind,takr,tirh
  a839=deva,dogr,gujr,guru,khoj,kthi,mahj,modi,sind,takr,tirh a8f1=beng,deva,tutg a8f3=deva,taml
  a92e=kali,latn,mymr a9cf=bugi,java fd3e-fd3f=arab,nkoo fdf2=arab,thaa fdfd=arab,thaa
  fe45-fe46=bopo,hang,hani,hira,kana ff61-ff65=bopo,hang,hani,hira,kana,yiii ff70=hira,kana
  ff9e-ff9f=hira,kana 10100-10101=cpmn,cprt,linb 10102=cprt,linb 10107-10133=cprt,lina,linb
  10137-1013f=cprt,linb 102e0-102fb=arab,copt 10af2=mani,ougr 11301=gran,taml 11303=gran,taml
  1133b-1133c=gran,taml 11fd0-11fd1=gran,taml 11fd3=gran,taml 1bca0-1bca3=dupl 1d360-1d371=hani
  1f250-1f251=hani").map fun word =>
    let (range, scripts) := cut '=' word
    (.ofWord range, (Text.fields ',' scripts).map String.ofList)

/-- The names of scripts with the codes. -/
def scriptNames : List (String × String) :=
  (words "
  adlam=adlm ahom=ahom anatolianhieroglyphs=hluw arabic=arab armenian=armn avestan=avst
  balinese=bali bamum=bamu bassavah=bass batak=batk bengali=beng bhaiksuki=bhks bopomofo=bopo
  brahmi=brah braille=brai buginese=bugi buhid=buhd canadianaboriginal=cans carian=cari
  caucasianalbanian=aghb chakma=cakm cham=cham cherokee=cher chorasmian=chrs common=zyyy
  coptic=copt cuneiform=xsux cypriot=cprt cyprominoan=cpmn cyrillic=cyrl deseret=dsrt
  devanagari=deva divesakuru=diak dogra=dogr duployan=dupl egyptianhieroglyphs=egyp elbasan=elba
  elymaic=elym ethiopic=ethi garay=gara georgian=geor glagolitic=glag gothic=goth grantha=gran
  greek=grek gujarati=gujr gunjalagondi=gong gurmukhi=guru gurungkhema=gukh han=hani hangul=hang
  hanifirohingya=rohg hanunoo=hano hatran=hatr hebrew=hebr hiragana=hira imperialaramaic=armi
  inherited=zinh inscriptionalpahlavi=phli inscriptionalparthian=prti javanese=java kaithi=kthi
  kannada=knda katakana=kana kawi=kawi kayahli=kali kharoshthi=khar khitansmallscript=kits
  khmer=khmr khojki=khoj khudawadi=sind kiratrai=krai lao=laoo latin=latn lepcha=lepc limbu=limb
  lineara=lina linearb=linb lisu=lisu lycian=lyci lydian=lydi mahajani=mahj makasar=maka
  malayalam=mlym mandaic=mand manichaean=mani marchen=marc masaramgondi=gonm medefaidrin=medf
  meeteimayek=mtei mendekikakui=mend meroiticcursive=merc meroitichieroglyphs=mero miao=plrd
  modi=modi mongolian=mong mro=mroo multani=mult myanmar=mymr nabataean=nbat nagmundari=nagm
  nandinagari=nand newa=newa newtailue=talu nko=nkoo nushu=nshu nyiakengpuachuehmong=hmnp
  ogham=ogam olchiki=olck oldhungarian=hung olditalic=ital oldnortharabian=narb oldpermic=perm
  oldpersian=xpeo oldsogdian=sogo oldsoutharabian=sarb oldturkic=orkh olduyghur=ougr olonal=onao
  oriya=orya osage=osge osmanya=osma pahawhhmong=hmng palmyrene=palm paucinhau=pauc phagspa=phag
  phoenician=phnx psalterpahlavi=phlp qaac=copt qaai=zinh rejang=rjng runic=runr samaritan=samr
  saurashtra=saur sharada=shrd shavian=shaw siddham=sidd signwriting=sgnw sinhala=sinh
  sogdian=sogd sorasompeng=sora soyombo=soyo sundanese=sund sunuwar=sunu sylotinagri=sylo
  syriac=syrc tagalog=tglg tagbanwa=tagb taile=tale taitham=lana taiviet=tavt takri=takr
  tamil=taml tangsa=tnsa tangut=tang telugu=telu thaana=thaa thai=thai tibetan=tibt tifinagh=tfng
  tirhuta=tirh todhri=todr toto=toto tulutigalari=tutg ugaritic=ugar vai=vaii vithkuqi=vith
  wancho=wcho warangciti=wara yezidi=yezi yi=yiii zanabazarsquare=zanb").map fun word =>
    let (name, code) := cut '=' word
    (String.ofList name, String.ofList code)

/-- The code of a script that is given by its code or its name. -/
def scriptCode? (name : String) : Option String :=
  if scriptNames.any (·.2 == name) then some name
  else (scriptNames.find? (·.1 == name)).map Prod.snd

/-- The characters of a script. -/
def script? (name : String) : Option CodeSet :=
  (scriptCode? name).map fun code => withValue scriptRuns [code]

/-- The characters that a script uses. -/
def scriptExtension? (name : String) : Option CodeSet :=
  (scriptCode? name).map fun code =>
    let users := sharedScripts.filter fun entry => entry.2.contains code
    ((withValue scriptRuns [code]).difference (.ofRanges (sharedScripts.map Prod.fst))).union
      (.ofRanges (users.map Prod.fst))

end BuildConfig.Unicode
