import ServiceCall.Text.Table

/-!
# Characters of domain names

What each character of a domain name becomes before anything else is done to the name: itself, other
characters, or nothing; or the character is refused.  Letters become small, and forms that differ in
looks only become one.  The tables are those of UTS #46 for Unicode 18.
-/

namespace ServiceCall.Domain

/-- Rows of four numbers: so many characters from a first one on, a step apart, become characters
a step apart, from the last number on. -/
def shiftedRows : List (List Nat) :=
  Table.rows
   ["192 23 1 224,216 7 1 248,256 24 2 257,313 4 4 314,330 23 2 331,377 3 2 378,416 3 2 417",
    "461 8 2 462,478 9 2 479,500 11 4 501,506 15 4 507,548 4 4 549,582 5 2 583,904 3 1 941",
    "913 17 1 945,931 9 1 963,984 12 2 985,1021 3 1 891,1024 16 1 1104,1040 32 1 1072",
    "1120 17 2 1121,1162 27 2 1163,1217 7 2 1218,1232 48 2 1233,1329 38 1 1377,4256 38 1 11520",
    "5112 6 1 5104,7312 43 1 4304,7357 3 1 4349,7470 5 3 98,7472 4 3 100,7517 3 1 946",
    "7588 3 1 616,7598 4 1 626,7612 3 1 656,7680 75 2 7681,7840 48 2 7841,7944 8 1 7936",
    "7960 6 1 7952,7976 8 1 7968,7992 8 1 7984,8008 6 1 8000,8025 4 2 8017,8040 8 1 8032",
    "8304 3 4 48,8309 3 1 53,8320 10 1 48,8342 4 1 107,8473 3 1 112,8501 4 1 1488,9312 9 1 49",
    "9398 26 1 97,9424 26 1 97,11264 48 1 11312,11367 3 2 11368,11392 50 2 11393,12599 3 1 4355",
    "12602 6 1 4528,12609 3 1 4358,12613 10 1 4361,12623 21 1 4449,12664 5 1 4395",
    "12676 3 1 4439,12899 3 1 4357,12905 5 1 4366,13028 6 1 12490,13038 5 1 12510",
    "13045 6 1 12520,13051 4 1 12527,42560 23 2 42561,42624 14 2 42625,42786 20 4 42787",
    "42788 3 4 42789,42804 15 4 42805,42878 5 2 42879,42896 5 6 42897,42898 4 6 42899",
    "42906 3 6 42907,42932 8 2 42933,42956 8 2 42957,43888 80 1 5024,64292 3 1 1499",
    "64474 3 5 1734,65089 4 1 12300,65281 32 1 33,65313 26 1 97,65339 36 1 91,65413 6 1 12490",
    "65423 5 1 12510,65430 6 1 12520,65447 3 1 4355,65450 6 1 4528,65457 3 1 4358",
    "65461 10 1 4361,65474 6 1 4449,65482 6 1 4455,65490 6 1 4461,65498 3 1 4467,65513 4 1 8592",
    "66560 40 1 66600,66736 36 1 66776,66928 19 2 66967,66929 10 4 66968,66943 3 4 66982",
    "67510 3 1 448,68736 51 1 68800,68944 22 1 68976,71840 32 1 71872,93760 32 1 93792",
    "93856 25 1 93883,117974 26 1 97,118000 10 1 48,119808 26 1 97,119834 26 1 97",
    "119860 26 1 97,119886 13 2 97,119887 7 4 98,119897 4 4 108,119912 26 1 97,119938 26 1 97",
    "119964 4 3 97,119974 6 3 107,119979 4 3 112,119990 6 5 97,119991 4 6 98,119998 3 4 105",
    "120001 3 6 108,120008 3 3 115,120016 26 1 97,120042 26 1 97,120068 9 3 97,120072 4 6 101",
    "120094 26 1 97,120120 5 3 97,120125 4 3 102,120138 7 1 115,120146 26 1 97,120172 26 1 97",
    "120198 26 1 97,120224 26 1 97,120250 26 1 97,120276 26 1 97,120302 26 1 97,120328 26 1 97",
    "120354 26 1 97,120380 26 1 97,120406 26 1 97,120432 26 1 97,120458 26 1 97,120488 17 1 945",
    "120506 7 1 963,120514 17 1 945,120532 7 1 963,120546 17 1 945,120564 7 1 963",
    "120572 17 1 945,120590 7 1 963,120604 17 1 945,120622 7 1 963,120630 17 1 945",
    "120648 7 1 963,120662 17 1 945,120680 7 1 963,120688 17 1 945,120706 7 1 963",
    "120720 17 1 945,120738 7 1 963,120746 17 1 945,120764 7 1 963,120782 10 1 48",
    "120792 10 1 48,120802 10 1 48,120812 10 1 48,120822 10 1 48,122928 9 1 1072",
    "122937 3 1 1082,122940 11 1 1086,122961 9 1 1072,122975 6 1 1091,125184 34 1 125218",
    "126474 4 1 1603,126506 4 1 1603,126603 3 1 1604,126635 3 1 1604,127280 26 1 97",
    "130032 10 1 48"]

/-- A character, and one character for it and for each of those that follow it. -/
def replacedRows : List (List Nat) :=
  Table.rows
   ["160 32,170 97,178 50 51,181 956,185 49 111,308 309,310 311,315 316,323 324,327 328,376 255",
    "383 115,385 595 387,388 389,390 596 392,393 598 599 396,398 477 601 603 402,403 608 611",
    "406 617 616 409,412 623 626,415 629,422 640 424,425 643,428 429,430 648 432",
    "433 650 651 436,437 438,439 658 441,444 445,502 405 447,544 414,570 11365 572",
    "573 410 11366,577 578,579 384 649 652,688 104 614 106 114 633 635 641 119 121",
    "736 611 108 115 120 661,832 768 769,835 787,837 953,880 881,882 883,884 697,886 887",
    "894 59 1011,902 940 183,908 972,910 973 974,975 983 946 952 965 973 971 966 960",
    "1008 954 961 963,1012 952 949,1015 1016,1017 963 1019,1216 1231,1368 1383,1419 1387 1397",
    "3852 3851,4295 11559,4301 11565,4348 4316",
    "7296 1074 1076 1086 1089 1090 1090 1098 1123 42571 7306,7468 97 230,7474 477,7477 105",
    "7480 108,7484 111 547 112 114 116 117 119 97 592 593 7426 98,7496 100 101 601 603 604 103",
    "7503 107 109 331 111 596 7446 7447 112 116 117 7453 623,7515 118 7461",
    "7520 966 967 105 114 117 118 946 947 961 966 967,7544 1085",
    "7579 594 99 597 240 604 102 607 609 613,7591 7547 669 621 7557 671 625 624",
    "7602 632 642 643 427 649 650 7452 651 652 122,7615 952,7835 7777,7838 223,8049 940",
    "8051 941,8053 942,8055 943,8057 972,8059 973,8061 974,8120 8112 8113 8048 940,8126 953",
    "8136 8050 941 8052 942,8147 912,8152 8144 8145 8054 943,8163 944",
    "8168 8160 8161 8058 973 8165,8175 96,8184 8056 972 8060 974",
    "8192 32 32 32 32 32 32 32 32 32 32 32,8209 8208,8239 32,8287 32,8305 105",
    "8313 57 43 8722 61 40 41 110,8330 43 8722 61 40 41,8336 97 101 111 120 601 104",
    "8346 112 115 116,8450 99,8455 603,8458 103 104 104 104 104 295 105 105 108 108,8469 110",
    "8476 114 114,8484 122,8486 969,8488 122,8490 107 229 98 99,8495 101 101 102 8526 109 111",
    "8505 105,8508 960 947 947 960 8721,8517 100 100 101 105 106,8544 105,8548 118,8553 120",
    "8556 108 99 100 109 105,8564 118,8569 120,8572 108 99 100 109,8579 8580,9001 12296 12297",
    "9450 48,11360 11361,11362 619 7549 637,11373 593 625 592 594,11378 11379,11381 11382",
    "11388 106 118 575 576,11499 11500,11501 11502,11506 11507,11631 11617,11935 27597",
    "12019 40863,12032 19968 20008 20022 20031 20057 20101 20108 20128 20154 20799 20837 20843",
    "12044 20866 20886 20907 20960 20981 20992 21147 21241 21269 21274 21304 21313",
    "12056 21340 21353 21378 21430 21448 21475 22231 22303 22763 22786 22794 22805",
    "12068 22823 22899 23376 23424 23544 23567 23586 23608 23662 23665 24027 24037",
    "12080 24049 24062 24178 24186 24191 24308 24318 24331 24339 24400 24417 24435",
    "12092 24515 25096 25142 25163 25903 25908 25991 26007 26020 26041 26080 26085",
    "12104 26352 26376 26408 27424 27490 27513 27571 27595 27604 27611 27663 27668",
    "12116 27700 28779 29226 29238 29243 29247 29255 29273 29275 29356 29572 29577",
    "12128 29916 29926 29976 29983 29992 30000 30091 30098 30326 30333 30382 30399",
    "12140 30446 30683 30690 30707 31034 31160 31166 31348 31435 31481 31859 31992",
    "12152 32566 32593 32650 32701 32769 32780 32786 32819 32895 32905 33251 33258",
    "12164 33267 33276 33292 33307 33311 33390 33394 33400 34381 34411 34880 34892",
    "12176 34915 35198 35211 35282 35328 35895 35910 35925 35960 35997 36196 36208",
    "12188 36275 36523 36554 36763 36784 36789 37009 37193 37318 37324 37329 38263",
    "12200 38272 38428 38582 38585 38632 38737 38750 38754 38761 38859 38893 38899",
    "12212 38913 39080 39131 39135 39318 39321 39340 39592 39640 39647 39717 39727",
    "12224 39730 39740 39770 40165 40565 40575 40613 40635 40643 40653 40657 40697",
    "12236 40701 40718 40723 40736 40763 40778 40786 40845 40860 40864,12288 32,12290 46",
    "12342 12306,12344 21313 21316 21317,12593 4352 4353 4522 4354 4524 4525,12608 4378",
    "12612 4385,12645 4372 4373 4551 4552 4556 4558 4563 4567 4569 4380 4573 4575",
    "12657 4381 4382 4384 4386 4387 4391 4393,12669 4402 4406 4416 4423 4428 4593 4594",
    "12679 4484 4485 4488 4497 4498 4500 4510 4513",
    "12690 19968 20108 19977 22235 19978 20013 19979 30002 20057 19993 19969 22825",
    "12702 22320 20154,12868 21839 24188 25991 31631,12896 4352 4354 4355,12902 4361 4363 4364",
    "12910 44032 45208 45796 46972 47560 48148 49324 50500 51088 52264 52852 53440",
    "12922 54028 54616,12926 50864",
    "12928 19968 20108 19977 22235 20116 20845 19971 20843 20061 21313 26376 28779",
    "12940 27700 26408 37329 22303 26085 26666 26377 31038 21517 29305 36001 31069",
    "12952 21172 31192 30007 22899 36969 20778 21360 27880 38917 20241 20889 27491",
    "12964 19978 20013 19979 24038 21491 21307 23447 23398 30435 20225 36039 21332,12976 22812",
    "13008 12450 12452 12454 12456 12458 12459 12461 12463 12465 12467 12469 12471",
    "13020 12473 12475 12477 12479 12481 12484 12486 12488,13034 12498 12501 12504 12507",
    "13043 12516 12518,42652 1098 1100,42864 42863,42873 42874,42875 42876,42877 7545",
    "42891 42892,42893 613,42922 614 604 609 620 618,42928 670 647 669 43859",
    "42948 42900 642 7566 42952,42953 42954,42955 612,42972 411 631,42978 636",
    "42993 115 99 102 113 42998,43000 295 339,43868 42791 43831 619 43858,43881 653,43884 43851",
    "63744 35912 26356 36554 36040 28369 20018 21477 40860 40860 22865 37329 21895",
    "63756 22856 25078 30313 32645 34367 34746 35064 37007 27138 27931 28889 29662",
    "63768 33853 37226 39409 20098 21365 27396 29211 34349 40478 23888 28651 34253",
    "63780 35172 25289 33240 34847 24266 26391 28010 29436 37070 20358 20919 21214",
    "63792 25796 27347 29200 30439 32769 34310 34396 36335 38706 39791 40442 30860",
    "63804 31103 32160 33737 37636 40575 35542 22751 24324 31840 32894 29282 30922",
    "63816 36034 38647 22744 23650 27155 28122 28431 32047 32311 38475 21202 32907",
    "63828 20956 20940 31260 32190 33777 38517 35712 25295 27138 35582 20025 23527",
    "63840 24594 29575 30064 21271 30971 20415 24489 19981 27852 25976 32034 21443",
    "63852 22622 30465 33865 35498 27578 36784 27784 25342 33509 25504 30053 20142",
    "63864 20841 20937 26753 31975 33391 35538 37327 21237 21570 22899 24300 26053",
    "63876 28670 31018 38317 39530 40599 40654 21147 26310 27511 36706 24180 24976",
    "63888 25088 25754 28451 29001 29833 31178 32244 32879 36646 34030 36899 37706",
    "63900 21015 21155 21693 28872 35010 35498 24265 24565 25467 27566 31806 29557",
    "63912 20196 22265 23527 23994 24604 29618 29801 32666 32838 37428 38646 38728",
    "63924 38936 20363 31150 37300 38584 24801 20102 20698 23534 23615 26009 27138",
    "63936 29134 30274 34044 36988 40845 26248 38446 21129 26491 26611 27969 28316",
    "63948 29705 30041 30827 32016 39006 20845 25134 38520 20523 23833 28138 36650",
    "63960 24459 24900 26647 29575 38534 21033 21519 23653 26131 26446 26792 27877",
    "63972 29702 30178 32633 35023 35041 37324 38626 21311 28346 21533 29136 29848",
    "63984 34298 38563 40023 40607 26519 28107 33256 31435 31520 31890 29376 28825",
    "63996 35672 20160 33590 21050 20999 24230 25299 31958 23429 27934 26292 36667",
    "64008 34892 38477 35211 24275 20800 21952,64016 22618,64018 26228",
    "64021 20958 29482 30410 31036 31070 31077 31119 38742 31934 32701,64032 34322,64034 35576",
    "64037 36920 37117",
    "64042 39151 39164 39208 40372 37086 38583 20398 20711 20813 21193 21220 21329",
    "64054 21917 22022 22120 22592 22696 23652 23662 24724 24936 24974 25074 25935",
    "64066 26082 26257 26757 28023 28186 28450 29038 29227 29730 30865 31038 31049",
    "64078 31048 31056 31062 31069 31117 31118 31296 31361 31680 32244 32265 32321",
    "64090 32626 32773 33261 33401 33401 33879 35088 35222 35585 35641 36051 36104",
    "64102 36790 36920 38627 38911 38971 24693 148206 33304",
    "64112 20006 20917 20840 20352 20805 20864 21191 21242 21917 21845 21913 21986",
    "64124 22618 22707 22852 22868 23138 23336 24274 24281 24425 24493 24792 24910",
    "64136 24840 24974 24928 25074 25140 25540 25628 25682 25942 26228 26391 26395",
    "64148 26454 27513 27578 27969 28379 28363 28450 28702 29038 30631 29237 29359",
    "64160 29482 29809 29958 30011 30237 30239 30410 30427 30452 30538 30528 30924",
    "64172 31409 31680 31867 32091 32244 32574 32773 33618 33775 34681 35137 35206",
    "64184 35222 35519 35576 35531 35585 35582 35565 35641 35722 36104 36664 36978",
    "64196 37273 37494 38524 38627 38742 38875 38911 38923 38971 39698 40860 141386",
    "64208 141380 144341 15261 16408 16441 152137 154832 163539 40771 40846",
    "64288 1506 1488 1491 1492,64295 1512 1514 43",
    "64336 1649 1649 1659 1659 1659 1659 1662 1662 1662 1662 1664 1664",
    "64348 1664 1664 1658 1658 1658 1658 1663 1663 1663 1663 1657 1657",
    "64360 1657 1657 1700 1700 1700 1700 1702 1702 1702 1702 1668 1668",
    "64372 1668 1668 1667 1667 1667 1667 1670 1670 1670 1670 1671 1671",
    "64384 1671 1671 1677 1677 1676 1676 1678 1678 1672 1672 1688 1688",
    "64396 1681 1681 1705 1705 1705 1705 1711 1711 1711 1711 1715 1715",
    "64408 1715 1715 1713 1713 1713 1713 1722 1722 1723 1723 1723 1723",
    "64420 1728 1728 1729 1729 1729 1729 1726 1726 1726 1726 1746 1746,64432 1747 1747",
    "64467 1709 1709 1709 1709 1735 1735 1734,64475 1736 1736,64478 1739",
    "64480 1733 1733 1737 1737,64485 1744 1744 1744 1609 1609,64508 1740 1740 1740 1740",
    "65040 44 12289,65043 58 59 33 63 12310 12311",
    "65073 8212 8211 95 95 40 41 123 125 12308 12309 12304 12305,65085 12298 12299 12296 12297",
    "65095 91 93,65101 95 95 95 44 12289,65108 59 58 63 33 8212 40 41 123 125 12308 12309 35",
    "65120 38 42 43 45 60 62 61,65128 92 36 37 64",
    "65152 1569 1570 1570 1571 1571 1572 1572 1573 1573 1574 1574 1574",
    "65164 1574 1575 1575 1576 1576 1576 1576 1577 1577 1578 1578 1578",
    "65176 1578 1579 1579 1579 1579 1580 1580 1580 1580 1581 1581 1581",
    "65188 1581 1582 1582 1582 1582 1583 1583 1584 1584 1585 1585 1586",
    "65200 1586 1587 1587 1587 1587 1588 1588 1588 1588 1589 1589 1589",
    "65212 1589 1590 1590 1590 1590 1591 1591 1591 1591 1592 1592 1592",
    "65224 1592 1593 1593 1593 1593 1594 1594 1594 1594 1601 1601 1601",
    "65236 1601 1602 1602 1602 1602 1603 1603 1603 1603 1604 1604 1604",
    "65248 1604 1605 1605 1605 1605 1606 1606 1606 1606 1607 1607 1607",
    "65260 1607 1608 1608 1609 1609 1610 1610 1610 1610",
    "65375 10629 10630 46 12300 12301 12289 12539 12530 12449 12451 12453 12455",
    "65387 12457 12515 12517 12519 12483 12540 12450 12452 12454 12456 12458 12459",
    "65399 12461 12463 12465 12467 12469 12471 12473 12475 12477 12479 12481 12484",
    "65411 12486 12488,65419 12498 12501 12504 12507,65428 12516 12518",
    "65436 12527 12531 12441 12442,65441 4352 4353 4522 4354 4524 4525,65456 4378,65460 4385",
    "65504 162 163 172,65508 166 165 8361,65512 9474,65517 9632 9675,66931 66970,66935 66974",
    "66959 66998,67457 720 721 230 665 595",
    "67463 675 43878 677 676 598 599 7569 600 606 681 612 610",
    "67475 608 667 295 668 615 644 682 683 620 122628 42894 622",
    "67487 122629 654 122630 248 630 631 113 634 122632 637 638 640",
    "67499 680 678 43879 679 648 11377,67506 655 673 674 664,67513 122634 122654 647,119889 100",
    "119966 99,119978 111,119984 117,119987 120,119992 99 100,119999 106,120012 119,120069 98",
    "120073 102,120079 108,120081 110 111,120087 116 117,120091 120,120121 98,120124 101",
    "120130 107,120484 305 567,120505 952,120513 8711,120531 963",
    "120539 8706 949 952 954 966 961 960,120563 952,120571 8711,120589 963",
    "120597 8706 949 952 954 966 961 960,120621 952,120629 8711,120647 963",
    "120655 8706 949 952 954 966 961 960,120679 952,120687 8711,120705 963",
    "120713 8706 949 952 954 966 961 960,120737 952,120745 8711,120763 963",
    "120771 8706 949 952 954 966 961 960 989 989",
    "122951 1099 1101 1102 42633 1241 1110 1112 1257 1199 1231,122970 1082 1083 1086 1087 1089",
    "122981 1098 1099 1169 1110 1109 1119 1195 42577 1201,126464 1575 1576 1580 1583",
    "126469 1608 1586 1581 1591 1610",
    "126478 1587 1593 1601 1589 1602 1585 1588 1578 1579 1582 1584 1590",
    "126490 1592 1594 1646 1722 1697 1647,126497 1576 1580,126500 1607,126503 1581,126505 1610",
    "126510 1587 1593 1601 1589 1602,126516 1588 1578 1579 1582,126521 1590,126523 1594",
    "126530 1580,126535 1581,126537 1610,126539 1604,126541 1606 1587 1593,126545 1589 1602",
    "126548 1588,126551 1582,126553 1590,126555 1594,126557 1722,126559 1647,126561 1576 1580",
    "126564 1607,126567 1581 1591 1610 1603,126572 1605 1606 1587 1593 1601 1589 1602",
    "126580 1588 1578 1579 1582,126585 1590 1592 1594 1646,126590 1697",
    "126592 1575 1576 1580 1583 1607 1608 1586 1581 1591 1610",
    "126606 1587 1593 1601 1589 1602 1585 1588 1578 1579 1582 1584 1590,126618 1592 1594",
    "126625 1576 1580 1583,126629 1608 1586 1581 1591 1610",
    "126638 1587 1593 1601 1589 1602 1585 1588 1578 1579 1582 1584 1590,126650 1592 1594",
    "127275 99 114,127490 12469",
    "127504 25163 23383 21452 12487 20108 22810 35299 22825 20132 26144 28961 26009",
    "127516 21069 24460 20877 26032 21021 32066 29983 36009 22768 21561 28436 25237",
    "127528 25429 19968 19977 36938 24038 20013 21491 25351 36208 25171 31105 31354",
    "127540 21512 28288 26377 26376 30003 21106 21942 37197,127568 24471 21487",
    "194560 20029 20024 20033 131362 20320 20398 20411 20482 20602 20633 20711 20687",
    "194572 13470 132666 20813 20820 20836 20855 132380 13497 20839 20877 132427 20887",
    "194584 20900 20172 20908 20917 168415 20981 20995 13535 21051 21062 21106 21111",
    "194596 13589 21191 21193 21220 21242 21253 21254 21271 21321 21329 21338 21363",
    "194608 21373 21375 21375 21375 133676 28784 21450 21471 133987 21483 21489 21510",
    "194620 21662 21560 21576 21608 21666 21750 21776 21843 21859 21892 21892 21913",
    "194632 21931 21939 21954 22294 22022 22295 22097 22132 20999 22766 22478 22516",
    "194644 22541 22411 22578 22577 22700 136420 22770 22775 22790 22810 22818 22882",
    "194656 136872 136938 23020 23067 23079 23000 23142 14062 14076 23304 23358 23358",
    "194668 137672 23491 23512 23527 23539 138008 23551 23558 24403 23586 14209 23648",
    "194680 23662 23744 23693 138724 23875 138726 23918 23915 23932 24033 24034 14383",
    "194692 24061 24104 24125 24169 14434 139651 14460 24240 24243 24246 24266 172946",
    "194704 24318 140081 140081 33281 24354 24354 14535 144056 156122 24418 24427 14563",
    "194716 24474 24525 24535 24569 24705 14650 14620 24724 141012 24775 24904 24908",
    "194728 24910 24908 24954 24974 25010 24996 25007 25054 25074 25078 25104 25115",
    "194740 25181 25265 25300 25424 142092 25405 25340 25448 25475 25572 142321 25634",
    "194752 25541 25513 14894 25705 25726 25757 25719 14956 25935 25964 143370 26083",
    "194764 26360 26185 15129 26257 15112 15076 20882 20885 26368 26268 32941 17369",
    "194776 26391 26395 26401 26462 26451 144323 15177 26618 26501 26706 26757 144493",
    "194788 26766 26655 26900 15261 26946 27043 27114 27304 145059 27355 15384 27425",
    "194800 145575 27476 15438 27506 27551 27578 27579 146061 138507 146170 27726 146620",
    "194812 27839 27853 27751 27926 27966 28023 27969 28009 28024 28037 146718 27956",
    "194824 28207 28270 15667 28363 28359 147153 28153 28526 147294 147342 28614 28729",
    "194836 28702 28699 15766 28746 28797 28791 28845 132389 28997 148067 29084 148395",
    "194848 29224 29237 29264 149000 29312 29333 149301 149524 29562 29579 16044 29605",
    "194860 16056 16056 29767 29788 29809 29829 29898 16155 29988 150582 30014 150674",
    "194872 30064 139679 30224 151457 151480 151620 16380 16392 30452 151795 151794 151833",
    "194884 151859 30494 30495 30495 30538 16441 30603 16454 16534 152605 30798 30860",
    "194896 30924 16611 153126 31062 153242 153285 31119 31211 16687 31296 31306 31311",
    "194908 153980 154279 154279 31470 16898 154539 31686 31689 16935 154752 31954 17056",
    "194920 31976 31971 32000 155526 32099 17153 32199 32258 32325 17204 156200 156231",
    "194932 17241 156377 32634 156478 32661 32762 32773 156890 156963 32864 157096 32880",
    "194944 144223 17365 32946 33027 17419 33086 23221 157607 157621 144275 144284 33281",
    "194956 33284 36766 17515 33425 33419 33437 21171 33457 33459 33469 33510 158524",
    "194968 33509 33565 33635 33709 33571 33725 33767 33879 33619 33738 33740 33756",
    "194980 158774 159083 158933 17707 34033 34035 34070 160714 34148 159532 17757 17761",
    "194992 159665 159954 17771 34384 34396 34407 34409 34473 34440 34574 34530 34681",
    "195004 34600 34667 34694 17879 34785 34817 17913 34912 34915 161383 35031 35038",
    "195016 17973 35066 13499 161966 162150 18110 18119 35488 35565 35722 35925 162984",
    "195028 36011 36033 36123 36215 163631 133124 36299 36284 36336 133342 36564 36664",
    "195040 165330 165357 37012 37105 37137 165678 37147 37432 37591 37592 37500 37881",
    "195052 37909 166906 38283 18837 38327 167287 18918 38595 23986 38691 168261 168474",
    "195064 19054 19062 38880 168970 19122 169110 38923 38923 38953 169398 39138 19251",
    "195076 39209 39335 39362 39422 19406 170800 39698 40000 40189 19662 19693 40295",
    "195088 172238 19704 172293 172558 172689 40635 19798 40697 40702 40709 40719 40726",
    "195100 40763 173568"]

/-- A character and the characters that it becomes. -/
def spelledRows : List (List Nat) :=
  Table.rows
   ["168 32 776,175 32 772,180 32 769,184 32 807,188 49 8260 52,189 49 8260 50,190 51 8260 52",
    "304 105 775,306 105 106,307 105 106,319 108 183,320 108 183,329 700 110,452 100 382",
    "453 100 382,454 100 382,455 108 106,456 108 106,457 108 106,458 110 106,459 110 106",
    "460 110 106,497 100 122,498 100 122,499 100 122,728 32 774,729 32 775,730 32 778",
    "731 32 808,732 32 771,733 32 779,836 776 769,890 32 953,900 32 769,901 32 776 769",
    "1415 1381 1410,1653 1575 1652,1654 1608 1652,1655 1735 1652,1656 1610 1652,2392 2325 2364",
    "2393 2326 2364,2394 2327 2364,2395 2332 2364,2396 2337 2364,2397 2338 2364,2398 2347 2364",
    "2399 2351 2364,2524 2465 2492,2525 2466 2492,2527 2479 2492,2611 2610 2620,2614 2616 2620",
    "2649 2582 2620,2650 2583 2620,2651 2588 2620,2654 2603 2620,2908 2849 2876,2909 2850 2876",
    "3635 3661 3634,3763 3789 3762,3804 3755 3737,3805 3755 3745,3907 3906 4023,3917 3916 4023",
    "3922 3921 4023,3927 3926 4023,3932 3931 4023,3945 3904 4021,3955 3953 3954,3957 3953 3956",
    "3958 4018 3968,3959 4018 3953 3968,3960 4019 3968,3961 4019 3953 3968,3969 3953 3968",
    "3987 3986 4023,3997 3996 4023,4002 4001 4023,4007 4006 4023,4012 4011 4023,4025 3984 4021",
    "7834 97 702,8064 7936 953,8065 7937 953,8066 7938 953,8067 7939 953,8068 7940 953",
    "8069 7941 953,8070 7942 953,8071 7943 953,8072 7936 953,8073 7937 953,8074 7938 953",
    "8075 7939 953,8076 7940 953,8077 7941 953,8078 7942 953,8079 7943 953,8080 7968 953",
    "8081 7969 953,8082 7970 953,8083 7971 953,8084 7972 953,8085 7973 953,8086 7974 953",
    "8087 7975 953,8088 7968 953,8089 7969 953,8090 7970 953,8091 7971 953,8092 7972 953",
    "8093 7973 953,8094 7974 953,8095 7975 953,8096 8032 953,8097 8033 953,8098 8034 953",
    "8099 8035 953,8100 8036 953,8101 8037 953,8102 8038 953,8103 8039 953,8104 8032 953",
    "8105 8033 953,8106 8034 953,8107 8035 953,8108 8036 953,8109 8037 953,8110 8038 953",
    "8111 8039 953,8114 8048 953,8115 945 953,8116 940 953,8119 8118 953,8124 945 953",
    "8125 32 787,8127 32 787,8128 32 834,8129 32 776 834,8130 8052 953,8131 951 953",
    "8132 942 953,8135 8134 953,8140 951 953,8141 32 787 768,8142 32 787 769,8143 32 787 834",
    "8157 32 788 768,8158 32 788 769,8159 32 788 834,8173 32 776 768,8174 32 776 769",
    "8178 8060 953,8179 969 953,8180 974 953,8183 8182 953,8188 969 953,8189 32 769,8190 32 788",
    "8215 32 819,8243 8242 8242,8244 8242 8242 8242,8246 8245 8245,8247 8245 8245 8245",
    "8252 33 33,8254 32 773,8263 63 63,8264 63 33,8265 33 63,8279 8242 8242 8242 8242",
    "8360 114 115,8448 97 47 99,8449 97 47 115,8451 176 99,8453 99 47 111,8454 99 47 117",
    "8457 176 102,8470 110 111,8480 115 109,8481 116 101 108,8482 116 109,8507 102 97 120",
    "8528 49 8260 55,8529 49 8260 57,8530 49 8260 49 48,8531 49 8260 51,8532 50 8260 51",
    "8533 49 8260 53,8534 50 8260 53,8535 51 8260 53,8536 52 8260 53,8537 49 8260 54",
    "8538 53 8260 54,8539 49 8260 56,8540 51 8260 56,8541 53 8260 56,8542 55 8260 56",
    "8543 49 8260,8545 105 105,8546 105 105 105,8547 105 118,8549 118 105,8550 118 105 105",
    "8551 118 105 105 105,8552 105 120,8554 120 105,8555 120 105 105,8561 105 105",
    "8562 105 105 105,8563 105 118,8565 118 105,8566 118 105 105,8567 118 105 105 105",
    "8568 105 120,8570 120 105,8571 120 105 105,8585 48 8260 51,8748 8747 8747",
    "8749 8747 8747 8747,8751 8750 8750,8752 8750 8750 8750,9321 49 48,9322 49 49,9323 49 50",
    "9324 49 51,9325 49 52,9326 49 53,9327 49 54,9328 49 55,9329 49 56,9330 49 57,9331 50 48",
    "9332 40 49 41,9333 40 50 41,9334 40 51 41,9335 40 52 41,9336 40 53 41,9337 40 54 41",
    "9338 40 55 41,9339 40 56 41,9340 40 57 41,9341 40 49 48 41,9342 40 49 49 41",
    "9343 40 49 50 41,9344 40 49 51 41,9345 40 49 52 41,9346 40 49 53 41,9347 40 49 54 41",
    "9348 40 49 55 41,9349 40 49 56 41,9350 40 49 57 41,9351 40 50 48 41,9372 40 97 41",
    "9373 40 98 41,9374 40 99 41,9375 40 100 41,9376 40 101 41,9377 40 102 41,9378 40 103 41",
    "9379 40 104 41,9380 40 105 41,9381 40 106 41,9382 40 107 41,9383 40 108 41,9384 40 109 41",
    "9385 40 110 41,9386 40 111 41,9387 40 112 41,9388 40 113 41,9389 40 114 41,9390 40 115 41",
    "9391 40 116 41,9392 40 117 41,9393 40 118 41,9394 40 119 41,9395 40 120 41,9396 40 121 41",
    "9397 40 122 41,10764 8747 8747 8747 8747,10868 58 58 61,10869 61 61,10870 61 61 61",
    "10972 10973 824,12443 32 12441,12444 32 12442,12447 12424 12426,12543 12467 12488",
    "12800 40 4352 41,12801 40 4354 41,12802 40 4355 41,12803 40 4357 41,12804 40 4358 41",
    "12805 40 4359 41,12806 40 4361 41,12807 40 4363 41,12808 40 4364 41,12809 40 4366 41",
    "12810 40 4367 41,12811 40 4368 41,12812 40 4369 41,12813 40 4370 41,12814 40 44032 41",
    "12815 40 45208 41,12816 40 45796 41,12817 40 46972 41,12818 40 47560 41,12819 40 48148 41",
    "12820 40 49324 41,12821 40 50500 41,12822 40 51088 41,12823 40 52264 41,12824 40 52852 41",
    "12825 40 53440 41,12826 40 54028 41,12827 40 54616 41,12828 40 51452 41",
    "12829 40 50724 51204 41,12830 40 50724 54980 41,12832 40 19968 41,12833 40 20108 41",
    "12834 40 19977 41,12835 40 22235 41,12836 40 20116 41,12837 40 20845 41,12838 40 19971 41",
    "12839 40 20843 41,12840 40 20061 41,12841 40 21313 41,12842 40 26376 41,12843 40 28779 41",
    "12844 40 27700 41,12845 40 26408 41,12846 40 37329 41,12847 40 22303 41,12848 40 26085 41",
    "12849 40 26666 41,12850 40 26377 41,12851 40 31038 41,12852 40 21517 41,12853 40 29305 41",
    "12854 40 36001 41,12855 40 31069 41,12856 40 21172 41,12857 40 20195 41,12858 40 21628 41",
    "12859 40 23398 41,12860 40 30435 41,12861 40 20225 41,12862 40 36039 41,12863 40 21332 41",
    "12864 40 31085 41,12865 40 20241 41,12866 40 33258 41,12867 40 33267 41,12880 112 116 101",
    "12881 50 49,12882 50 50,12883 50 51,12884 50 52,12885 50 53,12886 50 54,12887 50 55",
    "12888 50 56,12889 50 57,12890 51 48,12891 51 49,12892 51 50,12893 51 51,12894 51 52",
    "12895 51 53,12924 52280 44256,12925 51452 51032,12977 51 54,12978 51 55,12979 51 56",
    "12980 51 57,12981 52 48,12982 52 49,12983 52 50,12984 52 51,12985 52 52,12986 52 53",
    "12987 52 54,12988 52 55,12989 52 56,12990 52 57,12991 53 48,12992 49 26376,12993 50 26376",
    "12994 51 26376,12995 52 26376,12996 53 26376,12997 54 26376,12998 55 26376,12999 56 26376",
    "13000 57 26376,13001 49 48 26376,13002 49 49 26376,13003 49 50 26376,13004 104 103",
    "13005 101 114 103,13006 101 118,13007 108 116 100,13055 20196 21644",
    "13056 12450 12497 12540 12488,13057 12450 12523 12501 12449,13058 12450 12531 12506 12450",
    "13059 12450 12540 12523,13060 12452 12491 12531 12464,13061 12452 12531 12481",
    "13062 12454 12457 12531,13063 12456 12473 12463 12540 12489,13064 12456 12540 12459 12540",
    "13065 12458 12531 12473,13066 12458 12540 12512,13067 12459 12452 12522",
    "13068 12459 12521 12483 12488,13069 12459 12525 12522 12540,13070 12460 12525 12531",
    "13071 12460 12531 12510,13072 12462 12460,13073 12462 12491 12540",
    "13074 12461 12517 12522 12540,13075 12462 12523 12480 12540,13076 12461 12525",
    "13077 12461 12525 12464 12521 12512,13078 12461 12525 12513 12540 12488 12523",
    "13079 12461 12525 12527 12483 12488,13080 12464 12521 12512",
    "13081 12464 12521 12512 12488 12531,13082 12463 12523 12476 12452 12525",
    "13083 12463 12525 12540 12493,13084 12465 12540 12473,13085 12467 12523 12490",
    "13086 12467 12540 12509,13087 12469 12452 12463 12523,13088 12469 12531 12481 12540 12512",
    "13089 12471 12522 12531 12464,13090 12475 12531 12481,13091 12475 12531 12488",
    "13092 12480 12540 12473,13093 12487 12471,13094 12489 12523,13095 12488 12531",
    "13096 12490 12494,13097 12494 12483 12488,13098 12495 12452 12484",
    "13099 12497 12540 12475 12531 12488,13100 12497 12540 12484,13101 12496 12540 12524 12523",
    "13102 12500 12450 12473 12488 12523,13103 12500 12463 12523,13104 12500 12467",
    "13105 12499 12523,13106 12501 12449 12521 12483 12489,13107 12501 12451 12540 12488",
    "13108 12502 12483 12471 12455 12523,13109 12501 12521 12531",
    "13110 12504 12463 12479 12540 12523,13111 12506 12477,13112 12506 12491 12498",
    "13113 12504 12523 12484,13114 12506 12531 12473,13115 12506 12540 12472",
    "13116 12505 12540 12479,13117 12509 12452 12531 12488,13118 12508 12523 12488",
    "13119 12507 12531,13120 12509 12531 12489,13121 12507 12540 12523,13122 12507 12540 12531",
    "13123 12510 12452 12463 12525,13124 12510 12452 12523,13125 12510 12483 12495",
    "13126 12510 12523 12463,13127 12510 12531 12471 12519 12531,13128 12511 12463 12525 12531",
    "13129 12511 12522,13130 12511 12522 12496 12540 12523,13131 12513 12460",
    "13132 12513 12460 12488 12531,13133 12513 12540 12488 12523,13134 12516 12540 12489",
    "13135 12516 12540 12523,13136 12518 12450 12531,13137 12522 12483 12488 12523",
    "13138 12522 12521,13139 12523 12500 12540,13140 12523 12540 12502 12523,13141 12524 12512",
    "13142 12524 12531 12488 12466 12531,13143 12527 12483 12488,13144 48 28857,13145 49 28857",
    "13146 50 28857,13147 51 28857,13148 52 28857,13149 53 28857,13150 54 28857,13151 55 28857",
    "13152 56 28857,13153 57 28857,13154 49 48 28857,13155 49 49 28857,13156 49 50 28857",
    "13157 49 51 28857,13158 49 52 28857,13159 49 53 28857,13160 49 54 28857,13161 49 55 28857",
    "13162 49 56 28857,13163 49 57 28857,13164 50 48 28857,13165 50 49 28857,13166 50 50 28857",
    "13167 50 51 28857,13168 50 52 28857,13169 104 112 97,13170 100 97,13171 97 117",
    "13172 98 97 114,13173 111 118,13174 112 99,13175 100 109,13176 100 109 50,13177 100 109 51",
    "13178 105 117,13179 24179 25104,13180 26157 21644,13181 22823 27491,13182 26126 27835",
    "13183 26666 24335 20250 31038,13184 112 97,13185 110 97,13186 956 97,13187 109 97",
    "13188 107 97,13189 107 98,13190 109 98,13191 103 98,13192 99 97 108,13193 107 99 97 108",
    "13194 112 102,13195 110 102,13196 956 102,13197 956 103,13198 109 103,13199 107 103",
    "13200 104 122,13201 107 104 122,13202 109 104 122,13203 103 104 122,13204 116 104 122",
    "13205 956 108,13206 109 108,13207 100 108,13208 107 108,13209 102 109,13210 110 109",
    "13211 956 109,13212 109 109,13213 99 109,13214 107 109,13215 109 109 50,13216 99 109 50",
    "13217 109 50,13218 107 109 50,13219 109 109 51,13220 99 109 51,13221 109 51",
    "13222 107 109 51,13223 109 8725 115,13224 109 8725 115 50,13225 112 97,13226 107 112 97",
    "13227 109 112 97,13228 103 112 97,13229 114 97 100,13230 114 97 100 8725 115",
    "13231 114 97 100 8725 115 50,13232 112 115,13233 110 115,13234 956 115,13235 109 115",
    "13236 112 118,13237 110 118,13238 956 118,13239 109 118,13240 107 118,13241 109 118",
    "13242 112 119,13243 110 119,13244 956 119,13245 109 119,13246 107 119,13247 109 119",
    "13248 107 969,13249 109 969,13251 98 113,13252 99 99,13253 99 100,13254 99 8725 107 103",
    "13256 100 98,13257 103 121,13258 104 97,13259 104 112,13260 105 110,13261 107 107",
    "13262 107 109,13263 107 116,13264 108 109,13265 108 110,13266 108 111 103,13267 108 120",
    "13268 109 98,13269 109 105 108,13270 109 111 108,13271 112 104,13273 112 112 109",
    "13274 112 114,13275 115 114,13276 115 118,13277 119 98,13278 118 8725 109",
    "13279 97 8725 109,13280 49 26085,13281 50 26085,13282 51 26085,13283 52 26085",
    "13284 53 26085,13285 54 26085,13286 55 26085,13287 56 26085,13288 57 26085",
    "13289 49 48 26085,13290 49 49 26085,13291 49 50 26085,13292 49 51 26085,13293 49 52 26085",
    "13294 49 53 26085,13295 49 54 26085,13296 49 55 26085,13297 49 56 26085,13298 49 57 26085",
    "13299 50 48 26085,13300 50 49 26085,13301 50 50 26085,13302 50 51 26085,13303 50 52 26085",
    "13304 50 53 26085,13305 50 54 26085,13306 50 55 26085,13307 50 56 26085,13308 50 57 26085",
    "13309 51 48 26085,13310 51 49 26085,13311 103 97 108,64256 102 102,64257 102 105",
    "64258 102 108,64259 102 102 105,64260 102 102 108,64261 115 116,64262 115 116",
    "64275 1396 1398,64276 1396 1381,64277 1396 1387,64278 1406 1398,64279 1396 1389",
    "64285 1497 1460,64287 1522 1463,64298 1513 1473,64299 1513 1474,64300 1513 1468 1473",
    "64301 1513 1468 1474,64302 1488 1463,64303 1488 1464,64304 1488 1468,64305 1489 1468",
    "64306 1490 1468,64307 1491 1468,64308 1492 1468,64309 1493 1468,64310 1494 1468",
    "64312 1496 1468,64313 1497 1468,64314 1498 1468,64315 1499 1468,64316 1500 1468",
    "64318 1502 1468,64320 1504 1468,64321 1505 1468,64323 1507 1468,64324 1508 1468",
    "64326 1510 1468,64327 1511 1468,64328 1512 1468,64329 1513 1468,64330 1514 1468",
    "64331 1493 1465,64332 1489 1471,64333 1499 1471,64334 1508 1471,64335 1488 1500",
    "64477 1735 1652,64490 1574 1575,64491 1574 1575,64492 1574 1749,64493 1574 1749",
    "64494 1574 1608,64495 1574 1608,64496 1574 1735,64497 1574 1735,64498 1574 1734",
    "64499 1574 1734,64500 1574 1736,64501 1574 1736,64502 1574 1744,64503 1574 1744",
    "64504 1574 1744,64505 1574 1609,64506 1574 1609,64507 1574 1609,64512 1574 1580",
    "64513 1574 1581,64514 1574 1605,64515 1574 1609,64516 1574 1610,64517 1576 1580",
    "64518 1576 1581,64519 1576 1582,64520 1576 1605,64521 1576 1609,64522 1576 1610",
    "64523 1578 1580,64524 1578 1581,64525 1578 1582,64526 1578 1605,64527 1578 1609",
    "64528 1578 1610,64529 1579 1580,64530 1579 1605,64531 1579 1609,64532 1579 1610",
    "64533 1580 1581,64534 1580 1605,64535 1581 1580,64536 1581 1605,64537 1582 1580",
    "64538 1582 1581,64539 1582 1605,64540 1587 1580,64541 1587 1581,64542 1587 1582",
    "64543 1587 1605,64544 1589 1581,64545 1589 1605,64546 1590 1580,64547 1590 1581",
    "64548 1590 1582,64549 1590 1605,64550 1591 1581,64551 1591 1605,64552 1592 1605",
    "64553 1593 1580,64554 1593 1605,64555 1594 1580,64556 1594 1605,64557 1601 1580",
    "64558 1601 1581,64559 1601 1582,64560 1601 1605,64561 1601 1609,64562 1601 1610",
    "64563 1602 1581,64564 1602 1605,64565 1602 1609,64566 1602 1610,64567 1603 1575",
    "64568 1603 1580,64569 1603 1581,64570 1603 1582,64571 1603 1604,64572 1603 1605",
    "64573 1603 1609,64574 1603 1610,64575 1604 1580,64576 1604 1581,64577 1604 1582",
    "64578 1604 1605,64579 1604 1609,64580 1604 1610,64581 1605 1580,64582 1605 1581",
    "64583 1605 1582,64584 1605 1605,64585 1605 1609,64586 1605 1610,64587 1606 1580",
    "64588 1606 1581,64589 1606 1582,64590 1606 1605,64591 1606 1609,64592 1606 1610",
    "64593 1607 1580,64594 1607 1605,64595 1607 1609,64596 1607 1610,64597 1610 1580",
    "64598 1610 1581,64599 1610 1582,64600 1610 1605,64601 1610 1609,64602 1610 1610",
    "64603 1584 1648,64604 1585 1648,64605 1609 1648,64606 32 1612 1617,64607 32 1613 1617",
    "64608 32 1614 1617,64609 32 1615 1617,64610 32 1616 1617,64611 32 1617 1648",
    "64612 1574 1585,64613 1574 1586,64614 1574 1605,64615 1574 1606,64616 1574 1609",
    "64617 1574 1610,64618 1576 1585,64619 1576 1586,64620 1576 1605,64621 1576 1606",
    "64622 1576 1609,64623 1576 1610,64624 1578 1585,64625 1578 1586,64626 1578 1605",
    "64627 1578 1606,64628 1578 1609,64629 1578 1610,64630 1579 1585,64631 1579 1586",
    "64632 1579 1605,64633 1579 1606,64634 1579 1609,64635 1579 1610,64636 1601 1609",
    "64637 1601 1610,64638 1602 1609,64639 1602 1610,64640 1603 1575,64641 1603 1604",
    "64642 1603 1605,64643 1603 1609,64644 1603 1610,64645 1604 1605,64646 1604 1609",
    "64647 1604 1610,64648 1605 1575,64649 1605 1605,64650 1606 1585,64651 1606 1586",
    "64652 1606 1605,64653 1606 1606,64654 1606 1609,64655 1606 1610,64656 1609 1648",
    "64657 1610 1585,64658 1610 1586,64659 1610 1605,64660 1610 1606,64661 1610 1609",
    "64662 1610 1610,64663 1574 1580,64664 1574 1581,64665 1574 1582,64666 1574 1605",
    "64667 1574 1607,64668 1576 1580,64669 1576 1581,64670 1576 1582,64671 1576 1605",
    "64672 1576 1607,64673 1578 1580,64674 1578 1581,64675 1578 1582,64676 1578 1605",
    "64677 1578 1607,64678 1579 1605,64679 1580 1581,64680 1580 1605,64681 1581 1580",
    "64682 1581 1605,64683 1582 1580,64684 1582 1605,64685 1587 1580,64686 1587 1581",
    "64687 1587 1582,64688 1587 1605,64689 1589 1581,64690 1589 1582,64691 1589 1605",
    "64692 1590 1580,64693 1590 1581,64694 1590 1582,64695 1590 1605,64696 1591 1581",
    "64697 1592 1605,64698 1593 1580,64699 1593 1605,64700 1594 1580,64701 1594 1605",
    "64702 1601 1580,64703 1601 1581,64704 1601 1582,64705 1601 1605,64706 1602 1581",
    "64707 1602 1605,64708 1603 1580,64709 1603 1581,64710 1603 1582,64711 1603 1604",
    "64712 1603 1605,64713 1604 1580,64714 1604 1581,64715 1604 1582,64716 1604 1605",
    "64717 1604 1607,64718 1605 1580,64719 1605 1581,64720 1605 1582,64721 1605 1605",
    "64722 1606 1580,64723 1606 1581,64724 1606 1582,64725 1606 1605,64726 1606 1607",
    "64727 1607 1580,64728 1607 1605,64729 1607 1648,64730 1610 1580,64731 1610 1581",
    "64732 1610 1582,64733 1610 1605,64734 1610 1607,64735 1574 1605,64736 1574 1607",
    "64737 1576 1605,64738 1576 1607,64739 1578 1605,64740 1578 1607,64741 1579 1605",
    "64742 1579 1607,64743 1587 1605,64744 1587 1607,64745 1588 1605,64746 1588 1607",
    "64747 1603 1604,64748 1603 1605,64749 1604 1605,64750 1606 1605,64751 1606 1607",
    "64752 1610 1605,64753 1610 1607,64754 1600 1614 1617,64755 1600 1615 1617",
    "64756 1600 1616 1617,64757 1591 1609,64758 1591 1610,64759 1593 1609,64760 1593 1610",
    "64761 1594 1609,64762 1594 1610,64763 1587 1609,64764 1587 1610,64765 1588 1609",
    "64766 1588 1610,64767 1581 1609,64768 1581 1610,64769 1580 1609,64770 1580 1610",
    "64771 1582 1609,64772 1582 1610,64773 1589 1609,64774 1589 1610,64775 1590 1609",
    "64776 1590 1610,64777 1588 1580,64778 1588 1581,64779 1588 1582,64780 1588 1605",
    "64781 1588 1585,64782 1587 1585,64783 1589 1585,64784 1590 1585,64785 1591 1609",
    "64786 1591 1610,64787 1593 1609,64788 1593 1610,64789 1594 1609,64790 1594 1610",
    "64791 1587 1609,64792 1587 1610,64793 1588 1609,64794 1588 1610,64795 1581 1609",
    "64796 1581 1610,64797 1580 1609,64798 1580 1610,64799 1582 1609,64800 1582 1610",
    "64801 1589 1609,64802 1589 1610,64803 1590 1609,64804 1590 1610,64805 1588 1580",
    "64806 1588 1581,64807 1588 1582,64808 1588 1605,64809 1588 1585,64810 1587 1585",
    "64811 1589 1585,64812 1590 1585,64813 1588 1580,64814 1588 1581,64815 1588 1582",
    "64816 1588 1605,64817 1587 1607,64818 1588 1607,64819 1591 1605,64820 1587 1580",
    "64821 1587 1581,64822 1587 1582,64823 1588 1580,64824 1588 1581,64825 1588 1582",
    "64826 1591 1605,64827 1592 1605,64828 1575 1611,64829 1575 1611,64848 1578 1580 1605",
    "64849 1578 1581 1580,64850 1578 1581 1580,64851 1578 1581 1605,64852 1578 1582 1605",
    "64853 1578 1605 1580,64854 1578 1605 1581,64855 1578 1605 1582,64856 1580 1605 1581",
    "64857 1580 1605 1581,64858 1581 1605 1610,64859 1581 1605 1609,64860 1587 1581 1580",
    "64861 1587 1580 1581,64862 1587 1580 1609,64863 1587 1605 1581,64864 1587 1605 1581",
    "64865 1587 1605 1580,64866 1587 1605 1605,64867 1587 1605 1605,64868 1589 1581 1581",
    "64869 1589 1581 1581,64870 1589 1605 1605,64871 1588 1581 1605,64872 1588 1581 1605",
    "64873 1588 1580 1610,64874 1588 1605 1582,64875 1588 1605 1582,64876 1588 1605 1605",
    "64877 1588 1605 1605,64878 1590 1581 1609,64879 1590 1582 1605,64880 1590 1582 1605",
    "64881 1591 1605 1581,64882 1591 1605 1581,64883 1591 1605 1605,64884 1591 1605 1610",
    "64885 1593 1580 1605,64886 1593 1605 1605,64887 1593 1605 1605,64888 1593 1605 1609",
    "64889 1594 1605 1605,64890 1594 1605 1610,64891 1594 1605 1609,64892 1601 1582 1605",
    "64893 1601 1582 1605,64894 1602 1605 1581,64895 1602 1605 1605,64896 1604 1581 1605",
    "64897 1604 1581 1610,64898 1604 1581 1609,64899 1604 1580 1580,64900 1604 1580 1580",
    "64901 1604 1582 1605,64902 1604 1582 1605,64903 1604 1605 1581,64904 1604 1605 1581",
    "64905 1605 1581 1580,64906 1605 1581 1605,64907 1605 1581 1610,64908 1605 1580 1581",
    "64909 1605 1580 1605,64910 1605 1582 1580,64911 1605 1582 1605,64914 1605 1580 1582",
    "64915 1607 1605 1580,64916 1607 1605 1605,64917 1606 1581 1605,64918 1606 1581 1609",
    "64919 1606 1580 1605,64920 1606 1580 1605,64921 1606 1580 1609,64922 1606 1605 1610",
    "64923 1606 1605 1609,64924 1610 1605 1605,64925 1610 1605 1605,64926 1576 1582 1610",
    "64927 1578 1580 1610,64928 1578 1580 1609,64929 1578 1582 1610,64930 1578 1582 1609",
    "64931 1578 1605 1610,64932 1578 1605 1609,64933 1580 1605 1610,64934 1580 1581 1609",
    "64935 1580 1605 1609,64936 1587 1582 1609,64937 1589 1581 1610,64938 1588 1581 1610",
    "64939 1590 1581 1610,64940 1604 1580 1610,64941 1604 1605 1610,64942 1610 1581 1610",
    "64943 1610 1580 1610,64944 1610 1605 1610,64945 1605 1605 1610,64946 1602 1605 1610",
    "64947 1606 1581 1610,64948 1602 1605 1581,64949 1604 1581 1605,64950 1593 1605 1610",
    "64951 1603 1605 1610,64952 1606 1580 1581,64953 1605 1582 1610,64954 1604 1580 1605",
    "64955 1603 1605 1605,64956 1604 1580 1605,64957 1606 1580 1581,64958 1580 1581 1610",
    "64959 1581 1580 1610,64960 1605 1580 1610,64961 1601 1605 1610,64962 1576 1581 1610",
    "64963 1603 1605 1605,64964 1593 1580 1605,64965 1589 1605 1605,64966 1587 1582 1610",
    "64967 1606 1580 1610,65008 1589 1604 1746,65009 1602 1604 1746,65010 1575 1604 1604 1607",
    "65011 1575 1603 1576 1585,65012 1605 1581 1605 1583,65013 1589 1604 1593 1605",
    "65014 1585 1587 1608 1604,65015 1593 1604 1610 1607,65016 1608 1587 1604 1605",
    "65017 1589 1604 1609",
    "65018 1589 1604 1609 32 1575 1604 1604 1607 32 1593 1604 1610 1607 32 1608 1587 1604 1605",
    "65019 1580 1604 32 1580 1604 1575 1604 1607,65020 1585 1740 1575 1604,65097 32 773",
    "65098 32 773,65099 32 773,65100 32 773,65136 32 1611,65137 1600 1611,65138 32 1612",
    "65140 32 1613,65142 32 1614,65143 1600 1614,65144 32 1615,65145 1600 1615,65146 32 1616",
    "65147 1600 1616,65148 32 1617,65149 1600 1617,65150 32 1618,65151 1600 1618",
    "65269 1604 1570,65270 1604 1570,65271 1604 1571,65272 1604 1571,65273 1604 1573",
    "65274 1604 1573,65275 1604 1575,65276 1604 1575,65507 32 772,110883 12371 12392",
    "119134 119127 119141,119135 119128 119141,119136 119128 119141 119150",
    "119137 119128 119141 119151,119138 119128 119141 119152,119139 119128 119141 119153",
    "119140 119128 119141 119154,119227 119225 119141,119228 119226 119141",
    "119229 119225 119141 119150,119230 119226 119141 119150,119231 119225 119141 119151",
    "119232 119226 119141 119151,127233 48 44,127234 49 44,127235 50 44,127236 51 44",
    "127237 52 44,127238 53 44,127239 54 44,127240 55 44,127241 56 44,127242 57 44",
    "127248 40 97 41,127249 40 98 41,127250 40 99 41,127251 40 100 41,127252 40 101 41",
    "127253 40 102 41,127254 40 103 41,127255 40 104 41,127256 40 105 41,127257 40 106 41",
    "127258 40 107 41,127259 40 108 41,127260 40 109 41,127261 40 110 41,127262 40 111 41",
    "127263 40 112 41,127264 40 113 41,127265 40 114 41,127266 40 115 41,127267 40 116 41",
    "127268 40 117 41,127269 40 118 41,127270 40 119 41,127271 40 120 41,127272 40 121 41",
    "127273 40 122 41,127274 12308 115 12309,127277 99 100,127278 119 122,127306 104 118",
    "127307 109 118,127308 115 100,127309 115 115,127310 112 112 118,127311 119 99",
    "127338 109 99,127339 109 100,127340 109 114,127376 100 106,127488 12411 12363",
    "127489 12467 12467,127552 12308 26412 12309,127553 12308 19977 12309",
    "127554 12308 20108 12309,127555 12308 23433 12309,127556 12308 28857 12309",
    "127557 12308 25171 12309,127558 12308 30423 12309,127559 12308 21213 12309",
    "127560 12308 25943 12309"]

/-- Runs with the characters that are left out. -/
def droppedRuns : List Nat :=
  Table.numbers
   ["173 1 673 1 3599 2 1619 2 85 5 2043 1 84 5 5 8 4338 43 52337 18 237 1 160 31 48353 4 5327",
    "8 798597 240"]

/-- Runs with the characters that are refused. -/
def refusedRuns : List Nat :=
  Table.numbers
   ["128 33 727 3 5 16 18 10 388 41 55 1 57 6 27 4 6 17 22 1 192 1 48 2 59 2 101 14 59 2 49 2",
    "15 1 28 2 1 1 11 5 32 7 75 1 161 1 8 2 2 2 22 1 7 1 1 3 4 2 9 2 2 2 4 8 1 8 4 2 25 2 3 1 6",
    "4 2 2 22 1 7 1 2 1 2 1 2 2 1 1 5 4 2 2 3 3 1 10 1 9 17 10 3 1 9 1 3 1 22 1 7 1 2 1 5 2 10",
    "1 3 1 3 2 1 15 4 2 12 7 7 1 3 1 8 2 2 2 22 1 7 1 2 1 5 2 9 2 2 2 3 5 5 7 5 2 18 10 2 1 6 3",
    "3 1 4 3 2 1 1 1 2 3 2 3 3 3 12 4 5 3 3 1 4 2 1 6 1 14 21 5 13 1 3 1 23 1 16 2 9 1 3 1 4 7",
    "2 1 3 1 2 2 4 2 10 7 22 1 3 1 23 1 10 1 5 2 9 1 3 1 4 7 2 5 3 1 4 2 10 1 3 12 13 1 3 1 51",
    "1 3 1 6 4 16 2 26 1 3 1 18 3 24 1 9 1 1 2 7 3 1 4 6 1 1 1 8 6 10 2 3 12 58 4 29 37 2 1 1 1",
    "5 1 24 1 1 1 23 2 5 1 1 1 7 1 10 4 2 32 72 1 36 4 39 1 36 1 15 1 13 37 198 10 377 1 4 2 7",
    "1 1 1 4 2 41 1 4 2 33 1 4 2 7 1 1 1 4 2 15 1 57 1 4 2 67 2 32 3 26 6 86 10 640 1 28 3 89 7",
    "22 9 24 9 20 12 13 1 3 1 2 12 94 2 10 6 10 6 26 6 89 7 43 5 70 10 31 1 12 4 12 4 1 3 42 2",
    "5 11 44 4 26 6 11 3 62 2 65 1 29 2 11 6 10 6 14 2 64 16 77 1 166 8 60 3 15 3 62 53 8 8 43",
    "5 534 10 38 10 8 8 30 50 5 1 15 1 14 2 6 4 16 6 9 13 2 2 20 3 1 8 53 59 37 11 33 19 136 4",
    "666 22 11 160 1673 2 382 5 45 1 1 5 1 2 56 8 1 14 24 9 7 1 7 1 7 1 7 1 7 1 7 1 7 1 7 1 126",
    "34 26 1 89 269 63 1 86 2 103 5 43 96 86 10 47 41 378 62 28813 3 55 9 348 21 183 8 222 24",
    "55 3 10 6 56 8 70 8 12 6 116 11 30 3 78 1 11 4 33 1 55 9 14 2 10 2 103 24 28 10 6 2 6 2 6",
    "9 7 1 7 1 61 83 46 2 10 6 11172 12 23 4 49 8722 96 176 25 123 542 45 21 14 16 21 13 33 2",
    "395 12 1 26 1 19 1 2 1 15 2 14 34 123 5 3 4 45 3 88 1 13 3 1 47 46 130 29 3 49 15 28 4 36",
    "9 30 5 43 5 30 1 37 4 14 82 118 2 10 46 36 4 40 8 52 11 12 28 11 1 15 1 7 1 2 3 52 12 311",
    "9 22 10 8 24 6 122 6 2 1 1 44 1 2 3 1 2 23 1 72 8 9 48 19 1 2 5 33 3 27 5 27 38 56 4 20 2",
    "50 1 2 5 8 1 3 1 29 2 3 4 10 7 9 7 64 32 39 4 12 9 54 3 29 2 27 5 26 7 4 12 7 80 73 119 51",
    "7 46 8 10 6 38 3 29 8 2 208 31 1 42 1 3 2 2 16 46 5 51 8 42 22 26 38 28 20 23 9 78 4 36 9",
    "62 1 5 13 25 7 10 6 53 1 18 8 39 9 96 1 20 11 18 1 47 62 7 1 1 1 4 1 15 1 11 6 59 5 10 6 4",
    "1 8 2 2 2 22 1 7 1 2 1 5 1 10 2 2 2 3 2 1 6 1 5 7 2 7 3 5 11 10 1 1 2 1 1 38 1 10 1 1 2 1",
    "1 4 1 10 1 2 8 2 29 92 1 5 30 72 8 10 166 54 2 38 34 69 11 10 6 13 19 58 6 10 6 20 28 27 2",
    "15 4 23 185 60 132 51 12 8 2 1 2 8 1 2 1 30 1 2 2 12 9 10 70 8 2 46 2 11 27 72 8 83 13 73",
    "7 16 80 8 88 34 14 10 6 9 1 45 1 14 10 29 3 32 2 22 1 14 73 7 1 2 1 44 3 1 1 2 1 9 8 10 6",
    "6 1 2 1 37 1 2 1 6 7 10 6 44 4 10 6 16 224 25 7 17 1 41 3 29 85 1 15 50 13 923 102 111 1 5",
    "11 196 12 311 2313 99 13 1072 16 22 10 3995 5 583 6841 58 1734 569 7 31 1 10 4 81 1 10 6",
    "30 2 6 10 70 10 10 1 7 1 21 5 19 432 58 6 42 182 59 32 25 44 75 4 57 7 17 64 5 11 7 9 7667",
    "13 979 7709 4 1 7 1 2 1 292 14 1 29 3 2 1 14 408 2308 107 5 13 3 9 7 10 2 8 3932 253 3 436",
    "6 23 15 78 2 23 9 116 60 246 10 39 2 194 21 70 10 64 48 20 12 20 12 87 9 25 1159 652 15 5",
    "1 15 80 256 768 64 192 7 1 17 2 7 1 2 1 5 100 1 112 45 3 14 2 10 4 2 320 31 17 58 5 1 464",
    "42 214 43 4 1 192 31 1 22 8 2 224 7 1 4 1 2 1 15 1 197 2 16 75 42 4 10 4 2 785 68 76 61",
    "434 2 270 44 4 100 12 15 2 15 1 15 1 37 21 163 56 29 93 6 154 986 2 17 3 13 3 218 6 12 4 1",
    "15 12 4 56 8 10 6 40 8 30 2 12 4 2 14 9 39 344 8 14 2 13 3 71 1 1 2 48 5 147 1 103 1029",
    "42720 32 4382 2 5774 2 7473 15 622 4514 4939 5 8490 39814 11328 852928"]

/-- The code point that a row of four gives. -/
def shifted? (n : Nat) : List Nat → Option Nat
  | [first, count, step, target] =>
    let distance := n - first
    if first ≤ n ∧ distance < count * step ∧ distance % step = 0 then some (target + distance)
    else none
  | _ => none

/-- The code point that a row of replacements gives. -/
def replaced? (n : Nat) : List Nat → Option Nat
  | first :: targets => if first ≤ n then targets[n - first]? else none
  | [] => none

/-- The code points that a row with a spelling gives. -/
def spelled? (n : Nat) : List Nat → Option (List Nat)
  | first :: targets => if first = n then some targets else none
  | [] => none

/-- What a character beyond ASCII becomes, if it is neither kept nor refused. -/
def changed? (n : Nat) : Option (List Nat) :=
  (shiftedRows.findSome? (shifted? n)).map ([·])
    <|> (replacedRows.findSome? (replaced? n)).map ([·])
    <|> spelledRows.findSome? (spelled? n)

/-- What a character becomes, unless it is refused. -/
def image? (c : Char) : Option Text :=
  if c.toNat < 0x80 then some [c.toLower]
  else
    match changed? c.toNat with
    | some codes => some (codes.map Char.ofNat)
    | none =>
      if Table.inRuns droppedRuns c then some []
      else if Table.inRuns refusedRuns c then none
      else some [c]

/-- What a name becomes, unless one of its characters is refused. -/
def mapText? (s : Text) : Option Text := (s.mapM image?).map List.flatten

/-- Whether a character stays as it is. -/
def isKept (c : Char) : Bool := image? c = some [c]

end ServiceCall.Domain
