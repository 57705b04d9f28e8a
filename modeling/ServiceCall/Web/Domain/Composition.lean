import ServiceCall.Text.Table

/-!
# Composed characters

A letter with marks can be one character or several.  The composed form of a text takes characters
apart, puts the marks of each letter in the order of their classes, and joins again what has a
character of its own.  The tables cover the characters that domain names are mapped to; the
syllables of Hangul follow a rule.
-/

namespace ServiceCall.Domain

/-- A composed character and its two parts, and the parts of those that follow it. -/
def partRows : List (List Nat) :=
  Table.rows
   ["224 97 768 97 769 97 770 97 771 97 776 97 778",
    "231 99 807 101 768 101 769 101 770 101 776 105 768 105 769,238 105 770 105 776",
    "241 110 771 111 768 111 769 111 770 111 771 111 776",
    "249 117 768 117 769 117 770 117 776 121 769,255 121 776,257 97 772,259 97 774,261 97 808",
    "263 99 769,265 99 770,267 99 775,269 99 780,271 100 780,275 101 772,277 101 774",
    "279 101 775,281 101 808,283 101 780,285 103 770,287 103 774,289 103 775,291 103 807",
    "293 104 770,297 105 771,299 105 772,301 105 774,303 105 808,309 106 770,311 107 807",
    "314 108 769,316 108 807,318 108 780,324 110 769,326 110 807,328 110 780,333 111 772",
    "335 111 774,337 111 779,341 114 769,343 114 807,345 114 780,347 115 769,349 115 770",
    "351 115 807,353 115 780,355 116 807,357 116 780,361 117 771,363 117 772,365 117 774",
    "367 117 778,369 117 779,371 117 808,373 119 770,375 121 770,378 122 769,380 122 775",
    "382 122 780,417 111 795,432 117 795,462 97 780,464 105 780,466 111 780,468 117 780",
    "470 252 772,472 252 769,474 252 780,476 252 768,479 228 772,481 551 772,483 230 772",
    "487 103 780,489 107 780,491 111 808,493 491 772,495 658 780 106 780,501 103 769",
    "505 110 768,507 229 769,509 230 769,511 248 769,513 97 783,515 97 785,517 101 783",
    "519 101 785,521 105 783,523 105 785,525 111 783,527 111 785,529 114 783,531 114 785",
    "533 117 783,535 117 785,537 115 806,539 116 806,543 104 780,551 97 775,553 101 807",
    "555 246 772,557 245 772,559 111 775,561 559 772,563 121 772,912 970 769",
    "940 945 769 949 769 951 769 953 769 971 769,970 953 776 965 776 959 769 965 769 969 769",
    "1081 1080 774,1104 1077 768 1077 776,1107 1075 769,1111 1110 776",
    "1116 1082 769 1080 768 1091 774,1143 1141 783,1218 1078 774,1233 1072 774,1235 1072 776",
    "1239 1077 774,1243 1241 776,1245 1078 776,1247 1079 776,1251 1080 772,1253 1080 776",
    "1255 1086 776,1259 1257 776,1261 1101 776,1263 1091 772,1265 1091 776,1267 1091 779",
    "1269 1095 776,1273 1099 776,1570 1575 1619 1575 1620 1608 1620 1575 1621 1610 1620",
    "1728 1749 1620,1730 1729 1620,1747 1746 1620,2345 2344 2364,2353 2352 2364,2356 2355 2364",
    "2507 2503 2494 2503 2519,2888 2887 2902,2891 2887 2878 2887 2903,2964 2962 3031",
    "3018 3014 3006 3015 3006 3014 3031,3144 3142 3158,3264 3263 3285,3271 3270 3285 3270 3286",
    "3274 3270 3266 3274 3285,3402 3398 3390 3399 3390 3398 3415,3546 3545 3530",
    "3548 3545 3535 3548 3530 3545 3551,4134 4133 4142,6918 6917 6965,6920 6919 6965",
    "6922 6921 6965,6924 6923 6965,6926 6925 6965,6930 6929 6965,6971 6970 6965,6973 6972 6965",
    "6976 6974 6965 6975 6965,6979 6978 6965,7681 97 805,7683 98 775,7685 98 803,7687 98 817",
    "7689 231 769,7691 100 775,7693 100 803,7695 100 817,7697 100 807,7699 100 813,7701 275 768",
    "7703 275 769,7705 101 813,7707 101 816,7709 553 774,7711 102 775,7713 103 772,7715 104 775",
    "7717 104 803,7719 104 776,7721 104 807,7723 104 814,7725 105 816,7727 239 769,7729 107 769",
    "7731 107 803,7733 107 817,7735 108 803,7737 7735 772,7739 108 817,7741 108 813",
    "7743 109 769,7745 109 775,7747 109 803,7749 110 775,7751 110 803,7753 110 817,7755 110 813",
    "7757 245 769,7759 245 776,7761 333 768,7763 333 769,7765 112 769,7767 112 775,7769 114 775",
    "7771 114 803,7773 7771 772,7775 114 817,7777 115 775,7779 115 803,7781 347 775",
    "7783 353 775,7785 7779 775,7787 116 775,7789 116 803,7791 116 817,7793 116 813",
    "7795 117 804,7797 117 816,7799 117 813,7801 361 769,7803 363 776,7805 118 771,7807 118 803",
    "7809 119 768,7811 119 769,7813 119 776,7815 119 775,7817 119 803,7819 120 775,7821 120 776",
    "7823 121 775,7825 122 770,7827 122 803,7829 122 817 104 817 116 776 119 778 121 778",
    "7841 97 803,7843 97 777,7845 226 769,7847 226 768,7849 226 777,7851 226 771,7853 7841 770",
    "7855 259 769,7857 259 768,7859 259 777,7861 259 771,7863 7841 774,7865 101 803",
    "7867 101 777,7869 101 771,7871 234 769,7873 234 768,7875 234 777,7877 234 771",
    "7879 7865 770,7881 105 777,7883 105 803,7885 111 803,7887 111 777,7889 244 769",
    "7891 244 768,7893 244 777,7895 244 771,7897 7885 770,7899 417 769,7901 417 768",
    "7903 417 777,7905 417 771,7907 417 803,7909 117 803,7911 117 777,7913 432 769,7915 432 768",
    "7917 432 777,7919 432 771,7921 432 803,7923 121 768,7925 121 803,7927 121 777,7929 121 771",
    "7936 945 787 945 788 7936 768 7937 768 7936 769 7937 769 7936 834,7943 7937 834",
    "7952 949 787 949 788 7952 768 7953 768 7952 769 7953 769",
    "7968 951 787 951 788 7968 768 7969 768 7968 769 7969 769 7968 834,7975 7969 834",
    "7984 953 787 953 788 7984 768 7985 768 7984 769 7985 769 7984 834,7991 7985 834",
    "8000 959 787 959 788 8000 768 8001 768 8000 769 8001 769",
    "8016 965 787 965 788 8016 768 8017 768 8016 769 8017 769 8016 834,8023 8017 834",
    "8032 969 787 969 788 8032 768 8033 768 8032 769 8033 769 8032 834,8039 8033 834",
    "8048 945 768,8050 949 768,8052 951 768,8054 953 768,8056 959 768,8058 965 768,8060 969 768",
    "8112 945 774 945 772,8118 945 834,8134 951 834,8144 953 774 953 772 970 768",
    "8150 953 834 970 834,8160 965 774 965 772 971 768,8164 961 787 961 788 965 834 971 834",
    "8182 969 834,8602 8592 824 8594 824,8622 8596 824,8653 8656 824 8660 824 8658 824",
    "8708 8707 824,8713 8712 824,8716 8715 824,8740 8739 824,8742 8741 824,8769 8764 824",
    "8772 8771 824,8775 8773 824,8777 8776 824,8800 61 824,8802 8801 824",
    "8813 8781 824 60 824 62 824 8804 824 8805 824,8820 8818 824 8819 824",
    "8824 8822 824 8823 824,8832 8826 824 8827 824,8836 8834 824 8835 824",
    "8840 8838 824 8839 824,8876 8866 824 8872 824 8873 824 8875 824",
    "8928 8828 824 8829 824 8849 824 8850 824,8938 8882 824 8883 824 8884 824 8885 824",
    "12364 12363 12441,12366 12365 12441,12368 12367 12441,12370 12369 12441,12372 12371 12441",
    "12374 12373 12441,12376 12375 12441,12378 12377 12441,12380 12379 12441,12382 12381 12441",
    "12384 12383 12441,12386 12385 12441,12389 12388 12441,12391 12390 12441,12393 12392 12441",
    "12400 12399 12441 12399 12442,12403 12402 12441 12402 12442,12406 12405 12441 12405 12442",
    "12409 12408 12441 12408 12442,12412 12411 12441 12411 12442,12436 12358 12441",
    "12446 12445 12441,12460 12459 12441,12462 12461 12441,12464 12463 12441,12466 12465 12441",
    "12468 12467 12441,12470 12469 12441,12472 12471 12441,12474 12473 12441,12476 12475 12441",
    "12478 12477 12441,12480 12479 12441,12482 12481 12441,12485 12484 12441,12487 12486 12441",
    "12489 12488 12441,12496 12495 12441 12495 12442,12499 12498 12441 12498 12442",
    "12502 12501 12441 12501 12442,12505 12504 12441 12504 12442,12508 12507 12441 12507 12442",
    "12532 12454 12441,12535 12527 12441 12528 12441 12529 12441 12530 12441,12542 12541 12441",
    "67017 67026 775,67044 67034 775,69786 69785 69818,69788 69787 69818,69803 69797 69818",
    "69934 69937 69927 69938 69927,70475 70471 70462 70471 70487,70531 70530 70601",
    "70533 70532 70587,70542 70539 70594,70545 70544 70601,70597 70594 70594",
    "70599 70594 70584 70594 70601,70843 70841 70842 70841 70832,70846 70841 70845",
    "71098 71096 71087 71097 71087,71992 71989 71984",
    "90401 90398 90398 90398 90409 90398 90399 90409 90399 90398 90400 90401 90399 90402 90399",
    "90408 90401 90400,93544 93543 93543 93539 93543 93545 93543"]

/-- A class of marks, and pairs of a first mark and the number of marks from there on. -/
def markRows : List (List Nat) :=
  Table.rows
   ["1 820 5 7380 1 7394 7 8402 2 8408 3 8421 2 8426 2,1 68153 1 92912 5 113822 1 119143 3",
    "6 94192 2,7 2364 1 2492 1 2620 1 2748 1 2876 1 3132 1 3260 1",
    "7 4151 1 6964 1 7142 1 7223 1 43443 1 69818 1 70003 1",
    "7 70090 1 70198 1 70377 1 70459 2 70726 1 70851 1 71104 1",
    "7 71351 1 71738 1 72003 1 73026 1 125258 1,8 12441 2",
    "9 2381 1 2509 1 2637 1 2765 1 2893 1 3021 1 3149 1",
    "9 3277 1 3387 2 3405 1 3530 1 3642 1 3770 1 3972 1",
    "9 4153 2 5908 2 5940 1 6098 1 6752 1 6980 1 7082 2",
    "9 7154 2 11647 1 43014 1 43052 1 43204 1 43347 1 43456 1",
    "9 43766 1 44013 1 68159 1 69702 1 69744 1 69759 1 69817 1",
    "9 69939 2 70080 1 70197 1 70378 1 70477 1 70606 3 70722 1",
    "9 70850 1 71103 1 71231 1 71350 1 71467 1 71737 1 71997 2",
    "9 72160 1 72244 1 72263 1 72345 1 72767 1 73028 2 73111 1,9 73537 2 90415 1,10 1456 1",
    "11 1457 1,12 1458 1,13 1459 1,14 1460 1,15 1461 1,16 1462 1,17 1463 1,18 1464 1 1479 1",
    "19 1465 2,20 1467 1,21 1468 1,22 1469 1,23 1471 1,24 1473 1,25 1474 1,26 64286 1",
    "27 1611 1 2288 1,28 1612 1 2289 1,29 1613 1 2290 1,30 1560 1 1614 1,31 1561 1 1615 1",
    "32 1562 1 1616 1,33 1617 1,34 1618 1,35 1648 1,36 1809 1,84 3157 1,91 3158 1,103 3640 2",
    "107 3656 4,118 3768 2,122 3784 4,129 3953 1,130 3954 1 3962 4 3968 1,132 3956 1",
    "202 801 2 807 2 7632 1,214 7630 1,216 795 1 3897 1 119141 2 119150 5,218 7674 1 12330 1",
    "220 790 4 796 5 803 4 809 11 825 4 839 3 845 2",
    "220 851 4 857 2 1425 1 1430 1 1435 1 1442 6 1450 1",
    "220 1477 1 1621 2 1628 1 1631 1 1763 1 1770 1 1773 1",
    "220 1841 1 1844 1 1847 3 1851 2 1854 1 1858 1 1860 1",
    "220 1862 1 1864 1 2034 1 2045 1 2137 3 2201 3 2255 5",
    "220 2275 1 2278 1 2281 1 2285 3 2294 1 2297 2 2386 1",
    "220 3864 2 3893 1 3895 1 4038 1 4237 1 6459 1 6680 1",
    "220 6783 1 6837 6 6845 1 6847 2 6851 2 6858 1 6877 1",
    "220 6886 1 7020 1 7381 5 7388 4 7405 1 7618 1 7626 1",
    "220 7631 1 7673 1 7677 1 7679 1 8424 1 8428 4 43307 3",
    "220 43700 1 65063 7 66045 1 66272 1 68109 1 68154 1 68326 1",
    "220 69365 7 69373 3 69446 2 69451 1 69453 4 69507 1 69509 1",
    "220 119163 8 119178 2 124142 1 124399 1 125136 7,222 1434 1 1453 1 6457 1 12333 1",
    "224 12334 2,226 119149 1,228 1454 1 6313 1 7671 2 12331 1",
    "230 768 21 829 3 834 1 838 1 842 3 848 3 855 1",
    "230 859 1 867 13 1155 5 1426 4 1431 3 1436 6 1448 2",
    "230 1451 2 1455 1 1476 1 1552 8 1619 2 1623 5 1629 2",
    "230 1750 7 1759 4 1764 1 1767 2 1771 2 1840 1 1842 2",
    "230 1845 2 1850 1 1853 1 1855 3 1859 1 1861 1 1863 1",
    "230 1865 2 2027 7 2035 1 2070 4 2075 9 2085 3 2089 5",
    "230 2199 2 2204 4 2250 5 2260 14 2276 2 2279 2 2282 3",
    "230 2291 3 2295 2 2299 5 2385 1 2387 2 2558 1 3970 2",
    "230 3974 2 4957 3 6109 1 6458 1 6679 1 6773 8 6832 5",
    "230 6843 2 6849 2 6853 5 6859 18 6878 8 6887 4 6892 4",
    "230 7019 1 7021 7 7376 3 7386 2 7392 1 7412 1 7416 2",
    "230 7616 2 7619 7 7627 2 7633 37 7675 1 7678 1 8400 2",
    "230 8404 4 8411 2 8417 1 8423 1 8425 1 8432 1 11503 3",
    "230 11744 32 42607 1 42612 10 42654 2 42736 2 43232 18 43696 1",
    "230 43698 2 43703 2 43710 2 43713 1 65056 7 65070 2 66422 5",
    "230 68111 1 68152 1 68325 1 68900 4 68969 5 69291 2 69448 3",
    "230 69452 1 69506 1 69508 1 69888 3 70502 7 70512 5 70750 1",
    "230 92976 7 119173 5 119210 4 119362 3 122880 7 122888 17 122907 7",
    "230 122915 2 122918 5 123023 1 123184 7 123566 1 123628 4 124143 1",
    "230 124398 1 124643 1 124646 1 124654 2 124661 1 125252 6",
    "232 789 1 794 1 856 1 7670 1 12332 1 124140 2,233 860 1 863 1 866 1 7676 1",
    "234 861 2 864 2 6891 1 7629 1"]

/-- The composed characters of a row, each with its parts. -/
def parts (n : Nat) : List Nat → List (Nat × Nat × Nat)
  | first :: second :: rest => (n, first, second) :: parts (n + 1) rest
  | _ => []

/-- All composed characters with their parts. -/
def composed : List (Nat × Nat × Nat) :=
  partRows.flatMap fun row =>
    match row with
    | n :: rest => parts n rest
    | [] => []

/-- Whether a number lies in one of the stretches given by pairs of a start and a length. -/
def inStretches (n : Nat) : List Nat → Bool
  | start :: count :: rest => (start ≤ n && n < start + count) || inStretches n rest
  | _ => false

/-- The class of a mark; all other characters have class zero. -/
def markClass (c : Char) : Nat :=
  (markRows.findSome? fun row =>
    match row with
    | number :: stretches => if inStretches c.toNat stretches then some number else none
    | [] => none).getD 0

namespace Hangul

def firstSyllable : Nat := 0xAC00
def firstLead : Nat := 0x1100
def firstVowel : Nat := 0x1161

/-- One before the first trailing consonant, so that the number zero stands for none. -/
def beforeTrail : Nat := 0x11A7
def leads : Nat := 19
def vowels : Nat := 21
def trails : Nat := 28
def syllables : Nat := leads * vowels * trails

/-- The two parts of a syllable: what comes before its trailing consonant and that consonant, or
its lead and its vowel. -/
def parts? (n : Nat) : Option (Nat × Nat) :=
  if firstSyllable ≤ n ∧ n < firstSyllable + syllables then
    let i := n - firstSyllable
    if i % trails = 0 then
      some (firstLead + i / (vowels * trails), firstVowel + i / trails % vowels)
    else some (n - i % trails, beforeTrail + i % trails)
  else none

/-- The syllable of two parts. -/
def whole? (a b : Nat) : Option Nat :=
  if firstLead ≤ a ∧ a < firstLead + leads ∧ firstVowel ≤ b ∧ b < firstVowel + vowels then
    some (firstSyllable + ((a - firstLead) * vowels + (b - firstVowel)) * trails)
  else if firstSyllable ≤ a ∧ a < firstSyllable + syllables ∧ (a - firstSyllable) % trails = 0
      ∧ beforeTrail < b ∧ b < beforeTrail + trails then
    some (a + (b - beforeTrail))
  else none

end Hangul

/-- The two parts of a composed character. -/
def parts? (c : Char) : Option (Char × Char) :=
  let found := Hangul.parts? c.toNat <|> composed.lookup c.toNat
  found.map fun (a, b) => (Char.ofNat a, Char.ofNat b)

/-- The character that two characters in a row stand for. -/
def whole? (a b : Char) : Option Char :=
  let found := Hangul.whole? a.toNat b.toNat
    <|> composed.findSome? fun (n, parts) => if parts = (a.toNat, b.toNat) then some n else none
  found.map Char.ofNat

/-- The most characters that one character is taken apart to. -/
def mostParts : Nat := 4

/-- Takes a character apart, its first part up to `fuel` times more. -/
def takeApart : Nat → Char → Text
  | 0, c => [c]
  | fuel + 1, c =>
    match parts? c with
    | some (a, b) => takeApart fuel a ++ [b]
    | none => [c]

/-- Puts a character behind a reversed text, and a mark before the marks of higher classes there. -/
def insertMark (c : Char) : Text → Text
  | [] => [c]
  | d :: rest =>
    if 0 < markClass c ∧ markClass c < markClass d then d :: insertMark c rest else c :: d :: rest

/-- A text with the marks of each letter in order. -/
def orderMarks (s : Text) : Text := (s.foldl (fun sofar c => insertMark c sofar) []).reverse

/-- Whether a mark cannot reach the letter before these marks, the last of which comes first. -/
def isBlocked (c : Char) : Text → Bool
  | [] => false
  | mark :: _ => markClass c ≤ markClass mark

/-- Joins a letter with what follows; `marks` are those since the letter, the last one first. -/
def joinFrom (letter : Char) (marks : Text) : Text → Text
  | [] => letter :: marks.reverse
  | c :: rest =>
    match if isBlocked c marks then none else whole? letter c with
    | some whole => joinFrom whole marks rest
    | none =>
      if markClass c = 0 then letter :: marks.reverse ++ joinFrom c [] rest
      else joinFrom letter (c :: marks) rest

/-- Joins letters with their marks; marks at the front have no letter. -/
def join : Text → Text
  | [] => []
  | c :: rest => if markClass c = 0 then joinFrom c [] rest else c :: join rest

/-- The composed form of a text. -/
def compose (s : Text) : Text := join (orderMarks (s.flatMap (takeApart mostParts)))

end ServiceCall.Domain
