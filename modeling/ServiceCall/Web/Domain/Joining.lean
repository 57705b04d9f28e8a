import ServiceCall.Web.Domain.Composition

/-!
# Joiners

Two characters without a face say whether the letters around them join.  They are allowed after a
mark that takes the vowel off a letter, and the one that keeps letters apart also between two
letters that would join.  The tables are those of Unicode 18 for the characters that domain names
keep.
-/

namespace ServiceCall.Domain

/-- Runs with the letters that join the next one. -/
def joinsNextRuns : List Nat :=
  Table.numbers
   ["1568 1 5 1 1 1 1 5 4 13 1 7 1 2 35 2 9 15 18 38 1 2 9 1 1 1 1 2 40 3 2 1 18 3 5 4 1 9 1 1",
    "1 1 1 2 31 11 3 15 2 4 1 1 2 3 2 6 74 33 86 5 2 1 1 10 1 1 10 1 1 4 2 1 29 1 2 5 1 8 9 10",
    "5 2 2 6 1 15 3902 1 24 96 7 34 1 6 36752 51 25165 5 8 1 5 10 1 3 10 4 145 1 1 1 3 3 1 2 1",
    "1 2 1 28 2 337 34 1 1 415 2 1 10 9 28 59 3 1 17 12 3 28 4 2 12 46 1 1 2 4 1 2 2 1 2 1 1 2",
    "1 5 22 55618 34"]

/-- Runs with the letters that join the one before. -/
def joinsLastRuns : List Nat :=
  Table.numbers
   ["1568 1 1 30 1 10 35 2 1 3 5 91 1 1 24 2 10 3 2 1 16 1 1 30 29 51 74 33 85 25 7 1 1 4 1 28",
    "3 1 2 14 9 13 1 27 3902 1 24 96 7 34 1 6 36752 50 25166 6 1 1 1 2 3 9 1 10 2 1 6 5 144 25",
    "16 6 338 35 414 3 1 10 9 28 59 21 12 4 27 18 46 1 1 5 1 8 1 4 4 2 55639 34"]

/-- Runs with the characters that joining passes over. -/
def transparentRuns : List Nat :=
  Table.numbers
   ["768 113 274 8 262 45 1 1 1 2 1 2 1 9 64 11 48 21 16 1 101 8 1 6 2 2 1 4 35 1 30 29 89 11",
    "58 9 9 1 24 4 1 9 1 3 1 7 41 5 57 9 42 57 55 1 1 1 4 8 4 1 3 15 2 2 29 1 58 1 4 6 6 1 20 4",
    "24 5 57 2 3 27 20 2 3 1 11 2 57 1 4 8 4 3 18 4 20 8 58 1 2 1 1 6 6 10 11 4 28 1 61 1 12 3",
    "48 1 3 1 55 1 1 3 5 18 10 4 27 1 58 1 2 1 6 1 5 9 13 4 26 2 57 2 4 5 7 1 20 4 27 1 72 5 3",
    "6 89 1 2 11 8 8 98 1 2 9 11 8 72 2 27 1 1 1 1 1 55 14 1 5 1 2 5 49 8 1 102 4 1 6 1 2 2 2",
    "25 2 4 3 16 4 13 1 2 2 6 1 15 1 703 3 946 3 29 2 30 14 18 14 55 7 8 1 2 11 9 3 165 2 34 1",
    "118 3 4 2 9 1 6 7 215 2 2 3 56 1 1 9 1 1 2 8 6 13 48 84 48 1 1 4 49 9 12 2 32 4 2 2 1 3 56",
    "1 1 2 3 1 1 3 58 8 2 5 149 3 1 13 1 7 4 1 6 1 3 2 198 65 719 52 3051 4 140 1 96 32 554 4",
    "107 4 30162 4 1 10 32 2 80 2 272 1 3 1 4 1 25 2 5 4 148 10 18 18 13 1 38 8 25 11 46 3 48 1",
    "2 4 2 2 39 1 67 6 2 2 2 11 3 1 8 1 47 1 51 1 1 3 2 2 5 2 1 1 42 2 8 11 228 1 2 1 4 3 20270",
    "148 622 37 952 131 96 1 149 10 1665 15 40 8 165 6 569 12 57 5 317 2 72 11 70 11 49 4 123 1",
    "54 15 41 1 2 2 10 3 49 4 2 2 7 14 48 3 36 5 1 9 61 1 12 2 52 9 10 4 2 1 95 3 2 1 1 2 6 1 2",
    "63 95 1 3 13 16 2 57 2 3 1 37 26 59 7 12 1 1 1 1 1 14 31 56 8 2 3 1 1 23 1 84 6 1 1 4 2 1",
    "2 238 6 4 2 1 2 27 36 51 8 2 1 1 2 106 1 1 1 2 6 1 1 101 1 1 1 2 4 1 9 255 9 1 2 256 2 1 1",
    "4 1 144 8 4 1 32 10 40 6 2 4 8 9 1 6 2 3 46 13 1 2 198 1 1 3 1 1 201 14 1 1 82 23 1 7 1 2",
    "1 75 49 21 1 9 64 3 2 1 1 1 347 2 11 2 52 8 2 1 1 1 23 86 5264 1 6 25 11454 12 3 3 2496 5",
    "59 7 1048 1 63 4 81 12 19629 2 4705 80 535 3 17 8 2 7 30 4 148 3 1979 55 4 50 8 1 14 1 22",
    "101 1280 256 48 7 375 18 44 4 508 4 254 2 243 1 2 1 7 2 5 9 466 82 34 12"]

def separator : Char := Char.ofNat 0x200C

def joiner : Char := Char.ofNat 0x200D

/-- The class of the marks that take the vowel off a letter. -/
def viramaClass : Nat := 9

/-- The first character that joining does not pass over. -/
def nearest? (s : Text) : Option Char := s.find? fun c => !Table.inRuns transparentRuns c

/-- Whether a joiner is allowed between a reversed text before it and the text after it. -/
def allowsJoiner (c : Char) (before after : Text) : Bool :=
  before.head?.any (markClass · = viramaClass)
    || (c = separator && (nearest? before).any (Table.inRuns joinsNextRuns)
      && (nearest? after).any (Table.inRuns joinsLastRuns))

/-- Whether the joiners of a text are allowed where they are; `before` is what was passed, reversed.
-/
def allowsJoiners (before : Text) : Text → Bool
  | [] => true
  | c :: rest =>
    (if c = separator ∨ c = joiner then allowsJoiner c before rest else true)
      && allowsJoiners (c :: before) rest

end ServiceCall.Domain
