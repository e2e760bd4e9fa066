import LootRules.Flag
import LootRules.Text

/-!
# Keywords

The vocabulary of a rule line. Each flag has one keyword, and the table lists them in the
order in which they are written. Where a keyword may stand is its slot: adjectives and
thresholds come first, in any order and as often as one likes, then `artifact`, then one
noun.

A keyword is recognised by its text alone, without regard to what follows, and takes one
space behind it along. Where several texts fit, the longest is tried first, and of equally
long ones the one that stands first in the table.
-/

namespace LootRules

/-- Where a keyword may stand in a rule line. -/
inductive Slot where
  | adjective
  /-- The text is followed by a number, and the number by a suffix that may be left out. -/
  | threshold (suffix : Text)
  | preNoun
  | noun
  deriving DecidableEq, Repr

/-- One word or phrase of the vocabulary. -/
structure Keyword where
  text : Text
  flag : Flag
  slot : Slot := .adjective
  deriving DecidableEq, Repr

namespace Keyword

/-- The keyword that may stand before the noun. -/
def artifact : Keyword := { text := "artifact", flag := .artifact, slot := .preNoun }

/-- All keywords, in the order in which they are written. -/
def table : List Keyword :=
  [{ text := "all", flag := .all },
   { text := "collecting", flag := .collecting },
   { text := "unaware", flag := .unaware },
   { text := "unidentified", flag := .unidentified },
   { text := "identified", flag := .identified },
   { text := "*identified*", flag := .starIdentified },
   { text := "dice boosted", flag := .boosted },
   { text := "more than", flag := .moreDice, slot := .threshold " dice" },
   { text := "more bonus than", flag := .moreBonus, slot := .threshold "" },
   { text := "unreadable", flag := .unreadable },
   { text := "first realm's", flag := .realm1 },
   { text := "second realm's", flag := .realm2 },
   { text := "first", flag := .first },
   { text := "second", flag := .second },
   { text := "third", flag := .third },
   { text := "fourth", flag := .fourth },
   { text := "wanted", flag := .wanted },
   { text := "unique monster's", flag := .unique },
   { text := "human", flag := .human },
   { text := "worthless", flag := .worthless },
   { text := "good", flag := .good },
   { text := "nameless", flag := .nameless },
   { text := "average", flag := .average },
   { text := "rare", flag := .rare },
   { text := "common", flag := .common },
   { text := "ego", flag := .ego },
   artifact,
   { text := "items", flag := .items, slot := .noun },
   { text := "weapons", flag := .weapons, slot := .noun },
   { text := "favorite weapons", flag := .favoriteWeapons, slot := .noun },
   { text := "armors", flag := .armors, slot := .noun },
   { text := "missiles", flag := .missiles, slot := .noun },
   { text := "magical devices", flag := .devices, slot := .noun },
   { text := "lights", flag := .lights, slot := .noun },
   { text := "junks", flag := .junks, slot := .noun },
   { text := "corpses or skeletons", flag := .corpses, slot := .noun },
   { text := "spellbooks", flag := .spellbooks, slot := .noun },
   { text := "hafted weapons", flag := .hafted, slot := .noun },
   { text := "shields", flag := .shields, slot := .noun },
   { text := "missile shooters", flag := .bows, slot := .noun },
   { text := "rings", flag := .rings, slot := .noun },
   { text := "amulets", flag := .amulets, slot := .noun },
   { text := "suits", flag := .suits, slot := .noun },
   { text := "cloaks", flag := .cloaks, slot := .noun },
   { text := "helms", flag := .helms, slot := .noun },
   { text := "gloves", flag := .gloves, slot := .noun },
   { text := "boots", flag := .boots, slot := .noun }]

/-- Whether the keyword stands in the first part of a line. -/
def isAdjective (k : Keyword) : Bool :=
  match k.slot with
  | .adjective | .threshold _ => true
  | .preNoun | .noun => false

/-- Puts a keyword before the first one that is no longer than it. -/
def insertByLength (k : Keyword) : List Keyword → List Keyword
  | [] => [k]
  | j :: js =>
    if k.text.length < j.text.length then j :: insertByLength k js else k :: j :: js

/-- Longest text first; equally long texts keep their order. -/
def byLength (ks : List Keyword) : List Keyword := ks.foldr insertByLength []

/-- The adjectives and thresholds, longest text first. -/
def adjectives : List Keyword := byLength (table.filter isAdjective)

/-- The nouns, longest text first. -/
def nouns : List Keyword := byLength (table.filter (·.slot = .noun))

/-- Whether a text begins with the keyword. -/
def begins (k : Keyword) (s : Text) : Bool := k.text.isPrefixOf s

/-- What follows `key` at the start of a text, less one space. -/
def behind? (key s : Text) : Option Text :=
  (key.isPrefixOf? s).map fun rest => (" ".toList.isPrefixOf? rest).getD rest

/-- The adjectives and thresholds that a text begins with, longest first. -/
def adjectivesAt (s : Text) : List Keyword := adjectives.filter (·.begins s)

/-- The longest noun that a text begins with. -/
def nounAt? (s : Text) : Option Keyword := nouns.find? (·.begins s)

/-- Whether a text begins with any keyword at all. -/
def startsText (s : Text) : Bool := table.any (·.begins s)

/-- The keyword of a flag. -/
def ofFlag? (f : Flag) : Option Keyword := table.find? (·.flag = f)

end Keyword

end LootRules
