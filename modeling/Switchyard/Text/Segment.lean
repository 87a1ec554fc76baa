import Switchyard.Text.Trait
import Switchyard.Text.Script

/-!
# Text boundaries

The classes of characters by which texts are cut into characters as a reader sees them
(`clusterClass?`), into words (`wordClass?`) and into sentences (`sentenceClass?`). All of them
follow from traits, scripts and short lists of exceptions. Edition 16 of the character database.
-/

namespace Switchyard.Text

/-- The characters with a trait. -/
def traitOrNone (e : Edition) (name : String) : CodeSet :=
  (trait? e name).getD .empty

/-- The characters of a script. -/
def inScript (name : String) : CodeSet := (script? name).getD .empty

/-! ### Visible characters -/

/-- Syllables of Hangul that have no final consonant; every 28th one. -/
def openSyllables : CodeSet := .ofLines ["ac00-d788/1c"]

/-- Signs before a number or a name. -/
def leadingSigns : CodeSet :=
  .ofLines ["600-605 6dd 70f 890-891 8e2 d4e 110bd 110cd 111c2-111c3 113d1 1193f 11941 11a3a",
    "11a84-11a89 11d46 11f02"]

/-- Spacing marks that start a visible character of their own. -/
def freeMarks : CodeSet :=
  .ofLines ["102b-102c 1038 1062-1064 1067-106d 1083 1087-108c 108f 109a-109c 1a61 1a63-1a64",
    "aa7b aa7d 11720-11721"]

/-- The characters that extend a visible one. -/
def clusterExtend (e : Edition) : CodeSet := (extending e).union (traitOrNone e "emojimodifier")

/-- The classes for cutting into visible characters, by short and long name. -/
def clusterClasses : List (List String × (Edition → CodeSet)) :=
  [(["cr"], fun _ => .single 0xd),
   (["lf"], fun _ => .single 0xa),
   (["cn", "control"], fun e =>
      (CodeSet.union (categories e ["Zl", "Zp", "Cc", "Cf"])
        ((category e "Cn").inter ignorable)).minus
      (.unions [.ofLines ["a d 200c-200d"], traitOrNone e "prependedconcatenationmark",
        clusterExtend e])),
   (["ex", "extend"], clusterExtend),
   (["l"], fun _ => .ofLines ["1100-115f a960-a97c"]),
   (["lv"], fun _ => openSyllables),
   (["lvt"], fun _ => CodeSet.minus (.range 0xac00 0xd7a3) openSyllables),
   (["pp", "prepend"], fun _ => leadingSigns),
   (["ri", "regionalindicator"], fun e => traitOrNone e "regionalindicator"),
   (["sm", "spacingmark"], fun e =>
      (CodeSet.union (category e "Mc") (.ofLines ["e33 eb3"])).minus
        (.union (clusterExtend e) freeMarks)),
   (["t"], fun _ => .ofLines ["11a8-11ff d7cb-d7fb"]),
   (["v"], fun _ => .ofLines ["1160-11a7 16d63 16d67-16d6a d7b0-d7c6"]),
   (["zwj"], fun _ => .single 0x200d)]

/-! ### Words -/

/-- Signs that count as letters of a word. -/
def wordSigns : CodeSet :=
  .ofLines ["2c2-2c5 2d2-2d7 2de-2df 2e5-2eb 2ed 2ef-2ff 55a-55c 55e 58a 5f3 a708-a716",
    "a720-a721 a789-a78a ab5b"]

/-- Scripts that write no blanks between words. -/
def unspacedScripts : List String :=
  ["thai", "lao", "myanmar", "khmer", "taile", "newtailue", "taitham", "taiviet", "ahom",
   "hiragana"]

/-- The characters that extend a letter. -/
def wordExtend (e : Edition) : CodeSet :=
  (CodeSet.unions [extending e, category e "Mc", traitOrNone e "emojimodifier"]).minus
    (.single 0x200d)

/-- The characters of Katakana words. -/
def katakanaWords : CodeSet :=
  .union (inScript "katakana") (.ofLines ["3031-3035 309b-309c 30a0 30fc ff70"])

/-- The letters of Hebrew. -/
def hebrewLetters (e : Edition) : CodeSet := (inScript "hebrew").inter (category e "Lo")

/-- The classes for cutting into words, by short and long name. -/
def wordClasses : List (List String × (Edition → CodeSet)) :=
  [(["cr"], fun _ => .single 0xd),
   (["lf"], fun _ => .single 0xa),
   (["dq", "doublequote"], fun _ => .single 0x22),
   (["sq", "singlequote"], fun _ => .single 0x27),
   (["ex", "extendnumlet"], fun _ => .ofLines ["5f 202f 203f-2040 2054 fe33-fe34 fe4d-fe4f ff3f"]),
   (["extend"], wordExtend),
   (["fo", "format"], fun e =>
      (category e "Cf").minus (.union (.range 0x200b 0x200d) (wordExtend e))),
   (["hl", "hebrewletter"], hebrewLetters),
   (["ka", "katakana"], fun _ => katakanaWords),
   (["le", "aletter"], fun e =>
      (CodeSet.union (alphabetic e) wordSigns).minus
        (.unions ([traitOrNone e "ideographic", katakanaWords, wordExtend e, hebrewLetters e] ++
          unspacedScripts.map inScript))),
   (["mb", "midnumlet"], fun _ => .ofLines ["2e 2018-2019 2024 fe52 ff07 ff0e"]),
   (["ml", "midletter"], fun _ => .ofLines ["3a b7 387 55f 5f4 2027 fe13 fe55 ff1a"]),
   (["mn", "midnum"], fun _ =>
      .ofLines ["2c 3b 37e 589 60c-60d 66c 7f8 2044 fe10 fe14 fe50 fe54 ff0c ff1b"]),
   (["nl", "newline"], fun _ => .ofLines ["b-c 85 2028-2029"]),
   (["nu", "numeric"], fun e => (category e "Nd").union (.single 0x66b)),
   (["ri", "regionalindicator"], fun e => traitOrNone e "regionalindicator"),
   (["wsegspace"], fun _ => .ofLines ["20 1680 2000-2006 2008-200a 205f 3000"]),
   (["zwj"], fun _ => .single 0x200d)]

/-! ### Sentences -/

/-- The characters that extend one inside a sentence. -/
def sentenceExtend (e : Edition) : CodeSet :=
  .unions [extending e, category e "Mc", .single 0x200d]

/-- Lower-case characters, without those of Georgian. -/
def sentenceLower (e : Edition) : CodeSet :=
  (lowercase e).minus (.union (sentenceExtend e) (.ofLines ["10d0-10fa 10fd-10ff"]))

/-- Upper-case and title-case characters, without those of Georgian. -/
def sentenceUpper (e : Edition) : CodeSet :=
  (CodeSet.union (category e "Lt") (uppercase e)).minus (.ofLines ["1c90-1cba 1cbd-1cbf"])

/-- Full stops. -/
def fullStops : CodeSet := .ofLines ["2e 2024 fe52 ff0e"]

/-- The classes for cutting into sentences, by short and long name. -/
def sentenceClasses : List (List String × (Edition → CodeSet)) :=
  [(["cr"], fun _ => .single 0xd),
   (["lf"], fun _ => .single 0xa),
   (["at", "aterm"], fun _ => fullStops),
   (["cl", "close"], fun e =>
      (CodeSet.unions [categories e ["Ps", "Pe", "Pi", "Pf"], traitOrNone e "quotationmark",
        .ofLines ["275b-2760 2e00-2e01 2e06-2e08 2e0b 1f676-1f678"]]).minus
      (.unions [.ofLines ["5f3 ff02 ff07"], fullStops, traitOrNone e "sentenceterminal"])),
   (["ex", "extend"], sentenceExtend),
   (["fo", "format"], fun e =>
      (category e "Cf").minus (.union (.single 0x200c) (sentenceExtend e))),
   (["le", "oletter"], fun e =>
      (CodeSet.union (alphabetic e) (.single 0x5f3)).minus
        (.unions [sentenceLower e, sentenceUpper e, sentenceExtend e])),
   (["lo", "lower"], sentenceLower),
   (["nu", "numeric"], fun e => (category e "Nd").union (.range 0x66b 0x66c)),
   (["sc", "scontinue"], fun _ =>
      .ofLines ["2c-2d 3a-3b 37e 55d 60c-60d 7f8 1802 1808 2013-2014 3001 fe10-fe11 fe13-fe14",
        "fe31-fe32 fe50-fe51 fe54-fe55 fe58 fe63 ff0c-ff0d ff1a-ff1b ff64"]),
   (["se", "sep"], fun _ => .ofLines ["85 2028-2029"]),
   (["sp"], fun _ => .ofLines ["9 b-c 20 a0 1680 2000-200a 202f 205f 3000"]),
   (["st", "sterm"], fun e => (traitOrNone e "sentenceterminal").minus fullStops),
   (["up", "upper"], sentenceUpper)]

/-! ### Classes by name -/

/-- The members of the class with this name. -/
def classNamed? (classes : List (List String × (Edition → CodeSet))) (e : Edition)
    (name : String) : Option CodeSet :=
  (classes.find? (·.1.contains name)).map fun (_, members) => members e

/-- A class for cutting into visible characters. -/
def clusterClass? (e : Edition) (name : String) : Option CodeSet :=
  classNamed? clusterClasses e name

/-- A class for cutting into words. -/
def wordClass? (e : Edition) (name : String) : Option CodeSet :=
  classNamed? wordClasses e name

/-- A class for cutting into sentences. -/
def sentenceClass? (e : Edition) (name : String) : Option CodeSet :=
  classNamed? sentenceClasses e name

end Switchyard.Text
