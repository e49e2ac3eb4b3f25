import Dialogue.Text.GlyphTable
import Dialogue.Text.Lowercase
import Dialogue.Text.WidthTable

/-!
# Characters side by side

Some characters take other columns beside their neighbors than alone: pictures are joined into one,
selectors change the look of the character before them, and letters melt into one glyph. It is
always the later characters that decide. So each character is measured with what is known of the
text after it, its sequel.
-/

namespace Dialogue.Text

/-- A letter that can share a glyph with the letters before it. -/
inductive Ligand where
  /-- An alef of Arabic, which a lam melts into. -/
  | alef
  /-- The lamed of Hebrew, which an alef melts into across a joiner. -/
  | lamed
  /-- The ya of Buginese, which the letter a with a vowel sign melts into across a joiner. -/
  | ya
  /-- The ya of Buginese and the vowel sign before it. -/
  | vowelYa
  /-- A consonant of Tifinagh, which another one melts into across a joiner of either kind. -/
  | consonant
  /-- A consonant of Tifinagh and the joiner of that script before it. -/
  | joinedConsonant
  /-- The i of Old Turkic, which one other letter melts into across a joiner. -/
  | orkhonI
  /-- A tone letter of Lisu that ends a pair. -/
  | tone
  /-- A letter of Khmer that stands below another one if a sign before it says so. -/
  | subscript
  deriving DecidableEq

/-- What comes after a character, as far as it bears on the columns of the character. -/
inductive Next where
  | plain
  | lineFeed
  | skinTone
  | picture
  /-- So many of the letters that make up flags. -/
  | flags (count : Nat)
  /-- A joiner and a picture. -/
  | joined
  /-- The frame of a keycap before a joiner and a picture. -/
  | joinedKeycap
  /-- So many of the letters that make up flags before a joiner and a picture. -/
  | joinedFlags (count : Nat)
  /-- So many tags of letters and the last tag before a joiner and a picture. -/
  | joinedLetters (count : Nat)
  /-- So many tags of digits, and perhaps tags of letters, before a joiner and a picture. -/
  | joinedDigits (count : Nat)
  /-- The vowel sign e of Kirat Rai. -/
  | vowelE
  /-- The vowel sign ai of Kirat Rai. -/
  | vowelAi
  /-- A letter that can share a glyph, with or without a joiner before it. -/
  | ligand (letter : Ligand) (linked : Bool)
  deriving DecidableEq

/-- What comes after a character, and what selectors in between ask of the character. -/
structure Sequel where
  next : Next := .plain
  /-- The character is to show in color. -/
  colored : Bool := false
  /-- The character is to show without color. -/
  uncolored : Bool := false
  /-- The character is to take two columns. -/
  broad : Bool := false
  deriving DecidableEq

def isJoiner (c : Char) : Bool := c.toNat == 0x200d

/-- The letters that make up flags. -/
def isFlagLetter (c : Char) : Bool := 0x1f1e6 ≤ c.toNat && c.toNat ≤ 0x1f1ff

def isSkinTone (c : Char) : Bool := 0x1f3fb ≤ c.toNat && c.toNat ≤ 0x1f3ff

/-- The flag that tags turn into the flag of a region. -/
def isBlackFlag (c : Char) : Bool := c.toNat == 0x1f3f4

def isLetterTag (c : Char) : Bool := 0xe0061 ≤ c.toNat && c.toNat ≤ 0xe007a

def isDigitTag (c : Char) : Bool := 0xe0030 ≤ c.toNat && c.toNat ≤ 0xe0039

/-- The quotation marks that a selector can make broad. -/
def isCurlyQuote (c : Char) : Bool := c == '‘' || c == '’' || c == '“' || c == '”'

/-- Pictures that can show without color, and are narrow then. -/
def isPlainable (c : Char) : Bool :=
  inRanges selectableRanges c && inRanges pictureRanges c &&
    !(0x1f200 ≤ c.toNat && c.toNat ≤ 0x1f2ff)

/-- The columns of a character that stands alone. -/
def charWidth (c : Char) : Nat :=
  let n := c.toNat
  if n == 0x17d8 then 3
  else if n == 0x17a4 then 2
  else if n == 0x2d7f then 1
  else if inRanges extendingRanges c || inRanges hiddenRanges c then 0
  else if inRanges wideRanges c then 2
  else 1

/-- What a character that stands alone is to the one before it. -/
def Next.ofChar (c : Char) : Next :=
  let n := c.toNat
  if n == 0x5dc then .ligand .lamed false
  else if inRanges alefRanges c then .ligand .alef false
  else if inRanges subscriptRanges c then .ligand .subscript false
  else if n == 0x1a10 then .ligand .ya false
  else if inRanges tifinaghRanges c then .ligand .consonant false
  else if n == 0xa4fc || n == 0xa4fd then .ligand .tone false
  else if n == 0x10c03 then .ligand .orkhonI false
  else if n == 0x16d67 then .vowelE
  else if n == 0x16d68 then .vowelAi
  else if isFlagLetter c then .flags 1
  else if isSkinTone c then .skinTone
  else if inRanges pictureRanges c then .picture
  else .plain

/-- What becomes of a letter and a character before it that go together: the columns that are added,
and what the two are to the character before them. -/
def Ligand.meld (c : Char) (linked : Bool) : Ligand → Option (Int × Next)
  | .alef =>
    if inRanges lamRanges c then some (0, .plain)
    else if charWidth c == 0 && !inRanges partingRanges c then some (0, .ligand .alef linked)
    else none
  | .lamed => if linked && c.toNat == 0x5d0 then some (0, .plain) else none
  | .ya => if linked && c.toNat == 0x1a17 then some (0, .ligand .vowelYa linked) else none
  | .vowelYa => if c.toNat == 0x1a15 then some (0, .plain) else none
  | .consonant =>
    if c.toNat == 0x2d7f then some (1, .ligand .joinedConsonant linked)
    else if linked && inRanges tifinaghRanges c then some (0, .plain)
    else none
  | .joinedConsonant => if inRanges tifinaghRanges c then some (-1, .plain) else none
  | .orkhonI => if linked && c.toNat == 0x10c32 then some (0, .plain) else none
  | .tone => if 0xa4f8 ≤ c.toNat && c.toNat ≤ 0xa4fb then some (0, .plain) else none
  | .subscript => if c.toNat == 0x17d2 then some (-1, .plain) else none

/-- What becomes of a character that goes together with what is next: the columns that are added,
and what is next for the character before. -/
def Next.meld (c : Char) : Next → Option (Int × Next)
  | .plain | .lineFeed | .joinedKeycap => none
  | .skinTone =>
    if inRanges toneBaseRanges c then some (0, .picture)
    else if isJoiner c then some (0, .joined)
    else none
  | .picture => if isJoiner c then some (0, .joined) else none
  | .flags n =>
    if isFlagLetter c then some (1, .flags (n + 1))
    else if isJoiner c && 2 ≤ n then some (0, .joined)
    else none
  | .joined =>
    if c.toNat == 0x20e3 then some (0, .joinedKeycap)
    else if isFlagLetter c then some (1, .joinedFlags 1)
    else if isSkinTone c then some (0, .skinTone)
    else if c.toNat == 0xe007f then some (0, .joinedLetters 0)
    else if inRanges pictureRanges c then some (0, .picture)
    else none
  | .joinedFlags n =>
    -- the letters go in pairs from the front: the last pair is joined and adds nothing if the count
    -- is even, and if it is odd, the last letter is alone and the pair before it is not joined
    if isFlagLetter c then some (if n % 2 == 1 then -1 else 3, .joinedFlags (n + 1))
    else if isJoiner c && 2 ≤ n then some (0, .joined)
    else none
  | .joinedLetters n =>
    if isLetterTag c && n < 6 then some (0, .joinedLetters (n + 1))
    else if isDigitTag c && n ≤ 4 then some (0, .joinedDigits 1)
    else if isBlackFlag c && 3 ≤ n then some (0, .picture)
    else none
  | .joinedDigits n =>
    if isDigitTag c && n < 3 then some (0, .joinedDigits (n + 1))
    else if isBlackFlag c && n == 3 then some (0, .picture)
    else none
  | .vowelE =>
    match c.toNat with
    | 0x16d63 | 0x16d69 => some (0, .plain)
    | 0x16d67 => some (0, .vowelAi)
    | 0x16d68 => some (1, .vowelE)
    | _ => none
  | .vowelAi => if c.toNat == 0x16d63 then some (0, .plain) else none
  | .ligand letter linked => letter.meld c linked

/-- What is next behind a character that does not part it from the one before. -/
def Next.through? (c : Char) : Next → Option Next
  | .ligand .alef _ => none
  | .ligand letter linked =>
    if isJoiner c then some (.ligand letter true)
    else if inRanges seamlessRanges c then some (.ligand letter linked)
    else none
  | _ => none

namespace Sequel

/-- What is left of a sequel behind a selector, to which nothing but letters is of note. -/
def behindSelector (s : Sequel) : Sequel :=
  match s.next with
  | .ligand .. => s
  | _ => {}

/-- The selector for color, which pictures can be joined across. -/
def selectColor (s : Sequel) : Sequel :=
  match s.next with
  | .ligand .. | .joined | .joinedKeycap => { s with colored := true }
  | _ => { colored := true }

/-- A character that no selector has a say in, before what is next. -/
def meld (c : Char) (next : Next) : Int × Sequel :=
  match next.through? c with
  | some next => (0, { next })
  | none =>
    let (columns, next) := (next.meld c).getD (charWidth c, Next.ofChar c)
    (columns, { next })

/-- The columns that a character adds to those of the text after it, and what it makes of the
sequel. -/
def advance (c : Char) (s : Sequel) : Int × Sequel :=
  if s.colored && inRanges selectableRanges c then
    (if s.next = .joined ∨ s.next = .joinedKeycap then 0 else 2, { next := .picture })
  else
    let s := if s.colored then { s.behindSelector with colored := false } else s
    if c.toNat ≤ 0xa0 then
      if c == '\n' then (1, { next := .lineFeed })
      else if c == '\x0d' && s.next = .lineFeed then (0, {})
      else (1, {})
    else if c.toNat == 0xfe0f then (0, s.selectColor)
    else if c.toNat == 0xfe0e then (0, { s.behindSelector with uncolored := true })
    else if c.toNat == 0xfe01 then (0, { s.behindSelector with broad := true })
    else if s.uncolored && isPlainable c then (1, {})
    else if s.broad && isCurlyQuote c then (2, {})
    else meld c s.next

end Sequel

end Dialogue.Text
