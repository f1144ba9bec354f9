/-
  TileEvents.Ron.Token
  ────────────────────
  **THE TOKENS OF A DOCUMENT.**

  A document is a text of brackets, marks, words, numbers and quoted text,
  with blanks and comments between them.  Scanning takes one lexeme after the
  other off the text; a word or a number reaches as far as it can.  Spelling
  goes the other way, one token at a time.
-/
import TileEvents.Ron.Numeral
import TileEvents.Text.Identifier
import TileEvents.Text.Inspect
import TileEvents.Text.Quoted
import TileEvents.Text.Utf8

namespace TileEvents.Ron

/-! ## §1. Tokens. -/

/-- The pairs of brackets. -/
inductive Bracket where
  | round
  | square
  | curly
  deriving DecidableEq

/-- A token that is no bracket. -/
inductive Leaf where
  | comma
  | colon
  | hash
  | bang
  /-- Round brackets with nothing at all between them. -/
  | unit
  | word (name : String)
  | number (n : Numeral)
  | text (s : String)
  | character (c : Char)
  | bytes (bs : List UInt8)
  deriving DecidableEq

/-- A token. -/
inductive Token where
  | opening (b : Bracket)
  | closing (b : Bracket)
  | leaf (l : Leaf)
  deriving DecidableEq

/-! ## §2. Blanks and comments. -/

/-- Whether `c` separates tokens. -/
def isBlank (c : Char) : Bool :=
  c ∈ [' ', '\t', '\n', '\x0b', '\x0c', '\r', '\u0085', '\u200e', '\u200f', '\u2028', '\u2029']

/-- What stands behind a block comment with `depth` more comments around it; comments nest. -/
def afterComment? : Nat → List Char → Option (List Char)
  | depth, '/' :: '*' :: rest => afterComment? (depth + 1) rest
  | 0, '*' :: '/' :: rest => some rest
  | depth + 1, '*' :: '/' :: rest => afterComment? depth rest
  | depth, _ :: rest => afterComment? depth rest
  | _, [] => none

/-! ## §3. Escapes. -/

/-- The number that two hexadecimal digits write. -/
def hexByte? : List Char → Option (UInt8 × List Char)
  | a :: b :: rest =>
    match Text.hexValue? a, Text.hexValue? b with
    | some x, some y => some (UInt8.ofNat (16 * x + y), rest)
    | _, _ => none
  | _ => none

/-- `n` further bytes, each behind a backslash and an x. -/
def hexBytes? : Nat → List Char → Option (List UInt8 × List Char)
  | 0, s => some ([], s)
  | n + 1, '\\' :: 'x' :: s =>
    match hexByte? s with
    | none => none
    | some (b, rest) => (hexBytes? n rest).map fun (bs, rest) => (b :: bs, rest)
  | _ + 1, _ => none

/-- A code in braces: one to six hexadecimal digits. -/
def codeInBraces? : List Char → Option (Char × List Char)
  | '\x7b' :: rest =>
    let digits := (rest.take 6).takeWhile (· != '\x7d')
    match Text.ofHex? digits, rest.drop digits.length with
    | some c, '\x7d' :: after => some (c, after)
    | _, _ => none
  | _ => none

/-- A character by the bytes of its encoding; the backslash and the x of the first are gone. -/
def codeInBytes? (s : List Char) : Option (Char × List Char) :=
  match hexByte? s with
  | none => none
  | some (first, rest) =>
    match hexBytes? (Text.Utf8.followers first) rest with
    | none => none
    | some (more, rest) => (Text.Utf8.char? (first :: more)).map (·, rest)

/-- The escapes of one character. -/
def plainEscapes : List (Char × Char) := [
  ('n', '\n'), ('r', '\r'), ('t', '\t'), ('0', '\x00'), ('\'', '\''), ('"', '"'), ('\\', '\\')]

/-- An escape in text. -/
def textEscape? : List Char → Option (Char × List Char)
  | [] => none
  | 'u' :: rest => codeInBraces? rest
  | 'x' :: rest => codeInBytes? rest
  | c :: rest => (plainEscapes.lookup c).map (·, rest)

/-- An escape of a single character; a byte has to be one in ASCII. -/
def characterEscape? : List Char → Option (Char × List Char)
  | 'x' :: rest =>
    match hexByte? rest with
    | some (b, rest) => if b < 0x80 then some (Char.ofNat b.toNat, rest) else none
    | none => none
  | s => textEscape? s

/-- An escape among bytes. -/
def byteEscape? : List Char → Option (List UInt8 × List Char)
  | [] => none
  | 'u' :: rest => (codeInBraces? rest).map fun (c, rest) => (Text.Utf8.encode c, rest)
  | 'x' :: rest => (hexByte? rest).map fun (b, rest) => ([b], rest)
  | c :: rest => (plainEscapes.lookup c).map (Text.Utf8.encode ·, rest)

theorem hexByte?_shorter {s rest : List Char} {b : UInt8} (h : hexByte? s = some (b, rest)) :
    rest.length < s.length := by
  unfold hexByte? at h
  split at h
  next =>
    split at h
    next =>
      simp only [Option.some.injEq, Prod.mk.injEq] at h
      rw [← h.2, List.length_cons, List.length_cons]
      omega
    next => simp at h
  next => simp at h

theorem hexBytes?_le {n : Nat} {s rest : List Char} {bs : List UInt8}
    (h : hexBytes? n s = some (bs, rest)) : rest.length ≤ s.length := by
  fun_induction hexBytes? n s generalizing bs rest with
  | case1 => simp_all
  | case2 => simp at h
  | case3 n s b after hb ih =>
    simp only [Option.map_eq_some_iff, Prod.exists, Prod.mk.injEq] at h
    obtain ⟨bs', rest', hr, -, rfl⟩ := h
    have h1 := ih hr
    have h2 := hexByte?_shorter hb
    simp only [List.length_cons]
    omega
  | case4 => simp at h

theorem codeInBraces?_shorter {s rest : List Char} {c : Char}
    (h : codeInBraces? s = some (c, rest)) : rest.length < s.length := by
  unfold codeInBraces? at h
  split at h
  · rename_i body
    simp only at h
    split at h
    · rename_i hd
      simp only [Option.some.injEq, Prod.mk.injEq] at h
      have := congrArg List.length hd
      simp only [List.length_drop, List.length_cons] at this
      simp only [List.length_cons, ← h.2]
      omega
    · simp at h
  · simp at h

theorem codeInBytes?_shorter {s rest : List Char} {c : Char}
    (h : codeInBytes? s = some (c, rest)) : rest.length < s.length := by
  unfold codeInBytes? at h
  split at h
  · simp at h
  · rename_i hb
    split at h
    · simp at h
    · rename_i hm
      simp only [Option.map_eq_some_iff, Prod.mk.injEq] at h
      obtain ⟨_, _, -, rfl⟩ := h
      have h1 := hexByte?_shorter hb
      have h2 := hexBytes?_le hm
      omega

theorem textEscape?_shorter {s rest : List Char} {c : Char}
    (h : textEscape? s = some (c, rest)) : rest.length < s.length := by
  unfold textEscape? at h
  split at h
  · simp at h
  · have := codeInBraces?_shorter h
    simp only [List.length_cons]
    omega
  · have := codeInBytes?_shorter h
    simp only [List.length_cons]
    omega
  · simp only [Option.map_eq_some_iff, Prod.mk.injEq] at h
    obtain ⟨_, _, -, rfl⟩ := h
    simp

theorem byteEscape?_shorter {s rest : List Char} {bs : List UInt8}
    (h : byteEscape? s = some (bs, rest)) : rest.length < s.length := by
  unfold byteEscape? at h
  split at h
  · simp at h
  · simp only [Option.map_eq_some_iff, Prod.exists, Prod.mk.injEq] at h
    obtain ⟨_, _, hr, -, rfl⟩ := h
    have := codeInBraces?_shorter hr
    simp only [List.length_cons]
    omega
  · simp only [Option.map_eq_some_iff, Prod.exists, Prod.mk.injEq] at h
    obtain ⟨_, _, hr, -, rfl⟩ := h
    have := hexByte?_shorter hr
    simp only [List.length_cons]
    omega
  · simp only [Option.map_eq_some_iff, Prod.mk.injEq] at h
    obtain ⟨_, _, -, rfl⟩ := h
    simp

/-! ## §4. Quoted text. -/

/-- Text behind its opening quote. -/
def textBody? : List Char → Option (List Char × List Char) :=
  Text.quotedBody? ⟨textEscape?, textEscape?_shorter⟩ some

/-- Bytes behind their opening quote. -/
def bytesBody? (s : List Char) : Option (List UInt8 × List Char) :=
  (Text.quotedBody? ⟨byteEscape?, byteEscape?_shorter⟩ (fun c => some (Text.Utf8.encode c)) s).map
    fun (bs, rest) => (bs.flatten, rest)

/-- Raw text up to a quote with `hashes` hash marks behind it, and what stands behind those. -/
def rawBody? (hashes : Nat) : List Char → Option (List Char × List Char)
  | [] => none
  | c :: rest =>
    if c = '"' ∧ rest.take hashes = List.replicate hashes '#' then some ([], rest.drop hashes)
    else (rawBody? hashes rest).map fun (cs, rest) => (c :: cs, rest)

/-- Raw text behind the letter that announces it: hash marks, a quote and the text. -/
def rawText? (s : List Char) : Option (List Char × List Char) :=
  let hashes := (s.takeWhile (· == '#')).length
  match s.drop hashes with
  | '"' :: rest => rawBody? hashes rest
  | _ => none

/-- A character behind its opening apostrophe. -/
def characterBody? (s : List Char) : Option (Char × List Char) :=
  let read : Option (Char × List Char) :=
    match s with
    | [] => none
    | '\\' :: rest => characterEscape? rest
    | c :: rest => some (c, rest)
  match read with
  | some (c, '\'' :: rest) => some (c, rest)
  | _ => none

/-- A byte behind its opening apostrophe. -/
def byteBody? (s : List Char) : Option (UInt8 × List Char) :=
  let read : Option (List UInt8 × List Char) :=
    match s with
    | [] => none
    | '\\' :: 'u' :: _ => none
    | '\\' :: rest => byteEscape? rest
    | c :: rest => some (Text.Utf8.encode c, rest)
  match read with
  | some ([b], '\'' :: rest) => some (b, rest)
  | _ => none

/-! ## §5. Words. -/

/-- The words that are values of their own; a raw word never means one of them. -/
def reservedWords : List String := [
  "true", "false", "Some", "None", "inf", "NaN", "inff32", "inff64", "NaNf32", "NaNf64"]

/-- Whether a raw word can go on with `c`. -/
def isRawWordRest (c : Char) : Bool := Text.isNameRest c || c ∈ ['.', '+', '-']

/-- The word that a raw word stands for; the word that turns switches on is never a raw one. -/
def ofRawWord (name : String) : String :=
  if name ∈ "enable" :: reservedWords then "r#" ++ name else name

/-- Whether `c` belongs to a number. -/
def isNumberMark (c : Char) : Bool := c.isAlphanum || c ∈ ['_', '.', '+', '-']

/-! ## §6. Scanning. -/

/-- A token made from what a reader found. -/
def lexed {α : Type} (f : α → Leaf) : Option (α × List Char) → Option (Option Token × List Char) :=
  Option.map fun (a, rest) => (some (.leaf (f a)), rest)

/-- A mark that is a token by itself. -/
def markToken? : Char → Option Token
  | '(' => some (.opening .round)
  | ')' => some (.closing .round)
  | '[' => some (.opening .square)
  | ']' => some (.closing .square)
  | '\x7b' => some (.opening .curly)
  | '\x7d' => some (.closing .curly)
  | ',' => some (.leaf .comma)
  | ':' => some (.leaf .colon)
  | '#' => some (.leaf .hash)
  | '!' => some (.leaf .bang)
  | _ => none

/-- A word or a number at the head of a text. -/
def solid? (s : List Char) : Option (Option Token × List Char) :=
  match s with
  | [] => none
  | c :: _ =>
    if Text.isNameStart c then
      some (some (.leaf (.word (String.ofList (s.takeWhile Text.isNameRest)))),
        s.dropWhile Text.isNameRest)
    else if c.isDigit || c ∈ ['+', '-', '.'] then
      (Numeral.ofLexeme? (s.takeWhile isNumberMark)).map fun n =>
        (some (.leaf (.number n)), s.dropWhile isNumberMark)
    else none

/-- **The lexeme at the head of a text:** a token, or a blank or comment, which is none. -/
def lexeme? (s : List Char) : Option (Option Token × List Char) :=
  match s with
  | [] => none
  | '/' :: '/' :: rest => some (none, rest.dropWhile (· != '\n'))
  | '/' :: '*' :: rest => (afterComment? 0 rest).map (none, ·)
  | '(' :: ')' :: rest => some (some (.leaf .unit), rest)
  | '"' :: rest => lexed (fun cs => .text (String.ofList cs)) (textBody? rest)
  | '\'' :: rest => lexed .character (characterBody? rest)
  | 'r' :: '"' :: rest => lexed (fun cs => .text (String.ofList cs)) (rawText? ('"' :: rest))
  | 'r' :: '#' :: c :: rest =>
    if isRawWordRest c then
      let s := c :: rest
      some (some (.leaf (.word (ofRawWord (String.ofList (s.takeWhile isRawWordRest))))),
        s.dropWhile isRawWordRest)
    else lexed (fun cs => .text (String.ofList cs)) (rawText? ('#' :: c :: rest))
  | 'b' :: '"' :: rest => lexed .bytes (bytesBody? rest)
  | 'b' :: '\'' :: rest =>
    lexed (fun b => .number (.integer b.toNat (some (.unsigned 8)))) (byteBody? rest)
  | 'b' :: 'r' :: '"' :: rest => lexed (fun cs => .bytes (cs.flatMap Text.Utf8.encode))
      (rawText? ('"' :: rest))
  | 'b' :: 'r' :: '#' :: rest => lexed (fun cs => .bytes (cs.flatMap Text.Utf8.encode))
      (rawText? ('#' :: rest))
  | c :: rest =>
    if isBlank c then some (none, rest)
    else
      match markToken? c with
      | some t => some (some t, rest)
      | none => solid? (c :: rest)

/-- The tokens of a text that has at most `fuel` lexemes. -/
def scanWithin : Nat → List Char → Option (List Token)
  | _, [] => some []
  | 0, _ :: _ => none
  | fuel + 1, s =>
    match lexeme? s with
    | none => none
    | some (t, rest) => (scanWithin fuel rest).map (t.toList ++ ·)

/-- **The tokens of a text.**  Every lexeme takes a character, so a text has at most as many. -/
def scan (s : List Char) : Option (List Token) := scanWithin s.length s

/-! ## §7. Spelling. -/

/-- The two hexadecimal digits of a byte behind a backslash and an x. -/
def spellByte (b : UInt8) : String :=
  "\\x" ++ Text.padStart '0' 2 (Text.hexadecimal b.toNat)

/-- How a token that is no bracket is written; quotes, apostrophes and backslashes in text carry a
backslash. -/
def Leaf.spell : Leaf → String
  | comma => ","
  | colon => ":"
  | hash => "#"
  | bang => "!"
  | unit => "()"
  | word name => name
  | number n => n.spell
  | text s => Text.quoted ['"', '\'', '\\'] s
  | character c => "'" ++ Text.escaped ['\'', '\\'] c ++ "'"
  | bytes bs => "b\"" ++ String.join (bs.map spellByte) ++ "\""

/-- The opening bracket of a pair. -/
def Bracket.openingMark : Bracket → String
  | round => "("
  | square => "["
  | curly => "\x7b"

/-- The closing bracket of a pair. -/
def Bracket.closingMark : Bracket → String
  | round => ")"
  | square => "]"
  | curly => "\x7d"

/-- How a token is written. -/
def Token.spell : Token → String
  | opening b => b.openingMark
  | closing b => b.closingMark
  | leaf l => l.spell

/-- **The text of tokens**, one behind the other. -/
def spellAll (ts : List Token) : String := String.join (ts.map Token.spell)

end TileEvents.Ron
