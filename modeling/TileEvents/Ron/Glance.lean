/-
  TileEvents.Ron.Glance
  ─────────────────────
  **WHETHER SOME SHARES ITS BRACKETS.**

  In a document whose values may share the brackets of Some, Some(a, b) gives
  a pair and Some(a) gives a.  Which of them it is, is told before the content
  is read, by a glance over the text behind the opening bracket: brackets are
  counted up to the first comma between the outermost ones or to their end.
  The glance passes over blanks, comments and quoted text, but less carefully
  than reading does.  Behind quoted text it takes one character as it is, even
  if that begins a comment, and it takes a byte between apostrophes for a
  character, which a byte beyond ASCII is not.

      several? text  =  none           the text cannot be passed over
                        some false     a single value, so there may be no second
                        some true      nothing, a tuple or a record

  A glance that cannot be finished makes the document unreadable, and so does
  one that sees a single value where there are more.
-/
import TileEvents.Ron.Token

namespace TileEvents.Ron

/-! ## §1. Blanks and comments. -/

theorem afterComment?_le {depth : Nat} {s rest : List Char} (h : afterComment? depth s = some rest) :
    rest.length ≤ s.length := by
  fun_induction afterComment? depth s with
  | case1 depth s ih =>
    have := ih h
    simp only [List.length_cons]
    omega
  | case2 => simp_all; omega
  | case3 depth s ih =>
    have := ih h
    simp only [List.length_cons]
    omega
  | case4 depth c s _ _ _ ih =>
    have := ih h
    simp only [List.length_cons]
    omega
  | case5 => simp at h

/-- What stands behind blanks and comments. -/
def skipFill? (s : List Char) : Option (List Char) :=
  match s with
  | [] => some []
  | '/' :: '/' :: rest => skipFill? (rest.dropWhile (· != '\n'))
  | '/' :: '*' :: rest =>
    match _h : afterComment? 0 rest with
    | some after => skipFill? after
    | none => none
  | '/' :: _ => none
  | c :: rest => if isBlank c then skipFill? rest else some (c :: rest)
termination_by s.length
decreasing_by
  · have := (List.dropWhile_sublist (fun c : Char => c != '\n') (l := rest)).length_le
    simp only [List.length_cons]
    omega
  · have := afterComment?_le ‹_›
    simp only [List.length_cons]
    omega
  · simp

/-! ## §2. Quoted text. -/

/-- How quoted text ends. -/
inductive Ending where
  | closed (rest : List Char)
  /-- There is no closing quote. -/
  | unclosed
  /-- There is no quoted text, or an escape in it is none. -/
  | broken

/-- How text behind its opening quote ends. -/
def endOfQuoted {α : Type} (escape : Text.EscapeReader α) (s : List Char) : Ending :=
  match s with
  | [] => .unclosed
  | '"' :: rest => .closed rest
  | '\\' :: rest =>
    match _h : escape.read rest with
    | some (_, after) => endOfQuoted escape after
    | none => if '"' ∈ rest then .broken else .unclosed
  | _ :: rest => endOfQuoted escape rest
termination_by s.length
decreasing_by
  · have := escape.shorter ‹_›
    simp only [List.length_cons]
    omega
  · simp

/-- How raw text behind the letter that announces it ends. -/
def endOfRaw (s : List Char) : Ending :=
  match rawText? s, s.dropWhile (· == '#') with
  | some (_, rest), _ => .closed rest
  | none, '"' :: _ => .unclosed
  | none, _ => .broken

/-- How the text at the head of `s` ends. -/
def endOfText : List Char → Ending
  | '"' :: rest => endOfQuoted ⟨textEscape?, textEscape?_shorter⟩ rest
  | 'r' :: rest => endOfRaw rest
  | _ => .broken

/-- How the bytes at the head of `s` end. -/
def endOfBytes : List Char → Ending
  | 'b' :: '"' :: rest => endOfQuoted ⟨byteEscape?, byteEscape?_shorter⟩ rest
  | 'b' :: 'r' :: rest => endOfRaw rest
  | _ => .broken

/-- What stands behind the end, or all of `s` if there is no quoted text. -/
def Ending.behind? (s : List Char) : Ending → Option (List Char)
  | closed rest => some rest
  | unclosed => none
  | broken => some s

/-- What stands behind a character at the head of `s`, if there is one. -/
def skipCharacter : List Char → List Char
  | '\'' :: rest =>
    match characterBody? rest with
    | some (_, after) => after
    | none => '\'' :: rest
  | s => s

/-- What stands behind blanks, comments and quoted text. -/
def skipQuoted? (s : List Char) : Option (List Char) := do
  let s := skipCharacter (← skipFill? s)
  let s ← (endOfText s).behind? s
  (endOfBytes s).behind? s

/-! ## §3. The glance. -/

/-- Whether the text behind a comma goes on before the brackets close. -/
def goesOn? (s : List Char) : Option Bool :=
  (skipFill? s).map fun rest => rest.head? != some ')'

/-- Whether there is more than one item between brackets, `depth` more of which are open; the glance
takes at most `fuel` characters one by one. -/
def severalWithin? : Nat → Nat → List Char → Option Bool
  | 0, _, _ => none
  | fuel + 1, depth, s =>
    match skipQuoted? s with
    | none | some [] => none
    | some (c :: rest) =>
      if c ∈ ['(', '[', '\x7b'] then severalWithin? fuel (depth + 1) rest
      else if c ∈ [')', ']', '\x7d'] then
        match depth with
        | 0 => some false
        | depth + 1 => severalWithin? fuel depth rest
      else if c = ',' ∧ depth = 0 then goesOn? rest
      else severalWithin? fuel depth rest

/-- Whether there is anything but a single value between the brackets that open before `s`; a word
with a colon or a comma behind it tells at once. -/
def several? (s : List Char) : Option Bool :=
  match skipFill? s with
  | none => none
  | some (')' :: _) => some true
  | some s =>
    match lexeme? s with
    | some (some (.leaf (.word _)), rest) =>
      match skipFill? rest with
      | none => none
      | some (':' :: _) => some true
      | some (',' :: rest) => goesOn? rest
      | some rest => severalWithin? rest.length 0 rest
    | _ => severalWithin? s.length 0 s

/-! ## §4. The brackets of a document. -/

/-- A token and what stands behind it in the text. -/
abbrev Place := Token × List Char

/-- The tokens of a text of at most `fuel` lexemes in their places. -/
def placesWithin : Nat → List Char → List Place
  | 0, _ => []
  | fuel + 1, s =>
    match lexeme? s with
    | none => []
    | some (t, rest) => t.toList.map (·, rest) ++ placesWithin fuel rest

/-- Whether tokens hold a second item before the brackets close, `depth` more of which are open. -/
def hasSecondItem : Nat → List Place → Bool
  | _, [] => false
  | 0, (.leaf .comma, _) :: (.closing _, _) :: _ => false
  | 0, (.leaf .comma, _) :: _ => true
  | 0, (.closing _, _) :: _ => false
  | depth + 1, (.closing _, _) :: ps => hasSecondItem depth ps
  | depth, (.opening _, _) :: ps => hasSecondItem (depth + 1) ps
  | depth, _ :: ps => hasSecondItem depth ps

/-- Whether every glance behind Some and its bracket can be finished and overlooks no second item. -/
def glancesHoldFrom : List Place → Bool
  | [] => true
  | (.leaf (.word "Some"), _) :: (.opening .round, rest) :: more =>
    (match several? rest with
      | some true => true
      | some false => !hasSecondItem 0 more
      | none => false) && glancesHoldFrom more
  | _ :: more => glancesHoldFrom more

/-- **Whether the glances in a text agree with its brackets.** -/
def glancesHold (s : List Char) : Bool := glancesHoldFrom (placesWithin s.length s)

end TileEvents.Ron
