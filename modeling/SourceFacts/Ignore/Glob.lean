import SourceFacts.Pattern
import SourceFacts.Text.Bytes

/-!
Globs: the patterns of ignore files. A star and a question mark stand for bytes other than the
slash; two stars that fill a whole component stand for any components, or none.
-/
namespace SourceFacts.Glob

/-- A part of a glob. -/
inductive Token where
  | literal (c : Char)
  /-- Any byte but a slash. -/
  | any
  /-- Any bytes but slashes. -/
  | star
  /-- Any components in front. -/
  | leading
  /-- Anything below. -/
  | trailing
  /-- Any components in between. -/
  | between
  | set (negated : Bool) (ranges : List (Char × Char))
  | alternatives (choices : List (List Token))
  deriving Inhabited

/-- One level of braces while a glob is read: the finished choices and the tokens of the open one,
both last first. -/
structure Level where
  choices : List (List Token)
  tokens : List Token
  deriving Inhabited

/-- The levels that are open, innermost first; the last one is the glob itself. -/
abbrev Levels := List Level

/-- Adds a token to the open choice. -/
def push (token : Token) : Levels → Levels
  | level :: outer => { level with tokens := token :: level.tokens } :: outer
  | [] => [⟨[], [token]⟩]

/-- Puts a token in place of the last one, unless that already reaches over components. -/
def replaceLast (token : Token) : Levels → Levels
  | level :: outer =>
    match level.tokens with
    | .leading :: _ => level :: outer
    | .trailing :: _ => level :: outer
    | _ :: rest => { level with tokens := token :: rest } :: outer
    | [] => { level with tokens := [token] } :: outer
  | [] => [⟨[], [token]⟩]

/-- Whether the open choice has tokens. -/
def hasTokens : Levels → Bool
  | level :: _ => !level.tokens.isEmpty
  | [] => false

/-- Takes the ranges of a set from behind its opening. A bracket right at the start is part of the
set. -/
def setRanges : List (Char × Char) → Bool → Bool → List Char →
    Option (List (Char × Char) × List Char)
  | _, _, _, [] => none
  | ranges, isFirst, open_, c :: rest =>
    if c = ']' && !isFirst then
      some ((if open_ then ('-', '-') :: ranges else ranges).reverse, rest)
    else if c = '-' && !isFirst && !open_ then setRanges ranges false true rest
    else if open_ then
      match ranges with
      | (first, _) :: before =>
        if c.toNat < first.toNat then none else setRanges ((first, c) :: before) false false rest
      | [] => none
    else setRanges ((c, c) :: ranges) false false rest

/-- Takes a set from behind its opening bracket. -/
def setToken : List Char → Option (Token × List Char)
  | '!' :: rest => (setRanges [] true false rest).map fun (ranges, rest) => (.set true ranges, rest)
  | '^' :: rest => (setRanges [] true false rest).map fun (ranges, rest) => (.set true ranges, rest)
  | chars => (setRanges [] true false chars).map fun (ranges, rest) => (.set false ranges, rest)

/-- What two stars become, and what is left to read: they reach over components only if they fill a
component. -/
def doubleStar (previous : Option Char) (levels : Levels) (rest : List Char) :
    Levels × List Char :=
  let inBraces := levels.length ≥ 2
  let plain := (push .star (push .star levels), rest)
  if !hasTokens levels then
    match rest with
    | [] => (push .leading levels, [])
    | '/' :: rest => (push .leading levels, rest)
    | _ => plain
  else if previous ≠ some '/' && !(inBraces && (previous = some ',' || previous = some '\x7b')) then
    plain
  else
    match rest with
    | [] => (replaceLast .trailing levels, [])
    | '/' :: rest => (replaceLast .between levels, rest)
    | c :: _ =>
      if inBraces && (c = ',' || c = '\x7d') then (replaceLast .trailing levels, rest) else plain

/-- Closes the open choice of a level. -/
def closeChoice (level : Level) : List (List Token) := level.tokens.reverse :: level.choices

/-- Reads a glob. The number bounds how many steps it takes. -/
def tokensFrom : Nat → Option Char → Levels → List Char → Option (List Token)
  | 0, _, _, _ => none
  | steps + 1, previous, levels, chars =>
    match chars with
    | [] =>
      match levels with
      | [level] => some level.tokens.reverse
      | _ => none
    | '?' :: rest => tokensFrom steps (some '?') (push .any levels) rest
    | '*' :: '*' :: rest =>
      let (levels, left) := doubleStar previous levels rest
      let last := if left.length < rest.length then '/' else '*'
      tokensFrom steps (some last) levels left
    | '*' :: rest => tokensFrom steps (some '*') (push .star levels) rest
    | '[' :: rest => do
      let (token, rest) ← setToken rest
      tokensFrom steps (some ']') (push token levels) rest
    | '\x7b' :: rest => tokensFrom steps (some '\x7b') (⟨[], []⟩ :: levels) rest
    | '\x7d' :: rest =>
      match levels with
      | level :: outer :: more =>
        tokensFrom steps (some '\x7d')
          (push (.alternatives (closeChoice level).reverse) (outer :: more)) rest
      | _ => none
    | ',' :: rest =>
      match levels with
      | level :: outer :: more =>
        tokensFrom steps (some ',') (⟨closeChoice level, []⟩ :: outer :: more) rest
      | _ => tokensFrom steps (some ',') (push (.literal ',') levels) rest
    | '\\' :: c :: rest => tokensFrom steps (some c) (push (.literal c) levels) rest
    | '\\' :: [] => none
    | c :: rest => tokensFrom steps (some c) (push (.literal c) levels) rest

/-- The tokens of a glob. -/
def tokens? (glob : String) : Option (List Token) :=
  tokensFrom (glob.length + 1) none [⟨[], []⟩] glob.toList

/-- A text with one character for each of its bytes. -/
def byteChars (text : String) : List Char :=
  (Text.bytes text).map fun byte => Char.ofNat byte.toNat

/-- Patterns one after the other. -/
def inSequence (patterns : List Pattern) : Pattern :=
  patterns.foldr .sequence .empty

/-- Any byte. -/
def anyByte : Pattern := .one (.other (.union [])) false

/-- Any byte but a slash. -/
def noSlash : Pattern := .one (.other (.single '/')) false

/-- A slash. -/
def slash : Pattern := .one (.single '/') false

/-- Any bytes. -/
def anyBytes : Pattern := .repeated anyByte 0 none

mutual

/-- The pattern of a token. -/
def Token.toPattern : Token → Pattern
  | .literal c =>
    inSequence ((byteChars (String.singleton c)).map fun byte => .one (.single byte) false)
  | .any => noSlash
  | .star => .repeated noSlash 0 none
  | .leading => .either (.repeated slash 0 (some 1)) (.sequence anyBytes slash)
  | .trailing => .sequence slash anyBytes
  | .between => .either slash (.sequence slash (.sequence anyBytes slash))
  | .set negated ranges =>
    let set := CharSet.union (ranges.map fun (first, last) => .range first last)
    .one (if negated then .other set else set) false
  | .alternatives choices => choicesPattern choices

/-- The pattern of tokens one after the other. -/
def patternOf : List Token → Pattern
  | [] => .empty
  | token :: rest => .sequence token.toPattern (patternOf rest)

/-- The pattern of choices; an empty choice is none, and no choice at all takes up nothing. -/
def choicesPattern : List (List Token) → Pattern
  | [] => .empty
  | choice :: rest =>
    if choice.isEmpty then choicesPattern rest
    else if rest.all List.isEmpty then patternOf choice
    else .either (patternOf choice) (choicesPattern rest)

end

/-- The pattern that a path has to match as a whole. -/
def pattern? (glob : String) : Option Pattern := do
  match ← tokens? glob with
  | [.leading] => return .sequence (.anchor .start) (.sequence anyBytes (.anchor .stop))
  | tokens => return .sequence (.anchor .start) (.sequence (patternOf tokens) (.anchor .stop))

/-- Whether a path matches a glob's pattern. -/
def holds (pattern : Pattern) (path : String) : Bool :=
  !(pattern.ends (byteChars path) [0]).isEmpty

end SourceFacts.Glob
