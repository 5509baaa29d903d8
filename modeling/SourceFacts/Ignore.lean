import SourceFacts.Ignore.Glob
import SourceFacts.Text.Blank

/-!
Ignore files: lists of rules that say which paths below a directory are left out. The last rule that
speaks of a path decides; a rule that starts with an exclamation mark lets the path in again.
-/
namespace SourceFacts

/-- A rule of an ignore file. -/
structure IgnoreRule where
  pattern : Pattern
  /-- Lets a path in instead of leaving it out. -/
  admits : Bool
  /-- Speaks of directories only. -/
  onlyDirectories : Bool

/-- What rules say about a path. -/
inductive Verdict where
  | ignored
  | admitted
  deriving DecidableEq, Repr, Inhabited

namespace IgnoreRule

/-- A line without the blanks at its end, unless the last one is escaped. -/
def trimEnd (line : List Char) : List Char :=
  match line.reverse with
  | ' ' :: '\\' :: _ => line
  | reversed => (reversed.dropWhile Text.isBlank).reverse

/-- The glob of a line, which is whole if it has to match from the directory on. A glob without a
slash matches at any depth; one that ends in two stars does not match the directory itself. -/
def globOf (line : List Char) (anchored : Bool) : String :=
  let text := String.ofList line
  let hasPrefix := text = "**" || "**/".toList.isPrefixOf line
  let glob := if anchored || line.contains '/' || hasPrefix then text else "**/" ++ text
  if "/**".toList.isSuffixOf glob.toList then glob ++ "/*" else glob

/-- A line without the slash at its end, and whether there was one. -/
def dropFinalSlash (line : List Char) : List Char × Bool :=
  match line.reverse with
  | '/' :: '\\' :: rest => (rest.reverse, true)
  | '/' :: rest => (rest.reverse, true)
  | _ => (line, false)

/-- The rule of a line. Comments, empty lines and malformed globs are none. -/
def ofLine? (line : String) : Option IgnoreRule := do
  if line.toList.head? = some '#' then none
  let chars := trimEnd line.toList
  if chars.isEmpty then none
  let (admits, anchored, chars) := match chars with
    | '\\' :: '!' :: _ => (false, false, chars.drop 1)
    | '\\' :: '#' :: _ => (false, false, chars.drop 1)
    | '!' :: '/' :: rest => (true, true, rest)
    | '!' :: rest => (true, false, rest)
    | '/' :: rest => (false, true, rest)
    | _ => (false, false, chars)
  let (chars, onlyDirectories) := dropFinalSlash chars
  return ⟨← Glob.pattern? (globOf chars anchored), admits, onlyDirectories⟩

/-- The lines of a text, without their ends. -/
def linesOf (text : String) : List String :=
  (text.toList.splitOn '\n').map fun line =>
    match line.reverse with
    | '\r' :: rest => String.ofList rest.reverse
    | _ => String.ofList line

/-- The rules of an ignore file. A mark at the start of the file is no part of its first line. -/
def ofText (text : String) : List IgnoreRule :=
  let chars := text.toList.dropWhile (· = '\ufeff')
  (linesOf (String.ofList chars)).filterMap ofLine?

/-- What a rule says about a path below its directory. -/
def verdict? (path : String) (isDirectory : Bool) (rule : IgnoreRule) : Option Verdict :=
  if (rule.onlyDirectories && !isDirectory) || !Glob.holds rule.pattern path then none
  else some (if rule.admits then .admitted else .ignored)

end IgnoreRule

/-- What rules say about a path: the last one that says anything. -/
def verdictOf? (rules : List IgnoreRule) (path : String) (isDirectory : Bool) : Option Verdict :=
  rules.reverse.findSome? (IgnoreRule.verdict? path isDirectory)

/-- The rules that a directory sets for what is below it, strongest first. -/
structure DirectoryRules where
  /-- The components of the directory. -/
  base : List String
  ignore : List IgnoreRule
  gitIgnore : List IgnoreRule
  gitExclude : List IgnoreRule

/-- What the directories around a path say about it, the innermost given first. For each kind of
file the innermost directory that says anything counts, and a stronger kind counts more than an
inner directory. -/
def judge? (directories : List DirectoryRules) (path : List String) (isDirectory : Bool) :
    Option Verdict :=
  let ask (rulesOf : DirectoryRules → List IgnoreRule) : Option Verdict :=
    directories.findSome? fun directory =>
      verdictOf? (rulesOf directory) ("/".intercalate (path.drop directory.base.length)) isDirectory
  (ask (·.ignore)).or ((ask (·.gitIgnore)).or (ask (·.gitExclude)))

end SourceFacts
