/-!
Everything that can go wrong, by cause, and the wording of each cause.
-/
namespace SourceFacts

/-- A failure of the program. -/
inductive Error where
  /-- A file could not be read. -/
  | io (text : String)
  /-- A source text could not be read. -/
  | parse (text : String)
  /-- No grammar takes the file or answers to the name. -/
  | unsupportedLanguage (what : String)
  /-- The pool no longer takes work. -/
  | poolDisposed
  /-- A worker did not finish its chunk in time. -/
  | workerTimeout (chunk timeoutMs : Nat)
  /-- A worker did not deliver its chunk. -/
  | workerFailed (chunk : Nat) (reason : String)
  /-- A structured text is not the expected record. -/
  | json (text : String)
  /-- The configuration is not usable. -/
  | config (text : String)
  /-- A search pattern is malformed. -/
  | invalidPattern (text : String)
  /-- A directory cannot be watched. -/
  | watcher (text : String)
  deriving DecidableEq, Repr, Inhabited

namespace Error

/-- The text that a user is shown. -/
def message : Error → String
  | io text => "IO error: " ++ text
  | parse text => "Parse error: " ++ text
  | unsupportedLanguage what => "Language not supported: " ++ what
  | poolDisposed => "Worker pool has been disposed"
  | workerTimeout chunk timeoutMs =>
    "Worker for chunk " ++ toString chunk ++ " timed out after " ++ toString timeoutMs ++ "ms"
  | workerFailed chunk reason =>
    "Worker for chunk " ++ toString chunk ++ " failed: " ++ reason
  | json text => "JSON error: " ++ text
  | config text => "Config error: " ++ text
  | invalidPattern text => "Invalid pattern: " ++ text
  | watcher text => "Watcher error: " ++ text

end Error

end SourceFacts
