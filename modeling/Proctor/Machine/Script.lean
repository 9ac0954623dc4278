/-!
# Scripts

The commands of a shell, as they are once a text has been read. What stands inside a
substitution or after an operator of a parameter is kept as text, and is read when it
is needed.
-/

namespace Proctor.Machine

/-- One element of a word. Only what is not quoted is split and matched against the
names of files. -/
inductive Part where
  | text (s : List Char) (quoted : Bool)
  /-- A parameter, possibly with an operator and the text after it. -/
  | parameter (name : List Char) (operator : Option (List Char × List Char)) (quoted : Bool)
  /-- The length of a parameter's value. -/
  | length (name : List Char) (quoted : Bool)
  /-- The output of a script. -/
  | output (script : List Char) (quoted : Bool)
  /-- The value of an expression. -/
  | arithmetic (expression : List Char) (quoted : Bool)
  deriving DecidableEq, Repr

/-- A word, before it is expanded. -/
abbrev Word := List Part

/-- What a redirection does with a descriptor. -/
inductive RedirectKind where
  | read
  | write
  | append
  | duplicate
  /-- The text itself is what is read. -/
  | here
  deriving DecidableEq, Repr

/-- A redirection of a descriptor. -/
structure Redirect where
  descriptor : Nat
  kind : RedirectKind
  target : Word
  deriving Repr

/-- A script: a command, or commands put together. -/
inductive Script where
  /-- Assignments and words, with the line they stand on. -/
  | simple (line : Nat) (assignments : List (String × Word)) (words : List Word)
      (redirects : List Redirect)
  | pipeline (negated : Bool) (stages : List Script)
  /-- The second runs if the first one succeeds. -/
  | both (first second : Script)
  /-- The second runs if the first one fails. -/
  | either (first second : Script)
  | sequence (commands : List Script)
  | background (body : Script)
  | subshell (body : Script)
  | branch (condition yes no : Script)
  /-- The body runs as long as the condition succeeds or, negated, fails. -/
  | loop (negated : Bool) (condition body : Script)
  /-- The body runs for each word, or for each positional parameter. -/
  | each (name : String) (words : Option (List Word)) (body : Script)
  | choice (subject : Word) (arms : List (List Word × Script))
  | function (name : String) (body : Script)
  | redirected (body : Script) (redirects : List Redirect)

namespace Script

instance : Inhabited Script := ⟨.sequence []⟩

/-- The script that does nothing. -/
def nothing : Script := .sequence []

end Script

end Proctor.Machine
