import SurfaceGuard.Text.Ascii

/-!
# Shell scripts

What the reader of shell scripts makes of them: words, redirections and commands.

A word is a list of pieces.  What its expansion stands for depends on quotation in two ways,
so both are kept: a byte that is escaped stands for itself in a pattern, and a mark stands
wherever a quotation begins or ends, between which nothing is split into fields.

Text that follows the line of a here-document is read after the redirection that names it,
so the redirection refers to it by a number.
-/

namespace SurfaceGuard.Shell

/-- What becomes of a parameter when it is expanded. -/
inductive Use where
  /-- Its value. -/
  | value
  /-- The length of its value. -/
  | length
  /-- Another word if there is no value. -/
  | orElse
  /-- Another word if there is a value. -/
  | ifSet
  /-- As `orElse`, and the word becomes the value. -/
  | assign
  /-- Its value; the word says what is wrong if there is none. -/
  | require
  /-- Its value without the shortest or the longest end, or beginning, that fits a pattern. -/
  | trim (atEnd isLongest : Bool)
  /-- No use that is known, which is found out when the word is expanded. -/
  | unknown
  deriving DecidableEq, Repr

/-- How a redirection opens a file. -/
inductive Opening where
  | read
  | readWrite
  | write
  /-- To write to a file even where files that are there are to be kept. -/
  | clobber
  | append
  deriving DecidableEq, Repr

mutual

/-- A piece of a word. -/
inductive Piece where
  | byte (b : UInt8) (isEscaped : Bool)
  /-- A quotation begins or ends. -/
  | mark
  /-- A parameter; `orEmpty` says whether an empty value counts as none. -/
  | parameter (name : Bytes) (use : Use) (orEmpty : Bool) (word : List Piece)
  /-- The output of a command. -/
  | command (body? : Option Tree)
  | arithmetic (expression : List Piece)

/-- A redirection of a descriptor. -/
inductive Redirection where
  | file (descriptor : Nat) (opening : Opening) (name : List Piece)
  /-- To where another descriptor leads; without one the descriptor is closed. -/
  | duplicate (descriptor : Nat) (source? : Option Nat)
  /-- To where the descriptor leads that a word stands for. -/
  | duplicateTo (descriptor : Nat) (source : List Piece)
  /-- From a text in the script; `isPlain` says whether the text stands for itself. -/
  | here (descriptor : Nat) (document : Nat) (isPlain : Bool)

/-- A command; one that consists of others may have a number for the line on which it starts. -/
inductive Tree where
  | simple (line : Nat) (assignments words : List (List Piece)) (redirections : List Redirection)
  | redirected (line : Nat) (body : Tree) (redirections : List Redirection)
  | pipeline (commands : List Tree) (isBackground : Bool)
  | subshell (line : Nat) (body : Tree) (redirections : List Redirection)
  | background (line : Nat) (body : Tree) (redirections : List Redirection)
  | both (left right : Tree)
  | either (left right : Tree)
  | sequence (left right : Tree)
  | negation (body : Tree)
  | branch (test yes : Option Tree) (no? : Option Tree)
  /-- A loop that goes on while the test succeeds, or until it does. -/
  | loop (isWhile : Bool) (test body : Option Tree)
  | each (line : Nat) (name : Bytes) (words : List (List Piece)) (body : Option Tree)
  | choose (line : Nat) (subject : List Piece) (arms : List (List (List Piece) × Option Tree))
  | define (name : Bytes) (body : Tree)

end

/-- A word. -/
abbrev Word := List Piece

namespace Word

/-- The bytes of a word that has nothing but bytes that are not escaped. -/
def plain? : Word → Option Bytes
  | [] => some []
  | .byte b false :: rest => (plain? rest).map (b :: ·)
  | _ => none

/-- The name in front of an assignment, and the word that is assigned. -/
def assignment? : Word → Option (Bytes × Word)
  | w =>
    let name := w.takeWhile fun
      | .byte b isEscaped => !isEscaped && Ascii.isNameByte b
      | _ => false
    match plain? name, w.drop name.length with
    | some n, .byte 0x3D false :: value => if Ascii.isName n then some (n, value) else none
    | _, _ => none

/-- Is the word an assignment? -/
def isAssignment (w : Word) : Bool := w.assignment?.isSome

/-- The word for a text that stands for itself. -/
def ofBytes (t : Bytes) : Word := t.map fun b => .byte b true

end Word

/-- The words that mean something where a command is expected. -/
inductive Keyword where
  | bang
  | caseWord
  | doWord
  | done
  | elif
  | elseWord
  | esac
  | fi
  | forWord
  | ifWord
  | inWord
  | thenWord
  | untilWord
  | whileWord
  | leftBrace
  | rightBrace
  deriving DecidableEq, Repr

namespace Keyword

/-- The keywords with their spellings. -/
def table : List (Keyword × Bytes) :=
  [(bang, "!"), (caseWord, "case"), (doWord, "do"), (done, "done"), (elif, "elif"),
    (elseWord, "else"), (esac, "esac"), (fi, "fi"), (forWord, "for"), (ifWord, "if"),
    (inWord, "in"), (thenWord, "then"), (untilWord, "until"), (whileWord, "while"),
    (leftBrace, "\x7b"), (rightBrace, "\x7d")]

/-- The spelling of a keyword. -/
def spelling (k : Keyword) : Bytes := (table.lookup k).getD []

/-- The keyword with a spelling. -/
def ofSpelling? (t : Bytes) : Option Keyword := (table.find? (·.2 == t)).map Prod.fst

end Keyword

/-- What an operator of a redirection asks for. -/
inductive Direction where
  | file (opening : Opening)
  | duplicate
  | here (stripsTabs : Bool)
  deriving DecidableEq, Repr

/-- A token of a script. -/
inductive Token where
  | endOfInput
  | newline
  | semicolon
  | background
  | andIf
  | orIf
  | pipe
  | leftParen
  | rightParen
  | endCase
  | redirection (descriptor : Nat) (direction : Direction)
  | word (w : Word) (isQuoted : Bool)
  | keyword (k : Keyword)

namespace Token

/-- The text in double quotes. -/
def quoted (t : Bytes) : Bytes := 0x22 :: t ++ [0x22]

/-- A token as messages name it. -/
def description : Token → Bytes
  | endOfInput => "end of file"
  | newline => "newline"
  | semicolon => quoted ";"
  | background => quoted "&"
  | andIf => quoted "&&"
  | orIf => quoted "||"
  | pipe => quoted "|"
  | leftParen => quoted "("
  | rightParen => quoted ")"
  | endCase => quoted ";;"
  | redirection .. => "redirection"
  | word .. => "word"
  | keyword k => quoted k.spelling

/-- Does the token end a list of commands? -/
def endsList : Token → Bool
  | endOfInput => true
  | rightParen => true
  | endCase => true
  | keyword k => [.doWord, .done, .elif, .elseWord, .esac, .fi, .thenWord, .rightBrace].contains k
  | _ => false

end Token

/-- The commands that no function can replace, and whose failure ends the shell. -/
def specialCommands : List Bytes :=
  [":", ".", "break", "continue", "eval", "exec", "exit", "export", "local", "readonly", "return",
    "set", "shift", "times", "trap", "unset"]

end SurfaceGuard.Shell
