import SurfaceGuard.Shell.Lexer

/-!
# Reading commands

The grammar of the shell: lists of commands, pipelines, compound commands, and simple
commands with their redirections.  A keyword is one only where a command may start, and an
alias is replaced only there.

Commands contain commands, and words contain them too, so every part of the grammar is given
the reader for those inside it.  `Parser.ofDepth` ties the parts together for commands that
are nested up to a depth.
-/

namespace SurfaceGuard.Shell

open Parse

/-- Where a list of commands stands. -/
inductive ListPlace where
  /-- On a line of its own, which ends the list. -/
  | line
  /-- Inside a compound command, where it has at least one command. -/
  | body
  /-- Where it may be empty. -/
  | loose
  deriving DecidableEq, Repr

/-- What is read from the lines of a script. -/
inductive Line where
  | endOfInput
  | commands (tree? : Option Tree)

/-- How the commands inside a command are read. -/
structure Parser where
  list : ListPlace → Parse Line
  command : Parse Tree
  bodies : Lexer.Bodies

namespace Parser

/-! ## Here-documents -/

/-- Reads the here-documents that are awaited. -/
def readDocuments (p : Parser) : Parse Unit := do
  let awaited := (← get).awaited
  modify fun r => { r with awaited := [] }
  for d in awaited do
    let text ← Lexer.readDocument p.bodies d.isPlain ⟨d.mark, d.stripsTabs⟩
    modify fun r => { r with documents := r.documents.setIfInBounds d.id text }

/-! ## Tokens -/

/-- The next token, or the last one again. -/
def rawToken (p : Parser) : Parse Token := do
  let r ← get
  if r.isPushed then
    set { r with isPushed := false }
    return r.last
  else
    let t ← Lexer.readToken p.bodies limit
    modify fun r => { r with last := t, lastWord := match t with
      | .word w _ => w
      | _ => r.lastWord }
    return t

/-- Skips newlines from a token on, each followed by the here-documents of its line. -/
def skipNewlines (p : Parser) : Nat → Token → Parse Token
  | 0, t => return t
  | fuel + 1, t => do
    match t with
    | .newline =>
      readDocuments p
      look {}
      skipNewlines p fuel (← rawToken p)
    | t => return t

/-- The script with the value of an alias in front. -/
def pushAlias (name value : Bytes) : Parse Unit :=
  let invites := value.getLast?.any fun b => b == 0x20 || b == 0x09
  modify fun r => { r with strata := ⟨value, some name, invites⟩ :: r.strata }

/-- The value of the alias that a word stands for, unless it is in use. -/
def alias? (name : Bytes) : Parse (Option Bytes) := do
  let r ← get
  if r.strata.any (·.alias? == some name) then return none
  else return r.aliases.lookup name

/-- The next token, as a keyword where those are looked for, and with aliases replaced. -/
def tokenFrom (p : Parser) : Nat → Checks → Parse Token
  | 0, _ => return .endOfInput
  | fuel + 1, checks => do
    let t ← rawToken p
    let t ← if checks.newlines then skipNewlines p limit t else pure t
    let checks := checks.or (← get).checks
    look {}
    match t with
    | .word w false =>
      match w.plain? with
      | none => return t
      | some name =>
        match if checks.keywords then Keyword.ofSpelling? name else none with
        | some k =>
          modify fun r => { r with last := .keyword k }
          return .keyword k
        | none =>
          match ← if checks.aliases then alias? name else pure none with
          | some value =>
            if !value.isEmpty then pushAlias name value
            tokenFrom p fuel checks
          | none => return t
    | t => return t

/-- The next token. -/
def token (p : Parser) : Parse Token := do tokenFrom p limit (← get).checks

/-- The next token with some checks. -/
def tokenWith (p : Parser) (checks : Checks) : Parse Token := do
  look checks
  token p

/-! ## The p of substitutions -/

/-- The commands of a list that is not the whole script. -/
def commandsOf : Line → Option Tree
  | .endOfInput => none
  | .commands tree? => tree?

/-- A part of the reader with no here-documents awaited from outside. -/
def apart {α : Type} (part : Parse α) : Parse α := do
  let awaited := (← get).awaited
  modify fun r => { r with awaited := [] }
  let a ← part
  modify fun r => { r with awaited := awaited }
  return a

/-- The body of a substitution in parentheses, and the closing one. -/
def parenthesized (p : Parser) : Parse (Option Tree) := apart do
  let tree? := commandsOf (← p.list .loose)
  match ← token p with
  | .rightParen =>
    within [] (← get).line (readDocuments p)
    return tree?
  | _ => unexpected (some .rightParen)

/-- The body of a substitution between backquotes.  What follows its commands does not count. -/
def backquoted (p : Parser) (text : Bytes) : Parse (Option Tree) := apart do
  let tree? ← within text 1 do
    let tree? := commandsOf (← p.list .loose)
    readDocuments p
    return tree?
  modify fun r => { r with isPushed := false }
  return tree?

/-! ## Redirections -/

/-- The redirection to the descriptor that a word names. -/
def duplicateOf (descriptor : Nat) (w : Word) : Redirection :=
  match w with
  | [.byte b false] =>
    if Ascii.isDigit b then .duplicate descriptor (some (Ascii.digitValue b))
    else if b == 0x2D then .duplicate descriptor none
    else .duplicateTo descriptor w
  | w => .duplicateTo descriptor w

/-- The bytes of a word without its quotations. -/
def bareBytes (w : Word) : Bytes :=
  w.filterMap fun
    | .byte b _ => some b
    | _ => none

/-- A redirection after its operator. -/
def redirectionAfter (p : Parser) (descriptor : Nat) (d : Direction) :
    Parse Redirection := do
  let isHere := match d with
    | .here _ => true
    | _ => false
  match ← tokenWith p { mark := isHere } with
  | .word w isQuoted =>
    match d with
    | .file opening => return .file descriptor opening w
    | .duplicate => return duplicateOf descriptor w
    | .here stripsTabs =>
      let r ← get
      let id := r.documents.size
      let awaited : AwaitedDocument := ⟨id, bareBytes w, stripsTabs, isQuoted⟩
      set { r with documents := r.documents.push [], awaited := r.awaited ++ [awaited] }
      return .here descriptor id isQuoted
  | _ => unexpected none

/-- The redirections that come next. -/
def redirections (p : Parser) : Nat → Parse (List Redirection)
  | 0 => return []
  | fuel + 1 => do
    match ← token p with
    | .redirection descriptor d =>
      let r ← redirectionAfter p descriptor d
      return r :: (← redirections p fuel)
    | _ =>
      pushBack
      return []

/-! ## Simple commands -/

/-- What was read of a simple command. -/
structure Parts where
  assignments : List Word
  words : List Word
  redirections : List Redirection

/-- The name of a function that a word may define. -/
def functionName? (w : Word) : Option Bytes :=
  w.plain?.filter fun name => Ascii.isName name && !specialCommands.contains name

/-- The definition of a function after its name. -/
def definition (p : Parser) (w : Word) : Parse Tree := do
  match ← token p with
  | .rightParen =>
    match functionName? w with
    | none => fault "Bad function name"
    | some name =>
      look .all
      return .define name (← p.command)
  | _ => unexpected (some .rightParen)

/-- The rest of a simple command; aliases are replaced up to the first word. -/
def simpleFrom (p : Parser) (line : Nat) : Nat → Parts → Parse Tree
  | 0, _ => fault "nested too deeply"
  | fuel + 1, parts => do
    let isFront := parts.words.isEmpty
    match ← tokenWith p { aliases := isFront } with
    | .word w _ =>
      if isFront && w.isAssignment then
        simpleFrom p line fuel { parts with assignments := parts.assignments ++ [w] }
      else simpleFrom p line fuel { parts with words := parts.words ++ [w] }
    | .redirection descriptor d =>
      let r ← redirectionAfter p descriptor d
      simpleFrom p line fuel { parts with redirections := parts.redirections ++ [r] }
    | t =>
      match t, parts with
      | .leftParen, ⟨[], [w], []⟩ => definition p w
      | _, _ =>
        pushBack
        return .simple line parts.assignments parts.words parts.redirections

/-! ## Compound commands -/

/-- A list inside a compound command. -/
def body (p : Parser) : Parse (Option Tree) := do return commandsOf (← p.list .body)

/-- Reads a keyword that has to come next. -/
def expect (p : Parser) (k : Keyword) : Parse Unit := do
  match ← token p with
  | .keyword found => if found = k then return else unexpected (some (.keyword k))
  | _ => unexpected (some (.keyword k))

/-- A conditional after its first keyword; the keyword that ends it comes next. -/
def conditional (p : Parser) : Nat → Parse Tree
  | 0 => fault "nested too deeply"
  | fuel + 1 => do
    let test ← body p
    expect p .thenWord
    let yes ← body p
    match ← token p with
    | .keyword .elif => return .branch test yes (some (← conditional p fuel))
    | .keyword .elseWord => return .branch test yes (← body p)
    | _ =>
      pushBack
      return .branch test yes none

/-- The words up to a token that is none. -/
def wordsUpTo (p : Parser) : Nat → Parse (List Word)
  | 0 => return []
  | fuel + 1 => do
    match ← token p with
    | .word w _ => return w :: (← wordsUpTo p fuel)
    | _ => return []

/-- The word for all arguments. -/
def allArguments : Word := [.mark, .parameter "@" .value false [], .mark]

/-- A loop over words after its first keyword; the keyword that ends it comes next. -/
def forLoop (p : Parser) (line : Nat) : Parse Tree := do
  let name? := match ← token p with
    | .word w false => w.plain?.filter Ascii.isName
    | _ => none
  match name? with
  | none => fault "Bad for loop variable"
  | some name =>
    let words : List Word ← do
      match ← tokenWith p .all with
      | .keyword .inWord =>
        let words ← wordsUpTo p limit
        match (← get).last with
        | .newline => pure words
        | .semicolon => pure words
        | _ => unexpected none
      | .semicolon => pure [allArguments]
      | _ =>
        pushBack
        pure [allArguments]
    look .all
    expect p .doWord
    return .each line name words (← body p)

/-- The patterns of an arm, up to the parenthesis that ends them.  Where no word stands for a pattern,
the word before does. -/
def patterns (p : Parser) : Nat → Parse (List Word)
  | 0 => return []
  | fuel + 1 => do
    let w := (← get).lastWord
    match ← token p with
    | .pipe =>
      let _ ← token p
      return w :: (← patterns p fuel)
    | .rightParen => return [w]
    | _ => unexpected (some .rightParen)

/-- The arms of a choice, up to the keyword that ends it. -/
def arms (p : Parser) : Nat → Parse (List (List Word × Option Tree))
  | 0 => return []
  | fuel + 1 => do
    let checks : Checks := { newlines := true, keywords := true }
    match ← tokenWith p checks with
    | .keyword .esac => return []
    | t =>
      match t with
      | .leftParen => let _ ← token p
      | _ => pure ()
      let ws ← patterns p limit
      let tree? := commandsOf (← p.list .loose)
      match ← tokenWith p checks with
      | .keyword .esac => return [(ws, tree?)]
      | .endCase => return (ws, tree?) :: (← arms p fuel)
      | _ => unexpected (some .endCase)

/-- A choice after its first keyword, with the keyword that ends it. -/
def choice (p : Parser) (line : Nat) : Parse Tree := do
  match ← token p with
  | .word w _ =>
    look .all
    expect p .inWord
    return .choose line w (← arms p limit)
  | _ => unexpected (some (.word [] false))

/-- A command with the redirections that follow it. -/
def redirected (line : Nat) (rs : List Redirection) : Tree → Tree
  | .subshell l t _ => .subshell l t rs
  | t => if rs.isEmpty then t else .redirected line t rs

/-- A list inside a compound command that is not empty. -/
def group (p : Parser) : Parse Tree := do
  match ← body p with
  | some t => return t
  | none => unexpected none

/-- A command. -/
def commandWith (p : Parser) : Parse Tree := do
  let line := (← get).line
  let closed (end_ : Token) (t : Tree) : Parse Tree := do
    let found ← token p
    let fits := match found, end_ with
      | .keyword a, .keyword b => a == b
      | .rightParen, .rightParen => true
      | _, _ => false
    if fits then return t else unexpected (some end_)
  let compound ← do
    match ← token p with
    | .keyword .ifWord => some <$> (conditional p limit >>= closed (.keyword .fi))
    | .keyword .whileWord =>
      let test ← body p
      expect p .doWord
      some <$> closed (.keyword .done) (.loop true test (← body p))
    | .keyword .untilWord =>
      let test ← body p
      expect p .doWord
      some <$> closed (.keyword .done) (.loop false test (← body p))
    | .keyword .forWord => some <$> (forLoop p line >>= closed (.keyword .done))
    | .keyword .caseWord => some <$> choice p line
    | .leftParen => some <$> (do closed .rightParen (.subshell line (← group p) []))
    | .keyword .leftBrace => some <$> (group p >>= closed (.keyword .rightBrace))
    | .word .. =>
      pushBack
      pure none
    | .redirection .. =>
      pushBack
      pure none
    | _ => unexpected none
  match compound with
  | none => simpleFrom p (← get).line limit ⟨[], [], []⟩
  | some t =>
    look { keywords := true, aliases := true }
    return redirected line (← redirections p limit) t

/-! ## Lists -/

/-- The commands after a vertical bar, up to the token that is none. -/
def pipedCommands (p : Parser) : Nat → Parse (List Tree)
  | 0 => return []
  | fuel + 1 => do
    match ← token p with
    | .pipe =>
      look .all
      let t ← p.command
      return t :: (← pipedCommands p fuel)
    | _ =>
      pushBack
      return []

/-- A pipeline. -/
def pipeline (p : Parser) : Parse Tree := do
  let isNegated ← do
    match ← token p with
    | .keyword .bang =>
      look { keywords := true, aliases := true }
      pure true
    | _ =>
      pushBack
      pure false
  let first ← p.command
  let rest ← pipedCommands p limit
  let t := if rest.isEmpty then first else .pipeline (first :: rest) false
  return if isNegated then .negation t else t

/-- What follows a pipeline: others that depend on its status. -/
def joined (p : Parser) : Nat → Tree → Parse Tree
  | 0, t => return t
  | fuel + 1, t => do
    match ← token p with
    | .andIf =>
      look .all
      joined p fuel (.both t (← pipeline p))
    | .orIf =>
      look .all
      joined p fuel (.either t (← pipeline p))
    | _ =>
      pushBack
      return t

/-- A command that runs in the background. -/
def inBackground (line : Nat) : Tree → Tree
  | .pipeline commands _ => .pipeline commands true
  | .redirected l body rs => .background l body rs
  | t => .background line t []

/-- A list from some commands on. -/
def listFrom (p : Parser) (place : ListPlace) :
    Nat → Bool → Option Tree → Parse Line
  | 0, _, tree? => return .commands tree?
  | fuel + 1, mayEnd, tree? => do
    let isLine := place == .line
    match ← tokenWith p { newlines := !isLine, keywords := true, aliases := true } with
    | .newline =>
      readDocuments p
      return .commands tree?
    | .endOfInput =>
      readDocuments p
      pushBack
      modify fun r => { r with last := .endOfInput }
      return if isLine && tree?.isNone then .endOfInput else .commands tree?
    | t =>
      pushBack
      if mayEnd && t.endsList then return .commands tree?
      else
        let line := (← get).line
        let next ← pipeline p >>= joined p limit
        let end_ ← token p
        let next := match end_ with
          | .background => inBackground line next
          | _ => next
        let tree := match tree? with
          | none => next
          | some t => .sequence t next
        match end_ with
        | .newline =>
          pushBack
          listFrom p place fuel (!isLine) (some tree)
        | .endOfInput =>
          pushBack
          listFrom p place fuel (!isLine) (some tree)
        | .background => listFrom p place fuel (!isLine) (some tree)
        | .semicolon => listFrom p place fuel (!isLine) (some tree)
        | _ =>
          if isLine then unexpected none
          else
            pushBack
            return .commands (some tree)

/-- A list. -/
def listWith (p : Parser) (place : ListPlace) : Parse Line :=
  listFrom p place limit (place == .loose) none

/-- The reader for commands that are nested up to a depth. -/
def ofDepth : Nat → Parser
  | 0 =>
    { list := fun _ => fault "nested too deeply"
      command := fault "nested too deeply"
      bodies := ⟨fault "nested too deeply", fun _ => fault "nested too deeply"⟩ }
  | depth + 1 =>
    { list := fun place r => listWith (ofDepth depth) place r
      command := fun r => commandWith (ofDepth depth) r
      bodies :=
        { parenthesized := fun r => parenthesized (ofDepth depth) r
          backquoted := fun text r => backquoted (ofDepth depth) text r } }

end Parser

end SurfaceGuard.Shell
