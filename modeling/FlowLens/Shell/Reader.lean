/-
  Reading shell scripts, one complete command at a time, so that what stands
  before a mistake is run before the mistake is told.

  * `Reader.next?` gives the next command and the place behind it.
-/
import FlowLens.Shell.Reader.Source

namespace FlowLens

namespace Shell

/-! ## Lexical units and commands -/

/-- What a lexical unit may be at some place. -/
structure Allowed where
  /-- Whether newlines before it are left out. -/
  newlines : Bool
  /-- Whether it may be a keyword. -/
  keywords : Bool
  /-- Whether it may be an alias. -/
  aliases : Bool

/-- Words only. -/
def Allowed.words : Allowed := ⟨false, false, false⟩

/-- The start of a command. -/
def Allowed.start : Allowed := ⟨true, true, true⟩

/-- How far a list of commands goes. -/
inductive Extent where
  /-- To the end of the line. -/
  | line
  /-- Over lines, with at least one command. -/
  | body
  /-- Over lines. -/
  | block
  deriving DecidableEq

/-- Reads a lexical unit once more. -/
def putBack (l : Lexeme) : Read Unit :=
  modify fun r => { r with back := some l }

/-- The symbol of one byte, or of two equal ones. -/
def oneOrTwo (c : Char) : Read Lexeme := do
  advance 1
  if ← accept c then return .symbol [c, c] else return .symbol [c]

/-- The redirection that some bytes start. -/
def redirection (descriptor : Option Nat) : Read Lexeme := do
  if ← accept '>' then
    let fd := descriptor.getD 1
    if ← accept '>' then return .redirection fd .append false
    else if ← accept '|' then return .redirection fd .clobber false
    else if ← accept '&' then return .redirection fd (.duplicate false) false
    else return .redirection fd .output false
  else
    advance 1
    let fd := descriptor.getD 0
    if ← accept '<' then return .redirection fd (.document 0) (← accept '-')
    else if ← accept '&' then return .redirection fd (.duplicate true) false
    else if ← accept '>' then return .redirection fd .both false
    else return .redirection fd .input false

/-- Ends a line, and says whether the next one ends the document that is read. -/
def endLine : Read Bool := do
  advance 1
  match (← get).within with
  | some p => startLine p
  | none => return false

/-- The text up to a single quote. -/
def readSingle : Nat → Read Octets
  | 0 => mistake "word too long"
  | fuel + 1 => do
    let text ← run fun c => c ≠ '\'' && c ≠ '\n'
    match (← get).rest with
    | [] => mistake (Context.missing (← get).within.isSome .double)
    | c :: _ =>
      if c = '\'' then
        advance 1
        return text
      else if ← endLine then mistake (Context.missing true .double)
      else return text ++ '\n' :: (← readSingle fuel)

/-- A command that a complaint about the rest of the script follows. -/
def Command.missing : Command := .pipeline []

mutual

/-- The pieces up to the end of a context. -/
def readParts : Nat → Context → Read (List Part)
  | 0, _ => mistake "word too long"
  | fuel + 1, ctx => do
    match (← get).rest with
    | [] =>
      match ctx with
      | .word => return []
      | .document => return []
      | _ => mistake (ctx.missing (← get).within.isSome)
    | c :: _ =>
      if ctx.endsAt c then return []
      else if c = '\n' then
        if !(← endLine) then return .plain "\n" :: (← readParts fuel ctx)
        else if ctx = .document then return [.plain "\n"]
        else mistake (ctx.missing true)
      else if ctx.isPlain c then
        let text ← run fun c => ctx.isPlain c && c ≠ '\n'
        return .plain text :: (← readParts fuel ctx)
      else if c = '\\' then
        let joinsLines := (← get).untabbed ≠ (← get).rest.length
        advance 1
        match (← get).rest with
        | [] => return [.escaped '\\']
        | d :: _ =>
          advance 1
          let rest ← readParts fuel ctx
          if d = '\n' && joinsLines then return rest
          else if ctx.isQuoted && !ctx.escapes d then return .escaped '\\' :: .escaped d :: rest
          else return .escaped d :: rest
      else if c = '\'' then
        advance 1
        let text ← readSingle fuel
        return .single text :: (← readParts fuel ctx)
      else if c = '"' then
        advance 1
        let parts ← readParts fuel .double
        advance 1
        return .double parts :: (← readParts fuel ctx)
      else if c = '$' then
        advance 1
        let part ← readDollar fuel ctx
        return part :: (← readParts fuel ctx)
      else if c = '\x60' then
        advance 1
        let part ← readBackquoted fuel ctx
        return part :: (← readParts fuel ctx)
      else
        advance 1
        let inner ← readParts fuel .arithmetic
        advance 1
        return .plain "(" :: inner ++ .plain ")" :: (← readParts fuel ctx)

/-- What stands behind a dollar sign. -/
def readDollar : Nat → Context → Read Part
  | 0, _ => mistake "word too long"
  | fuel + 1, ctx => do
    match ← peek with
    | some '(' =>
      advance 1
      if ← accept '(' then return .arithmetic (← readArithmetic fuel)
      else
        let r ← get
        set { r with back := none, pending := [], within := none, inUse := [] }
        let body ← readList fuel .block none
        let l ← readNext fuel .words
        if !l.is ")" then unexpected l (some "\")\"")
        modify fun s =>
          { s with
            back := none
            pending := r.pending
            within := r.within
            documents := s.pending.map (fun p => (p.number, [])) ++ s.documents
            inUse := r.inUse }
        return .substitution body
    | some '\x7b' =>
      advance 1
      readBraces fuel ctx
    | some c =>
      if Octets.startsName c then return .parameter (← runOverLines Octets.inName fuel) .value
      else if c.isDigit || isSpecialName c then
        advance 1
        return .parameter [c] .value
      else return .plain "$"
    | none => return .plain "$"

/-- An arithmetic expression, up to its two parentheses. -/
def readArithmetic : Nat → Read (List Part)
  | 0 => mistake "word too long"
  | fuel + 1 => do
    let parts ← readParts fuel .arithmetic
    advance 1
    if ← accept ')' then return parts
    else return parts ++ .plain ")" :: (← readArithmetic fuel)

/-- A parameter in braces. -/
def readBraces : Nat → Context → Read Part
  | 0, _ => mistake "word too long"
  | fuel + 1, ctx => do
    let quoted := ctx.isQuoted
    let whole (p : Char → Bool) : Read Octets := runOverLines p fuel
    let close (part : Part) : Read Part := do
      discard (readParts fuel (.brace quoted))
      advance 1
      return part
    let operation (name : Octets) : Read Part := do
      let orEmpty ← accept ':'
      match ← peek with
      | some '\x7d' =>
        advance 1
        if orEmpty then close (.parameter name .value) else return .parameter name .value
      | some c =>
        if c = '-' || c = '=' || c = '?' || c = '+' then
          advance 1
          let word ← readParts fuel (.brace quoted)
          advance 1
          return .parameter name
            (if c = '-' then .orElse orEmpty word
             else if c = '=' then .orAssign orEmpty word
             else if c = '?' then .orFail orEmpty word
             else .ifThere orEmpty word)
        else if !orEmpty && (c = '#' || c = '%') then
          advance 1
          let longest ← accept c
          let pattern ← readParts fuel (.brace false)
          advance 1
          return .parameter name
            (if c = '#' then .trimStart longest pattern else .trimEnd longest pattern)
        else
          modify fun r => { r with rest := r.rest.drop 1 }
          close (.parameter name .invalid)
      | none => close (.parameter name .invalid)
    let length (name : Octets) : Read Part := do
      if (← peek) = some '\x7d' then
        advance 1
        return .parameter name .length
      else close (.parameter name .invalid)
    match ← peek with
    | none => close (.parameter [] .invalid)
    | some c =>
      if Octets.startsName c then operation (← whole Octets.inName)
      else if c.isDigit then operation (← whole Char.isDigit)
      else if c = '#' then
        advance 1
        match ← peek with
        | some d =>
          if Octets.startsName d then length (← whole Octets.inName)
          else if d.isDigit then length (← whole Char.isDigit)
          else if d ≠ '\x7d' && ((← get).rest.drop 1).head? = some '\x7d' then
            advance 1
            if isSpecialName d then length [d] else close (.parameter [] .invalid)
          else operation "#"
        | none => operation "#"
      else if isSpecialName c then
        advance 1
        operation [c]
      else
        if c ≠ '\x7d' then modify fun r => { r with rest := r.rest.drop 1 }
        close (.parameter [] .invalid)

/-- A command in backquotes. -/
def readBackquoted : Nat → Context → Read Part
  | 0, _ => mistake "word too long"
  | fuel + 1, ctx => do
    let r ← get
    match backquoted ctx.isQuoted r.rest with
    | none =>
      advance r.rest.length
      mistake "EOF in backquote substitution"
    | some (text, rest) =>
      set { r with
        rest := text
        line := 1
        back := none
        pending := []
        within := none
        inUse := []
        openEnds := [] }
      let body ← readList fuel .block none
      modify fun s =>
        { s with
          rest
          line := r.line + (r.rest.take (r.rest.length - rest.length)).count '\n'
          back := none
          pending := r.pending
          within := r.within
          inUse := r.inUse
          openEnds := r.openEnds }
      return .substitution body

/-- Reads the documents that are announced. -/
def readDocuments : Nat → Read Unit
  | 0 => mistake "word too long"
  | fuel + 1 => do
    let r ← get
    match r.pending with
    | [] => return
    | p :: more =>
      if p.literal then
        let (text, lines, rest) := takeLiteral p (r.rest.length + 1) r.rest
        set { r with
          rest
          line := r.line + lines
          pending := more
          documents := (p.number, [.single text]) :: r.documents }
      else
        set { r with back := none, pending := [], within := some p }
        let parts ← if ← startLine p then pure [] else readParts fuel .document
        modify fun s =>
          { s with
            back := r.back
            pending := more
            within := r.within
            documents := (p.number, [.double parts]) :: s.documents }
      readDocuments fuel

/-- The next lexical unit, whatever it may be. -/
def readLexeme : Nat → Read Lexeme
  | 0 => mistake "word too long"
  | fuel + 1 => do
    let r ← get
    match r.back with
    | some l =>
      set { r with back := none }
      return l
    | none =>
      let (n, rest) := skipBlanks (r.rest.length + 1) r.rest
      set { r with rest, line := r.line + n }
      match rest with
      | [] => return .endOfFile
      | c :: _ =>
        if c = '\n' then
          advance 1
          return .newline
        else if c = '&' || c = '|' || c = ';' then oneOrTwo c
        else if c = '(' || c = ')' then
          advance 1
          return .symbol [c]
        else
          let word ← readParts fuel .word
          let atArrow := match (← get).rest with | d :: _ => d = '<' || d = '>' | [] => false
          match atArrow, word with
          | true, [] => redirection none
          | true, [.plain [d]] =>
            if d.isDigit then redirection (some (d.toNat - 48)) else return .word word
          | _, _ => return .word word

/-- The next lexical unit at a place where some are allowed. -/
def readNext : Nat → Allowed → Read Lexeme
  | 0, _ => mistake "word too long"
  | fuel + 1, allowed => do
    let before := (← get).rest.length
    match ← readLexeme fuel with
    | .newline =>
      if allowed.newlines then
        readDocuments fuel
        readNext fuel allowed
      else return .newline
    | .word [.plain text] =>
      let r ← get
      if allowed.keywords && keywords.contains text then return .symbol text
      else if allowed.aliases || r.openEnds.any (fun n => r.rest.length < n && n ≤ before) then
        let inUse := r.inUse.filter fun (_, n) => n < r.rest.length
        match r.aliases.lookup text, inUse.any (·.1 = text) with
        | some value, false =>
          let isOpen := value.getLast?.any fun c => c = ' ' || c = '\t'
          set { r with
            rest := value ++ r.rest
            inUse := (text, r.rest.length) :: inUse
            openEnds := if isOpen then r.rest.length :: r.openEnds else r.openEnds }
          readNext fuel allowed
        | _, _ => return .word [.plain text]
      else return .word [.plain text]
    | l => return l

/-- The target of a redirection. -/
def readTarget : Nat → Nat → Direction → Bool → Read Redirect
  | 0, _, _, _ => mistake "word too long"
  | fuel + 1, fd, direction, strip => do
    match ← readNext fuel .words with
    | .word word =>
      match direction with
      | .document _ =>
        let r ← get
        set { r with
          count := r.count + 1
          pending := r.pending ++ [Pending.mk r.count (delimiterOf word) (!isUnquoted word) strip] }
        return .mk fd (.document r.count) []
      | _ => return .mk fd direction word
    | l => unexpected l none

/-- Redirections behind a compound command. -/
def readRedirects : Nat → Read (List Redirect)
  | 0 => mistake "word too long"
  | fuel + 1 => do
    match ← readNext fuel ⟨false, true, true⟩ with
    | .redirection fd direction strip =>
      let redirect ← readTarget fuel fd direction strip
      return redirect :: (← readRedirects fuel)
    | l =>
      putBack l
      return []

/-- A list of commands behind those that are read. -/
def readList : Nat → Extent → Option Command → Read (Option Command)
  | 0, _, _ => mistake "word too long"
  | fuel + 1, extent, commands => do
    let overLines := extent ≠ .line
    match ← readNext fuel ⟨overLines, true, true⟩ with
    | .newline =>
      readDocuments fuel
      return commands
    | .endOfFile =>
      readDocuments fuel
      putBack .endOfFile
      return commands
    | l =>
      putBack l
      let mayEnd := extent = .block || (extent = .body && commands.isSome)
      if mayEnd && l.endsList then return commands
      else
        let command ← readChain fuel none
        let l ← readNext fuel .words
        let command := if l.is "&" then .background command else command
        let commands :=
          match commands with
          | some before => some (.sequence before command)
          | none => some command
        match l with
        | .newline =>
          putBack l
          readList fuel extent commands
        | .endOfFile =>
          putBack l
          readList fuel extent commands
        | l =>
          if l.is "&" || l.is ";" then readList fuel extent commands
          else if overLines then
            putBack l
            return commands
          else unexpected l none

/-- Pipelines that follow on success or failure; `before` is what they follow. -/
def readChain : Nat → Option (Bool × Command) → Read Command
  | 0, _ => mistake "word too long"
  | fuel + 1, before => do
    let command ← readPipeline fuel
    let command :=
      match before with
      | some (onSuccess, first) => .chain onSuccess first command
      | none => command
    let l ← readNext fuel .words
    if l.is "&&" || l.is "||" then
      let next ← readNext fuel .start
      putBack next
      readChain fuel (some (l.is "&&", command))
    else
      putBack l
      return command

/-- A pipeline. -/
def readPipeline : Nat → Read Command
  | 0 => mistake "word too long"
  | fuel + 1 => do
    let l ← readNext fuel .words
    if l.is "!" then
      let next ← readNext fuel ⟨false, true, true⟩
      putBack next
      return .negated (← readStages fuel)
    else
      putBack l
      readStages fuel

/-- The commands of a pipeline. -/
def readStages : Nat → Read Command
  | 0 => mistake "word too long"
  | fuel + 1 => do
    let first ← readCommand fuel
    match ← readFurtherStages fuel with
    | [] => return first
    | more => return .pipeline (first :: more)

/-- The commands of a pipeline behind the first one. -/
def readFurtherStages : Nat → Read (List Command)
  | 0 => mistake "word too long"
  | fuel + 1 => do
    let l ← readNext fuel .words
    if l.is "|" then
      let next ← readNext fuel .start
      putBack next
      let command ← readCommand fuel
      return command :: (← readFurtherStages fuel)
    else
      putBack l
      return []

/-- The commands of a body, which a symbol ends. -/
def readBody : Nat → Octets → Read Command
  | 0, _ => mistake "word too long"
  | fuel + 1, terminator => do
    let body ← readList fuel .body none
    let l ← readNext fuel .words
    if l.is terminator then return body.getD .missing
    else unexpected l (some ('"' :: terminator ++ "\""))

/-- A command. -/
def readCommand : Nat → Read Command
  | 0 => mistake "word too long"
  | fuel + 1 => do
    let line := (← get).line
    let compound (command : Command) : Read Command := do
      match ← readRedirects fuel with
      | [] => return command
      | redirects =>
        match command with
        | .subshell line body _ => return .subshell line body redirects
        | command => return .redirected line command redirects
    match ← readNext fuel .words with
    | .word word =>
      putBack (.word word)
      readSimple fuel line [] [] []
    | .redirection fd direction strip =>
      putBack (.redirection fd direction strip)
      readSimple fuel line [] [] []
    | .symbol text =>
      if text = "if" then compound (← readBranch fuel)
      else if text = "while" || text = "until" then
        let condition ← readBody fuel "do"
        let body ← readBody fuel "done"
        compound (.loop (text = "while") condition body)
      else if text = "for" then compound (← readEach fuel line)
      else if text = "case" then
        match ← readNext fuel .words with
        | .word subject =>
          let l ← readNext fuel .start
          if !l.is "in" then unexpected l (some "\"in\"")
          compound (.choice line subject (← readArms fuel))
        | l => unexpected l (some "word")
      else if text = "(" then
        compound (.subshell line (← readBody fuel ")") [])
      else if text = "\x7b" then compound (← readBody fuel "\x7d")
      else unexpected (.symbol text) none
    | l => unexpected l none

/-- A choice by the status of a command, behind its first word. -/
def readBranch : Nat → Read Command
  | 0 => mistake "word too long"
  | fuel + 1 => do
    let condition ← readBody fuel "then"
    let yes := (← readList fuel .body none).getD .missing
    let l ← readNext fuel .words
    if l.is "elif" then return .branch condition yes (some (← readBranch fuel))
    else if l.is "else" then return .branch condition yes (some (← readBody fuel "fi"))
    else if l.is "fi" then return .branch condition yes none
    else unexpected l (some "\"fi\"")

/-- A loop over words, behind its first word. -/
def readEach : Nat → Nat → Read Command
  | 0, _ => mistake "word too long"
  | fuel + 1, line => do
    match ← readNext fuel .words with
    | .word [.plain name] =>
      if !Octets.isName name then mistake "Bad for loop variable"
      let l ← readNext fuel .start
      let words ←
        if l.is "in" then
          let words ← readWords fuel
          match ← readNext fuel .words with
          | .newline => pure words
          | l => if l.is ";" then pure words else unexpected l none
        else
          if !l.is ";" then putBack l
          pure [[.double [.parameter "@" .value]]]
      let l ← readNext fuel .start
      if !l.is "do" then unexpected l (some "\"do\"")
      return .each line name words (← readBody fuel "done")
    | _ => mistake "Bad for loop variable"

/-- Words up to what is none. -/
def readWords : Nat → Read (List Word)
  | 0 => mistake "word too long"
  | fuel + 1 => do
    match ← readNext fuel .words with
    | .word word => return word :: (← readWords fuel)
    | l =>
      putBack l
      return []

/-- The arms of a choice by patterns. -/
def readArms : Nat → Read (List (List Word × Option Command))
  | 0 => mistake "word too long"
  | fuel + 1 => do
    let l ← readNext fuel ⟨true, true, false⟩
    if l.is "esac" then return []
    else
      let l ← if l.is "(" then readNext fuel .words else pure l
      let patterns ← readPatterns fuel l
      let body ← readList fuel .block none
      let l ← readNext fuel ⟨true, true, false⟩
      if l.is "esac" then return [(patterns, body)]
      else if l.is ";;" then return (patterns, body) :: (← readArms fuel)
      else unexpected l (some "\";;\"")

/-- The patterns of an arm, of which `first` is read. -/
def readPatterns : Nat → Lexeme → Read (List Word)
  | 0, _ => mistake "word too long"
  | fuel + 1, first => do
    let pattern : Word :=
      match first with
      | .word word => word
      | .symbol text => [.plain text]
      | _ => []
    let l ← readNext fuel .words
    if l.is "|" then
      let next ← readNext fuel .words
      return pattern :: (← readPatterns fuel next)
    else if l.is ")" then return [pattern]
    else unexpected l (some "\")\"")

/-- A simple command behind what is read of it, or the definition of a function. -/
def readSimple : Nat → Nat → List Word → List Word → List Redirect → Read Command
  | 0, _, _, _, _ => mistake "word too long"
  | fuel + 1, line, assignments, words, redirects => do
    let isFirst := words.isEmpty
    let l ← readNext fuel ⟨false, false, isFirst⟩
    let here := (← get).line
    let line := if isFirst && assignments.isEmpty && redirects.isEmpty then here else line
    match l with
    | .word word =>
      if isFirst && (assignment? word).isSome then
        readSimple fuel line (assignments ++ [word]) words redirects
      else readSimple fuel line assignments (words ++ [word]) redirects
    | .redirection fd direction strip =>
      let redirect ← readTarget fuel fd direction strip
      readSimple fuel line assignments words (redirects ++ [redirect])
    | l =>
      match words, assignments, redirects, l.is "(" with
      | [word], [], [], true =>
        let l ← readNext fuel .words
        if !l.is ")" then unexpected l (some "\")\"")
        match word with
        | [.plain name] =>
          if !Octets.isName name || specialCommands.contains name then mistake "Bad function name"
          let next ← readNext fuel .start
          putBack next
          let line := (← get).line
          return .define line name (← readCommand fuel)
        | _ => mistake "Bad function name"
      | _, _, _, _ =>
        putBack l
        return .simple line assignments words redirects

end

/-- What stands next in a script. -/
inductive Next where
  /-- Its end. -/
  | finish
  /-- A line, which may hold no command.  It is the last one if nothing stands
      behind it. -/
  | command (command : Option Command) (isLast : Bool)

/-- What stands next in a script, and the place behind it. -/
def Reader.next? (r : Reader) : Except Complaint (Next × Reader) := do
  let fuel := 8 * (r.rest.length + r.aliases.length * 64) + 64
  let (command, r) ← (readList fuel .line none).run { r with back := none, pending := [] }
  let atEnd := match r.back with | some .endOfFile => true | _ => false
  if atEnd && command.isNone then return (.finish, r)
  else return (.command command atEnd, r)

end Shell

end FlowLens
