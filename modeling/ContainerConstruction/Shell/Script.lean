import ContainerConstruction.Shell.Token

/-!
# Shell scripts

`Command.ofScript?` reads the commands of a script.  Background commands are not part of the language: a
script that uses one is refused as a whole, like any other that cannot be read.
-/

namespace ContainerConstruction.Shell

/-- Tokens with their lines. -/
abbrev Tokens : Type := List (Nat × Token)

/-! ## Words with a meaning of their own -/

/-- The text of a word without any quoting. -/
def bareText (word : Word) : Option String :=
  String.ofList <$> word.mapM fun | .plain c => some c | _ => none

/-- The bare word that tokens begin with. -/
def leadingWord : Tokens → Option String
  | (_, .word word) :: _ => bareText word
  | _ => none

/-- The words that end a list of commands. -/
def closingWords : List String := ["then", "else", "elif", "fi", "do", "done", "esac", "\x7d"]

/-- Whether tokens begin with what ends a list of commands. -/
def isClosing (tokens : Tokens) : Bool :=
  match tokens with
  | [] => true
  | (_, .operator ")") :: _ | (_, .operator ";;") :: _ => true
  | _ => ((leadingWord tokens).map closingWords.contains).getD false

/-- The words that begin a command put together of others. -/
def openingWords : List String := ["\x7b", "if", "while", "until", "for", "case"]

/-- Whether tokens begin with a command put together of others. -/
def startsCompound (tokens : Tokens) : Bool :=
  match tokens with
  | (_, .operator "(") :: _ => true
  | _ => ((leadingWord tokens).map openingWords.contains).getD false

/-- Takes a certain word off. -/
def expectWord (expected : String) (tokens : Tokens) : Option Tokens :=
  if leadingWord tokens = some expected then some tokens.tail else none

def skipNewlines (tokens : Tokens) : Tokens := tokens.dropWhile (·.2 = .newline)

def skipOperator (symbol : String) (tokens : Tokens) : Tokens :=
  match tokens with
  | (_, .operator found) :: rest => if found = symbol then rest else tokens
  | _ => tokens

/-- The name of the function whose definition tokens begin with, and what stands behind it. -/
def definedFunction : Tokens → Option (String × Tokens)
  | (_, .word word) :: (_, .operator "(") :: (_, .operator ")") :: rest => do
    let name ← bareText word
    return (name, skipNewlines rest)
  | _ => none

/-- The patterns of a branch up to the closing parenthesis. -/
def readPatterns : Tokens → Option (List Word × Tokens)
  | (_, .word word) :: (_, .operator "|") :: rest =>
    (readPatterns rest).map fun (others, rest) ↦ (word :: others, rest)
  | (_, .word word) :: (_, .operator ")") :: rest => some ([word], rest)
  | _ => none

/-- The name that a word assigns to, and the value. -/
def assignment? (word : Word) : Option (String × Word) :=
  let isName : Piece → Bool
    | .plain c => continuesName c
    | _ => false
  match word.span isName with
  | (.plain c :: name, .plain '=' :: value) =>
    if startsName c then (bareText (.plain c :: name)).map (·, value) else none
  | _ => none

/-! ## Commands -/

/-- Adds a redirection to the front. -/
def readRedirections : Tokens → Option (List Redirection × Tokens)
  | (_, .redirection descriptor kind) :: (_, .word target) :: rest =>
    (readRedirections rest).map fun (others, rest) ↦ (⟨descriptor, kind, target⟩ :: others, rest)
  | (_, .redirection ..) :: _ => none
  | tokens => some ([], tokens)

/-- Reads on in a simple command, of which nothing but assignments may have been read so far. -/
def readSimple (onlyAssignments : Bool) (sofar : Simple) : Tokens → Option (Simple × Tokens)
  | (_, .redirection descriptor kind) :: (_, .word target) :: rest =>
    readSimple onlyAssignments
      { sofar with redirections := sofar.redirections ++ [⟨descriptor, kind, target⟩] } rest
  | (_, .redirection ..) :: _ => none
  | (_, .word word) :: rest =>
    match onlyAssignments, assignment? word with
    | true, some binding =>
      readSimple true { sofar with assignments := sofar.assignments ++ [binding] } rest
    | _, _ => readSimple false { sofar with words := sofar.words ++ [word] } rest
  | tokens => some (sofar, tokens)

/-- Whether a simple command says nothing. -/
def Simple.isEmpty (command : Simple) : Bool :=
  command.words.isEmpty && command.assignments.isEmpty && command.redirections.isEmpty

/-- The words up to the end of a line. -/
def readWords : Tokens → List Word × Tokens
  | (_, .word word) :: rest => let (words, rest) := readWords rest; (word :: words, rest)
  | tokens => ([], tokens)

/-- The words that a loop goes through: all arguments, if none are given. -/
def readValues (tokens : Tokens) : List Word × Tokens :=
  match expectWord "in" (skipNewlines tokens) with
  | some rest => readWords rest
  | none => ([[.parameter "@" true]], tokens)

def redirect (line : Nat) (command : Command) : List Redirection → Command
  | [] => command
  | redirections => .redirected line command redirections

mutual

/-- Reads commands up to what ends a list. -/
def readList : (fuel : Nat) → Tokens → Option (Command × Tokens)
  | 0, _ => none
  | fuel + 1, tokens =>
    let tokens := skipNewlines tokens
    if isClosing tokens then some (.nothing, tokens)
    else do
      let (first, rest) ← readChain fuel tokens
      match rest with
      | (_, .operator ";") :: rest | (_, .newline) :: rest => do
        let (second, rest) ← readList fuel rest
        return (.sequence first second, rest)
      | _ => if isClosing rest then return (first, rest) else none

/-- Reads pipelines with conditions between them. -/
def readChain : (fuel : Nat) → Tokens → Option (Command × Tokens)
  | 0, _ => none
  | fuel + 1, tokens => do
    let (first, rest) ← readPipeline fuel tokens
    continueChain fuel first rest

/-- Reads on behind a pipeline. -/
def continueChain : (fuel : Nat) → Command → Tokens → Option (Command × Tokens)
  | 0, _, _ => none
  | fuel + 1, first, (_, .operator "&&") :: rest => do
    let (second, rest) ← readPipeline fuel (skipNewlines rest)
    continueChain fuel (.both first second) rest
  | fuel + 1, first, (_, .operator "||") :: rest => do
    let (second, rest) ← readPipeline fuel (skipNewlines rest)
    continueChain fuel (.either first second) rest
  | _ + 1, first, rest => some (first, rest)

def readPipeline : (fuel : Nat) → Tokens → Option (Command × Tokens)
  | 0, _ => none
  | fuel + 1, tokens =>
    if leadingWord tokens = some "!" then do
      let (command, rest) ← readPipeline fuel tokens.tail
      return (.negation command, rest)
    else do
      let (first, rest) ← readCommand fuel tokens
      match rest with
      | (_, .operator "|") :: rest => do
        let (second, rest) ← readPipeline fuel (skipNewlines rest)
        return (.pipe first second, rest)
      | _ => return (first, rest)

/-- Reads what follows the test of a condition. -/
def readBranches : (fuel : Nat) → Tokens → Option (Command × Tokens)
  | 0, _ => none
  | fuel + 1, tokens =>
    match leadingWord tokens with
    | some "fi" => some (.nothing, tokens.tail)
    | some "else" => do
      let (body, rest) ← readList fuel tokens.tail
      return (body, ← expectWord "fi" rest)
    | some "elif" => readChoice fuel tokens.tail
    | _ => none

/-- Reads a condition behind its first word. -/
def readChoice : (fuel : Nat) → Tokens → Option (Command × Tokens)
  | 0, _ => none
  | fuel + 1, tokens => do
    let (test, rest) ← readList fuel tokens
    let (body, rest) ← readList fuel (← expectWord "then" rest)
    let (otherwise, rest) ← readBranches fuel rest
    return (.choice test body otherwise, rest)

def readBody : (fuel : Nat) → Tokens → Option (Command × Tokens)
  | 0, _ => none
  | fuel + 1, tokens => do
    let (body, rest) ← readList fuel (← expectWord "do" tokens)
    return (body, ← expectWord "done" rest)

/-- Reads a command that is put together of others. -/
def readCompound : (fuel : Nat) → Tokens → Option (Command × Tokens)
  | 0, _ => none
  | fuel + 1, (_, .operator "(") :: tokens => do
    match ← readList fuel tokens with
    | (body, (_, .operator ")") :: rest) => return (.subshell body, rest)
    | _ => none
  | fuel + 1, tokens =>
    match leadingWord tokens with
    | some "\x7b" => do
      let (body, rest) ← readList fuel tokens.tail
      return (body, ← expectWord "\x7d" rest)
    | some "if" => readChoice fuel tokens.tail
    | some "while" => do
      let (test, rest) ← readList fuel tokens.tail
      let (body, rest) ← readBody fuel rest
      return (.loop false test body, rest)
    | some "until" => do
      let (test, rest) ← readList fuel tokens.tail
      let (body, rest) ← readBody fuel rest
      return (.loop true test body, rest)
    | some "for" => do
      let name ← leadingWord tokens.tail
      let (words, rest) := readValues (tokens.drop 2)
      let (body, rest) ← readBody fuel (skipNewlines (skipOperator ";" rest))
      return (.iteration name words body, rest)
    | some "case" =>
      match tokens.tail with
      | (line, .word word) :: rest => do
        let (branches, rest) ← readAlternatives fuel (← expectWord "in" (skipNewlines rest))
        return (.selection line word branches, rest)
      | _ => none
    | _ => none

def readAlternatives : (fuel : Nat) → Tokens → Option (List (List Word × Command) × Tokens)
  | 0, _ => none
  | fuel + 1, tokens =>
    let tokens := skipNewlines tokens
    if leadingWord tokens = some "esac" then some ([], tokens.tail)
    else do
      let (patterns, rest) ← readPatterns (skipOperator "(" tokens)
      let (body, rest) ← readList fuel rest
      let (others, rest) ← readAlternatives fuel (skipOperator ";;" rest)
      return ((patterns, body) :: others, rest)

/-- Reads a single command with its redirections. -/
def readCommand : (fuel : Nat) → Tokens → Option (Command × Tokens)
  | 0, _ => none
  | _ + 1, [] => none
  | fuel + 1, (line, token) :: rest =>
    let tokens := (line, token) :: rest
    if startsCompound tokens then do
      let (command, rest) ← readCompound fuel tokens
      let (redirections, rest) ← readRedirections rest
      return (redirect line command redirections, rest)
    else if isClosing tokens then none
    else
      match definedFunction tokens with
      | some (name, rest) => do
        let (body, rest) ← readCommand fuel rest
        return (.definition name body, rest)
      | none => do
        let (simple, rest) ← readSimple true ⟨line, [], [], []⟩ tokens
        if simple.isEmpty then none else return (.simple simple, rest)

end

/-- The commands of a script. -/
def Command.ofScript? (script : String) : Option Command := do
  let tokens ← tokensOf? script
  match ← readList (6 * tokens.length + 6) tokens with
  | (command, []) => return command
  | _ => none

end ContainerConstruction.Shell
