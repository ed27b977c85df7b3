import ContainerConstruction.Shell.Syntax

/-!
# Shell tokens

A script is cut into words, operators and the beginnings of redirections, each with the line it stands
on.  `tokensOf?` gives nothing for a text that cannot be cut, such as one with an open quote.
-/

namespace ContainerConstruction.Shell

inductive Token where
  | word (pieces : Word)
  | operator (symbol : String)
  | redirection (descriptor : Nat) (kind : RedirectionKind)
  | newline
  deriving DecidableEq, Repr

/-! ## Brackets -/

/-- The quotes around a character. -/
inductive Quotes where
  | none
  | single
  | double
  deriving DecidableEq, Repr

/-- The text up to the bracket that closes one, and what stands behind that bracket.  Brackets in quotes
do not count. -/
def bracketed (opening close : Char) : (depth : Nat) → Quotes → List Char → Option (List Char × List Char)
  | _, _, [] => none
  | depth, .single, c :: rest =>
    (bracketed opening close depth (if c = '\'' then .none else .single) rest).map fun (inner, behind) ↦
      (c :: inner, behind)
  | depth, quotes, '\\' :: c :: rest =>
    (bracketed opening close depth quotes rest).map fun (inner, behind) ↦ ('\\' :: c :: inner, behind)
  | depth, .double, c :: rest =>
    (bracketed opening close depth (if c = '"' then .none else .double) rest).map fun (inner, behind) ↦
      (c :: inner, behind)
  | depth, .none, c :: rest =>
    if c = close && depth = 0 then some ([], rest)
    else
      let quotes : Quotes := if c = '\'' then .single else if c = '"' then .double else .none
      let depth := if c = opening then depth + 1 else if c = close then depth - 1 else depth
      (bracketed opening close depth quotes rest).map fun (inner, behind) ↦ (c :: inner, behind)

theorem bracketed_length {opening close : Char} {depth : Nat} {quotes : Quotes}
    {text inner behind : List Char} (h : bracketed opening close depth quotes text = some (inner, behind)) :
    behind.length < text.length := by
  induction depth, quotes, text using bracketed.induct opening close generalizing inner behind with
  | case1 => simp [bracketed] at h
  | case2 depth c rest ih =>
    simp only [bracketed, Option.map_eq_some_iff, Prod.mk.injEq] at h
    obtain ⟨⟨_, _⟩, found, _, rfl⟩ := h
    have := ih found
    simp only [List.length_cons]
    omega
  | case3 depth quotes c rest hs ih =>
    rw [bracketed] at h
    · simp only [Option.map_eq_some_iff, Prod.mk.injEq] at h
      obtain ⟨⟨_, _⟩, found, _, rfl⟩ := h
      have := ih found
      simp only [List.length_cons]
      omega
    · exact hs
  | case4 depth c rest hs ih =>
    rw [bracketed] at h
    · simp only [Option.map_eq_some_iff, Prod.mk.injEq] at h
      obtain ⟨⟨_, _⟩, found, _, rfl⟩ := h
      have := ih found
      simp only [List.length_cons]
      omega
    · exact hs
  | case5 depth c rest hs hclose =>
    rw [bracketed] at h
    · simp only [hclose, if_true, Option.some.injEq, Prod.mk.injEq] at h
      obtain ⟨_, rfl⟩ := h
      simp
    · exact hs
  | case6 depth c rest hs hclose quotes =>
    rename_i ih
    rw [bracketed] at h
    · simp only [hclose, Bool.false_eq_true, if_false, Option.map_eq_some_iff, Prod.mk.injEq] at h
      obtain ⟨⟨_, _⟩, found, _, rfl⟩ := h
      have := ih found
      simp only [List.length_cons]
      omega
    · exact hs

/-- The text up to a mark that no backslash stands before, and what stands behind it.  A backslash
before a mark, a dollar sign or a backslash is dropped. -/
def untilMark (mark : Char) : List Char → Option (List Char × List Char)
  | [] => none
  | '\\' :: c :: rest =>
    (untilMark mark rest).map fun (inner, behind) ↦
      (if c = mark || c = '$' || c = '\\' then c :: inner else '\\' :: c :: inner, behind)
  | c :: rest =>
    if c = mark then some ([], rest)
    else (untilMark mark rest).map fun (inner, behind) ↦ (c :: inner, behind)

theorem untilMark_length {mark : Char} {text inner behind : List Char}
    (h : untilMark mark text = some (inner, behind)) : behind.length < text.length := by
  fun_induction untilMark mark text generalizing inner behind with
  | case1 => simp at h
  | case2 c rest ih =>
    simp only [Option.map_eq_some_iff, Prod.mk.injEq] at h
    obtain ⟨⟨_, _⟩, found, _, rfl⟩ := h
    have := ih found
    simp only [List.length_cons]
    omega
  | case3 rest =>
    simp only [Option.some.injEq, Prod.mk.injEq] at h
    obtain ⟨_, rfl⟩ := h
    simp
  | case4 c rest _ _ ih =>
    simp only [Option.map_eq_some_iff, Prod.mk.injEq] at h
    obtain ⟨⟨_, _⟩, found, _, rfl⟩ := h
    have := ih found
    simp only [List.length_cons]
    omega

/-! ## Words -/

/-- What surrounds the next character of a word. -/
inductive Context where
  /-- A word that ends at a blank or an operator. -/
  | bare
  /-- A word that is the whole text. -/
  | whole
  /-- A whole text in which quotes are characters like others. -/
  | document
  | single (outer : Context)
  | double (outer : Context)
  /-- A parameter's name, with what has been read of it in reverse. -/
  | name (reversed : List Char) (outer : Context)
  deriving DecidableEq, Repr

namespace Context

/-- How many contexts are open, which may close without a character. -/
def rank : Context → Nat
  | .name _ outer => outer.rank + 1
  | .single outer | .double outer => outer.rank + 1
  | _ => 0

/-- Whether a character stands for itself and a parameter is one word. -/
def isQuoted : Context → Bool
  | .document | .single _ | .double _ => true
  | .name _ outer => outer.isQuoted
  | .bare | .whole => false

/-- The characters that a backslash takes the meaning from, where it does so for some only. -/
def escapable : Context → List Char
  | .double _ => ['$', '\x60', '"', '\\']
  | _ => ['$', '\x60', '\\']

end Context

def isMeta (c : Char) : Bool := " \t\n;&|<>()".toList.contains c

def startsName (c : Char) : Bool := c.isAlpha || c = '_'

def continuesName (c : Char) : Bool := c.isAlphanum || c = '_'

/-- Whether a character is the name of a parameter by itself. -/
def isSpecialParameter (c : Char) : Bool := c.isDigit || "@*#?$!-".toList.contains c

/-- The parameter of a name that was read in reverse. -/
def parameterOf (reversed : List Char) (quoted : Bool) : Piece :=
  .parameter (String.ofList reversed.reverse) quoted

def literal (quoted : Bool) (c : Char) : Piece := if quoted then .quoted c else .plain c

/-- Adds a piece to the word that was read behind it. -/
def withPiece (piece : Piece) : Option (Word × List Char) → Option (Word × List Char) :=
  Option.map fun (word, rest) ↦ (piece :: word, rest)

/-- The name of a parameter that a text begins with, and what stands behind it. -/
def leadingName : List Char → Option (List Char × List Char)
  | [] => none
  | c :: rest =>
    if startsName c then some (c :: rest.takeWhile continuesName, rest.dropWhile continuesName)
    else if isSpecialParameter c then some ([c], rest)
    else none

/-- The piece of a parameter in braces. -/
def bracedPiece (quoted : Bool) (inner : List Char) : Option Piece :=
  match inner, leadingName inner with
  | '#' :: c :: rest, _ =>
    if startsName c && rest.all continuesName then some (.length (String.ofList (c :: rest))) else none
  | _, some (name, []) => some (.parameter (String.ofList name) quoted)
  | _, some (name, operation) => some (.operation (String.ofList name) (String.ofList operation) quoted)
  | _, none => none

/-- The piece of a dollar sign with a text in parentheses: an expression if it is in parentheses once
more, and commands otherwise. -/
def parenthesizedPiece (quoted : Bool) (inner : List Char) : Piece :=
  match inner with
  | '(' :: rest =>
    if rest.getLast? = some ')' then .arithmetic (String.ofList rest.dropLast)
    else .substitution (String.ofList inner) quoted
  | _ => .substitution (String.ofList inner) quoted

/-- Reads a word, and gives what stands behind it. -/
def scanWord (context : Context) (text : List Char) : Option (Word × List Char) :=
  match context, text with
  | .single _, [] => none
  | .single outer, '\'' :: rest => scanWord outer rest
  | .single outer, c :: rest => withPiece (.quoted c) (scanWord (.single outer) rest)
  | .name reversed outer, [] => withPiece (parameterOf reversed outer.isQuoted) (scanWord outer [])
  | .name reversed outer, c :: rest =>
    if continuesName c then scanWord (.name (c :: reversed) outer) rest
    else withPiece (parameterOf reversed outer.isQuoted) (scanWord outer (c :: rest))
  | .double _, [] => none
  | _, [] => some ([], [])
  | .double outer, '"' :: rest => scanWord outer rest
  | context, '\\' :: '\n' :: rest => scanWord context rest
  | context, '\\' :: c :: rest =>
    if !context.isQuoted || context.escapable.contains c then
      withPiece (.quoted c) (scanWord context rest)
    else withPiece (.quoted '\\') (withPiece (.quoted c) (scanWord context rest))
  | context, '\x60' :: rest =>
    match _h : untilMark '\x60' rest with
    | none => none
    | some (inner, behind) =>
      withPiece (.substitution (String.ofList inner) context.isQuoted) (scanWord context behind)
  | context, '$' :: '\x7b' :: rest =>
    match _h : bracketed '\x7b' '\x7d' 0 .none rest with
    | none => none
    | some (inner, behind) =>
      match bracedPiece context.isQuoted inner with
      | none => none
      | some piece => withPiece piece (scanWord context behind)
  | context, '$' :: '(' :: rest =>
    match _h : bracketed '(' ')' 0 .none rest with
    | none => none
    | some (inner, behind) =>
      withPiece (parenthesizedPiece context.isQuoted inner) (scanWord context behind)
  | context, '$' :: c :: rest =>
    if startsName c then scanWord (.name [c] context) rest
    else if isSpecialParameter c then
      withPiece (.parameter (String.singleton c) context.isQuoted) (scanWord context rest)
    else withPiece (literal context.isQuoted '$') (scanWord context (c :: rest))
  | context, c :: rest =>
    if context = .bare && isMeta c then some ([], c :: rest)
    else if context.isQuoted then withPiece (.quoted c) (scanWord context rest)
    else if c = '"' then withPiece .quotes (scanWord (.double context) rest)
    else if c = '\'' then withPiece .quotes (scanWord (.single context) rest)
    else withPiece (.plain c) (scanWord context rest)
termination_by (text.length, context.rank)
decreasing_by
  all_goals try have := untilMark_length _h
  all_goals try have := bracketed_length _h
  all_goals simp only [Prod.lex_def, List.length_cons, Context.rank, List.length_nil, true_and] at *
  all_goals omega

def wholeWord (context : Context) (text : String) : Option Word :=
  match scanWord context text.toList with
  | some (word, []) => some word
  | _ => none

/-! ## Documents -/

/-- The lines of a document up to the one that closes it, and what stands behind that line. -/
def documentLines (mark : List Char) (dropTabs : Bool) : (fuel : Nat) → List Char → List Char × List Char
  | 0, text => ([], text)
  | _ + 1, [] => ([], [])
  | fuel + 1, text =>
    let line := text.takeWhile (· ≠ '\n')
    let behind := (text.dropWhile (· ≠ '\n')).drop 1
    let line := if dropTabs then line.dropWhile (· = '\t') else line
    if line = mark then ([], behind)
    else
      let (lines, behind) := documentLines mark dropTabs fuel behind
      (line ++ '\n' :: lines, behind)

/-- The text that the word of a document stands for, and whether any of it is quoted. -/
def documentMark (word : Word) : List Char × Bool :=
  let char? : Piece → Option Char
    | .plain c | .quoted c => some c
    | _ => none
  (word.filterMap char?, word.any fun piece ↦ match piece with
    | .plain _ => false
    | _ => true)

def documentWord (isQuoted : Bool) (lines : List Char) : Option Word :=
  if isQuoted then some (lines.map .quoted) else wholeWord .document (String.ofList lines)

/-! ## Scripts -/

/-- The descriptor that a word of digits names. -/
def descriptorOf (word : Word) : Option Nat :=
  match word.mapM (fun | .plain c => if c.isDigit then some c else none | _ => none) with
  | some (c :: digits) => (String.ofList (c :: digits)).toNat?
  | _ => none

/-- The kind of a redirection that a text begins with, and what stands behind its operator. -/
def redirection? : List Char → Option (RedirectionKind × List Char)
  | '>' :: '>' :: rest => some (.append, rest)
  | '>' :: '|' :: rest => some (.output, rest)
  | '>' :: '&' :: rest => some (.duplicate, rest)
  | '>' :: rest => some (.output, rest)
  | '<' :: '&' :: rest => some (.duplicate, rest)
  | '<' :: '<' :: rest => some (.document, rest)
  | '<' :: rest => some (.input, rest)
  | _ => none

/-- The descriptor of a redirection that names none. -/
def usualDescriptor (text : List Char) : Nat := if text.head? = some '<' then 0 else 1

/-- The operator that a text begins with, and what stands behind it. -/
def operator? : List Char → Option (String × List Char)
  | ';' :: ';' :: rest => some (";;", rest)
  | '&' :: '&' :: rest => some ("&&", rest)
  | '|' :: '|' :: rest => some ("||", rest)
  | ';' :: rest => some (";", rest)
  | '|' :: rest => some ("|", rest)
  | '(' :: rest => some ("(", rest)
  | ')' :: rest => some (")", rest)
  | _ => none

/-- The tokens of a redirection, and what stands behind it.  A document is taken out of the lines behind
the present one. -/
def redirectionTokens (line descriptor : Nat) (text : List Char) :
    Option (List (Nat × Token) × List Char) := do
  match ← redirection? text with
  | (.document, rest) => do
    let dropTabs := rest.head? = some '-'
    let rest := (if dropTabs then rest.drop 1 else rest).dropWhile (· = ' ')
    let (word, rest) ← scanWord .bare rest
    let (mark, isQuoted) := documentMark word
    let (lines, behind) := documentLines mark dropTabs (rest.length + 1)
      ((rest.dropWhile (· ≠ '\n')).drop 1)
    let body ← documentWord isQuoted lines
    return ([(line, .redirection descriptor .document), (line, .word body)],
      rest.takeWhile (· ≠ '\n') ++ '\n' :: behind)
  | (kind, rest) => return ([(line, .redirection descriptor kind)], rest)

/-- Cuts a text into tokens with their lines, with as many steps as `fuel` allows. -/
def tokens : (fuel line : Nat) → List Char → Option (List (Nat × Token))
  | 0, _, _ => none
  | _ + 1, _, [] => some []
  | fuel + 1, line, '\n' :: rest => ((line, .newline) :: ·) <$> tokens fuel (line + 1) rest
  | fuel + 1, line, '#' :: rest => tokens fuel line (rest.dropWhile (· ≠ '\n'))
  | fuel + 1, line, c :: rest =>
    if c = ' ' || c = '\t' then tokens fuel line rest
    else if c = '\\' && rest.head? = some '\n' then tokens fuel (line + 1) (rest.drop 1)
    else if c = '<' || c = '>' then do
      let (found, behind) ← redirectionTokens line (usualDescriptor (c :: rest)) (c :: rest)
      (found ++ ·) <$> tokens fuel line behind
    else if isMeta c then do
      let (symbol, behind) ← operator? (c :: rest)
      ((line, .operator symbol) :: ·) <$> tokens fuel line behind
    else do
      let (word, behind) ← scanWord .bare (c :: rest)
      match descriptorOf word, behind with
      | some descriptor, d :: _ =>
        if d = '<' || d = '>' then
          let (found, behind) ← redirectionTokens line descriptor behind
          (found ++ ·) <$> tokens fuel line behind
        else ((line, .word word) :: ·) <$> tokens fuel line behind
      | _, _ => ((line, .word word) :: ·) <$> tokens fuel line behind

def tokensOf? (script : String) : Option (List (Nat × Token)) :=
  tokens (script.toList.length + 2) 1 script.toList

end ContainerConstruction.Shell
