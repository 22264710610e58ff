import JvmSource.Pattern.Input

/-!
# Reading patterns

The written form of patterns: literals, classes in brackets with set operations, groups, flags,
anchors, and greedy or lazy repetition. A text that is no pattern has no reading.
-/

namespace JvmSource.Pattern

/-- The deepest nesting that a pattern may have. -/
def maxHeight : Nat := 250

/-- Characters with a meaning of their own, which a backslash takes away. -/
def isMeta (c : Char) : Bool := "\\.+*?()|[]\x7b\x7d^$#&-~".toList.contains c

/-- Characters that may stand after a backslash for themselves: the special ones, and every ASCII
character that is neither a letter, a digit nor an angle bracket. -/
def isEscapable (c : Char) : Bool :=
  isMeta c || (Unicode.isAscii c && !c.isAlphanum && c != '<' && c != '>')

/-- Characters that the name of a group may start with. -/
def startsName (c : Char) : Bool := c == '_' || Unicode.isAlphabetic c

/-- Characters that the name of a group may go on with. -/
def continuesName (c : Char) : Bool :=
  c == '_' || c == '.' || c == '[' || c == ']' || Unicode.isAlphabetic c || Unicode.isNumber c

/-- Reads what may follow `\b` to make it a one-sided word boundary. Braces that hold no letter are
left for the repetition they are. -/
def readBoundary? (input : Input) : Option (Expr × Input) :=
  let plain := (Expr.assertion .wordBoundary, input)
  let isNamePart c := c.isAlpha || c == '-'
  match input.rest with
  | '{' :: _ =>
    let inside := input.next
    match inside.rest with
    | [] => none
    | c :: _ =>
      if !isNamePart c then some plain
      else
        let (name, after) := inside.readWhile isNamePart inside.rest.length
        if after.rest.head? != some '}' then none
        else if name = "start".toList then some (.assertion .wordStart, after.drop 1)
        else if name = "end".toList then some (.assertion .wordEnd, after.drop 1)
        else if name = "start-half".toList then some (.assertion .wordStartHalf, after.drop 1)
        else if name = "end-half".toList then some (.assertion .wordEndHalf, after.drop 1)
        else none
  | _ => some plain

/-- Reads the name of a character property: one letter, or the text between braces. -/
def readProperty? (negated : Bool) (input : Input) : Option (Expr × Input) :=
  match input.rest with
  | [] => none
  | '\\' :: _ => none
  | '{' :: _ =>
    let inside := input.next
    let (name, after) := inside.readWhile (· != '}') inside.rest.length
    match after.rest with
    | '}' :: _ => some (.property name negated, after.drop 1)
    | _ => none
  | c :: _ => some (.property [c] negated, input.next)

/-- Reads an escape, of which the input holds the part after the backslash. -/
def readEscape? (input : Input) : Option (Expr × Input) :=
  let one c := some (Expr.literal ⟨c, false⟩, input.drop 1)
  let hex width := do
    let (c, after) ← readCodePoint? width input.next
    let byte := width == 2 && input.next.rest.head? != some '{'
    return (Expr.literal ⟨c, byte⟩, after)
  match input.rest with
  | [] => none
  | 'x' :: _ => hex 2
  | 'u' :: _ => hex 4
  | 'U' :: _ => hex 8
  | 'p' :: _ => readProperty? false input.next
  | 'P' :: _ => readProperty? true input.next
  | 'd' :: _ => some (.letter .digit false, input.drop 1)
  | 's' :: _ => some (.letter .space false, input.drop 1)
  | 'w' :: _ => some (.letter .word false, input.drop 1)
  | 'D' :: _ => some (.letter .digit true, input.drop 1)
  | 'S' :: _ => some (.letter .space true, input.drop 1)
  | 'W' :: _ => some (.letter .word true, input.drop 1)
  | 'a' :: _ => one '\x07'
  | 'f' :: _ => one '\x0C'
  | 't' :: _ => one '\t'
  | 'n' :: _ => one '\n'
  | 'r' :: _ => one '\r'
  | 'v' :: _ => one '\x0B'
  | 'A' :: _ => some (.assertion .textStart, input.drop 1)
  | 'z' :: _ => some (.assertion .textEnd, input.drop 1)
  | 'b' :: _ => readBoundary? (input.drop 1)
  | 'B' :: _ => some (.assertion .notWordBoundary, input.drop 1)
  | '<' :: _ => some (.assertion .wordStart, input.drop 1)
  | '>' :: _ => some (.assertion .wordEnd, input.drop 1)
  | c :: _ => if isEscapable c then one c else none

/-! ## Classes -/

/-- The class with a POSIX name. -/
def posixClass? (name : Text) : Option PosixClass :=
  [("alnum".toList, PosixClass.alnum), ("alpha".toList, .alpha), ("ascii".toList, .ascii),
    ("blank".toList, .blank), ("cntrl".toList, .cntrl), ("digit".toList, .digit),
    ("graph".toList, .graph), ("lower".toList, .lower), ("print".toList, .print),
    ("punct".toList, .punct), ("space".toList, .space), ("upper".toList, .upper),
    ("word".toList, .word), ("xdigit".toList, .xdigit)].lookup name

/-- Reads a class such as `[:alpha:]`, if there is one here. -/
def readPosix? (input : Input) : Option (SetExpr × Input) :=
  match input.rest with
  | '[' :: ':' :: inside =>
    let negated := inside.head? == some '^'
    let named := if negated then inside.drop 1 else inside
    let name := named.takeWhile (· != ':')
    match named.drop name.length with
    | ':' :: ']' :: rest =>
      (posixClass? name).map fun kind => (.posix kind negated, { input with rest })
    | _ => none
  | _ => none

/-- Reads one character or escape inside brackets. -/
def readSetItem? (input : Input) : Option (Expr × Input) :=
  match input.rest with
  | [] => none
  | '\\' :: _ => readEscape? (input.drop 1)
  | c :: _ => some (.literal ⟨c, false⟩, input.drop 1)

/-- The set that an item inside brackets stands for. -/
def setOf? : Expr → Option SetExpr
  | .literal l => some (.literal l)
  | .letter kind negated => some (.letter kind negated)
  | .property name negated => some (.property name negated)
  | _ => none

/-- Reads an item inside brackets or a range of characters. -/
def readSetRange? (input : Input) : Option (SetExpr × Input) := do
  let (first, input) ← readSetItem? input
  let input := input.skip
  match input.rest with
  | [] => none
  | '-' :: _ =>
    if input.second? == some ']' || input.second? == some '-' then
      return (← setOf? first, input)
    else
      let (last, input) ← readSetItem? input.next
      match first, last with
      | .literal first, .literal last =>
        if first.char ≤ last.char then return (.range first last, input) else none
      | _, _ => none
  | _ => return (← setOf? first, input)

/-- The set of several items, joined to what stands before a set operator. -/
def closeSet (pending : Option (SetOperator × SetExpr)) (items : List SetExpr) : SetExpr :=
  let set := match items with
    | [] => .empty
    | [item] => item
    | items => .union items
  match pending with
  | none => set
  | some (operator, left) => .binary operator left set

/-- Reads the hyphens at the start of a bracket. -/
def readHyphens : (bound : Nat) → Input → List SetExpr × Input
  | 0, input => ([], input)
  | bound + 1, input =>
    match input.rest with
    | '-' :: _ =>
      let (items, input) := readHyphens bound input.next
      (.literal ⟨'-', false⟩ :: items, input)
    | _ => ([], input)

/-- Reads the start of a bracket: its negation, and the hyphens or the closing bracket that stand
for themselves there. -/
def readSetStart (input : Input) : Bool × List SetExpr × Input :=
  let input := input.next
  let negated := input.rest.head? == some '^'
  let input := if negated then input.next else input
  let (items, input) := readHyphens input.rest.length input
  if items.isEmpty && input.rest.head? == some ']' then
    (negated, [.literal ⟨']', false⟩], input.next)
  else (negated, items, input)

/-- Reads the inside of a bracket up to its end, with what has been read of it. -/
def readSet? : (bound : Nat) → Option (SetOperator × SetExpr) → List SetExpr → Input →
    Option (SetExpr × Input)
  | 0, _, _, _ => none
  | bound + 1, pending, items, input =>
    let input := input.skip
    let operator kind :=
      readSet? bound (some (kind, closeSet pending items)) [] (input.drop 2)
    match input.rest with
    | [] => none
    | ']' :: _ => some (closeSet pending items, input.drop 1)
    | '&' :: '&' :: _ => operator .intersection
    | '-' :: '-' :: _ => operator .difference
    | '~' :: '~' :: _ => operator .symmetricDifference
    | '[' :: _ =>
      match readPosix? input with
      | some (set, input) => readSet? bound pending (items ++ [set]) input
      | none => do
        let (negated, start, input) := readSetStart input
        let (set, input) ← readSet? bound none start input
        readSet? bound pending (items ++ [.bracketed set negated]) input
    | _ => do
      let (set, input) ← readSetRange? input
      readSet? bound pending (items ++ [set]) input

/-- Reads a bracket. -/
def readBracket? (input : Input) : Option (Expr × Input) := do
  let (negated, start, input) := readSetStart input
  let (set, input) ← readSet? (input.rest.length + 1) none start input
  return (.bracketed set negated, input)

/-! ## Groups and repetition -/

/-- The flag with a letter. -/
def flag? : Char → Option Flag
  | 'i' => some .caseless
  | 'm' => some .multiLine
  | 's' => some .dotAll
  | 'U' => some .swapGreed
  | 'u' => some .unicode
  | 'R' => some .returns
  | 'x' => some .verbose
  | _ => none

/-- Reads flags up to a colon or a closing parenthesis. No flag and no hyphen occurs twice, and a
hyphen is followed by a flag. -/
def readFlags? : (negative : Bool) → FlagChange → Text → Option (FlagChange × Text)
  | negative, change, '-' :: c :: rest =>
    if negative || c == ':' || c == ')' then none else readFlags? true change (c :: rest)
  | negative, change, c :: rest =>
    if c == ':' || c == ')' then some (change, c :: rest)
    else
      match flag? c with
      | none => none
      | some flag =>
        if change.any (·.1 == flag) then none
        else readFlags? negative (change ++ [(flag, !negative)]) rest
  | _, _, [] => none

/-- Reads the name of a group up to the closing angle bracket. -/
def readName? (text : Text) : Option (Text × Text) :=
  let name := text.takeWhile (· != '>')
  match name, text.drop name.length with
  | c :: more, _ :: rest =>
    if startsName c && more.all continuesName then some (name, rest) else none
  | _, _ => none

/-- The last value that a change gives to a flag. -/
def valueOf? (flag : Flag) (change : FlagChange) : Option Bool := change.lookup flag

/-- Repeats the last part. There must be one, and it must not be a change of flags. -/
def repeatLast? (least : Nat) (most : Option Nat) : List Expr → Option (List Expr)
  | [] => none
  | .flags _ :: _ => none
  | part :: parts => some (.repeated least most part :: parts)

/-- Drops the question mark that makes a repetition lazy. -/
def dropLazy (input : Input) : Input :=
  if input.rest.head? == some '?' then input.drop 1 else input

/-- Reads the bounds of a repetition. -/
def readBounds? (input : Input) : Option (Nat × Option Nat × Input) := do
  let inside := input.next
  if inside.rest.isEmpty then none
  let (least, after) ← readDecimal? inside
  match after.rest with
  | '}' :: _ => return (least, some least, dropLazy after.next)
  | ',' :: _ =>
    let after := after.next
    match after.rest with
    | '}' :: _ => return (least, none, dropLazy after.next)
    | _ =>
      let (most, after) ← readDecimal? after
      if after.rest.head? != some '}' || most < least then none
      else return (least, some most, dropLazy after.next)
  | _ => none

/-- The pattern of consecutive parts. -/
def sequenceOf : List Expr → Expr
  | [] => .empty
  | [part] => part
  | parts => .sequence parts

/-- The pattern of alternatives. -/
def eitherOf : List Expr → Expr
  | [branch] => branch
  | branches => .either branches

/-- What an opening parenthesis starts. -/
inductive GroupStart where
  /-- A change of flags for the rest of the enclosing group. -/
  | flags (change : FlagChange)
  /-- A group with flags of its own. -/
  | group (change : FlagChange)
  /-- A group that remembers what it matched. -/
  | capture

/-- Reads the start of a group. Look-around is no pattern. -/
def readGroupStart? (input : Input) : Option (GroupStart × Input) :=
  let input := (input.drop 1).skip
  let named rest := do
    let (name, rest) ← readName? rest
    if input.groupNames.contains name then none
    else return (GroupStart.capture, { input with rest, groupNames := name :: input.groupNames })
  match input.rest with
  | '?' :: '=' :: _ => none
  | '?' :: '!' :: _ => none
  | '?' :: '<' :: '=' :: _ => none
  | '?' :: '<' :: '!' :: _ => none
  | '?' :: 'P' :: '<' :: rest => named rest
  | '?' :: '<' :: rest => named rest
  | '?' :: rest => do
    let (change, rest) ← readFlags? false [] rest
    match rest with
    | ':' :: rest => return (.group change, { input with rest })
    | _ :: rest => if change.isEmpty then none else return (.flags change, { input with rest })
    | [] => none
  | _ => some (.capture, input)

mutual

/-- Reads alternatives up to a closing parenthesis or the end. -/
def readEither? : (bound : Nat) → List Expr → Input → Option (Expr × Input)
  | 0, _, _ => none
  | bound + 1, branches, input => do
    let (branch, input) ← readSequence? bound [] input
    match input.rest with
    | '|' :: _ => readEither? bound (branches ++ [branch]) (input.drop 1)
    | _ => return (eitherOf (branches ++ [branch]), input)

/-- Reads consecutive parts up to a bar, a closing parenthesis or the end. The parts read so far are
given with the last one first. -/
def readSequence? : (bound : Nat) → List Expr → Input → Option (Expr × Input)
  | 0, _, _ => none
  | bound + 1, parts, input =>
    let input := input.skip
    let more (part : Expr) (input : Input) := readSequence? bound (part :: parts) input
    let quantified (least : Nat) (most : Option Nat) (input : Input) := do
      readSequence? bound (← repeatLast? least most parts) input
    match input.rest with
    | [] => some (sequenceOf parts.reverse, input)
    | '|' :: _ => some (sequenceOf parts.reverse, input)
    | ')' :: _ => some (sequenceOf parts.reverse, input)
    | '(' :: _ => do
      let (start, inside) ← readGroupStart? input
      match start with
      | .flags change =>
        more (.flags change)
          { inside with verbose := (valueOf? .verbose change).getD input.verbose }
      | .group change =>
        let (body, after) ← readEither? bound []
          { inside with verbose := (valueOf? .verbose change).getD input.verbose }
        match after.rest with
        | ')' :: rest => more (.group change body) { after with rest, verbose := input.verbose }
        | _ => none
      | .capture =>
        let (body, after) ← readEither? bound [] inside
        match after.rest with
        | ')' :: rest => more (.capture body) { after with rest, verbose := input.verbose }
        | _ => none
    | '[' :: _ => do
      let (part, input) ← readBracket? input
      more part input
    | '?' :: _ => quantified 0 (some 1) (dropLazy (input.drop 1))
    | '*' :: _ => quantified 0 none (dropLazy (input.drop 1))
    | '+' :: _ => quantified 1 none (dropLazy (input.drop 1))
    | '{' :: _ => do
      let (least, most, input) ← readBounds? input
      quantified least most input
    | '\\' :: _ => do
      let (part, input) ← readEscape? (input.drop 1)
      more part input
    | '.' :: _ => more .dot (input.drop 1)
    | '^' :: _ => more (.assertion .lineStart) (input.drop 1)
    | '$' :: _ => more (.assertion .lineEnd) (input.drop 1)
    | c :: _ => more (.literal ⟨c, false⟩) (input.drop 1)

end

/-- Reads a whole text as a pattern. -/
def readExpr? (text : Text) : Option Expr := do
  let (expr, input) ← readEither? (3 * text.length + 3) [] ⟨false, [], text⟩
  if input.rest.isEmpty && expr.height ≤ maxHeight then return expr else none

end JvmSource.Pattern
